import DiagnosticFeed.Proofs.QuickFixes
import DiagnosticFeed.Proofs.Session.LastWord
import DiagnosticFeed.Proofs.Session.Targets

/-!
# Whose edits are offered

Fixes name the files that their edits are for, and a document that was analyzed in a snapshot is
named by the path of the snapshot. So the registry keeps this path as an alias of the document. A
document has an alias if and only if the publication with the last word on its name was read from a
snapshot, and from output that listed anything. The path of any other snapshot is that of a file
like all others: edits for it are passed over.
-/

namespace DiagnosticFeed

namespace Wire

/-! ## What an intake makes of aliases -/

section

variable {cwd : FilePath} {r : FixRegistry} {next : Nat} {d : Document} {t : Target}
  {stdout p : String}

theorem aliasesFor_enroll (uri uri' : String) (next : Nat) (r : FixRegistry) (fs : List Finding) :
    (enroll uri next r fs).2.aliasesFor uri' = r.aliasesFor uri' := by
  rw [FixRegistry.aliasesFor, aliases_enroll, FixRegistry.aliasesFor]

theorem mem_aliasesFor_withAliases (hnone : r.aliasesFor d.uri = []) :
    p ∈ (withAliases r d.uri t).aliasesFor d.uri ↔
      t.temporary = true ∧ Target.present? t.analysis = some p := by
  rw [withAliases]
  cases Target.present? t.analysis with
  | none => simp [hnone]
  | some q =>
    cases t.temporary with
    | false => simp [hnone]
    | true => simp [FixRegistry.aliasesFor_setAliases, List.eraseDups_cons, eq_comm]

/-- **An intake sets an alias** if it is of a snapshot and there are any items. -/
theorem mem_aliasesFor_intake (hnone : r.aliasesFor d.uri = []) :
    p ∈ (intake cwd r next d t stdout).registry.aliasesFor d.uri ↔
      (t.temporary = true ∧ Target.present? t.analysis = some p) ∧
        ∃ item found, Lists stdout (item :: found) := by
  by_cases hlists : ∃ found, Lists stdout found
  · obtain ⟨found, hfound⟩ := hlists
    rw [intake_of_lists hfound, aliasesFor_enroll]
    cases found with
    | nil =>
      rw [if_pos rfl, hnone]
      refine ⟨nofun, ?_⟩
      rintro ⟨-, item, found, hmore⟩
      have hitems := items_of_lists hfound
      rw [items_of_lists hmore] at hitems
      cases hitems
    | cons item found =>
      rw [if_neg (List.cons_ne_nil item found), mem_aliasesFor_withAliases hnone]
      exact ⟨fun h ↦ ⟨h, item, found, hfound⟩, And.left⟩
  · rw [not_exists] at hlists
    rw [(intake_of_not_lists hlists r next).2, hnone]
    refine ⟨nofun, ?_⟩
    rintro ⟨-, item, found, hmore⟩
    exact absurd hmore (hlists _)

theorem aliasesFor_intake_of_ne {uri : String} (hne : d.uri ≠ uri) :
    (intake cwd r next d t stdout).registry.aliasesFor uri = r.aliasesFor uri := by
  rw [intake]
  split
  · rfl
  · rfl
  · exact (aliasesFor_enroll ..).trans (sameAt_withAliases_of_ne hne r t).aliases

end

end Wire

namespace Session

/-! ## Where aliases come from -/

/-- What the analyzer printed for an attempt that is about to end with it. -/
def printed? (s : Session) (i : Nat) : Option String := do
  let a ← s.attempt? i
  let (_, _, answer) ← a.stage.answer?
  return answer.stdout

/-- A publication, after some actions, that was read from a snapshot with the normal form `p`, and
from output that listed any items. -/
structure ReadFrom (s₀ : Session) (past : List Action) (pub : Publication) (p : String) : Prop where
  snapshot : ∃ earlier later d, SnapshotAt s₀ past pub.id p earlier later d
  items : ∃ stdout item found, (s₀.after past).printed? pub.id = some stdout ∧
    Wire.Lists stdout (item :: found)

/-- A normal form that stands for a document: that of its own path, or that of the snapshot from
which the publication with the last word on its name was read. -/
def StandsFor (s₀ : Session) (acts : List Action) (d : Document) (p : String) : Prop :=
  Snapshot.documentPath? (s₀.after acts).cwd d = some p ∨
    ∃ past pub future, LastWord s₀ acts d.uri past pub future ∧ ReadFrom s₀ past pub p

section

variable {s₀ : Session} {acts past : List Action} {uri p : String} {d : Document} {t : Target}
  {pub : Publication} {answer : Answer}

theorem Publishes.printed? {s : Session} (h : Publishes s pub d t answer) :
    s.printed? pub.id = some answer.stdout := by
  obtain ⟨a, b, ha, -, hanswer, -⟩ := h.attempt
  simp [Session.printed?, ha, hanswer]

theorem readFrom_iff (h₀ : s₀.attempts = []) (h : Publishes (s₀.after past) pub d t answer) :
    ReadFrom s₀ past pub p ↔ (t.temporary = true ∧ Target.present? t.analysis = some p) ∧
      ∃ item found, Wire.Lists answer.stdout (item :: found) := by
  obtain ⟨a, b, ha, -, hanswer, -⟩ := h.attempt
  rw [← snapshotAt_iff h₀ ha (Stage.target?_of_answer? hanswer)]
  constructor
  · rintro ⟨hsnapshot, stdout, item, found, hprinted, hlists⟩
    rw [h.printed?] at hprinted
    cases hprinted
    exact ⟨hsnapshot, item, found, hlists⟩
  · rintro ⟨hsnapshot, item, found, hlists⟩
    exact ⟨hsnapshot, _, item, found, h.printed?, hlists⟩

theorem aliasesFor_act {s : Session} {e : Action} (h : s.concerns uri e = false) :
    (s.act e).registry.aliasesFor uri = s.registry.aliasesFor uri := by
  cases hp : s.publication? e with
  | some pub =>
    have hconcerns : s.concerns uri e = s.isNamed pub.doc uri := concerns_of_publication? hp
    obtain ⟨rfl, d, t, answer, hpublishes⟩ := publishes_of_publication? hp
    have huri : d.uri ≠ uri := by
      intro huri
      rw [hconcerns, isNamed_iff.mpr ⟨d, hpublishes.document, huri⟩] at h
      cases h
    rw [hpublishes.found.registry, read, Wire.aliasesFor_intake_of_ne huri,
      FixRegistry.aliasesFor_invalidate, if_neg huri]
  | none =>
    cases silent_of_publication? hp with
    | bare e registry nextDiagnostic display => rw [registry]
    | forgotten doc d document registry nextDiagnostic display =>
      rw [registry, FixRegistry.aliasesFor_invalidate, if_neg]
      intro huri
      simp [concerns, Action.forgets?, isNamed_iff.mpr ⟨d, document, huri⟩] at h
    | missing i a d attempt document misses cleared => rw [cleared.registry]

/-- **The alias of a name** is the snapshot of the publication with the last word on it. -/
theorem mem_aliasesFor_iff (h₀ : s₀.Opened) :
    p ∈ (s₀.after acts).registry.aliasesFor uri ↔
      ∃ past pub future, LastWord s₀ acts uri past pub future ∧ ReadFrom s₀ past pub p := by
  induction acts using List.reverseRecOn with
  | nil =>
    rw [after_nil, h₀.registry_eq]
    refine ⟨fun hmem ↦ absurd hmem List.not_mem_nil, ?_⟩
    rintro ⟨past, pub, future, hlast, -⟩
    exact absurd hlast.made (by simp)
  | append_singleton acts e ih =>
    rw [after_concat]
    cases hconcerns : (s₀.after acts).concerns uri e with
    | false =>
      rw [aliasesFor_act hconcerns, ih]
      constructor
      · rintro ⟨past, pub, future, hlast, hread⟩
        exact ⟨past, pub, future ++ [e], hlast.concat hconcerns, hread⟩
      · rintro ⟨past, pub, future, hlast, hread⟩
        rcases hlast.cases_concat with ⟨-, -, -, hconcerns'⟩ | ⟨earlier, rfl, hbefore, -⟩
        · cases hconcerns.symm.trans hconcerns'
        · exact ⟨past, pub, earlier, hbefore, hread⟩
    | true =>
      cases hp : (s₀.after acts).publication? e with
      | some pub =>
        have hnamed := (concerns_of_publication? hp).symm.trans hconcerns
        have hlast := lastWord_of_publication? hp hnamed
        obtain ⟨rfl, d, t, answer, hpublishes⟩ := publishes_of_publication? hp
        obtain ⟨d', hd', rfl⟩ := isNamed_iff.mp hnamed
        cases hpublishes.document.symm.trans hd'
        have hnone := ((s₀.after acts).registry.nothingAt_invalidate d.uri).aliases
        rw [hpublishes.found.registry, read, Wire.mem_aliasesFor_intake hnone,
          ← readFrom_iff h₀.attempts_eq hpublishes]
        constructor
        · intro hread
          exact ⟨acts, pub, [], hlast, hread⟩
        · rintro ⟨past, pub', future, hlast', hread⟩
          obtain ⟨rfl, rfl, -⟩ := hlast.unique hlast'
          exact hread
      | none =>
        obtain ⟨doc, d, rfl, hd, rfl⟩ := forgets_of_concerns hp hconcerns
        have hregistry :
            ((s₀.after acts).act (.forget doc)).registry =
              (s₀.after acts).registry.invalidate d.uri := by
          change ((s₀.after acts).forget doc).registry = _
          rw [forget, hd]
        rw [hregistry, (FixRegistry.nothingAt_invalidate _ d.uri).aliases]
        refine ⟨fun hmem ↦ absurd hmem List.not_mem_nil, ?_⟩
        rintro ⟨past, pub, future, hlast, -⟩
        rcases hlast.cases_concat with ⟨-, -, hp', -⟩ | ⟨-, -, -, hspares⟩
        · cases hp.symm.trans hp'
        · cases hconcerns.symm.trans hspares

theorem mem_acceptedPaths_iff (h₀ : s₀.Opened) :
    p ∈ QuickFix.acceptedPaths (s₀.after acts).cwd (s₀.after acts).registry d ↔
      StandsFor s₀ acts d p := by
  rw [QuickFix.acceptedPaths, List.mem_append, Option.mem_toList, mem_aliasesFor_iff h₀, or_comm]
  exact Iff.rfl

/-- The snapshot of an attempt stands for a document if the attempt published the last word on its
name, and otherwise only if the document itself is the file. -/
theorem StandsFor.publisher {i : Nat} {earlier later : List Action} {d' : Document}
    (hspelled : ∀ before, before <+: acts → (s₀.after before).Spelled)
    (hsnapshot : SnapshotAt s₀ acts i p earlier later d') (h : StandsFor s₀ acts d p) :
    Snapshot.documentPath? (s₀.after acts).cwd d = some p ∨
      ∃ past pub future, LastWord s₀ acts d.uri past pub future ∧ pub.id = i := by
  refine h.imp_right ?_
  rintro ⟨past, pub, future, hlast, ⟨earlier', later', d'', hread⟩, -⟩
  have hwhole := hread.append (.step pub.id :: future)
  rw [← hlast.made] at hwhole
  exact ⟨past, pub, future, hlast, hwhole.unique hspelled hsnapshot⟩

end

/-! ## What is offered -/

/-- **Edits stay in their document.** In every session, what is offered for any diagnostics of a
document is made of their fixes one by one. Each quick fix replaces text in this document only, by
the edits that have a readable start and name no file or one that stands for the document, in their
order and within the text as it is; a fix without such edits is not offered. No snapshot of another
attempt than the one with the last word stands for a document. -/
theorem offers_own_edits (s₀ : Session) (h₀ : s₀.Opened) (acts : List Action) (d : Document)
    (gs : List Diagnostic) :
    (s₀.after acts).quickFixes d gs =
        (gs.filter (·.source == analyzerSource)).flatMap (fun g ↦
          ((s₀.after acts).registry.fixesFor g.id).filterMap
            (QuickFix.built? (s₀.after acts).cwd (s₀.after acts).registry d g)) ∧
      (∀ g f, ∃ ts,
        QuickFix.Realizes d (·.Qualifies (s₀.after acts).cwd (StandsFor s₀ acts d)) f.edits ts ∧
        (QuickFix.built? (s₀.after acts).cwd (s₀.after acts).registry d g f).map (·.edit) =
          (if ts = [] then none else some [(d.uri, ts)]) ∧
        (∀ e ∈ ts, e.span.Within d) ∧
        (QuickFix.built? (s₀.after acts).cwd (s₀.after acts).registry d g f = none ↔
          ∀ e ∈ f.edits, ¬ e.Qualifies (s₀.after acts).cwd (StandsFor s₀ acts d))) ∧
      ((∀ before, before <+: acts → (s₀.after before).Spelled) →
        ∀ i p earlier later d', SnapshotAt s₀ acts i p earlier later d' → StandsFor s₀ acts d p →
          Snapshot.documentPath? (s₀.after acts).cwd d = some p ∨
            ∃ past pub future, LastWord s₀ acts d.uri past pub future ∧ pub.id = i) := by
  refine ⟨QuickFix.offered_eq _ _ d gs, ?_,
    fun hspelled i p earlier later d' hsnapshot h ↦ h.publisher hspelled hsnapshot⟩
  intro g f
  obtain ⟨ts, hrealizes, hbuilt⟩ := QuickFix.built?_realizes (s₀.after acts).cwd
    (s₀.after acts).registry d g f
  have hqualifies (e : FixEdit) :
      e.Qualifies (s₀.after acts).cwd
          (· ∈ QuickFix.acceptedPaths (s₀.after acts).cwd (s₀.after acts).registry d) ↔
        e.Qualifies (s₀.after acts).cwd (StandsFor s₀ acts d) := by
    simp only [FixEdit.Qualifies, Wire.InFiles, mem_acceptedPaths_iff h₀]
  have hown := hrealizes.congr hqualifies
  refine ⟨ts, hown, hbuilt, hown.within, ?_⟩
  rw [← hown.eq_nil_iff, ← Option.map_eq_none_iff (f := (·.edit)), hbuilt]
  by_cases hts : ts = [] <;> simp [hts]

/-! A session with a document that was never saved, and another one. -/

/-- The document. -/
def draft : Document :=
  .untitled "a" "x" "surge"

def draftSnapshot : String :=
  "/t/untitled-1000000-00000001.sg"

/-- The session, and what the analyzer prints in its coming runs. -/
def draftSample (outputs : List String) : Session :=
  open_ ⟨⟨.root, ["w"]⟩, [], [], []⟩ { scratch := ⟨.root, ["t"]⟩ } [draft, otherDocument] none
    (outputs.map fun output ↦ { stdout := fun _ ↦ .text output })

theorem opened_draftSample (outputs : List String) : (draftSample outputs).Opened :=
  ⟨_, _, _, _, _, rfl⟩

/-- Analyzer output with one finding, which has a fix for the snapshot. -/
def draftFix : String :=
  "\x7b\"diagnostics\":[\x7b\"location\":\x7b\"start_line\":1,\"start_col\":1\x7d,\"fixes\":" ++
    "[\x7b\"edits\":[\x7b\"location\":\x7b\"file\":\"/t/untitled-1000000-00000001.sg\"," ++
    "\"start_line\":1,\"start_col\":1\x7d\x7d]\x7d]\x7d]\x7d"

/-- Analyzer output with no findings. -/
def noFinding : String :=
  "\x7b\"diagnostics\":[]\x7d"

/-- An attempt on the document, up to its last step. -/
def draftBegun : List Action :=
  [.call 0, .step 0, .step 0, .step 0, .step 0, .step 0]

/-- Whether the attempt analyzes the snapshot, as it can be looked up. -/
def SettlesDraft (outputs : List String) : Prop :=
  ((((draftSample outputs).after draftBegun).attempt? 0).bind (·.stage.target?)).map
    (fun t ↦ (t.temporary, Target.present? t.analysis)) = some (true, some draftSnapshot)

instance (outputs : List String) : Decidable (SettlesDraft outputs) :=
  inferInstanceAs (Decidable (_ = _))

theorem snapshotAt_draft {outputs : List String} (h : SettlesDraft outputs) :
    ∃ earlier later d,
      SnapshotAt (draftSample outputs) draftBegun 0 draftSnapshot earlier later d := by
  obtain ⟨t, ht, hpath⟩ := Option.map_eq_some_iff.mp h
  obtain ⟨a, ha, ht⟩ := Option.bind_eq_some_iff.mp ht
  obtain ⟨htemporary, hpath⟩ := Prod.mk.inj hpath
  exact (snapshotAt_iff (opened_draftSample outputs).attempts_eq ha ht).mpr ⟨htemporary, hpath⟩

/-- The edit for the snapshot is offered, and the snapshot is that of the last word. -/
theorem offers_own_edits_sample :
    let acts := draftBegun ++ [.step 0]
    let s := (draftSample [draftFix]).after acts
    (s.quickFixes draft (s.shown draft)).map (·.edit) =
        [[(draft.uri, [⟨⟨⟨0, 0⟩, ⟨0, 1⟩⟩, ""⟩])]] ∧
      ∃ past pub future, LastWord (draftSample [draftFix]) acts draft.uri past pub future ∧
        pub.id = 0 := by
  intro acts s
  have hrun : (∀ before ∈ acts.inits, ((draftSample [draftFix]).after before).Spelled) ∧
      SettlesDraft [draftFix] ∧ draftSnapshot ∈ QuickFix.acceptedPaths s.cwd s.registry draft ∧
      (s.quickFixes draft (s.shown draft)).map (·.edit) =
        [[(draft.uri, [⟨⟨⟨0, 0⟩, ⟨0, 1⟩⟩, ""⟩])]] := by decide +kernel
  obtain ⟨hspelled, hsettles, haccepted, hedits⟩ := hrun
  obtain ⟨earlier, later, d, hsnapshot⟩ := snapshotAt_draft hsettles
  obtain ⟨-, -, hpublisher⟩ :=
    offers_own_edits _ (opened_draftSample [draftFix]) acts draft (s.shown draft)
  refine ⟨hedits, ?_⟩
  have hstands := hpublisher
    (fun before hbefore ↦ hspelled before ((List.mem_inits ..).mpr hbefore))
    0 draftSnapshot _ _ d (hsnapshot.append [.step 0])
    ((mem_acceptedPaths_iff (opened_draftSample _)).mp haccepted)
  -- The document has no path of its own.
  exact hstands.resolve_left nofun

/-- The snapshot of the attempt that published last under a name. -/
def LastSnapshot (s₀ : Session) (acts : List Action) (uri p : String) : Prop :=
  ∃ past pub future, acts = past ++ .step pub.id :: future ∧
    (s₀.after past).publication? (.step pub.id) = some pub ∧
    (s₀.after past).isNamed pub.doc uri = true ∧
    (s₀.after (past ++ [.step pub.id])).throughout
      (fun s e ↦ !(s.publication? e).any fun q ↦ s.isNamed q.doc uri) future = true ∧
    ∃ earlier later d, SnapshotAt s₀ past pub.id p earlier later d

/-- That edits for the snapshot of whoever published last are offered, whatever came of it. -/
def OffersLastSnapshot : Prop :=
  ∀ (s₀ : Session) (acts : List Action) (d d' : Document), s₀.Opened →
    d ∈ (s₀.after acts).documents → d' ∈ (s₀.after acts).documents →
    ∀ g ∈ (s₀.after acts).shown d', ∀ f ∈ (s₀.after acts).registry.fixesFor g.id,
      QuickFix.built? (s₀.after acts).cwd (s₀.after acts).registry d g f = none →
      ∀ e ∈ f.edits, ¬ e.Qualifies (s₀.after acts).cwd fun p ↦
        Snapshot.documentPath? (s₀.after acts).cwd d = some p ∨ LastSnapshot s₀ acts d.uri p

/-- A run after which the other document's diagnostic has a fix for the snapshot, and it is not
offered for the document. -/
theorem not_offersLastSnapshot_of_run (outputs : List String) (more : List Action)
    (hrun : let s₁ := (draftSample outputs).after draftBegun
      let s := (draftSample outputs).after (draftBegun ++ .step 0 :: more)
      SettlesDraft outputs ∧
      (s₁.publication? (.step 0)).map (fun p ↦ (p.id, s₁.isNamed p.doc draft.uri)) =
        some (0, true) ∧
      ((draftSample outputs).after (draftBegun ++ [.step 0])).throughout
        (fun s e ↦ !(s.publication? e).any fun q ↦ s.isNamed q.doc draft.uri) more = true ∧
      (draft ∈ s.documents ∧ otherDocument ∈ s.documents) ∧
      ∃ g ∈ s.shown otherDocument, ∃ f ∈ s.registry.fixesFor g.id,
        (QuickFix.built? s.cwd s.registry draft g f).isNone = true ∧
        ∃ e ∈ f.edits,
          (QuickFix.fate s.cwd [draftSnapshot] (.ofDocument draft) e).edit?.isSome = true) :
    ¬ OffersLastSnapshot := by
  intro hall
  obtain ⟨hsettles, hpublication, hmore, ⟨hdraft, hother⟩, g, hg, f, hf, hnone, e, he, hplaced⟩ :=
    hrun
  have hlast : LastSnapshot (draftSample outputs) (draftBegun ++ .step 0 :: more) draft.uri
      draftSnapshot := by
    obtain ⟨pub, hpub, hnamed⟩ := Option.map_eq_some_iff.mp hpublication
    obtain ⟨hid, hnamed⟩ := Prod.mk.inj hnamed
    refine ⟨draftBegun, pub, more, ?_⟩
    rw [hid]
    exact ⟨rfl, hpub, hnamed, hmore, snapshotAt_draft hsettles⟩
  refine hall _ _ draft otherDocument (opened_draftSample outputs) hdraft hother g hg f hf
    (Option.isNone_iff_eq_none.mp hnone) e he ?_
  obtain ⟨location, hlocation, hstart, hfiles⟩ := QuickFix.qualifies_of_edit? hplaced
  refine ⟨location, hlocation, hstart, ?_⟩
  intro name hname hne
  obtain ⟨p, hp, hnormal⟩ := hfiles name hname hne
  cases List.mem_singleton.mp hp
  exact ⟨_, .inr hlast, hnormal⟩

/-- So they are not if the last publication listed nothing. -/
theorem not_offers_last_snapshot : ¬ OffersLastSnapshot :=
  not_offersLastSnapshot_of_run [noFinding, draftFix] [.call 1, .step 2, .step 2, .step 2]
    (by decide +kernel)

/-- Nor if the document was forgotten since. -/
theorem not_offers_forgotten_snapshot : ¬ OffersLastSnapshot :=
  not_offersLastSnapshot_of_run [draftFix, draftFix]
    [.call 1, .step 2, .step 2, .step 2, .forget 0] (by decide +kernel)

end Session

end DiagnosticFeed
