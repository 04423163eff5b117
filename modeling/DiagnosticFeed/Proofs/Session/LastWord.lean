import DiagnosticFeed.Proofs.Session.Current

/-!
# The last word on a name

Two stores are kept by the names of documents: what is displayed, and which fixes are known. Both
are replaced by a publication and emptied when a document is forgotten, so both go back to the
publication that has the last word on a name: nothing was published under the name since, and no
document of the name was forgotten.

The stores part where the executable is found missing. This takes everything off the display and
leaves the fixes. So a diagnostic is displayed if its publication has the last word and the
executable was not found missing since; for its fixes to be known the first of these is enough.
-/

namespace DiagnosticFeed

/-- Which document an action forgets. -/
def Session.Action.forgets? : Action → Option Nat
  | .forget doc => some doc
  | _ => none

theorem Stage.spawning_of_missesExecutable {st : Stage} (h : st.missesExecutable = true) :
    ∃ b t snap run directory e, st = .spawning b t snap run directory (some e) ∧
      Client.refusal directory e = .executableMissing := by
  cases st with
  | spawning b t snap run directory failure =>
    cases failure with
    | none => cases h
    | some e => exact ⟨b, t, snap, run, directory, e, rfl, eq_of_beq h⟩
  | _ => cases h

namespace Session

/-- Whether an action finds the executable missing. -/
def misses (s : Session) : Action → Bool
  | .step id => (s.attempt? id).any fun a ↦
      a.stage.missesExecutable && (s.documents[a.doc]?).isSome
  | _ => false

def isNamed (s : Session) (doc : Nat) (uri : String) : Bool :=
  (s.documents[doc]?).any (·.uri == uri)

/-- Whether an action publishes under a name, or forgets a document of this name. -/
def concerns (uri : String) (s : Session) (e : Action) : Bool :=
  e.forgets?.any (s.isNamed · uri) || (s.publication? e).any fun p ↦ s.isNamed p.doc uri

/-- The executable is not found missing. -/
def finds (s : Session) (e : Action) : Bool :=
  !s.misses e

/-- A name is neither published under nor forgotten. -/
def sparing (uri : String) (s : Session) (e : Action) : Bool :=
  !s.concerns uri e

theorem isNamed_iff {s : Session} {doc : Nat} {uri : String} :
    s.isNamed doc uri = true ↔ ∃ d, s.documents[doc]? = some d ∧ d.uri = uri := by
  simp [isNamed, Option.any_eq_true]

/-! ## One action -/

section

variable {s s' : Session} {e : Action} {p : Publication} {uri : String}

theorem concerns_of_publication? (hp : s.publication? e = some p) :
    s.concerns uri e = s.isNamed p.doc uri := by
  obtain ⟨rfl, -⟩ := publishes_of_publication? hp
  have hforgets : (Action.step p.id).forgets? = none := rfl
  rw [concerns, hp, hforgets, Option.any_some, Option.any_none, Bool.false_or]

/-- An action that publishes nothing concerns the name of the document that it forgets. -/
theorem forgets_of_concerns (hp : s.publication? e = none) (h : s.concerns uri e = true) :
    ∃ doc d, e = .forget doc ∧ s.documents[doc]? = some d ∧ d.uri = uri := by
  rw [concerns, hp, Option.any_none, Bool.or_false] at h
  cases e with
  | forget doc =>
    obtain ⟨d, hd, huri⟩ := isNamed_iff.mp h
    exact ⟨doc, d, rfl, hd, huri⟩
  | _ => cases h

theorem misses_iff {id : Nat} :
    s.misses (.step id) = true ↔ ∃ a d, s.attempt? id = some a ∧ s.documents[a.doc]? = some d ∧
      a.stage.missesExecutable = true := by
  simp only [misses, Option.any_eq_true, Bool.and_eq_true, Option.isSome_iff_exists]
  constructor
  · rintro ⟨a, ha, hmisses, d, hd⟩
    exact ⟨a, d, ha, hd, hmisses⟩
  · rintro ⟨a, d, ha, hd, hmisses⟩
    exact ⟨a, ha, hmisses, d, hd⟩

/-- An attempt with an answer at hand has long been started. -/
theorem not_misses_of_publication? (hp : s.publication? e = some p) : s.misses e = false := by
  obtain ⟨rfl, d, t, answer, hpublishes⟩ := publishes_of_publication? hp
  obtain ⟨a, b, ha, -, hanswer, -⟩ := hpublishes.attempt
  rw [Bool.eq_false_iff]
  intro hmisses
  obtain ⟨a', -, ha', -, hstage⟩ := misses_iff.mp hmisses
  rw [ha] at ha'
  cases ha'
  obtain ⟨b', t', snap, run, directory, failure, hspawning, -⟩ :=
    Stage.spawning_of_missesExecutable hstage
  rw [hspawning] at hanswer
  cases hanswer

theorem Following.kept {d : Document} {b : Begun} {t : Target} {snap : Option FilePath} {st : Stage}
    (h : Following s d b t s' (.ok none) snap st) : Kept s s' := by
  cases h with
  | toClean p kept => exact kept
  | toEnd r ending =>
    cases ending with
    | nothing kept => exact kept

/-- **A missing executable** turns triggers off and takes everything off the display, and leaves the
fixes. -/
theorem act_of_misses (h : s.misses e = true) :
    (s.act e).enabled = false ∧ (s.act e).bench.display = [] ∧ (s.act e).registry = s.registry := by
  cases e with
  | step id =>
    obtain ⟨a, d, ha, hd, hmisses⟩ := misses_iff.mp h
    obtain ⟨b, t, snap, run, directory, failure, hstage, hcause⟩ :=
      Stage.spawning_of_missesExecutable hmisses
    have hcan : s.canStep a = true := by rw [canStep, hstage]
    obtain ⟨st, -, hmove⟩ := step_move ha hd hcan
    rw [hstage] at hmove
    cases hmove with
    | missing _ _ _ _ _ _ _ cause following =>
      have hkept := following.kept
      exact ⟨hkept.enabled_eq, hkept.display, hkept.registry⟩
    | refused _ _ _ _ _ _ _ cause following =>
      rcases cause with cause | cause <;> cases hcause.symm.trans cause
    | broken _ _ _ _ _ _ _ cause following => cases hcause.symm.trans cause
  | _ => cases h

theorem enabled_of_finds (hon : s.enabled = true) (h : s.finds e = true) :
    (s.act e).enabled = true := by
  rcases (s.onward_act e).enabled hon with ⟨id, rfl⟩ | hstill
  · rcases s.step_cases id with hsame | ⟨a, d, st, ha, hd, -, -, hmove⟩
    · exact (congrArg enabled hsame).trans hon
    rcases hmove.outcome with ⟨b, t, answer, -, houtcome⟩ | ⟨-, -, hbare | ⟨hmisses, -⟩⟩
    · cases houtcome with
      | published answer st current published found => exact found.enabled hon
      | bare answer st old nothing bare => exact bare.enabled hon
    · exact hbare.enabled hon
    · rw [finds, misses_iff.mpr ⟨a, d, ha, hd, hmisses⟩] at h
      cases h
  · exact hstill

/-- What an action makes of the entry under a name. -/
inductive EntryAfter (s : Session) (uri : String) (e : Action) : Option (List Diagnostic) → Prop
  | published (p : Publication) (publication : s.publication? e = some p)
    (named : s.isNamed p.doc uri = true) : EntryAfter s uri e (some p.diagnostics)
  | withdrawn (nothing : s.publication? e = none)
    (gone : s.misses e = true ∨ s.concerns uri e = true) : EntryAfter s uri e none
  | same (spares : s.concerns uri e = false) (finds : s.misses e = false) :
    EntryAfter s uri e (Keyed.get? s.bench.display uri)

theorem entry_act (s : Session) (uri : String) (e : Action) :
    EntryAfter s uri e (Keyed.get? (s.act e).bench.display uri) := by
  cases hp : s.publication? e with
  | some p =>
    have hconcerns : s.concerns uri e = s.isNamed p.doc uri := concerns_of_publication? hp
    obtain ⟨rfl, d, t, answer, hpublishes⟩ := publishes_of_publication? hp
    rw [hpublishes.found.display, Keyed.get?_set, ← hpublishes.diagnostics]
    split
    · next huri =>
      exact .published p hp (isNamed_iff.mpr ⟨d, hpublishes.document, huri⟩)
    · next huri =>
      refine .same ?_ (not_misses_of_publication? hp)
      rw [hconcerns, Bool.eq_false_iff]
      intro hnamed
      obtain ⟨d', hd', huri'⟩ := isNamed_iff.mp hnamed
      rw [hpublishes.document] at hd'
      cases hd'
      exact huri huri'
  | none =>
    cases hmisses : s.misses e with
    | true =>
      rw [(act_of_misses hmisses).2.1]
      exact .withdrawn hp (Or.inl hmisses)
    | false =>
      cases hconcerns : s.concerns uri e with
      | true =>
        obtain ⟨doc, d, rfl, hd, huri⟩ := forgets_of_concerns hp hconcerns
        have hgone : Keyed.get? (s.act (.forget doc)).bench.display uri = none := by
          change Keyed.get? (s.forget doc).bench.display uri = none
          rw [forget, hd]
          exact (Keyed.get?_erase _ _ _).trans (if_pos huri)
        rw [hgone]
        exact .withdrawn hp (Or.inr hconcerns)
      | false =>
        have hsame : Keyed.get? (s.act e).bench.display uri = Keyed.get? s.bench.display uri := by
          cases silent_of_publication? hp with
          | bare e registry nextDiagnostic display => rw [display]
          | forgotten doc d document registry nextDiagnostic display =>
            rw [display, Keyed.get?_erase, if_neg]
            intro huri
            have hnamed : s.isNamed doc uri = true := isNamed_iff.mpr ⟨d, document, huri⟩
            simp [concerns, Action.forgets?, hnamed] at hconcerns
          | missing id a d attempt document misses cleared =>
            cases hmisses.symm.trans (misses_iff.mpr ⟨a, d, attempt, document, misses⟩)
        rw [hsame]
        exact .same hconcerns hmisses

end

/-! ## Whole runs -/

/-- In a run, a publication has the last word on a name: it was made under the name, and since then
the name was spared. -/
structure LastWord (s₀ : Session) (acts : List Action) (uri : String) (past : List Action)
    (p : Publication) (future : List Action) : Prop where
  made : acts = past ++ .step p.id :: future
  publication : (s₀.after past).publication? (.step p.id) = some p
  named : (s₀.after past).isNamed p.doc uri = true
  spared : (s₀.after (past ++ [.step p.id])).throughout (sparing uri) future = true

section

variable {s₀ : Session} {acts past past' future future' : List Action} {uri : String}
  {p p' : Publication} {e : Action} {ds : List Diagnostic}

theorem LastWord.after_eq (h : LastWord s₀ acts uri past p future) :
    (s₀.after (past ++ [.step p.id])).after future = s₀.after acts := by
  rw [h.made, ← after_append, List.append_assoc, List.singleton_append]

theorem lastWord_of_publication? (hp : (s₀.after acts).publication? e = some p)
    (hnamed : (s₀.after acts).isNamed p.doc uri = true) :
    LastWord s₀ (acts ++ [e]) uri acts p [] := by
  obtain ⟨rfl, -⟩ := publishes_of_publication? hp
  exact ⟨rfl, hp, hnamed, rfl⟩

/-- It keeps it as long as the name is spared. -/
theorem LastWord.concat (h : LastWord s₀ acts uri past p future)
    (he : (s₀.after acts).concerns uri e = false) :
    LastWord s₀ (acts ++ [e]) uri past p (future ++ [e]) := by
  refine ⟨by rw [h.made]; simp, h.publication, h.named, ?_⟩
  rw [throughout_concat, h.spared, h.after_eq, sparing, he]
  rfl

/-- What has the last word was published by the last action, or had it before and was spared. -/
theorem LastWord.cases_concat (h : LastWord s₀ (acts ++ [e]) uri past p future) :
    (past = acts ∧ future = [] ∧ (s₀.after acts).publication? e = some p ∧
        (s₀.after acts).concerns uri e = true) ∨
      ∃ earlier, future = earlier ++ [e] ∧ LastWord s₀ acts uri past p earlier ∧
        (s₀.after acts).concerns uri e = false := by
  rcases List.eq_nil_or_concat future with rfl | ⟨earlier, e', rfl⟩
  · obtain ⟨rfl, he⟩ := List.append_inj' h.made rfl
    cases List.singleton_inj.mp he
    exact Or.inl ⟨rfl, rfl, h.publication,
      (concerns_of_publication? h.publication).trans h.named⟩
  · have hmade := h.made
    rw [List.concat_eq_append, ← List.cons_append, ← List.append_assoc] at hmade
    obtain ⟨hacts, he⟩ := List.append_inj' hmade rfl
    cases List.singleton_inj.mp he
    have hspared := h.spared
    rw [List.concat_eq_append, throughout_concat, Bool.and_eq_true] at hspared
    have hbefore : LastWord s₀ acts uri past p earlier :=
      ⟨hacts, h.publication, h.named, hspared.1⟩
    rw [hbefore.after_eq, sparing, Bool.not_eq_true'] at hspared
    exact Or.inr ⟨earlier, List.concat_eq_append, hbefore, hspared.2⟩

/-- **Only one publication has the last word** on a name. -/
theorem LastWord.unique (h : LastWord s₀ acts uri past p future)
    (h' : LastWord s₀ acts uri past' p' future') : past' = past ∧ p' = p ∧ future' = future := by
  induction acts using List.reverseRecOn generalizing future future' with
  | nil => exact absurd h.made (by simp)
  | append_singleton acts e ih =>
    -- A new publication concerns the name, so no older one survives it.
    rcases h.cases_concat with ⟨rfl, rfl, hp, hconcerns⟩ | ⟨earlier, rfl, hbefore, hspares⟩
    · rcases h'.cases_concat with ⟨rfl, rfl, hp', -⟩ | ⟨-, -, -, hspares'⟩
      · exact ⟨rfl, Option.some.inj (hp'.symm.trans hp), rfl⟩
      · cases hconcerns.symm.trans hspares'
    · rcases h'.cases_concat with ⟨-, -, -, hconcerns'⟩ | ⟨earlier', rfl, hbefore', -⟩
      · cases hconcerns'.symm.trans hspares
      · obtain ⟨hpast, hp, rfl⟩ := ih hbefore hbefore'
        exact ⟨hpast, hp, rfl⟩

/-- A publication that is displayed: it has the last word, and the executable was not found missing
since. -/
structure OnDisplay (s₀ : Session) (acts : List Action) (uri : String) (past : List Action)
    (p : Publication) (future : List Action) : Prop
    extends LastWord s₀ acts uri past p future where
  found : (s₀.after (past ++ [.step p.id])).throughout finds future = true

/-- **What is displayed** under a name is what the publication with the last word holds, unless the
executable was found missing since. -/
theorem displayed_iff (h₀ : s₀.bench.display = []) :
    Keyed.get? (s₀.after acts).bench.display uri = some ds ↔
      ∃ past p future, OnDisplay s₀ acts uri past p future ∧ p.diagnostics = ds := by
  induction acts using List.reverseRecOn generalizing ds with
  | nil =>
    rw [after_nil, h₀]
    constructor
    · intro h
      cases h
    · rintro ⟨past, p, future, h, -⟩
      exact absurd h.made (by simp)
  | append_singleton acts e ih =>
    have hentry := entry_act (s₀.after acts) uri e
    rw [← after_concat] at hentry
    generalize Keyed.get? (s₀.after (acts ++ [e])).bench.display uri = entry at hentry ⊢
    cases hentry with
    | published p hp hnamed =>
      have hconcerns := (concerns_of_publication? hp).trans hnamed
      constructor
      · intro h
        exact ⟨acts, p, [], ⟨lastWord_of_publication? hp hnamed, rfl⟩, Option.some.inj h⟩
      · rintro ⟨past, p', future, h, rfl⟩
        rcases h.cases_concat with ⟨-, -, hp', -⟩ | ⟨-, -, -, hspares⟩
        · rw [Option.some.inj (hp.symm.trans hp')]
        · cases hconcerns.symm.trans hspares
    | withdrawn hp hgone =>
      constructor
      · intro h
        cases h
      · rintro ⟨past, p', future, h, -⟩
        exfalso
        rcases h.cases_concat with ⟨-, -, hp', -⟩ | ⟨earlier, rfl, hbefore, hspares⟩
        · cases hp.symm.trans hp'
        · have hfound := h.found
          rw [throughout_concat, hbefore.after_eq, Bool.and_eq_true, finds,
            Bool.not_eq_true'] at hfound
          rcases hgone with hmisses | hconcerns
          · cases hmisses.symm.trans hfound.2
          · cases hconcerns.symm.trans hspares
    | same hspares hfinds =>
      rw [ih]
      constructor
      · rintro ⟨past, p, future, h, hds⟩
        refine ⟨past, p, future ++ [e], ⟨h.concat hspares, ?_⟩, hds⟩
        rw [throughout_concat, h.found, h.after_eq, finds, hfinds]
        rfl
      · rintro ⟨past, p, future, h, hds⟩
        rcases h.cases_concat with ⟨-, -, -, hconcerns⟩ | ⟨earlier, rfl, hbefore, -⟩
        · cases hconcerns.symm.trans hspares
        · have hfound := h.found
          rw [throughout_concat, Bool.and_eq_true] at hfound
          exact ⟨past, p, earlier, ⟨hbefore, hfound.1⟩, hds⟩

end

/-! A session with two saved documents, for cases that are run through. The executable prints once,
and is gone when it is started for the second time. -/

def otherDocument : Document :=
  { uri := "file:///w/b.sg", text := "let y", path := some ⟨.root, ["w", "b.sg"]⟩ }

/-- The session, and what is printed in the first run. -/
def losingSample (output : String) : Session :=
  open_ ⟨⟨.root, ["w"]⟩, [], [], []⟩ {} [sampleDocument, otherDocument] none
    [{ stdout := fun _ ↦ .text output }, { startFault := some .executableMissing }]

theorem opened_losingSample (output : String) : (losingSample output).Opened :=
  ⟨_, _, _, _, _, rfl⟩

end Session

end DiagnosticFeed
