import DiagnosticFeed.Proofs.Session.Current

/-!
# What quick fixes are for

Quick fixes are offered for what is displayed, and what is displayed was published once. So each
offer goes back to a publication, and to a version of a document. Diagnostics are told apart by
their identities, which are given out once in a session; this makes that version unique.

Nothing takes the diagnostics of a former version away when the text changes. They are displayed,
and their fixes are offered, until the next publication. The version that they are for lags behind
by the number of changes since.
-/

namespace DiagnosticFeed

theorem QuickFix.diagnostic_mem {cwd : FilePath} {r : FixRegistry} {d : Document}
    {gs : List Diagnostic} {q : QuickFix} (h : q ∈ (offered cwd r d gs).1) : q.diagnostic ∈ gs := by
  obtain ⟨c, hc, hq⟩ := List.mem_filterMap.mp h
  obtain ⟨g, hg, hc⟩ := List.mem_flatMap.mp hc
  obtain ⟨f, -, rfl⟩ := List.mem_map.mp hc
  rw [ofCandidate?] at hq
  dsimp only at hq
  split at hq
  · cases hq
  · cases hq
    exact (List.mem_filter.mp hg).1

namespace Session

/-! ## Identities -/

section

variable {s : Session} {acts : List Action}

theorem nextDiagnostic_act (s : Session) (e : Action) :
    s.nextDiagnostic ≤ (s.act e).nextDiagnostic ∧ ∀ p, s.publication? e = some p →
      ∀ g ∈ p.diagnostics, s.nextDiagnostic ≤ g.id ∧ g.id < (s.act e).nextDiagnostic := by
  cases hp : s.publication? e with
  | none =>
    refine ⟨(bare_of_publication? hp).1.ge, ?_⟩
    intro p hp
    cases hp
  | some p =>
    obtain ⟨rfl, d, t, answer, hpublishes⟩ := publishes_of_publication? hp
    have hnext := hpublishes.found.nextDiagnostic
    refine ⟨by omega, ?_⟩
    intro p' hp' g hg
    cases hp'
    rw [hpublishes.diagnostics] at hg
    obtain ⟨-, hlow, hhigh⟩ := Wire.mem_intake hg
    exact ⟨hlow, by rw [hnext]; exact hhigh⟩

/-- The diagnostics of a run have the identities that the run gives out. -/
theorem nextDiagnostic_after (s : Session) (acts : List Action) :
    s.nextDiagnostic ≤ (s.after acts).nextDiagnostic ∧ ∀ p ∈ s.publications acts,
      ∀ g ∈ p.diagnostics, s.nextDiagnostic ≤ g.id ∧ g.id < (s.after acts).nextDiagnostic := by
  induction acts generalizing s with
  | nil => exact ⟨Nat.le_refl _, by simp [publications]⟩
  | cons e acts ih =>
    obtain ⟨hle, hids⟩ := s.nextDiagnostic_act e
    obtain ⟨hle', hids'⟩ := ih (s.act e)
    refine ⟨hle.trans hle', ?_⟩
    intro p hp g hg
    rw [publications, List.mem_append, Option.mem_toList] at hp
    rcases hp with hp | hp
    · obtain ⟨hlow, hhigh⟩ := hids p hp g hg
      exact ⟨hlow, hhigh.trans_le hle'⟩
    · obtain ⟨hlow, hhigh⟩ := hids' p hp g hg
      exact ⟨hle.trans hlow, hhigh⟩

/-- **Identities are given out once**: no two publications of a run share a diagnostic. -/
theorem publications_ids (s : Session) (acts : List Action) :
    (s.publications acts).Pairwise fun p q ↦
      ∀ g ∈ p.diagnostics, ∀ g' ∈ q.diagnostics, g.id < g'.id := by
  induction acts generalizing s with
  | nil => exact List.Pairwise.nil
  | cons e acts ih =>
    rw [publications, List.pairwise_append]
    refine ⟨?_, ih _, ?_⟩
    · cases s.publication? e <;> simp
    · -- What the first action publishes is numbered below what is given out afterwards.
      intro p hp q hq g hg g' hg'
      have hbefore := ((s.nextDiagnostic_act e).2 p (Option.mem_toList.mp hp) g hg).2
      have hafter := (((s.act e).nextDiagnostic_after acts).2 q hq g' hg').1
      omega

theorem publication_eq_of_id {p q : Publication} {g g' : Diagnostic} (hp : p ∈ s.publications acts)
    (hq : q ∈ s.publications acts) (hg : g ∈ p.diagnostics) (hg' : g' ∈ q.diagnostics)
    (hid : g.id = g'.id) : p = q := by
  have hordered := List.pairwise_iff_getElem.mp (s.publications_ids acts)
  obtain ⟨i, hi, rfl⟩ := List.getElem_of_mem hp
  obtain ⟨j, hj, rfl⟩ := List.getElem_of_mem hq
  rcases Nat.lt_trichotomy i j with hij | rfl | hij
  · exact absurd hid (hordered i j hi hj hij g hg g' hg').ne
  · rfl
  · exact absurd hid (hordered j i hj hi hij g' hg' g hg).ne'

theorem publication_eq_of_mem {p q : Publication} {g : Diagnostic} (hp : p ∈ s.publications acts)
    (hq : q ∈ s.publications acts) (hgp : g ∈ p.diagnostics) (hgq : g ∈ q.diagnostics) : p = q :=
  publication_eq_of_id hp hq hgp hgq rfl

end

/-! ## Offers -/

/-- A diagnostic was computed, in some actions, for a version of a document. -/
def ComputedFor (s₀ : Session) (acts : List Action) (g : Diagnostic) (doc : Nat) (version : Int) :
    Prop :=
  ∃ p ∈ s₀.publications acts, p.doc = doc ∧ p.ticket.version = version ∧ g ∈ p.diagnostics

/-- What is displayed after some actions was published for a document, and nothing has changed
the text of the document since. -/
def DisplaysCurrent (s₀ : Session) (acts : List Action) (doc : Nat) (d : Document) : Prop :=
  ∃ past p future, acts = past ++ .step p.id :: future ∧
    (s₀.after past).publication? (.step p.id) = some p ∧ p.doc = doc ∧
    (s₀.after acts).shown d = p.diagnostics ∧ editCount doc future = 0

section

variable {s₀ : Session} {past future : List Action} {doc : Nat} {d : Document} {p : Publication}

/-- **The lag of a publication** is the number of changes since it was made. -/
theorem version_since_publication (hp : (s₀.after past).publication? (.step p.id) = some p)
    (hd : (s₀.after (past ++ .step p.id :: future)).documents[p.doc]? = some d) :
    d.version = p.ticket.version + editCount p.doc future := by
  obtain ⟨-, d₁, t, answer, hpublishes⟩ := publishes_of_publication? hp
  have hlater := later_between hpublishes.document hd
  have hcount : editCount p.doc (.step p.id :: future) = editCount p.doc future := by
    rw [editCount_cons]
    simp [Action.edits]
  rw [hlater.version, hcount, hpublishes.version_eq]

/-- A diagnostic that is shown for a document was published, together with all that are. -/
theorem publication_of_shown (h₀ : s₀.bench.display = []) {acts : List Action} {g : Diagnostic}
    (h : g ∈ (s₀.after acts).shown d) :
    ∃ past p future, acts = past ++ .step p.id :: future ∧
      (s₀.after past).publication? (.step p.id) = some p ∧
      (s₀.after acts).shown d = p.diagnostics := by
  rw [shown, Display.shown] at h ⊢
  cases hds : Keyed.get? (s₀.after acts).bench.display d.uri with
  | none =>
    rw [hds] at h
    cases h
  | some ds =>
    obtain ⟨past, p, future, -, hacts, hp, -, -, hdiagnostics⟩ := publication_of_displayed h₀ hds
    exact ⟨past, p, future, hacts, hp, hdiagnostics.symm⟩

/-- **When all offers are for the current version**: if and only if nothing is offered, or what is
displayed was published for this document and no change has come since. -/
theorem offers_current_iff (h₀ : s₀.Opened) {acts : List Action}
    (hd : (s₀.after acts).documents[doc]? = some d) :
    (∀ q ∈ (s₀.after acts).quickFixes d ((s₀.after acts).shown d),
        ComputedFor s₀ acts q.diagnostic doc d.version) ↔
      (s₀.after acts).quickFixes d ((s₀.after acts).shown d) = [] ∨
        DisplaysCurrent s₀ acts doc d := by
  constructor
  · intro hcurrent
    by_cases hnone : (s₀.after acts).quickFixes d ((s₀.after acts).shown d) = []
    · exact Or.inl hnone
    obtain ⟨q, hq⟩ := List.exists_mem_of_ne_nil _ hnone
    have hshown : q.diagnostic ∈ (s₀.after acts).shown d := QuickFix.diagnostic_mem hq
    obtain ⟨past, p, future, rfl, hp, hdiagnostics⟩ := publication_of_shown h₀.display_eq hshown
    obtain ⟨p', hp', rfl, hversion, hmem⟩ := hcurrent q hq
    -- The publication that is displayed is the one that the offer was computed in.
    have hsame : p' = p := publication_eq_of_mem hp' (mem_publications.mpr ⟨_, _, _, rfl, hp⟩) hmem
      (hdiagnostics ▸ hshown)
    subst hsame
    have hlag := version_since_publication hp hd
    exact Or.inr ⟨past, p', future, rfl, hp, rfl, hdiagnostics, by omega⟩
  · rintro (hnone | ⟨past, p, future, rfl, hp, rfl, hdiagnostics, hcount⟩) q hq
    · rw [hnone] at hq
      cases hq
    · have hlag := version_since_publication hp hd
      have hmem : q.diagnostic ∈ p.diagnostics := hdiagnostics ▸ QuickFix.diagnostic_mem hq
      exact ⟨p, mem_publications.mpr ⟨_, _, _, rfl, hp⟩, rfl, by omega, hmem⟩

end

/-- Analyzer output with one finding, at the start of the text, that has one fix. -/
def oneFix : String :=
  "\x7b\"diagnostics\":[\x7b\"location\":\x7b\"start_line\":1,\"start_col\":1\x7d,\"fixes\":[\x7b\"edits\":[\x7b\"location\":\x7b\"start_line\":1,\"start_col\":1\x7d\x7d]\x7d]\x7d]\x7d"

def oneAttempt : List Action :=
  [.call 0, .step 0, .step 0, .step 0]

/-- Right after the sample session has published, its one offer is for the current version. -/
theorem offers_sample :
    ((sample [oneFix]).after oneAttempt).quickFixes sampleDocument
        (((sample [oneFix]).after oneAttempt).shown sampleDocument) ≠ [] ∧
      ∀ q ∈ ((sample [oneFix]).after oneAttempt).quickFixes sampleDocument
          (((sample [oneFix]).after oneAttempt).shown sampleDocument),
        ComputedFor (sample [oneFix]) oneAttempt q.diagnostic 0 1 := by
  have hrun : (((sample [oneFix]).after [.call 0, .step 0, .step 0]).publication? (.step 0)).map
        (fun p ↦ (p.id, p.doc, decide (((sample [oneFix]).after oneAttempt).shown sampleDocument =
          p.diagnostics))) = some (0, 0, true) ∧
      (((sample [oneFix]).after oneAttempt).quickFixes sampleDocument
        (((sample [oneFix]).after oneAttempt).shown sampleDocument)).isEmpty = false ∧
      ((sample [oneFix]).after oneAttempt).documents[0]? = some sampleDocument := by decide +kernel
  obtain ⟨hfound, hoffer, hd⟩ := hrun
  rw [Option.map_eq_some_iff] at hfound
  obtain ⟨p, hp, hp'⟩ := hfound
  obtain ⟨hid, hdoc, hshown⟩ := by simpa only [Prod.mk.injEq] using hp'
  refine ⟨List.isEmpty_eq_false_iff.mp hoffer, ?_⟩
  refine (offers_current_iff (opened_sample [oneFix]) hd).mpr (Or.inr ?_)
  exact ⟨[.call 0, .step 0, .step 0], p, [], by rw [hid]; rfl, by rw [hid]; exact hp, hdoc,
    of_decide_eq_true hshown, rfl⟩

/-- After a change, the offer for the former version is still there. -/
theorem not_offers_current :
    ¬ ∀ s₀ acts doc d, Opened s₀ → (s₀.after acts).documents[doc]? = some d →
      ∀ q ∈ (s₀.after acts).quickFixes d ((s₀.after acts).shown d),
        ComputedFor s₀ acts q.diagnostic doc d.version := by
  intro hcurrent
  let acts := oneAttempt ++ [.edit 0 "z"]
  let d := sampleDocument.setText "z"
  have hrun : (((sample [oneFix]).after acts).quickFixes d
        (((sample [oneFix]).after acts).shown d)).isEmpty = false ∧
      ((sample [oneFix]).after acts).documents[0]? = some d ∧
      ((sample [oneFix]).publications acts).map (·.ticket.version) = [1] := by decide +kernel
  obtain ⟨hoffer, hd, hversions⟩ := hrun
  obtain ⟨q, hq⟩ := List.exists_mem_of_ne_nil _ (List.isEmpty_eq_false_iff.mp hoffer)
  obtain ⟨p, hp, -, hversion, -⟩ := hcurrent _ acts 0 d (opened_sample [oneFix]) hd q hq
  have hmem := List.mem_map_of_mem (f := (·.ticket.version)) hp
  rw [hversions, hversion] at hmem
  revert hmem
  decide

end Session

end DiagnosticFeed
