import DiagnosticFeed.Proofs.Session.Filing
import DiagnosticFeed.Proofs.Session.Publication
import DiagnosticFeed.Proofs.SnapshotNames
import Mathlib.Data.List.Infix

/-!
# What attempts analyze

An attempt settles at its first step what it analyzes, the file of its document or a snapshot, and
keeps to it. Each snapshot takes a name that no other has. So a normal form that is the one of a
snapshot tells which attempt the snapshot belongs to, even after the attempt has ended and whatever
documents the attempts were on.
-/

namespace DiagnosticFeed

/-- What an attempt analyzes, from its first step to its last. -/
def Stage.target? : Stage → Option Target
  | .makingRoom _ t _ _ | .writing _ t _ _ | .spawning _ t .. => some t
  | .running _ t .. | .cleaning _ t .. => some t
  | _ => none

theorem Stage.target?_of_answer? {st : Stage} {b : Begun} {t : Target} {answer : Answer}
    (h : st.answer? = some (b, t, answer)) : st.target? = some t := by
  rcases Stage.answer?_cases h with ⟨run, due, order, rfl, -, -⟩ | ⟨p, rfl⟩ <;> rfl

namespace Session

/-- What an attempt on a document is to analyze that begins now. -/
def targetOf (s : Session) (d : Document) : Target :=
  if Snapshot.isInPlace d then Snapshot.inPlace s.cwd d
  else Snapshot.copyAt s.cwd d (Snapshot.nextPath s.scratch d.path)

section

variable {s s' : Session} {d : Document} {b : Begun} {t t' : Target}
  {o : Except Failure (Option Answer)} {snap : Option FilePath} {st st' : Stage}

theorem Following.target?_eq (h : Following s d b t s' o snap st) (ht : st.target? = some t') :
    t' = t := by
  cases h with
  | toClean p kept => exact (Option.some.inj ht).symm
  | toEnd r ending => cases ht

theorem Calling.target?_eq (h : Calling s d b t snap s' st) (ht : st.target? = some t') :
    t' = t := by
  cases h with
  | pathless st empty following => exact following.target?_eq ht
  | spawned run directory path kept => exact (Option.some.inj ht).symm

theorem targetOf_temporary : (s.targetOf d).temporary = true ↔ Snapshot.isInPlace d = false := by
  rw [targetOf]
  cases Snapshot.isInPlace d <;> simp [Snapshot.inPlace, Snapshot.copyAt]

theorem targetOf_analysis (h : Snapshot.isInPlace d = false) :
    (s.targetOf d).analysis =
      FilePath.normalText? s.cwd (Snapshot.nextPath s.scratch d.path).toText := by
  rw [targetOf, h]
  rfl

theorem Move.target? (h : Move s d s' st st') (ht : st'.target? = some t') :
    st.target? = some t' ∨ st = .created ∧ s.enabled = true ∧ t' = s.targetOf d := by
  cases h with
  | inPlace st on inPlace calling =>
    exact .inr ⟨rfl, on, (calling.target?_eq ht).trans (if_pos inPlace).symm⟩
  | copy on copy kept =>
    exact .inr ⟨rfl, on, (Option.some.inj ht).symm.trans (if_neg (by simp [copy])).symm⟩
  | room b t p text disk made kept => exact .inl ht
  | written b t p text disk st written calling =>
    rw [calling.target?_eq ht]
    exact .inl rfl
  | entered b t snap run directory kept => exact .inl ht
  | missing b t snap run directory e st cause following =>
    rw [following.target?_eq ht]
    exact .inl rfl
  | refused b t snap run directory e st cause following =>
    rw [following.target?_eq ht]
    exact .inl rfl
  | broken b t snap run directory e st cause following =>
    rw [following.target?_eq ht]
    exact .inl rfl
  | lost b t snap run due order message st fault following =>
    rw [following.target?_eq ht]
    exact .inl rfl
  | answered b t snap run due order st fine following =>
    rw [following.target?_eq ht]
    exact .inl rfl
  | _ => cases ht

/-! ## The supply of names -/

theorem Ending.scratch {r : Result} (h : Ending s d b t s' o r) : s'.scratch = s.scratch := by
  cases h with
  | failed e kept => exact kept.scratch
  | nothing kept => exact kept.scratch
  | stale answer old kept => exact kept.scratch
  | published answer current kept => exact kept.scratch

theorem Following.scratch (h : Following s d b t s' o snap st) : s'.scratch = s.scratch := by
  cases h with
  | toClean p kept => exact kept.scratch
  | toEnd r ending => exact ending.scratch

theorem Calling.scratch (h : Calling s d b t snap s' st) : s'.scratch = s.scratch := by
  cases h with
  | pathless st empty following => exact following.scratch
  | spawned run directory path kept => exact kept.scratch

/-- A name is taken by the first step of an attempt that makes a snapshot, and by nothing else. -/
theorem Move.scratch (h : Move s d s' st st') :
    s'.scratch = s.scratch ∨ s'.scratch = Snapshot.take s.scratch := by
  cases h with
  | turnedDown off kept => exact .inl kept.scratch
  | inPlace st on inPlace calling => exact .inl calling.scratch
  | copy on copy kept => exact .inr kept.scratch
  | noRoom b t p text e failed kept => exact .inl kept.scratch
  | room b t p text disk made kept => exact .inl kept.scratch
  | unwritten b t p text e disk failed kept => exact .inl kept.scratch
  | written b t p text disk st written calling => exact .inl calling.scratch
  | entered b t snap run directory kept => exact .inl kept.scratch
  | missing b t snap run directory e st cause following => exact .inl following.scratch
  | refused b t snap run directory e st cause following => exact .inl following.scratch
  | broken b t snap run directory e st cause following => exact .inl following.scratch
  | lost b t snap run due order message st fault following => exact .inl following.scratch
  | answered b t snap run due order st fine following => exact .inl following.scratch
  | cleaned b t p o disk notices r gone ending => exact .inl ending.scratch
  | uncleaned b t p o e r failed ending => exact .inl ending.scratch

theorem Move.scratch_of_copy (h : Move s d s' .created st') (hon : s.enabled = true)
    (hcopy : Snapshot.isInPlace d = false) : s'.scratch = Snapshot.take s.scratch := by
  cases h with
  | turnedDown off kept => cases hon.symm.trans off
  | inPlace st on inPlace calling => cases hcopy.symm.trans inPlace
  | copy on copy kept => exact kept.scratch

theorem issued_act (s : Session) (e : Action) : s.scratch.issued ≤ (s.act e).scratch.issued := by
  cases e with
  | step id =>
    rw [act]
    rcases s.step_cases id with hsame | ⟨a, d, st, -, -, -, -, hmove⟩
    · rw [hsame]
    · rcases hmove.scratch with hscratch | hscratch <;> rw [hscratch]
      exact Nat.le_succ _
  | _ => rw [scratch_act s (by simp)]

theorem issued_after (s : Session) (acts : List Action) :
    s.scratch.issued ≤ (s.after acts).scratch.issued := by
  induction acts generalizing s with
  | nil => exact Nat.le_refl _
  | cons e acts ih => exact (s.issued_act e).trans (ih _)

end

/-! ## Whose snapshot it is -/

/-- In a run, an attempt settled at its first step to analyze a snapshot, and `p` was the normal
form of its path then. -/
structure SnapshotAt (s₀ : Session) (acts : List Action) (i : Nat) (p : String)
    (earlier later : List Action) (d : Document) : Prop where
  moment : acts = earlier ++ .step i :: later
  begins : ∃ doc b, Begins s₀ earlier i doc d b
  copied : Snapshot.isInPlace d = false
  path : Target.present? ((s₀.after earlier).targetOf d).analysis = some p

/-- A session all of whose paths are such that a text can spell them. -/
structure Spelled (s : Session) : Prop where
  cwd : s.cwd.WellFormed
  scratch : s.scratch.directory.WellFormed
  documents : ∀ d ∈ s.documents, ∀ p ∈ d.path, p.WellFormed

instance (s : Session) : Decidable s.Spelled :=
  decidable_of_iff (s.cwd.WellFormed ∧ s.scratch.directory.WellFormed ∧
    ∀ d ∈ s.documents, ∀ p ∈ d.path, p.WellFormed)
    ⟨fun h ↦ ⟨h.1, h.2.1, h.2.2⟩, fun h ↦ ⟨h.cwd, h.scratch, h.documents⟩⟩

section

variable {s₀ : Session} {acts earlier earlier' later later' : List Action} {i j doc doc' : Nat}
  {p : String} {d d' : Document} {b b' : Begun} {a : Attempt} {t : Target}

theorem Begins.unique (h : Begins s₀ earlier i doc d b) (h' : Begins s₀ earlier' i doc' d' b')
    (heq : earlier ++ .step i :: later = earlier' ++ .step i :: later') : earlier' = earlier := by
  have honce {earlier between : List Action} {doc doc' : Nat} {d d' : Document} {b b' : Begun}
      (h : Begins s₀ earlier i doc d b) :
      ¬ Begins s₀ (earlier ++ .step i :: between) i doc' d' b' := by
    intro h'
    obtain ⟨a, ha, -, hbegun⟩ := h.begun?_after between
    obtain ⟨a', ha', -, hcreated⟩ := h'.created
    cases ha.symm.trans ha'
    rw [hcreated] at hbegun
    cases hbegun
  rcases moments_cases heq with ⟨hsame, -, -⟩ | ⟨between, rfl, -⟩ | ⟨between, rfl, -⟩
  · exact hsame
  · exact absurd h' (honce h)
  · exact absurd h (honce h')

/-- **What an attempt analyzes** was settled at its first step. -/
theorem begins_of_target? (h₀ : s₀.attempts = []) (h : (s₀.after acts).attempt? i = some a)
    (ht : a.stage.target? = some t) :
    ∃ earlier later d b, acts = earlier ++ .step a.id :: later ∧
      Begins s₀ earlier a.id a.doc d b ∧ t = (s₀.after earlier).targetOf d := by
  revert ht
  refine attempt_induction h₀ (P := fun acts a ↦ a.stage.target? = some t →
    ∃ earlier later d b, acts = earlier ++ .step a.id :: later ∧
      Begins s₀ earlier a.id a.doc d b ∧ t = (s₀.after earlier).targetOf d) ?_ ?_ acts h
  · intro acts a _ hcreated ht
    rw [hcreated] at ht
    cases ht
  · intro acts e a st ha ih hprogress ht
    have hold (ht : a.stage.target? = some t) : ∃ earlier later d b,
        acts ++ [e] = earlier ++ .step a.id :: later ∧ Begins s₀ earlier a.id a.doc d b ∧
          t = (s₀.after earlier).targetOf d := by
      obtain ⟨earlier, later, d, b, rfl, hsettled⟩ := ih ht
      exact ⟨earlier, later ++ [e], d, b, by simp, hsettled⟩
    cases hprogress with
    | idle => exact hold ht
    | moved d st step document can move =>
      rcases move.target? ht with hsame | ⟨hcreated, hon, rfl⟩
      · exact hold hsame
      · exact ⟨acts, [], d, _, by rw [step], ⟨⟨a, ha, rfl, hcreated⟩, document, hon, rfl⟩, rfl⟩
    | settled b r settle ended => cases ht

/-- **A temporary target is a snapshot** that the attempt settled at its first step. -/
theorem snapshotAt_iff (h₀ : s₀.attempts = []) (h : (s₀.after acts).attempt? i = some a)
    (ht : a.stage.target? = some t) :
    (∃ earlier later d, SnapshotAt s₀ acts i p earlier later d) ↔
      t.temporary = true ∧ Target.present? t.analysis = some p := by
  have hid : a.id = i := attempt?_id h
  subst hid
  obtain ⟨earlier, later, d, b, hacts, hbegins, rfl⟩ := begins_of_target? h₀ h ht
  rw [targetOf_temporary]
  constructor
  · rintro ⟨earlier', later', d', hmoment, ⟨doc', b', hbegins'⟩, hcopied, hpath⟩
    obtain rfl : earlier' = earlier := hbegins.unique hbegins' (hacts.symm.trans hmoment)
    obtain ⟨a₁, ha₁, hdoc₁, -⟩ := hbegins.created
    obtain ⟨a₂, ha₂, hdoc₂, -⟩ := hbegins'.created
    cases ha₁.symm.trans ha₂
    have hd := hbegins.document
    rw [← hdoc₁, hdoc₂, hbegins'.document] at hd
    cases hd
    exact ⟨hcopied, hpath⟩
  · rintro ⟨hcopied, hpath⟩
    exact ⟨earlier, later, d, hacts, ⟨_, b, hbegins⟩, hcopied, hpath⟩

theorem SnapshotAt.append (h : SnapshotAt s₀ acts i p earlier later d) (more : List Action) :
    SnapshotAt s₀ (acts ++ more) i p earlier (later ++ more) d :=
  ⟨by rw [h.moment, List.append_assoc, List.cons_append], h.begins, h.copied, h.path⟩

theorem SnapshotAt.issued (h : SnapshotAt s₀ acts i p earlier later d) :
    (s₀.after (earlier ++ [.step i])).scratch.issued = (s₀.after earlier).scratch.issued + 1 := by
  obtain ⟨doc, b, ⟨a, ha, rfl, hcreated⟩, hd, hon, -⟩ := h.begins
  have hcan : (s₀.after earlier).canStep a = true := by rw [canStep, hcreated]
  obtain ⟨st, -, hmove⟩ := step_move ha hd hcan
  rw [hcreated] at hmove
  have hscratch := hmove.scratch_of_copy hon h.copied
  rw [after_concat, act, hscratch]
  rfl

/-- Of two snapshots the later one has the higher token. -/
theorem SnapshotAt.issued_lt (h : SnapshotAt s₀ acts i p earlier later d) {between : List Action}
    (hbetween : earlier' = earlier ++ .step i :: between) :
    (s₀.after earlier).scratch.issued < (s₀.after earlier').scratch.issued := by
  have hissued := h.issued
  have hlater := (s₀.after (earlier ++ [.step i])).issued_after between
  rw [← after_append, List.append_assoc, List.singleton_append, ← hbetween] at hlater
  omega

theorem SnapshotAt.normalText?_eq (h : SnapshotAt s₀ acts i p earlier later d) :
    FilePath.normalText? (s₀.after earlier).cwd
      (Snapshot.nextPath (s₀.after earlier).scratch d.path).toText = some p := by
  rw [← targetOf_analysis h.copied]
  exact (Option.filter_eq_some_iff.mp h.path).1

/-- **A normal form is that of one snapshot only.** -/
theorem SnapshotAt.unique (hspelled : ∀ before, before <+: acts → (s₀.after before).Spelled)
    (h : SnapshotAt s₀ acts i p earlier later d)
    (h' : SnapshotAt s₀ acts j p earlier' later' d') : i = j := by
  have hpaths := hspelled earlier (h.moment ▸ List.prefix_append ..)
  have hpaths' := hspelled earlier' (h'.moment ▸ List.prefix_append ..)
  obtain ⟨doc, b, hbegins⟩ := h.begins
  obtain ⟨doc', b', hbegins'⟩ := h'.begins
  have hsame := Snapshot.token_eq_of_normalText? hpaths.cwd hpaths'.cwd hpaths.scratch
    hpaths'.scratch (hpaths.documents d (List.mem_of_getElem? hbegins.document))
    (hpaths'.documents d' (List.mem_of_getElem? hbegins'.document)) h.normalText?_eq
    h'.normalText?_eq
  -- Two moments with the same token are one.
  rcases moments_cases (h.moment.symm.trans h'.moment) with
    ⟨-, hstep, -⟩ | ⟨between, hearlier', -⟩ | ⟨between, hearlier, -⟩
  · cases hstep
    rfl
  · exact absurd hsame (h.issued_lt hearlier').ne
  · exact absurd hsame (h'.issued_lt hearlier).ne'

end

end Session

end DiagnosticFeed
