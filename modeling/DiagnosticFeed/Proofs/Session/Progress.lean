import DiagnosticFeed.Proofs.Session.Version
import Mathlib.Data.List.Induction
import Mathlib.Data.List.Nodup

/-!
# Attempts over time

An attempt is found by its number for as long as the session lasts, and only two actions touch it:
its own steps, which the table of moves describes, and making its end known. Everything else leaves
it where it is, including the steps of all other attempts.

From this follows where the ticket of an attempt comes from. The list of attempts does not hold the
document an attempt began with, so this is a statement about the actions before: one of them was the
attempt's first step, and the ticket tells the version at that moment.
-/

namespace DiagnosticFeed

namespace Session

/-! ## One action -/

theorem attempt?_id {s : Session} {i : Nat} {a : Attempt} (h : s.attempt? i = some a) :
    a.id = i := by
  simpa using List.find?_some h

theorem attempt?_setStage (s : Session) (id i : Nat) (st : Stage) :
    (s.setStage id st).attempt? i =
      (s.attempt? i).map fun a ↦ if i = id then { a with stage := st } else a := by
  rw [attempt?, setStage, List.find?_map]
  -- The search looks at numbers, which a stage does not change.
  have hsame : ((fun a : Attempt ↦ a.id == i) ∘ fun a : Attempt ↦
      if a.id == id then { a with stage := st } else a) = fun a ↦ a.id == i := by
    funext a
    rw [Function.comp_apply]
    split <;> rfl
  rw [hsame]
  change (s.attempt? i).map _ = _
  cases h : s.attempt? i with
  | none => rfl
  | some a =>
    have hid : a.id = i := attempt?_id h
    simp [hid]

theorem attempt?_of_move {s : Session} {i : Nat} {a : Attempt} {st : Stage}
    (ha : s.attempt? i = some a) (h : (s.step i).attempts = (s.setStage i st).attempts) :
    (s.step i).attempt? i = some { a with stage := st } := by
  rw [attempt?, h]
  exact (attempt?_setStage s i i st).trans (by simp [ha])

theorem attempt?_append {s s' : Session} {a : Attempt} (h : s'.attempts = s.attempts ++ [a])
    (i : Nat) : s'.attempt? i = (s.attempt? i).or (if a.id = i then some a else none) := by
  rw [attempt?, attempt?, h, List.find?_append, List.find?_singleton]
  simp only [beq_iff_eq]

/-- What an action can do to an attempt: the stage it is in afterwards. -/
inductive Progress (s : Session) (e : Action) (a : Attempt) : Stage → Prop
  | idle : Progress s e a a.stage
  | moved (d : Document) (st : Stage) (step : e = .step a.id)
    (document : s.documents[a.doc]? = some d) (can : s.canStep a = true)
    (move : Move s d (s.act e) a.stage st) : Progress s e a st
  | settled (b : Option Begun) (r : Result) (settle : e = .settle a.id)
    (ended : a.stage = .ended b r) : Progress s e a (.settled b r)

/-- **Three things can happen to the list of attempts**: nothing, one more attempt, or another stage
for one that is there. -/
theorem attempts_act (s : Session) (e : Action) :
    (s.act e).attempts = s.attempts ∨
      (∃ doc origin, (s.act e).attempts = s.attempts ++ [⟨s.next, doc, origin, .created⟩] ∧
        (s.act e).next = s.next + 1) ∨
      ∃ a st, s.attempt? a.id = some a ∧ (s.act e).attempts = (s.setStage a.id st).attempts ∧
        Progress s e a st := by
  by_cases haside : e.isAside = true
  · exact Or.inl (s.aside_act haside).attempts
  by_cases hunheard : e.isUnheard = true
  · obtain ⟨documents, disk, h⟩ := s.unheard_act hunheard
    exact Or.inl (by rw [h])
  cases e with
  | edit doc text => exact Or.inl (aside_trigger (s.setText doc text) doc).attempts
  | forget doc =>
    rw [act]
    rcases s.forget_cases doc with h | ⟨d, -, h⟩ <;> exact Or.inl (by rw [h])
  | call doc => exact Or.inr (Or.inl ⟨doc, .call (s.calls + 1), rfl, rfl⟩)
  | fire order =>
    rcases s.fire_cases order with h | ⟨t, -, -, h⟩
    · exact Or.inl (congrArg attempts h)
    · exact Or.inr (Or.inl ⟨t.doc, .timer, congrArg attempts h, congrArg next h⟩)
  | step id =>
    rcases s.step_cases id with h | ⟨a, d, st, ha, hd, hcan, hattempts, hmove⟩
    · exact Or.inl (congrArg attempts h)
    · have hid : a.id = id := attempt?_id ha
      subst hid
      exact Or.inr (Or.inr ⟨a, st, ha, hattempts, .moved d st rfl hd hcan hmove⟩)
  | settle id =>
    rcases s.settle_cases id with h | ⟨a, b, r, ha, hended, hattempts⟩
    · exact Or.inl (congrArg attempts h)
    · have hid : a.id = id := attempt?_id ha
      subst hid
      exact Or.inr (Or.inr ⟨a, .settled b r, ha, hattempts, .settled b r rfl hended⟩)
  | _ => simp [Action.isAside, Action.isUnheard] at haside hunheard

section

variable {s : Session} {i : Nat}

/-- **An attempt stays**, with its number, its document and its origin, whatever happens. -/
theorem attempt?_act {a : Attempt} (h : s.attempt? i = some a) (e : Action) :
    ∃ st, (s.act e).attempt? i = some { a with stage := st } ∧ Progress s e a st := by
  rcases s.attempts_act e with hsame | ⟨doc, origin, hnew, -⟩ | ⟨a₁, st, ha, hset, hprogress⟩
  · exact ⟨a.stage, by rw [attempt?, hsame]; exact h, .idle⟩
  · exact ⟨a.stage, by rw [attempt?_append hnew, h]; rfl, .idle⟩
  · have hfind : (s.act e).attempt? i = (s.setStage a₁.id st).attempt? i := by
      rw [attempt?, attempt?, hset]
    rw [hfind, attempt?_setStage, h]
    -- The action may have been about another attempt.
    by_cases hi : i = a₁.id
    · subst hi
      rw [h] at ha
      cases ha
      exact ⟨st, by simp, hprogress⟩
    · exact ⟨a.stage, by simp [hi], .idle⟩

/-- **What all progress of an attempt keeps of its stage, every run keeps.** -/
theorem stage_after {P : Stage → Prop} {a : Attempt}
    (hkeeps : ∀ {s e a st}, Progress s e a st → P a.stage → P st)
    (h : s.attempt? i = some a) (ha : P a.stage) (acts : List Action) :
    ∃ st, (s.after acts).attempt? i = some { a with stage := st } ∧ P st := by
  induction acts generalizing s a with
  | nil => exact ⟨a.stage, h, ha⟩
  | cons e acts ih =>
    obtain ⟨st, hst, hprogress⟩ := attempt?_act h e
    exact ih (a := { a with stage := st }) hst (hkeeps hprogress ha)

theorem attempt?_of_act {e : Action} {a' : Attempt} (h : (s.act e).attempt? i = some a') :
    (∃ a st, s.attempt? i = some a ∧ a' = { a with stage := st } ∧ Progress s e a st) ∨
      s.attempt? i = none ∧ a'.stage = .created := by
  cases hi : s.attempt? i with
  | some a =>
    obtain ⟨st, hst, hprogress⟩ := attempt?_act hi e
    rw [h] at hst
    cases hst
    exact Or.inl ⟨a, st, rfl, rfl, hprogress⟩
  | none =>
    refine Or.inr ⟨rfl, ?_⟩
    rcases s.attempts_act e with hsame | ⟨doc, origin, hnew, -⟩ | ⟨a₁, st, -, hset, -⟩
    · rw [attempt?, hsame] at h
      exact absurd (hi.symm.trans h) (by simp)
    · rw [attempt?_append hnew, hi, Option.none_or] at h
      split at h <;> cases h
      rfl
    · have hfind : (s.act e).attempt? i = (s.setStage a₁.id st).attempt? i := by
        rw [attempt?, attempt?, hset]
      rw [hfind, attempt?_setStage, hi] at h
      cases h

end

/-! ## Numbers -/

/-- The numbers of attempts have all been given out. -/
theorem id_lt_next {s₀ : Session} (h₀ : s₀.attempts = []) (acts : List Action) :
    ∀ a ∈ (s₀.after acts).attempts, a.id < (s₀.after acts).next := by
  induction acts using List.reverseRecOn with
  | nil =>
    intro a ha
    rw [after_nil, h₀] at ha
    cases ha
  | append_singleton acts e ih =>
    rw [after_concat]
    intro a ha
    have hle := ((s₀.after acts).onward_act e).next_le
    rcases (s₀.after acts).attempts_act e with
      hsame | ⟨doc, origin, hnew, hnext⟩ | ⟨a₁, st, -, hset, -⟩
    · rw [hsame] at ha
      exact (ih a ha).trans_le hle
    · rw [hnew, List.mem_append, List.mem_singleton] at ha
      rcases ha with ha | rfl
      · exact (ih a ha).trans_le hle
      · rw [hnext]
        exact Nat.lt_succ_self _
    · rw [hset] at ha
      obtain ⟨a', ha', rfl⟩ := List.mem_map.mp ha
      have hid := (ih a' ha').trans_le hle
      split <;> exact hid

/-- **The next number is free**: no attempt has it. -/
theorem attempt?_next {s₀ : Session} (h₀ : s₀.attempts = []) (acts : List Action) :
    (s₀.after acts).attempt? (s₀.after acts).next = none := by
  rw [attempt?, List.find?_eq_none]
  intro a ha
  have hid := id_lt_next h₀ acts a ha
  simp only [beq_iff_eq]
  omega

theorem setStage_ids (s : Session) (id : Nat) (st : Stage) :
    (s.setStage id st).attempts.map Attempt.id = s.attempts.map Attempt.id := by
  rw [setStage, List.map_map]
  refine List.map_congr_left fun a _ ↦ ?_
  rw [Function.comp_apply]
  split <;> rfl

theorem nodup_ids {s₀ : Session} (h₀ : s₀.attempts = []) (acts : List Action) :
    ((s₀.after acts).attempts.map Attempt.id).Nodup := by
  induction acts using List.reverseRecOn with
  | nil => simp [h₀]
  | append_singleton acts e ih =>
    rw [after_concat]
    rcases (s₀.after acts).attempts_act e with
      hsame | ⟨doc, origin, hnew, -⟩ | ⟨a, st, -, hset, -⟩
    · rwa [hsame]
    · have hfresh : (s₀.after acts).next ∉ (s₀.after acts).attempts.map Attempt.id := by
        intro hmem
        obtain ⟨a, ha, hid⟩ := List.mem_map.mp hmem
        exact (id_lt_next h₀ acts a ha).ne hid
      rw [hnew, List.map_append, List.map_singleton, ← List.concat_eq_append]
      exact ih.concat hfresh
    · rwa [hset, setStage_ids]

/-- If the numbers of attempts are distinct, putting an attempt into a stage changes it alone. -/
theorem setStage_attempts (s : Session) (st : Stage) {i : Nat} {a : Attempt}
    (hids : (s.attempts.map Attempt.id).Nodup) (ha : s.attempt? i = some a) :
    ∃ before behind, s.attempts = before ++ a :: behind ∧
      (s.setStage i st).attempts = before ++ { a with stage := st } :: behind := by
  have hid : a.id = i := attempt?_id ha
  subst hid
  obtain ⟨before, behind, hsplit⟩ := List.append_of_mem (List.mem_of_find?_eq_some ha)
  rw [hsplit, List.map_append, List.map_cons, List.nodup_middle, List.nodup_cons,
    ← List.map_append] at hids
  have hkeep : ∀ l ⊆ before ++ behind,
      l.map (fun a' ↦ if a'.id == a.id then { a' with stage := st } else a') = l := by
    intro l hl
    refine (List.map_congr_left fun a' ha' ↦ ?_).trans (List.map_id l)
    have hother : a'.id ≠ a.id := fun hid ↦ hids.1 (hid ▸ List.mem_map_of_mem (hl ha'))
    simp [hother]
  refine ⟨before, behind, hsplit, ?_⟩
  rw [setStage, hsplit, List.map_append, List.map_cons,
    hkeep before (List.subset_append_left before behind),
    hkeep behind (List.subset_append_right before behind)]
  simp

/-! ## Whole runs

What holds of new attempts and is kept by everything that an action can do to an attempt holds of
all attempts of a session that began with none. The statement may speak of the actions so far. -/

/-- Induction along the actions that an attempt has seen. -/
theorem attempt_induction {s₀ : Session} (h₀ : s₀.attempts = [])
    {P : List Action → Attempt → Prop}
    (created : ∀ acts a, (s₀.after acts).attempt? a.id = some a → a.stage = .created → P acts a)
    (progress : ∀ acts e a st, (s₀.after acts).attempt? a.id = some a → P acts a →
      Progress (s₀.after acts) e a st → P (acts ++ [e]) { a with stage := st })
    (acts : List Action) {i : Nat} {a : Attempt} (h : (s₀.after acts).attempt? i = some a) :
    P acts a := by
  have hid : a.id = i := attempt?_id h
  subst hid
  induction acts using List.reverseRecOn generalizing a with
  | nil =>
    rw [after_nil, attempt?, h₀] at h
    cases h
  | append_singleton acts e ih =>
    have hact := h
    rw [after_concat] at hact
    rcases attempt?_of_act hact with ⟨a₁, st, ha₁, rfl, hprogress⟩ | ⟨-, hcreated⟩
    · exact progress acts e a₁ st ha₁ (ih ha₁) hprogress
    · exact created _ a h hcreated

end Session

/-- What an attempt fixed at its start, if it has begun. -/
def Stage.begun? : Stage → Option Begun
  | .created => none
  | .makingRoom b .. | .writing b .. | .spawning b .. | .running b .. | .cleaning b .. => some b
  | .ended b _ | .settled b _ => b

instance : (st : Stage) → Decidable (st = .created)
  | .created => isTrue rfl
  | .makingRoom .. | .writing .. | .spawning .. | .running .. | .cleaning .. | .ended ..
  | .settled .. => isFalse nofun

namespace Session

section

variable {s s' : Session} {d : Document} {b : Begun} {t : Target}
  {o : Except Failure (Option Answer)} {snap : Option FilePath} {st st' : Stage}

theorem Following.begun? (h : Following s d b t s' o snap st) : st.begun? = some b := by
  cases h <;> rfl

theorem Calling.begun? (h : Calling s d b t snap s' st) : st.begun? = some b := by
  cases h with
  | pathless st empty following => exact following.begun?
  | spawned run directory path kept => rfl

/-- Only the first step of an attempt fixes anything. -/
theorem Move.begun? (h : Move s d s' st st') :
    st'.begun? = st.begun? ∨
      st = .created ∧ s.enabled = true ∧ st'.begun? = some ⟨s.now, .capture d⟩ := by
  cases h with
  | turnedDown off kept => exact Or.inl rfl
  | inPlace st on inPlace calling => exact Or.inr ⟨rfl, on, calling.begun?⟩
  | copy on copy kept => exact Or.inr ⟨rfl, on, rfl⟩
  | noRoom b t p text e failed kept => exact Or.inl rfl
  | room b t p text disk made kept => exact Or.inl rfl
  | unwritten b t p text e disk failed kept => exact Or.inl rfl
  | written b t p text disk st written calling => exact Or.inl calling.begun?
  | entered b t snap run directory kept => exact Or.inl rfl
  | missing b t snap run directory e st cause following => exact Or.inl following.begun?
  | refused b t snap run directory e st cause following => exact Or.inl following.begun?
  | broken b t snap run directory e st cause following => exact Or.inl following.begun?
  | lost b t snap run due order message st fault following => exact Or.inl following.begun?
  | answered b t snap run due order st fine following => exact Or.inl following.begun?
  | cleaned b t p o disk notices r gone ending => exact Or.inl rfl
  | uncleaned b t p o e r failed ending => exact Or.inl rfl

theorem Move.begun?_of_created (h : Move s d s' .created st') (hon : s.enabled = true) :
    st'.begun? = some ⟨s.now, .capture d⟩ := by
  cases h with
  | turnedDown off kept =>
    rw [hon] at off
    cases off
  | inPlace st on inPlace calling => exact calling.begun?
  | copy on copy kept => rfl

end

/-- After some actions, an attempt is about to begin with a document, and will fix `b`. -/
structure Begins (s₀ : Session) (acts : List Action) (id doc : Nat) (d : Document) (b : Begun) :
    Prop where
  created : ∃ a, (s₀.after acts).attempt? id = some a ∧ a.doc = doc ∧ a.stage = .created
  document : (s₀.after acts).documents[doc]? = some d
  enabled : (s₀.after acts).enabled = true
  begun : b = ⟨(s₀.after acts).now, .capture d⟩

/-- **A ticket was captured by the attempt that holds it**, at its first step, from its document as
it was then. -/
theorem begins_of_begun {s₀ : Session} (h₀ : s₀.attempts = []) {acts : List Action} {i : Nat}
    {a : Attempt} {b : Begun} (h : (s₀.after acts).attempt? i = some a)
    (hb : a.stage.begun? = some b) :
    ∃ earlier later d, acts = earlier ++ .step a.id :: later ∧
      Begins s₀ earlier a.id a.doc d b := by
  revert b
  refine attempt_induction h₀ (P := fun acts a ↦ ∀ {b}, a.stage.begun? = some b →
    ∃ earlier later d, acts = earlier ++ .step a.id :: later ∧
      Begins s₀ earlier a.id a.doc d b) ?_ ?_ acts h
  · intro acts a _ hcreated b hb
    rw [hcreated] at hb
    cases hb
  · intro acts e a st ha ih hprogress b hb
    -- Whoever had begun before keeps what it fixed; the actions only get longer.
    have hold : a.stage.begun? = some b → ∃ earlier later d,
        acts ++ [e] = earlier ++ .step a.id :: later ∧ Begins s₀ earlier a.id a.doc d b := by
      intro hold
      obtain ⟨earlier, later, d, rfl, hbegins⟩ := ih hold
      exact ⟨earlier, later ++ [e], d, by simp, hbegins⟩
    cases hprogress with
    | idle => exact hold hb
    | moved d st step document can move =>
      rcases move.begun? with hsame | ⟨hcreated, hon, hbegun⟩
      · exact hold (hsame ▸ hb)
      · exact ⟨acts, [], d, by rw [step], ⟨a, ha, rfl, hcreated⟩, document, hon,
          Option.some.inj (hb.symm.trans hbegun)⟩
    | settled b' r settle ended =>
      refine hold ?_
      rw [ended]
      exact hb

theorem begun?_after {s : Session} {i : Nat} {a : Attempt} {b : Begun}
    (h : s.attempt? i = some a) (hb : a.stage.begun? = some b) (acts : List Action) :
    ∃ st, (s.after acts).attempt? i = some { a with stage := st } ∧ st.begun? = some b := by
  refine stage_after (P := (·.begun? = some b)) ?_ h hb acts
  intro s e a st hprogress hb
  cases hprogress with
  | idle => exact hb
  | moved d st step document can move =>
    rcases move.begun? with hsame | ⟨hcreated, -, -⟩
    · exact hsame.trans hb
    · rw [hcreated] at hb
      cases hb
  | settled b' r settle ended =>
    rw [ended] at hb
    exact hb

theorem Begins.begun?_after {s₀ : Session} {acts : List Action} {i doc : Nat} {d : Document}
    {b : Begun} (h : Begins s₀ acts i doc d b) (later : List Action) :
    ∃ a, (s₀.after (acts ++ .step i :: later)).attempt? i = some a ∧ a.doc = doc ∧
      a.stage.begun? = some b := by
  obtain ⟨a, ha, rfl, hcreated⟩ := h.created
  have hcan : (s₀.after acts).canStep a = true := by rw [canStep, hcreated]
  obtain ⟨st, hattempts, hmove⟩ := step_move ha h.document hcan
  rw [hcreated] at hmove
  have hst := attempt?_of_move ha hattempts
  have hbegun : st.begun? = some b := by
    rw [hmove.begun?_of_created h.enabled, h.begun]
  obtain ⟨st', hst', hbegun'⟩ := Session.begun?_after hst hbegun later
  exact ⟨{ a with stage := st' }, by rw [after_append]; exact hst', rfl, hbegun'⟩

end Session

end DiagnosticFeed
