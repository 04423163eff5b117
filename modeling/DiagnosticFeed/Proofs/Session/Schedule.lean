import DiagnosticFeed.Proofs.Schedule.Machine
import DiagnosticFeed.Proofs.Session.Action

/-!
# The clockwork is one scheduler

The clockwork of a session lets attempts take all the steps they can in one turn, and wakes them in
the order of their alarms. Each of its turns is a list of actions, and so is everything that it
does. So what holds after every list of actions holds in every state that the clockwork comes to.
-/

namespace DiagnosticFeed

namespace Session

/-- Actions that nobody outside takes: the clock, the alarms, and the attempts move on. -/
def Action.isOwn : Action → Bool
  | .fire _ | .step _ | .settle _ | .pass _ => true
  | _ => false

/-- `s'` is what becomes of `s` by itself. -/
def Ran (s s' : Session) : Prop :=
  ∃ acts, (∀ e ∈ acts, e.isOwn = true) ∧ s' = s.after acts

theorem Ran.refl (s : Session) : Ran s s :=
  ⟨[], by simp, rfl⟩

theorem Ran.trans {s s' s'' : Session} (h : Ran s s') (h' : Ran s' s'') : Ran s s'' := by
  obtain ⟨acts, hown, rfl⟩ := h
  obtain ⟨more, hown', rfl⟩ := h'
  refine ⟨acts ++ more, ?_, by rw [after_append]⟩
  intro e he
  rcases List.mem_append.mp he with he | he
  · exact hown e he
  · exact hown' e he

theorem ran_act (s : Session) {e : Action} (he : e.isOwn = true) : Ran s (s.act e) :=
  ⟨[e], by simpa using he, rfl⟩

theorem ran_proceed (s : Session) (id n : Nat) : Ran s (s.proceed id n) := by
  induction n generalizing s with
  | zero => exact Ran.refl s
  | succ n ih => exact (s.ran_act (e := .step id) rfl).trans (ih (s.step id))

theorem follows_ran : machine.Follows Ran where
  refl := Ran.refl
  trans := Ran.trans
  perform := fun t s ↦ by
    cases t with
    | fire order => exact s.ran_act (e := .fire order) rfl
    | start id => exact s.ran_proceed id maxSteps
    | ring id => exact Ran.refl s
    | wake id => exact s.ran_proceed id maxSteps
    | settle id => exact s.ran_act (e := .settle id) rfl
  setNow := fun t s ↦ s.ran_act (e := .pass t) rfl

/-- **Waiting is a list of actions**: the state after a wait is reached by actions that the session
takes by itself. -/
theorem ran_waitIdle (a : Schedule.Agenda Session Turn) : Ran a.state (waitIdle a).state :=
  follows_ran.waitIdle busy hasPending a

end Session

end DiagnosticFeed
