import DiagnosticFeed.Schedule.Machine

/-!
# Whatever a machine does

All loops of a machine come down to two things, performing turns and moving the clock on. A relation
between a state and what becomes of it that holds across these two therefore holds across every
loop, however long it runs. Likewise a machine that does these two as another one does, with more in
its state, goes through every loop as the other one does.
-/

namespace DiagnosticFeed.Schedule

namespace Machine

variable {σ τ : Type}

/-- A relation between earlier and later states that holds across turns and moves of the clock. -/
structure Follows (m : Machine σ τ) (R : σ → σ → Prop) : Prop where
  refl : ∀ s, R s s
  trans : ∀ {s s' s''}, R s s' → R s' s'' → R s s''
  perform : ∀ t s, R s (m.perform t s).1
  setNow : ∀ t s, R s (m.setNow (max (m.now s) t) s)

namespace Follows

variable {m : Machine σ τ} {R : σ → σ → Prop}

theorem foldl_turn (h : m.Follows R) (ts : List τ) (a : Agenda σ τ) :
    R a.state (ts.foldl m.turn a).state := by
  induction ts generalizing a with
  | nil => exact h.refl a.state
  | cons t ts ih =>
    rw [List.foldl_cons]
    exact h.trans (h.perform t a.state) (ih (m.turn a t))

theorem round (h : m.Follows R) (a : Agenda σ τ) : R a.state (m.round a).state :=
  h.foldl_turn (a.ready ++ (m.dueAlarms a).map (·.turn))
    { state := a.state, ready := [], rung := a.rung ++ (m.dueAlarms a).map (·.order) }

theorem settleWithin (h : m.Follows R) (n : Nat) (a : Agenda σ τ) :
    R a.state (m.settleWithin n a).state := by
  induction n generalizing a with
  | zero => exact h.refl a.state
  | succ n ih =>
    rw [Machine.settleWithin]
    split
    · exact h.refl a.state
    · exact h.trans (h.round a) (ih (m.round a))

theorem settle (h : m.Follows R) (a : Agenda σ τ) : R a.state (m.settle a).state :=
  h.settleWithin _ a

theorem moveTo (h : m.Follows R) (t : Time) (a : Agenda σ τ) : R a.state (m.moveTo t a).state :=
  h.setNow t a.state

theorem advanceWithin (h : m.Follows R) (goal : Time) (n : Nat) (a : Agenda σ τ) :
    R a.state (m.advanceWithin goal n a).state := by
  induction n generalizing a with
  | zero => exact h.refl a.state
  | succ n ih =>
    -- What is to do now comes first; then the clock moves to the next alarm, or to the goal.
    rw [Machine.advanceWithin]
    refine h.trans (h.settle a) ?_
    split
    · next t _ =>
      split
      · exact h.trans (h.moveTo t _) (ih _)
      · exact h.moveTo goal _
    · exact h.moveTo goal _

theorem advance (h : m.Follows R) (goal : Time) (a : Agenda σ τ) :
    R a.state (m.advance goal a).state :=
  h.advanceWithin goal _ a

theorem joinWithin (h : m.Follows R) (busy : σ → Bool) (n : Nat) (a : Agenda σ τ) :
    R a.state (m.joinWithin busy n a).state := by
  induction n generalizing a with
  | zero => exact h.refl a.state
  | succ n ih =>
    rw [Machine.joinWithin]
    refine h.trans (h.settle a) ?_
    split
    · split
      · next t _ => exact h.trans (h.moveTo t _) (ih _)
      · exact h.refl _
    · exact h.refl _

theorem join (h : m.Follows R) (busy : σ → Bool) (a : Agenda σ τ) :
    R a.state (m.join busy a).state :=
  h.joinWithin busy _ a

theorem poll (h : m.Follows R) (interval : Time) (a : Agenda σ τ) :
    R a.state (m.poll interval a).state :=
  h.advance _ a

theorem waitIdleWithin (h : m.Follows R) (busy pending : σ → Bool) (interval : Time) (n : Nat)
    (a : Agenda σ τ) : R a.state (m.waitIdleWithin busy pending interval n a).state := by
  induction n generalizing a with
  | zero => exact h.refl a.state
  | succ n ih =>
    rw [Machine.waitIdleWithin]
    split
    · exact h.trans (h.join busy a) (ih _)
    · split
      · exact h.trans (h.poll interval a) (ih _)
      · exact h.refl a.state

/-- A relation that holds across turns and moves of the clock holds across a wait. -/
theorem waitIdle (h : m.Follows R) (busy pending : σ → Bool) (a : Agenda σ τ) {interval : Time} :
    R a.state (m.waitIdle busy pending a interval).state :=
  h.waitIdleWithin busy pending interval _ a

end Follows

end Machine

/-! ## Machines with more in their states -/

/-- An agenda, with part of the state only. -/
def Agenda.map {σ σ' τ : Type} (f : σ' → σ) (a : Agenda σ' τ) : Agenda σ τ :=
  ⟨f a.state, a.ready, a.rung⟩

namespace Machine

variable {σ σ' τ : Type}

/-- A machine that does with part of its states what another machine does, as long as `P` holds. -/
structure Mirrors (m' : Machine σ' τ) (m : Machine σ τ) (f : σ' → σ) (P : σ' → Prop) : Prop where
  now : ∀ s, m'.now s = m.now (f s)
  alarms : ∀ s, m'.alarms s = m.alarms (f s)
  budget : ∀ {s}, P s → m'.budget s = m.budget (f s)
  setNow : ∀ t s, f (m'.setNow t s) = m.setNow t (f s)
  perform : ∀ {t s}, P s →
    f (m'.perform t s).1 = (m.perform t (f s)).1 ∧ (m'.perform t s).2 = (m.perform t (f s)).2
  keeps : m'.Follows fun s s' ↦ P s → P s'

namespace Mirrors

variable {m' : Machine σ' τ} {m : Machine σ τ} {f : σ' → σ} {P : σ' → Prop} {a : Agenda σ' τ}

theorem pendingAlarms (h : m'.Mirrors m f P) (a : Agenda σ' τ) :
    m'.pendingAlarms a = m.pendingAlarms (a.map f) := by
  rw [Machine.pendingAlarms, h.alarms]
  rfl

theorem dueAlarms (h : m'.Mirrors m f P) (a : Agenda σ' τ) :
    m'.dueAlarms a = m.dueAlarms (a.map f) := by
  rw [Machine.dueAlarms, h.pendingAlarms, h.now]
  rfl

theorem isSettled (h : m'.Mirrors m f P) (a : Agenda σ' τ) :
    m'.isSettled a = m.isSettled (a.map f) := by
  rw [Machine.isSettled, h.dueAlarms]
  rfl

theorem nextDue? (h : m'.Mirrors m f P) (a : Agenda σ' τ) :
    m'.nextDue? a = m.nextDue? (a.map f) := by
  rw [Machine.nextDue?, h.pendingAlarms]
  rfl

theorem fuel (h : m'.Mirrors m f P) (ha : P a.state) : m'.fuel a = m.fuel (a.map f) := by
  rw [Machine.fuel, h.budget ha]
  rfl

theorem moveTo (h : m'.Mirrors m f P) (t : Time) (a : Agenda σ' τ) :
    (m'.moveTo t a).map f = m.moveTo t (a.map f) := by
  rw [Machine.moveTo, Agenda.map, h.setNow, h.now]
  rfl

theorem foldl_turn (h : m'.Mirrors m f P) (ts : List τ) (ha : P a.state) :
    (ts.foldl m'.turn a).map f = ts.foldl m.turn (a.map f) := by
  induction ts generalizing a with
  | nil => rfl
  | cons t ts ih =>
    obtain ⟨hstate, hturns⟩ := h.perform (t := t) ha
    have hturn : (m'.turn a t).map f = m.turn (a.map f) t := by
      change Agenda.mk (f (m'.perform t a.state).1) (a.ready ++ (m'.perform t a.state).2) a.rung = _
      rw [hstate, hturns]
      rfl
    rw [List.foldl_cons, List.foldl_cons, ih (h.keeps.perform t a.state ha), hturn]

theorem round (h : m'.Mirrors m f P) (ha : P a.state) :
    (m'.round a).map f = m.round (a.map f) := by
  have hturns := h.foldl_turn (a := ⟨a.state, [], a.rung ++ (m'.dueAlarms a).map (·.order)⟩)
    (a.ready ++ (m'.dueAlarms a).map (·.turn)) ha
  rw [Machine.round, hturns, h.dueAlarms]
  rfl

theorem settleWithin (h : m'.Mirrors m f P) (n : Nat) (ha : P a.state) :
    (m'.settleWithin n a).map f = m.settleWithin n (a.map f) := by
  induction n generalizing a with
  | zero => rfl
  | succ n ih =>
    rw [Machine.settleWithin, Machine.settleWithin, h.isSettled]
    split
    · rfl
    · rw [ih (h.keeps.round a ha), h.round ha]

theorem settle (h : m'.Mirrors m f P) (ha : P a.state) :
    (m'.settle a).map f = m.settle (a.map f) := by
  rw [Machine.settle, h.settleWithin _ ha, h.fuel ha]
  rfl

theorem advanceWithin (h : m'.Mirrors m f P) (goal : Time) (n : Nat) (ha : P a.state) :
    (m'.advanceWithin goal n a).map f = m.advanceWithin goal n (a.map f) := by
  induction n generalizing a with
  | zero => rfl
  | succ n ih =>
    have hsettled := h.keeps.settle a ha
    rw [Machine.advanceWithin, Machine.advanceWithin, h.nextDue?, h.settle ha]
    cases m.nextDue? (m.settle (a.map f)) with
    | none => rw [h.moveTo, h.settle ha]
    | some t =>
      dsimp only
      split
      · rw [ih (h.keeps.moveTo t _ hsettled), h.moveTo, h.settle ha]
      · rw [h.moveTo, h.settle ha]

theorem advance (h : m'.Mirrors m f P) (goal : Time) (ha : P a.state) :
    (m'.advance goal a).map f = m.advance goal (a.map f) := by
  rw [Machine.advance, h.advanceWithin goal _ ha, h.fuel ha]
  rfl

variable {busy' pending' : σ' → Bool} {busy pending : σ → Bool}

theorem joinWithin (h : m'.Mirrors m f P) (hbusy : ∀ {s}, P s → busy' s = busy (f s)) (n : Nat)
    (ha : P a.state) : (m'.joinWithin busy' n a).map f = m.joinWithin busy n (a.map f) := by
  induction n generalizing a with
  | zero => rfl
  | succ n ih =>
    have hsettled := h.keeps.settle a ha
    have hstate : busy' (m'.settle a).state = busy (m.settle (a.map f)).state := by
      rw [hbusy hsettled, ← h.settle ha]
      rfl
    rw [Machine.joinWithin, Machine.joinWithin, h.nextDue?, h.settle ha, hstate]
    split
    · cases m.nextDue? (m.settle (a.map f)) with
      | none => exact h.settle ha
      | some t =>
        dsimp only
        rw [ih (h.keeps.moveTo t _ hsettled), h.moveTo, h.settle ha]
    · exact h.settle ha

theorem poll (h : m'.Mirrors m f P) (interval : Time) (ha : P a.state) :
    (m'.poll interval a).map f = m.poll interval (a.map f) := by
  rw [Machine.poll, h.advance _ ha, h.isSettled, h.nextDue?, h.now]
  rfl

theorem waitIdleWithin (h : m'.Mirrors m f P) (hbusy : ∀ {s}, P s → busy' s = busy (f s))
    (hpending : ∀ {s}, P s → pending' s = pending (f s)) (interval : Time) (n : Nat)
    (ha : P a.state) : (m'.waitIdleWithin busy' pending' interval n a).map f =
      m.waitIdleWithin busy pending interval n (a.map f) := by
  induction n generalizing a with
  | zero => rfl
  | succ n ih =>
    have hjoin : (m'.join busy' a).map f = m.join busy (a.map f) := by
      rw [join, h.joinWithin hbusy _ ha, h.fuel ha]
      rfl
    have hstate : busy' a.state = busy (a.map f).state ∧
        pending' a.state = pending (a.map f).state :=
      ⟨hbusy ha, hpending ha⟩
    rw [Machine.waitIdleWithin, Machine.waitIdleWithin, hstate.1, hstate.2]
    split
    · rw [ih (h.keeps.join busy' a ha), hjoin]
    · split
      · rw [ih (h.keeps.poll interval a ha), h.poll interval ha]
      · rfl

/-- **Waits go the same way** if the two machines agree on what they wait for. -/
theorem waitIdle (h : m'.Mirrors m f P) (hbusy : ∀ {s}, P s → busy' s = busy (f s))
    (hpending : ∀ {s}, P s → pending' s = pending (f s)) (interval : Time) (ha : P a.state) :
    (m'.waitIdle busy' pending' a interval).map f =
      m.waitIdle busy pending (a.map f) interval := by
  rw [Machine.waitIdle, h.waitIdleWithin hbusy hpending interval _ ha, h.fuel ha]
  rfl

end Mirrors

end Machine

end DiagnosticFeed.Schedule
