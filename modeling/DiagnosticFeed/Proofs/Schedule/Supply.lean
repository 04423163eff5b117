import DiagnosticFeed.Schedule.Machine
import Mathlib.Algebra.BigOperators.Group.List.Basic
import Mathlib.Algebra.Order.BigOperators.Group.List
import Mathlib.Algebra.Order.Group.Nat
import Mathlib.Algebra.Ring.Nat
import Mathlib.Data.List.MinMax

/-!
# Machines that come to rest

The turns of a machine form a queue. A round puts the turns of the alarms that are due at its end
and then takes turns from its front, as many as there are at that time; what they make ready goes to
the end again. So an invariant of the queue holds throughout if it holds across two steps, alarms
that ring and a turn that is taken, and across moves of the clock.

Every turn has a weight, and a state may have more in store. If each turn weighs more than
everything that it brings about, the weight of all that is left to do falls with each turn. Then
the loops end by themselves and not for want of fuel: at the present instant nothing is left to
do, and the clock arrives where it was asked to go.
-/

namespace DiagnosticFeed.Schedule.Machine

variable {σ τ : Type}

/-- Puts the turns of the alarms that are due at the end of the queue. -/
def ring (m : Machine σ τ) (a : Agenda σ τ) : Agenda σ τ :=
  { a with
    ready := a.ready ++ (m.dueAlarms a).map (·.turn)
    rung := a.rung ++ (m.dueAlarms a).map (·.order) }

/-- The weight of all that is left to do: the turns in the queue, those of the alarms that have not
rung, and what the state has in store. -/
def load (m : Machine σ τ) (weight : τ → Nat) (store : σ → Nat) (a : Agenda σ τ) : Nat :=
  (a.ready.map weight).sum + ((m.pendingAlarms a).map fun x ↦ weight x.turn).sum + store a.state

/-- An invariant of a machine whose turns weigh more than everything that they bring about. -/
structure Orderly (m : Machine σ τ) (I : Agenda σ τ → Prop) (weight : τ → Nat) (store : σ → Nat) :
    Prop where
  now_setNow : ∀ t s, m.now (m.setNow t s) = t
  alarms_setNow : ∀ t s, m.alarms (m.setNow t s) = m.alarms s
  store_setNow : ∀ t s, store (m.setNow t s) = store s
  now_perform : ∀ t s, m.now (m.perform t s).1 = m.now s
  ring : ∀ {a}, I a → I (m.ring a)
  perform : ∀ {t rest s rung}, I ⟨s, t :: rest, rung⟩ →
    I ⟨(m.perform t s).1, rest ++ (m.perform t s).2, rung⟩
  moveTo : ∀ {a t}, I a → m.isSettled a = true → (∀ x ∈ m.pendingAlarms a, t ≤ x.due) →
    I (m.moveTo t a)
  /-- An alarm that has rung is gone when its turn is done. -/
  rung : ∀ {a}, I a → a.ready = [] → m.pendingAlarms a = m.alarms a.state
  load_perform : ∀ {t rest s rung}, I ⟨s, t :: rest, rung⟩ →
    m.load weight store ⟨(m.perform t s).1, rest ++ (m.perform t s).2, rung⟩ <
      m.load weight store ⟨s, t :: rest, rung⟩
  load_lt : ∀ {a}, I a → m.load weight store a < m.fuel a

section

variable {m : Machine σ τ} {a : Agenda σ τ}

theorem mem_dueAlarms {x : Alarm τ} :
    x ∈ m.dueAlarms a ↔ x ∈ m.pendingAlarms a ∧ x.due ≤ m.now a.state := by
  rw [dueAlarms, List.mem_mergeSort, List.mem_filter, decide_eq_true_eq]

theorem mem_pendingAlarms {x : Alarm τ} :
    x ∈ m.pendingAlarms a ↔ x ∈ m.alarms a.state ∧ x.order ∉ a.rung := by
  rw [pendingAlarms, List.mem_filter]
  simp

theorem isSettled_iff :
    m.isSettled a = true ↔ a.ready = [] ∧ ∀ x ∈ m.pendingAlarms a, m.now a.state < x.due := by
  rw [isSettled, Bool.and_eq_true, List.isEmpty_iff, List.isEmpty_iff, dueAlarms]
  refine and_congr_right fun _ ↦ ?_
  rw [← List.length_eq_zero_iff, List.length_mergeSort, List.length_eq_zero_iff,
    List.filter_eq_nil_iff]
  simp only [decide_eq_true_eq, not_le]

theorem ready_ring_ne_nil (h : m.isSettled a = false) : (m.ring a).ready ≠ [] := by
  intro hnil
  obtain ⟨hready, hdue⟩ := List.append_eq_nil_iff.mp hnil
  rw [isSettled, hready, List.map_eq_nil_iff.mp hdue] at h
  cases h

theorem pendingAlarms_ring (a : Agenda σ τ) :
    m.pendingAlarms (m.ring a) =
      ((m.pendingAlarms a).filter fun x ↦ !decide (x.due ≤ m.now a.state)).filter
        fun x ↦ !((m.dueAlarms a).map (·.order)).contains x.order := by
  rw [pendingAlarms, pendingAlarms, List.filter_filter, List.filter_filter]
  refine List.filter_congr fun x hx ↦ ?_
  by_cases hrung : x.order ∈ a.rung
  · simp [ring, hrung]
  · by_cases hdue : x.due ≤ m.now a.state
    · have hmem : x ∈ m.dueAlarms a := mem_dueAlarms.mpr ⟨mem_pendingAlarms.mpr ⟨hx, hrung⟩, hdue⟩
      have horder : ∃ y ∈ m.dueAlarms a, y.order = x.order := ⟨x, hmem, rfl⟩
      simp [ring, horder]
    · simp [ring, hrung, hdue]

theorem load_ring_le (weight : τ → Nat) (store : σ → Nat) (a : Agenda σ τ) :
    m.load weight store (m.ring a) ≤ m.load weight store a := by
  let w (x : Alarm τ) : Nat := weight x.turn
  let due (x : Alarm τ) : Bool := x.due ≤ m.now a.state
  have hrest : ((m.pendingAlarms (m.ring a)).map w).sum ≤
      (((m.pendingAlarms a).filter (!due ·)).map w).sum := by
    refine List.Sublist.sum_le_sum (List.Sublist.map w ?_) fun _ _ ↦ Nat.zero_le _
    rw [pendingAlarms_ring]
    exact List.filter_sublist
  have hdue : ((m.dueAlarms a).map w).sum = (((m.pendingAlarms a).filter due).map w).sum :=
    ((List.mergeSort_perm ..).map w).sum_eq
  have hsplit : (((m.pendingAlarms a).filter due).map w).sum +
      (((m.pendingAlarms a).filter (!due ·)).map w).sum = ((m.pendingAlarms a).map w).sum := by
    rw [← List.sum_append, ← List.map_append]
    exact ((List.filter_append_perm due _).map w).sum_eq
  have hready : ((m.ring a).ready.map weight).sum =
      (a.ready.map weight).sum + ((m.dueAlarms a).map w).sum := by
    rw [ring, List.map_append, List.sum_append, List.map_map]
    rfl
  rw [load, load, hready]
  change _ + ((m.pendingAlarms (m.ring a)).map w).sum + store a.state ≤
    _ + ((m.pendingAlarms a).map w).sum + store a.state
  omega

end

namespace Orderly

variable {m : Machine σ τ} {I : Agenda σ τ → Prop} {weight : τ → Nat} {store : σ → Nat}
  {a : Agenda σ τ}

theorem foldl_turn (h : m.Orderly I weight store) (ts : List τ)
    (ha : I ⟨a.state, ts ++ a.ready, a.rung⟩) :
    I (ts.foldl m.turn a) ∧
      m.load weight store (ts.foldl m.turn a) + ts.length ≤
        m.load weight store ⟨a.state, ts ++ a.ready, a.rung⟩ ∧
      m.now (ts.foldl m.turn a).state = m.now a.state := by
  induction ts generalizing a with
  | nil => exact ⟨ha, Nat.le_refl _, rfl⟩
  | cons t ts ih =>
    have hstep := h.perform ha
    have hload := h.load_perform ha
    change I ⟨_, ts ++ a.ready ++ _, _⟩ at hstep
    change m.load weight store ⟨_, ts ++ a.ready ++ _, _⟩ < _ at hload
    rw [List.append_assoc] at hstep hload
    obtain ⟨hI, hle, hnow⟩ := ih (a := m.turn a t) hstep
    refine ⟨hI, ?_, hnow.trans (h.now_perform t a.state)⟩
    rw [List.length_cons]
    exact Nat.lt_of_le_of_lt hle hload

theorem round (h : m.Orderly I weight store) (ha : I a) :
    I (m.round a) ∧ m.now (m.round a).state = m.now a.state ∧
      (m.isSettled a = false → m.load weight store (m.round a) < m.load weight store a) := by
  have hqueue : I ⟨a.state, (m.ring a).ready ++ [], (m.ring a).rung⟩ := by
    rw [List.append_nil]
    exact h.ring ha
  obtain ⟨hI, hle, hnow⟩ :=
    h.foldl_turn (a := ⟨a.state, [], (m.ring a).rung⟩) (m.ring a).ready hqueue
  rw [List.append_nil] at hle
  refine ⟨hI, hnow, fun hbusy ↦ ?_⟩
  have hpos := List.length_pos_iff.mpr (ready_ring_ne_nil hbusy)
  have hring := m.load_ring_le weight store a
  change m.load weight store (m.round a) + _ ≤ m.load weight store (m.ring a) at hle
  omega

theorem settleWithin (h : m.Orderly I weight store) (n : Nat) (ha : I a)
    (hn : m.load weight store a ≤ n) :
    I (m.settleWithin n a) ∧ m.isSettled (m.settleWithin n a) = true ∧
      m.now (m.settleWithin n a).state = m.now a.state ∧
      m.load weight store (m.settleWithin n a) ≤ m.load weight store a ∧
      (m.isSettled a = false →
        m.load weight store (m.settleWithin n a) < m.load weight store a) := by
  induction n generalizing a with
  | zero =>
    cases hsettled : m.isSettled a with
    | true => exact ⟨ha, hsettled, rfl, Nat.le_refl _, nofun⟩
    | false =>
      have hless := (h.round ha).2.2 hsettled
      omega
  | succ n ih =>
    rw [Machine.settleWithin]
    cases hsettled : m.isSettled a with
    | true => exact ⟨ha, hsettled, rfl, Nat.le_refl _, nofun⟩
    | false =>
      rw [if_neg Bool.false_ne_true]
      obtain ⟨hI, hnow, hless⟩ := h.round ha
      have hless := hless hsettled
      obtain ⟨hI', hsettled', hnow', hle, -⟩ := ih hI (by omega)
      exact ⟨hI', hsettled', hnow'.trans hnow, by omega, fun _ ↦ by omega⟩

/-- **Nothing is left to do** after a machine has settled. -/
theorem settle (h : m.Orderly I weight store) (ha : I a) :
    I (m.settle a) ∧ m.isSettled (m.settle a) = true ∧
      m.now (m.settle a).state = m.now a.state ∧
      m.load weight store (m.settle a) ≤ m.load weight store a ∧
      (m.isSettled a = false → m.load weight store (m.settle a) < m.load weight store a) :=
  h.settleWithin _ ha (h.load_lt ha).le

/-! ## Moving the clock -/

theorem pendingAlarms_moveTo (h : m.Orderly I weight store) (ha : I a) (hready : a.ready = [])
    (t : Time) : m.pendingAlarms (m.moveTo t a) = m.pendingAlarms a := by
  rw [h.rung ha hready, pendingAlarms, List.filter_eq_self.mpr (by simp [Machine.moveTo])]
  exact h.alarms_setNow _ _

theorem load_moveTo (h : m.Orderly I weight store) (ha : I a) (hready : a.ready = [])
    (t : Time) : m.load weight store (m.moveTo t a) = m.load weight store a := by
  rw [load, load, h.pendingAlarms_moveTo ha hready]
  exact congrArg (_ + ·) (h.store_setNow _ _)

theorem now_moveTo (h : m.Orderly I weight store) (t : Time) :
    m.now (m.moveTo t a).state = max (m.now a.state) t :=
  h.now_setNow _ _

/-- A machine that has settled is moved on to where nothing is due. -/
theorem settled_moveTo (h : m.Orderly I weight store) (ha : I a) (hsettled : m.isSettled a = true)
    {t : Time} (hquiet : ∀ x ∈ m.pendingAlarms a, t < x.due) :
    I (m.moveTo t a) ∧ m.isSettled (m.moveTo t a) = true := by
  obtain ⟨hready, hlater⟩ := isSettled_iff.mp hsettled
  refine ⟨h.moveTo ha hsettled fun x hx ↦ (hquiet x hx).le, ?_⟩
  rw [isSettled_iff, h.pendingAlarms_moveTo ha hready, h.now_moveTo]
  exact ⟨hready, fun x hx ↦ max_lt (hlater x hx) (hquiet x hx)⟩

/-- A machine that has settled is moved on to its next alarm, which is due there, so the load
falls. -/
theorem load_settle_next (h : m.Orderly I weight store) (ha : I a) (hsettled : m.isSettled a = true)
    {t : Time} (hnext : m.nextDue? a = some t) :
    I (m.moveTo t a) ∧
      m.load weight store (m.settle (m.moveTo t a)) < m.load weight store a := by
  obtain ⟨hready, -⟩ := isSettled_iff.mp hsettled
  obtain ⟨hmem, hmin⟩ := List.min?_eq_some_iff.mp hnext
  obtain ⟨x, hx, rfl⟩ := List.mem_map.mp hmem
  have hmoved := h.moveTo ha hsettled fun y hy ↦ hmin y.due (List.mem_map_of_mem hy)
  have hbusy : m.isSettled (m.moveTo x.due a) = false := by
    rw [Bool.eq_false_iff, Ne, isSettled_iff, h.pendingAlarms_moveTo ha hready, h.now_moveTo]
    rintro ⟨-, hall⟩
    exact absurd (hall x hx) (not_lt.mpr (le_max_right _ _))
  have hfalls := (h.settle hmoved).2.2.2.2 hbusy
  rw [h.load_moveTo ha hready] at hfalls
  exact ⟨hmoved, hfalls⟩

theorem advanceWithin (h : m.Orderly I weight store) (goal : Time) (n : Nat) (ha : I a)
    (hn : m.load weight store (m.settle a) < n) :
    I (m.advanceWithin goal n a) ∧ m.isSettled (m.advanceWithin goal n a) = true ∧
      m.now (m.advanceWithin goal n a).state = max (m.now a.state) goal ∧
      m.load weight store (m.advanceWithin goal n a) ≤ m.load weight store (m.settle a) ∧
      ((∃ x ∈ m.pendingAlarms (m.settle a), x.due ≤ goal) →
        m.load weight store (m.advanceWithin goal n a) < m.load weight store (m.settle a)) := by
  induction n generalizing a with
  | zero => omega
  | succ n ih =>
    obtain ⟨hI, hsettled, hnow, -⟩ := h.settle ha
    have hready := (isSettled_iff.mp hsettled).1
    rw [Machine.advanceWithin]
    generalize m.settle a = b at hI hsettled hnow hready hn ⊢
    -- At the goal nothing is due if no alarm is set for a time up to it.
    have harrive (hgoal : ∀ x ∈ m.pendingAlarms b, goal < x.due) :
        I (m.moveTo goal b) ∧ m.isSettled (m.moveTo goal b) = true ∧
          m.now (m.moveTo goal b).state = max (m.now a.state) goal ∧
          m.load weight store (m.moveTo goal b) ≤ m.load weight store b ∧
          ((∃ x ∈ m.pendingAlarms b, x.due ≤ goal) →
            m.load weight store (m.moveTo goal b) < m.load weight store b) := by
      obtain ⟨hI', hsettled'⟩ := h.settled_moveTo hI hsettled hgoal
      refine ⟨hI', hsettled', by rw [h.now_moveTo, hnow], (h.load_moveTo hI hready goal).le, ?_⟩
      rintro ⟨x, hx, hle⟩
      exact absurd hle (not_le.mpr (hgoal x hx))
    cases hnext : m.nextDue? b with
    | none =>
      refine harrive ?_
      rw [nextDue?, List.min?_eq_none_iff, List.map_eq_nil_iff] at hnext
      rw [hnext]
      nofun
    | some t =>
      dsimp only
      split
      · next hle =>
        obtain ⟨hmoved, hfalls⟩ := h.load_settle_next hI hsettled hnext
        obtain ⟨hI', hsettled', hnow', hload, -⟩ := ih hmoved (by omega)
        refine ⟨hI', hsettled', ?_, by omega, fun _ ↦ by omega⟩
        rw [hnow', h.now_moveTo, hnow, max_assoc, max_eq_right hle]
      · next hgt =>
        refine harrive fun x hx ↦ (not_le.mp hgt).trans_le ?_
        exact (List.min?_eq_some_iff.mp hnext).2 x.due (List.mem_map_of_mem hx)

/-- **The clock arrives**, with nothing left to do. -/
theorem advance (h : m.Orderly I weight store) (goal : Time) (ha : I a) :
    I (m.advance goal a) ∧ m.isSettled (m.advance goal a) = true ∧
      m.now (m.advance goal a).state = max (m.now a.state) goal := by
  have hfuel := (h.settle ha).2.2.2.1.trans_lt (h.load_lt ha)
  obtain ⟨hI, hsettled, hnow, -⟩ := h.advanceWithin goal _ ha hfuel
  exact ⟨hI, hsettled, hnow⟩

/-- On the way to a goal the load falls, if a turn is ready or an alarm rings. -/
theorem load_advance_lt (h : m.Orderly I weight store) {goal : Time} (ha : I a)
    (hbusy : m.isSettled a = false ∨ ∃ x ∈ m.pendingAlarms (m.settle a), x.due ≤ goal) :
    m.load weight store (m.advance goal a) < m.load weight store a := by
  obtain ⟨-, -, -, hle, hlt⟩ := h.settle ha
  obtain ⟨-, -, -, hle', hlt'⟩ := h.advanceWithin goal _ ha (hle.trans_lt (h.load_lt ha))
  rcases hbusy with hbusy | hring
  · exact hle'.trans_lt (hlt hbusy)
  · exact (hlt' hring).trans_le hle

end Orderly

end DiagnosticFeed.Schedule.Machine
