import DiagnosticFeed.Proofs.Schedule.Machine
import DiagnosticFeed.Proofs.Schedule.Supply
import Mathlib.Tactic.Ring

/-!
# Waiting until nothing is left

A wait goes through two loops. While a machine is busy it waits for its work to end; while it is
only expected to be busy it sleeps, one interval at a time. Neither looks at more than the two tests,
and both tests change while the machine goes on.

Every pass through the outer loop takes from the load of the machine: while it is busy or anything
is pending, an alarm is set or a turn is ready, and this gets done. So the wait ends, and when it
does, the last pass tells how long ago there was still something to wait for: work is noticed to
have ended at once, and all else within an interval.
-/

namespace DiagnosticFeed.Schedule.Machine

variable {σ τ : Type}

/-- A wait, pass by pass: the work is waited for while there is any, until it has ended, and
otherwise one interval is slept through. -/
inductive Waits (m : Machine σ τ) (busy pending : σ → Bool) (interval : Time) :
    Agenda σ τ → Agenda σ τ → Prop
  | done {a : Agenda σ τ} (hbusy : busy a.state = false) (hpending : pending a.state = false) :
    Waits m busy pending interval a a
  | join {a b : Agenda σ τ} (hbusy : busy a.state = true)
    (hended : busy (m.join busy a).state = false)
    (rest : Waits m busy pending interval (m.join busy a) b) : Waits m busy pending interval a b
  | sleep {a b : Agenda σ τ} (hbusy : busy a.state = false) (hpending : pending a.state = true)
    (hslept : m.now (m.advance (m.now a.state + interval) a).state = m.now a.state + interval)
    (rest : Waits m busy pending interval (m.advance (m.now a.state + interval) a) b) :
    Waits m busy pending interval a b

/-- A machine that can be waited for: as long as it is busy or has anything pending, and no turn is
ready, an alarm is set. The clock makes no difference to either. -/
structure Attended (m : Machine σ τ) (I : Agenda σ τ → Prop) (busy pending : σ → Bool) : Prop where
  setNow_setNow : ∀ t t' s, m.setNow t (m.setNow t' s) = m.setNow t s
  budget_setNow : ∀ t s, m.budget (m.setNow t s) = m.budget s
  busy_setNow : ∀ t s, busy (m.setNow t s) = busy s
  pending_setNow : ∀ t s, pending (m.setNow t s) = pending s
  alarmed : ∀ {a}, I a → a.ready = [] → busy a.state = true ∨ pending a.state = true →
    m.alarms a.state ≠ []

section

variable {m : Machine σ τ} {a b : Agenda σ τ}

theorem settle_of_isSettled (h : m.isSettled a = true) : m.settle a = a := by
  rw [settle, fuel, settleWithin, if_pos h]

/-! ## Times to look -/

/-- The time to look is a whole number of intervals from now, not before the alarm, and one interval
earlier would have been before it, unless this is now. -/
theorem exists_pollTime {interval : Int} (hinterval : 0 < interval) (now next : Int) :
    ∃ n : Nat, pollTime interval now next = now + n * interval + interval ∧
      next ≤ pollTime interval now next ∧ (n = 0 ∨ now + n * interval < next) := by
  have hfloor := Int.mul_ediv_self_le (x := next - now + interval - 1) hinterval.ne'
  have hceil := Int.lt_mul_ediv_self_add (x := next - now + interval - 1) hinterval
  rw [pollTime]
  generalize (next - now + interval - 1) / interval = k at hfloor hceil ⊢
  by_cases hk : k ≤ 1
  · have hle : interval * k ≤ interval * 1 := Int.mul_le_mul_of_nonneg_left hk hinterval.le
    refine ⟨0, ?_, ?_, Or.inl rfl⟩
    · rw [max_eq_left hk]
      ring
    · rw [max_eq_left hk]
      omega
  · rw [max_eq_right (not_le.mp hk).le]
    have hsplit : interval * k = interval * (k - 1) + interval := by ring
    refine ⟨(k - 1).toNat, ?_, by omega, Or.inr ?_⟩
    · rw [Int.toNat_of_nonneg (by omega), hsplit]
      ring
    · rw [Int.toNat_of_nonneg (by omega), Int.mul_comm]
      omega

end

section

variable {m : Machine σ τ} {I : Agenda σ τ → Prop} {weight : τ → Nat} {store : σ → Nat}
  {busy pending : σ → Bool} {R : σ → σ → Prop} {interval : Time} {a b : Agenda σ τ}

theorem Attended.moveTo_moveTo (hw : m.Attended I busy pending) (h : m.Orderly I weight store)
    {t t' : Time} (hle : t ≤ t') (a : Agenda σ τ) :
    m.moveTo t' (m.moveTo t a) = m.moveTo t' a := by
  have hnow : m.now (m.moveTo t a).state = max (m.now a.state) t := h.now_moveTo t
  have hstate : (m.moveTo t' (m.moveTo t a)).state = (m.moveTo t' a).state := by
    change m.setNow (max (m.now (m.moveTo t a).state) t') (m.setNow _ a.state) = m.setNow _ a.state
    rw [hw.setNow_setNow, hnow, max_assoc, max_eq_right hle]
  exact congrArg (Agenda.mk · a.ready []) hstate

/-- What is slept through makes no difference to where the sleep ends. -/
theorem Attended.advance_moveTo (hw : m.Attended I busy pending) (h : m.Orderly I weight store)
    (ha : I a) (hsettled : m.isSettled a = true) {t goal : Time} (hle : t ≤ goal)
    (hquiet : ∀ x ∈ m.pendingAlarms a, t < x.due) :
    m.advance goal (m.moveTo t a) = m.advance goal a := by
  have hready := (isSettled_iff.mp hsettled).1
  have hfuel : m.fuel (m.moveTo t a) = m.fuel a :=
    congrArg (· + 6 * a.ready.length + 2) (hw.budget_setNow _ _)
  have hnext : m.nextDue? (m.moveTo t a) = m.nextDue? a := by
    rw [nextDue?, h.pendingAlarms_moveTo ha hready, nextDue?]
  have hstays := settle_of_isSettled (h.settled_moveTo ha hsettled hquiet).2
  rw [advance, advance, hfuel, fuel, advanceWithin, advanceWithin, hstays,
    settle_of_isSettled hsettled, hnext]
  cases hdue : m.nextDue? a with
  | none => exact hw.moveTo_moveTo h hle a
  | some t' =>
    obtain ⟨x, hx, rfl⟩ := List.mem_map.mp (List.min?_eq_some_iff.mp hdue).1
    dsimp only
    rw [hw.moveTo_moveTo h (hquiet x hx).le, hw.moveTo_moveTo h hle]

theorem Orderly.now_sleep (h : m.Orderly I weight store) (hinterval : 0 < interval) (ha : I a) :
    m.now (m.advance (m.now a.state + interval) a).state = m.now a.state + interval := by
  rw [(h.advance _ ha).2.2, max_eq_right (le_add_of_nonneg_right hinterval.le)]

theorem advance_of_quiet (hsettled : m.isSettled a = true) {goal : Time}
    (hquiet : ∀ x ∈ m.pendingAlarms a, goal < x.due) : m.advance goal a = m.moveTo goal a := by
  rw [advance, fuel, advanceWithin, settle_of_isSettled hsettled]
  cases hdue : m.nextDue? a with
  | none => rfl
  | some t =>
    obtain ⟨x, hx, rfl⟩ := List.mem_map.mp (List.min?_eq_some_iff.mp hdue).1
    exact if_neg (not_le.mpr (hquiet x hx))

/-- Sleeping through some quiet intervals and the next one is a pass for each of them. -/
theorem Attended.waits_of_quiet (hw : m.Attended I busy pending) (h : m.Orderly I weight store)
    (hinterval : 0 < interval) (n : Nat) (ha : I a) (hsettled : m.isSettled a = true)
    (hbusy : busy a.state = false) (hpending : pending a.state = true)
    (hquiet : ∀ x ∈ m.pendingAlarms a, m.now a.state + n * interval < x.due)
    (hrest : m.Waits busy pending interval
      (m.advance (m.now a.state + n * interval + interval) a) b) :
    m.Waits busy pending interval a b := by
  induction n generalizing a with
  | zero =>
    rw [Int.natCast_zero, Int.zero_mul, Int.add_zero] at hrest
    exact .sleep hbusy hpending (h.now_sleep hinterval ha) hrest
  | succ n ih =>
    have hready := (isSettled_iff.mp hsettled).1
    have hgoal : m.now a.state + ↑(n + 1) * interval =
        m.now a.state + interval + n * interval := by
      push_cast
      ring
    have hrestOf : 0 ≤ n * interval := Int.mul_nonneg (Int.natCast_nonneg n) hinterval.le
    rw [hgoal] at hquiet hrest
    have hfirst : ∀ x ∈ m.pendingAlarms a, m.now a.state + interval < x.due :=
      fun x hx ↦ (le_add_of_nonneg_right hrestOf).trans_lt (hquiet x hx)
    have hle : m.now a.state + interval ≤ m.now a.state + interval + n * interval + interval :=
      le_add_of_le_of_nonneg (le_add_of_nonneg_right hrestOf) hinterval.le
    have hnow : m.now (m.moveTo (m.now a.state + interval) a).state = m.now a.state + interval := by
      rw [h.now_moveTo, max_eq_right (le_add_of_nonneg_right hinterval.le)]
    obtain ⟨ha', hsettled'⟩ := h.settled_moveTo ha hsettled hfirst
    refine .sleep hbusy hpending (h.now_sleep hinterval ha) ?_
    rw [advance_of_quiet hsettled hfirst]
    refine ih ha' hsettled' ((hw.busy_setNow _ _).trans hbusy)
      ((hw.pending_setNow _ _).trans hpending) ?_ ?_
    · rw [h.pendingAlarms_moveTo ha hready, hnow]
      exact hquiet
    · rw [hnow, hw.advance_moveTo h ha hsettled hle hfirst]
      exact hrest

/-! ## Passes -/

/-- What a pass through the loop of a wait comes to: the load falls, and there was still something
to wait for not longer ago than an interval. -/
structure Passes (m : Machine σ τ) (I : Agenda σ τ → Prop) (weight : τ → Nat) (store : σ → Nat)
    (R : σ → σ → Prop) (work : σ → Prop) (interval : Time) (a b : Agenda σ τ) : Prop where
  inv : I b
  falls : m.load weight store b < m.load weight store a
  late : ∃ s, R a.state s ∧ work s ∧ R s b.state ∧ m.now b.state ≤ m.now s + interval

/-- Enough stops on the way see the work to its end, and time passes only while there is any. -/
theorem Attended.joinWithin (hw : m.Attended I busy pending) (h : m.Orderly I weight store)
    (hR : m.Follows R) (n : Nat) (ha : I a) (hn : m.load weight store (m.settle a) < n) :
    I (m.joinWithin busy n a) ∧ busy (m.joinWithin busy n a).state = false ∧
      m.load weight store (m.joinWithin busy n a) ≤ m.load weight store (m.settle a) ∧
      (busy (m.settle a).state = true →
        m.load weight store (m.joinWithin busy n a) < m.load weight store (m.settle a)) ∧
      (busy a.state = true → ∃ s, R a.state s ∧ busy s = true ∧
        R s (m.joinWithin busy n a).state ∧ m.now (m.joinWithin busy n a).state = m.now s) := by
  induction n generalizing a with
  | zero => omega
  | succ n ih =>
    obtain ⟨hI, hsettled, hnow, -⟩ := h.settle ha
    have hready := (isSettled_iff.mp hsettled).1
    have hfollows := hR.settle a
    rw [Machine.joinWithin]
    generalize m.settle a = b at hI hsettled hnow hready hfollows hn ⊢
    cases hbusy : busy b.state with
    | false =>
      refine ⟨hI, hbusy, Nat.le_refl _, fun h ↦ absurd h Bool.false_ne_true, fun hb ↦ ?_⟩
      exact ⟨a.state, hR.refl _, hb, hfollows, hnow⟩
    | true =>
      rw [if_pos rfl]
      cases hnext : m.nextDue? b with
      | none =>
        -- A machine that is busy has an alarm set.
        rw [nextDue?, List.min?_eq_none_iff, List.map_eq_nil_iff, h.rung hI hready] at hnext
        exact absurd hnext (hw.alarmed hI hready (Or.inl hbusy))
      | some t =>
        obtain ⟨hmoved, hfalls⟩ := h.load_settle_next hI hsettled hnext
        obtain ⟨hI', hidle, hle, -, hlate⟩ := ih hmoved (by omega)
        dsimp only
        refine ⟨hI', hidle, by omega, fun _ ↦ by omega, fun _ ↦ ?_⟩
        obtain ⟨s, hbefore, hs, hafter, hsame⟩ := hlate ((hw.busy_setNow _ _).trans hbusy)
        exact ⟨s, hR.trans hfollows (hR.trans (hR.moveTo t b) hbefore), hs, hafter, hsame⟩

theorem Attended.passes_join (hw : m.Attended I busy pending) (h : m.Orderly I weight store)
    (hR : m.Follows R) (hinterval : 0 < interval) (ha : I a) (hbusy : busy a.state = true) :
    m.Passes I weight store R (fun s ↦ busy s = true ∨ pending s = true) interval a
        (m.join busy a) ∧ busy (m.join busy a).state = false := by
  obtain ⟨-, -, -, hle, hlt⟩ := h.settle ha
  obtain ⟨hI, hidle, hle', hlt', hlate⟩ :=
    hw.joinWithin h hR (m.fuel a) ha (hle.trans_lt (h.load_lt ha))
  obtain ⟨s, hbefore, hs, hafter, hnow⟩ := hlate hbusy
  refine ⟨⟨hI, ?_, s, hbefore, Or.inl hs, hafter, ?_⟩, hidle⟩
  · cases hsettled : m.isSettled a with
    | false => exact hle'.trans_lt (hlt hsettled)
    | true =>
      rw [settle_of_isSettled hsettled] at hlt'
      exact hlt' hbusy
  · exact hnow.le.trans (le_add_of_nonneg_right hinterval.le)

/-- **A look is a number of sleeps**, and one interval before the last one ends nothing has
changed. -/
theorem Attended.passes_poll (hw : m.Attended I busy pending) (h : m.Orderly I weight store)
    (hR : m.Follows R) (hinterval : 0 < interval) (ha : I a) (hbusy : busy a.state = false)
    (hpending : pending a.state = true) :
    m.Passes I weight store R (fun s ↦ busy s = true ∨ pending s = true) interval a
        (m.poll interval a) ∧
      ∀ b, m.Waits busy pending interval (m.poll interval a) b →
        m.Waits busy pending interval a b := by
  rw [poll]
  cases hsettled : m.isSettled a with
  | false =>
    have hone : pollTime interval (m.now a.state) (m.now a.state) = m.now a.state + interval := by
      obtain ⟨n, heq, -, rfl | hbefore⟩ := exists_pollTime hinterval (m.now a.state) (m.now a.state)
      · simpa using heq
      · have hnonneg : 0 ≤ n * interval := Int.mul_nonneg (Int.natCast_nonneg n) hinterval.le
        exact absurd hbefore (not_lt.mpr (le_add_of_nonneg_right hnonneg))
    rw [if_neg Bool.false_ne_true, hone]
    refine ⟨⟨(h.advance _ ha).1, h.load_advance_lt ha (Or.inl hsettled), a.state, hR.refl _,
      Or.inr hpending, hR.advance _ a, ?_⟩,
      fun b ↦ .sleep hbusy hpending (h.now_sleep hinterval ha)⟩
    exact (h.now_sleep hinterval ha).le
  | true =>
    obtain ⟨hready, hlater⟩ := isSettled_iff.mp hsettled
    rw [if_pos rfl]
    cases hnext : m.nextDue? a with
    | none =>
      rw [nextDue?, List.min?_eq_none_iff, List.map_eq_nil_iff, h.rung ha hready] at hnext
      exact absurd hnext (hw.alarmed ha hready (Or.inr hpending))
    | some t =>
      obtain ⟨hmem, hmin⟩ := List.min?_eq_some_iff.mp hnext
      obtain ⟨x, hx, rfl⟩ := List.mem_map.mp hmem
      obtain ⟨n, heq, hreached, hbefore⟩ := exists_pollTime hinterval (m.now a.state) x.due
      rw [Option.getD_some]
      -- So far nothing rings.
      have hquiet : ∀ y ∈ m.pendingAlarms a, m.now a.state + n * interval < y.due := by
        intro y hy
        refine lt_of_lt_of_le ?_ (hmin y.due (List.mem_map_of_mem hy))
        rcases hbefore with rfl | hbefore
        · simpa using hlater x hx
        · exact hbefore
      have hnonneg : 0 ≤ n * interval := Int.mul_nonneg (Int.natCast_nonneg n) hinterval.le
      have hmoved := hw.advance_moveTo h ha hsettled
        (le_add_of_nonneg_right (a := m.now a.state + n * interval) hinterval.le) hquiet
      refine ⟨⟨(h.advance _ ha).1, h.load_advance_lt ha (Or.inr ?_), ?_⟩, fun b hrest ↦ ?_⟩
      · rw [settle_of_isSettled hsettled]
        exact ⟨x, hx, hreached⟩
      · refine ⟨_, hR.moveTo (m.now a.state + n * interval) a, Or.inr ?_, ?_, ?_⟩
        · exact (hw.pending_setNow _ _).trans hpending
        · rw [heq, ← hmoved]
          exact hR.advance _ _
        · rw [(h.advance _ ha).2.2, h.now_moveTo, heq,
            max_eq_right (le_add_of_nonneg_right hnonneg)]
          refine max_le ?_ le_rfl
          exact le_add_of_le_of_nonneg (le_add_of_nonneg_right hnonneg) hinterval.le
      · rw [heq] at hrest
        exact hw.waits_of_quiet h hinterval n ha hsettled hbusy hpending hquiet hrest

/-! ## Waits -/

theorem waitIdleWithin_of_idle (hbusy : busy a.state = false) (hpending : pending a.state = false)
    (n : Nat) : m.waitIdleWithin busy pending interval n a = a := by
  cases n with
  | zero => rfl
  | succ n => rw [waitIdleWithin, hbusy, hpending]; rfl

/-- What a wait comes to: it was gone through to its end, and if there was anything to wait for,
there still was an interval ago. -/
structure Ends (m : Machine σ τ) (I : Agenda σ τ → Prop) (busy pending : σ → Bool)
    (R : σ → σ → Prop) (interval : Time) (a b : Agenda σ τ) : Prop where
  inv : I b
  idle : busy b.state = false
  nothing : pending b.state = false
  waits : m.Waits busy pending interval a b
  late : busy a.state = true ∨ pending a.state = true →
    ∃ s, R a.state s ∧ (busy s = true ∨ pending s = true) ∧ R s b.state ∧
      m.now b.state ≤ m.now s + interval

theorem Ends.of_passes (hR : m.Follows R) {c : Agenda σ τ}
    (hpass : m.Passes I weight store R (fun s ↦ busy s = true ∨ pending s = true) interval a c)
    (hrest : m.Ends I busy pending R interval c b)
    (hsame : busy c.state = false → pending c.state = false → b = c)
    (hwaits : m.Waits busy pending interval c b → m.Waits busy pending interval a b) :
    m.Ends I busy pending R interval a b := by
  refine ⟨hrest.inv, hrest.idle, hrest.nothing, hwaits hrest.waits, fun _ ↦ ?_⟩
  obtain ⟨s, hbefore, hs, hafter, hnow⟩ := hpass.late
  by_cases hmore : busy c.state = true ∨ pending c.state = true
  · obtain ⟨s', hbefore', hs', hafter', hnow'⟩ := hrest.late hmore
    exact ⟨s', hR.trans hbefore (hR.trans hafter hbefore'), hs', hafter', hnow'⟩
  · rw [not_or, Bool.not_eq_true, Bool.not_eq_true] at hmore
    rw [hsame hmore.1 hmore.2]
    exact ⟨s, hbefore, hs, hafter, hnow⟩

/-- **Waits end**, with nothing left to wait for. -/
theorem Attended.waitIdle (hw : m.Attended I busy pending) (h : m.Orderly I weight store)
    (hR : m.Follows R) (hinterval : 0 < interval) (ha : I a) :
    m.Ends I busy pending R interval a (m.waitIdle busy pending a interval) := by
  have hloop (n : Nat) {a : Agenda σ τ} (ha : I a) (hn : m.load weight store a < n) :
      m.Ends I busy pending R interval a (m.waitIdleWithin busy pending interval n a) := by
    induction n generalizing a with
    | zero => omega
    | succ n ih =>
      cases hbusy : busy a.state with
      | true =>
        obtain ⟨hpass, hended⟩ := hw.passes_join h hR hinterval ha hbusy
        rw [waitIdleWithin, if_pos hbusy]
        have hless := hpass.falls
        refine .of_passes hR hpass (ih hpass.inv (by omega)) ?_ (.join hbusy hended)
        exact fun hidle hnothing ↦ waitIdleWithin_of_idle hidle hnothing n
      | false =>
        cases hpending : pending a.state with
        | true =>
          obtain ⟨hpass, hwaits⟩ := hw.passes_poll h hR hinterval ha hbusy hpending
          have hless := hpass.falls
          rw [waitIdleWithin, hbusy, if_neg Bool.false_ne_true, if_pos hpending]
          refine .of_passes hR hpass (ih hpass.inv (by omega)) ?_ (hwaits _)
          exact fun hidle hnothing ↦ waitIdleWithin_of_idle hidle hnothing n
        | false =>
          rw [waitIdleWithin_of_idle hbusy hpending]
          refine ⟨ha, hbusy, hpending, .done hbusy hpending, ?_⟩
          simp [hbusy, hpending]
  exact hloop _ ha (h.load_lt ha)

end

end DiagnosticFeed.Schedule.Machine
