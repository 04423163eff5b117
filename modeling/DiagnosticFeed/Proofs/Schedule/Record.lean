import DiagnosticFeed.Proofs.Schedule.Machine
import DiagnosticFeed.Proofs.Schedule.Supply

/-!
# Machines with a history

What a machine did is not all in its state. A recorded machine keeps, besides the state, what
happened and when. It does what the machine does: the history is written and never read.
-/

namespace DiagnosticFeed.Schedule

/-- Something that happened at a time. -/
structure Entry (ε : Type) where
  time : Time
  what : ε

/-- What happened so far, the latest first. -/
abbrev History (ε : Type) := List (Entry ε)

/-- A history with more that happened, at one time, the latest first. -/
def History.add {ε : Type} (h : History ε) (now : Time) (more : List ε) : History ε :=
  more.map (⟨now, ·⟩) ++ h

theorem History.add_append {ε : Type} (h : History ε) (now : Time) (later earlier : List ε) :
    h.add now (later ++ earlier) = (h.add now earlier).add now later := by
  rw [add, add, add, List.map_append, List.append_assoc]

theorem History.add_le {ε : Type} {h : History ε} {now : Time} (hpast : ∀ e ∈ h, e.time ≤ now)
    (more : List ε) : ∀ e ∈ h.add now more, e.time ≤ now := by
  intro e he
  rcases List.mem_append.mp he with he | he
  · obtain ⟨what, -, rfl⟩ := List.mem_map.mp he
    exact le_refl now
  · exact hpast e he

namespace Machine

variable {σ τ ε : Type}

/-- A machine that records what its turns make happen, the latest first. -/
def recorded (m : Machine σ τ) (notes : τ → σ → List ε) : Machine (σ × History ε) τ where
  now := fun x ↦ m.now x.1
  setNow := fun t x ↦ (m.setNow t x.1, x.2)
  alarms := fun x ↦ m.alarms x.1
  perform := fun t x ↦
    (((m.perform t x.1).1, x.2.add (m.now x.1) (notes t x.1)), (m.perform t x.1).2)
  budget := fun x ↦ m.budget x.1

end Machine

/-- An agenda without the history. -/
def Agenda.base {σ τ ε : Type} (a : Agenda (σ × History ε) τ) : Agenda σ τ :=
  ⟨a.state.1, a.ready, a.rung⟩

namespace Machine

variable {σ τ ε : Type} {m : Machine σ τ} {notes : τ → σ → List ε}

/-- **A recorded machine does what the machine does.** -/
theorem mirrors_recorded (m : Machine σ τ) (notes : τ → σ → List ε) :
    (m.recorded notes).Mirrors m Prod.fst fun _ ↦ True where
  now := fun _ ↦ rfl
  alarms := fun _ ↦ rfl
  budget := fun _ ↦ rfl
  setNow := fun _ _ ↦ rfl
  perform := fun _ ↦ ⟨rfl, rfl⟩
  keeps := ⟨fun _ h ↦ h, fun h h' hs ↦ h' (h hs), fun _ _ h ↦ h, fun _ _ h ↦ h⟩

theorem base_settle (a : Agenda (σ × History ε) τ) :
    ((m.recorded notes).settle a).base = m.settle a.base :=
  (mirrors_recorded m notes).settle trivial

theorem base_advance (goal : Time) (a : Agenda (σ × History ε) τ) :
    ((m.recorded notes).advance goal a).base = m.advance goal a.base :=
  (mirrors_recorded m notes).advance goal trivial

/-- An invariant of a machine, and what holds of its history besides. -/
theorem Orderly.recorded {I : Agenda σ τ → Prop} {weight : τ → Nat} {store : σ → Nat}
    (h : m.Orderly I weight store) {J : σ × History ε → Prop}
    (hperform : ∀ {t rest s hist rung}, I ⟨s, t :: rest, rung⟩ → J (s, hist) →
      J ((m.perform t s).1, hist.add (m.now s) (notes t s)))
    (hmoveTo : ∀ {a : Agenda σ τ} {hist t}, I a → J (a.state, hist) → m.isSettled a = true →
      (∀ x ∈ m.pendingAlarms a, t ≤ x.due) → J ((m.moveTo t a).state, hist)) :
    (m.recorded notes).Orderly (fun a ↦ I a.base ∧ J a.state) weight (fun x ↦ store x.1) where
  now_setNow := fun t x ↦ h.now_setNow t x.1
  alarms_setNow := fun t x ↦ h.alarms_setNow t x.1
  store_setNow := fun t x ↦ h.store_setNow t x.1
  now_perform := fun t x ↦ h.now_perform t x.1
  ring := fun ha ↦ ⟨h.ring ha.1, ha.2⟩
  perform := fun ha ↦ ⟨h.perform ha.1, hperform ha.1 ha.2⟩
  moveTo := fun ha hsettled hlater ↦
    ⟨h.moveTo ha.1 hsettled hlater, hmoveTo ha.1 ha.2 hsettled hlater⟩
  rung := fun ha hready ↦ h.rung ha.1 hready
  load_perform := fun ha ↦ h.load_perform ha.1
  load_lt := fun ha ↦ h.load_lt ha.1

end Machine

/-! ## Demands -/

/-- What can come from outside: a request, or time for what is to do. -/
inductive Demand (ρ : Type) where
  | ask (r : ρ)
  /-- What is to do at the present instant is done. -/
  | settle
  /-- Time passes until `goal`. -/
  | advance (goal : Time)

namespace Machine

variable {σ τ ε ρ : Type}

/-- A machine meets a demand. -/
def serve (m : Machine σ τ) (answer : ρ → σ → σ) (a : Agenda σ τ) : Demand ρ → Agenda σ τ
  | .ask r => { a with state := answer r a.state }
  | .settle => m.settle a
  | .advance goal => m.advance goal a

/-- An answer that is recorded, with what it makes happen. -/
def recordedAnswer (m : Machine σ τ) (answer : ρ → σ → σ) (asked : ρ → σ → List ε) (r : ρ)
    (x : σ × History ε) : σ × History ε :=
  (answer r x.1, x.2.add (m.now x.1) (asked r x.1))

section

variable {m : Machine σ τ} {notes : τ → σ → List ε} {answer : ρ → σ → σ} {asked : ρ → σ → List ε}

/-- **A recorded machine meets demands as the machine does.** -/
theorem base_foldl_serve (ds : List (Demand ρ)) (a : Agenda (σ × History ε) τ) :
    (ds.foldl ((m.recorded notes).serve (m.recordedAnswer answer asked)) a).base =
      ds.foldl (m.serve answer) a.base := by
  induction ds generalizing a with
  | nil => rfl
  | cons d ds ih =>
    rw [List.foldl_cons, List.foldl_cons, ih]
    cases d with
    | ask r => rfl
    | settle => exact congrArg (ds.foldl _) (base_settle a)
    | advance goal => exact congrArg (ds.foldl _) (base_advance goal a)

/-- What requests keep is kept by all demands, and the queue is empty between them. -/
theorem Orderly.serve {I : Agenda σ τ → Prop} {weight : τ → Nat} {store : σ → Nat}
    (h : m.Orderly I weight store)
    (hask : ∀ {a r}, I a → a.ready = [] → I { a with state := answer r a.state })
    {a : Agenda σ τ} (ha : I a) (hready : a.ready = []) (ds : List (Demand ρ)) :
    I (ds.foldl (m.serve answer) a) ∧ (ds.foldl (m.serve answer) a).ready = [] := by
  induction ds generalizing a with
  | nil => exact ⟨ha, hready⟩
  | cons d ds ih =>
    cases d with
    | ask r => exact ih (hask ha hready) hready
    | settle =>
      obtain ⟨hI, hsettled, -⟩ := h.settle ha
      exact ih hI (isSettled_iff.mp hsettled).1
    | advance goal =>
      obtain ⟨hI, hsettled, -⟩ := h.advance goal ha
      exact ih hI (isSettled_iff.mp hsettled).1

end

end Machine

end DiagnosticFeed.Schedule
