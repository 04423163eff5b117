import DiagnosticFeed.Proofs.Schedule.Coalescer

/-!
# What coalescers still have to do

Each turn of a coalescer brings about less than its own weight. The only turns that set new timers
are those that end callbacks, and a callback that triggers again uses up one of the edits that are
left to it, which weighs as much as a timer. So coalescers come to rest at every instant, and the
clock gets wherever it is asked to go.
-/

namespace DiagnosticFeed.Schedule.Coalescer

/-- The weight of the alarms among some that have not rung. -/
def alarmWeight (g : List Nat) (xs : List (Alarm CallbackTurn)) : Nat :=
  ((xs.filter fun x ↦ !g.contains x.order).map fun x ↦ x.turn.weight).sum

/-- The weight of the edits by which callbacks can trigger again. -/
def store (c : Coalescer) : Nat :=
  5 * c.retriggersLeft

/-- The weight of all that a state can give rise to. -/
def effort (c : Coalescer) (g : List Nat) : Nat :=
  alarmWeight g c.alarms + c.store

section

variable {c c' : Coalescer} {g : List Nat} {xs ys : List (Alarm CallbackTurn)} {id : Nat}
  {p : Progress}

theorem load_eq (c : Coalescer) (q : List CallbackTurn) (g : List Nat) :
    machine.load CallbackTurn.weight store ⟨c, q, g⟩ =
      (q.map CallbackTurn.weight).sum + c.effort g :=
  Nat.add_assoc _ _ _

theorem alarmWeight_append : alarmWeight g (xs ++ ys) = alarmWeight g xs + alarmWeight g ys := by
  rw [alarmWeight, List.filter_append, List.map_append, List.sum_append]
  rfl

theorem alarmWeight_le (h : xs.Sublist ys) : alarmWeight g xs ≤ alarmWeight g ys :=
  ((h.filter _).map _).sum_le_sum fun _ _ ↦ Nat.zero_le _

theorem alarmWeight_singleton_le (x : Alarm CallbackTurn) :
    alarmWeight g [x] ≤ x.turn.weight := by
  rw [alarmWeight]
  by_cases hrung : x.order ∈ g <;> simp [hrung]

theorem effort_le (h : c'.alarms.Sublist c.alarms) (hstore : c'.store ≤ c.store) :
    c'.effort g ≤ c.effort g :=
  Nat.add_le_add (alarmWeight_le h) hstore

/-! ## Edits that are left -/

/-- What a document counts for, by its place. -/
def editsLeft (c : Coalescer) (e : Document × Nat) : Nat :=
  (((c.work e.2).retriggerBelow.getD 0) - e.1.version).toNat

theorem foldl_add {α : Type} (f : α → Nat) (l : List α) (n : Nat) :
    l.foldl (fun n e ↦ n + f e) n = n + (l.map f).sum := by
  induction l generalizing n with
  | nil => rfl
  | cons e l ih => rw [List.foldl_cons, ih, List.map_cons, List.sum_cons, Nat.add_assoc]

theorem retriggersLeft_eq (c : Coalescer) :
    c.retriggersLeft = (c.documents.zipIdx.map c.editsLeft).sum :=
  (foldl_add c.editsLeft _ 0).trans (Nat.zero_add _)

theorem sum_zipIdx_modify {α : Type} (f : α × Nat → Nat) (change : α → α) (l : List α) {i : Nat}
    {d : α} (hd : l[i]? = some d) (k : Nat) :
    (((l.modify i change).zipIdx k).map f).sum + f (d, k + i) =
      ((l.zipIdx k).map f).sum + f (change d, k + i) := by
  induction l generalizing i k with
  | nil => cases hd
  | cons e l ih =>
    cases i with
    | zero =>
      cases hd
      rw [List.modify_zero_cons, List.zipIdx_cons, List.zipIdx_cons, List.map_cons, List.map_cons,
        List.sum_cons, List.sum_cons, Nat.add_zero k]
      omega
    | succ i =>
      have hrest := ih hd (k + 1)
      rw [List.modify_succ_cons, List.zipIdx_cons, List.zipIdx_cons, List.map_cons, List.map_cons,
        List.sum_cons, List.sum_cons]
      have hplace : k + (i + 1) = k + 1 + i := by omega
      rw [hplace]
      omega

theorem store_setText {doc : Nat} {d : Document} {limit : Int} (hd : c.documents[doc]? = some d)
    (hlimit : (c.work doc).retriggerBelow = some limit) (hlow : d.version < limit)
    (text : String) : (c.setText doc text).store + 5 = c.store := by
  have hsum := sum_zipIdx_modify c.editsLeft (·.setText text) c.documents hd 0
  rw [Nat.zero_add] at hsum
  have hbefore : c.editsLeft (d, doc) = (limit - d.version).toNat := by
    rw [editsLeft, hlimit]
    rfl
  have hafter : c.editsLeft (d.setText text, doc) = (limit - (d.version + 1)).toNat := by
    rw [editsLeft, hlimit]
    rfl
  rw [store, store, retriggersLeft_eq, retriggersLeft_eq]
  change 5 * (((c.documents.modify doc (·.setText text)).zipIdx.map c.editsLeft).sum) + 5 = _
  omega

/-! ## Turns -/

theorem effort_trigger_le (c : Coalescer) (doc : Nat) (g : List Nat) :
    (c.trigger doc).effort g ≤ c.effort g + 5 := by
  rcases c.trigger_cases doc with ⟨-, next, journal, hnext, heq⟩ | ⟨d, journal, hd, -, heq⟩
  · rw [heq]
    exact (Nat.le_refl _).trans (Nat.le_add_right _ _)
  · have hstore : (c.trigger doc).store = c.store := by
      rw [heq]
      rfl
    have halarms : (c.trigger doc).alarms =
        (c.debounce.cancel d.uri).timers.map Timer.alarm ++
          [Timer.alarm ⟨d.uri, doc, c.now + c.debounce.delay, c.next⟩] ++
          c.callbacks.filterMap Callback.alarm? := by
      rw [heq, alarms_eq]
      dsimp only
      rw [restarted, List.map_append]
      rfl
    -- One timer comes in, whatever becomes of the one before.
    have hold : alarmWeight g ((c.debounce.cancel d.uri).timers.map Timer.alarm) ≤
        alarmWeight g (c.debounce.timers.map Timer.alarm) :=
      alarmWeight_le (List.filter_sublist.map _)
    have hnew := alarmWeight_singleton_le (g := g)
      (Timer.alarm ⟨d.uri, doc, c.now + c.debounce.delay, c.next⟩)
    change _ ≤ 5 at hnew
    rw [effort, effort, hstore, halarms, alarms_eq, alarmWeight_append, alarmWeight_append,
      alarmWeight_append]
    omega

theorem effort_retrigger_le (c : Coalescer) (doc : Nat) (g : List Nat) :
    (c.retrigger doc).effort g ≤ c.effort g := by
  rw [retrigger]
  split
  · next d limit hd hlimit =>
    split
    · next hlow =>
      have htrigger := (c.setText doc (d.text ++ "+")).effort_trigger_le doc g
      have hstore := store_setText hd hlimit hlow (d.text ++ "+")
      have halarms : (c.setText doc (d.text ++ "+")).alarms = c.alarms := rfl
      have hedited : (c.setText doc (d.text ++ "+")).effort g + 5 = c.effort g := by
        rw [effort, effort, halarms]
        omega
      exact htrigger.trans_eq hedited
    · exact Nat.le_refl _
  · exact Nat.le_refl _

theorem effort_ended_le (c : Coalescer) (id : Nat) (g : List Nat) :
    (c.progress id .ended).effort g ≤ c.effort g := by
  refine effort_le ?_ (Nat.le_refl _)
  rw [alarms_eq, alarms_eq]
  refine List.Sublist.append (List.Sublist.refl _) ?_
  rw [progress]
  induction c.callbacks with
  | nil => exact List.Sublist.refl _
  | cons y ys ih =>
    rw [List.map_cons]
    by_cases hid : (y.id == id) = true
    · have hnone : Callback.alarm? { y with progress := .ended } = none := rfl
      rw [if_pos hid, List.filterMap_cons_none hnone]
      exact ih.trans ((List.sublist_cons_self y ys).filterMap _)
    · rw [if_neg hid]
      cases hy : y.alarm? with
      | none =>
        rw [List.filterMap_cons_none hy, List.filterMap_cons_none hy]
        exact ih
      | some x =>
        rw [List.filterMap_cons_some hy, List.filterMap_cons_some hy]
        exact ih.cons_cons x

theorem effort_waiting_le (hids : (c.callbacks.map (·.id)).Nodup) (due : Time) (order next : Nat)
    {y : Callback} (hy : y ∈ c.callbacks) :
    Coalescer.effort { c.progress y.id (.waiting due order) with next := next } g ≤
      c.effort g + 3 := by
  obtain ⟨before, later, hsplit⟩ := List.append_of_mem hy
  -- No other callback has this number, so the others keep their alarms.
  have hothers : ∀ z ∈ before ++ later, z.id ≠ y.id := by
    rw [hsplit, List.map_append, List.map_cons, List.nodup_middle, List.nodup_cons,
      ← List.map_append] at hids
    exact fun z hz hsame ↦ hids.1 (hsame ▸ List.mem_map_of_mem hz)
  have hkept (l : List Callback) (hl : ∀ z ∈ l, z.id ≠ y.id) :
      l.map (fun z ↦ if z.id == y.id then { z with progress := .waiting due order } else z) =
        l := by
    refine (List.map_congr_left fun z hz ↦ ?_).trans (List.map_id' l)
    exact if_neg (by simpa using hl z hz)
  have hcallbacks : (c.progress y.id (.waiting due order)).callbacks =
      before ++ { y with progress := .waiting due order } :: later := by
    rw [progress]
    dsimp only
    rw [hsplit, List.map_append, List.map_cons, if_pos (by simp),
      hkept before fun z hz ↦ hothers z (List.mem_append_left _ hz),
      hkept later fun z hz ↦ hothers z (List.mem_append_right _ hz)]
  have hsome : Callback.alarm? { y with progress := .waiting due order } =
      some ⟨due, order, .ring y.id⟩ := rfl
  have hold : alarmWeight g (later.filterMap Callback.alarm?) ≤
      alarmWeight g ((y :: later).filterMap Callback.alarm?) :=
    alarmWeight_le ((List.sublist_cons_self y later).filterMap _)
  have hnew := alarmWeight_singleton_le (g := g) ⟨due, order, .ring y.id⟩
  change _ ≤ 3 at hnew
  have halarms : Coalescer.alarms { c.progress y.id (.waiting due order) with next := next } =
      c.debounce.timers.map Timer.alarm ++ (before.filterMap Callback.alarm? ++
        ([⟨due, order, .ring y.id⟩] ++ later.filterMap Callback.alarm?)) := by
    rw [alarms_eq, hcallbacks, List.filterMap_append, List.filterMap_cons_some hsome]
    rfl
  have hstore : Coalescer.store { c.progress y.id (.waiting due order) with next := next } =
      c.store := rfl
  rw [effort, effort, hstore, halarms, alarms_eq, hsplit, List.filterMap_append,
    alarmWeight_append, alarmWeight_append, alarmWeight_append, alarmWeight_append,
    alarmWeight_append]
  omega

theorem effort_complete_le (c : Coalescer) (y : Callback) (g : List Nat) :
    (c.complete y).effort g ≤ c.effort g :=
  (effort_ended_le _ y.id g).trans (c.effort_retrigger_le y.doc g)

/-- **A turn brings about less than its weight.** -/
theorem effort_perform_lt {t : CallbackTurn} {rest : List CallbackTurn}
    (h : Sound ⟨c, t :: rest, g⟩) :
    ((perform t c).2.map CallbackTurn.weight).sum + (perform t c).1.effort g <
      t.weight + c.effort g := by
  cases t with
  | fire o =>
    rw [perform]
    cases c.debounce.timer? o with
    | none => exact Nat.add_lt_add_right (by decide : 0 < 5) (c.effort g)
    | some timer =>
      have hle : Coalescer.effort { c with
          debounce := c.debounce.cancel timer.uri
          callbacks := c.callbacks ++ [⟨c.next, timer.doc, .created⟩]
          next := c.next + 1 } g ≤ c.effort g := by
        refine effort_le ?_ (Nat.le_refl _)
        rw [alarms_eq, alarms_eq, List.filterMap_append]
        refine List.Sublist.append (List.filter_sublist.map _) ?_
        rw [List.filterMap_cons_none rfl, List.filterMap_nil, List.append_nil]
      exact Nat.add_lt_add_of_lt_of_le (Nat.lt_succ_self 4) hle
  | start id =>
    rw [perform]
    cases hy : c.callback? id with
    | none => exact Nat.add_lt_add_right (by decide : 0 < 4) (c.effort g)
    | some y =>
      rw [Option.map_some, Option.getD_some, start]
      dsimp only
      split
      · exact Nat.add_lt_add_of_lt_of_le (by decide : 1 < 4) (effort_complete_le _ y g)
      · -- The alarm of a wait weighs less than the start did.
        have hle := effort_waiting_le (c := c) (g := g) h.ids (c.now + (c.work y.doc).wait) c.next
          (c.next + 1) (callback?_eq_some hy).1
        have hless : c.effort g + 3 < 4 + c.effort g := by omega
        exact (Nat.zero_add _).trans_lt (Nat.lt_of_le_of_lt hle hless)
  | ring id => exact Nat.add_lt_add_right (by decide : 2 < 3) _
  | wake id =>
    rw [perform]
    cases c.callback? id with
    | none => exact Nat.add_lt_add_right (by decide : 0 < 2) (c.effort g)
    | some y => exact Nat.add_lt_add_of_lt_of_le (by decide : 1 < 2) (effort_complete_le c y g)
  | settle id =>
    rw [perform]
    cases c.callback? id with
    | none => exact Nat.add_lt_add_right Nat.zero_lt_one (c.effort g)
    | some y =>
      have hle : (c.conclude y).effort g ≤ c.effort g := by
        refine effort_le ?_ (Nat.le_refl _)
        exact List.Sublist.append (List.Sublist.refl _) (List.filter_sublist.filterMap _)
      exact Nat.add_lt_add_of_lt_of_le Nat.zero_lt_one hle

/-- The budget of a coalescer covers what it can give rise to. -/
theorem effort_le_budget (c : Coalescer) (g : List Nat) : c.effort g ≤ machine.budget c := by
  have hsum (l : List (Alarm CallbackTurn)) (n : Nat) (hl : ∀ x ∈ l, x.turn.weight ≤ n) :
      alarmWeight g l ≤ n * l.length := by
    induction l with
    | nil => exact Nat.zero_le _
    | cons x l ih =>
      have hhead := alarmWeight_singleton_le (g := g) x
      have htail := ih fun y hy ↦ hl y (List.mem_cons_of_mem _ hy)
      have hx := hl x List.mem_cons_self
      rw [← List.singleton_append, alarmWeight_append, List.length_append, Nat.mul_add]
      change _ ≤ n * 1 + _
      omega
  have htimers := hsum (c.debounce.timers.map Timer.alarm) 5 (by
    intro x hx
    obtain ⟨y, -, rfl⟩ := List.mem_map.mp hx
    exact Nat.le_refl 5)
  have hcallbacks := hsum (c.callbacks.filterMap Callback.alarm?) 3 (by
    intro x hx
    obtain ⟨y, -, hy⟩ := List.mem_filterMap.mp hx
    rw [(Callback.of_alarm? hy).1]
    exact Nat.le_refl 3)
  have hlength := List.length_filterMap_le Callback.alarm? c.callbacks
  rw [List.length_map] at htimers
  change _ ≤ 6 * (c.callbacks.length + c.debounce.timers.length + c.retriggersLeft)
  rw [effort, alarms_eq, alarmWeight_append, store]
  omega

theorem sum_weight_le (q : List CallbackTurn) : (q.map CallbackTurn.weight).sum ≤ 5 * q.length := by
  induction q with
  | nil => exact Nat.le_refl 0
  | cons t q ih =>
    have ht : t.weight ≤ 5 := by cases t <;> simp [CallbackTurn.weight]
    rw [List.map_cons, List.sum_cons, List.length_cons]
    omega

theorem now_perform (t : CallbackTurn) (c : Coalescer) : (perform t c).1.now = c.now := by
  cases t with
  | fire o =>
    rw [perform]
    split <;> rfl
  | start id =>
    rw [perform]
    cases c.callback? id with
    | none => rfl
    | some y =>
      rw [Option.map_some, Option.getD_some, start]
      dsimp only
      split
      · exact (retimed_retrigger _ y.doc).now
      · rfl
  | ring id => rfl
  | wake id =>
    rw [perform]
    cases c.callback? id with
    | none => rfl
    | some y => exact (c.retimed_retrigger y.doc).now
  | settle id =>
    rw [perform]
    cases c.callback? id <;> rfl

/-- **Coalescers come to rest.** -/
theorem orderly_machine : machine.Orderly Sound CallbackTurn.weight store where
  now_setNow := fun _ _ ↦ rfl
  alarms_setNow := fun _ _ ↦ rfl
  store_setNow := fun _ _ ↦ rfl
  now_perform := now_perform
  ring := Sound.ring
  perform := Sound.perform
  moveTo := fun h hsettled _ ↦ h.moveTo (Machine.isSettled_iff.mp hsettled).1 _
  rung := Sound.pendingAlarms_eq
  load_perform := by
    intro t rest c g h
    have hless := effort_perform_lt h
    rw [load_eq, load_eq, List.map_append, List.sum_append, List.map_cons, List.sum_cons]
    change _ + _ + (perform t c).1.effort g < _
    change ((perform t c).2.map CallbackTurn.weight).sum + _ < _ at hless
    have hturns : (machine.perform t c).2 = (perform t c).2 := rfl
    rw [hturns]
    omega
  load_lt := by
    intro a _
    have hready := sum_weight_le a.ready
    have hbudget := a.state.effort_le_budget a.rung
    rw [load_eq, Machine.fuel]
    omega

end

end DiagnosticFeed.Schedule.Coalescer
