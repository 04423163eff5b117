import DiagnosticFeed.Proofs.Schedule.Crew
import DiagnosticFeed.Proofs.Schedule.Waiting

/-!
# Waiting for a crew

A crew is waited for until no quiet period is running and nobody is under way who is waited for.
This comes about from every state that a crew can get into, whatever its callbacks do: a callback
gets as far as its plan goes, its failure is nobody else's concern, and one that is waited for is
not forgotten before it has ended. When the wait is over, it is not longer than an interval ago that
something happened to what was waited for.
-/

namespace DiagnosticFeed.Schedule.Crew

open Coalescer

/-- What a crew and its queue of turns have to do with each other. -/
structure Manned (a : Agenda Crew CallbackTurn) : Prop where
  sound : Sound (a.map (·.coalescer))
  /-- Callbacks that have ended are yet to be forgotten. -/
  settling : ∀ x ∈ a.state.coalescer.callbacks, x.progress = .ended → .settle x.id ∈ a.ready
  settled : ∀ id, .settle id ∈ a.ready → a.state.IsDone id ∧
    ∀ x ∈ a.state.coalescer.callbacks, x.id = id → x.progress = .ended
  /-- Nobody who is waited for gets lost. -/
  present : ∀ id ∈ a.state.tracked, (∃ x ∈ a.state.coalescer.callbacks, x.id = id) ∨
    a.state.IsDone id ∧ ∃ time, ⟨time, .left id .ended⟩ ∈ a.state.history
  fired : ∀ e ∈ a.state.history, ∀ id, e.what = .expired id → id ∈ a.state.tracked

section

variable {s s' : Crew} {id : Nat} {p : Progress} {t : CallbackTurn} {q rest : List CallbackTurn}
  {g : List Nat} {r : Crew × List CallbackTurn} {a : Agenda Crew CallbackTurn}

/-- What is written down and is no expiry leaves the expiries as they are. -/
theorem mem_of_expired {h : History Incident} {now : Time} {more : List Incident}
    (hmore : ∀ what ∈ more, what ≠ .expired id) {e : Entry Incident} (he : e ∈ h.add now more)
    (hexpired : e.what = .expired id) : e ∈ h := by
  rcases List.mem_append.mp he with he | he
  · obtain ⟨what, hwhat, rfl⟩ := List.mem_map.mp he
    exact absurd hexpired (hmore what hwhat)
  · exact he

/-! ## Turns -/

theorem Manned.settle_lt (h : Manned ⟨s, q, g⟩) (hid : .settle id ∈ q) : id < s.coalescer.next :=
  (h.sound.started _ hid id rfl).1

theorem Manned.idle {turns : List CallbackTurn} (h : Manned ⟨s, t :: rest, g⟩)
    (hsound : Sound ⟨s.coalescer, rest ++ turns, g⟩) (hturns : ∀ i, .settle i ∉ turns)
    (hnobody : ∀ x ∈ s.coalescer.callbacks, t ≠ .settle x.id) : Manned ⟨s, rest ++ turns, g⟩ := by
  refine { h with sound := hsound, settling := ?_, settled := ?_ }
  · intro x hx hended
    have hmem := (List.mem_cons.mp (h.settling x hx hended)).resolve_left (hnobody x hx).symm
    exact List.mem_append_left _ hmem
  · intro i hi
    have hmem := (List.mem_append.mp hi).resolve_right (hturns i)
    exact h.settled i (List.mem_cons_of_mem _ hmem)

theorem Manned.create {q' : List CallbackTurn} {c : Coalescer} (h : Manned ⟨s, q, g⟩) (doc : Nat)
    (isTracked : Bool) (more : List Incident) (hsettle : ∀ i, .settle i ∈ q' ↔ .settle i ∈ q)
    (hcallbacks : c.callbacks = s.coalescer.callbacks ++ [⟨s.coalescer.next, doc, .created⟩])
    (hmore : ∀ what ∈ more, what = .expired s.coalescer.next ∧ isTracked = true)
    (hsound : Sound ⟨c, q', g⟩) :
    Manned ⟨{ s.note more with
      coalescer := c
      tracked := if isTracked then s.coalescer.next :: s.tracked else s.tracked }, q', g⟩ := by
  have hnew {x : Callback} (hx : x ∈ c.callbacks) :
      x ∈ s.coalescer.callbacks ∨ x = ⟨s.coalescer.next, doc, .created⟩ := by
    rw [hcallbacks] at hx
    exact (List.mem_append.mp hx).imp_right List.mem_singleton.mp
  constructor
  case sound => exact hsound
  case settling =>
    intro x hx hended
    rcases hnew hx with hx | rfl
    · exact (hsettle x.id).mpr (h.settling x hx hended)
    · cases hended
  case settled =>
    intro i hi
    have hmem := (hsettle i).mp hi
    refine (h.settled i hmem).imp_right fun hall x hx hid ↦ ?_
    rcases hnew hx with hx | rfl
    · exact hall x hx hid
    · exact absurd hid (h.settle_lt hmem).ne'
  case present =>
    intro i hi
    rw [show Coalescer.callbacks _ = _ from hcallbacks]
    by_cases hid : i = s.coalescer.next
    · exact .inl ⟨_, List.mem_append_right _ (List.mem_singleton.mpr rfl), hid.symm⟩
    · have hold : i ∈ s.tracked := by
        dsimp only at hi
        split at hi
        · exact (List.mem_cons.mp hi).resolve_left hid
        · exact hi
      refine (h.present i hold).imp ?_ ?_
      · exact fun ⟨x, hx, hsame⟩ ↦ ⟨x, List.mem_append_left _ hx, hsame⟩
      · exact And.imp_right fun ⟨time, hmem⟩ ↦ ⟨time, List.mem_append_right _ hmem⟩
  case fired =>
    intro e he i hexpired
    rcases List.mem_append.mp he with he | he
    · obtain ⟨what, hwhat, rfl⟩ := List.mem_map.mp he
      obtain ⟨hwhat, htracked⟩ := hmore what hwhat
      cases hwhat.symm.trans hexpired
      dsimp only
      rw [if_pos htracked]
      exact List.mem_cons_self
    · have hold := h.fired e he i hexpired
      dsimp only
      split
      · exact List.mem_cons_of_mem _ hold
      · exact hold

theorem Manned.expire {o : Nat} {timer : Timer} (h : Manned ⟨s, .fire o :: rest, g⟩)
    (htimer : s.coalescer.debounce.timer? o = some timer)
    (hsound : Sound ⟨(Coalescer.perform (.fire o) s.coalescer).1,
      rest ++ [.start s.coalescer.next], g⟩) :
    Manned ⟨{ s.note [.expired s.coalescer.next] with
      coalescer := (Coalescer.perform (.fire o) s.coalescer).1
      tracked := s.coalescer.next :: s.tracked }, rest ++ [.start s.coalescer.next], g⟩ := by
  refine h.create timer.doc true [.expired s.coalescer.next] (by simp) ?_ (by simp) hsound
  rw [Coalescer.perform, htimer]

/-- A callback that has ended is not started, and has nothing planned for which it would wait. -/
theorem Manned.ended_of_leg (h : Manned ⟨s, t :: rest, g⟩) (hleg : Leg id p t s r)
    (hsettle : .settle id ∈ t :: rest) : p = .ended := by
  obtain ⟨hdone, hall⟩ := h.settled id hsettle
  by_contra hwaits
  rcases hleg.waits hwaits with rfl | hopen
  · obtain ⟨y, ys, hstarting, hy, -⟩ := h.sound.starting_eq_cons
    have hmem : y ∈ s.coalescer.starting := hstarting ▸ List.mem_cons_self
    obtain ⟨hmem, hcreated⟩ := List.mem_filter.mp hmem
    simp [Callback.isCreated, hall y hmem hy] at hcreated
  · exact hopen hdone

theorem Manned.leg (h : Manned ⟨s, t :: rest, g⟩) (ht : t = .start id ∨ t = .wake id)
    (hleg : Leg id p t s r) (hsound : Sound ⟨r.1.coalescer, rest ++ r.2, g⟩) :
    Manned ⟨r.1, rest ++ r.2, g⟩ := by
  have hrest {i : Nat} (hi : .settle i ∈ t :: rest) : .settle i ∈ rest := by
    refine (List.mem_cons.mp hi).resolve_left fun hsame ↦ ?_
    rcases ht with ht | ht <;> cases hsame.trans ht
  obtain ⟨more, hhistory, hmore, -⟩ := hleg.history
  constructor
  case sound => exact hsound
  case settling =>
    intro x hx hended
    by_cases hid : x.id = id
    · have hp := (hleg.own x hx hid).symm.trans hended
      exact List.mem_append_right _ ((hleg.settles x.id).mpr ⟨hid, hp⟩)
    · rcases hleg.others x hx hid with hx | ⟨hcreated, -⟩
      · exact List.mem_append_left _ (hrest (h.settling x hx hended))
      · simp [Callback.isCreated, hended] at hcreated
  case settled =>
    intro i hi
    rcases List.mem_append.mp hi with hi | hi
    · have hmem := List.mem_cons_of_mem t hi
      obtain ⟨hdone, hall⟩ := h.settled i hmem
      refine ⟨hleg.done i hdone, fun x hx hsame ↦ ?_⟩
      by_cases hid : x.id = id
      · have hsettle := hid.symm.trans hsame ▸ hmem
        exact (hleg.own x hx hid).trans (h.ended_of_leg hleg hsettle)
      · rcases hleg.others x hx hid with hx | ⟨-, hnext⟩
        · exact hall x hx hsame
        · exact absurd (hsame ▸ h.settle_lt hmem) (Nat.not_lt.mpr hnext)
    · obtain ⟨rfl, hp⟩ := (hleg.settles i).mp hi
      exact ⟨hleg.ended hp, fun x hx hid ↦ (hleg.own x hx hid).trans hp⟩
  case present =>
    intro i hi
    rcases hleg.newcomers i hi with hi | hnew
    · rcases h.present i hi with ⟨x, hx, hid⟩ | ⟨hdone, time, hmem⟩
      · obtain ⟨y, hy, hsame⟩ := hleg.kept x hx
        exact .inl ⟨y, hy, hsame.trans hid⟩
      · exact .inr ⟨hleg.done i hdone, time, hhistory ▸ List.mem_append_right _ hmem⟩
    · exact .inl hnew
  case fired =>
    intro e he i hexpired
    have hnone : ∀ what ∈ more, what ≠ .expired i := fun what hwhat ↦ by simp [hmore what hwhat]
    have hold := mem_of_expired hnone (hhistory ▸ he) hexpired
    exact hleg.tracked (h.fired e hold i hexpired)

theorem Manned.conclude {x : Callback} (h : Manned ⟨s, .settle x.id :: rest, g⟩)
    (hx : x ∈ s.coalescer.callbacks) (hsound : Sound ⟨(s.conclude x).coalescer, rest ++ [], g⟩) :
    Manned ⟨s.conclude x, rest ++ [], g⟩ := by
  have hmem {y : Callback} : y ∈ (s.conclude x).coalescer.callbacks ↔
      y ∈ s.coalescer.callbacks ∧ y.id ≠ x.id := by
    change y ∈ s.coalescer.callbacks.filter (·.id ≠ x.id) ↔ _
    rw [List.mem_filter, decide_eq_true_eq]
  obtain ⟨hdone, hended⟩ := h.settled x.id List.mem_cons_self
  rw [List.append_nil] at hsound ⊢
  constructor
  case sound => exact hsound
  case settling =>
    intro y hy hover
    obtain ⟨hy, hne⟩ := hmem.mp hy
    refine (List.mem_cons.mp (h.settling y hy hover)).resolve_left fun hsame ↦ ?_
    exact hne (CallbackTurn.settle.inj hsame)
  case settled =>
    intro i hi
    refine (h.settled i (List.mem_cons_of_mem _ hi)).imp_right fun hall y hy ↦ ?_
    exact hall y (hmem.mp hy).1
  case present =>
    intro i hi
    by_cases hid : i = x.id
    · subst hid
      have hcontains : s.tracked.contains x.id = true := List.contains_iff_mem.mpr hi
      refine .inr ⟨hdone, s.coalescer.now, ?_⟩
      change _ ∈ s.history.add _ (if s.tracked.contains x.id then [.left x.id x.progress] else [])
      rw [if_pos hcontains, hended x hx rfl]
      exact List.mem_cons_self
    · refine (h.present i hi).imp ?_ ?_
      · rintro ⟨y, hy, rfl⟩
        exact ⟨y, hmem.mpr ⟨hy, hid⟩, rfl⟩
      · exact And.imp_right fun ⟨time, hold⟩ ↦ ⟨time, List.mem_append_right _ hold⟩
  case fired =>
    intro e he i hexpired
    exact h.fired e (mem_of_expired (by split <;> simp) he hexpired) i hexpired

/-- **A crew stays in order from turn to turn.** -/
theorem Manned.perform (h : Manned ⟨s, t :: rest, g⟩) :
    Manned ⟨(perform t s).1, rest ++ (perform t s).2, g⟩ := by
  have hstep := step_perform t s
  generalize Crew.perform t s = r at hstep
  obtain ⟨hsound, -⟩ := hstep.sound h.sound
  cases hstep with
  | idle hsame hturns hnobody => exact h.idle hsound hturns hnobody
  | expire htimer => exact h.expire htimer hsound
  | work ht hx hplan =>
    obtain ⟨p, hleg⟩ := leg_work ht hx hplan
    exact h.leg ht hleg hsound
  | carryOn ht hx hplan => exact h.leg ht (leg_carryOn t hplan) hsound
  | conclude hx =>
    obtain ⟨hmem, rfl⟩ := callback?_eq_some hx
    exact h.conclude hmem hsound

/-! ## Coming to rest -/

theorem Manned.ring (h : Manned a) : Manned (machine.ring a) := by
  refine { h with sound := h.sound.ring, settling := ?_, settled := ?_ }
  · exact fun x hx hended ↦ List.mem_append_left _ (h.settling x hx hended)
  · -- No alarm has a callback forgotten.
    intro i hi
    refine h.settled i ((List.mem_append.mp hi).resolve_right fun hdue ↦ ?_)
    obtain ⟨x, hx, hturn⟩ := List.mem_map.mp hdue
    have hmem := (Machine.mem_pendingAlarms.mp (Machine.mem_dueAlarms.mp hx).1).1
    rcases alarm_cases hmem with ⟨y, -, rfl⟩ | ⟨y, -, hring, -⟩
    · cases hturn
    · cases hring.symm.trans hturn

theorem Manned.moveTo (h : Manned a) (hready : a.ready = []) (time : Time) :
    Manned (machine.moveTo time a) :=
  { h with sound := h.sound.moveTo hready time }

theorem load_eq (s : Crew) (q : List CallbackTurn) (g : List Nat) :
    machine.load CallbackTurn.weight (fun s ↦ s.coalescer.store + 5 * s.deedsLeft) ⟨s, q, g⟩ =
      (q.map CallbackTurn.weight).sum + s.coalescer.effort g + 5 * s.deedsLeft := by
  have hload := Coalescer.load_eq s.coalescer q g
  rw [← hload]
  exact (Nat.add_assoc _ _ _).symm

/-- **Crews come to rest.** -/
theorem orderly_machine : machine.Orderly Manned CallbackTurn.weight
    (fun s ↦ s.coalescer.store + 5 * s.deedsLeft) where
  now_setNow := fun _ _ ↦ rfl
  alarms_setNow := fun _ _ ↦ rfl
  store_setNow := fun _ _ ↦ rfl
  now_perform := fun t s ↦ (step_perform t s).now
  ring := Manned.ring
  perform := Manned.perform
  moveTo := fun h hsettled _ ↦ h.moveTo (Machine.isSettled_iff.mp hsettled).1 _
  rung := fun h hready ↦ h.sound.pendingAlarms_eq hready
  load_perform := by
    intro t rest s g h
    have hless : ((machine.perform t s).2.map CallbackTurn.weight).sum +
          (machine.perform t s).1.coalescer.effort g + 5 * (machine.perform t s).1.deedsLeft <
        t.weight + s.coalescer.effort g + 5 * s.deedsLeft :=
      ((step_perform t s).sound h.sound).2
    rw [load_eq, load_eq, List.map_append, List.sum_append, List.map_cons, List.sum_cons]
    omega
  load_lt := by
    intro a h
    have hready := sum_weight_le a.ready
    have hbudget := a.state.coalescer.effort_le_budget a.rung
    have hfuel : machine.fuel a = Coalescer.machine.budget a.state.coalescer +
      6 * a.state.deedsLeft + 6 * a.ready.length + 2 := rfl
    rw [load_eq, hfuel]
    omega

/-- **Crews can be waited for.** While a callback is under way and no turn is ready, it waits for an
alarm. -/
theorem attended_machine : machine.Attended Manned busy pending where
  setNow_setNow := fun _ _ _ ↦ rfl
  budget_setNow := fun _ _ ↦ rfl
  busy_setNow := fun _ _ ↦ rfl
  pending_setNow := fun _ _ ↦ rfl
  alarmed := by
    intro a h hready hwork halarms
    have hall : a.state.coalescer.debounce.timers.map Timer.alarm ++
      a.state.coalescer.callbacks.filterMap Callback.alarm? = [] := halarms
    obtain ⟨htimers, hcallbacks⟩ := List.append_eq_nil_iff.mp hall
    rcases hwork with hbusy | hpending
    · obtain ⟨x, hx, -⟩ := List.any_eq_true.mp hbusy
      have hnone := List.filterMap_eq_nil_iff.mp hcallbacks x hx
      cases hprogress : x.progress with
      | created =>
        have hstarting : x ∈ a.state.coalescer.starting :=
          List.mem_filter.mpr ⟨hx, by rw [Callback.isCreated, hprogress]; rfl⟩
        have hnil : a.state.coalescer.starting = [] := h.sound.starting_eq_nil hready
        rw [hnil] at hstarting
        cases hstarting
      | waiting due order =>
        rw [Callback.alarm?, hprogress] at hnone
        cases hnone
      | ended =>
        have hsettling := h.settling x hx hprogress
        rw [hready] at hsettling
        cases hsettling
    · have hnil := List.map_eq_nil_iff.mp htimers
      rw [Crew.pending, Coalescer.pending, hnil] at hpending
      cases hpending

/-! ## What happens on the way -/

theorem busy_iff : s.busy = true ↔ ∃ x ∈ s.coalescer.callbacks, x.id ∈ s.tracked := by
  simp [busy]

/-- How a crew goes on: what happens is written down with its time, and as long as nothing does,
there is still something to wait for. -/
structure Onward (s s' : Crew) : Prop where
  now_le : s.coalescer.now ≤ s'.coalescer.now
  tracked : s.tracked ⊆ s'.tracked
  history : ∃ more, s'.history = more ++ s.history ∧ (∀ e ∈ more, s.coalescer.now ≤ e.time) ∧
    (s.busy = true ∨ s.pending = true → more ≠ [] ∨ s'.busy = true ∨ s'.pending = true)

theorem Onward.refl (s : Crew) : Onward s s :=
  ⟨le_refl _, List.Subset.refl _, [], rfl, nofun, .inr⟩

theorem Onward.trans {s'' : Crew} (h : Onward s s') (h' : Onward s' s'') : Onward s s'' := by
  obtain ⟨more, hhistory, htimes, hwork⟩ := h.history
  obtain ⟨more', hhistory', htimes', hwork'⟩ := h'.history
  refine ⟨h.now_le.trans h'.now_le, List.Subset.trans h.tracked h'.tracked, more' ++ more,
    ?_, ?_, ?_⟩
  · rw [hhistory', hhistory, List.append_assoc]
  · intro e he
    rcases List.mem_append.mp he with he | he
    · exact h.now_le.trans (htimes' e he)
    · exact htimes e he
  · intro hs
    rcases hwork hs with hmore | hs'
    · exact .inl (List.append_ne_nil_of_right_ne_nil _ hmore)
    · exact (hwork' hs').imp_left (List.append_ne_nil_of_left_ne_nil · _)

theorem Onward.of_yields (h : Yields id p s s') : Onward s s' := by
  obtain ⟨more, hhistory, -, hpending⟩ := h.history
  refine ⟨h.now.ge, h.tracked, more.map (⟨s.coalescer.now, ·⟩), hhistory, ?_, ?_⟩
  · intro e he
    obtain ⟨what, -, rfl⟩ := List.mem_map.mp he
    exact le_refl _
  · rintro (hbusy | hs)
    · obtain ⟨x, hx, htracked⟩ := busy_iff.mp hbusy
      obtain ⟨y, hy, hsame⟩ := h.kept x hx
      exact .inr (.inl (busy_iff.mpr ⟨y, hy, hsame ▸ h.tracked htracked⟩))
    · rcases hpending hs with hs' | hmore
      · exact .inr (.inr hs')
      · exact .inl (by simpa using hmore)

theorem Onward.of_incident (what : Incident) (hnow : s'.coalescer.now = s.coalescer.now)
    (htracked : s.tracked ⊆ s'.tracked)
    (hhistory : s'.history = s.history.add s.coalescer.now [what]) : Onward s s' :=
  ⟨hnow.ge, htracked, _, hhistory, by simp, fun _ ↦ .inl (by simp)⟩

theorem Onward.conclude (s : Crew) (x : Callback) : Onward s (s.conclude x) := by
  cases hcontains : s.tracked.contains x.id with
  | true =>
    refine .of_incident (.left x.id x.progress) rfl (List.Subset.refl _) ?_
    change s.history.add _ (if s.tracked.contains x.id then [.left x.id x.progress] else []) = _
    rw [if_pos hcontains]
  | false =>
    refine ⟨le_refl _, List.Subset.refl _, [], ?_, nofun, fun hwork ↦ .inr ?_⟩
    · change s.history.add _ (if s.tracked.contains x.id then [.left x.id x.progress] else []) = _
      rw [hcontains]
      rfl
    · refine hwork.imp_left fun hbusy ↦ ?_
      -- The one who is waited for is another one.
      obtain ⟨y, hy, htracked⟩ := busy_iff.mp hbusy
      refine busy_iff.mpr ⟨y, List.mem_filter.mpr ⟨hy, decide_eq_true fun hsame ↦ ?_⟩, htracked⟩
      rw [← hsame, List.contains_iff_mem.mpr htracked] at hcontains
      cases hcontains

theorem follows_onward : machine.Follows Onward where
  refl := .refl
  trans := .trans
  perform := by
    intro t s
    have hstep := step_perform t s
    change Onward s (Crew.perform t s).1
    generalize Crew.perform t s = r at hstep
    cases hstep with
    | idle => exact .refl s
    | expire => exact .of_incident _ (now_perform _ _) (List.subset_cons_self _ _) rfl
    | work ht hx hplan =>
      obtain ⟨p, hleg⟩ := leg_work ht hx hplan
      exact .of_yields hleg.toYields
    | carryOn ht hx hplan => exact .of_yields (leg_carryOn t hplan).toYields
    | conclude => exact .conclude s _
  setNow := fun t s ↦ ⟨le_max_left _ t, List.Subset.refl _, [], rfl, nofun, .inr⟩

/-! ## Crews that are coalescers -/

/-- A crew without plans, in which everybody is waited for. -/
structure IsPlain (s : Crew) : Prop where
  plans : s.plans = []
  tracked : ∀ x ∈ s.coalescer.callbacks, x.id ∈ s.tracked

theorem IsPlain.busy_eq (h : s.IsPlain) : s.busy = s.coalescer.busy := by
  rw [Bool.eq_iff_iff, busy_iff, Coalescer.busy]
  cases hcallbacks : s.coalescer.callbacks with
  | nil => simp
  | cons x xs =>
    have hx : x ∈ s.coalescer.callbacks := hcallbacks ▸ List.mem_cons_self
    simpa using .inl (h.tracked x hx)

theorem IsPlain.conclude_eq {x : Callback} (h : s.IsPlain) (hx : x ∈ s.coalescer.callbacks) :
    (s.conclude x).coalescer = s.coalescer.conclude x := by
  have hfailure : s.failureOf x = (s.coalescer.work x.doc).failure := by
    rw [failureOf, h.plans]
    rfl
  have hcontains : s.tracked.contains x.id = true := List.contains_iff_mem.mpr (h.tracked x hx)
  simp only [Crew.conclude, hcontains, hfailure, if_true]
  rfl

theorem IsPlain.step {r : Crew × List CallbackTurn} (h : s.IsPlain) (hstep : Step s t r) :
    r.1.IsPlain ∧ r.1.coalescer = (Coalescer.perform t s.coalescer).1 ∧
      r.2 = (Coalescer.perform t s.coalescer).2 := by
  cases hstep with
  | idle hsame => exact ⟨h, by rw [hsame], by rw [hsame]⟩
  | @expire o timer htimer =>
    have hcallbacks : (Coalescer.perform (.fire o) s.coalescer).1.callbacks =
        s.coalescer.callbacks ++ [⟨s.coalescer.next, timer.doc, .created⟩] := by
      rw [Coalescer.perform, htimer]
    refine ⟨⟨h.plans, fun x hx ↦ ?_⟩, rfl, by rw [Coalescer.perform, htimer]⟩
    rw [show Coalescer.callbacks _ = _ from hcallbacks] at hx
    rcases List.mem_append.mp hx with hx | hx
    · exact List.mem_cons_of_mem _ (h.tracked x hx)
    · cases List.mem_singleton.mp hx
      exact List.mem_cons_self
  | @work _ id x ht hx hplan =>
    obtain ⟨p, hcallbacks, -⟩ := perform_callback ht hx
    refine ⟨⟨h.plans, fun y hy ↦ ?_⟩, rfl, rfl⟩
    have hmem : y.id ∈ s.coalescer.callbacks.map (·.id) := by
      rw [← ids_moved id p, ← hcallbacks]
      exact List.mem_map_of_mem hy
    obtain ⟨z, hz, hsame⟩ := List.mem_map.mp hmem
    exact hsame ▸ h.tracked z hz
  | carryOn ht hx hplan =>
    rw [h.plans] at hplan
    cases hplan
  | @conclude id x hx =>
    have hmem := (callback?_eq_some hx).1
    refine ⟨⟨h.plans, fun y hy ↦ h.tracked y (List.mem_filter.mp hy).1⟩, ?_, ?_⟩
    · rw [h.conclude_eq hmem, Coalescer.perform, hx]
      rfl
    · rw [Coalescer.perform]

/-- **Such crews do what coalescers do.** -/
theorem mirrors_machine : machine.Mirrors Coalescer.machine (·.coalescer) IsPlain where
  now := fun _ ↦ rfl
  alarms := fun _ ↦ rfl
  budget := by
    intro s h
    change _ + 6 * s.deedsLeft = _
    rw [deedsLeft, h.plans]
    rfl
  setNow := fun _ _ ↦ rfl
  perform := fun h ↦ (h.step (step_perform _ _)).2
  keeps :=
    { refl := fun _ h ↦ h
      trans := fun h h' hs ↦ h' (h hs)
      perform := fun t s h ↦ (h.step (step_perform t s)).1
      setNow := fun _ _ h ↦ ⟨h.plans, h.tracked⟩ }

/-! ## Every state -/

/-- The states that a crew can get into, between any two turns. It starts with nothing to do; from
outside it is asked for things and callbacks are started; and the clock may be late. -/
inductive Reached : Agenda Crew CallbackTurn → Prop
  | fresh {c : Coalescer} (plans : Keyed Nat Plan) (htimers : c.debounce.timers = [])
    (hcallbacks : c.callbacks = []) : Reached ⟨{ coalescer := c, plans := plans }, [], []⟩
  | ask {a : Agenda Crew CallbackTurn} (ha : Reached a) (r : Request) :
    Reached { a with state := a.state.ask r }
  | spawn {a : Agenda Crew CallbackTurn} (ha : Reached a) (doc : Nat) (isTracked : Bool) :
    Reached { a with
      state := a.state.spawn doc isTracked
      ready := a.ready ++ [.start a.state.coalescer.next] }
  | ring {a : Agenda Crew CallbackTurn} (ha : Reached a) : Reached (machine.ring a)
  | turn {s : Crew} {t : CallbackTurn} {rest : List CallbackTurn} {g : List Nat}
    (ha : Reached ⟨s, t :: rest, g⟩) : Reached ⟨(perform t s).1, rest ++ (perform t s).2, g⟩
  | moveTo {a : Agenda Crew CallbackTurn} (ha : Reached a) (hready : a.ready = []) (time : Time) :
    Reached (machine.moveTo time a)

theorem manned_of_idle {c : Coalescer} (plans : Keyed Nat Plan) (htimers : c.debounce.timers = [])
    (hcallbacks : c.callbacks = []) : Manned ⟨{ coalescer := c, plans := plans }, [], []⟩ where
  sound := sound_of_idle htimers hcallbacks
  settling := by
    rw [hcallbacks]
    nofun
  settled := nofun
  present := nofun
  fired := nofun

theorem Manned.ask (h : Manned a) (r : Request) : Manned { a with state := a.state.ask r } := by
  have hcallbacks : (a.state.ask r).coalescer.callbacks = a.state.coalescer.callbacks :=
    (retimed_answer r a.state.coalescer).callbacks
  constructor
  case sound => exact h.sound.answer r
  case settling =>
    rw [hcallbacks]
    exact h.settling
  case settled =>
    rw [hcallbacks]
    exact h.settled
  case present =>
    intro i hi
    rw [hcallbacks]
    refine (h.present i hi).imp_right (And.imp_right fun ⟨time, hmem⟩ ↦ ⟨time, ?_⟩)
    exact List.mem_append_right _ hmem
  case fired =>
    intro e he i hexpired
    exact h.fired e (mem_of_expired (by split <;> simp) he hexpired) i hexpired

theorem Manned.spawn (h : Manned a) (doc : Nat) (isTracked : Bool) :
    Manned { a with
      state := a.state.spawn doc isTracked
      ready := a.ready ++ [.start a.state.coalescer.next] } :=
  h.create doc isTracked [] (by simp) rfl (by simp) (h.sound.create doc)

theorem Reached.manned (h : Reached a) : Manned a := by
  induction h with
  | fresh plans htimers hcallbacks => exact manned_of_idle plans htimers hcallbacks
  | ask _ r ih => exact ih.ask r
  | spawn _ doc isTracked ih => exact ih.spawn doc isTracked
  | ring _ ih => exact ih.ring
  | turn _ ih => exact ih.perform
  | moveTo _ hready time ih => exact ih.moveTo hready time

/-- What a wait for a crew comes to. -/
structure Awaited (interval : Time) (a b : Agenda Crew CallbackTurn) : Prop where
  /-- The loops are gone through to their ends. -/
  waits : machine.Waits busy pending interval a b
  timers : b.state.coalescer.debounce.timers = []
  /-- Who is still under way is not waited for. -/
  tasks : ∀ x ∈ b.state.coalescer.callbacks, x.id ∉ b.state.tracked
  /-- Those who were waited for before have ended, and all who were created on the way to be waited
  for, such as those that were called for by quiet periods. -/
  finished : ∀ id ∈ b.state.tracked, b.state.IsDone id ∧
    ∃ time, ⟨time, .left id .ended⟩ ∈ b.state.history
  before : a.state.tracked ⊆ b.state.tracked
  fired : ∀ e ∈ b.state.history, ∀ id, e.what = .expired id → id ∈ b.state.tracked
  still : a.state.busy = false → a.state.pending = false → b = a
  /-- Something has happened on the way, not longer than an interval ago. -/
  prompt : a.state.busy = true ∨ a.state.pending = true →
    ∃ more, b.state.history = more ++ a.state.history ∧
      ∃ e ∈ more, b.state.coalescer.now ≤ e.time + interval
  /-- Those who have nothing but the usual work to do are waited for as always. -/
  usual : a.state.IsPlain → b.map (·.coalescer) = Coalescer.machine.waitIdle Coalescer.busy
    Coalescer.pending (a.map (·.coalescer)) interval

/-- **Waits for crews end, with nothing left.** -/
theorem waitIdle_awaited (ha : Reached a) {interval : Time} (hinterval : 0 < interval) :
    Awaited interval a (machine.waitIdle busy pending a interval) := by
  have hends := attended_machine.waitIdle orderly_machine follows_onward hinterval ha.manned
  have hstill (hbusy : a.state.busy = false) (hpending : a.state.pending = false) :
      machine.waitIdle busy pending a interval = a :=
    Machine.waitIdleWithin_of_idle hbusy hpending _
  have husual (h : a.state.IsPlain) : (machine.waitIdle busy pending a interval).map (·.coalescer) =
      Coalescer.machine.waitIdle Coalescer.busy Coalescer.pending (a.map (·.coalescer)) interval :=
    mirrors_machine.waitIdle IsPlain.busy_eq (fun _ ↦ rfl) interval h
  have honward : Onward a.state (machine.waitIdle busy pending a interval).state :=
    follows_onward.waitIdle busy pending a
  generalize machine.waitIdle busy pending a interval = b at hends hstill husual honward
  have htasks : ∀ x ∈ b.state.coalescer.callbacks, x.id ∉ b.state.tracked := by
    intro x hx htracked
    have hbusy := busy_iff.mpr ⟨x, hx, htracked⟩
    rw [hends.idle] at hbusy
    cases hbusy
  refine ⟨hends.waits, ?_, htasks, ?_, honward.tracked, hends.inv.fired, hstill, ?_, husual⟩
  · simpa [Crew.pending, Coalescer.pending] using hends.nothing
  · intro i hi
    refine (hends.inv.present i hi).resolve_left ?_
    rintro ⟨x, hx, rfl⟩
    exact htasks x hx hi
  · intro hwork
    obtain ⟨s, hbefore, hs, hafter, hnow⟩ := hends.late hwork
    obtain ⟨more, hhistory, -⟩ := hbefore.history
    obtain ⟨more', hhistory', htimes, hleft⟩ := hafter.history
    -- What was still to be waited for is there no more, so something has happened since.
    have hmore : more' ≠ [] := by
      refine (hleft hs).resolve_right ?_
      rw [hends.idle, hends.nothing]
      simp
    obtain ⟨e, he⟩ := List.exists_mem_of_ne_nil _ hmore
    refine ⟨more' ++ more, by rw [hhistory', hhistory, List.append_assoc], e,
      List.mem_append_left _ he, hnow.trans ?_⟩
    exact add_le_add_left (htimes e he) interval

end

/-- Two documents, both triggered. Somebody who is not waited for cancels one of the quiet periods;
the callback for the other one starts a further callback, triggers once more for the document whose
quiet period was cancelled, and fails. -/
def hecticSample : Agenda Crew CallbackTurn :=
  let crew : Crew :=
    { coalescer :=
        { documents := [{ uri := "a" }, { uri := "b" }]
          debounce := { delay := 5 }
          work := fun _ ↦ { wait := 4 } }
      plans :=
        [(2, { deeds := [.pause 2, .ask (.cancel "b")] }),
          (4, { deeds := [.spawn 1 true, .pause 3, .ask (.trigger 1)], failure := "exploded" })] }
  ⟨((crew.ask (.trigger 0)).ask (.trigger 1)).spawn 0 false, [.start 2], []⟩

theorem waitIdle_awaited_hectic :
    Reached hecticSample ∧ (0 : Time) < 10 ∧
      Awaited 10 hecticSample (machine.waitIdle busy pending hecticSample 10) ∧
      (machine.waitIdle busy pending hecticSample 10).state.coalescer.now = 20 ∧
      (machine.waitIdle busy pending hecticSample 10).state.history.map (fun e ↦ (e.time, e.what)) =
        [(17, .left 9 .ended), (13, .expired 9), (9, .left 5 .ended), (8, .left 4 .ended),
          (5, .expired 4), (2, .cancelled)] := by
  have hreached : Reached hecticSample :=
    (((Reached.fresh _ rfl rfl).ask (.trigger 0)).ask (.trigger 1)).spawn 0 false
  exact ⟨hreached, by decide, waitIdle_awaited hreached (by decide), by decide +kernel,
    by decide +kernel⟩

end DiagnosticFeed.Schedule.Crew
