import DiagnosticFeed.Proofs.Schedule.Chronicle
import Mathlib.Data.Set.Card

/-!
# When callbacks are called

The specification of quiet periods, in terms of what happened: a callback is called for a trigger
that was accepted and left alone, when the delay is over that was in force at the trigger. It holds
of every coalescer that starts with nothing to do, whatever is asked of it and however its
callbacks behave.

A delay that is negative counts as none.
-/

namespace DiagnosticFeed.Schedule

/-! ## What a history tells -/

/-- The last thing that happened under a resource identifier is a trigger. -/
def Outstanding (h : History Happening) (doc : Nat) (uri : String) (time delay : Time) : Prop :=
  ∃ newer older, h = newer ++ ⟨time, .triggered doc uri delay⟩ :: older ∧
    ∀ e ∈ newer, e.what.touches uri = false

/-- Nothing ends a quiet period under a resource identifier unless one has expired before. -/
def Undisturbed (uri : String) (h : History Happening) : Prop :=
  ∀ newer e older, h = newer ++ e :: older → e.what.ends uri = true →
    ∃ e' ∈ older, e'.what.expires uri = true

/-- There was a trigger that was left alone, and its delay ends at `time`. -/
def LeftAlone (h : History Happening) (doc : Nat) (uri : String) (time : Time) : Prop :=
  ∃ newer time₀ delay older, h = newer ++ ⟨time₀, .triggered doc uri delay⟩ :: older ∧
    time = time₀ + max delay 0 ∧ Undisturbed uri newer

namespace Coalescer

/-- What the state of a coalescer and its calls have to be after what happened. -/
structure Punctual (a : Agenda Coalescer CallbackTurn) (h : History Happening) : Prop where
  /-- When nothing is left to do, the callbacks that were called are those for triggers that were
  left alone until their time. -/
  called : machine.isSettled a = true → ∀ doc uri time,
    (∃ text, ⟨time, .called doc uri text⟩ ∈ h) ↔ LeftAlone h doc uri time ∧ time ≤ a.state.now
  /-- Callbacks are called for the quiet periods that expired, one by one, at once and in order. -/
  once : h.filterMap Happening.call? = h.filterMap Happening.expiry?
  /-- A quiet period that expires is outstanding until then, and expires on time. -/
  expired : ∀ newer time doc uri older, h = newer ++ ⟨time, .expired doc uri⟩ :: older →
    ∃ time₀ delay, Outstanding older doc uri time₀ delay ∧ time = time₀ + max delay 0
  /-- The quiet periods that are running are the outstanding ones. -/
  pending : a.state.debounce.pending =
    {uri | ∃ doc time delay, Outstanding h doc uri time delay}.ncard
  uris : (a.state.debounce.timers.map (·.uri)).Nodup
  /-- A trigger that is refused leaves everything but a note in the log. -/
  refused : ∀ doc, a.state.accepts doc = false → a.state.triggerNotes doc = [] ∧
    ∃ next journal, a.state.trigger doc = { a.state with next := next, journal := journal }

section

variable {c : Coalescer} {h : History Happening} {uri : String} {doc : Nat} {time delay : Time}

theorem outstanding_iff :
    Outstanding h doc uri time delay ↔
      last? h uri = some ⟨time, .triggered doc uri delay⟩ := by
  rw [last?, List.find?_eq_some_iff_append]
  constructor
  · rintro ⟨newer, older, rfl, hnewer⟩
    refine ⟨touches_triggered.mpr rfl, newer, older, rfl, fun e he ↦ ?_⟩
    rw [hnewer e he]
    rfl
  · rintro ⟨-, newer, older, rfl, hnewer⟩
    exact ⟨newer, older, rfl, fun e he ↦ by simpa using hnewer e he⟩

/-- Nothing happened under a resource identifier, or something was the first. -/
theorem first_touch (uri : String) (h : History Happening) :
    (∀ e ∈ h, e.what.touches uri = false) ∨
      ∃ newer e older, h = newer ++ e :: older ∧ e.what.touches uri = true ∧
        ∀ e' ∈ older, e'.what.touches uri = false := by
  induction h with
  | nil => exact .inl nofun
  | cons e h ih =>
    rcases ih with hnone | ⟨newer, e₀, older, rfl, htouches, hnone⟩
    · cases he : e.what.touches uri with
      | false => exact .inl (List.forall_mem_cons.mpr ⟨he, hnone⟩)
      | true => exact .inr ⟨[], e, h, rfl, he, hnone⟩
    · exact .inr ⟨e :: newer, e₀, older, rfl, htouches, hnone⟩

theorem touches_of_ends {e : Happening} (he : e.ends uri = true) : e.touches uri = true := by
  rw [Happening.touches, he, Bool.true_or]

theorem touches_of_expires {e : Happening} (he : e.expires uri = true) : e.touches uri = true := by
  rw [Happening.touches, he, Bool.or_true]

/-- What was outstanding when it expired was left alone. -/
theorem leftAlone_of_outstanding {newer older : History Happening} {doc' : Nat} {time₀ : Time}
    (hout : Outstanding older doc uri time₀ delay) (htime : time = time₀ + max delay 0) :
    LeftAlone (newer ++ ⟨time, .expired doc' uri⟩ :: older) doc uri time := by
  obtain ⟨between, oldest, rfl, hnone⟩ := hout
  refine ⟨newer ++ ⟨time, .expired doc' uri⟩ :: between, time₀, delay, oldest, by simp, htime, ?_⟩
  intro later e earlier hsplit hends
  have hexpires : Happening.expires uri (.expired doc' uri) = true := beq_self_eq_true uri
  rcases List.append_eq_append_iff.mp hsplit with ⟨more, -, hrest⟩ | ⟨more, -, hrest⟩
  · -- What is not newer than the expiry ends no quiet period.
    cases more with
    | nil =>
      cases hrest
      cases hends
    | cons e' more =>
      obtain ⟨rfl, rfl⟩ := List.cons.inj hrest
      have hspared := hnone e (List.mem_append_right _ List.mem_cons_self)
      rw [touches_of_ends hends] at hspared
      cases hspared
  · cases more with
    | nil =>
      cases hrest
      cases hends
    | cons e' more =>
      obtain ⟨rfl, rfl⟩ := List.cons.inj hrest
      exact ⟨_, List.mem_append_right _ List.mem_cons_self, hexpires⟩

theorem call_of_mem {text : String} (hmem : ⟨time, .called doc uri text⟩ ∈ h) :
    (doc, uri, time) ∈ h.filterMap Happening.call? :=
  List.mem_filterMap.mpr ⟨_, hmem, rfl⟩

theorem mem_of_call (hmem : (doc, uri, time) ∈ h.filterMap Happening.call?) :
    ∃ text, ⟨time, .called doc uri text⟩ ∈ h := by
  obtain ⟨⟨t, what⟩, he, hcall⟩ := List.mem_filterMap.mp hmem
  cases what with
  | called doc' uri' text =>
    cases hcall
    exact ⟨text, he⟩
  | _ => cases hcall

theorem mem_of_expiry (hmem : (doc, uri, time) ∈ h.filterMap Happening.expiry?) :
    ⟨time, .expired doc uri⟩ ∈ h := by
  obtain ⟨⟨t, what⟩, he, hexpiry⟩ := List.mem_filterMap.mp hmem
  cases what with
  | expired doc' uri' =>
    cases hexpiry
    exact he
  | _ => cases hexpiry

theorem Faithful.leftAlone (hc : Faithful c h) (hexpired : ⟨time, .expired doc uri⟩ ∈ h) :
    LeftAlone h doc uri time := by
  obtain ⟨newer, older, rfl⟩ := List.append_of_mem hexpired
  obtain ⟨time₀, delay, hlast, htime⟩ := hc.answered time doc uri older (List.suffix_append _ _)
  exact leftAlone_of_outstanding (outstanding_iff.mpr hlast) htime

/-- What is left alone until its time expires then, if no timer is due. -/
theorem Faithful.expired (hc : Faithful c h) (hdue : ∀ x ∈ c.debounce.timers, c.now < x.due)
    (hleft : LeftAlone h doc uri time) (hle : time ≤ c.now) : ⟨time, .expired doc uri⟩ ∈ h := by
  obtain ⟨newer, time₀, delay, older, rfl, rfl, hundisturbed⟩ := hleft
  have hlast (since : History Happening) (hnone : ∀ e ∈ since, e.what.touches uri = false) :
      last? (since ++ ⟨time₀, .triggered doc uri delay⟩ :: older) uri =
        some ⟨time₀, .triggered doc uri delay⟩ :=
    outstanding_iff.mp ⟨since, older, rfl, hnone⟩
  rcases first_touch uri newer with hnone | ⟨later, ⟨t, what⟩, earlier, rfl, htouches, hnone⟩
  · -- The trigger has its timer still, which is due.
    obtain ⟨x, hx, rfl⟩ := hc.waited _ _ _ _ (hlast newer hnone)
    obtain ⟨time', delay', hlast', hdelay, -⟩ := hc.timed x hx
    cases (hlast newer hnone).symm.trans hlast'
    have hsoon : x.due ≤ time₀ + max delay 0 := hdelay ▸ add_le_add_right (le_max_left _ _) _
    exact absurd (hdue x hx) (not_lt.mpr (hsoon.trans hle))
  · have hspared : what.ends uri = false := by
      by_contra hends
      obtain ⟨e', he', hexpires⟩ :=
        hundisturbed later ⟨t, what⟩ earlier rfl (by simpa using hends)
      have hnot := hnone e' he'
      rw [touches_of_expires hexpires] at hnot
      cases hnot
    have hexpires : what.expires uri = true := by
      rw [Happening.touches, hspared, Bool.false_or] at htouches
      exact htouches
    cases what with
    | expired doc' uri' =>
      cases eq_of_beq hexpires
      rw [List.append_assoc, List.cons_append] at hc ⊢
      obtain ⟨time', delay', hlast', htime⟩ := hc.answered t doc' uri _ (List.suffix_append _ _)
      cases (hlast earlier hnone).symm.trans hlast'
      rw [← htime]
      exact List.mem_append_right _ List.mem_cons_self
    | _ => cases hexpires

/-- There are as many timers as outstanding triggers. -/
theorem Faithful.pending_eq (hc : Faithful c h) (huris : (c.debounce.timers.map (·.uri)).Nodup) :
    c.debounce.pending = {uri | ∃ doc time delay, Outstanding h doc uri time delay}.ncard := by
  have hset : {uri | ∃ doc time delay, Outstanding h doc uri time delay} =
      ((c.debounce.timers.map (·.uri)).toFinset : Set String) := by
    ext uri
    rw [List.coe_toFinset]
    constructor
    · rintro ⟨doc, time, delay, hout⟩
      obtain ⟨x, hx, rfl⟩ := hc.waited uri time doc delay (outstanding_iff.mp hout)
      exact List.mem_map_of_mem hx
    · intro hmem
      obtain ⟨x, hx, rfl⟩ := List.mem_map.mp hmem
      obtain ⟨time, delay, hlast, -⟩ := hc.timed x hx
      exact ⟨x.doc, time, delay, outstanding_iff.mpr hlast⟩
  rw [hset, Set.ncard_coe_finset, List.toFinset_card_of_nodup huris, List.length_map]
  rfl

/-- **A coalescer whose state agrees with its past is punctual.** -/
theorem Faithful.punctual {a : Agenda Coalescer CallbackTurn} (hc : Faithful a.state h)
    (hs : Sound a) (hready : a.ready = []) : Punctual a h := by
  have honce : h.filterMap Happening.call? = h.filterMap Happening.expiry? := by
    rw [hc.called, hs.starting_eq_nil hready]
    rfl
  constructor
  case called =>
    intro hsettled doc uri time
    have hdue := (Machine.isSettled_iff.mp hsettled).2
    rw [hs.pendingAlarms_eq hready] at hdue
    constructor
    · rintro ⟨text, hmem⟩
      have hexpired := mem_of_expiry (honce ▸ call_of_mem hmem)
      exact ⟨hc.leftAlone hexpired, hc.past _ hexpired⟩
    · rintro ⟨hleft, hle⟩
      have hexpired := hc.expired
        (fun x hx ↦ hdue x.alarm (mem_alarms.mpr (.inl ⟨x, hx, rfl⟩))) hleft hle
      exact mem_of_call (honce ▸ List.mem_filterMap.mpr ⟨_, hexpired, rfl⟩)
  case once => exact honce
  case expired =>
    rintro newer time doc uri older rfl
    obtain ⟨time₀, delay, hlast, htime⟩ := hc.answered time doc uri older (List.suffix_append _ _)
    exact ⟨time₀, delay, outstanding_iff.mpr hlast, htime⟩
  case pending => exact hc.pending_eq hs.uris
  case uris => exact hs.uris
  case refused =>
    intro doc hrefused
    refine ⟨by rw [triggerNotes, hrefused]; rfl, ?_⟩
    rcases a.state.trigger_cases doc with ⟨-, next, journal, -, heq⟩ | ⟨d, journal, -, haccepted, -⟩
    · exact ⟨next, journal, heq⟩
    · rw [haccepted] at hrefused
      cases hrefused

/-! ## Every run -/

theorem faithful_of_idle (htimers : c.debounce.timers = []) (hcallbacks : c.callbacks = []) :
    Faithful c [] := by
  have hstarting : c.starting = [] := by rw [starting, hcallbacks]; rfl
  constructor <;> simp [htimers, hstarting, last?]

/-- What holds throughout of a coalescer that is watched, if `earlier` was seen before. -/
def Kept (earlier : List CallbackEvent) (a : Agenda (Coalescer × History Happening) CallbackTurn) :
    Prop :=
  Sound a.base ∧ Faithful a.state.1 a.state.2 ∧
    a.state.1.seen = a.state.2.filterMap Happening.seen? ++ earlier

theorem kept_of_idle (htimers : c.debounce.timers = []) (hcallbacks : c.callbacks = []) :
    Kept c.seen ⟨(c, []), [], []⟩ :=
  ⟨sound_of_idle htimers hcallbacks, faithful_of_idle htimers hcallbacks, rfl⟩

theorem Kept.answer {earlier : List CallbackEvent}
    {a : Agenda (Coalescer × History Happening) CallbackTurn} (ha : Kept earlier a) (r : Request) :
    Kept earlier { a with state := machine.recordedAnswer answer asked r a.state } :=
  ⟨ha.1.answer r, ha.2.1.answer r, seen_answer r ha.2.2⟩

theorem orderly_recorded (earlier : List CallbackEvent) :
    (machine.recorded notes).Orderly (Kept earlier) CallbackTurn.weight (fun x ↦ x.1.store) :=
  orderly_machine.recorded (J := fun x ↦ Faithful x.1 x.2 ∧
      x.1.seen = x.2.filterMap Happening.seen? ++ earlier)
    (fun hs hj ↦ ⟨hj.1.perform hs, seen_perform _ hj.2⟩)
    (fun hs hj hsettled hlater ↦ ⟨hj.1.moveTo hs hsettled hlater, hj.2⟩)

theorem base_watch (c : Coalescer) (ds : List (Demand Request)) :
    (c.watch ds).base = c.run ds :=
  Machine.base_foldl_serve ds _

theorem kept_watch (htimers : c.debounce.timers = []) (hcallbacks : c.callbacks = [])
    (ds : List (Demand Request)) : Kept c.seen (c.watch ds) ∧ (c.watch ds).ready = [] :=
  (orderly_recorded c.seen).serve (fun ha _ ↦ ha.answer _) (kept_of_idle htimers hcallbacks) rfl ds

/-- **Callbacks are called for the triggers that were left alone.** A coalescer that starts with
nothing to do is punctual after all demands, what is seen of its callbacks are the calls in its
past, and it comes to rest wherever the clock is moved to. -/
theorem quiet_periods (htimers : c.debounce.timers = []) (hcallbacks : c.callbacks = [])
    (ds : List (Demand Request)) :
    (c.watch ds).base = c.run ds ∧
      (c.run ds).state.seen = (c.watch ds).state.2.filterMap Happening.seen? ++ c.seen ∧
      Punctual (c.run ds) (c.watch ds).state.2 ∧
      ∀ goal, machine.isSettled (c.run (ds ++ [.advance goal])) = true ∧
        (c.run (ds ++ [.advance goal])).state.now = max (c.run ds).state.now goal := by
  obtain ⟨⟨hs, hc, hseen⟩, hready⟩ := kept_watch htimers hcallbacks ds
  rw [← base_watch c ds]
  refine ⟨rfl, hseen, hc.punctual (a := (c.watch ds).base) hs hready, fun goal ↦ ?_⟩
  have hlast : c.run (ds ++ [.advance goal]) = machine.advance goal (c.watch ds).base := by
    rw [base_watch]
    exact List.foldl_append
  rw [hlast]
  exact (orderly_machine.advance goal hs).2

end

/-- Two documents of one resource identifier, and another one. -/
def trioSample : Coalescer where
  documents := [{ uri := "a" }, { uri := "b" }, { uri := "a" }]
  debounce := { delay := 5 }

/-- The other document of a resource identifier is triggered before a quiet period ends, with a
shorter delay, and one of two quiet periods is cancelled. -/
def burstSample : List (Demand Request) :=
  [.ask (.trigger 0), .ask (.trigger 1), .ask (.setDelay 3), .advance 2, .ask (.trigger 2),
    .ask (.cancel "b"), .advance 9]

theorem quiet_periods_sample :
    trioSample.debounce.timers = [] ∧ trioSample.callbacks = [] ∧
      machine.isSettled (trioSample.run burstSample) = true ∧
      Punctual (trioSample.run burstSample) (trioSample.watch burstSample).state.2 ∧
      (trioSample.watch burstSample).state.2.filterMap Happening.call? = [(2, "a", 5)] ∧
      LeftAlone (trioSample.watch burstSample).state.2 2 "a" 5 := by
  have hsettled : machine.isSettled (trioSample.run burstSample) = true := by decide +kernel
  have hcalls : (trioSample.watch burstSample).state.2.filterMap Happening.call? =
      [(2, "a", 5)] := by decide +kernel
  have hpunctual := (quiet_periods (c := trioSample) rfl rfl burstSample).2.2.1
  have hcall : ∃ text, ⟨5, .called 2 "a" text⟩ ∈ (trioSample.watch burstSample).state.2 :=
    mem_of_call (hcalls ▸ List.mem_cons_self)
  exact ⟨rfl, rfl, hsettled, hpunctual, hcalls, ((hpunctual.called hsettled 2 "a" 5).mp hcall).1⟩

end Coalescer

end DiagnosticFeed.Schedule
