import DiagnosticFeed.Proofs.Schedule.Supply
import DiagnosticFeed.Schedule.Coalescer
import Mathlib.Data.List.Nodup

/-!
# Coalescers come to rest

What the state of a coalescer and its queue of turns have to do with each other. Timers belong to
documents, one for each resource identifier at most; every number names one alarm or one callback;
an alarm that has rung has its turn in the queue; and the callbacks that were created and not
started are those with a start in the queue, in the same order. All of this holds between any two
turns.

A callback can trigger again by itself, and with no quiet period to wait for it would do so at
once. It edits its document each time, and stops at a version that is set beforehand, so this ends.
-/

namespace DiagnosticFeed.Schedule

def Timer.alarm (x : Timer) : Alarm CallbackTurn :=
  ⟨x.due, x.order, .fire x.order⟩

def Callback.alarm? (x : Callback) : Option (Alarm CallbackTurn) :=
  match x.progress with
  | .waiting due order => some ⟨due, order, .ring x.id⟩
  | _ => none

def Callback.isCreated (x : Callback) : Bool :=
  x.progress == .created

theorem Callback.of_alarm? {y : Callback} {x : Alarm CallbackTurn} (h : y.alarm? = some x) :
    x.turn = .ring y.id ∧ y.isCreated = false := by
  rw [Callback.alarm?] at h
  rw [Callback.isCreated]
  cases hp : y.progress <;> rw [hp] at h <;> cases h
  exact ⟨rfl, rfl⟩

namespace CallbackTurn

/-- More than what a turn can bring about: an expired quiet period starts a callback, which rings
and wakes and is settled. -/
def weight : CallbackTurn → Nat
  | fire _ => 5
  | start _ => 4
  | ring _ => 3
  | wake _ => 2
  | settle _ => 1

def starts? : CallbackTurn → Option Nat
  | start id => some id
  | _ => none

/-- The callback that a turn is for, if this has been started. -/
def continues? : CallbackTurn → Option Nat
  | ring id | wake id | settle id => some id
  | _ => none

end CallbackTurn

namespace Coalescer

/-- The callbacks that were created and not started, the first one first. -/
def starting (c : Coalescer) : List Callback :=
  c.callbacks.filter (·.isCreated)

/-- The resource identifiers of the documents. -/
def names (c : Coalescer) : List String :=
  c.documents.map (·.uri)

/-- What a coalescer and its queue of turns have to do with each other. -/
structure Sound (a : Agenda Coalescer CallbackTurn) : Prop where
  named : ∀ x ∈ a.state.debounce.timers, a.state.names[x.doc]? = some x.uri
  uris : (a.state.debounce.timers.map (·.uri)).Nodup
  timers : ∀ x ∈ a.state.debounce.timers, ∀ y ∈ a.state.debounce.timers, x.order = y.order → x = y
  ids : (a.state.callbacks.map (·.id)).Nodup
  ids_lt : ∀ x ∈ a.state.callbacks, x.id < a.state.next
  orders : ∀ x ∈ a.state.alarms, ∀ y ∈ a.state.alarms, x.order = y.order → x.turn = y.turn
  orders_lt : ∀ x ∈ a.state.alarms, x.order < a.state.next
  rung_lt : ∀ o ∈ a.rung, o < a.state.next
  rung : ∀ x ∈ a.state.alarms, x.order ∈ a.rung →
    x.turn ∈ a.ready ∨ ∃ id, x.turn = .ring id ∧ .wake id ∈ a.ready
  starting : a.ready.filterMap (·.starts?) = a.state.starting.map (·.id)
  started : ∀ t ∈ a.ready, ∀ id, t.continues? = some id →
    id < a.state.next ∧ ∀ x ∈ a.state.callbacks, x.id = id → x.isCreated = false
  expired : ∀ o, .fire o ∈ a.ready →
    o < a.state.next ∧ ∀ x ∈ a.state.debounce.timers, x.order = o → x.due ≤ a.state.now

section

variable {c c' : Coalescer} {q : List CallbackTurn} {g : List Nat} {x : Alarm CallbackTurn}
  {a : Agenda Coalescer CallbackTurn}

theorem alarms_eq (c : Coalescer) :
    c.alarms = c.debounce.timers.map Timer.alarm ++ c.callbacks.filterMap Callback.alarm? :=
  rfl

theorem mem_alarms : x ∈ c.alarms ↔
    (∃ t ∈ c.debounce.timers, t.alarm = x) ∨ ∃ y ∈ c.callbacks, y.alarm? = some x := by
  rw [alarms_eq, List.mem_append, List.mem_map, List.mem_filterMap]

/-- An alarm is that of a quiet period, or of a callback that was started. -/
theorem alarm_cases (hx : x ∈ c.alarms) :
    (∃ y ∈ c.debounce.timers, x = y.alarm) ∨
      ∃ y ∈ c.callbacks, x.turn = .ring y.id ∧ y.isCreated = false := by
  rcases mem_alarms.mp hx with ⟨y, hy, rfl⟩ | ⟨y, hy, hx⟩
  · exact .inl ⟨y, hy, rfl⟩
  · exact .inr ⟨y, hy, Callback.of_alarm? hx⟩

theorem sound_of_idle (htimers : c.debounce.timers = []) (hcallbacks : c.callbacks = []) :
    Sound ⟨c, [], []⟩ := by
  have halarms : c.alarms = [] := by rw [alarms_eq, htimers, hcallbacks]; rfl
  have hstarting : c.starting = [] := by rw [starting, hcallbacks]; rfl
  constructor <;> simp [htimers, hcallbacks, halarms, hstarting]

/-! ## Triggers -/

theorem getElem?_names {doc : Nat} {d : Document} (h : c.documents[doc]? = some d) :
    c.names[doc]? = some d.uri := by
  rw [names, List.getElem?_map, h]
  rfl

theorem names_setText (c : Coalescer) (doc : Nat) (text : String) :
    (c.setText doc text).names = c.names := by
  refine List.ext_getElem? fun i ↦ ?_
  rw [names, names, setText, List.getElem?_map, List.getElem?_map, List.getElem?_modify]
  cases c.documents[i]? with
  | none => rfl
  | some d => by_cases hi : doc = i <;> simp [hi, Document.setText]

/-- The timers after a trigger that is accepted. -/
def restarted (c : Coalescer) (doc : Nat) (d : Document) : List Timer :=
  (c.debounce.cancel d.uri).timers ++ [⟨d.uri, doc, c.now + c.debounce.delay, c.next⟩]

/-- **What a trigger does**: it is refused and leaves all but a note, or it starts the quiet period
of its document anew. -/
theorem trigger_cases (c : Coalescer) (doc : Nat) :
    (c.accepts doc = false ∧ ∃ next journal, c.next ≤ next ∧
        c.trigger doc = { c with next := next, journal := journal }) ∨
      ∃ d journal, c.documents[doc]? = some d ∧ c.accepts doc = true ∧
        c.trigger doc = { c with
          debounce := { c.debounce with timers := c.restarted doc d }
          next := c.next + 1
          journal := journal } := by
  rw [accepts, trigger]
  cases hd : c.documents[doc]? with
  | none => exact .inl ⟨rfl, c.next, c.journal, Nat.le_refl _, rfl⟩
  | some d =>
    dsimp only
    rw [Debounce.trigger]
    cases hverdict : c.debounce.verdict c.enabled d with
    | started => exact .inr ⟨d, _, rfl, rfl, rfl⟩
    | _ => exact .inl ⟨rfl, c.next + 1, _, Nat.le_succ _, rfl⟩

/-- A coalescer that differs from another one in its timers and texts only. The second one may have
given out more numbers. -/
structure Retimed (c c' : Coalescer) : Prop where
  names : c'.names = c.names
  callbacks : c'.callbacks = c.callbacks
  now : c'.now = c.now
  next_le : c.next ≤ c'.next

theorem Retimed.trans {c'' : Coalescer} (h : Retimed c c') (h' : Retimed c' c'') :
    Retimed c c'' :=
  ⟨h'.names.trans h.names, h'.callbacks.trans h.callbacks, h'.now.trans h.now,
    h.next_le.trans h'.next_le⟩

theorem retimed_setText (c : Coalescer) (doc : Nat) (text : String) :
    Retimed c (c.setText doc text) :=
  ⟨c.names_setText doc text, rfl, rfl, Nat.le_refl _⟩

theorem retimed_trigger (c : Coalescer) (doc : Nat) : Retimed c (c.trigger doc) := by
  rcases c.trigger_cases doc with ⟨-, next, journal, hnext, heq⟩ | ⟨d, journal, hd, -, heq⟩ <;>
    rw [heq]
  · exact ⟨rfl, rfl, rfl, hnext⟩
  · exact ⟨rfl, rfl, rfl, Nat.le_succ _⟩

theorem retimed_retrigger (c : Coalescer) (doc : Nat) : Retimed c (c.retrigger doc) := by
  rw [Coalescer.retrigger]
  split
  · split
    · exact (c.retimed_setText doc _).trans (retimed_trigger _ doc)
    · exact ⟨rfl, rfl, rfl, Nat.le_refl _⟩
  · exact ⟨rfl, rfl, rfl, Nat.le_refl _⟩

/-- What adds no timer keeps the invariant. -/
theorem Sound.shrink (h : Sound ⟨c, q, g⟩) (hsame : Retimed c c')
    (htimers : c'.debounce.timers.Sublist c.debounce.timers) : Sound ⟨c', q, g⟩ := by
  obtain ⟨hnames, hcallbacks, hnow, hnext⟩ := hsame
  have halarms : ∀ x ∈ c'.alarms, x ∈ c.alarms := by
    intro x hx
    rw [mem_alarms, hcallbacks] at hx
    exact mem_alarms.mpr (hx.imp_left fun ⟨t, ht, hx⟩ ↦ ⟨t, htimers.subset ht, hx⟩)
  constructor
  case named =>
    rw [hnames]
    exact fun x hx ↦ h.named x (htimers.subset hx)
  case uris => exact h.uris.sublist (htimers.map _)
  case timers => exact fun x hx y hy ↦ h.timers x (htimers.subset hx) y (htimers.subset hy)
  case ids =>
    rw [hcallbacks]
    exact h.ids
  case ids_lt =>
    rw [hcallbacks]
    exact fun x hx ↦ (h.ids_lt x hx).trans_le hnext
  case orders => exact fun x hx y hy ↦ h.orders x (halarms x hx) y (halarms y hy)
  case orders_lt => exact fun x hx ↦ (h.orders_lt x (halarms x hx)).trans_le hnext
  case rung_lt => exact fun o ho ↦ (h.rung_lt o ho).trans_le hnext
  case rung => exact fun x hx ↦ h.rung x (halarms x hx)
  case starting =>
    rw [Coalescer.starting, hcallbacks]
    exact h.starting
  case started =>
    intro t ht id hid
    rw [hcallbacks]
    exact (h.started t ht id hid).imp_left (·.trans_le hnext)
  case expired =>
    intro o ho
    obtain ⟨hlt, hdue⟩ := h.expired o ho
    rw [hnow]
    exact ⟨hlt.trans_le hnext, fun x hx ↦ hdue x (htimers.subset hx)⟩

theorem Sound.add (h : Sound ⟨c, q, g⟩) {doc : Nat} {d : Document} (hd : c.documents[doc]? = some d)
    (hnew : ∀ x ∈ c.debounce.timers, x.uri ≠ d.uri) (due : Time) :
    Sound ⟨{ c with
      debounce := { c.debounce with
        timers := c.debounce.timers ++ [⟨d.uri, doc, due, c.next⟩] }
      next := c.next + 1 }, q, g⟩ := by
  have horder : ∀ x ∈ c.debounce.timers, x.order < c.next :=
    fun x hx ↦ h.orders_lt x.alarm (mem_alarms.mpr (.inl ⟨x, hx, rfl⟩))
  have halarms : ∀ x : Alarm CallbackTurn, x ∈ Coalescer.alarms { c with
      debounce := { c.debounce with
        timers := c.debounce.timers ++ [⟨d.uri, doc, due, c.next⟩] }
      next := c.next + 1 } → x ∈ c.alarms ∨ x = ⟨due, c.next, .fire c.next⟩ := by
    intro x hx
    rcases mem_alarms.mp hx with ⟨t, ht, rfl⟩ | hx
    · rcases List.mem_append.mp ht with ht | ht
      · exact .inl (mem_alarms.mpr (.inl ⟨t, ht, rfl⟩))
      · cases List.mem_singleton.mp ht
        exact .inr rfl
    · exact .inl (mem_alarms.mpr (.inr hx))
  constructor
  case named =>
    intro x hx
    rcases List.mem_append.mp hx with hx | hx
    · exact h.named x hx
    · cases List.mem_singleton.mp hx
      exact getElem?_names hd
  case uris =>
    rw [List.map_append, List.nodup_append]
    refine ⟨h.uris, List.nodup_singleton _, ?_⟩
    intro uri huri uri' huri' heq
    obtain ⟨x, hx, rfl⟩ := List.mem_map.mp huri
    cases List.mem_singleton.mp huri'
    exact hnew x hx heq
  case timers =>
    intro x hx y hy hsame
    rcases List.mem_append.mp hx with hx | hx <;> rcases List.mem_append.mp hy with hy | hy
    · exact h.timers x hx y hy hsame
    · cases List.mem_singleton.mp hy
      exact absurd hsame (horder x hx).ne
    · cases List.mem_singleton.mp hx
      exact absurd hsame (horder y hy).ne'
    · rw [List.mem_singleton.mp hx, List.mem_singleton.mp hy]
  case ids => exact h.ids
  case ids_lt => exact fun x hx ↦ Nat.lt_succ_of_lt (h.ids_lt x hx)
  case orders =>
    intro x hx y hy hsame
    rcases halarms x hx with hx | rfl <;> rcases halarms y hy with hy | rfl
    · exact h.orders x hx y hy hsame
    · exact absurd hsame (h.orders_lt x hx).ne
    · exact absurd hsame (h.orders_lt y hy).ne'
    · rfl
  case orders_lt =>
    intro x hx
    rcases halarms x hx with hx | rfl
    · exact Nat.lt_succ_of_lt (h.orders_lt x hx)
    · exact Nat.lt_succ_self _
  case rung_lt => exact fun o ho ↦ Nat.lt_succ_of_lt (h.rung_lt o ho)
  case rung =>
    intro x hx hrung
    rcases halarms x hx with hx | rfl
    · exact h.rung x hx hrung
    · exact absurd (h.rung_lt _ hrung) (Nat.lt_irrefl _)
  case starting => exact h.starting
  case started =>
    exact fun t ht id hid ↦ (h.started t ht id hid).imp_left Nat.lt_succ_of_lt
  case expired =>
    intro o ho
    obtain ⟨hlt, hdue⟩ := h.expired o ho
    refine ⟨Nat.lt_succ_of_lt hlt, fun x hx hsame ↦ ?_⟩
    rcases List.mem_append.mp hx with hx | hx
    · exact hdue x hx hsame
    · cases List.mem_singleton.mp hx
      exact absurd hsame hlt.ne'

theorem Sound.cancel (h : Sound ⟨c, q, g⟩) (uri : String) :
    Sound ⟨{ c with debounce := c.debounce.cancel uri }, q, g⟩ :=
  h.shrink ⟨rfl, rfl, rfl, Nat.le_refl _⟩ List.filter_sublist

theorem Sound.withJournal (h : Sound ⟨c, q, g⟩) (journal : List CallbackEvent) :
    Sound ⟨{ c with journal := journal }, q, g⟩ :=
  h.shrink ⟨rfl, rfl, rfl, Nat.le_refl _⟩ (List.Sublist.refl _)

theorem Sound.trigger (h : Sound ⟨c, q, g⟩) (doc : Nat) : Sound ⟨c.trigger doc, q, g⟩ := by
  rcases c.trigger_cases doc with ⟨-, next, journal, hnext, heq⟩ | ⟨d, journal, hd, -, heq⟩ <;>
    rw [heq]
  · exact h.shrink ⟨rfl, rfl, rfl, hnext⟩ (List.Sublist.refl _)
  · have hadded := (h.cancel d.uri).add hd (fun x hx ↦ by simpa using (List.mem_filter.mp hx).2)
      (c.now + c.debounce.delay)
    exact hadded.withJournal journal

theorem Sound.setText (h : Sound ⟨c, q, g⟩) (doc : Nat) (text : String) :
    Sound ⟨c.setText doc text, q, g⟩ :=
  h.shrink (c.retimed_setText doc text) (List.Sublist.refl _)

theorem Sound.retrigger (h : Sound ⟨c, q, g⟩) (doc : Nat) : Sound ⟨c.retrigger doc, q, g⟩ := by
  rw [Coalescer.retrigger]
  split
  · split
    · exact (h.setText doc _).trigger doc
    · exact h
  · exact h

/-! ## Turns -/

variable {t : CallbackTurn} {rest : List CallbackTurn} {id : Nat} {p : Progress}

/-- Callbacks, one of which has moved on. -/
def moved (id : Nat) (p : Progress) (l : List Callback) : List Callback :=
  l.map fun x ↦ if x.id == id then { x with progress := p } else x

theorem mem_moved {l : List Callback} {x : Callback} (hx : x ∈ moved id p l) :
    x ∈ l ∧ x.id ≠ id ∨ x.id = id ∧ x.progress = p := by
  obtain ⟨y, hy, rfl⟩ := List.mem_map.mp hx
  by_cases hid : y.id = id
  · rw [if_pos (by simpa using hid)]
    exact .inr ⟨hid, rfl⟩
  · rw [if_neg (by simpa using hid)]
    exact .inl ⟨hy, hid⟩

theorem ids_moved (id : Nat) (p : Progress) (l : List Callback) :
    (moved id p l).map (·.id) = l.map (·.id) := by
  rw [moved, List.map_map]
  refine List.map_congr_left fun y _ ↦ ?_
  rw [Function.comp_apply]
  split <;> rfl

/-- The alarm that a way to go on comes with. -/
theorem alarms_progress (hx : x ∈ (c.progress id p).alarms) :
    (∃ y ∈ c.debounce.timers, y.alarm = x) ∨
      (∃ y ∈ c.callbacks, y.id ≠ id ∧ y.alarm? = some x) ∨
      ∃ due order, p = .waiting due order ∧ x = ⟨due, order, .ring id⟩ := by
  rcases mem_alarms.mp hx with hx | ⟨y', hy', hx⟩
  · exact .inl hx
  · obtain ⟨y, hy, rfl⟩ := List.mem_map.mp hy'
    by_cases hid : y.id = id
    · subst hid
      simp only [beq_self_eq_true, if_true] at hx
      cases p with
      | waiting due order =>
        cases hx
        exact .inr (.inr ⟨due, order, rfl, rfl⟩)
      | _ => cases hx
    · rw [if_neg (by simpa using hid)] at hx
      exact .inr (.inl ⟨y, hy, hid, hx⟩)

theorem starting_progress (hp : p ≠ .created) (c : Coalescer) (id : Nat) :
    (c.progress id p).starting = c.starting.filter (·.id ≠ id) := by
  have hlast (y : Callback) : Callback.isCreated { y with progress := p } = false := by
    simpa [Callback.isCreated] using hp
  rw [starting, starting, List.filter_filter, progress]
  simp only [beq_iff_eq]
  induction c.callbacks with
  | nil => rfl
  | cons y ys ih =>
    rw [List.map_cons, List.filter_cons, List.filter_cons, ih]
    by_cases hid : y.id = id
    · rw [if_pos hid, hlast]
      simp [hid]
    · rw [if_neg hid]
      simp [hid]

theorem starting_filter (h : ∀ y ∈ c.callbacks, y.id = id → y.isCreated = false) :
    c.starting.filter (·.id ≠ id) = c.starting := by
  refine List.filter_eq_self.mpr fun y hy ↦ ?_
  obtain ⟨hmem, hcreated⟩ := List.mem_filter.mp hy
  rw [decide_eq_true_eq]
  intro hid
  rw [h y hmem hid] at hcreated
  cases hcreated

theorem Sound.starting_eq_nil (h : Sound a) (hready : a.ready = []) : a.state.starting = [] := by
  have hnone := h.starting
  rw [hready] at hnone
  exact List.map_eq_nil_iff.mp hnone.symm

/-- A turn that starts a callback comes for the first one. -/
theorem Sound.starting_eq_cons (h : Sound ⟨c, .start id :: rest, g⟩) :
    ∃ y ys, c.starting = y :: ys ∧ y.id = id ∧ c.starting.filter (·.id ≠ id) = ys ∧
      rest.filterMap (·.starts?) = ys.map (·.id) := by
  have hfirst : id :: rest.filterMap (·.starts?) = c.starting.map (·.id) := h.starting
  have hnodup : (c.starting.map (·.id)).Nodup := h.ids.sublist (List.filter_sublist.map _)
  cases heq : c.starting with
  | nil =>
    rw [heq] at hfirst
    cases hfirst
  | cons y ys =>
    rw [heq] at hfirst hnodup
    obtain ⟨hid, hrest⟩ := List.cons.inj hfirst
    refine ⟨y, ys, rfl, hid.symm, ?_, hrest⟩
    rw [List.filter_cons_of_neg (by simpa using hid.symm), List.filter_eq_self]
    intro z hz
    rw [decide_eq_true_eq, hid]
    intro hsame
    exact (List.nodup_cons.mp hnodup).1 (List.mem_map.mpr ⟨z, hz, hsame⟩)

/-- An alarm of another callback, or of a timer, does not need the turn in which a callback goes
on. -/
theorem Sound.rung_of_ne (h : Sound ⟨c, t :: rest, g⟩) (ht : t = .start id ∨ t = .wake id)
    (hx : x ∈ c.alarms) (hrung : x.order ∈ g) (hne : x.turn ≠ .ring id) :
    x.turn ∈ rest ∨ ∃ id', x.turn = .ring id' ∧ .wake id' ∈ rest := by
  have hturn : x.turn ≠ t := by
    rcases alarm_cases hx with ⟨y, -, rfl⟩ | ⟨y, -, hring, -⟩
    · rcases ht with rfl | rfl <;> nofun
    · rw [hring]
      rcases ht with rfl | rfl <;> nofun
  rcases h.rung x hx hrung with hmem | ⟨id', hring, hmem⟩
  · exact .inl ((List.mem_cons.mp hmem).resolve_left hturn)
  · refine .inr ⟨id', hring, (List.mem_cons.mp hmem).resolve_left ?_⟩
    rintro rfl
    rcases ht with ht | ht <;> cases ht
    exact hne hring

/-- A callback is the first to be started, or is started already, and goes on. -/
theorem Sound.progress (h : Sound ⟨c, t :: rest, g⟩)
    (ht : t = .start id ∨ t = .wake id) (hp : p ≠ .created) {next : Nat}
    (hnext : c.next ≤ next) (hwaiting : ∀ due order, p = .waiting due order →
      order = c.next ∧ c.next < next) :
    Sound ⟨{ c.progress id p with next := next }, rest, g⟩ := by
  have hids : (c.progress id p).callbacks.map (·.id) = c.callbacks.map (·.id) :=
    ids_moved id p c.callbacks
  have halarms : ∀ x ∈ (c.progress id p).alarms,
      x ∈ c.alarms ∨ ∃ due, p = .waiting due c.next ∧ x = ⟨due, c.next, .ring id⟩ := by
    intro x hx
    rcases alarms_progress hx with hx | ⟨y, hy, -, hx⟩ | ⟨due, order, hp, rfl⟩
    · exact .inl (mem_alarms.mpr (.inl hx))
    · exact .inl (mem_alarms.mpr (.inr ⟨y, hy, hx⟩))
    · obtain ⟨rfl, -⟩ := hwaiting due order hp
      exact .inr ⟨due, hp, rfl⟩
  constructor
  case named => exact h.named
  case uris => exact h.uris
  case timers => exact h.timers
  case ids =>
    rw [show ({ c.progress id p with next := next } : Coalescer).callbacks.map (·.id) = _ from hids]
    exact h.ids
  case ids_lt =>
    intro y hy
    have hmem : y.id ∈ c.callbacks.map (·.id) := hids ▸ List.mem_map_of_mem hy
    obtain ⟨y', hy', hid⟩ := List.mem_map.mp hmem
    rw [← hid]
    exact (h.ids_lt y' hy').trans_le hnext
  case orders =>
    intro x hx y hy hsame
    rcases halarms x hx with hx | ⟨due, -, rfl⟩ <;> rcases halarms y hy with hy | ⟨due', -, rfl⟩
    · exact h.orders x hx y hy hsame
    · exact absurd hsame (h.orders_lt x hx).ne
    · exact absurd hsame (h.orders_lt y hy).ne'
    · rfl
  case orders_lt =>
    intro x hx
    rcases halarms x hx with hx | ⟨due, hp, rfl⟩
    · exact (h.orders_lt x hx).trans_le hnext
    · exact (hwaiting due _ hp).2
  case rung_lt => exact fun o ho ↦ (h.rung_lt o ho).trans_le hnext
  case rung =>
    intro x hx hrung
    -- An alarm of this very callback is a new one, and has not rung.
    change x ∈ (c.progress id p).alarms at hx
    rcases alarms_progress hx with ⟨y, hy, rfl⟩ | ⟨y, hy, hne, hx⟩ | ⟨due, order, hp, rfl⟩
    · exact h.rung_of_ne ht (mem_alarms.mpr (.inl ⟨y, hy, rfl⟩)) hrung nofun
    · refine h.rung_of_ne ht (mem_alarms.mpr (.inr ⟨y, hy, hx⟩)) hrung ?_
      rw [(Callback.of_alarm? hx).1]
      exact fun hsame ↦ hne (CallbackTurn.ring.inj hsame)
    · obtain ⟨rfl, -⟩ := hwaiting due order hp
      exact absurd (h.rung_lt _ hrung) (Nat.lt_irrefl _)
  case starting =>
    change rest.filterMap (·.starts?) = (c.progress id p).starting.map (·.id)
    rw [starting_progress hp]
    rcases ht with rfl | rfl
    · obtain ⟨y, ys, -, -, hothers, hrest⟩ := h.starting_eq_cons
      rw [hothers, hrest]
    · rw [starting_filter (h.started _ List.mem_cons_self id rfl).2]
      exact h.starting
  case started =>
    intro t' ht' id' hid'
    obtain ⟨hlt, hnot⟩ := h.started t' (List.mem_cons_of_mem _ ht') id' hid'
    refine ⟨hlt.trans_le hnext, fun y' hy' hsame ↦ ?_⟩
    obtain ⟨y, hy, rfl⟩ := List.mem_map.mp hy'
    by_cases hid : (y.id == id) = true
    · rw [if_pos hid]
      simpa [Callback.isCreated] using hp
    · rw [if_neg hid] at hsame ⊢
      exact hnot y hy hsame
  case expired =>
    intro o ho
    exact (h.expired o (List.mem_cons_of_mem _ ho)).imp_left (·.trans_le hnext)

/-- A turn is put at the end of the queue that goes on with a callback. -/
theorem Sound.push (h : Sound ⟨c, q, g⟩) (ht : t.continues? = some id) (hlt : id < c.next)
    (hstarted : ∀ x ∈ c.callbacks, x.id = id → x.isCreated = false) :
    Sound ⟨c, q ++ [t], g⟩ := by
  refine { h with rung := ?_, starting := ?_, started := ?_, expired := ?_ }
  · intro x hx hrung
    rcases h.rung x hx hrung with hmem | ⟨id', hring, hmem⟩
    · exact .inl (List.mem_append_left _ hmem)
    · exact .inr ⟨id', hring, List.mem_append_left _ hmem⟩
  · have hnone : t.starts? = none := by cases t <;> first | rfl | cases ht
    rw [List.filterMap_append, List.filterMap_cons_none hnone, List.filterMap_nil, List.append_nil]
    exact h.starting
  · intro t' ht' id' hid'
    rcases List.mem_append.mp ht' with ht' | ht'
    · exact h.started t' ht' id' hid'
    · cases List.mem_singleton.mp ht'
      cases ht.symm.trans hid'
      exact ⟨hlt, hstarted⟩
  · intro o ho
    rcases List.mem_append.mp ho with ho | ho
    · exact h.expired o ho
    · cases List.mem_singleton.mp ho
      cases ht

/-- A turn is taken that no alarm which has rung still needs. -/
theorem Sound.pop (h : Sound ⟨c, t :: rest, g⟩) (ht : t.starts? = none)
    (hrung : ∀ x ∈ c.alarms, x.order ∈ g →
      x.turn ≠ t ∧ (∀ id, x.turn = .ring id → t ≠ .wake id) ∨
        ∃ id, x.turn = .ring id ∧ .wake id ∈ rest) :
    Sound ⟨c, rest, g⟩ := by
  refine { h with rung := ?_, starting := ?_, started := ?_, expired := ?_ }
  · intro x hx hx'
    rcases hrung x hx hx' with ⟨hne, hwake⟩ | hring
    · rcases h.rung x hx hx' with hmem | ⟨id, hring, hmem⟩
      · exact .inl ((List.mem_cons.mp hmem).resolve_left hne)
      · exact .inr ⟨id, hring, (List.mem_cons.mp hmem).resolve_left (hwake id hring).symm⟩
    · exact .inr hring
  · have hstarting := h.starting
    rw [List.filterMap_cons_none ht] at hstarting
    exact hstarting
  · exact fun t' ht' ↦ h.started t' (List.mem_cons_of_mem _ ht')
  · exact fun o ho ↦ h.expired o (List.mem_cons_of_mem _ ho)

/-- The end of a quiet period is passed over if no timer has its number. -/
theorem Sound.popFire {o : Nat} (h : Sound ⟨c, .fire o :: rest, g⟩)
    (hnone : ∀ y ∈ c.debounce.timers, y.order ≠ o) : Sound ⟨c, rest, g⟩ := by
  refine h.pop rfl fun x hx _ ↦ .inl ⟨?_, nofun⟩
  rcases alarm_cases hx with ⟨y, hy, rfl⟩ | ⟨y, -, hturn, -⟩
  · exact fun hsame ↦ hnone y hy (CallbackTurn.fire.inj hsame)
  · rw [hturn]
    nofun

/-- A callback that rings has its wake in the queue instead. -/
theorem Sound.popRing (h : Sound ⟨c, .ring id :: rest, g⟩) :
    Sound ⟨c, rest ++ [.wake id], g⟩ := by
  obtain ⟨hlt, hnot⟩ := h.started _ List.mem_cons_self id rfl
  refine (h.push (t := .wake id) rfl hlt hnot).pop rfl fun x hx _ ↦ ?_
  rcases alarm_cases hx with ⟨y, -, rfl⟩ | ⟨y, -, hturn, -⟩
  · exact .inl ⟨nofun, nofun⟩
  · rw [hturn]
    by_cases hid : y.id = id
    · exact .inr ⟨id, by rw [hid], List.mem_append_right _ (List.mem_singleton.mpr rfl)⟩
    · exact .inl ⟨fun hsame ↦ hid (CallbackTurn.ring.inj hsame), nofun⟩

/-- A wake is passed over if its callback is gone. -/
theorem Sound.popWake (h : Sound ⟨c, .wake id :: rest, g⟩) (hnone : ∀ y ∈ c.callbacks, y.id ≠ id) :
    Sound ⟨c, rest, g⟩ := by
  refine h.pop rfl fun x hx _ ↦ .inl ?_
  rcases alarm_cases hx with ⟨y, -, rfl⟩ | ⟨y, hy, hturn, -⟩
  · exact ⟨nofun, nofun⟩
  · rw [hturn]
    refine ⟨nofun, fun id' hid' hsame ↦ hnone y hy ?_⟩
    cases hid'
    cases hsame
    rfl

theorem Sound.popSettle (h : Sound ⟨c, .settle id :: rest, g⟩) : Sound ⟨c, rest, g⟩ := by
  refine h.pop rfl fun x hx _ ↦ .inl ⟨?_, nofun⟩
  rcases alarm_cases hx with ⟨y, -, rfl⟩ | ⟨y, -, hturn, -⟩
  · nofun
  · rw [hturn]
    nofun

theorem starting_remove (c : Coalescer) (id : Nat) (journal : List CallbackEvent) :
    starting { c with
      callbacks := c.callbacks.filter (·.id ≠ id)
      journal := journal } = c.starting.filter (·.id ≠ id) :=
  List.filter_comm _ _ _

theorem Sound.remove (h : Sound ⟨c, q, g⟩)
    (hstarted : ∀ x ∈ c.callbacks, x.id = id → x.isCreated = false) (journal : List CallbackEvent) :
    Sound ⟨{ c with
      callbacks := c.callbacks.filter (·.id ≠ id)
      journal := journal }, q, g⟩ := by
  have halarms : ∀ x ∈ Coalescer.alarms { c with
      callbacks := c.callbacks.filter (·.id ≠ id)
      journal := journal }, x ∈ c.alarms := by
    intro x hx
    rcases mem_alarms.mp hx with hx | ⟨y, hy, hx⟩
    · exact mem_alarms.mpr (.inl hx)
    · exact mem_alarms.mpr (.inr ⟨y, (List.mem_filter.mp hy).1, hx⟩)
  refine { h with
    ids := ?_, ids_lt := ?_, orders := ?_, orders_lt := ?_, rung := ?_, starting := ?_
    started := ?_ }
  · exact h.ids.sublist (List.filter_sublist.map _)
  · exact fun x hx ↦ h.ids_lt x (List.mem_filter.mp hx).1
  · exact fun x hx y hy ↦ h.orders x (halarms x hx) y (halarms y hy)
  · exact fun x hx ↦ h.orders_lt x (halarms x hx)
  · exact fun x hx ↦ h.rung x (halarms x hx)
  · rw [starting_remove, starting_filter hstarted]
    exact h.starting
  · exact fun t ht id' hid' ↦ (h.started t ht id' hid').imp_right
      fun hall x hx ↦ hall x (List.mem_filter.mp hx).1

/-- The timer that a turn names is the one of this number. -/
theorem timer?_eq_some {o : Nat} {x : Timer} (hx : c.debounce.timer? o = some x) :
    x ∈ c.debounce.timers ∧ x.order = o :=
  ⟨List.mem_of_find?_eq_some hx, by simpa using List.find?_some hx⟩

theorem callback?_eq_some {y : Callback} (hy : c.callback? id = some y) :
    y ∈ c.callbacks ∧ y.id = id :=
  ⟨List.mem_of_find?_eq_some hy, by simpa using List.find?_some hy⟩

theorem callback?_eq_none (hid : c.callback? id = none) : ∀ y ∈ c.callbacks, y.id ≠ id := by
  rw [callback?, List.find?_eq_none] at hid
  simpa using hid

def create (c : Coalescer) (doc : Nat) : Coalescer :=
  { c with
    callbacks := c.callbacks ++ [⟨c.next, doc, .created⟩]
    next := c.next + 1 }

theorem alarms_create (c : Coalescer) (doc : Nat) : (c.create doc).alarms = c.alarms := by
  rw [alarms_eq, alarms_eq, create, List.filterMap_append, List.filterMap_cons_none rfl,
    List.filterMap_nil, List.append_nil]

theorem Sound.create (h : Sound ⟨c, q, g⟩) (doc : Nat) :
    Sound ⟨c.create doc, q ++ [.start c.next], g⟩ := by
  have hnew {y : Callback} (hy : y ∈ (c.create doc).callbacks) :
      y ∈ c.callbacks ∨ y = ⟨c.next, doc, .created⟩ :=
    (List.mem_append.mp hy).imp_right List.mem_singleton.mp
  have hqueue {t : CallbackTurn} (ht : t ∈ q ++ [.start c.next]) : t ∈ q ∨ t = .start c.next :=
    (List.mem_append.mp ht).imp_right List.mem_singleton.mp
  constructor
  case named => exact h.named
  case uris => exact h.uris
  case timers => exact h.timers
  case ids =>
    rw [Coalescer.create, List.map_append, List.nodup_append]
    refine ⟨h.ids, List.nodup_singleton _, ?_⟩
    intro id hid id' hid' hsame
    obtain ⟨x, hx, rfl⟩ := List.mem_map.mp hid
    cases List.mem_singleton.mp hid'
    exact (h.ids_lt x hx).ne hsame
  case ids_lt =>
    intro x hx
    rcases hnew hx with hx | rfl
    · exact Nat.lt_succ_of_lt (h.ids_lt x hx)
    · exact Nat.lt_succ_self _
  case orders =>
    rw [alarms_create]
    exact h.orders
  case orders_lt =>
    rw [alarms_create]
    exact fun x hx ↦ Nat.lt_succ_of_lt (h.orders_lt x hx)
  case rung_lt => exact fun o ho ↦ Nat.lt_succ_of_lt (h.rung_lt o ho)
  case rung =>
    rw [alarms_create]
    intro x hx hrung
    exact (h.rung x hx hrung).imp (List.mem_append_left _)
      fun ⟨id, hring, hmem⟩ ↦ ⟨id, hring, List.mem_append_left _ hmem⟩
  case starting =>
    have hstarting : q.filterMap CallbackTurn.starts? = c.starting.map Callback.id := h.starting
    change (q ++ [CallbackTurn.start c.next]).filterMap CallbackTurn.starts? =
      (List.filter Callback.isCreated (c.callbacks ++ [⟨c.next, doc, .created⟩])).map Callback.id
    rw [List.filterMap_append, hstarting, List.filter_append, List.map_append]
    rfl
  case started =>
    intro t ht id hid
    rcases hqueue ht with ht | rfl
    · obtain ⟨hlt, hnot⟩ := h.started t ht id hid
      refine ⟨Nat.lt_succ_of_lt hlt, fun x hx hsame ↦ ?_⟩
      rcases hnew hx with hx | rfl
      · exact hnot x hx hsame
      · exact absurd hsame hlt.ne'
    · cases hid
  case expired =>
    intro o ho
    rcases hqueue ho with ho | ho
    · exact (h.expired o ho).imp_left Nat.lt_succ_of_lt
    · cases ho

theorem Sound.fire {o : Nat} {timer : Timer} (h : Sound ⟨c, .fire o :: rest, g⟩)
    (htimer : c.debounce.timer? o = some timer) :
    Sound ⟨{ c with
      debounce := c.debounce.cancel timer.uri
      callbacks := c.callbacks ++ [⟨c.next, timer.doc, .created⟩]
      next := c.next + 1 }, rest ++ [.start c.next], g⟩ := by
  obtain ⟨hmem, horder⟩ := timer?_eq_some htimer
  -- No other timer has this number, so none is left that needs this turn.
  have hnone : ∀ y ∈ (c.debounce.cancel timer.uri).timers, y.order ≠ o := by
    intro y hy hsame
    obtain ⟨hy, hne⟩ := List.mem_filter.mp hy
    rw [h.timers y hy timer hmem (hsame.trans horder.symm)] at hne
    simp at hne
  exact ((h.cancel timer.uri).popFire hnone).create timer.doc

theorem Sound.finish (h : Sound ⟨c, t :: rest, g⟩) (ht : t = .start id ∨ t = .wake id)
    (hlt : id < c.next) : Sound ⟨c.progress id .ended, rest ++ [.settle id], g⟩ := by
  have hended := h.progress (p := .ended) ht nofun (Nat.le_refl _) nofun
  refine hended.push rfl hlt ?_
  intro x hx hsame
  obtain ⟨x', hx', rfl⟩ := List.mem_map.mp hx
  by_cases hid : (x'.id == id) = true
  · rw [if_pos hid]
    rfl
  · rw [if_neg hid] at hsame
    exact absurd (by simpa using hsame) hid

theorem Sound.complete (h : Sound ⟨c, t :: rest, g⟩) {y : Callback} (hy : c.callback? id = some y)
    (ht : t = .start id ∨ t = .wake id) (hlt : id < c.next) :
    Sound ⟨c.complete y, rest ++ [.settle id], g⟩ := by
  have hid : y.id = id := (callback?_eq_some hy).2
  subst hid
  have hjournal := (h.retrigger y.doc).withJournal
    (CallbackEvent.done ((c.retrigger y.doc).uriOf y.doc) (c.retrigger y.doc).now ::
      (c.retrigger y.doc).journal)
  exact hjournal.finish ht (hlt.trans_le (c.retimed_retrigger y.doc).next_le)

theorem Sound.start (h : Sound ⟨c, .start id :: rest, g⟩) :
    ∃ y, c.callback? id = some y ∧ Sound ⟨(c.start y).1, rest ++ (c.start y).2, g⟩ := by
  obtain ⟨y₀, ys, hstarting, hid₀, -⟩ := h.starting_eq_cons
  have hmem₀ : y₀ ∈ c.callbacks := (List.mem_filter.mp (hstarting ▸ List.mem_cons_self)).1
  cases hy : c.callback? id with
  | none => exact absurd hid₀ (callback?_eq_none hy y₀ hmem₀)
  | some y =>
    obtain ⟨hmem, hid⟩ := callback?_eq_some hy
    have hlt : id < c.next := hid ▸ h.ids_lt y hmem
    have hcalled := h.withJournal
      (CallbackEvent.called (c.uriOf y.doc) (c.textOf y.doc) c.now :: c.journal)
    refine ⟨y, rfl, ?_⟩
    rw [Coalescer.start]
    dsimp only
    split
    · rw [hid]
      exact hcalled.complete hy (.inl rfl) hlt
    · rw [hid, List.append_nil]
      refine hcalled.progress (p := .waiting (c.now + (c.work y.doc).wait) c.next) (.inl rfl)
        nofun (Nat.le_succ _) ?_
      intro due order hp
      cases hp
      exact ⟨rfl, Nat.lt_succ_self _⟩

/-- **The invariant holds from turn to turn.** -/
theorem Sound.perform (h : Sound ⟨c, t :: rest, g⟩) :
    Sound ⟨(perform t c).1, rest ++ (perform t c).2, g⟩ := by
  cases t with
  | fire o =>
    rw [Coalescer.perform]
    cases htimer : c.debounce.timer? o with
    | some timer => exact h.fire htimer
    | none =>
      rw [List.append_nil]
      exact h.popFire fun y hy ↦ by simpa using List.find?_eq_none.mp htimer y hy
  | start id =>
    obtain ⟨y, hy, hstarted⟩ := h.start
    rw [Coalescer.perform, hy]
    exact hstarted
  | ring id => exact h.popRing
  | wake id =>
    rw [Coalescer.perform]
    cases hy : c.callback? id with
    | some y => exact h.complete hy (.inr rfl) (h.started _ List.mem_cons_self id rfl).1
    | none =>
      rw [Option.map_none, Option.getD_none, List.append_nil]
      exact h.popWake (callback?_eq_none hy)
  | settle id =>
    rw [Coalescer.perform, List.append_nil]
    cases hy : c.callback? id with
    | none => exact h.popSettle
    | some y =>
      obtain ⟨-, rfl⟩ := callback?_eq_some hy
      exact (h.remove (h.started _ List.mem_cons_self y.id rfl).2 _).popSettle

theorem Sound.ring (h : Sound a) : Sound (machine.ring a) := by
  have hdue : ∀ x ∈ machine.dueAlarms a, x ∈ a.state.alarms ∧ x.due ≤ a.state.now := by
    intro x hx
    obtain ⟨hpending, hle⟩ := Machine.mem_dueAlarms.mp hx
    exact ⟨(Machine.mem_pendingAlarms.mp hpending).1, hle⟩
  have hturn : ∀ t ∈ (machine.dueAlarms a).map (·.turn),
      ∃ x ∈ machine.dueAlarms a, x.turn = t := fun t ht ↦ List.mem_map.mp ht
  refine { h with rung_lt := ?_, rung := ?_, starting := ?_, started := ?_, expired := ?_ }
  · intro o ho
    rcases List.mem_append.mp ho with ho | ho
    · exact h.rung_lt o ho
    · obtain ⟨x, hx, rfl⟩ := List.mem_map.mp ho
      exact h.orders_lt x (hdue x hx).1
  · intro x hx hrung
    rcases List.mem_append.mp hrung with hrung | hrung
    · exact (h.rung x hx hrung).imp (List.mem_append_left _)
        fun ⟨id, hring, hmem⟩ ↦ ⟨id, hring, List.mem_append_left _ hmem⟩
    · -- The number tells the alarm.
      obtain ⟨y, hy, hsame⟩ := List.mem_map.mp hrung
      refine .inl (List.mem_append_right _ (List.mem_map.mpr ⟨y, hy, ?_⟩))
      exact h.orders y (hdue y hy).1 x hx hsame
  · -- Alarms start no callback; only quiet periods that expire do.
    have hnone : ((machine.dueAlarms a).map (·.turn)).filterMap (·.starts?) = [] := by
      rw [List.filterMap_eq_nil_iff]
      intro t ht
      obtain ⟨x, hx, rfl⟩ := hturn t ht
      rcases alarm_cases (hdue x hx).1 with ⟨y, -, rfl⟩ | ⟨y, -, hturn, -⟩
      · rfl
      · rw [hturn]
        rfl
    exact (List.filterMap_append.trans (by rw [hnone, List.append_nil])).trans h.starting
  · intro t ht id hid
    rcases List.mem_append.mp ht with ht | ht
    · exact h.started t ht id hid
    · obtain ⟨x, hx, rfl⟩ := hturn t ht
      rcases alarm_cases (hdue x hx).1 with ⟨y, -, rfl⟩ | ⟨y, hy, hturn, hnot⟩
      · cases hid
      · rw [hturn] at hid
        cases hid
        refine ⟨h.ids_lt y hy, fun z hz hsame ↦ ?_⟩
        rw [List.inj_on_of_nodup_map h.ids hz hy hsame]
        exact hnot
  · intro o ho
    rcases List.mem_append.mp ho with ho | ho
    · exact h.expired o ho
    · obtain ⟨x, hx, hturn⟩ := hturn _ ho
      obtain ⟨hmem, hle⟩ := hdue x hx
      rcases alarm_cases hmem with ⟨y, hy, rfl⟩ | ⟨y, -, hring, -⟩
      · cases hturn
        refine ⟨h.orders_lt _ hmem, fun z hz hsame ↦ ?_⟩
        rw [h.timers z hz y hy hsame]
        exact hle
      · rw [hring] at hturn
        cases hturn

theorem Sound.moveTo (h : Sound a) (hready : a.ready = []) (time : Time) :
    Sound (machine.moveTo time a) := by
  refine { h with rung_lt := nofun, rung := nofun, expired := ?_ }
  intro o ho
  change .fire o ∈ a.ready at ho
  rw [hready] at ho
  cases ho

/-- What has rung and is done is no alarm any more. -/
theorem Sound.pendingAlarms_eq (h : Sound a) (hready : a.ready = []) :
    machine.pendingAlarms a = a.state.alarms := by
  refine List.filter_eq_self.mpr fun x hx ↦ ?_
  by_contra hrung
  have hmem : x.order ∈ a.rung := by simpa using hrung
  rcases h.rung x hx hmem with hturn | ⟨id, -, hturn⟩ <;> rw [hready] at hturn <;> cases hturn

end

end Coalescer

end DiagnosticFeed.Schedule
