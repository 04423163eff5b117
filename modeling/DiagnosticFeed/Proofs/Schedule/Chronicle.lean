import DiagnosticFeed.Proofs.Schedule.Effort
import DiagnosticFeed.Proofs.Schedule.Record
import Mathlib.Algebra.Order.Monoid.Unbundled.MinMax

/-!
# What happened to quiet periods

What callbacks are called for is said of the past, and a coalescer has no past, only timers. What
ties the two together is the last thing that happened under each resource identifier: there is a
timer if and only if this was a trigger that was accepted, and the timer tells its time and its
delay. So the timers are what is outstanding in the history, each expiry answers a trigger on time,
and callbacks are called for the expiries, one by one and at once.

All that can be asked of a coalescer keeps this up, and so do its turns and its clock. A callback
that triggers again makes history like any other trigger.
-/

namespace DiagnosticFeed.Schedule

/-- What happens to quiet periods. -/
inductive Happening where
  /-- A trigger is accepted. -/
  | triggered (doc : Nat) (uri : String) (delay : Time)
  | cancelled (uri : String)
  | cancelledAll
  /-- A quiet period expires. -/
  | expired (doc : Nat) (uri : String)
  /-- A callback is called. -/
  | called (doc : Nat) (uri text : String)

namespace Happening

/-- Whether a quiet period under a resource identifier ends before its time. -/
def ends (uri : String) : Happening → Bool
  | triggered _ u _ | cancelled u => u == uri
  | cancelledAll => true
  | expired .. | called .. => false

/-- Whether a quiet period under a resource identifier expires. -/
def expires (uri : String) : Happening → Bool
  | expired _ u => u == uri
  | _ => false

/-- Whether anything happens to the quiet period under a resource identifier. -/
def touches (uri : String) (e : Happening) : Bool :=
  e.ends uri || e.expires uri

def expiry? (e : Entry Happening) : Option (Nat × String × Time) :=
  match e.what with
  | expired doc uri => some (doc, uri, e.time)
  | _ => none

def call? (e : Entry Happening) : Option (Nat × String × Time) :=
  match e.what with
  | called doc uri _ => some (doc, uri, e.time)
  | _ => none

def seen? (e : Entry Happening) : Option CallbackEvent :=
  match e.what with
  | called _ uri text => some (.called uri text e.time)
  | _ => none

end Happening

/-- Whether a callback is called. -/
def CallbackEvent.isCall : CallbackEvent → Bool
  | called .. => true
  | _ => false

namespace Coalescer

def seen (c : Coalescer) : List CallbackEvent :=
  c.journal.filter (·.isCall)

/-- What a trigger makes happen. -/
def triggerNotes (c : Coalescer) (doc : Nat) : List Happening :=
  if c.accepts doc then [.triggered doc (c.uriOf doc) c.debounce.delay] else []

/-- What a callback that triggers again makes happen. -/
def retriggerNotes (c : Coalescer) (doc : Nat) : List Happening :=
  match c.documents[doc]?, (c.work doc).retriggerBelow with
  | some d, some limit =>
    if d.version < limit then (c.setText doc (d.text ++ "+")).triggerNotes doc else []
  | _, _ => []

/-- What a turn makes happen, the latest first. -/
def notes (t : CallbackTurn) (c : Coalescer) : List Happening :=
  match t with
  | .fire order => ((c.debounce.timer? order).map fun x ↦ .expired x.doc x.uri).toList
  | .start id =>
    match c.callback? id with
    | some y =>
      (if (c.work y.doc).wait = 0 then c.retriggerNotes y.doc else []) ++
        [.called y.doc (c.uriOf y.doc) (c.textOf y.doc)]
    | none => []
  | .wake id =>
    match c.callback? id with
    | some y => c.retriggerNotes y.doc
    | none => []
  | .ring _ | .settle _ => []

/-- What can be asked of a coalescer. -/
inductive Request where
  | trigger (doc : Nat)
  | cancel (uri : String)
  | cancelAll
  | setDelay (delay : Time)
  | enable (value : Bool)
  | setText (doc : Nat) (text : String)

/-- A coalescer after a request. -/
def answer (r : Request) (c : Coalescer) : Coalescer :=
  match r with
  | .trigger doc => c.trigger doc
  | .cancel uri => { c with debounce := c.debounce.cancel uri }
  | .cancelAll => { c with debounce := c.debounce.cancelAll }
  | .setDelay delay => { c with debounce := { c.debounce with delay := delay } }
  | .enable value => { c with enabled := value }
  | .setText doc text => c.setText doc text

def asked (r : Request) (c : Coalescer) : List Happening :=
  match r with
  | .trigger doc => c.triggerNotes doc
  | .cancel uri => [.cancelled uri]
  | .cancelAll => [.cancelledAll]
  | .setDelay _ | .enable _ | .setText .. => []

/-- A coalescer after some demands. -/
def run (c : Coalescer) (ds : List (Demand Request)) : Agenda Coalescer CallbackTurn :=
  ds.foldl (machine.serve answer) ⟨c, [], []⟩

/-- A coalescer after some demands, with what happened since the first one. -/
def watch (c : Coalescer) (ds : List (Demand Request)) :
    Agenda (Coalescer × History Happening) CallbackTurn :=
  ds.foldl ((machine.recorded notes).serve (machine.recordedAnswer answer asked)) ⟨(c, []), [], []⟩

/-! ## The state and the past -/

/-- The last thing that happened to the quiet period under a resource identifier. -/
def last? (h : History Happening) (uri : String) : Option (Entry Happening) :=
  h.find? (·.what.touches uri)

/-- What the state of a coalescer has to do with its past. -/
structure Faithful (c : Coalescer) (h : History Happening) : Prop where
  /-- A timer tells when the last trigger was. -/
  timed : ∀ x ∈ c.debounce.timers, ∃ time delay,
    last? h x.uri = some ⟨time, .triggered x.doc x.uri delay⟩ ∧ x.due = time + delay ∧
      time ≤ c.now ∧ c.now ≤ time + max delay 0
  /-- A trigger that came last has a timer. -/
  waited : ∀ uri time doc delay, last? h uri = some ⟨time, .triggered doc uri delay⟩ →
    ∃ x ∈ c.debounce.timers, x.uri = uri
  /-- A quiet period expires on time. -/
  answered : ∀ time doc uri older, ⟨time, .expired doc uri⟩ :: older <:+ h → ∃ time₀ delay,
    last? older uri = some ⟨time₀, .triggered doc uri delay⟩ ∧ time = time₀ + max delay 0
  /-- Callbacks are called for the quiet periods that expired, in their order. -/
  called : h.filterMap Happening.expiry? =
    (c.starting.map fun y ↦ (y.doc, c.uriOf y.doc, c.now)).reverse ++ h.filterMap Happening.call?
  past : ∀ e ∈ h, e.time ≤ c.now

section

variable {c c' : Coalescer} {h : History Happening} {e : Happening} {uri : String} {doc : Nat}
  {delay : Time}

theorem last?_cons (h : History Happening) (uri : String) (e : Entry Happening) :
    last? (e :: h) uri = if e.what.touches uri then some e else last? h uri := by
  rw [last?, List.find?_cons]
  cases e.what.touches uri <;> rfl

theorem uriOf_eq (c : Coalescer) (doc : Nat) : c.uriOf doc = (c.names[doc]?).getD "" := by
  rw [uriOf, names, List.getElem?_map]
  cases c.documents[doc]? <;> rfl

theorem uriOf_congr (h : c'.names = c.names) : c'.uriOf = c.uriOf := by
  funext doc
  rw [uriOf_eq, uriOf_eq, h]

/-- What is told of the past is told by the timers, the clock, the names and the callbacks to be
started. -/
theorem Faithful.congr (hc : Faithful c h) (htimers : c'.debounce.timers = c.debounce.timers)
    (hnow : c'.now = c.now) (hnames : c'.names = c.names) (hstarting : c'.starting = c.starting) :
    Faithful c' h := by
  constructor
  · rw [htimers, hnow]
    exact hc.timed
  · rw [htimers]
    exact hc.waited
  · exact hc.answered
  · rw [hstarting, uriOf_congr hnames, hnow]
    exact hc.called
  · rw [hnow]
    exact hc.past

theorem Faithful.retimed (hc : Faithful c h) (hsame : Retimed c c')
    (htimers : c'.debounce.timers = c.debounce.timers) : Faithful c' h :=
  hc.congr htimers hsame.now hsame.names (by rw [starting, hsame.callbacks, starting])

/-- Something happens that starts and ends quiet periods, and the timers follow. -/
theorem Faithful.note (hc : Faithful c h) (hsame : Retimed c c')
    (hexpiry : Happening.expiry? ⟨c.now, e⟩ = none) (hcall : Happening.call? ⟨c.now, e⟩ = none)
    (htimers : ∀ x ∈ c'.debounce.timers, (x ∈ c.debounce.timers ∧ e.touches x.uri = false) ∨
      ∃ delay, e = .triggered x.doc x.uri delay ∧ x.due = c.now + delay)
    (hkept : ∀ x ∈ c.debounce.timers, e.touches x.uri = false → x ∈ c'.debounce.timers)
    (hnew : ∀ doc uri delay, e = .triggered doc uri delay → ∃ x ∈ c'.debounce.timers, x.uri = uri) :
    Faithful c' (h.add c.now [e]) := by
  obtain ⟨hnames, hcallbacks, hnow, -⟩ := hsame
  have hlast (uri : String) : last? (h.add c.now [e]) uri =
      if e.touches uri then some ⟨c.now, e⟩ else last? h uri := last?_cons h uri _
  constructor
  case timed =>
    intro x hx
    rw [hlast, hnow]
    -- The timer was there and is spared, or it is the one of a trigger that just happened.
    rcases htimers x hx with ⟨hx, hspared⟩ | ⟨delay, rfl, hdue⟩
    · rw [hspared]
      exact hc.timed x hx
    · rw [if_pos (by simp [Happening.touches, Happening.ends])]
      exact ⟨c.now, delay, rfl, hdue, le_refl _, le_add_of_nonneg_right (le_max_right delay 0)⟩
  case waited =>
    intro uri time doc delay hevent
    rw [hlast] at hevent
    split at hevent
    · cases hevent
      exact hnew doc uri delay rfl
    · next hspared =>
      obtain ⟨x, hx, rfl⟩ := hc.waited uri time doc delay hevent
      exact ⟨x, hkept x hx (by simpa using hspared), rfl⟩
  case answered =>
    intro time doc uri older hsuffix
    rcases List.suffix_cons_iff.mp hsuffix with heq | hsuffix
    · cases heq
      cases hexpiry
    · exact hc.answered time doc uri older hsuffix
  case called =>
    have hexpiries : (h.add c.now [e]).filterMap Happening.expiry? =
        h.filterMap Happening.expiry? := List.filterMap_cons_none hexpiry
    have hcalls : (h.add c.now [e]).filterMap Happening.call? = h.filterMap Happening.call? :=
      List.filterMap_cons_none hcall
    rw [hexpiries, hcalls, starting, hcallbacks, uriOf_congr hnames, hnow]
    exact hc.called
  case past =>
    rw [hnow]
    exact History.add_le hc.past _

/-! ## Requests -/

theorem touches_triggered {other : String} :
    (Happening.triggered doc other delay).touches uri = true ↔ other = uri := by
  simp [Happening.touches, Happening.ends, Happening.expires]

theorem touches_cancelled {other : String} :
    (Happening.cancelled other).touches uri = true ↔ other = uri := by
  simp [Happening.touches, Happening.ends, Happening.expires]

theorem Faithful.trigger (hc : Faithful c h) (doc : Nat) :
    Faithful (c.trigger doc) (h.add c.now (c.triggerNotes doc)) := by
  have hsame := c.retimed_trigger doc
  rw [triggerNotes]
  rcases c.trigger_cases doc with
    ⟨hrefused, next, journal, -, heq⟩ | ⟨d, journal, hd, haccepted, heq⟩
  · rw [hrefused]
    exact hc.retimed hsame (by rw [heq])
  · rw [if_pos haccepted]
    have huri : c.uriOf doc = d.uri := by rw [uriOf, hd]
    have htimers : (c.trigger doc).debounce.timers = c.restarted doc d := by rw [heq]
    refine hc.note hsame rfl rfl ?_ ?_ ?_
    · intro x hx
      rw [htimers] at hx
      rcases List.mem_append.mp hx with hx | hx
      · obtain ⟨hx, hne⟩ := List.mem_filter.mp hx
        rw [decide_eq_true_eq] at hne
        refine .inl ⟨hx, ?_⟩
        rw [Bool.eq_false_iff, Ne, touches_triggered, huri]
        exact Ne.symm hne
      · cases List.mem_singleton.mp hx
        exact .inr ⟨c.debounce.delay, by rw [huri], rfl⟩
    · intro x hx hspared
      rw [htimers]
      refine List.mem_append_left _ (List.mem_filter.mpr ⟨hx, decide_eq_true ?_⟩)
      rw [Bool.eq_false_iff, Ne, touches_triggered, huri] at hspared
      exact Ne.symm hspared
    · intro doc' uri' delay' hevent
      cases hevent
      rw [htimers, huri]
      exact ⟨_, List.mem_append_right _ (List.mem_singleton.mpr rfl), rfl⟩

theorem Faithful.cancel (hc : Faithful c h) (uri : String) :
    Faithful { c with debounce := c.debounce.cancel uri } (h.add c.now [.cancelled uri]) := by
  refine hc.note ⟨rfl, rfl, rfl, Nat.le_refl _⟩ rfl rfl ?_ ?_ nofun
  · intro x hx
    obtain ⟨hx, hne⟩ := List.mem_filter.mp hx
    rw [decide_eq_true_eq] at hne
    refine .inl ⟨hx, ?_⟩
    rw [Bool.eq_false_iff, Ne, touches_cancelled]
    exact Ne.symm hne
  · intro x hx hspared
    rw [Bool.eq_false_iff, Ne, touches_cancelled] at hspared
    exact List.mem_filter.mpr ⟨hx, decide_eq_true (Ne.symm hspared)⟩

theorem Faithful.cancelAll (hc : Faithful c h) :
    Faithful { c with debounce := c.debounce.cancelAll } (h.add c.now [.cancelledAll]) :=
  hc.note ⟨rfl, rfl, rfl, Nat.le_refl _⟩ rfl rfl nofun nofun nofun

/-- **Requests keep state and past together.** -/
theorem Faithful.answer (hc : Faithful c h) (r : Request) :
    Faithful (answer r c) (h.add c.now (asked r c)) := by
  cases r with
  | trigger doc => exact hc.trigger doc
  | cancel uri => exact hc.cancel uri
  | cancelAll => exact hc.cancelAll
  | setDelay delay => exact hc.retimed ⟨rfl, rfl, rfl, Nat.le_refl _⟩ rfl
  | enable value => exact hc.retimed ⟨rfl, rfl, rfl, Nat.le_refl _⟩ rfl
  | setText doc text => exact hc.retimed (c.retimed_setText doc text) rfl

theorem Sound.answer {q : List CallbackTurn} {g : List Nat} (hs : Sound ⟨c, q, g⟩) (r : Request) :
    Sound ⟨Coalescer.answer r c, q, g⟩ := by
  cases r with
  | trigger doc => exact hs.trigger doc
  | cancel uri => exact hs.cancel uri
  | cancelAll => exact hs.shrink ⟨rfl, rfl, rfl, Nat.le_refl _⟩ (List.nil_sublist _)
  | setDelay delay => exact hs.shrink ⟨rfl, rfl, rfl, Nat.le_refl _⟩ (List.Sublist.refl _)
  | enable value => exact hs.shrink ⟨rfl, rfl, rfl, Nat.le_refl _⟩ (List.Sublist.refl _)
  | setText doc text => exact hs.setText doc text

/-! ## Turns -/

theorem retrigger_cases (c : Coalescer) (doc : Nat) :
    (c.retrigger doc = c ∧ c.retriggerNotes doc = []) ∨ ∃ text,
      c.retrigger doc = (c.setText doc text).trigger doc ∧
        c.retriggerNotes doc = (c.setText doc text).triggerNotes doc := by
  rw [retrigger, retriggerNotes]
  cases c.documents[doc]? with
  | none => exact .inl ⟨rfl, rfl⟩
  | some d =>
    cases (c.work doc).retriggerBelow with
    | none => exact .inl ⟨rfl, rfl⟩
    | some limit =>
      dsimp only
      by_cases hlow : d.version < limit
      · rw [if_pos hlow, if_pos hlow]
        exact .inr ⟨_, rfl, rfl⟩
      · rw [if_neg hlow, if_neg hlow]
        exact .inl ⟨rfl, rfl⟩

theorem Faithful.retrigger (hc : Faithful c h) (doc : Nat) :
    Faithful (c.retrigger doc) (h.add c.now (c.retriggerNotes doc)) := by
  rcases c.retrigger_cases doc with ⟨heq, hnotes⟩ | ⟨text, heq, hnotes⟩ <;> rw [heq, hnotes]
  · exact hc
  · exact (hc.retimed (c.retimed_setText doc text) rfl).trigger doc

variable {rest : List CallbackTurn} {g : List Nat} {id : Nat} {p : Progress}

theorem Faithful.fire {o : Nat} {x : Timer} (hc : Faithful c h)
    (hs : Sound ⟨c, .fire o :: rest, g⟩) (hx : c.debounce.timer? o = some x) :
    Faithful { c with
      debounce := c.debounce.cancel x.uri
      callbacks := c.callbacks ++ [⟨c.next, x.doc, .created⟩]
      next := c.next + 1 } (h.add c.now [.expired x.doc x.uri]) := by
  obtain ⟨hmem, horder⟩ := timer?_eq_some hx
  obtain ⟨time₀, delay, hlast₀, hdue, hstarted, hintime⟩ := hc.timed x hmem
  have hnow : c.now = time₀ + max delay 0 := by
    have hexpired : x.due ≤ c.now := (hs.expired o List.mem_cons_self).2 x hmem horder
    refine le_antisymm hintime ?_
    rw [← max_add_add_left, add_zero, ← hdue]
    exact max_le hexpired hstarted
  have hlast (uri : String) : last? (h.add c.now [.expired x.doc x.uri]) uri =
      if x.uri == uri then some ⟨c.now, .expired x.doc x.uri⟩ else last? h uri :=
    last?_cons h uri _
  constructor
  case timed =>
    intro y hy
    obtain ⟨hy, hne⟩ := List.mem_filter.mp hy
    rw [hlast, if_neg (by simpa using Ne.symm (of_decide_eq_true hne))]
    exact hc.timed y hy
  case waited =>
    intro uri time doc delay hevent
    rw [hlast] at hevent
    split at hevent
    · cases hevent
    · next hne =>
      obtain ⟨y, hy, rfl⟩ := hc.waited uri time doc delay hevent
      exact ⟨y, List.mem_filter.mpr ⟨hy, decide_eq_true (Ne.symm (by simpa using hne))⟩, rfl⟩
  case answered =>
    intro time doc uri older hsuffix
    rcases List.suffix_cons_iff.mp hsuffix with heq | hsuffix
    · cases heq
      exact ⟨time₀, delay, hlast₀, hnow⟩
    · exact hc.answered time doc uri older hsuffix
  case called =>
    have huri : c.uriOf x.doc = x.uri := by
      rw [uriOf_eq, hs.named x hmem]
      rfl
    -- The expiry comes first in the history, its callback last among those to be started.
    change (x.doc, x.uri, c.now) :: h.filterMap Happening.expiry? =
      ((List.filter Callback.isCreated (c.callbacks ++ [⟨c.next, x.doc, .created⟩])).map
        fun y ↦ (y.doc, c.uriOf y.doc, c.now)).reverse ++ h.filterMap Happening.call?
    rw [hc.called, List.filter_append, List.map_append, List.reverse_append, ← huri]
    rfl
  case past => exact History.add_le hc.past _

theorem Faithful.call {y : Callback} (hc : Faithful c h) (hs : Sound ⟨c, .start id :: rest, g⟩)
    (hy : c.callback? id = some y) (hp : p ≠ .created) :
    Faithful (c.progress id p)
      (h.add c.now [.called y.doc (c.uriOf y.doc) (c.textOf y.doc)]) := by
  obtain ⟨hmem, hid⟩ := callback?_eq_some hy
  obtain ⟨y', ys, hstarting, hid', hothers, -⟩ := hs.starting_eq_cons
  have hmem' : y' ∈ c.callbacks := (List.mem_filter.mp (hstarting ▸ List.mem_cons_self)).1
  cases List.inj_on_of_nodup_map hs.ids hmem hmem' (hid.trans hid'.symm)
  have hlast (uri : String) : last?
      (h.add c.now [.called y.doc (c.uriOf y.doc) (c.textOf y.doc)]) uri = last? h uri :=
    last?_cons h uri _
  constructor
  case timed =>
    intro x hx
    rw [hlast]
    exact hc.timed x hx
  case waited =>
    intro uri time doc delay hevent
    rw [hlast] at hevent
    exact hc.waited uri time doc delay hevent
  case answered =>
    intro time doc uri older hsuffix
    rcases List.suffix_cons_iff.mp hsuffix with heq | hsuffix
    · cases heq
    · exact hc.answered time doc uri older hsuffix
  case called =>
    -- The first callback to be started is for the earliest expiry without a call.
    rw [starting_progress hp, hothers]
    change h.filterMap Happening.expiry? = (ys.map fun y ↦ (y.doc, c.uriOf y.doc, c.now)).reverse ++
      (y.doc, c.uriOf y.doc, c.now) :: h.filterMap Happening.call?
    rw [hc.called, hstarting, List.map_cons, List.reverse_cons, List.append_assoc]
    rfl
  case past => exact History.add_le hc.past _

theorem trigger_progress (c : Coalescer) (id : Nat) (p : Progress) (doc : Nat) :
    (c.progress id p).trigger doc = (c.trigger doc).progress id p := by
  have hdocuments : (c.progress id p).documents = c.documents := rfl
  rw [Coalescer.trigger, Coalescer.trigger, hdocuments]
  cases c.documents[doc]? <;> rfl

theorem retrigger_progress (c : Coalescer) (id : Nat) (p : Progress) (doc : Nat) :
    (c.progress id p).retrigger doc = (c.retrigger doc).progress id p := by
  have hdocuments : (c.progress id p).documents = c.documents := rfl
  have hwork : (c.progress id p).work = c.work := rfl
  rw [Coalescer.retrigger, Coalescer.retrigger, hdocuments, hwork]
  cases c.documents[doc]? with
  | none => rfl
  | some d =>
    cases (c.work doc).retriggerBelow with
    | none => rfl
    | some limit =>
      dsimp only
      split
      · exact trigger_progress (c.setText doc (d.text ++ "+")) id p doc
      · rfl

theorem Faithful.complete {y : Callback} (hc : Faithful (c.progress y.id .ended) h) :
    Faithful (c.complete y) (h.add c.now (c.retriggerNotes y.doc)) := by
  have hagain := hc.retrigger y.doc
  rw [retrigger_progress] at hagain
  exact hagain.congr rfl rfl rfl rfl

/-- **Turns keep state and past together.** -/
theorem Faithful.perform {t : CallbackTurn} (hc : Faithful c h) (hs : Sound ⟨c, t :: rest, g⟩) :
    Faithful (perform t c).1 (h.add c.now (notes t c)) := by
  cases t with
  | fire o =>
    rw [Coalescer.perform, notes]
    cases hx : c.debounce.timer? o with
    | none => exact hc
    | some x => exact hc.fire hs hx
  | start id =>
    rw [Coalescer.perform, notes]
    cases hy : c.callback? id with
    | none => exact hc
    | some y =>
      have hid : y.id = id := (callback?_eq_some hy).2
      subst hid
      rw [Option.map_some, Option.getD_some, start]
      dsimp only
      split
      · -- Without a wait the callback does all that it does at once, and ends.
        have hcalled := hc.call (p := .ended) hs hy (by decide)
        let j := CallbackEvent.called (c.uriOf y.doc) (c.textOf y.doc) c.now :: c.journal
        have hnoted : Faithful (Coalescer.progress { c with journal := j } y.id .ended)
            (h.add c.now [.called y.doc (c.uriOf y.doc) (c.textOf y.doc)]) :=
          hcalled.congr rfl rfl rfl rfl
        rw [History.add_append]
        exact hnoted.complete
      · exact (hc.call (p := .waiting (c.now + (c.work y.doc).wait) c.next) hs hy
          (by simp)).congr rfl rfl rfl rfl
  | ring id => exact hc
  | wake id =>
    rw [Coalescer.perform, notes]
    cases hy : c.callback? id with
    | none => exact hc
    | some y =>
      have hid : y.id = id := (callback?_eq_some hy).2
      subst hid
      have hstarting : (c.progress y.id .ended).starting = c.starting := by
        rw [starting_progress (by decide),
          starting_filter (hs.started _ List.mem_cons_self _ rfl).2]
      have hended : Faithful (c.progress y.id .ended) h := hc.congr rfl rfl rfl hstarting
      exact hended.complete
  | settle id =>
    rw [Coalescer.perform, notes]
    cases hy : c.callback? id with
    | none => exact hc
    | some y =>
      have hid : y.id = id := (callback?_eq_some hy).2
      subst hid
      refine hc.congr rfl rfl rfl ((starting_remove c y.id _).trans ?_)
      exact starting_filter (hs.started _ List.mem_cons_self _ rfl).2

/-- **Moves of the clock keep state and past together.** -/
theorem Faithful.moveTo {a : Agenda Coalescer CallbackTurn} {t : Time} (hc : Faithful a.state h)
    (hs : Sound a) (hsettled : machine.isSettled a = true)
    (hlater : ∀ x ∈ machine.pendingAlarms a, t ≤ x.due) :
    Faithful (machine.moveTo t a).state h := by
  obtain ⟨hready, hdue⟩ := Machine.isSettled_iff.mp hsettled
  rw [hs.pendingAlarms_eq hready] at hdue hlater
  have hstarting := hs.starting_eq_nil hready
  constructor
  case timed =>
    intro x hx
    obtain ⟨time, delay, hlast, hdelay, hle, hnow⟩ := hc.timed x hx
    have halarm : x.alarm ∈ a.state.alarms := mem_alarms.mpr (.inl ⟨x, hx, rfl⟩)
    refine ⟨time, delay, hlast, hdelay, hle.trans (le_max_left _ _), max_le hnow ?_⟩
    -- The clock goes no further than to the first alarm, so no quiet period is overrun.
    have hbound : t ≤ time + delay := hdelay ▸ hlater _ halarm
    exact hbound.trans (add_le_add_right (le_max_left _ _) _)
  case waited => exact hc.waited
  case answered => exact hc.answered
  case called =>
    have hcalled := hc.called
    rw [hstarting] at hcalled
    change _ = (a.state.starting.map _).reverse ++ _
    rw [hstarting]
    exact hcalled
  case past => exact fun e he ↦ (hc.past e he).trans (le_max_left _ _)

/-! ## What is seen -/

theorem seen_trigger (c : Coalescer) (doc : Nat) : (c.trigger doc).seen = c.seen := by
  rw [trigger]
  cases c.documents[doc]? with
  | none => rfl
  | some d =>
    change ((c.debounce.notice? c.enabled d).toList.map CallbackEvent.logged ++
      c.journal).filter _ = _
    cases c.debounce.notice? c.enabled d <;> rfl

theorem seen_retrigger (c : Coalescer) (doc : Nat) : (c.retrigger doc).seen = c.seen := by
  rcases c.retrigger_cases doc with ⟨heq, -⟩ | ⟨text, heq, -⟩ <;> rw [heq]
  exact seen_trigger _ doc

theorem seen_triggerNotes (c : Coalescer) (doc : Nat) (h : History Happening) :
    (h.add c.now (c.triggerNotes doc)).filterMap Happening.seen? =
      h.filterMap Happening.seen? := by
  rw [triggerNotes]
  split <;> rfl

theorem seen_retriggerNotes (c : Coalescer) (doc : Nat) (h : History Happening) :
    (h.add c.now (c.retriggerNotes doc)).filterMap Happening.seen? =
      h.filterMap Happening.seen? := by
  rcases c.retrigger_cases doc with ⟨-, hnotes⟩ | ⟨text, -, hnotes⟩ <;> rw [hnotes]
  · rfl
  · exact seen_triggerNotes (c.setText doc text) doc h

theorem seen_perform (t : CallbackTurn) {earlier : List CallbackEvent}
    (hseen : c.seen = h.filterMap Happening.seen? ++ earlier) :
    (perform t c).1.seen =
      (h.add c.now (notes t c)).filterMap Happening.seen? ++ earlier := by
  cases t with
  | fire o =>
    rw [perform, notes]
    cases c.debounce.timer? o <;> exact hseen
  | start id =>
    rw [perform, notes]
    cases c.callback? id with
    | none => exact hseen
    | some y =>
      let j := CallbackEvent.called (c.uriOf y.doc) (c.textOf y.doc) c.now :: c.journal
      have hcalled : seen { c with journal := j } =
          (h.add c.now [.called y.doc (c.uriOf y.doc) (c.textOf y.doc)]).filterMap
            Happening.seen? ++ earlier :=
        congrArg (CallbackEvent.called _ _ _ :: ·) hseen
      rw [Option.map_some, Option.getD_some, start, History.add_append]
      dsimp only
      split
      · rw [seen_retriggerNotes, ← hcalled]
        exact seen_retrigger { c with journal := j } y.doc
      · exact hcalled
  | ring id => exact hseen
  | wake id =>
    rw [perform, notes]
    cases c.callback? id with
    | none => exact hseen
    | some y =>
      dsimp only
      rw [seen_retriggerNotes, ← hseen]
      exact c.seen_retrigger y.doc
  | settle id =>
    rw [perform, notes]
    cases c.callback? id with
    | none => exact hseen
    | some y =>
      refine Eq.trans ?_ hseen
      rw [Option.map_some, Option.getD_some, conclude, seen]
      dsimp only
      split <;> rfl

theorem seen_answer (r : Request) {earlier : List CallbackEvent}
    (hseen : c.seen = h.filterMap Happening.seen? ++ earlier) :
    (Coalescer.answer r c).seen =
      (h.add c.now (asked r c)).filterMap Happening.seen? ++ earlier := by
  cases r with
  | trigger doc =>
    change (c.trigger doc).seen = (h.add c.now (c.triggerNotes doc)).filterMap _ ++ earlier
    rw [seen_trigger, seen_triggerNotes, hseen]
  | _ => exact hseen

end

end Coalescer

end DiagnosticFeed.Schedule
