import DiagnosticFeed.Keyed
import DiagnosticFeed.Proofs.Schedule.Chronicle

/-!
# Callbacks that do as they please

The callbacks of a coalescer wait once, may trigger again, and end. In general a callback is any
code: between its waits, of which there may be several, it can ask anything of the coalescer and
start others, and at its end it may fail. It may make all of this depend on what it finds. Whatever
it does in one run, though, comes to a list of deeds, and a crew knows this list beforehand for each
callback, by its number. A callback without a plan works as those of a coalescer do.

Besides those that are waited for there can be others, started by somebody else, whose end nobody
waits for. They can trigger and cancel like all others.

Each deed brings about less than a fixed weight, so a crew comes to rest like a coalescer. What a
callback does up to where it gives way is said once, for those with a plan and for those without.
-/

namespace DiagnosticFeed

/-- Of a sum over the values, one term is another. -/
theorem Keyed.sum_map_set {κ ν : Type} [DecidableEq κ] (f : ν → Nat) {l : Keyed κ ν} {k : κ} {v : ν}
    (h : l.get? k = some v) (v' : ν) :
    ((l.set k v').map fun e ↦ f e.2).sum + f v = (l.map fun e ↦ f e.2).sum + f v' := by
  induction l with
  | nil => cases h
  | cons e l ih =>
    obtain ⟨k₀, v₀⟩ := e
    rw [get?] at h
    rw [set]
    split at h
    · next heq =>
      cases h
      rw [if_pos heq, List.map_cons, List.map_cons, List.sum_cons, List.sum_cons]
      dsimp only
      omega
    · next hne =>
      have hrest := ih h
      rw [if_neg hne, List.map_cons, List.map_cons, List.sum_cons, List.sum_cons]
      omega

namespace Schedule

open Coalescer

/-- What a callback can do. -/
inductive Deed where
  /-- It asks something of the coalescer. -/
  | ask (r : Request)
  /-- It starts a callback for a document, which is waited for or not. -/
  | spawn (doc : Nat) (isTracked : Bool)
  | pause (span : Time)

/-- What a callback does from where it is until its end. -/
structure Plan where
  deeds : List Deed
  /-- The message it fails with at its end; none if it is empty. -/
  failure : String := ""

/-- What happens to what is waited for. -/
inductive Incident where
  /-- A quiet period expires, and a callback is created. -/
  | expired (id : Nat)
  /-- Quiet periods are ended before their time. -/
  | cancelled
  /-- A callback that was waited for has got this far and is not waited for any more. -/
  | left (id : Nat) (progress : Progress)
  deriving DecidableEq

/-- A coalescer whose callbacks do as they please. -/
structure Crew where
  coalescer : Coalescer
  /-- What callbacks will do, by their numbers. -/
  plans : Keyed Nat Plan := []
  /-- The numbers of the callbacks that are waited for, or were. -/
  tracked : List Nat := []
  /-- What happened, the latest first. -/
  history : History Incident := []

namespace Crew

/-- Whether a callback is under way that is waited for. -/
def busy (s : Crew) : Bool :=
  s.coalescer.callbacks.any fun x ↦ s.tracked.contains x.id

/-- Whether quiet periods are running. -/
def pending (s : Crew) : Bool :=
  s.coalescer.pending

/-- Writes down what happens now, the latest first. -/
def note (s : Crew) (what : List Incident) : Crew :=
  { s with history := s.history.add s.coalescer.now what }

/-- Whether a request ends quiet periods and starts none. -/
def cancels (r : Request) (c : Coalescer) : Bool :=
  match r with
  | .cancel uri => c.debounce.isPending uri
  | .cancelAll => c.pending
  | _ => false

def ask (s : Crew) (r : Request) : Crew :=
  { s.note (if cancels r s.coalescer then [.cancelled] else []) with
    coalescer := answer r s.coalescer }

def spawn (s : Crew) (doc : Nat) (isTracked : Bool) : Crew :=
  { s with
    coalescer := s.coalescer.create doc
    tracked := if isTracked then s.coalescer.next :: s.tracked else s.tracked }

/-- Where a callback gives way. -/
structure Stint where
  crew : Crew
  /-- How far it has got. -/
  progress : Progress
  /-- What it still has to do. -/
  left : List Deed
  /-- The turns that are ready now. -/
  turns : List CallbackTurn

/-- A callback does what it does, up to its next wait or its end. -/
def proceed (id : Nat) : List Deed → Crew → Stint
  | [], s => ⟨{ s with coalescer := s.coalescer.progress id .ended }, .ended, [], [.settle id]⟩
  | .ask r :: rest, s => proceed id rest (s.ask r)
  | .spawn doc isTracked :: rest, s =>
    let after := proceed id rest (s.spawn doc isTracked)
    { after with turns := .start s.coalescer.next :: after.turns }
  | .pause span :: rest, s =>
    let c := s.coalescer
    let p := Progress.waiting (c.now + span) c.next
    ⟨{ s with coalescer := { c.progress id p with next := c.next + 1 } }, p, rest, []⟩

/-- A callback goes on with its plan. -/
def carryOn (s : Crew) (id : Nat) (plan : Plan) : Crew × List CallbackTurn :=
  let after := proceed id plan.deeds s
  ({ after.crew with plans := s.plans.set id { plan with deeds := after.left } }, after.turns)

/-- The message that a callback fails with. -/
def failureOf (s : Crew) (x : Callback) : String :=
  match s.plans.get? x.id with
  | some plan => plan.failure
  | none => (s.coalescer.work x.doc).failure

/-- Forgets a callback, and logs its failure if it is waited for and has one. -/
def conclude (s : Crew) (x : Callback) : Crew :=
  let isTracked := s.tracked.contains x.id
  let failure := if isTracked then s.failureOf x else ""
  let c := s.coalescer
  let told := { c with work := fun doc ↦ { c.work doc with failure := failure } }
  { s.note (if isTracked then [.left x.id x.progress] else []) with
    coalescer := { told.conclude x with work := c.work } }

def perform (t : CallbackTurn) (s : Crew) : Crew × List CallbackTurn :=
  let usual := Coalescer.perform t s.coalescer
  match t with
  | .fire order =>
    if (s.coalescer.debounce.timer? order).isSome then
      let id := s.coalescer.next
      ({ s.note [.expired id] with coalescer := usual.1, tracked := id :: s.tracked }, usual.2)
    else (s, [])
  | .start id | .wake id =>
    match s.coalescer.callback? id, s.plans.get? id with
    | some _, some plan => s.carryOn id plan
    | _, _ => ({ s with coalescer := usual.1 }, usual.2)
  | .ring id => (s, [.wake id])
  | .settle id => (((s.coalescer.callback? id).map s.conclude).getD s, [])

/-- How many deeds are still to be done. -/
def deedsLeft (s : Crew) : Nat :=
  (s.plans.map fun e ↦ e.2.deeds.length).sum

def machine : Machine Crew CallbackTurn where
  now := (·.coalescer.now)
  setNow := fun t s ↦ { s with coalescer := { s.coalescer with now := t } }
  alarms := (·.coalescer.alarms)
  perform := perform
  budget := fun s ↦ Coalescer.machine.budget s.coalescer + 6 * s.deedsLeft

end Crew

/-! ## What requests and callbacks leave as it is -/

namespace Coalescer

section

variable {c c' : Coalescer} {id : Nat} {p : Progress} {g : List Nat} {t : CallbackTurn}

theorem retimed_answer (r : Request) (c : Coalescer) : Retimed c (answer r c) := by
  cases r with
  | trigger doc => exact c.retimed_trigger doc
  | setText doc text => exact c.retimed_setText doc text
  | _ => exact ⟨rfl, rfl, rfl, Nat.le_refl _⟩

theorem pending_trigger (hpending : c.pending = true) (doc : Nat) :
    (c.trigger doc).pending = true := by
  rcases c.trigger_cases doc with ⟨-, next, journal, -, heq⟩ | ⟨d, journal, -, -, heq⟩ <;> rw [heq]
  · exact hpending
  · simp [pending, restarted]

theorem pending_retrigger (hpending : c.pending = true) (doc : Nat) :
    (c.retrigger doc).pending = true := by
  rw [Coalescer.retrigger]
  split
  · split
    · exact pending_trigger (c := c.setText doc _) hpending doc
    · exact hpending
  · exact hpending

theorem pending_answer {r : Request} (hpending : c.pending = true)
    (hcancels : Crew.cancels r c = false) : (answer r c).pending = true := by
  cases r with
  | trigger doc => exact pending_trigger hpending doc
  | cancel uri =>
    have hsame : (c.debounce.cancel uri).timers = c.debounce.timers := by
      refine List.filter_eq_self.mpr fun x hx ↦ ?_
      have hne := List.any_eq_false.mp hcancels x hx
      simpa using hne
    rw [pending, answer, hsame]
    exact hpending
  | cancelAll => exact absurd (hpending.symm.trans hcancels) nofun
  | _ => exact hpending

/-- A callback that is started or goes on either ends or, on its start only, waits. -/
theorem perform_callback {x : Callback} (ht : t = .start id ∨ t = .wake id)
    (hx : c.callback? id = some x) :
    ∃ p, (perform t c).1.callbacks = moved id p c.callbacks ∧
      (c.pending = true → (perform t c).1.pending = true) ∧
      (p = .ended ∧ (perform t c).2 = [.settle id] ∨
        t = .start id ∧ (∃ due order, p = .waiting due order) ∧ (perform t c).2 = []) := by
  obtain ⟨-, rfl⟩ := callback?_eq_some hx
  have hcomplete (c : Coalescer) : (c.complete x).callbacks = moved x.id .ended c.callbacks :=
    congrArg (moved x.id .ended) (c.retimed_retrigger x.doc).callbacks
  have hpending {c : Coalescer} (h : c.pending = true) : (c.complete x).pending = true :=
    pending_retrigger h x.doc
  rcases ht with rfl | rfl
  · rw [perform, hx, Option.map_some, Option.getD_some, start]
    dsimp only
    split
    · exact ⟨.ended, hcomplete _, fun h ↦ hpending h, .inl ⟨rfl, rfl⟩⟩
    · exact ⟨_, rfl, fun h ↦ h, .inr ⟨rfl, ⟨_, _, rfl⟩, rfl⟩⟩
  · rw [perform, hx, Option.map_some, Option.getD_some]
    exact ⟨.ended, hcomplete c, hpending, .inl ⟨rfl, rfl⟩⟩

/-! ## What deeds weigh -/

theorem editsLeft_setText_le (c : Coalescer) (d : Document) (doc : Nat) (text : String) :
    c.editsLeft (d.setText text, doc) ≤ c.editsLeft (d, doc) := by
  have hversion : (d.setText text).version = d.version + 1 := rfl
  rw [editsLeft, editsLeft, hversion]
  dsimp only
  omega

theorem store_setText_le (c : Coalescer) (doc : Nat) (text : String) :
    (c.setText doc text).store ≤ c.store := by
  rw [store, store, retriggersLeft_eq, retriggersLeft_eq]
  change 5 * (((c.documents.modify doc (·.setText text)).zipIdx.map c.editsLeft).sum) ≤ _
  cases hd : c.documents[doc]? with
  | none =>
    rw [List.modify_eq_self (List.getElem?_eq_none_iff.mp hd)]
  | some d =>
    have hsum := sum_zipIdx_modify c.editsLeft (·.setText text) c.documents hd 0
    have hle := c.editsLeft_setText_le d (0 + doc) text
    omega

theorem effort_answer_le (r : Request) (c : Coalescer) (g : List Nat) :
    (answer r c).effort g ≤ c.effort g + 5 := by
  have hnothing {c' : Coalescer} (halarms : c'.alarms.Sublist c.alarms)
      (hstore : c'.store ≤ c.store) : c'.effort g ≤ c.effort g + 5 :=
    (effort_le halarms hstore).trans (Nat.le_add_right _ _)
  cases r with
  | trigger doc => exact c.effort_trigger_le doc g
  | cancel uri =>
    exact hnothing (List.Sublist.append (List.filter_sublist.map _) (List.Sublist.refl _))
      (Nat.le_refl _)
  | cancelAll => exact hnothing (List.sublist_append_right _ _) (Nat.le_refl _)
  | setText doc text => exact hnothing (List.Sublist.refl _) (c.store_setText_le doc text)
  | _ => exact hnothing (List.Sublist.refl _) (Nat.le_refl _)

theorem effort_create (c : Coalescer) (doc : Nat) (g : List Nat) :
    (c.create doc).effort g = c.effort g := by
  rw [effort, alarms_create]
  rfl

end

end Coalescer

/-! ## What callbacks do until they give way -/

namespace Crew

section

variable {s s' : Crew} {id : Nat} {p : Progress} {t : CallbackTurn} {q : List CallbackTurn}
  {g : List Nat}

/-- What a callback leaves behind when it has got as far as `p` and gives way: all callbacks are
there, with those that it started, and quiet periods that it ended are written down. -/
structure Yields (id : Nat) (p : Progress) (s s' : Crew) : Prop where
  now : s'.coalescer.now = s.coalescer.now
  kept : ∀ x ∈ s.coalescer.callbacks, ∃ y ∈ s'.coalescer.callbacks, y.id = x.id
  own : ∀ y ∈ s'.coalescer.callbacks, y.id = id → y.progress = p
  others : ∀ y ∈ s'.coalescer.callbacks, y.id ≠ id →
    y ∈ s.coalescer.callbacks ∨ y.isCreated = true ∧ s.coalescer.next ≤ y.id
  tracked : s.tracked ⊆ s'.tracked
  newcomers : ∀ i ∈ s'.tracked, i ∈ s.tracked ∨ ∃ y ∈ s'.coalescer.callbacks, y.id = i
  history : ∃ more, s'.history = s.history.add s.coalescer.now more ∧
    (∀ e ∈ more, e = .cancelled) ∧ (s.pending = true → s'.pending = true ∨ more ≠ [])

theorem Yields.of_moved {c : Coalescer} (hnow : c.now = s.coalescer.now)
    (hcallbacks : c.callbacks = moved id p s.coalescer.callbacks)
    (hpending : s.coalescer.pending = true → c.pending = true) :
    Yields id p s { s with coalescer := c } := by
  have hids : c.callbacks.map (·.id) = s.coalescer.callbacks.map (·.id) := by
    rw [hcallbacks, ids_moved]
  constructor
  case now => exact hnow
  case kept =>
    intro x hx
    have hmem : x.id ∈ c.callbacks.map (·.id) := hids ▸ List.mem_map_of_mem hx
    exact List.mem_map.mp hmem
  case own =>
    intro y hy hid
    rw [show Coalescer.callbacks _ = _ from hcallbacks] at hy
    exact (mem_moved hy).elim (fun h ↦ absurd hid h.2) And.right
  case others =>
    intro y hy hid
    rw [show Coalescer.callbacks _ = _ from hcallbacks] at hy
    exact (mem_moved hy).elim (fun h ↦ .inl h.1) fun h ↦ absurd h.1 hid
  case tracked => exact List.Subset.refl _
  case newcomers => exact fun i hi ↦ .inl hi
  case history => exact ⟨[], rfl, nofun, fun h ↦ .inl (hpending h)⟩

theorem Yields.ask {r : Request} (h : Yields id p (s.ask r) s') : Yields id p s s' := by
  obtain ⟨-, hcallbacks, hnow, hnext⟩ := retimed_answer r s.coalescer
  constructor
  case now => exact h.now.trans hnow
  case kept =>
    rw [← hcallbacks]
    exact h.kept
  case own => exact h.own
  case others =>
    intro y hy hid
    rw [← hcallbacks]
    exact (h.others y hy hid).imp_right (And.imp_right hnext.trans)
  case tracked => exact h.tracked
  case newcomers => exact h.newcomers
  case history =>
    obtain ⟨more, hhistory, hmore, hpending⟩ := h.history
    refine ⟨more ++ if cancels r s.coalescer then [.cancelled] else [], ?_, ?_, ?_⟩
    · have hadded : s'.history = (s.ask r).history.add (answer r s.coalescer).now more := hhistory
      rw [hadded, History.add_append, hnow]
      rfl
    · intro e he
      rcases List.mem_append.mp he with he | he
      · exact hmore e he
      · split at he
        · exact List.mem_singleton.mp he
        · cases he
    · intro hs
      cases hcancels : cancels r s.coalescer with
      | true => exact .inr (by simp)
      | false =>
        rw [if_neg Bool.false_ne_true, List.append_nil]
        exact hpending (pending_answer hs hcancels)

theorem Yields.spawn {doc : Nat} {isTracked : Bool} (h : Yields id p (s.spawn doc isTracked) s') :
    Yields id p s s' := by
  have hnew {i : Nat} (hi : i ∈ (s.spawn doc isTracked).tracked) :
      i = s.coalescer.next ∨ i ∈ s.tracked := by
    rw [Crew.spawn] at hi
    dsimp only at hi
    split at hi
    · exact List.mem_cons.mp hi
    · exact .inr hi
  constructor
  case now => exact h.now
  case kept => exact fun x hx ↦ h.kept x (List.mem_append_left _ hx)
  case own => exact h.own
  case others =>
    intro y hy hid
    rcases h.others y hy hid with hy | ⟨hcreated, hnext⟩
    · rcases List.mem_append.mp hy with hy | hy
      · exact .inl hy
      · cases List.mem_singleton.mp hy
        exact .inr ⟨rfl, Nat.le_refl _⟩
    · exact .inr ⟨hcreated, (Nat.le_succ _).trans hnext⟩
  case tracked =>
    refine List.Subset.trans ?_ h.tracked
    rw [Crew.spawn]
    dsimp only
    split
    · exact List.subset_cons_self _ _
    · exact List.Subset.refl _
  case newcomers =>
    intro i hi
    rcases h.newcomers i hi with hi | hi
    · rcases hnew hi with rfl | hi
      · exact .inr (h.kept ⟨s.coalescer.next, doc, .created⟩ (List.mem_append_right _ (by simp)))
      · exact .inl hi
    · exact .inr hi
  case history => exact h.history

theorem yields_proceed (id : Nat) (ds : List Deed) (s : Crew) :
    Yields id (proceed id ds s).progress s (proceed id ds s).crew := by
  induction ds generalizing s with
  | nil => exact .of_moved rfl rfl fun h ↦ h
  | cons d ds ih =>
    cases d with
    | ask r => exact (ih (s.ask r)).ask
    | spawn doc isTracked => exact (ih (s.spawn doc isTracked)).spawn
    | pause span => exact .of_moved rfl rfl fun h ↦ h

/-- A callback is settled when it has ended, and then it has nothing left to do. -/
theorem settle_mem_proceed (id : Nat) (ds : List Deed) (s : Crew) :
    (∀ i, .settle i ∈ (proceed id ds s).turns ↔ i = id ∧ (proceed id ds s).progress = .ended) ∧
      ((proceed id ds s).progress = .ended → (proceed id ds s).left = []) := by
  induction ds generalizing s with
  | nil => simp [proceed]
  | cons d ds ih =>
    cases d with
    | ask r => exact ih (s.ask r)
    | spawn doc isTracked =>
      refine (ih (s.spawn doc isTracked)).imp_left fun h i ↦ ?_
      simpa [proceed] using h i
    | pause span => simp [proceed]

/-- **What a callback does brings about less than the turn and the deeds that it took.** -/
theorem sound_proceed (ds : List Deed) (h : Sound ⟨s.coalescer, t :: q, g⟩)
    (ht : t = .start id ∨ t = .wake id) (hid : ∃ x ∈ s.coalescer.callbacks, x.id = id) :
    Sound ⟨(proceed id ds s).crew.coalescer, q ++ (proceed id ds s).turns, g⟩ ∧
      ((proceed id ds s).turns.map CallbackTurn.weight).sum +
          (proceed id ds s).crew.coalescer.effort g + 5 * (proceed id ds s).left.length ≤
        1 + s.coalescer.effort g + 5 * ds.length := by
  obtain ⟨x, hx, hsame⟩ := hid
  induction ds generalizing s q with
  | nil =>
    have hle := s.coalescer.effort_ended_le id g
    exact ⟨h.finish ht (hsame ▸ h.ids_lt x hx), Nat.add_le_add_left hle 1⟩
  | cons d ds ih =>
    cases d with
    | ask r =>
      obtain ⟨hsound, hle⟩ := ih (s := s.ask r) (h.answer r)
        ((retimed_answer r s.coalescer).callbacks ▸ hx)
      have hless : (s.ask r).coalescer.effort g ≤ _ := effort_answer_le r s.coalescer g
      refine ⟨hsound, hle.trans ?_⟩
      rw [List.length_cons]
      omega
    | spawn doc isTracked =>
      have hcreated : Sound ⟨(s.spawn doc isTracked).coalescer,
        t :: (q ++ [.start s.coalescer.next]), g⟩ := h.create doc
      obtain ⟨hsound, hle⟩ := ih hcreated (List.mem_append_left _ hx)
      have hless : (s.spawn doc isTracked).coalescer.effort g = s.coalescer.effort g :=
        effort_create s.coalescer doc g
      have hstart : (CallbackTurn.start s.coalescer.next).weight = 4 := rfl
      rw [List.append_assoc] at hsound
      refine ⟨hsound, ?_⟩
      rw [proceed]
      dsimp only
      rw [List.map_cons, List.sum_cons, List.length_cons]
      omega
    | pause span =>
      constructor
      · rw [proceed, List.append_nil]
        refine h.progress (p := .waiting (s.coalescer.now + span) s.coalescer.next) ht nofun
          (Nat.le_succ _) ?_
        intro due order hp
        cases hp
        exact ⟨rfl, Nat.lt_succ_self _⟩
      · have hless : (proceed id (.pause span :: ds) s).crew.coalescer.effort g ≤
            s.coalescer.effort g + 3 :=
          hsame ▸ effort_waiting_le h.ids (s.coalescer.now + span) s.coalescer.next
            (s.coalescer.next + 1) hx
        have hturns : (proceed id (.pause span :: ds) s).turns = [] := rfl
        have hleft : (proceed id (.pause span :: ds) s).left = ds := rfl
        rw [hturns, hleft, List.map_nil, List.sum_nil, List.length_cons]
        omega

/-! ## Turns -/

/-- What a turn can do. -/
inductive Step (s : Crew) : CallbackTurn → Crew × List CallbackTurn → Prop
  /-- There is nobody whose turn it is, or a callback is about to wake up. -/
  | idle {t : CallbackTurn} {turns : List CallbackTurn}
    (hsame : Coalescer.perform t s.coalescer = (s.coalescer, turns))
    (hturns : ∀ i, .settle i ∉ turns) (hnobody : ∀ x ∈ s.coalescer.callbacks, t ≠ .settle x.id) :
    Step s t (s, turns)
  | expire {o : Nat} {timer : Timer} (htimer : s.coalescer.debounce.timer? o = some timer) :
    Step s (.fire o) ({ s.note [.expired s.coalescer.next] with
      coalescer := (Coalescer.perform (.fire o) s.coalescer).1
      tracked := s.coalescer.next :: s.tracked }, [.start s.coalescer.next])
  /-- A callback without a plan is started or goes on. -/
  | work {t : CallbackTurn} {id : Nat} {x : Callback} (ht : t = .start id ∨ t = .wake id)
    (hx : s.coalescer.callback? id = some x) (hplan : s.plans.get? id = none) :
    Step s t ({ s with coalescer := (Coalescer.perform t s.coalescer).1 },
      (Coalescer.perform t s.coalescer).2)
  | carryOn {t : CallbackTurn} {id : Nat} {x : Callback} {plan : Plan}
    (ht : t = .start id ∨ t = .wake id) (hx : s.coalescer.callback? id = some x)
    (hplan : s.plans.get? id = some plan) : Step s t (s.carryOn id plan)
  | conclude {id : Nat} {x : Callback} (hx : s.coalescer.callback? id = some x) :
    Step s (.settle id) (s.conclude x, [])

/-- **Every turn is one of these.** -/
theorem step_perform (t : CallbackTurn) (s : Crew) : Step s t (perform t s) := by
  have hcallback (id : Nat) (ht : t = .start id ∨ t = .wake id) :
      Step s t (match s.coalescer.callback? id, s.plans.get? id with
        | some _, some plan => s.carryOn id plan
        | _, _ => ({ s with coalescer := (Coalescer.perform t s.coalescer).1 },
          (Coalescer.perform t s.coalescer).2)) := by
    cases hx : s.coalescer.callback? id with
    | none =>
      have hsame : Coalescer.perform t s.coalescer = (s.coalescer, []) := by
        rcases ht with rfl | rfl <;> rw [Coalescer.perform, hx] <;> rfl
      rw [hsame]
      refine .idle hsame (by simp) fun y _ hsettle ↦ ?_
      rcases ht with rfl | rfl <;> cases hsettle
    | some x =>
      cases hplan : s.plans.get? id with
      | none => exact .work ht hx hplan
      | some plan => exact .carryOn ht hx hplan
  cases t with
  | fire o =>
    rw [perform]
    cases htimer : s.coalescer.debounce.timer? o with
    | none =>
      refine .idle ?_ (by simp) (by simp)
      rw [Coalescer.perform, htimer]
    | some timer =>
      have hstep := Step.expire htimer
      have hturns : (Coalescer.perform (.fire o) s.coalescer).2 = [.start s.coalescer.next] := by
        rw [Coalescer.perform, htimer]
      rw [← hturns] at hstep
      exact hstep
  | start id => exact hcallback id (.inl rfl)
  | ring id => exact .idle rfl (by simp) (by simp)
  | wake id => exact hcallback id (.inr rfl)
  | settle id =>
    rw [perform]
    cases hx : s.coalescer.callback? id with
    | none =>
      refine .idle ?_ (by simp) fun x hmem hsame ↦ ?_
      · rw [Coalescer.perform, hx]
        rfl
      · cases hsame
        exact callback?_eq_none hx x hmem rfl
    | some x => exact .conclude hx

/-- Whether a callback has done all that was planned for it. -/
def IsDone (s : Crew) (id : Nat) : Prop :=
  ∀ plan, s.plans.get? id = some plan → plan.deeds = []

/-- A turn in which a callback gets as far as `p`. -/
structure Leg (id : Nat) (p : Progress) (t : CallbackTurn) (s : Crew)
    (r : Crew × List CallbackTurn) : Prop extends Yields id p s r.1 where
  settles : ∀ i, .settle i ∈ r.2 ↔ i = id ∧ p = .ended
  done : ∀ i, s.IsDone i → r.1.IsDone i
  ended : p = .ended → r.1.IsDone id
  waits : p ≠ .ended → t = .start id ∨ ¬ s.IsDone id

theorem leg_work {x : Callback} (ht : t = .start id ∨ t = .wake id)
    (hx : s.coalescer.callback? id = some x) (hplan : s.plans.get? id = none) :
    ∃ p, Leg id p t s ({ s with coalescer := (Coalescer.perform t s.coalescer).1 },
      (Coalescer.perform t s.coalescer).2) := by
  obtain ⟨p, hcallbacks, hpending, hway⟩ := perform_callback ht hx
  refine ⟨p, .of_moved (now_perform t s.coalescer) hcallbacks hpending, ?_, fun _ h ↦ h, ?_, ?_⟩
  · intro i
    rcases hway with ⟨rfl, hturns⟩ | ⟨-, ⟨due, order, rfl⟩, hturns⟩ <;> simp [hturns]
  · intro _ plan hsome
    exact absurd (hplan.symm.trans hsome) nofun
  · intro hp
    exact .inl ((hway.resolve_left fun h ↦ hp h.1).1)

theorem leg_carryOn {plan : Plan} (t : CallbackTurn) (hplan : s.plans.get? id = some plan) :
    Leg id (proceed id plan.deeds s).progress t s (s.carryOn id plan) := by
  obtain ⟨now, kept, own, others, tracked, newcomers, history⟩ := yields_proceed id plan.deeds s
  obtain ⟨hsettles, hleft⟩ := settle_mem_proceed id plan.deeds s
  have hget (i : Nat) : (s.carryOn id plan).1.plans.get? i =
      if id = i then some { plan with deeds := (proceed id plan.deeds s).left }
      else s.plans.get? i := Keyed.get?_set _ _ _ _
  have hover (hdone : s.IsDone id) : (proceed id plan.deeds s).progress = .ended := by
    rw [hdone plan hplan]
    rfl
  refine ⟨⟨now, kept, own, others, tracked, newcomers, history⟩, hsettles, ?_, ?_, ?_⟩
  · intro i hdone plan' hplan'
    rw [hget] at hplan'
    split at hplan'
    · next hsame =>
      cases hplan'
      exact hleft (hover (hsame ▸ hdone))
    · exact hdone plan' hplan'
  · intro hended plan' hplan'
    rw [hget, if_pos rfl] at hplan'
    cases hplan'
    exact hleft hended
  · exact fun hp ↦ .inr fun hdone ↦ hp (hover hdone)

theorem coalescer_conclude (s : Crew) (x : Callback) :
    ∃ journal, (s.conclude x).coalescer = { s.coalescer.conclude x with journal := journal } :=
  ⟨_, rfl⟩

theorem deedsLeft_carryOn {plan : Plan} (hplan : s.plans.get? id = some plan) :
    (s.carryOn id plan).1.deedsLeft + plan.deeds.length =
      s.deedsLeft + (proceed id plan.deeds s).left.length :=
  Keyed.sum_map_set (fun plan ↦ plan.deeds.length) hplan _

/-- **A turn keeps the coalescer sound and brings about less than its weight.** -/
theorem Step.sound {r : Crew × List CallbackTurn} (h : Step s t r)
    (hs : Sound ⟨s.coalescer, t :: q, g⟩) :
    Sound ⟨r.1.coalescer, q ++ r.2, g⟩ ∧
      (r.2.map CallbackTurn.weight).sum + r.1.coalescer.effort g + 5 * r.1.deedsLeft <
        t.weight + s.coalescer.effort g + 5 * s.deedsLeft := by
  have hsound := hs.perform
  have hless := Nat.add_lt_add_right (effort_perform_lt hs) (5 * s.deedsLeft)
  cases h with
  | idle hsame =>
    rw [hsame] at hsound hless
    exact ⟨hsound, hless⟩
  | @expire o timer htimer =>
    have hturns : (Coalescer.perform (.fire o) s.coalescer).2 = [.start s.coalescer.next] := by
      rw [Coalescer.perform, htimer]
    rw [hturns] at hsound hless
    exact ⟨hsound, hless⟩
  | work => exact ⟨hsound, hless⟩
  | @carryOn _ id x plan ht hx hplan =>
    obtain ⟨hsound, hle⟩ := sound_proceed plan.deeds hs ht ⟨x, callback?_eq_some hx⟩
    refine ⟨hsound, ?_⟩
    have hdeeds := deedsLeft_carryOn hplan
    have hweight : 2 ≤ t.weight := by rcases ht with rfl | rfl <;> simp [CallbackTurn.weight]
    change ((proceed id plan.deeds s).turns.map CallbackTurn.weight).sum +
      (proceed id plan.deeds s).crew.coalescer.effort g + _ < _
    omega
  | @conclude id x hx =>
    rw [Coalescer.perform, hx] at hsound hless
    obtain ⟨journal, heq⟩ := s.coalescer_conclude x
    rw [heq]
    exact ⟨hsound.withJournal journal, hless⟩

theorem Step.now {r : Crew × List CallbackTurn} (h : Step s t r) :
    r.1.coalescer.now = s.coalescer.now := by
  cases h with
  | idle => rfl
  | expire => exact now_perform _ s.coalescer
  | work => exact now_perform _ s.coalescer
  | carryOn ht hx hplan => exact (leg_carryOn t hplan).now
  | conclude => rfl

end

end Crew

end Schedule

end DiagnosticFeed
