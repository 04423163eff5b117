import DiagnosticFeed.Schedule.Debounce
import DiagnosticFeed.Schedule.Machine

/-!
# Coalescing triggers into callbacks

A debounce at work: an expired quiet period starts a callback for its document. A callback takes
some time, may then edit its document and trigger again, and may fail. A failure is logged and
affects nothing else.
-/

namespace DiagnosticFeed.Schedule

/-- What a callback does. -/
structure Work where
  /-- How long it takes. -/
  wait : Time := 0
  /-- It edits and triggers again as long as the document's version is below this. -/
  retriggerBelow : Option Int := none
  /-- The message it fails with; none if it is empty. -/
  failure : String := ""

/-- How far a callback is. -/
inductive Progress where
  | created
  | waiting (due : Time) (order : Nat)
  | ended
  deriving DecidableEq

/-- A callback that was started. -/
structure Callback where
  id : Nat
  doc : Nat
  progress : Progress

/-- What can be seen of callbacks. -/
inductive CallbackEvent where
  | logged (notice : Log.Notice)
  | called (uri text : String) (time : Time)
  | done (uri : String) (time : Time)

/-- A debounce with its documents and callbacks. -/
structure Coalescer where
  documents : List Document
  debounce : Debounce
  enabled : Bool := true
  work : Nat → Work := fun _ ↦ {}
  now : Time := 0
  /-- The next number to name a callback or an alarm. -/
  next : Nat := 0
  callbacks : List Callback := []
  /-- What was seen, the latest first. -/
  journal : List CallbackEvent := []

/-- The turns of a coalescer. Timers are named by their order and callbacks by their number. -/
inductive CallbackTurn where
  | fire (order : Nat)
  | start (id : Nat)
  | ring (id : Nat)
  | wake (id : Nat)
  | settle (id : Nat)

namespace Coalescer

/-- Whether callbacks are under way. -/
def busy (c : Coalescer) : Bool :=
  !c.callbacks.isEmpty

/-- Whether quiet periods are running. -/
def pending (c : Coalescer) : Bool :=
  !c.debounce.timers.isEmpty

def trigger (c : Coalescer) (doc : Nat) : Coalescer :=
  match c.documents[doc]? with
  | none => c
  | some d =>
    let notices := (c.debounce.notice? c.enabled d).toList
    { c with
      debounce := c.debounce.trigger c.enabled c.now c.next doc d
      next := c.next + 1
      journal := notices.map .logged ++ c.journal }

/-- Whether a trigger for a document would start a quiet period. -/
def accepts (c : Coalescer) (doc : Nat) : Bool :=
  match c.documents[doc]? with
  | some d => c.debounce.verdict c.enabled d == .started
  | none => false

def setText (c : Coalescer) (doc : Nat) (text : String) : Coalescer :=
  { c with documents := c.documents.modify doc (·.setText text) }

def uriOf (c : Coalescer) (doc : Nat) : String :=
  match c.documents[doc]? with
  | some d => d.uri
  | none => ""

def textOf (c : Coalescer) (doc : Nat) : String :=
  match c.documents[doc]? with
  | some d => d.text
  | none => ""

def callback? (c : Coalescer) (id : Nat) : Option Callback :=
  c.callbacks.find? (·.id == id)

def progress (c : Coalescer) (id : Nat) (p : Progress) : Coalescer :=
  { c with
    callbacks := c.callbacks.map fun x ↦ if x.id == id then { x with progress := p } else x }

/-- Edits a document and triggers again, if its version is low enough. -/
def retrigger (c : Coalescer) (doc : Nat) : Coalescer :=
  match c.documents[doc]?, (c.work doc).retriggerBelow with
  | some d, some limit =>
    if d.version < limit then (c.setText doc (d.text ++ "+")).trigger doc else c
  | _, _ => c

/-- Does what a callback does after its wait. -/
def complete (c : Coalescer) (x : Callback) : Coalescer :=
  let c := c.retrigger x.doc
  { c with journal := .done (c.uriOf x.doc) c.now :: c.journal }.progress x.id .ended

/-- Starts a callback: it is called with the text as it is now. -/
def start (c : Coalescer) (x : Callback) : Coalescer × List CallbackTurn :=
  let c := { c with
    journal := .called (c.uriOf x.doc) (c.textOf x.doc) c.now :: c.journal }
  let wait := (c.work x.doc).wait
  if wait = 0 then (c.complete x, [.settle x.id])
  else ({ c.progress x.id (.waiting (c.now + wait) c.next) with next := c.next + 1 }, [])

/-- Logs the failure of a callback, if it has one, and forgets the callback. -/
def conclude (c : Coalescer) (x : Callback) : Coalescer :=
  let failure := (c.work x.doc).failure
  let notices : List Log.Notice :=
    if failure.isEmpty then []
    else [.taskFailed ("analysis:" ++ c.uriOf x.doc) failure (Failure.broken failure).kind]
  { c with
    callbacks := c.callbacks.filter (·.id ≠ x.id)
    journal := notices.map .logged ++ c.journal }

def perform (t : CallbackTurn) (c : Coalescer) : Coalescer × List CallbackTurn :=
  match t with
  | .fire order =>
    match c.debounce.timer? order with
    | none => (c, [])
    | some timer =>
      ({ c with
          debounce := c.debounce.cancel timer.uri
          callbacks := c.callbacks ++ [⟨c.next, timer.doc, .created⟩]
          next := c.next + 1 }, [.start c.next])
  | .start id => ((c.callback? id).map c.start).getD (c, [])
  | .ring id => (c, [.wake id])
  | .wake id => ((c.callback? id).map fun x ↦ (c.complete x, [CallbackTurn.settle id])).getD (c, [])
  | .settle id => (((c.callback? id).map c.conclude).getD c, [])

def alarms (c : Coalescer) : List (Alarm CallbackTurn) :=
  (c.debounce.timers.map fun t ↦ ⟨t.due, t.order, .fire t.order⟩)
    ++ c.callbacks.filterMap fun x ↦
      match x.progress with
      | .waiting due order => some ⟨due, order, .ring x.id⟩
      | _ => none

/-- How often a document can still be triggered by its own callback. -/
def retriggersLeft (c : Coalescer) : Nat :=
  c.documents.zipIdx.foldl (fun n (d, i) ↦
    n + (((c.work i).retriggerBelow.getD 0) - d.version).toNat) 0

def machine : Machine Coalescer CallbackTurn where
  now := (·.now)
  setNow := fun t c ↦ { c with now := t }
  alarms := alarms
  perform := perform
  budget := fun c ↦ 6 * (c.callbacks.length + c.debounce.timers.length + c.retriggersLeft)

end Coalescer

end DiagnosticFeed.Schedule
