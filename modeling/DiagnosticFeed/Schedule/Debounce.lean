import DiagnosticFeed.Document
import DiagnosticFeed.Log.Notice

/-!
# Quiet periods

A burst of changes to a document is answered once, when no change came for a while. Each document
has at most one timer; a further trigger takes the place of the one before. A timer holds the
document, not its text, so what is read when it expires is the text as it is then.

A trigger for another language, or while triggers are turned down, changes nothing.
-/

namespace DiagnosticFeed.Schedule

/-- A quiet period that is running. -/
structure Timer where
  uri : String
  /-- Which document it is for. -/
  doc : Nat
  due : Time
  order : Nat
  deriving DecidableEq

/-- Quiet periods by document. -/
structure Debounce where
  /-- How long a quiet period lasts. -/
  delay : Time
  /-- The language that triggers must be of, if any. -/
  language : Option String := none
  timers : List Timer := []

namespace Debounce

def pending (b : Debounce) : Nat :=
  b.timers.length

def isPending (b : Debounce) (uri : String) : Bool :=
  b.timers.any (·.uri == uri)

/-- Ends the quiet period of a document without an answer. -/
def cancel (b : Debounce) (uri : String) : Debounce :=
  { b with timers := b.timers.filter (·.uri ≠ uri) }

/-- Ends all quiet periods without an answer. -/
def cancelAll (b : Debounce) : Debounce :=
  { b with timers := [] }

/-- Starts the quiet period of a document anew. -/
def restart (b : Debounce) (now : Time) (order doc : Nat) (uri : String) : Debounce :=
  { b with timers := (b.cancel uri).timers ++ [⟨uri, doc, now + b.delay, order⟩] }

/-- What becomes of a trigger. -/
inductive Verdict where
  | foreign
  | disabled
  | started
  deriving DecidableEq

/-- What becomes of a trigger for a document. -/
def verdict (b : Debounce) (enabled : Bool) (d : Document) : Verdict :=
  if b.language.all (· == d.language) then
    if enabled then .started else .disabled
  else .foreign

def trigger (b : Debounce) (enabled : Bool) (now : Time) (order doc : Nat) (d : Document) :
    Debounce :=
  match b.verdict enabled d with
  | .started => b.restart now order doc d.uri
  | _ => b

/-- What a trigger logs. -/
def notice? (b : Debounce) (enabled : Bool) (d : Document) : Option Log.Notice :=
  match b.verdict enabled d with
  | .foreign => none
  | .disabled => some (.analysisSkipped d.uri)
  | .started => some (.analysisScheduled d.uri b.delay)

def timer? (b : Debounce) (order : Nat) : Option Timer :=
  b.timers.find? (·.order == order)

end Debounce

end DiagnosticFeed.Schedule
