import DiagnosticFeed.Failure
import DiagnosticFeed.Json.Display
import DiagnosticFeed.Time

/-!
# Time limits

How long something may take, in seconds as they were given. A limit that is zero or negative is
over before anything starts, and an infinite one never is. One that is no number is over as soon as
something has to be waited for.
-/

namespace DiagnosticFeed.Schedule

/-- A time limit: its seconds, and the value that gave them. -/
structure Limit where
  seconds : Quantity
  given : Json.Value

/-- The limit of a number of seconds. -/
def Limit.ofSeconds (seconds : Quantity) : Limit :=
  ⟨seconds, seconds.toJson⟩

/-- How long a limit lasts, if it ever ends. -/
def Limit.span? (l : Limit) : Option Time :=
  match l.seconds with
  | .whole n => Time.ofSeconds? (.whole n)
  | .decimal x =>
    match Decimal.Parts.ofFloat x with
    | .nan => some 0
    | _ => Time.ofSeconds? (.decimal x)

/-- The limit that a value gives. Null gives none; anything else must be a number, or a truth value
that stands for one, and one above zero must not be too large. -/
def Limit.ofJson (given : Json.Value) : Except Failure (Option Limit) :=
  match Quantity.ofJson? given with
  | some seconds =>
    if !seconds.isNotPositive && seconds.toFloat?.isNone then .error .numberTooLarge
    else .ok (some ⟨seconds, given⟩)
  | none => if given.isNull then .ok none else .error .wrongKind

/-- The failure of running out of time; an empty message stands for the usual one. -/
def timeoutFailure (limit : Limit) (message : Option String) : Failure :=
  match message.filter (!·.isEmpty) with
  | some text => .timedOut text
  | none => .timedOut ("Operation timed out after " ++ limit.given.display ++ "s")

end DiagnosticFeed.Schedule
