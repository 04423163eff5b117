/-!
# Dates and times

A day of the calendar, a time of day, or both, then perhaps with a distance from the common time
zone. A moment is shown on its own as one writes it, and inside a collection by the expression that
makes it, which leaves out a zero second and the fraction of a second where it is zero.
-/

namespace DiagnosticFeed.Toml

/-- A day of the calendar. -/
structure Day where
  year : Nat
  month : Nat
  day : Nat
  deriving DecidableEq, Repr

/-- A time of day, down to millionths of a second. -/
structure TimeOfDay where
  hour : Nat
  minute : Nat
  second : Nat
  micro : Nat
  deriving DecidableEq, Repr

/-- A date, a time or both. -/
inductive Moment where
  | day (d : Day)
  | time (t : TimeOfDay)
  /-- A time on a day; the offset is the distance from the common time zone in minutes. -/
  | dayTime (d : Day) (t : TimeOfDay) (offset : Option Int)
  deriving DecidableEq, Repr

/-- A number in decimal digits, with zeros in front up to a width. -/
def padded (width n : Nat) : String :=
  let ds := Nat.toDigits 10 n
  String.ofList (List.replicate (width - ds.length) '0' ++ ds)

/-! ## As written -/

def Day.written (d : Day) : String :=
  padded 4 d.year ++ "-" ++ padded 2 d.month ++ "-" ++ padded 2 d.day

def TimeOfDay.written (t : TimeOfDay) : String :=
  padded 2 t.hour ++ ":" ++ padded 2 t.minute ++ ":" ++ padded 2 t.second
    ++ (if t.micro = 0 then "" else "." ++ padded 6 t.micro)

/-- A distance from the common time zone as one writes it. -/
def writtenOffset (minutes : Int) : String :=
  (if minutes < 0 then "-" else "+") ++ padded 2 (minutes.natAbs / 60) ++ ":"
    ++ padded 2 (minutes.natAbs % 60)

def Moment.written : Moment → String
  | day d => d.written
  | time t => t.written
  | dayTime d t offset => d.written ++ " " ++ t.written ++ (offset.map writtenOffset).getD ""

/-! ## As an expression -/

/-- The arguments that make a day. -/
def Day.arguments (d : Day) : List String :=
  [d.year, d.month, d.day].map toString

/-- The arguments that make a time of day. -/
def TimeOfDay.arguments (t : TimeOfDay) : List String :=
  ([t.hour, t.minute] ++ (if t.second = 0 ∧ t.micro = 0 then [] else [t.second])
    ++ (if t.micro = 0 then [] else [t.micro])).map toString

def call (name : String) (arguments : List String) : String :=
  "datetime." ++ name ++ "(" ++ ", ".intercalate arguments ++ ")"

/-- The expression for a distance from the common time zone. It counts days, backward too, and
seconds, forward only. -/
def zoneExpression (minutes : Int) : String :=
  if minutes = 0 then "datetime.timezone.utc"
  else
    let days := Int.fdiv minutes 1440
    let seconds := 60 * Int.fmod minutes 1440
    call "timezone" [call "timedelta" ((if days = 0 then [] else ["days=" ++ toString days])
      ++ (if seconds = 0 then [] else ["seconds=" ++ toString seconds]))]

/-- The expression for a moment. -/
def Moment.expression : Moment → String
  | day d => call "date" d.arguments
  | time t => call "time" t.arguments
  | dayTime d t offset =>
    call "datetime" (d.arguments ++ t.arguments
      ++ ((offset.map fun m ↦ "tzinfo=" ++ zoneExpression m).toList))

end DiagnosticFeed.Toml
