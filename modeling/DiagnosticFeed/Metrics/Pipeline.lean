import DiagnosticFeed.Metrics.Ledger
import DiagnosticFeed.Metrics.Spread
import DiagnosticFeed.Time

/-!
# Pipeline metrics

What the pipeline counts: analyzer runs, results dropped as stale, failures by reason, published
diagnostics, runs in flight, and how long each attempt took. Counting starts at the first use.
-/

namespace DiagnosticFeed

/-- The pipeline's counts; `α` is the type of the amounts. -/
structure Metrics (α : Type) where
  startedAt : Option Time := none
  runs : Ledger α := []
  discarded : Ledger α := []
  failures : Ledger α := []
  published : Ledger α := []
  inFlight : Ledger α := []
  /-- In milliseconds. -/
  durations : Keyed Labels (List Float) := []

namespace Metrics

variable {α : Type} [Add α] [OfNat α 0]

/-- Metrics that are in use from the given time on, if not before. -/
def touch (m : Metrics α) (now : Time) : Metrics α :=
  { m with startedAt := m.startedAt <|> some now }

/-- Records how long an attempt took. -/
def observe (m : Metrics α) (labels : Labels) (duration : Float) : Metrics α :=
  { m with
    durations := m.durations.set labels ((m.durations.get? labels).getD [] ++ [duration]) }

/-- The label set of a failure. -/
def reason (word : String) : Labels :=
  [("reason", word)]

def fail [OfNat α 1] (m : Metrics α) (word : String) : Metrics α :=
  { m with failures := m.failures.add (reason word) 1 }

/-- Adds to the metric of a name. Only what is in flight can become less. -/
def increase (m : Metrics Float) (name : String) (labels : Labels) (given : Amount) :
    Metrics Float × Option Failure :=
  match name with
  | "analysis_runs" =>
    let (l, e) := m.runs.increaseBy labels given
    ({ m with runs := l }, e)
  | "analysis_discarded" =>
    let (l, e) := m.discarded.increaseBy labels given
    ({ m with discarded := l }, e)
  | "analyzer_failures" =>
    let (l, e) := m.failures.increaseBy labels given
    ({ m with failures := l }, e)
  | "diagnostics_published" =>
    let (l, e) := m.published.increaseBy labels given
    ({ m with published := l }, e)
  | "in_flight" =>
    let (l, e) := m.inFlight.enter labels given
    ({ m with inFlight := l }, e)
  | _ => (m, some .unable)

/-- Adds to several metrics, up to the first addition that is refused. -/
def increaseAll (m : Metrics Float) :
    List (String × Labels × Amount) → Metrics Float × Option Failure
  | [] => (m, none)
  | (name, labels, given) :: rest =>
    match m.increase name labels given with
    | (m, none) => m.increaseAll rest
    | refused => refused

/-- An amount as JSON; one that was never touched is a whole zero. -/
def amountJson (toFloat : α → Float) (l : Ledger α) : Json.Value :=
  match Keyed.get? l [] with
  | some a => .float (toFloat a)
  | none => .int 0

/-- All metrics but the time since counting started. -/
def summary (toFloat : α → Float) (m : Metrics α) : Json.Object :=
  let reasons := m.failures.byLabel "reason"
  let durations := (m.durations.get? []).getD []
  [("analysis", .obj [
      ("runs", amountJson toFloat m.runs),
      ("discarded", amountJson toFloat m.discarded),
      ("failures", if reasons.isEmpty then .int 0 else .float (toFloat (Ledger.sum reasons))),
      ("failures_by_reason", .obj (reasons.map fun e ↦ (e.1, .float (toFloat e.2)))),
      ("in_flight", amountJson toFloat m.inFlight),
      ("duration_stats", Spread.toJson (Spread.of? durations))]),
    ("diagnostics", .obj [("published", amountJson toFloat m.published)])]

/-- All metrics, read at the given time. -/
def report (toFloat : α → Float) (m : Metrics α) (now : Time) : Json.Object :=
  ("uptime_seconds", .float (Time.elapsed (m.startedAt.getD now) now)) :: m.summary toFloat

end Metrics

end DiagnosticFeed
