import DiagnosticFeed.Metrics.Histogram

/-!
# Metrics of three kinds

A count that only grows, an amount that goes up and down, or observations that are summed up. What
one kind does another refuses, and a metric that refuses stays as it is.
-/

namespace DiagnosticFeed

/-- A metric. -/
inductive Metric where
  | counter (amounts : Ledger Float)
  | gauge (amounts : Ledger Float)
  | histogram (observed : Histogram)

namespace Metric

/-- A new metric of the kind that a word names; without such a kind it is a counter. -/
def ofWord : String → Metric
  | "gauge" => .gauge []
  | "histogram" => .histogram []
  | _ => .counter []

def word : Metric → String
  | counter _ => "counter"
  | gauge _ => "gauge"
  | histogram _ => "histogram"

def increase (m : Metric) (labels : Labels) (given : Amount) : Metric × Option Failure :=
  match m with
  | counter l => (l.increaseBy labels given).map .counter id
  | gauge l => (l.enter labels given).map .gauge id
  | histogram _ => (m, some .unable)

def decrease (m : Metric) (labels : Labels) (given : Amount) : Metric × Option Failure :=
  match m with
  | gauge l => (l.decreaseBy labels given).map .gauge id
  | counter _ | histogram _ => (m, some .unable)

def observe (m : Metric) (labels : Labels) (given : Amount) : Metric × Option Failure :=
  match m with
  | histogram h => (.histogram (h.observe labels given), none)
  | counter _ | gauge _ => (m, some .unable)

def amounts : Metric → Except Failure (Ledger Float)
  | counter l | gauge l => .ok l
  | histogram _ => .error .unable

/-- The summary of a metric's observations under a label set, if there are any. -/
def spread (m : Metric) (labels : Labels) : Except Failure (Option Spread) :=
  match m with
  | histogram h => h.spread labels
  | counter _ | gauge _ => .error .unable

end Metric

end DiagnosticFeed
