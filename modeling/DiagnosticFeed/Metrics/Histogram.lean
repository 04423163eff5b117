import DiagnosticFeed.Metrics.Ledger
import DiagnosticFeed.Metrics.Spread

/-!
# Histograms

Observations by label set, kept as they were given. Their summary is in binary64 numbers, but whole
numbers are added up and halved exactly before. There is no summary with an observation among them
that is no number.
-/

namespace DiagnosticFeed

abbrev Histogram := Keyed Labels (List Amount)

namespace Histogram

def observe (h : Histogram) (labels : Labels) (given : Amount) : Histogram :=
  Keyed.set h labels ((Keyed.get? h labels).getD [] ++ [given])

/-- Halfway between two quantities, unless that is too large. -/
def halfway? (a b : Quantity) : Option Float := do
  (← a.add? b).part? 2

/-- The middle of sorted quantities, or halfway between the two in the middle. -/
def middle? (sorted : List Quantity) : Option Float :=
  let n := sorted.length
  let upper := sorted.getD (n / 2) (.whole 0)
  if n % 2 = 1 then upper.toFloat? else halfway? (sorted.getD (n / 2 - 1) (.whole 0)) upper

/-- The summary of sorted quantities, of which `least` is the first, unless they are too large for
one. -/
def summary? (least : Quantity) (sorted : List Quantity) : Option Spread := do
  let n := sorted.length
  let sum ← Quantity.sum? sorted
  return {
    count := n
    sum := ← sum.toFloat?
    least := ← least.toFloat?
    greatest := ← (sorted.getLastD least).toFloat?
    mean := ← sum.part? n
    median := ← middle? sorted
    high := ← (sorted.getD (Spread.highIndex n) least).toFloat? }

/-- The summary of quantities, if there are any. -/
def spreadOf (qs : List Quantity) : Except Failure (Option Spread) :=
  let sorted := qs.mergeSort fun a b ↦ !b.less a
  match sorted with
  | [] => .ok none
  | least :: _ =>
    match summary? least sorted with
    | some s => .ok (some s)
    | none => .error .numberTooLarge

/-- The summary of the observations under a label set, if there are any. -/
def spread (h : Histogram) (labels : Labels) : Except Failure (Option Spread) :=
  match ((Keyed.get? h labels).getD []).mapM id with
  | some qs => spreadOf qs
  | none => .error .wrongKind

end Histogram

end DiagnosticFeed
