import DiagnosticFeed.Failure
import DiagnosticFeed.Keyed
import DiagnosticFeed.Quantity

/-!
# Ledgers

Amounts by label set. A label set is a mapping, so its labels are kept sorted by name; no labels
and an empty label set are one key. Keys stand in the order of their first use.

Amounts are of any type with an addition and a zero: whole numbers where they are counts, floating
point numbers where anything may be added.
-/

namespace DiagnosticFeed

/-- A label set, sorted by name. -/
abbrev Labels := List (String × String)

/-- The label set of a mapping. -/
def Labels.of (mapping : Keyed String String) : Labels :=
  mapping.mergeSort fun a b ↦ decide (a.1 ≤ b.1)

/-- What is given as an amount; `none` is something that is no number. -/
abbrev Amount := Option Quantity

/-- Amounts by label set. -/
abbrev Ledger (α : Type) := Keyed Labels α

namespace Ledger

variable {α : Type} [Add α] [OfNat α 0]

def add (l : Ledger α) (labels : Labels) (amount : α) : Ledger α :=
  Keyed.set l labels ((Keyed.get? l labels).getD 0 + amount)

/-- Adds an amount that must not be negative. -/
def increase [LT α] [DecidableLT α] (l : Ledger α) (labels : Labels) (amount : α) :
    Except Failure (Ledger α) :=
  if amount < 0 then .error .negativeIncrement else .ok (l.add labels amount)

/-- The amount under a label set; nothing was added under one that is not there. -/
def total (l : Ledger α) (labels : Labels) : α :=
  (Keyed.get? l labels).getD 0

theorem total_add (l : Ledger α) (labels labels' : Labels) (amount : α) :
    (l.add labels amount).total labels' =
      if labels = labels' then l.total labels + amount else l.total labels' := by
  rw [total, add, Keyed.get?_set]
  split <;> rfl

/-- The amounts by the value of one label; label sets without it are left out. -/
def byLabel (l : Ledger α) (label : String) : Keyed String α :=
  l.foldl (fun totals (labels, amount) ↦
    match Keyed.get? labels label with
    | some v => Keyed.set totals v ((Keyed.get? totals v).getD 0 + amount)
    | none => totals) []

/-- Adds what is given. What cannot be added is refused, but its label set counts as used. -/
def enter (l : Ledger Float) (labels : Labels) (given : Amount) : Ledger Float × Option Failure :=
  match given with
  | none => (l.add labels 0, some .wrongKind)
  | some q =>
    match q.toFloat? with
    | some x => (l.add labels x, none)
    | none => (l.add labels 0, some .numberTooLarge)

/-- Adds what is given, which must not be negative. -/
def increaseBy (l : Ledger Float) (labels : Labels) (given : Amount) :
    Ledger Float × Option Failure :=
  match given with
  | none => (l, some .wrongKind)
  | some q => if q.isNegative then (l, some .negativeIncrement) else l.enter labels q

/-- Takes away what is given. -/
def decreaseBy (l : Ledger Float) (labels : Labels) (given : Amount) :
    Ledger Float × Option Failure :=
  match given with
  | none => (l, some .wrongKind)
  | some q => l.enter labels q.negated

/-- The amounts of a grouping added up. -/
def sum (totals : Keyed String α) : α :=
  totals.foldl (fun s e ↦ s + e.2) 0

end Ledger

end DiagnosticFeed
