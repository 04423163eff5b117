import DiagnosticFeed.Json.Value
import DiagnosticFeed.Decimal.Reading
import DiagnosticFeed.Decimal.Shortest

/-!
# Wire coordinates

The analyzer counts lines and columns from one and spells a coordinate as a number or as text. Read
from zero, a coordinate is a natural number: what lies before the first line or column counts as
the first. Whole numbers of any size are kept exactly, so that clamping them is exact too.
-/

namespace DiagnosticFeed.Wire

/-- A one-based coordinate counted from zero. -/
def zeroBased (n : Int) : Nat :=
  (n - 1).toNat

/-- A coordinate spelled as text: a whole number, or any number that is then cut to its whole
part. -/
def coordinateOfText? (cs : List Char) : Option Nat :=
  match Decimal.readInt? cs with
  | some n => some (zeroBased n)
  | none => ((Decimal.readFloat? cs).bind Decimal.truncate?).map zeroBased

/-- The coordinate that a value spells. Truth values are no numbers. -/
def coordinate? : Json.Value → Option Nat
  | .int n => some (zeroBased n)
  | .float x => (Decimal.truncate? x).map zeroBased
  | .str s => coordinateOfText? (Text.trim s.toList)
  | _ => none

end DiagnosticFeed.Wire
