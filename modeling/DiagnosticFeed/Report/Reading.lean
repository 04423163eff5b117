import DiagnosticFeed.Failure
import DiagnosticFeed.Json.Display
import DiagnosticFeed.Report

/-!
# Reports on given results

Results that are given as data, in the form in which they are written as JSON, read for a report.
What is there need not be of the usual kind: any value can be shown, and any number is a place. Only
an entry that is missing, or a value of a kind that has no entries or items, cannot be read.
-/

namespace DiagnosticFeed.Report

open Json (Value)

/-- The value of a key. -/
def entry (key : String) : Value → Except Failure Value
  | .obj o =>
    match Keyed.get? o key with
    | some v => .ok v
    | none => .error (.entryMissing key)
  | _ => .error .wrongKind

/-- What a value is made of. The items of an object are its keys, those of a string its
characters. -/
def items : Value → Except Failure (List Value)
  | .arr xs => .ok xs
  | .obj o => .ok (o.map fun e ↦ .str e.1)
  | .str s => .ok (s.toList.map fun c ↦ .str (String.singleton c))
  | _ => .error .wrongKind

/-- What an optional entry is made of; an absent one is made of nothing. -/
def itemsAt (key : String) (o : Json.Object) : Except Failure (List Value) :=
  ((Keyed.get? o key).map items).getD (.ok [])

/-- A line or column counted from one. -/
def countedFromOne : Value → Except Failure String
  | .int n => .ok (toString (n + 1))
  | .bool b => .ok (if b then "2" else "1")
  | .float x => .ok (Value.float (x + 1)).display
  | _ => .error .wrongKind

/-- A place, by its start, counted from one. -/
def placeOf (start : Value) : Except Failure String := do
  let line ← countedFromOne (← entry "line" start)
  let character ← countedFromOne (← entry "character" start)
  return line ++ ":" ++ character

/-- Where a diagnostic or note starts. -/
def startOf (v : Value) : Except Failure Value := do
  entry "start" (← entry "range" v)

/-- What an entry reads as. -/
def shown (key : String) (v : Value) : Except Failure String := do
  return (← entry key v).display

def Note.ofJson (v : Value) : Except Failure Note := do
  let place ← placeOf (← startOf v)
  return ⟨place, ← shown "message" v⟩

def Entry.ofJson (result v : Value) : Except Failure (String × Entry) := do
  let start ← startOf v
  let path ← shown "path" result
  let place ← placeOf start
  let severity ← shown "severity" v
  let message ← shown "message" v
  let o := v.object?.getD []
  let notes ← (← itemsAt "relatedInformation" o).mapM Note.ofJson
  let fixTitles ← (← itemsAt "fixes" o).mapM (shown "title")
  let code := Json.Object.field o "code"
  let code := if code.isTrue then code.display else ""
  return (path, ⟨place, severity, message, code, notes, fixTitles⟩)

/-- Reads the diagnostics of a result, each with the path that the result is about. -/
def entriesOf (result : Value) : Except Failure (List (String × Entry)) := do
  (← items (← entry "diagnostics" result)).mapM (Entry.ofJson result)

/-- The text of a report on results. -/
def textOfJson (results : Value) : Except Failure String := do
  let found ← (← items results).mapM entriesOf
  return text (found.flatten.map fun (path, e) ↦ ⟨path, [e]⟩)

end DiagnosticFeed.Report
