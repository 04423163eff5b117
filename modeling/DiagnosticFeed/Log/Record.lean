import DiagnosticFeed.Failure
import DiagnosticFeed.Text.LetterCase

/-!
# Log records

A record is an event name with a level and fields. It is written with the fields that are bound
where it is logged, with a stamp that says which program wrote it, and with the fields that can hold
process output cut to a bounded length. An event can have places for the value of one of the
fields.
-/

namespace DiagnosticFeed.Log

/-- How grave a record is. -/
inductive Level where
  | debug
  | info
  | warning
  | error
  | critical
  deriving DecidableEq, Repr

namespace Level

/-- All levels, the least grave first. -/
def all : List Level := [debug, info, warning, error, critical]

def number : Level → Nat
  | debug => 10
  | info => 20
  | warning => 30
  | error => 40
  | critical => 50

def word : Level → String
  | debug => "debug"
  | info => "info"
  | warning => "warning"
  | error => "error"
  | critical => "critical"

/-- The name of a level, as configurations spell it. -/
def name : Level → String
  | debug => "DEBUG"
  | info => "INFO"
  | warning => "WARNING"
  | error => "ERROR"
  | critical => "CRITICAL"

def ofName? (s : String) : Option Level :=
  all.find? fun l ↦ l.name == s

/-- Whether a record of level `l` is written when `least` is in force. -/
def passes (l least : Level) : Bool :=
  least.number ≤ l.number

end Level

/-! ## Bounded fields -/

/-- How many characters of a field are kept. -/
def maxFieldLength : Nat := 2000

/-- The fields that are cut. -/
def clippedFields : List String := ["stderr", "stdout", "command", "error"]

/-- A text cut to its bound, with a note on how much is missing. -/
def clipText? (s : String) : Option String :=
  let cs := s.toList
  if cs.length ≤ maxFieldLength then none
  else some (String.ofList (cs.take maxFieldLength) ++ "... ["
    ++ toString (cs.length - maxFieldLength) ++ " more chars]")

/-- What a field reads as when its length is measured: a list is joined by blanks. -/
def measuredText? : Json.Value → Option String
  | .str s => some s
  | .arr items => some (" ".intercalate (items.map Json.Value.display))
  | _ => none

/-- Fields with process output cut to its bound; what is within the bound stays as it is. -/
def clip (fields : Json.Object) : Json.Object :=
  clippedFields.foldl (fun o key ↦
    match ((Keyed.get? o key).bind measuredText?).bind clipText? with
    | some s => Keyed.set o key (.str s)
    | none => o) fields

/-! ## Records -/

/-- A record as it is logged. -/
structure Record where
  level : Level
  event : String
  fields : Json.Object

def service : String := "surge-diagnostics"

def version : String := "0.3.0"

/-- A record's fields and, behind them, the bound ones that it does not have itself. -/
def mergeBound (bound fields : Json.Object) : Json.Object :=
  fields ++ bound.filter fun e ↦ !Keyed.has fields e.1

/-- Fields that every record has of its own; what else is given under their names is lost. -/
def ownFields : List String :=
  ["event", "level", "logger", "timestamp", "exc_info", "stack_info"]

/-- A record with the bound fields and the stamp, and cut to bounds. -/
def Record.stamped (bound : Json.Object) (r : Record) : Record :=
  let fields := mergeBound bound r.fields
  let fields := Keyed.set (Keyed.set fields "service" (.str service)) "version" (.str version)
  { r with fields := (clip fields).filter fun e ↦ !ownFields.contains e.1 }

theorem get?_clip {key : String} (h : key ∉ clippedFields) (o : Json.Object) :
    Keyed.get? (clip o) key = Keyed.get? o key := by
  rw [clip]
  revert h
  generalize clippedFields = keys
  intro h
  induction keys generalizing o with
  | nil => rfl
  | cons clipped more ih =>
    rw [List.mem_cons, not_or] at h
    rw [List.foldl_cons, ih _ h.2]
    split
    · rw [Keyed.get?_set, if_neg (Ne.symm h.1)]
    · rfl

theorem get?_mergeBound (bound fields : Json.Object) (key : String) :
    Keyed.get? (mergeBound bound fields) key =
      (Keyed.get? fields key).or (Keyed.get? bound key) := by
  rw [mergeBound, Keyed.get?_append, Keyed.get?_filter bound (fun k ↦ !Keyed.has fields k)]
  cases h : Keyed.get? fields key <;> simp [Keyed.has, h]

/-- The stamp, the bounds and what every record has of its own leave all other fields alone. -/
theorem get?_stamped {key : String} (r : Record) (bound : Json.Object)
    (h : key ∉ "service" :: "version" :: clippedFields ++ ownFields) :
    Keyed.get? (r.stamped bound).fields key =
      (Keyed.get? r.fields key).or (Keyed.get? bound key) := by
  simp only [List.cons_append, List.mem_cons, List.mem_append, not_or] at h
  obtain ⟨hservice, hversion, hclipped, hown⟩ := h
  have hkept : (!ownFields.contains key) = true := by simp [hown]
  rw [Record.stamped, Keyed.get?_filter _ (fun k ↦ !ownFields.contains k), if_pos hkept,
    get?_clip hclipped, Keyed.get?_set, if_neg (Ne.symm hversion), Keyed.get?_set,
    if_neg (Ne.symm hservice), get?_mergeBound]

/-- Names that a field of a record must not have. -/
def reservedFields : List String := ["self", "event", "method_name"]

/-- The name of the field for the record that a record was made of. None is made of another one. -/
def sourceField : String := "_record"

/-- The name of the field whose value goes into the places of the event. -/
def placesField : String := "positional_args"

/-- The supply that the value of the field for places is, if it is one. A list of one object stands
for the object. -/
def supply? : Json.Value → Filled (Option Supply)
  | .null | .bool false | .int 0 | .str "" | .arr [] | .obj [] => .ok none
  | .float x => if x == 0 then .ok none else .error .mismatch
  | .bool true | .int _ => .error .mismatch
  | .arr [.obj (e :: es)] => .ok (some (.ofValue (.obj (e :: es))))
  | .obj [_] => .error .nameMissing
  | v => .ok (some (.ofValue v))

/-- A record with the places of its event filled. The field for them goes, unless it is null. -/
def Record.filled (r : Record) : Filled Record := do
  match Keyed.get? r.fields placesField with
  | none | some .null => return r
  | some v =>
    let event ← match ← supply? v with
      | some s => fill r.event s
      | none => pure r.event
    return { r with event := event, fields := Keyed.erase r.fields placesField }

/-- A record as it is written, if its level is in force. -/
def Record.written (least : Level) (bound : Json.Object) (r : Record) :
    Except Failure (Option Record) := do
  if r.fields.any fun e ↦ reservedFields.contains e.1 then throw (.unfilled .mismatch)
  if !r.level.passes least then return none
  let r := r.stamped bound
  if !(Json.Object.field r.fields sourceField).isNull then throw .unable
  return some (← r.filled.mapError .unfilled)

end DiagnosticFeed.Log
