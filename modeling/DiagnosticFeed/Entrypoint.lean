import DiagnosticFeed.Document
import DiagnosticFeed.Span
import DiagnosticFeed.Text.Blank
import DiagnosticFeed.Text.Classes

/-!
# Entry points

A line scan for functions marked as entry points. A mark stands for the first line with a function
among its own line and the five after it, or for its own line when there is none. Each such line
gets one pair of actions, to run and to build, in the order of the lines.
-/

namespace DiagnosticFeed.Entrypoint

open Text

/-- How many lines a mark looks at, its own included. -/
def lookahead : Nat := 6

/-- Whether a word starts a text and ends there: what follows is no word character. -/
def startsWithWord (word cs : List Char) : Bool :=
  match stripStart? word cs with
  | some rest => !(rest.head?.map isWordChar).getD false
  | none => false

/-- Whether a line bears the mark. -/
def hasMark : List Char → Bool
  | [] => false
  | c :: cs => startsWithWord "@entrypoint".toList (c :: cs) || hasMark cs

/-- The characters that may start the name of a function. -/
def startsName (c : Char) : Bool :=
  c.isAlpha || c == '_'

/-- The characters of a name after its first. -/
def continuesName (c : Char) : Bool :=
  c.isAlphanum || c == '_'

/-- The name after the keyword, parted from it by blanks. -/
def nameAfter? (cs : List Char) : Option String :=
  match cs with
  | c :: _ =>
    if isBlank c then
      match cs.dropWhile isBlank with
      | n :: rest =>
        if startsName n then some (String.ofList (n :: rest.takeWhile continuesName)) else none
      | [] => none
    else none
  | [] => none

/-- The name of the first function declared on a line; `inWord` says whether the line goes on from
a word character. -/
def functionFrom? (inWord : Bool) : List Char → Option String
  | [] => none
  | c :: cs =>
    let here := if inWord then none else (stripStart? ['f', 'n'] (c :: cs)).bind nameAfter?
    match here with
    | some name => some name
    | none => functionFrom? (isWordChar c) cs

/-- The name of the first function declared on a line. -/
def functionName? (line : String) : Option String :=
  functionFrom? false line.toList

/-- The line that a mark stands for, and the name of the function on it. -/
def target (lines : List String) (i : Nat) : Nat × Option String :=
  let window := ((lines.drop i).take lookahead).zipIdx i
  match window.findSome? fun (l, j) ↦ (functionName? l).map fun n ↦ (j, n) with
  | some (j, n) => (j, some n)
  | none => (i, none)

/-- The lines that the marks of a text stand for, each once, in the order of the marks. -/
def targets (lines : List String) : List (Nat × Option String) :=
  let marks := (lines.zipIdx.filter fun (l, _) ↦ hasMark l.toList).map (·.2)
  marks.foldl (fun found i ↦
    let t := target lines i
    if found.any (·.1 == t.1) then found else found ++ [t]) []

/-- An action that is offered on a line. -/
structure Lens where
  line : Nat
  title : String
  command : String
  uri : String
  function : Option String
  deriving DecidableEq

/-- The place of an action: the start of its line. -/
def Lens.span (l : Lens) : Span :=
  ⟨⟨l.line, 0⟩, ⟨l.line, 0⟩⟩

/-- The two actions on a line. -/
def lensPair (uri : String) (t : Nat × Option String) : List Lens :=
  [⟨t.1, "Run", "surge.runEntryPoint", uri, t.2⟩,
    ⟨t.1, "Build", "surge.buildEntryPoint", uri, t.2⟩]

/-- Whether a document can have entry points: it is a file of the language. -/
def eligible (d : Document) (language : String) : Bool :=
  (stripStart? "file:".toList d.uri.toList).isSome && d.language == language

def lenses (d : Document) (language : String) : List Lens :=
  if eligible d language then (targets d.lines).flatMap (lensPair d.uri) else []

end DiagnosticFeed.Entrypoint
