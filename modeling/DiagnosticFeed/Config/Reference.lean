import DiagnosticFeed.Failure
import DiagnosticFeed.Keyed

/-!
# References to environment variables

A text may refer to environment variables, as `$` and a name in braces, where `:-` and a fallback
may follow the name. A reference stands for the value of its variable or else for its fallback.
What is put in its place is not looked at again. Anything that is no reference stays as it is.
-/

namespace DiagnosticFeed.Config

abbrev Environment := Keyed String String

/-- A reference to a variable. -/
structure Reference where
  name : String
  fallback : Option (List Char) := none
  deriving DecidableEq

/-- What a text is made of. -/
inductive Piece where
  | plain (c : Char)
  | reference (r : Reference)
  deriving DecidableEq

/-- The characters of a name. -/
def isNameChar (c : Char) : Bool :=
  c != '\x7d' && c != ':'

/-- The end of a reference behind its name: the fallback, if any, and the closing brace. -/
def closing? : List Char → Option (Option (List Char) × List Char)
  | '\x7d' :: rest => some (none, rest)
  | ':' :: '-' :: cs =>
    match cs.dropWhile (· != '\x7d') with
    | _ :: rest => some (some (cs.takeWhile (· != '\x7d')), rest)
    | [] => none
  | _ => none

/-- The reference at the start of a text, and what is behind it. -/
def reference? : List Char → Option (Reference × List Char)
  | '$' :: '\x7b' :: cs =>
    let name := cs.takeWhile isNameChar
    if name.isEmpty then none
    else (closing? (cs.dropWhile isNameChar)).map fun (fallback, rest) ↦
      (⟨String.ofList name, fallback⟩, rest)
  | _ => none

theorem length_dropWhile_le {α : Type} (p : α → Bool) (l : List α) :
    (l.dropWhile p).length ≤ l.length :=
  (List.dropWhile_suffix p).length_le

theorem length_of_closing? {cs rest : List Char} {f : Option (List Char)}
    (h : closing? cs = some (f, rest)) : rest.length < cs.length := by
  unfold closing? at h
  split at h
  · simp_all
  · rename_i tail
    have := length_dropWhile_le (· != '\x7d') tail
    split at h
    · rename_i heq
      simp_all
      omega
    · simp at h
  · simp at h

theorem length_of_reference? {cs rest : List Char} {r : Reference}
    (h : reference? cs = some (r, rest)) : rest.length < cs.length := by
  unfold reference? at h
  split at h
  · rename_i tail
    simp only at h
    split at h
    · simp at h
    · obtain ⟨⟨f, rest'⟩, hc, he⟩ := Option.map_eq_some_iff.1 h
      have h₁ := length_of_closing? hc
      have h₂ := length_dropWhile_le isNameChar tail
      simp only [Prod.mk.injEq] at he
      obtain ⟨-, rfl⟩ := he
      simp only [List.length_cons]
      omega
  · simp at h

/-- The pieces of a text. -/
def pieces (cs : List Char) : List Piece :=
  match h : reference? cs with
  | some (r, rest) =>
    have := length_of_reference? h
    .reference r :: pieces rest
  | none =>
    match cs with
    | [] => []
    | c :: cs => .plain c :: pieces cs
  termination_by cs.length

/-- The variables that a text refers to. -/
def referredNames (s : String) : List String :=
  (pieces s.toList).filterMap fun p ↦
    match p with
    | .reference r => some r.name
    | .plain _ => none

/-- What a piece stands for. -/
def Piece.value (env : Environment) : Piece → Except Failure (List Char)
  | plain c => .ok [c]
  | reference r =>
    match env.get? r.name, r.fallback with
    | some v, _ => .ok v.toList
    | none, some v => .ok v
    | none, none => .error (.variableUnset r.name)

/-- What pieces stand for, one after the other. -/
def values (env : Environment) : List Piece → Except Failure (List Char)
  | [] => .ok []
  | p :: ps => do
    let v ← p.value env
    let vs ← values env ps
    return v ++ vs

def expand (env : Environment) (s : String) : Except Failure String :=
  (values env (pieces s.toList)).map String.ofList

end DiagnosticFeed.Config
