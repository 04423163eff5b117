import DiagnosticFeed.Config.Reference
import DiagnosticFeed.Proofs.Fallible
import Mathlib.Data.List.Forall2
import Mathlib.Tactic.Common

/-!
# Texts with references

A text that is put together from references and from other text without dollar signs is taken apart
in the same way, whatever stands in names, fallbacks and between the references. So it expands to
what its parts stand for, one after the other, and what is put in the place of a reference is not
looked at again. It cannot be expanded if and only if a reference has neither a variable nor a
fallback, and the first such reference is told.

The scan is followed from the front: the characters of other text are pieces by themselves, and
where a reference begins it is read up to its own closing brace.
-/

namespace DiagnosticFeed.Config

/-- A part of a text: characters that stand for themselves, or a reference. -/
inductive Part where
  | literal (cs : List Char)
  | reference (r : Reference)

namespace Part

/-- Whether a part can be told from what is around it: there is no dollar sign outside of
references, a name is not empty and holds neither a closing brace nor a colon, and a fallback holds
no closing brace. -/
def Proper : Part → Prop
  | literal cs => '$' ∉ cs
  | reference r =>
    r.name.toList ≠ [] ∧ '\x7d' ∉ r.name.toList ∧ ':' ∉ r.name.toList ∧
      ∀ f, r.fallback = some f → '\x7d' ∉ f

def written : Part → List Char
  | literal cs => cs
  | reference ⟨name, none⟩ => "$\x7b".toList ++ name.toList ++ "\x7d".toList
  | reference ⟨name, some f⟩ => "$\x7b".toList ++ name.toList ++ ":-".toList ++ f ++ "\x7d".toList

/-- The pieces that a part should be read as. -/
def pieces : Part → List Piece
  | literal cs => cs.map .plain
  | reference r => [.reference r]

end Part

def textOf (parts : List Part) : String :=
  String.ofList (parts.flatMap Part.written)

/-- A reference has neither a variable nor a fallback. -/
def Reference.Unset (env : Environment) (r : Reference) : Prop :=
  env.get? r.name = none ∧ r.fallback = none

/-- What a part stands for. -/
inductive Part.StandsFor (env : Environment) : Part → List Char → Prop
  | literal (cs : List Char) : StandsFor env (.literal cs) cs
  | variable_ {r : Reference} {v : String} (h : env.get? r.name = some v) :
      StandsFor env (.reference r) v.toList
  | fallback {r : Reference} {f : List Char} (hv : env.get? r.name = none)
      (hf : r.fallback = some f) : StandsFor env (.reference r) f

/-! ## Taking a text apart -/

section

variable {c : Char} {cs rest : List Char} {r : Reference}

theorem pieces_nil : pieces [] = [] := by
  rw [pieces]
  rfl

theorem pieces_of_reference? (h : reference? cs = some (r, rest)) :
    pieces cs = .reference r :: pieces rest := by
  rw [pieces]
  split
  · next heq =>
    rw [h] at heq
    cases heq
    rfl
  · next heq =>
    rw [h] at heq
    cases heq

theorem pieces_cons_of_none (h : reference? (c :: cs) = none) :
    pieces (c :: cs) = .plain c :: pieces cs := by
  rw [pieces]
  split
  · next heq =>
    rw [h] at heq
    cases heq
  · rfl

/-- A reference starts with a dollar sign and an opening brace. -/
theorem reference?_eq_none (h : ¬"$\x7b".toList <+: cs) : reference? cs = none := by
  unfold reference?
  split
  · next tail => exact absurd ⟨tail, rfl⟩ h
  · rfl

theorem pieces_append (h : '$' ∉ cs) (rest : List Char) :
    pieces (cs ++ rest) = cs.map .plain ++ pieces rest := by
  induction cs with
  | nil => rfl
  | cons c cs ih =>
    rw [List.mem_cons, not_or] at h
    have hnone : reference? (c :: (cs ++ rest)) = none := by
      refine reference?_eq_none ?_
      rintro ⟨tail, htail⟩
      exact h.1 (List.cons.inj htail).1
    rw [List.cons_append, pieces_cons_of_none hnone, ih h.2, List.map_cons, List.cons_append]

theorem pieces_of_not_infix (h : ¬"$\x7b".toList <:+: cs) : pieces cs = cs.map .plain := by
  induction cs with
  | nil => exact pieces_nil
  | cons c cs ih =>
    have hnone : reference? (c :: cs) = none := reference?_eq_none fun hp ↦ h hp.isInfix
    have hrest : ¬"$\x7b".toList <:+: cs := fun hi ↦ h (hi.trans (List.infix_cons List.infix_rfl))
    rw [pieces_cons_of_none hnone, ih hrest, List.map_cons]

/-- What follows a name that is not closed yet: the closing brace, or a fallback and the closing
brace. -/
theorem closing?_fallback {f : List Char} (h : '\x7d' ∉ f) (rest : List Char) :
    closing? (":-".toList ++ f ++ "\x7d".toList ++ rest) = some (some f, rest) := by
  have hall : ∀ c ∈ f, (c != '\x7d') = true := fun c hc ↦ by
    rw [bne_iff_ne]
    rintro rfl
    exact h hc
  have htake : (f ++ '\x7d' :: rest).takeWhile (· != '\x7d') = f := by
    rw [List.takeWhile_append_of_pos hall, List.takeWhile_cons_of_neg (by decide), List.append_nil]
  have hdrop : (f ++ '\x7d' :: rest).dropWhile (· != '\x7d') = '\x7d' :: rest := by
    rw [List.dropWhile_append_of_pos hall, List.dropWhile_cons_of_neg (by decide)]
  have hshape : ":-".toList ++ f ++ "\x7d".toList ++ rest = ':' :: '-' :: (f ++ '\x7d' :: rest) := by
    simp
  rw [hshape, closing?, hdrop, htake]

theorem reference?_of_closing? {name : String} {f : Option (List Char)} {tail : List Char}
    (hne : name.toList ≠ []) (hbrace : '\x7d' ∉ name.toList) (hcolon : ':' ∉ name.toList)
    (htail : ∃ c tail', tail = c :: tail' ∧ isNameChar c = false)
    (hclosing : closing? tail = some (f, rest)) :
    reference? ("$\x7b".toList ++ name.toList ++ tail) = some (⟨name, f⟩, rest) := by
  obtain ⟨c, tail', rfl, hc⟩ := htail
  have hall : ∀ c ∈ name.toList, isNameChar c = true := fun c hmem ↦ by
    rw [isNameChar, Bool.and_eq_true, bne_iff_ne, bne_iff_ne]
    exact ⟨fun heq ↦ hbrace (heq ▸ hmem), fun heq ↦ hcolon (heq ▸ hmem)⟩
  have htake : (name.toList ++ c :: tail').takeWhile isNameChar = name.toList := by
    rw [List.takeWhile_append_of_pos hall, List.takeWhile_cons_of_neg (by simp [hc]),
      List.append_nil]
  have hdrop : (name.toList ++ c :: tail').dropWhile isNameChar = c :: tail' := by
    rw [List.dropWhile_append_of_pos hall, List.dropWhile_cons_of_neg (by simp [hc])]
  have hshape : "$\x7b".toList ++ name.toList ++ c :: tail' =
      '$' :: '\x7b' :: (name.toList ++ c :: tail') := by simp
  rw [hshape, reference?]
  simp only [htake, hdrop, hclosing]
  rw [if_neg (by simpa using hne)]
  simp [String.ofList_toList]

/-- **A reference is read up to its own closing brace.** -/
theorem reference?_written (h : (Part.reference r).Proper) (rest : List Char) :
    reference? ((Part.reference r).written ++ rest) = some (r, rest) := by
  obtain ⟨name, fallback⟩ := r
  obtain ⟨hne, hbrace, hcolon, hfallback⟩ := h
  cases fallback with
  | none =>
    rw [Part.written, List.append_assoc]
    exact reference?_of_closing? hne hbrace hcolon ⟨_, _, rfl, by decide⟩ rfl
  | some f =>
    have hclosing := closing?_fallback (hfallback f rfl) rest
    rw [Part.written, List.append_assoc, List.append_assoc, List.append_assoc]
    simp only [List.append_assoc] at hclosing
    exact reference?_of_closing? hne hbrace hcolon ⟨_, _, rfl, by decide⟩ hclosing

/-- **A text is taken apart as it was put together.** -/
theorem pieces_flatMap_written {parts : List Part} (h : ∀ p ∈ parts, p.Proper) :
    pieces (parts.flatMap Part.written) = parts.flatMap Part.pieces := by
  induction parts with
  | nil => exact pieces_nil
  | cons p parts ih =>
    rw [List.flatMap_cons, List.flatMap_cons, ← ih fun p hp ↦ h p (List.mem_cons_of_mem _ hp)]
    have hp := h p List.mem_cons_self
    cases p with
    | literal cs => exact pieces_append hp _
    | reference r => exact pieces_of_reference? (reference?_written hp _)

end

/-! ## Putting values in their place -/

section

variable {env : Environment} {p : Part} {parts : List Part} {v cs : List Char} {e : Failure}

theorem values_append (ps qs : List Piece) :
    values env (ps ++ qs) =
      values env ps >>= fun vs ↦ values env qs >>= fun ws ↦ pure (vs ++ ws) := by
  induction ps with
  | nil =>
    change _ = values env qs >>= fun ws ↦ pure ws
    rw [bind_pure, List.nil_append]
  | cons p ps ih =>
    rw [List.cons_append, values, ih, values]
    simp only [bind_assoc, pure_bind, List.append_assoc]

theorem values_map_plain (cs : List Char) : values env (cs.map .plain) = .ok cs := by
  induction cs with
  | nil => rfl
  | cons c cs ih =>
    rw [List.map_cons, values, ih]
    rfl

theorem values_singleton (p : Piece) : values env [p] = p.value env := by
  rw [values]
  cases p.value env with
  | error e => rfl
  | ok v => simp [values, bind, Except.bind, pure, Except.pure]

theorem values_pieces_eq_ok_iff : values env p.pieces = .ok v ↔ p.StandsFor env v := by
  cases p with
  | literal cs =>
    rw [Part.pieces, values_map_plain, Except.ok.injEq]
    constructor
    · rintro rfl
      exact .literal cs
    · rintro ⟨⟩
      rfl
  | reference r =>
    rw [Part.pieces, values_singleton, Piece.value]
    constructor
    · intro h
      split at h
      · next hv =>
        cases h
        exact .variable_ hv
      · next hv hf =>
        cases h
        exact .fallback hv hf
      · cases h
    · rintro (_ | hv | ⟨hv, hf⟩)
      · rw [hv]
      · rw [hv, hf]

theorem values_pieces_eq_error_iff : values env p.pieces = .error e ↔
    ∃ r, p = .reference r ∧ r.Unset env ∧ e = .variableUnset r.name := by
  cases p with
  | literal cs => simp [Part.pieces, values_map_plain]
  | reference r =>
    rw [Part.pieces, values_singleton, Piece.value]
    constructor
    · intro h
      split at h
      · cases h
      · cases h
      · next hv hf =>
        cases h
        exact ⟨r, rfl, ⟨hv, hf⟩, rfl⟩
    · rintro ⟨r', heq, ⟨hv, hf⟩, rfl⟩
      cases heq
      rw [hv, hf]

theorem values_flatMap_eq_ok_iff : values env (parts.flatMap Part.pieces) = .ok cs ↔
    ∃ vs, List.Forall₂ (Part.StandsFor env) parts vs ∧ cs = vs.flatten := by
  induction parts generalizing cs with
  | nil => simp [values, eq_comm]
  | cons p parts ih =>
    simp only [List.flatMap_cons, values_append, bind_eq_ok_iff, values_pieces_eq_ok_iff, ih,
      List.forall₂_cons_left_iff]
    constructor
    · rintro ⟨v, hv, _, ⟨vs, hvs, rfl⟩, heq⟩
      cases heq
      exact ⟨v :: vs, ⟨v, vs, hv, hvs, rfl⟩, rfl⟩
    · rintro ⟨_, ⟨v, vs, hv, hvs, rfl⟩, rfl⟩
      exact ⟨v, hv, vs.flatten, ⟨vs, hvs, rfl⟩, rfl⟩

/-- The first reference that has nothing to stand for is told. -/
theorem values_flatMap_eq_error_iff : values env (parts.flatMap Part.pieces) = .error e ↔
    ∃ before r after, parts = before ++ .reference r :: after ∧
      (∀ p ∈ before, ∃ v, p.StandsFor env v) ∧ r.Unset env ∧ e = .variableUnset r.name := by
  induction parts with
  | nil => simp [values]
  | cons p parts ih =>
    simp only [List.flatMap_cons, values_append, bind_eq_error_iff, values_pieces_eq_error_iff,
      values_pieces_eq_ok_iff, ih]
    constructor
    · rintro (⟨r, rfl, hunset, rfl⟩ | ⟨v, hv, ⟨before, r, after, rfl, hbefore, h⟩ | ⟨_, _, heq⟩⟩)
      · exact ⟨[], r, parts, rfl, by simp, hunset, rfl⟩
      · refine ⟨p :: before, r, after, rfl, ?_, h⟩
        rintro p' (_ | ⟨_, hp'⟩)
        · exact ⟨v, hv⟩
        · exact hbefore p' hp'
      · cases heq
    · rintro ⟨before, r, after, hparts, hbefore, hunset, rfl⟩
      cases before with
      | nil =>
        cases hparts
        exact .inl ⟨r, rfl, hunset, rfl⟩
      | cons p' before =>
        cases hparts
        obtain ⟨v, hv⟩ := hbefore p List.mem_cons_self
        exact .inr ⟨v, hv, .inl ⟨before, r, after, rfl,
          fun p hp ↦ hbefore p (List.mem_cons_of_mem _ hp), hunset, rfl⟩⟩

end

/-- **References are replaced part by part.** A text of proper parts expands to what its parts stand
for, one after the other; it cannot be expanded if and only if a reference is unset, and then the
failure is one of the configuration that tells the name of the first such reference. Texts in which
no dollar sign is in front of an opening brace stay as they are. -/
theorem expand_parts {env : Environment} {parts : List Part} (h : ∀ p ∈ parts, p.Proper) :
    (∀ t, expand env (textOf parts) = .ok t ↔
      ∃ vs, List.Forall₂ (Part.StandsFor env) parts vs ∧ t = String.ofList vs.flatten) ∧
    (∀ e, expand env (textOf parts) = .error e ↔
      ∃ before r after, parts = before ++ .reference r :: after ∧
        (∀ p ∈ before, ∃ v, p.StandsFor env v) ∧ r.Unset env ∧ e = .variableUnset r.name) ∧
    (∀ name, (Failure.variableUnset name).kind = "ConfigurationError" ∧
      (Failure.variableUnset name).message = "Environment variable " ++ name ++ " not found") ∧
    ∀ s : String, ¬"$\x7b".toList <:+: s.toList → expand env s = .ok s := by
  have hpieces : expand env (textOf parts) =
      (values env (parts.flatMap Part.pieces)).map String.ofList := by
    rw [expand, textOf, String.toList_ofList, pieces_flatMap_written h]
  refine ⟨fun t ↦ ?_, fun e ↦ ?_, fun name ↦ ⟨rfl, rfl⟩, fun s hs ↦ ?_⟩
  · rw [hpieces]
    constructor
    · intro hok
      cases hvalues : values env (parts.flatMap Part.pieces) with
      | error e =>
        rw [hvalues] at hok
        cases hok
      | ok cs =>
        rw [hvalues] at hok
        cases hok
        obtain ⟨vs, hvs, rfl⟩ := values_flatMap_eq_ok_iff.1 hvalues
        exact ⟨vs, hvs, rfl⟩
    · rintro ⟨vs, hvs, rfl⟩
      rw [values_flatMap_eq_ok_iff.2 ⟨vs, hvs, rfl⟩]
      rfl
  · rw [hpieces, ← values_flatMap_eq_error_iff]
    cases values env (parts.flatMap Part.pieces) <;> simp [Except.map]
  · rw [expand, pieces_of_not_infix hs, values_map_plain]
    exact congrArg Except.ok String.ofList_toList

/-! Braces, colons and dollar signs at the edges of two references; what stands for them looks like a
reference, too. -/

def entangledParts : List Part :=
  [.literal "a\x7d".toList, .reference ⟨"HOME", none⟩, .literal ":-".toList,
    .reference ⟨"$\x7bN", some "$\x7bX:-".toList⟩, .literal "\x7d".toList]

/-- The value of the first and the fallback of the second are put in their place, and the first is
told if it has no value. -/
theorem expand_entangledParts :
    (∀ p ∈ entangledParts, p.Proper) ∧
      textOf entangledParts = "a\x7d$\x7bHOME\x7d:-$\x7b$\x7bN:-$\x7bX:-\x7d\x7d" ∧
      expand [("HOME", "$\x7bHOME\x7d")] (textOf entangledParts) =
        .ok "a\x7d$\x7bHOME\x7d:-$\x7bX:-\x7d" ∧
      expand [] (textOf entangledParts) = .error (.variableUnset "HOME") := by
  have hproper : ∀ p ∈ entangledParts, p.Proper := by
    simp [entangledParts, Part.Proper]
  refine ⟨hproper, rfl, ?_, ?_⟩
  · have hstand : List.Forall₂ (Part.StandsFor [("HOME", "$\x7bHOME\x7d")]) entangledParts
        ["a\x7d".toList, "$\x7bHOME\x7d".toList, ":-".toList, "$\x7bX:-".toList, "\x7d".toList] :=
      .cons (.literal _) (.cons (.variable_ rfl)
        (.cons (.literal _) (.cons (.fallback rfl rfl) (.cons (.literal _) .nil))))
    exact ((expand_parts hproper).1 _).2 ⟨_, hstand, rfl⟩
  · refine ((expand_parts hproper).2.1 _).2 ⟨[.literal "a\x7d".toList], ⟨"HOME", none⟩, _, rfl, ?_,
      ⟨rfl, rfl⟩, rfl⟩
    intro p hp
    rw [List.mem_singleton.1 hp]
    exact ⟨_, .literal _⟩

end DiagnosticFeed.Config
