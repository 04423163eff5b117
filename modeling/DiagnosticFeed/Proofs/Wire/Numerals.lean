import DiagnosticFeed.Wire.Coordinate
import Mathlib.Data.Nat.Digits.Defs

/-!
# Numerals

A text of decimal digits is read as its number, whatever zeros it starts with, as long as it is no
longer than the limit on the digits of a whole number. So a coordinate is the same whether it is
spelled as a number or in digits.
-/

namespace DiagnosticFeed

/-- A text of decimal digits for a number, short enough to be read. -/
structure Numeral (s : String) (n : Int) : Prop where
  digits : ∀ c ∈ s.toList, c.isDigit
  nonempty : s.toList ≠ []
  value : Nat.ofDigitChars 10 s.toList 0 = n
  short : s.toList.length ≤ Decimal.maxDigits

theorem numeral_toString {n : Nat} (h : n < 10 ^ Decimal.maxDigits) :
    Numeral (toString n) n where
  digits := by
    intro c hc
    rw [Nat.toString_eq_repr, Nat.toList_repr] at hc
    exact Nat.isDigit_of_mem_toDigits (by omega) (by omega) hc
  nonempty := by
    rw [Nat.toString_eq_repr, Nat.toList_repr]
    exact Nat.toDigits_ne_nil
  value := by
    rw [Nat.toString_eq_repr, Nat.toList_repr, Nat.ofDigitChars_toDigits (by omega) (by omega)]
  short := by
    rw [Nat.toString_eq_repr, Nat.toList_repr]
    exact (Nat.length_toDigits_le_iff (by omega) (by rw [Decimal.maxDigits]; omega)).mpr h

theorem Text.isBlank_of_isDigit {c : Char} (h : c.isDigit) : isBlank c = false := by
  rw [Char.isDigit, Bool.and_eq_true, decide_eq_true_eq, decide_eq_true_eq] at h
  have hlow : 48 ≤ c.toNat := UInt32.le_iff_toNat_le.mp h.1
  have hhigh : c.toNat ≤ 57 := UInt32.le_iff_toNat_le.mp h.2
  rw [isBlank]
  simp only [Bool.or_eq_false_iff, Bool.and_eq_false_iff, decide_eq_false_iff_not,
    beq_eq_false_iff_ne]
  omega

theorem Text.unpadded_of_forall {cs : List Char} (h : ∀ c ∈ cs, isBlank c = false) :
    Unpadded cs :=
  ⟨fun c hc ↦ h c (List.mem_of_mem_head? hc), fun c hc ↦ h c (List.mem_of_getLast? hc)⟩

theorem Text.trimSpace_eq_self {cs : List Char} (h : Unpadded cs) : trimSpace cs = cs := by
  have hspace {c : Char} (hc : isBlank c = false) : isSpace c = false := by
    rw [isSpace, hc, Bool.false_and]
  have hend : cs.reverse.dropWhile isSpace = cs.reverse :=
    dropWhile_eq_self fun c hc ↦ hspace (h.2 c (by rwa [List.head?_reverse] at hc))
  rw [trimSpace, dropWhile_eq_self fun c hc ↦ hspace (h.1 c hc), hend, List.reverse_reverse]

namespace Decimal

open Text

section

variable {cs : List Char}

theorem unpadded_of_digits (h : ∀ c ∈ cs, c.isDigit) : Unpadded cs :=
  unpadded_of_forall fun c hc ↦ isBlank_of_isDigit (h c hc)

theorem takeDigits_of_digits (h : ∀ c ∈ cs, c.isDigit) :
    takeDigits cs = (cs.map fun c ↦ c.toNat - 48, []) := by
  induction cs with
  | nil => rfl
  | cons c cs ih =>
    have hc : digitValue? c = some (c.toNat - 48) := if_pos (h c List.mem_cons_self)
    have hrest := ih fun x hx ↦ h x (List.mem_cons_of_mem c hx)
    rw [takeDigits, hc, hrest]
    · rfl
    · rintro rest rfl
      -- An underscore is no digit.
      have hscore := h '_' (by simp)
      cases hscore

theorem takeSign_of_digits (h : ∀ c ∈ cs, c.isDigit) : takeSign cs = (false, cs) := by
  rw [takeSign]
  · rintro rest rfl
    cases h '-' List.mem_cons_self
  · rintro rest rfl
    cases h '+' List.mem_cons_self

theorem ofDigits_eq_ofDigitChars (cs : List Char) :
    ofDigits (cs.map fun c ↦ c.toNat - 48) = Nat.ofDigitChars 10 cs 0 := by
  rw [ofDigits, List.foldl_map]
  rfl

/-- A number is read from its digits, as its sign says. -/
theorem readInt?_of_takeSign {negative : Bool} {body : List Char} (hcs : Unpadded cs)
    (hsign : takeSign cs = (negative, body)) (hdigits : ∀ c ∈ body, c.isDigit) (hne : body ≠ [])
    (hshort : body.length ≤ maxDigits) :
    readInt? cs = some (if negative then -(Nat.ofDigitChars 10 body 0 : Int)
      else Nat.ofDigitChars 10 body 0) := by
  rw [readInt?, trimSpace_eq_self hcs, hsign]
  dsimp only
  rw [takeDigits_of_digits hdigits]
  cases hbody : body.map (fun c ↦ c.toNat - 48) with
  | nil => exact absurd (List.map_eq_nil_iff.mp hbody) hne
  | cons x xs =>
    dsimp only
    rw [← hbody, List.length_map, if_pos hshort, ofDigits_eq_ofDigitChars]

/-- **A numeral is read as its number.** -/
theorem readInt?_of_numeral {s : String} {n : Int} (h : Numeral s n) :
    readInt? s.toList = some n := by
  rw [readInt?_of_takeSign (unpadded_of_digits h.digits) (takeSign_of_digits h.digits) h.digits
    h.nonempty h.short, if_neg Bool.false_ne_true, h.value]

end

end Decimal

namespace Wire

/-- A value that spells a number: as it is, or in digits. -/
inductive SpellsNumber (n : Int) : Json.Value → Prop
  | int : SpellsNumber n (.int n)
  | text {s : String} (h : Numeral s n) : SpellsNumber n (.str s)

/-- **A coordinate is read back from its spelling**, which counts from one. -/
theorem coordinate?_of_spells {p : Int} {v : Json.Value} (h : SpellsNumber (p + 1) v) :
    coordinate? v = some p.toNat := by
  have hzero : zeroBased (p + 1) = p.toNat := by rw [zeroBased, Int.add_sub_cancel]
  cases h with
  | int => exact congrArg some hzero
  | text hnumeral =>
    rw [coordinate?, Text.trim_eq_self (Decimal.unpadded_of_digits hnumeral.digits),
      coordinateOfText?, Decimal.readInt?_of_numeral hnumeral]
    exact congrArg some hzero

end Wire

end DiagnosticFeed
