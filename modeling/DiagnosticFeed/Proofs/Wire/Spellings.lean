import DiagnosticFeed.Proofs.Wire.Numerals

/-!
# Coordinates in words and in numbers

A coordinate may be a number or a text. A text is first read as a whole number, which is exact, and
only then as any number, which would round a large one. Here is what is read exactly: decimal digits
with zeros in front, a sign and blanks around, within the limit on the digits of a whole number. So
a coordinate in such a text is that of the number, to the last digit.
-/

namespace DiagnosticFeed

namespace Text

theorem trim_surrounded {before body after : List Char} (hbefore : ∀ c ∈ before, isBlank c)
    (hafter : ∀ c ∈ after, isBlank c) (hbody : Unpadded body) (hne : body ≠ []) :
    trim (before ++ body ++ after) = body := by
  have hfront : (before ++ body ++ after).dropWhile isBlank = body ++ after := by
    rw [List.append_assoc, List.dropWhile_append_of_pos hbefore]
    obtain ⟨b, bs, rfl⟩ := List.exists_cons_of_ne_nil hne
    exact dropWhile_eq_self hbody.1
  have hend : (body ++ after).reverse.dropWhile isBlank = body.reverse := by
    rw [List.reverse_append,
      List.dropWhile_append_of_pos fun c hc ↦ hafter c (List.mem_reverse.mp hc)]
    exact dropWhile_eq_self fun c hc ↦ hbody.2 c (by rwa [List.head?_reverse] at hc)
  rw [trim, hfront, trimEnd, hend, List.reverse_reverse]

end Text

namespace Decimal

open Text

/-- The signs that a whole number can be written with. -/
inductive SignOf (n : Int) : List Char → Prop
  | none (h : 0 ≤ n) : SignOf n []
  | plus (h : 0 ≤ n) : SignOf n ['+']
  | minus (h : n ≤ 0) : SignOf n ['-']

/-- A text that spells a whole number: its decimal digits, behind a sign and any zeros, with blanks
around. Zeros count towards the limit on digits. -/
inductive Spells (n : Int) : String → Prop
  | intro {before sign after : List Char} (zeros : Nat) (hbefore : ∀ c ∈ before, isBlank c)
      (hsign : SignOf n sign) (hshort : zeros + (Nat.toDigits 10 n.natAbs).length ≤ maxDigits)
      (hafter : ∀ c ∈ after, isBlank c) :
      Spells n (String.ofList (before ++
        (sign ++ (List.replicate zeros '0' ++ Nat.toDigits 10 n.natAbs)) ++ after))

section

variable {n : Int} {sign ds : List Char}

theorem SignOf.isBlank (h : SignOf n sign) : ∀ c ∈ sign, isBlank c = false := by
  cases h with
  | none => exact List.forall_mem_nil _
  | plus | minus => exact List.forall_mem_singleton.mpr rfl

theorem SignOf.takeSign (h : SignOf n sign) (hds : ∀ c ∈ ds, c.isDigit) :
    ∃ negative, takeSign (sign ++ ds) = (negative, ds) ∧
      n = if negative then -(n.natAbs : Int) else n.natAbs := by
  cases h with
  | none h => exact ⟨false, takeSign_of_digits hds, (Int.natAbs_of_nonneg h).symm⟩
  | plus h => exact ⟨false, rfl, (Int.natAbs_of_nonneg h).symm⟩
  | minus h =>
    refine ⟨true, rfl, ?_⟩
    rw [if_pos rfl, Int.ofNat_natAbs_of_nonpos h, Int.neg_neg]

theorem ofDigitChars_replicate (zeros : Nat) (ds : List Char) :
    Nat.ofDigitChars 10 (List.replicate zeros '0' ++ ds) 0 = Nat.ofDigitChars 10 ds 0 := by
  induction zeros with
  | zero => rfl
  | succ zeros ih =>
    rw [List.replicate_succ, List.cons_append, Nat.ofDigitChars_cons]
    exact ih

/-- **A spelling is read as its number.** -/
theorem readInt?_of_spells {text : String} (h : Spells n text) :
    readInt? (trim text.toList) = some n := by
  obtain ⟨zeros, hbefore, hsign, hshort, hafter⟩ := h
  have hdigits : ∀ c ∈ List.replicate zeros '0' ++ Nat.toDigits 10 n.natAbs, c.isDigit := by
    intro c hc
    rcases List.mem_append.mp hc with hzero | hdigit
    · rw [List.eq_of_mem_replicate hzero]
      decide
    · exact Nat.isDigit_of_mem_toDigits (by decide) (by decide) hdigit
  have hne : List.replicate zeros '0' ++ Nat.toDigits 10 n.natAbs ≠ [] :=
    List.append_ne_nil_of_right_ne_nil _ Nat.toDigits_ne_nil
  have hbody : Unpadded (_ ++ (List.replicate zeros '0' ++ Nat.toDigits 10 n.natAbs)) :=
    unpadded_of_forall fun c hc ↦ (List.mem_append.mp hc).elim (hsign.isBlank c)
      fun hdigit ↦ isBlank_of_isDigit (hdigits c hdigit)
  obtain ⟨negative, htake, hn⟩ := hsign.takeSign hdigits
  rw [String.toList_ofList,
    trim_surrounded hbefore hafter hbody (List.append_ne_nil_of_right_ne_nil _ hne),
    readInt?_of_takeSign hbody htake hdigits hne (by simpa using hshort),
    ofDigitChars_replicate, Nat.ofDigitChars_toDigits (by decide) (by decide), ← hn]

/-- A whole number is spelled as it is written, if that is not too long. -/
theorem spells_repr (h : n.natAbs < 10 ^ maxDigits) : Spells n n.repr := by
  have hshort : 0 + (Nat.toDigits 10 n.natAbs).length ≤ maxDigits := by
    rw [Nat.zero_add]
    exact (Nat.length_toDigits_le_iff (by decide) (by decide)).mpr h
  have hwritten : ∃ sign, SignOf n sign ∧
      n.repr = String.ofList (sign ++ Nat.toDigits 10 n.natAbs) := by
    cases n with
    | ofNat m => exact ⟨[], .none (Int.natCast_nonneg m), rfl⟩
    | negSucc m =>
      refine ⟨['-'], .minus (Int.negSucc_lt_zero m).le, String.toList_inj.mp ?_⟩
      rw [Int.repr, String.toList_append, Nat.toList_repr, String.toList_ofList,
        String.toList_ofList]
      rfl
  obtain ⟨sign, hsign, hrepr⟩ := hwritten
  have hspells := @Spells.intro n [] sign [] 0 nofun hsign hshort nofun
  rwa [List.nil_append, List.append_nil, List.replicate_zero, List.nil_append, ← hrepr]
    at hspells

end

end Decimal

namespace Wire

open Decimal

/-- A number and its spellings are one coordinate, and it is that of the number exactly. -/
structure ReadsExactly (n : Int) (c : Nat) : Prop where
  number : coordinate? (.int n) = some c
  spelling : ∀ text, Spells n text → coordinate? (.str text) = some c
  exact : (c : Int) = max 0 (n - 1)

theorem zeroBased_eq (n : Int) : (zeroBased n : Int) = max 0 (n - 1) := by
  rw [zeroBased, Int.toNat_eq_max, Int.max_comm]

theorem readsExactly (n : Int) : ReadsExactly n (zeroBased n) where
  number := rfl
  spelling := by
    intro text h
    rw [coordinate?, coordinateOfText?, readInt?_of_spells h]
  exact := zeroBased_eq n

/-- **A coordinate is the same in words and in numbers.** Every number has one coordinate however it
is spelled, which is one less, or zero where that is negative; no digit is lost. A greater number
never has a lesser one. A number that is not too long is spelled, among others, as it is written. -/
theorem coordinates_of_spellings (n : Int) :
    ∃ c, ReadsExactly n c ∧ (∀ m d, m ≤ n → coordinate? (.int m) = some d → d ≤ c) ∧
      (n.natAbs < 10 ^ maxDigits → Spells n n.repr) := by
  refine ⟨zeroBased n, readsExactly n, ?_, spells_repr⟩
  intro m d hle hm
  obtain rfl : zeroBased m = d := Option.some_inj.mp hm
  have hm := zeroBased_eq m
  have hn := zeroBased_eq n
  omega

/-- Zeros, a sign, and blanks that are none in a number; no binary64 number is the same. -/
theorem coordinates_of_spacious_spelling :
    Spells 9007199254740993 "\u2003\x1f+0009007199254740993\x1c" ∧
      coordinate? (.str "\u2003\x1f+0009007199254740993\x1c") = some 9007199254740992 ∧
      coordinate? (.int 9007199254740992) = some 9007199254740991 ∧
      (9007199254740991 : Nat) ≤ 9007199254740992 := by
  have hspells : Spells 9007199254740993 "\u2003\x1f+0009007199254740993\x1c" :=
    @Spells.intro _ ['\u2003', '\x1f'] ['+'] ['\x1c'] 3
      (List.forall_mem_cons.mpr ⟨rfl, List.forall_mem_singleton.mpr rfl⟩) (.plus (by decide))
      (by decide) (List.forall_mem_singleton.mpr rfl)
  obtain ⟨c, hc, hmono, -⟩ := coordinates_of_spellings 9007199254740993
  obtain rfl : c = 9007199254740992 := by
    have hexact := hc.exact
    omega
  exact ⟨hspells, hc.spelling _ hspells, rfl,
    hmono 9007199254740992 9007199254740991 (by decide) rfl⟩

end Wire

end DiagnosticFeed
