import DiagnosticFeed.Json.Reader
import DiagnosticFeed.Json.Writer
import DiagnosticFeed.Proofs.Wire.Numerals
import Mathlib.Data.List.Forall2
import Mathlib.Data.List.TakeWhile

/-!
# What is written is read back

A value is written in either alphabet, on one line or over several, and read back from any of these
texts as it was, if it has no floating point numbers, its whole numbers are not too long, it is not
nested too deeply and its objects have each key once.

What is read back does not depend on what follows it, as long as that is something that can follow a
value. So the text of an array is read item by item, and likewise that of an object, and it is
enough to know of each part that it is read back wherever it stands.
-/

namespace DiagnosticFeed

theorem Keyed.set_of_notMem {κ ν : Type} [DecidableEq κ] {l : Keyed κ ν} {k : κ} {v : ν}
    (h : k ∉ l.map Prod.fst) : l.set k v = l ++ [(k, v)] := by
  induction l with
  | nil => rfl
  | cons e l ih =>
    rw [List.map_cons, List.mem_cons, not_or] at h
    rw [set, if_neg (Ne.symm h.1), ih h.2, List.cons_append]

namespace Json

/-! ## Strings -/

theorem hexDigits_four {n : Nat} (h : n < 0x10000) :
    Text.hexDigits 4 n = [Nat.digitChar (n / 4096), Nat.digitChar (n / 256 % 16),
      Nat.digitChar (n / 16 % 16), Nat.digitChar (n % 16)] := by
  rw [Text.hexDigits, Nat.toDigits_eq_if (by decide), Nat.toDigits_eq_if (by decide),
    Nat.toDigits_eq_if (by decide), Nat.toDigits_eq_if (by decide)]
  simp only [Nat.div_div_eq_div_mul]
  split
  · next h₁ =>
    simp [Nat.div_eq_of_lt, Nat.mod_eq_of_lt, h₁, show n < 4096 by omega, show n < 256 by omega,
      List.replicate]
  · split
    · next h₂ =>
      simp [Nat.div_eq_of_lt, Nat.mod_eq_of_lt, h₂, show n < 4096 by omega,
        show n < 256 by omega, List.replicate]
    · split
      · next h₃ =>
        simp [Nat.div_eq_of_lt, Nat.mod_eq_of_lt, h₃, show n < 4096 by omega]
      · simp [show n / 4096 < 16 by omega]

theorem readUnit?_hexDigits {n : Nat} (h : n < 0x10000) (cs : List Char) :
    readUnit? (Text.hexDigits 4 n ++ cs) = some (n, cs) := by
  have hvalue : ((n / 4096 * 16 + n / 256 % 16) * 16 + n / 16 % 16) * 16 + n % 16 = n := by omega
  rw [hexDigits_four h]
  simp only [List.cons_append, List.nil_append, readUnit?,
    hexValue?_digitChar (n / 4096) (by omega), hexValue?_digitChar (n / 256 % 16) (by omega),
    hexValue?_digitChar (n / 16 % 16) (by omega), hexValue?_digitChar (n % 16) (by omega),
    Option.bind_eq_bind, Option.bind_some, hvalue]
  rfl

/-- Code points of characters leave out the surrogates. -/
theorem toNat_cases (c : Char) :
    c.toNat < 0xD800 ∨ 0xDFFF < c.toNat ∧ c.toNat < 0x110000 :=
  c.valid

theorem readEscaped_toNat (c : Char) (cs : List Char) : readEscaped c.toNat cs = (c, cs) := by
  have hvalid := toNat_cases c
  unfold readEscaped
  rw [if_neg (by simp; omega), if_neg (by simp; omega), Char.ofNat_toNat]

/-- A pair of surrogates is read as the one character it stands for. -/
theorem readEscaped_pair {c : Char} (h : ¬c.toNat < 0x10000) (cs : List Char) :
    readEscaped (0xD800 + (c.toNat - 0x10000) / 1024)
      ('\\' :: 'u' :: (Text.hexDigits 4 (0xDC00 + (c.toNat - 0x10000) % 1024) ++ cs)) =
        (c, cs) := by
  have hvalid := toNat_cases c
  have hvalue : 0x10000 + (0xD800 + (c.toNat - 0x10000) / 1024 - 0xD800) * 1024 +
      (0xDC00 + (c.toNat - 0x10000) % 1024 - 0xDC00) = c.toNat := by omega
  rw [readEscaped, if_pos (by simp; omega)]
  simp only [readUnit?_hexDigits (n := 0xDC00 + (c.toNat - 0x10000) % 1024) (by omega)]
  rw [if_pos (by simp; omega), hvalue, Char.ofNat_toNat]

section

variable (fuel : Nat) (acc cs : List Char)

/-- An escape by code point is read as its character. -/
theorem readString_escapeUnits (c : Char) :
    readString (fuel + 1) acc (escapeUnits c.toNat ++ cs) = readString fuel (c :: acc) cs := by
  have hunit (u : Nat) (hu : u < 0x10000) (more : List Char) :
      readString (fuel + 1) acc ('\\' :: 'u' :: (Text.hexDigits 4 u ++ more)) =
        readString fuel ((readEscaped u more).1 :: acc) (readEscaped u more).2 := by
    rw [readString.eq_def]
    dsimp only
    simp only [Char.reduceBEq, Bool.false_eq_true, if_false, if_true, readUnit?_hexDigits hu]
  have hvalid := toNat_cases c
  rw [escapeUnits]
  split
  · next h =>
    rw [List.cons_append, List.cons_append, hunit _ h, readEscaped_toNat]
  · next h =>
    rw [List.append_assoc, List.cons_append, List.cons_append, hunit _ (by omega),
      List.cons_append, List.cons_append, readEscaped_pair h]

theorem readString_writeChar (alphabet : Alphabet) (c : Char) :
    readString (fuel + 1) acc (writeChar alphabet c ++ cs) = readString fuel (c :: acc) cs := by
  have hofNat {n : Nat} (h : (c.toNat == n) = true) : c = Char.ofNat n := by
    rw [← beq_iff_eq.mp h, Char.ofNat_toNat]
  rw [writeChar]
  split
  · next h =>
    rw [beq_iff_eq.mp h]
    rfl
  next hquote =>
  split
  · next h =>
    rw [beq_iff_eq.mp h]
    rfl
  next hbackslash =>
  split
  · next h =>
    rw [beq_iff_eq.mp h]
    rfl
  split
  · next h =>
    rw [beq_iff_eq.mp h]
    rfl
  split
  · next h =>
    rw [beq_iff_eq.mp h]
    rfl
  split
  · next h =>
    rw [hofNat h]
    rfl
  split
  · next h =>
    rw [hofNat h]
    rfl
  split
  · exact readString_escapeUnits fuel acc cs c
  next hcontrol =>
  split
  · rw [List.singleton_append, readString.eq_def]
    dsimp only
    rw [if_neg hquote, if_neg hbackslash, if_neg hcontrol]
  · exact readString_escapeUnits fuel acc cs c

theorem writeChar_ne_nil (alphabet : Alphabet) (c : Char) : writeChar alphabet c ≠ [] := by
  intro h
  have hread := readString_writeChar 0 [] ['"'] alphabet c
  rw [h] at hread
  cases hread

/-- The characters of a string are read back as they are written, up to the closing quote. -/
theorem readString_flatMap (alphabet : Alphabet) {word : List Char}
    (hfuel : (word.flatMap (writeChar alphabet)).length < fuel) :
    readString fuel acc (word.flatMap (writeChar alphabet) ++ '"' :: cs) =
      .ok (String.ofList (acc.reverse ++ word), cs) := by
  induction word generalizing fuel acc with
  | nil =>
    obtain ⟨fuel, rfl⟩ := Nat.exists_eq_add_one.mpr hfuel
    rw [List.append_nil]
    rfl
  | cons c word ih =>
    have hpos := List.length_pos_iff.mpr (writeChar_ne_nil alphabet c)
    rw [List.flatMap_cons, List.length_append] at hfuel
    obtain ⟨fuel, rfl⟩ := Nat.exists_eq_add_one.mpr (Nat.zero_lt_of_lt hfuel)
    rw [List.flatMap_cons, List.append_assoc, readString_writeChar, ih _ _ (by omega),
      List.reverse_cons, List.append_assoc, List.singleton_append]

end

theorem readString_writeString (alphabet : Alphabet) (word : String) :
    ∃ body, (writeString alphabet word).toList = '"' :: body ∧ ∀ fuel cs, body.length ≤ fuel →
      readString fuel [] (body ++ cs) = .ok (word, cs) := by
  refine ⟨word.toList.flatMap (writeChar alphabet) ++ ['"'], String.toList_ofList, ?_⟩
  intro fuel cs hfuel
  rw [List.length_append, List.length_singleton] at hfuel
  rw [List.append_assoc, List.singleton_append, readString_flatMap _ _ _ _ hfuel]
  simp

/-! ## Numbers -/

/-- What can follow a value. -/
def Ends (cs : List Char) : Prop :=
  ∀ c ∈ cs.head?, isSpace c = true ∨ c = ',' ∨ c = ']' ∨ c = '\x7d'

theorem Ends.of_cons {c : Char} {cs : List Char}
    (h : isSpace c = true ∨ c = ',' ∨ c = ']' ∨ c = '\x7d') : Ends (c :: cs) := by
  intro c' hc'
  cases hc'
  exact h

/-- No digit, and nothing else that a number goes on with, can follow a value. -/
theorem Ends.number {cs : List Char} (h : Ends cs) :
    takeNumerals cs = ([], cs) ∧ readFraction cs = ([], cs) ∧ readExponent cs = (none, cs) := by
  cases cs with
  | nil => exact ⟨rfl, rfl, rfl⟩
  | cons c cs =>
    have hc := h c rfl
    have hgoes : c.isDigit = false ∧ c ≠ '.' ∧ c ≠ 'e' ∧ c ≠ 'E' := by
      simp only [isSpace, Bool.or_eq_true, beq_iff_eq] at hc
      rcases hc with (((rfl | rfl) | rfl) | rfl) | rfl | rfl | rfl <;> decide
    obtain ⟨hdigit, hpoint, he, hE⟩ := hgoes
    refine ⟨?_, ?_, ?_⟩
    · rw [takeNumerals, List.takeWhile_cons_of_neg (by simp [hdigit]),
        List.dropWhile_cons_of_neg (by simp [hdigit])]
    · rw [readFraction]
      rintro more hmore
      exact hpoint (List.cons.inj hmore).1
    · rw [readExponent]
      simp [he, hE]

/-- The digits of a number that is not zero do not begin with a zero. -/
theorem head?_toDigits {n : Nat} (h : 0 < n) : (Nat.toDigits 10 n).head? ≠ some '0' := by
  induction n using Nat.strongRecOn with
  | ind n ih =>
    rw [Nat.toDigits_eq_if (by decide)]
    split
    · simp [Nat.ne_of_gt h]
    · next hlarge =>
      rw [List.head?_append_of_ne_nil _ Nat.toDigits_ne_nil]
      exact ih (n / 10) (by omega) (by omega)

theorem numeralsValue_toDigits (n : Nat) : numeralsValue (Nat.toDigits 10 n) = n := by
  rw [numeralsValue, Decimal.ofDigits_eq_ofDigitChars,
    Nat.ofDigitChars_toDigits (by decide) (by decide)]

theorem readNumber_toDigits {n : Nat} (h : n < 10 ^ Decimal.maxDigits) (negative : Bool)
    {cs : List Char} (hcs : Ends cs) :
    readNumber negative (Nat.toDigits 10 n ++ cs) =
      .ok (.int (if negative then -(n : Int) else n), cs) := by
  obtain ⟨hnumerals, hfraction, hexponent⟩ := hcs.number
  have hshort : ¬Decimal.maxDigits < (Nat.toDigits 10 n).length :=
    Nat.not_lt.mpr ((Nat.length_toDigits_le_iff (by decide) (by decide)).mpr h)
  have hvalue := numeralsValue_toDigits n
  have hne : (Nat.toDigits 10 n).isEmpty = false := by simp [Nat.toDigits_ne_nil]
  by_cases hzero : n = 0
  · subst hzero
    rw [Nat.toDigits_zero] at hvalue ⊢
    rw [List.singleton_append, readNumber]
    simp [hfraction, hexponent, hvalue, Decimal.maxDigits]
  · have htake : takeNumerals (Nat.toDigits 10 n ++ cs) = (Nat.toDigits 10 n, cs) := by
      have hdigits : ∀ c ∈ Nat.toDigits 10 n, c.isDigit = true :=
        fun c hc ↦ Nat.isDigit_of_mem_toDigits (by decide) (by decide) hc
      rw [takeNumerals, Prod.mk.injEq] at hnumerals ⊢
      rw [List.takeWhile_append_of_pos hdigits, List.dropWhile_append_of_pos hdigits, hnumerals.1,
        hnumerals.2, List.append_nil]
      exact ⟨rfl, rfl⟩
    rw [readNumber]
    · simp only [htake, hfraction, hexponent, hne, hvalue, if_neg hshort]
      rfl
    · intro more hmore
      refine head?_toDigits (Nat.pos_of_ne_zero hzero) ?_
      rw [← List.head?_append_of_ne_nil _ Nat.toDigits_ne_nil, hmore]
      rfl

/-! ## Values -/

/-- A text starts with something that is neither passed over nor taken for the end of an array or
object. -/
def Starts (text : List Char) : Prop :=
  ∃ c cs, text = c :: cs ∧ isSpace c = false ∧ c ≠ ']' ∧ c ≠ '\x7d'

theorem Starts.append {text : List Char} (h : Starts text) (cs : List Char) :
    Starts (text ++ cs) := by
  obtain ⟨c, text, rfl, hc⟩ := h
  exact ⟨c, text ++ cs, rfl, hc⟩

theorem Starts.skipSpace_eq {text : List Char} (h : Starts text) : skipSpace text = text := by
  obtain ⟨c, text, rfl, hc, -⟩ := h
  rw [skipSpace, List.dropWhile_cons_of_neg (by simp [hc])]

/-- A text is read as a value, whatever stands behind it that can follow a value. -/
structure ReadsBack (depth : Nat) (text : List Char) (v : Value) : Prop where
  starts : Starts text
  reads : ∀ fuel cs, text.length ≤ fuel → Ends cs →
    readValue fuel depth (text ++ cs) = .ok (v, cs)

/-- `ReadsBack` from what is read with fuel left. -/
theorem readsBack_of {depth : Nat} {c : Char} {text : List Char} {v : Value}
    (hc : isSpace c = false ∧ c ≠ ']' ∧ c ≠ '\x7d')
    (h : ∀ fuel cs, text.length ≤ fuel → Ends cs →
      readValue (fuel + 1) depth (c :: (text ++ cs)) = .ok (v, cs)) :
    ReadsBack depth (c :: text) v := by
  refine ⟨⟨c, text, rfl, hc⟩, fun fuel cs hfuel hcs ↦ ?_⟩
  rw [List.length_cons] at hfuel
  obtain ⟨fuel, rfl⟩ := Nat.exists_eq_add_one.mpr (Nat.zero_lt_of_lt hfuel)
  exact h fuel cs (Nat.le_of_succ_le_succ hfuel) hcs

theorem readsBack_null (depth : Nat) : ReadsBack depth "null".toList .null :=
  readsBack_of (by decide) fun _ _ _ _ ↦ rfl

theorem readsBack_bool (depth : Nat) (b : Bool) :
    ReadsBack depth (if b then "true" else "false").toList (.bool b) := by
  cases b
  · exact readsBack_of (by decide) fun _ _ _ _ ↦ rfl
  · exact readsBack_of (by decide) fun _ _ _ _ ↦ rfl

theorem readsBack_str (depth : Nat) (alphabet : Alphabet) (word : String) :
    ReadsBack depth (writeString alphabet word).toList (.str word) := by
  obtain ⟨body, hbody, hread⟩ := readString_writeString alphabet word
  rw [hbody]
  refine readsBack_of (by decide) fun fuel cs hfuel _ ↦ ?_
  change (readString fuel [] (body ++ cs) >>= fun read ↦ pure (Value.str read.1, read.2)) = _
  rw [hread fuel cs hfuel]
  rfl

theorem readValue_of_isDigit {c : Char} (h : c.isDigit = true) (fuel depth : Nat)
    (cs : List Char) : readValue (fuel + 1) depth (c :: cs) = readNumber false (c :: cs) := by
  have hne : ∀ x : Char, x.isDigit = false → ¬(c == x) = true := by
    intro x hx hcx
    rw [beq_iff_eq.mp hcx, hx] at h
    cases h
  rw [readValue.eq_def]
  dsimp only
  rw [if_neg (hne '"' rfl), if_neg (hne '\x7b' rfl), if_neg (hne '[' rfl), if_neg (hne 'n' rfl),
    if_neg (hne 't' rfl), if_neg (hne 'f' rfl), if_neg (hne 'N' rfl), if_neg (hne 'I' rfl),
    if_neg (hne '-' rfl)]

theorem readValue_minus {c : Char} (h : c.isDigit = true) (fuel depth : Nat) (cs : List Char) :
    readValue (fuel + 1) depth ('-' :: c :: cs) = readNumber true (c :: cs) := by
  rw [readValue.eq_def]
  simp only [Char.reduceBEq, Bool.false_eq_true, if_false, if_true]
  split
  · next hinfinity =>
    cases hinfinity
    cases h
  · rfl

theorem readsBack_int (depth : Nat) {n : Int} (h : n.natAbs < 10 ^ Decimal.maxDigits) :
    ReadsBack depth (toString n).toList (.int n) := by
  have hne : Nat.toDigits 10 n.natAbs ≠ [] := Nat.toDigits_ne_nil
  obtain ⟨d, ds, hds⟩ := List.exists_cons_of_ne_nil hne
  have hd : d.isDigit = true :=
    Nat.isDigit_of_mem_toDigits (by decide) (by decide) (hds ▸ List.mem_cons_self)
  have hnumber (negative : Bool) {cs : List Char} (hcs : Ends cs) :=
    readNumber_toDigits h negative hcs
  rw [hds] at hnumber
  have hstarts : isSpace d = false ∧ d ≠ ']' ∧ d ≠ '\x7d' := by
    refine ⟨?_, ?_, ?_⟩
    · by_contra hspace
      simp only [isSpace, Bool.not_eq_false, Bool.or_eq_true, beq_iff_eq] at hspace
      rcases hspace with ((rfl | rfl) | rfl) | rfl <;> cases hd
    · rintro rfl
      cases hd
    · rintro rfl
      cases hd
  rw [Int.toString_eq_repr, Int.repr_eq_if]
  split
  · next hpos =>
    rw [Nat.toList_repr, ← Int.natAbs_of_nonneg hpos, Int.toNat_natCast, hds]
    refine readsBack_of hstarts fun fuel cs _ hcs ↦ ?_
    rw [readValue_of_isDigit hd, ← List.cons_append, hnumber false hcs]
    simp
  · next hneg =>
    have habs : (-n).toNat = n.natAbs := by omega
    rw [String.toList_append, Nat.toList_repr, habs, hds]
    change ReadsBack depth ('-' :: d :: ds) (.int n)
    refine readsBack_of (by decide) fun fuel cs _ hcs ↦ ?_
    rw [List.cons_append, readValue_minus hd, ← List.cons_append, hnumber true hcs, if_pos rfl]
    congr 3
    omega

/-! ## Arrays and objects -/

theorem skipSpace_append {gap cs : List Char} (hgap : ∀ c ∈ gap, isSpace c = true) :
    skipSpace (gap ++ cs) = skipSpace cs :=
  List.dropWhile_append_of_pos hgap

theorem Ends.of_space {gap cs : List Char} (hgap : ∀ c ∈ gap, isSpace c = true) (hcs : Ends cs) :
    Ends (gap ++ cs) := by
  cases gap with
  | nil => exact hcs
  | cons c gap => exact Ends.of_cons (.inl (hgap c List.mem_cons_self))

/-- The texts of the parts with commas between them, and a gap behind each comma. -/
def listed (gap : List Char) (texts : List (List Char)) : List Char :=
  List.intercalate (',' :: gap) texts

theorem listed_cons (gap text : List Char) (texts : List (List Char)) :
    listed gap (text :: texts) =
      text ++ if texts = [] then [] else ',' :: (gap ++ listed gap texts) := by
  cases texts with
  | nil => simp [listed]
  | cons text' texts =>
    rw [listed, List.intercalate_cons_cons, if_neg (List.cons_ne_nil _ _), List.append_assoc]
    rfl

theorem starts_listed {texts : List (List Char)} (hne : texts ≠ [])
    (h : ∀ text ∈ texts, Starts text) (gap : List Char) : Starts (listed gap texts) := by
  obtain ⟨text, texts, rfl⟩ := List.exists_cons_of_ne_nil hne
  rw [listed_cons]
  exact (h text List.mem_cons_self).append _

theorem starts_of_forall₂ {α : Type} {reads : List Char → α → Prop}
    (hreads : ∀ text a, reads text a → Starts text) {texts : List (List Char)} {parts : List α}
    (h : List.Forall₂ reads texts parts) : ∀ text ∈ texts, Starts text := by
  induction h with
  | nil => simp
  | cons hfirst _ ih =>
    intro text htext
    rcases List.mem_cons.mp htext with rfl | htext
    · exact hreads _ _ hfirst
    · exact ih text htext

section

variable {depth fuel : Nat} {gap trail : List Char} {texts : List (List Char)}

theorem starts_of_readsBack {items : List Value} (h : List.Forall₂ (ReadsBack depth) texts items) :
    ∀ text ∈ texts, Starts text :=
  starts_of_forall₂ (fun _ _ hv ↦ hv.starts) h

/-- **An array is read back item by item.** -/
theorem readItems_listed (hgap : ∀ c ∈ gap, isSpace c = true)
    (htrail : ∀ c ∈ trail, isSpace c = true) {items : List Value}
    (h : List.Forall₂ (ReadsBack depth) texts items) (hne : texts ≠ [])
    (hfuel : (listed gap texts).length < fuel) (acc : List Value) (cs : List Char) :
    readItems fuel depth acc (listed gap texts ++ (trail ++ ']' :: cs)) =
      .ok (.arr (acc.reverse ++ items), cs) := by
  induction h generalizing fuel acc with
  | nil => exact absurd rfl hne
  | @cons text v texts items hv hrest ih =>
    obtain ⟨fuel, rfl⟩ := Nat.exists_eq_add_one.mpr (Nat.zero_lt_of_lt hfuel)
    rw [listed_cons] at hfuel ⊢
    rw [List.length_append] at hfuel
    rw [readItems, List.append_assoc]
    by_cases hlast : texts = []
    · subst hlast
      cases hrest
      have hends : Ends (trail ++ ']' :: cs) := .of_space htrail (.of_cons (by simp))
      have hafter : skipSpace (trail ++ ']' :: cs) = ']' :: cs := skipSpace_append htrail
      rw [if_pos rfl, List.nil_append, hv.reads fuel _ (by omega) hends]
      simp only [bind, Except.bind, hafter, pure, Except.pure, List.reverse_cons]
    · have hafter (more : List Char) : skipSpace (',' :: more) = ',' :: more := rfl
      have hnext := (starts_listed hlast (starts_of_readsBack hrest) gap).append
      rw [if_neg hlast, List.length_cons, List.length_append] at hfuel
      rw [if_neg hlast, List.cons_append, hv.reads fuel _ (by omega) (.of_cons (by simp))]
      simp only [bind, Except.bind, hafter]
      rw [List.append_assoc, skipSpace_append hgap, (hnext _).skipSpace_eq,
        ih hlast (by omega), List.reverse_cons, List.append_assoc, List.singleton_append]

/-- A text is read as an entry of an object: a key in quotes, a colon and a value. -/
def ReadsEntry (depth : Nat) (text : List Char) (e : String × Value) : Prop :=
  ∃ (alphabet : Alphabet) (valueText : List Char),
    text = (writeString alphabet e.1).toList ++ ':' :: ' ' :: valueText ∧
      ReadsBack depth valueText e.2

theorem starts_of_readsEntry {entries : Object}
    (h : List.Forall₂ (ReadsEntry depth) texts entries) : ∀ text ∈ texts, Starts text := by
  refine starts_of_forall₂ ?_ h
  rintro text e ⟨alphabet, valueText, rfl, -⟩
  exact (readsBack_str 0 alphabet e.1).starts.append _

/-- What is read of an entry, whatever object it comes to be part of. -/
theorem readEntries_of_readsEntry {text : List Char} {e : String × Value}
    (h : ReadsEntry depth text e) (hfuel : text.length ≤ fuel) {cs : List Char} (hcs : Ends cs)
    (acc : Object) :
    readEntries (fuel + 1) depth acc (text ++ cs) = match skipSpace cs with
      | ',' :: rest => readEntries fuel depth (Keyed.set acc e.1 e.2) (skipSpace rest)
      | '\x7d' :: rest => .ok (.obj (Keyed.set acc e.1 e.2), rest)
      | _ => .error .malformed := by
  obtain ⟨alphabet, valueText, rfl, hv⟩ := h
  obtain ⟨body, hbody, hread⟩ := readString_writeString alphabet e.1
  rw [hbody] at hfuel ⊢
  simp only [List.length_append, List.length_cons] at hfuel
  have hcolon (more : List Char) : skipSpace (':' :: more) = ':' :: more := rfl
  have hblank (more : List Char) : skipSpace (' ' :: more) = skipSpace more := rfl
  rw [List.append_assoc, List.cons_append, readEntries, hread fuel _ (by omega)]
  simp only [bind, Except.bind, List.cons_append, hcolon]
  rw [hblank, (hv.starts.append cs).skipSpace_eq, hv.reads fuel cs (by omega) hcs]
  rfl

/-- **An object is read back entry by entry**, if no key is there twice. -/
theorem readEntries_listed (hgap : ∀ c ∈ gap, isSpace c = true)
    (htrail : ∀ c ∈ trail, isSpace c = true) {entries : Object}
    (h : List.Forall₂ (ReadsEntry depth) texts entries) (hne : texts ≠ []) (acc : Object)
    (hkeys : ((acc ++ entries).map Prod.fst).Nodup)
    (hfuel : (listed gap texts).length < fuel) (cs : List Char) :
    readEntries fuel depth acc (listed gap texts ++ (trail ++ '\x7d' :: cs)) =
      .ok (.obj (acc ++ entries), cs) := by
  induction h generalizing fuel acc with
  | nil => exact absurd rfl hne
  | @cons text e texts entries he hrest ih =>
    obtain ⟨fuel, rfl⟩ := Nat.exists_eq_add_one.mpr (Nat.zero_lt_of_lt hfuel)
    have hset : Keyed.set acc e.1 e.2 = acc ++ [e] := by
      refine Keyed.set_of_notMem fun hmem ↦ ?_
      rw [List.map_append, List.nodup_append] at hkeys
      exact hkeys.2.2 _ hmem _ (by simp) rfl
    rw [listed_cons] at hfuel ⊢
    rw [List.length_append] at hfuel
    rw [List.append_assoc]
    by_cases hlast : texts = []
    · subst hlast
      cases hrest
      have hends : Ends (trail ++ '\x7d' :: cs) := .of_space htrail (.of_cons (by simp))
      have hafter : skipSpace (trail ++ '\x7d' :: cs) = '\x7d' :: cs := skipSpace_append htrail
      rw [if_pos rfl, List.nil_append, readEntries_of_readsEntry he (by omega) hends, hafter, hset]
      rfl
    · have hafter (more : List Char) : skipSpace (',' :: more) = ',' :: more := rfl
      have hnext := (starts_listed hlast (starts_of_readsEntry hrest) gap).append
      rw [if_neg hlast, List.length_cons, List.length_append] at hfuel
      rw [if_neg hlast, List.cons_append,
        readEntries_of_readsEntry he (by omega) (.of_cons (by simp)), hafter, hset]
      change readEntries fuel depth (acc ++ [e]) (skipSpace _) = _
      rw [List.append_assoc, skipSpace_append hgap, (hnext _).skipSpace_eq,
        ih hlast _ (by simpa using hkeys) (by omega), List.append_assoc, List.singleton_append]

/-- What brackets put around parts and between them: a comma between two, and space. -/
theorem toList_bracket (opening closing : String) (indent : Option Nat) {parts : List String}
    (hne : parts ≠ []) : ∃ lead gap trail, (∀ c ∈ lead, isSpace c = true) ∧
      (∀ c ∈ gap, isSpace c = true) ∧ (∀ c ∈ trail, isSpace c = true) ∧
        (bracket opening closing indent parts).toList = opening.toList ++
          (lead ++ (listed gap (parts.map String.toList) ++ (trail ++ closing.toList))) := by
  obtain ⟨part, parts, rfl⟩ := List.exists_cons_of_ne_nil hne
  have hblanks (n : Nat) : ∀ c ∈ '\n' :: List.replicate n ' ', isSpace c = true := by
    intro c hc
    rcases List.mem_cons.mp hc with rfl | hc
    · rfl
    · rw [List.eq_of_mem_replicate hc]
      rfl
  cases indent with
  | none =>
    refine ⟨[], [' '], [], by simp, by simp [isSpace], by simp, ?_⟩
    simp [bracket, listed, String.toList_intercalate]
  | some n =>
    refine ⟨_, _, _, hblanks (2 * (n + 1)), hblanks (2 * (n + 1)), hblanks (2 * n), ?_⟩
    simp [bracket, listed, String.toList_intercalate]

theorem bracket_nil (opening closing : String) (indent : Option Nat) :
    bracket opening closing indent [] = opening ++ closing := by
  cases indent <;> rfl

variable {parts : List String}

theorem readsBack_items {items : List Value}
    (h : List.Forall₂ (ReadsBack depth) (parts.map String.toList) items) (indent : Option Nat) :
    ReadsBack (depth + 1) (bracket "[" "]" indent parts).toList (.arr items) := by
  by_cases hempty : parts = []
  · subst hempty
    cases h
    rw [bracket_nil]
    change ReadsBack (depth + 1) ['[', ']'] (.arr [])
    exact readsBack_of (by decide) fun _ _ _ _ ↦ rfl
  have hne : parts.map String.toList ≠ [] := mt List.map_eq_nil_iff.mp hempty
  obtain ⟨lead, gap, trail, hlead, hgap, htrail, htext⟩ := toList_bracket "[" "]" indent hempty
  have hread (fuel : Nat) (hfuel : (listed gap (parts.map String.toList)).length < fuel) :=
    readItems_listed hgap htrail h hne hfuel []
  have hstarts := starts_listed hne (starts_of_readsBack h) gap
  rw [htext]
  generalize listed gap (parts.map String.toList) = text at hread hstarts ⊢
  change ReadsBack (depth + 1) ('[' :: (lead ++ (text ++ (trail ++ [']'])))) _
  refine readsBack_of (by decide) fun fuel cs hfuel _ ↦ ?_
  simp only [List.length_append, List.length_singleton] at hfuel
  simp only [List.append_assoc, List.singleton_append]
  rw [readValue.eq_def]
  simp only [Char.reduceBEq, Bool.false_eq_true, if_false, if_true]
  rw [skipSpace_append hlead, (hstarts.append _).skipSpace_eq]
  obtain ⟨c, text, rfl, -, hc, -⟩ := hstarts
  split
  · next heq => exact absurd (List.cons.inj heq).1 hc
  · exact hread fuel (by omega) cs

theorem readsBack_entries {entries : Object}
    (h : List.Forall₂ (ReadsEntry depth) (parts.map String.toList) entries)
    (hkeys : (entries.map Prod.fst).Nodup) (indent : Option Nat) :
    ReadsBack (depth + 1) (bracket "\x7b" "\x7d" indent parts).toList (.obj entries) := by
  by_cases hempty : parts = []
  · subst hempty
    cases h
    rw [bracket_nil]
    change ReadsBack (depth + 1) ['\x7b', '\x7d'] (.obj [])
    exact readsBack_of (by decide) fun _ _ _ _ ↦ rfl
  have hne : parts.map String.toList ≠ [] := mt List.map_eq_nil_iff.mp hempty
  obtain ⟨lead, gap, trail, hlead, hgap, htrail, htext⟩ :=
    toList_bracket "\x7b" "\x7d" indent hempty
  have hread (fuel : Nat) (hfuel : (listed gap (parts.map String.toList)).length < fuel) :=
    readEntries_listed hgap htrail h hne [] hkeys hfuel
  have hstarts := starts_listed hne (starts_of_readsEntry h) gap
  rw [htext]
  generalize listed gap (parts.map String.toList) = text at hread hstarts ⊢
  change ReadsBack (depth + 1) ('\x7b' :: (lead ++ (text ++ (trail ++ ['\x7d'])))) _
  refine readsBack_of (by decide) fun fuel cs hfuel _ ↦ ?_
  simp only [List.length_append, List.length_singleton] at hfuel
  simp only [List.append_assoc, List.singleton_append]
  rw [readValue.eq_def]
  simp only [Char.reduceBEq, Bool.false_eq_true, if_false, if_true]
  rw [skipSpace_append hlead, (hstarts.append _).skipSpace_eq]
  obtain ⟨c, text, rfl, -, -, hc⟩ := hstarts
  split
  · next heq => exact absurd (List.cons.inj heq).1 hc
  · exact hread fuel (by omega) cs

end

/-! ## All values -/

/-- A value that is read back as it is written, with so many levels of nesting left: there is no
floating point number in it, no whole number is too long, and no object has a key twice. -/
inductive Plain : Nat → Value → Prop
  | null {depth : Nat} : Plain depth .null
  | bool {depth : Nat} (b : Bool) : Plain depth (.bool b)
  | int {depth : Nat} {n : Int} (h : n.natAbs < 10 ^ Decimal.maxDigits) : Plain depth (.int n)
  | str {depth : Nat} (word : String) : Plain depth (.str word)
  | arr {depth : Nat} {items : List Value} (h : ∀ v ∈ items, Plain depth v) :
      Plain (depth + 1) (.arr items)
  | obj {depth : Nat} {entries : Object} (hkeys : (entries.map Prod.fst).Nodup)
      (h : ∀ e ∈ entries, Plain depth e.2) : Plain (depth + 1) (.obj entries)

theorem writeItems_eq_map (alphabet : Alphabet) (indent : Option Nat) (items : List Value) :
    writeItems alphabet indent items = items.map (writeAt alphabet indent) := by
  induction items with
  | nil => rfl
  | cons v items ih => rw [writeItems, ih, List.map_cons]

theorem writeEntries_eq_map (alphabet : Alphabet) (indent : Option Nat) (entries : Object) :
    writeEntries alphabet indent entries = entries.map fun e ↦
      writeString alphabet e.1 ++ ": " ++ writeAt alphabet indent e.2 := by
  induction entries with
  | nil => rfl
  | cons e entries ih => rw [writeEntries, ih, List.map_cons]

/-- **What is written is read back**, wherever it stands. -/
theorem readsBack_writeAt {depth : Nat} {v : Value} (h : Plain depth v) (alphabet : Alphabet)
    (indent : Option Nat) : ReadsBack depth (writeAt alphabet indent v).toList v := by
  induction h generalizing indent with
  | null => exact readsBack_null _
  | bool b =>
    cases b
    · exact readsBack_bool _ false
    · exact readsBack_bool _ true
  | int hshort => exact readsBack_int _ hshort
  | str word => exact readsBack_str _ alphabet word
  | arr hitems ih =>
    rw [writeAt, writeItems_eq_map]
    refine readsBack_items ?_ indent
    rw [List.map_map, List.forall₂_map_left_iff, List.forall₂_same]
    exact fun v hv ↦ ih v hv _
  | obj hkeys hentries ih =>
    rw [writeAt, writeEntries_eq_map]
    refine readsBack_entries ?_ hkeys indent
    rw [List.map_map, List.forall₂_map_left_iff, List.forall₂_same]
    refine fun e he ↦ ⟨alphabet, _, ?_, ih e he (indent.map (· + 1))⟩
    simp

/-- **A text is read as the value that it was written for**, with any space behind it. -/
theorem parse_writeAt {v : Value} (h : Plain maxDepth v) (alphabet : Alphabet)
    (indent : Option Nat) {trail : String} (htrail : ∀ c ∈ trail.toList, isSpace c = true) :
    parse (writeAt alphabet indent v ++ trail) = .ok v := by
  obtain ⟨hstarts, hreads⟩ := readsBack_writeAt h alphabet indent
  have hspace : skipSpace trail.toList = [] := List.dropWhile_eq_nil_iff.mpr htrail
  have hends : Ends trail.toList := by
    rw [← List.append_nil trail.toList]
    exact .of_space htrail (by simp [Ends])
  rw [parse, String.toList_append]
  dsimp only
  rw [(hstarts.append _).skipSpace_eq, hreads _ _ (by rw [List.length_append]; omega) hends]
  simp only [bind, Except.bind, hspace]
  rfl

end Json

end DiagnosticFeed
