import DiagnosticFeed.Proofs.Decimal.Packing
import DiagnosticFeed.Quantity

/-!
# Sums of binary64 numbers

The value of a binary64 number is read off its parts. Numbers that are not negative have sums that
are not negative, and a sum is not below what it was formed of. Sums of whole numbers are exact as
long as they are at most `2 ^ 53`; up to there, so is what a whole number is rounded to.
-/

namespace DiagnosticFeed.Decimal

open Float.Model Float.Model.UnpackedFloat

/-- The number that a binary64 number stands for, unless it is infinite or no number. -/
def value? (x : Float) : Option ℚ :=
  match Parts.ofFloat x with
  | .finite negative m q => some (if negative then -scaled m q else scaled m q)
  | _ => none

section

variable {x y : Float} {s t : Sign} {m n : Nat} {e f : Int} {hm : 0 < m} {hn : 0 < n}

theorem value?_of_zero (h : x.toModel.unpack = .zero s) : value? x = some 0 := by
  have hzero : scaled 0 (-1074) = 0 := by rw [scaled, Nat.cast_zero, zero_mul]
  rw [value?, ofFloat_eq, h, partsOf]
  simp only [hzero, neg_zero, ite_self]

theorem value?_of_finite (h : x.toModel.unpack = .finite .positive m e hm) :
    value? x = some (scaled m e) := by
  rw [value?, ofFloat_eq, h]
  rfl

/-! ## Order -/

theorem le_iff : x ≤ y ↔ x.toModel.unpack.le y.toModel.unpack = true := by
  change decide (x.toModel.unpack.le y.toModel.unpack = true) = true ↔ _
  rw [decide_eq_true_iff]

/-- What is not negative is zero, above zero or infinite. -/
theorem zero_le_iff : 0 ≤ x ↔
    (∃ s, x.toModel.unpack = .zero s) ∨
      (∃ m e, ∃ h : 0 < m, x.toModel.unpack = .finite .positive m e h) ∨
      x.toModel.unpack = .infinity .positive := by
  have hzero : (0 : Float).toModel.unpack = .zero .positive := rfl
  rw [le_iff, hzero]
  cases hx : x.toModel.unpack with
  | notANumber => simp [UnpackedFloat.le, UnpackedFloat.compare]
  | zero s => simp [UnpackedFloat.le, UnpackedFloat.compare]
  | infinity s => cases s <;> simp [UnpackedFloat.le, UnpackedFloat.compare]
  | finite s m e h => cases s <;> simp [UnpackedFloat.le, UnpackedFloat.compare, h]

/-- A number whose value is a natural number is zero or above zero. -/
theorem cases_of_value? {a : Nat} (h : value? x = some (a : ℚ)) :
    (a = 0 ∧ ∃ s, x.toModel.unpack = .zero s) ∨
      0 < a ∧ ∃ m e, ∃ h : 0 < m, x.toModel.unpack = .finite .positive m e h ∧ scaled m e = a := by
  rw [value?, ofFloat_eq] at h
  cases hx : x.toModel.unpack with
  | notANumber => simp [hx, partsOf] at h
  | infinity s => simp [hx, partsOf] at h
  | zero s =>
    rw [← ofFloat_eq, ← value?, value?_of_zero hx, Option.some_inj] at h
    exact .inl ⟨Nat.cast_eq_zero.mp h.symm, s, rfl⟩
  | finite s m e hm =>
    have hpos := scaled_pos hm e
    rw [hx] at h
    cases s with
    | positive =>
      have hvalue : scaled m e = a := Option.some.inj h
      rw [hvalue, Nat.cast_pos] at hpos
      exact .inr ⟨hpos, m, e, hm, rfl, hvalue⟩
    | negative =>
      have hvalue : -scaled m e = a := Option.some.inj h
      have hnonneg : (0 : ℚ) ≤ a := Nat.cast_nonneg a
      linarith

theorem nonneg_of_value? {a : Nat} (h : value? x = some (a : ℚ)) : 0 ≤ x := by
  rcases cases_of_value? h with ⟨-, hx⟩ | ⟨-, m, e, hm, hx, -⟩
  · exact zero_le_iff.mpr (.inl hx)
  · exact zero_le_iff.mpr (.inr (.inl ⟨m, e, hm, hx⟩))

theorem lt_zero_iff {q : ℚ} (h : value? x = some q) : x < 0 ↔ q < 0 := by
  have hlt : x < 0 ↔ x.toModel.unpack.lt (.zero .positive) = true := by
    change decide (x.toModel.unpack.lt (.zero .positive) = true) = true ↔ _
    rw [decide_eq_true_iff]
  rw [value?, ofFloat_eq] at h
  rw [hlt]
  cases hx : x.toModel.unpack with
  | notANumber => simp [hx, partsOf] at h
  | infinity s => simp [hx, partsOf] at h
  | zero s =>
    rw [← ofFloat_eq, ← value?, value?_of_zero hx, Option.some_inj] at h
    simp [UnpackedFloat.lt, UnpackedFloat.compare, ← h]
  | finite s m e hm =>
    have hpos := scaled_pos hm e
    rw [hx] at h
    cases s with
    | positive =>
      have hvalue : scaled m e = q := Option.some.inj h
      simp only [UnpackedFloat.lt, UnpackedFloat.compare, ← hvalue, not_lt.mpr hpos.le]
      decide
    | negative =>
      have hvalue : -scaled m e = q := Option.some.inj h
      simp only [UnpackedFloat.lt, UnpackedFloat.compare, ← hvalue, neg_lt_zero, hpos]
      decide

theorem le_of_zero (hx : x.toModel.unpack = .zero s) (hy : 0 ≤ y) : x ≤ y := by
  rw [le_iff, hx]
  rcases zero_le_iff.mp hy with ⟨s, hy⟩ | ⟨m, e, hm, hy⟩ | hy <;> rw [hy] <;> rfl

theorem le_infinity (hx : 0 ≤ x) (hy : y.toModel.unpack = .infinity .positive) : x ≤ y := by
  rw [le_iff, hy]
  rcases zero_le_iff.mp hx with ⟨s, hx⟩ | ⟨m, e, hm, hx⟩ | hx <;> rw [hx] <;> rfl

theorem le_of_finite (hx : x.toModel.unpack = .finite .positive m e hm)
    (hy : y.toModel.unpack = .finite .positive n f hn) (h : e < f ∨ e = f ∧ m ≤ n) : x ≤ y := by
  rw [le_iff, hx, hy]
  rcases h with hlt | ⟨rfl, hle⟩
  · simp [UnpackedFloat.le, UnpackedFloat.compare, Int.compare_eq_lt.mpr hlt]
  · simpa [UnpackedFloat.le, UnpackedFloat.compare, Nat.isLE_compare] using hle

theorem le_self (hx : 0 ≤ x) : x ≤ x := by
  rcases zero_le_iff.mp hx with ⟨s, hx'⟩ | ⟨m, e, hm, hx'⟩ | hx'
  · exact le_of_zero hx' hx
  · exact le_of_finite hx' hx' (.inr ⟨rfl, le_rfl⟩)
  · exact le_infinity hx hx'

/-! ## Addition -/

theorem unpack_pack_of_fits {u : UnpackedFloat} (h : Fits u) :
    (Float.Model.pack u).unpack = u := by
  cases u with
  | notANumber => rfl
  | zero s => exact unpack_pack_zero
  | infinity s => exact unpack_pack_infinity
  | finite s m e hm => exact unpack_pack_of_le hm h.1 h.2

theorem unpack_add (x y : Float) : (x + y).toModel.unpack =
    (Float.Model.pack (UnpackedFloat.add .binary64 x.toModel.unpack y.toModel.unpack)).unpack :=
  rfl

theorem unpack_add_zero_zero (hx : x.toModel.unpack = .zero s) (hy : y.toModel.unpack = .zero t) :
    ∃ r, (x + y).toModel.unpack = .zero r := by
  rw [unpack_add, hx, hy]
  cases s <;> cases t <;> exact ⟨_, rfl⟩

theorem unpack_zero_add (hx : x.toModel.unpack = .zero s)
    (hy : y.toModel.unpack = .finite t n f hn) : (x + y).toModel.unpack = .finite t n f hn := by
  have hfits := fits_unpack y
  rw [unpack_add, hx, hy]
  rw [hy] at hfits
  exact unpack_pack_of_fits hfits

theorem unpack_add_zero (hx : x.toModel.unpack = .finite s m e hm)
    (hy : y.toModel.unpack = .zero t) : (x + y).toModel.unpack = .finite s m e hm := by
  have hfits := fits_unpack x
  rw [unpack_add, hx, hy]
  rw [hx] at hfits
  exact unpack_pack_of_fits hfits

theorem unpack_infinity_add (hx : x.toModel.unpack = .infinity .positive) (hy : 0 ≤ y) :
    (x + y).toModel.unpack = .infinity .positive := by
  rw [unpack_add, hx]
  rcases zero_le_iff.mp hy with ⟨s, hy⟩ | ⟨m, e, hm, hy⟩ | hy <;> rw [hy] <;>
    exact unpack_pack_infinity

theorem unpack_add_infinity (hx : 0 ≤ x) (hy : y.toModel.unpack = .infinity .positive) :
    (x + y).toModel.unpack = .infinity .positive := by
  rw [unpack_add, hy]
  rcases zero_le_iff.mp hx with ⟨s, hx⟩ | ⟨m, e, hm, hx⟩ | hx <;> rw [hx] <;>
    exact unpack_pack_infinity

theorem scaled_aligned (m : Nat) (h : f ≤ e) : scaled (m * 2 ^ (e - f).toNat) f = scaled m e := by
  have hexponents : ((e - f).toNat : Int) + f = e := by omega
  rw [scaled, scaled, Nat.cast_mul, Nat.cast_pow, Nat.cast_ofNat, mul_assoc, ← zpow_natCast,
    ← zpow_add₀ two_ne_zero, hexponents]

/-- Two numbers above zero are brought to one exponent, added up and rounded. -/
theorem unpack_add_finite (hx : x.toModel.unpack = .finite .positive m e hm)
    (hy : y.toModel.unpack = .finite .positive n f hn) :
    ∃ k g m' e' h, scaled k g = scaled m e + scaled n f ∧ Rounded k g m' e' ∧
      (x + y).toModel.unpack = (Float.Model.pack (.finite .positive m' e' h)).unpack := by
  have hfits := fits_unpack x
  have hfits' := fits_unpack y
  rw [hx] at hfits
  rw [hy] at hfits'
  let k := m * 2 ^ (e - min e f).toNat + n * 2 ^ (f - min e f).toNat
  have hk : 0 < k := by positivity
  have hlow : -1074 ≤ min e f := le_min hfits.1.low hfits'.1.low
  obtain ⟨m', e', h, hround, hrounded⟩ := exists_rounded .positive hk hlow
  refine ⟨k, min e f, m', e', h, ?_, hrounded, ?_⟩
  · rw [← scaled_aligned m (min_le_left e f), ← scaled_aligned n (min_le_right e f)]
    simp only [scaled, k, Nat.cast_add, add_mul]
  · have hsum : UnpackedFloat.add .binary64 (.finite .positive m e hm) (.finite .positive n f hn) =
        UnpackedFloat.normalize .binary64 k (min e f) .positive := by
      simp only [UnpackedFloat.add, decreaseExponent, Sign.apply, Nat.shiftLeft_eq, k, Nat.cast_add]
    have hcompare : compare (k : Int) 0 = .gt := Int.compare_eq_gt.mpr (Int.natCast_pos.mpr hk)
    rw [unpack_add, hx, hy, hsum, UnpackedFloat.normalize, hcompare, Int.toNat_natCast, hround]

/-- A sum of numbers that are not negative is not below the first of them. -/
theorem le_add (hx : 0 ≤ x) (hy : 0 ≤ y) : 0 ≤ x + y ∧ x ≤ x + y := by
  rcases zero_le_iff.mp hx with ⟨s, hx'⟩ | ⟨m, e, hm, hx'⟩ | hx'
  · have hnonneg : 0 ≤ x + y := by
      rcases zero_le_iff.mp hy with ⟨t, hy'⟩ | ⟨n, f, hn, hy'⟩ | hy'
      · exact zero_le_iff.mpr (.inl (unpack_add_zero_zero hx' hy'))
      · exact zero_le_iff.mpr (.inr (.inl ⟨_, _, _, unpack_zero_add hx' hy'⟩))
      · exact zero_le_iff.mpr (.inr (.inr (unpack_add_infinity hx hy')))
    exact ⟨hnonneg, le_of_zero hx' hnonneg⟩
  · have hfits := fits_unpack x
    rw [hx'] at hfits
    rcases zero_le_iff.mp hy with ⟨t, hy'⟩ | ⟨n, f, hn, hy'⟩ | hy'
    · have hsum := unpack_add_zero hx' hy'
      exact ⟨zero_le_iff.mpr (.inr (.inl ⟨_, _, _, hsum⟩)),
        le_of_finite hx' hsum (.inr ⟨rfl, le_rfl⟩)⟩
    · obtain ⟨k, g, m', e', h, hvalue, hrounded, hsum⟩ := unpack_add_finite hx' hy'
      have hle := hrounded.le_of_le hfits.1 (by linarith [scaled_pos hn f])
      rcases le_or_gt e' 971 with hlow | hhigh
      · rw [unpack_pack_of_le h hrounded.reduced hlow] at hsum
        exact ⟨zero_le_iff.mpr (.inr (.inl ⟨_, _, _, hsum⟩)), le_of_finite hx' hsum hle⟩
      · rw [unpack_pack_of_lt h hhigh] at hsum
        exact ⟨zero_le_iff.mpr (.inr (.inr hsum)), le_infinity hx hsum⟩
    · have hsum := unpack_add_infinity hx hy'
      exact ⟨zero_le_iff.mpr (.inr (.inr hsum)), le_infinity hx hsum⟩
  · have hsum := unpack_infinity_add hx' hy
    exact ⟨zero_le_iff.mpr (.inr (.inr hsum)), le_infinity hx hsum⟩

/-- What is rounded from a whole number of at most `2 ^ 53` is that number. -/
theorem Rounded.exact {k : Nat} {g : Int} (h : Rounded k g m e) {a : Nat} (hpos : 0 < a)
    (ha : a ≤ 2 ^ 53) (heq : scaled k g = a) : e ≤ 971 ∧ scaled m e = a := by
  obtain ⟨n, f, hn, hf, hvalue⟩ := exists_reduced hpos ha
  obtain ⟨rfl, rfl⟩ := h.eq_of_eq hn (hvalue.trans heq.symm)
  exact ⟨hf, hvalue⟩

/-- Sums of whole numbers are exact up to `2 ^ 53`. -/
theorem value?_add {a b : Nat} (hx : value? x = some (a : ℚ)) (hy : value? y = some (b : ℚ))
    (hab : a + b ≤ 2 ^ 53) : value? (x + y) = some ((a + b : Nat) : ℚ) := by
  rcases cases_of_value? hx with ⟨rfl, s, hx⟩ | ⟨ha, m, e, hm, hx, hm'⟩ <;>
    rcases cases_of_value? hy with ⟨rfl, t, hy⟩ | ⟨hb, n, f, hn, hy, hn'⟩
  · obtain ⟨r, hsum⟩ := unpack_add_zero_zero hx hy
    rw [value?_of_zero hsum, Nat.zero_add, Nat.cast_zero]
  · rw [value?_of_finite (unpack_zero_add hx hy), hn', Nat.zero_add]
  · rw [value?_of_finite (unpack_add_zero hx hy), hm', Nat.add_zero]
  · obtain ⟨k, g, m', e', h, hscaled, hrounded, hsum⟩ := unpack_add_finite hx hy
    rw [hm', hn', ← Nat.cast_add] at hscaled
    obtain ⟨hlow, hexact⟩ := hrounded.exact (Nat.add_pos_left ha b) hab hscaled
    rw [unpack_pack_of_le h hrounded.reduced hlow] at hsum
    rw [value?_of_finite hsum, hexact]

end

/-! ## Whole numbers -/

section

variable {n : Nat}

theorem roundRatio_bounds (n d : Nat) : n / d ≤ roundRatio n d ∧ roundRatio n d ≤ n / d + 1 := by
  rw [roundRatio]
  have := Nat.mod_lt (n / d) two_pos
  split_ifs <;> omega

theorem roundRatio_of_dvd {n d : Nat} (hd : 0 < d) (h : d ∣ n) : roundRatio n d = n / d := by
  rw [roundRatio, Nat.mod_eq_zero_of_dvd h]
  exact if_pos hd

theorem unitExponent_one (hn : 0 < n) : unitExponent n 1 = target n 0 := by
  have hone : Nat.log2 1 = 0 := by decide
  have htarget : (n.log2 : Int) - Nat.log2 1 - 52 = target n 0 := by
    rw [target, hone]
    omega
  have hform := reduced_units hn (e := 0) (by decide)
  have hfull : 2 ^ 52 ≤ units n 0 := hform.full.resolve_right (by omega)
  rw [units, zero_sub, sub_zero] at hfull
  rw [unitExponent]
  simp only [htarget, one_mul, pow2, Nat.pow_eq]
  rw [if_neg (not_lt.mpr hfull)]
  exact max_eq_left hform.low

theorem unitsOf_one (n : Nat) : unitsOf n 1 (target n 0) =
    roundRatio (n * 2 ^ (0 - target n 0).toNat) (2 ^ (target n 0 - 0).toNat) := by
  rw [unitsOf, one_mul, zero_sub, sub_zero]
  rfl

/-- Whole numbers are rounded as sums are. -/
theorem unpack_ofRatio_one (hn : 0 < n) :
    ∃ m e h, Rounded n 0 m e ∧
      (ofRatio n 1).toModel.unpack = (Float.Model.pack (.finite .positive m e h)).unpack := by
  have hsignificand {m : Nat} {e : Int} (hm : Reduced m e) : (ofSignificand m e).toModel.unpack =
      (Float.Model.pack (.finite .positive m e hm.pos)).unpack := by
    rcases le_or_gt e 971 with hlow | hhigh
    · rw [unpack_ofSignificand hm hlow, unpack_pack_of_le hm.pos hm hlow]
    · rw [unpack_pack_of_lt hm.pos hhigh, ofSignificand, if_pos hhigh]
      rfl
  obtain ⟨hle, hge⟩ := roundRatio_bounds (n * 2 ^ (0 - target n 0).toNat)
    (2 ^ (target n 0 - 0).toNat)
  have hexact (h : scaled (units n 0) (target n 0) = scaled n 0) :
      unitsOf n 1 (target n 0) = units n 0 := by
    have hdvd : 2 ^ (target n 0 - 0).toNat ∣ n * 2 ^ (0 - target n 0).toNat :=
      ⟨units n 0, (shifted_of_exact h).trans (mul_comm _ _)⟩
    rw [unitsOf_one, roundRatio_of_dvd (by positivity) hdvd]
    rfl
  rw [← unitsOf_one] at hle hge
  obtain ⟨hfits, hover⟩ := Rounded.of_units hn (e := 0) (by decide) hle hexact
  have hlt := units_lt n 0
  rw [ofRatio, if_neg hn.ne', unitExponent_one hn]
  simp only [pow2, Nat.pow_eq]
  split_ifs with h
  · exact ⟨_, _, (hover h).reduced.pos, hover h, hsignificand (hover h).reduced⟩
  · have hlt : unitsOf n 1 (target n 0) < 2 ^ 53 := by
      have : unitsOf n 1 (target n 0) ≤ units n 0 + 1 := hge
      omega
    exact ⟨_, _, (hfits hlt).reduced.pos, hfits hlt, hsignificand (hfits hlt).reduced⟩

theorem isInf_ofRatio (hn : n < 2 ^ 1023) : (ofRatio n 1).isInf = false := by
  rcases Nat.eq_zero_or_pos n with rfl | hpos
  · rfl
  · obtain ⟨m, e, h, hrounded, hvalue⟩ := unpack_ofRatio_one hpos
    have hlog := (Nat.log2_lt hpos.ne').mpr hn
    have hle := hrounded.le_target
    rw [target] at hle
    rw [unpack_pack_of_le h hrounded.reduced (by omega)] at hvalue
    change (ofRatio n 1).toModel.unpack.isInf = false
    rw [hvalue]
    rfl

theorem zero_le_ofRatio (n : Nat) : 0 ≤ ofRatio n 1 := by
  rw [zero_le_iff]
  rcases Nat.eq_zero_or_pos n with rfl | hn
  · exact .inl ⟨.positive, rfl⟩
  · obtain ⟨m, e, h, hrounded, hvalue⟩ := unpack_ofRatio_one hn
    rcases le_or_gt e 971 with hlow | hhigh
    · rw [unpack_pack_of_le h hrounded.reduced hlow] at hvalue
      exact .inr (.inl ⟨m, e, h, hvalue⟩)
    · rw [unpack_pack_of_lt h hhigh] at hvalue
      exact .inr (.inr hvalue)

/-- Whole numbers are held exactly up to `2 ^ 53`. -/
theorem value?_ofRatio (hn : n ≤ 2 ^ 53) : value? (ofRatio n 1) = some (n : ℚ) := by
  rcases Nat.eq_zero_or_pos n with rfl | hpos
  · rw [Nat.cast_zero]
    exact value?_of_zero (s := .positive) rfl
  · obtain ⟨m, e, h, hrounded, hvalue⟩ := unpack_ofRatio_one hpos
    have hscaled : scaled n 0 = n := by rw [scaled, zpow_zero, mul_one]
    obtain ⟨hlow, hexact⟩ := hrounded.exact hpos hn hscaled
    rw [unpack_pack_of_le h hrounded.reduced hlow] at hvalue
    rw [value?_of_finite hvalue, hexact]

end

/-! ## Numbers that are held -/

/-- A binary64 number is not negative, and it is the given whole number unless that is too large. -/
structure Held (x : Float) (n : Nat) : Prop where
  nonneg : 0 ≤ x
  value : n ≤ 2 ^ 53 → value? x = some (n : ℚ)

theorem Held.zero : Held 0 0 :=
  ⟨zero_le_iff.mpr (.inl ⟨.positive, rfl⟩), fun _ ↦ value?_of_zero (s := .positive) rfl⟩

theorem Held.add {x y : Float} {a b : Nat} (hx : Held x a) (hy : Held y b) :
    Held (x + y) (a + b) where
  nonneg := (le_add hx.nonneg hy.nonneg).1
  value h := value?_add (hx.value (by omega)) (hy.value (by omega)) h

end DiagnosticFeed.Decimal
