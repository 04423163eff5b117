import Mathlib.Algebra.Order.Field.Power
import Mathlib.Algebra.Order.Ring.Rat
import Mathlib.Tactic.Linarith
import Mathlib.Tactic.Positivity
import Mathlib.Tactic.Ring

/-!
# Rounding to binary64

A binary64 number other than zero is `m · 2 ^ e` in one way only if `m` has to fill its 53 bits, or
`e` to be as small as it can. Rounding brings a number into this form. Two things are said of it:
what has the form is left as it is, however it is given, and a number of this form that is not
above the one that is rounded is not above the outcome either.

Numbers of this form are compared by their exponents first and then by their significands, and
packing them into 64 bits loses nothing, unless they are too large, which makes them infinite.
-/

namespace DiagnosticFeed.Decimal

open Float.Model Float.Model.UnpackedFloat

/-- The form of a binary64 number: the significand fills its bits, or the exponent is as small as it
can be. -/
structure Reduced (m : Nat) (e : Int) : Prop where
  pos : 0 < m
  lt : m < 2 ^ 53
  low : -1074 ≤ e
  full : 2 ^ 52 ≤ m ∨ e = -1074

/-- The number `m · 2 ^ e`. -/
def scaled (m : Nat) (e : Int) : ℚ :=
  m * 2 ^ e

/-- The exponent that a number gets when it is rounded. -/
def target (m : Nat) (e : Int) : Int :=
  max (m.log2 + e - 52) (-1074)

/-! ## Sizes -/

section

variable {m m' : Nat} {e e' : Int}

theorem scaled_pos (hm : 0 < m) (e : Int) : 0 < scaled m e :=
  mul_pos (Nat.cast_pos.mpr hm) (by positivity)

theorem pow_le_scaled (hm : 0 < m) (e : Int) : (2 : ℚ) ^ (m.log2 + e) ≤ scaled m e := by
  rw [zpow_add₀ two_ne_zero, zpow_natCast, scaled]
  have hlog : ((2 ^ m.log2 : Nat) : ℚ) ≤ m := Nat.cast_le.mpr (Nat.log2_self_le hm.ne')
  push_cast at hlog
  exact mul_le_mul_of_nonneg_right hlog (by positivity)

theorem scaled_lt_pow (m : Nat) (e : Int) : scaled m e < (2 : ℚ) ^ (m.log2 + e + 1) := by
  have hlog : (m : ℚ) < ((2 ^ (m.log2 + 1) : Nat) : ℚ) := Nat.cast_lt.mpr Nat.lt_log2_self
  push_cast at hlog
  calc scaled m e < 2 ^ (m.log2 + 1) * 2 ^ e := mul_lt_mul_of_pos_right hlog (by positivity)
    _ = (2 : ℚ) ^ (m.log2 + e + 1) := by
      rw [← zpow_natCast, ← zpow_add₀ two_ne_zero]
      congr 1
      push_cast
      ring

theorem log2_add_le (hm : 0 < m) (h : scaled m e ≤ scaled m' e') :
    m.log2 + e ≤ m'.log2 + e' := by
  have hlt : (2 : ℚ) ^ (m.log2 + e) < (2 : ℚ) ^ (m'.log2 + e' + 1) :=
    (pow_le_scaled hm e).trans_lt (h.trans_lt (scaled_lt_pow m' e'))
  rw [zpow_lt_zpow_iff_right₀ one_lt_two] at hlt
  omega

theorem target_le_target (hm : 0 < m) (h : scaled m e ≤ scaled m' e') :
    target m e ≤ target m' e' := by
  have hlog := log2_add_le hm h
  rw [target, target]
  omega

theorem Reduced.log2_eq_iff (h : Reduced m e) : m.log2 = 52 ↔ 2 ^ 52 ≤ m := by
  have hlog := (Nat.log2_lt h.pos.ne').mpr h.lt
  rw [← Nat.le_log2 h.pos.ne']
  omega

theorem Reduced.target_eq (h : Reduced m e) : target m e = e := by
  have hlog : m.log2 < 53 := (Nat.log2_lt h.pos.ne').mpr h.lt
  have hlow := h.low
  rw [target]
  rcases h.full with hfull | rfl
  · have hfull := (Nat.le_log2 h.pos.ne').mpr hfull
    omega
  · omega

end

/-! ## Cutting to units

A number is cut to units of two to its target exponent; rounding takes the units that are whole or
one more, and no more if nothing was cut off. -/

section

variable (m : Nat) (e : Int)

/-- How many units there are, cut to whole ones. -/
def units : Nat :=
  m * 2 ^ (e - target m e).toNat / 2 ^ (target m e - e).toNat

variable {m e}

theorem scaled_eq_shifted (m : Nat) (e : Int) :
    scaled m e * 2 ^ (target m e - e).toNat =
      (m * 2 ^ (e - target m e).toNat : Nat) * 2 ^ target m e := by
  have hexponents : e + (target m e - e).toNat = (e - target m e).toNat + target m e := by omega
  rw [scaled, mul_assoc, ← zpow_natCast, ← zpow_add₀ two_ne_zero, hexponents,
    zpow_add₀ two_ne_zero, zpow_natCast]
  push_cast
  ring

theorem units_le (m : Nat) (e : Int) : scaled (units m e) (target m e) ≤ scaled m e := by
  have hcut : ((units m e * 2 ^ (target m e - e).toNat : Nat) : ℚ) ≤
      (m * 2 ^ (e - target m e).toNat : Nat) := Nat.cast_le.mpr (Nat.div_mul_le_self _ _)
  refine le_of_mul_le_mul_right ?_ (by positivity : (0 : ℚ) < 2 ^ (target m e - e).toNat)
  rw [scaled_eq_shifted]
  push_cast at hcut ⊢
  rw [scaled]
  nlinarith [zpow_pos (two_pos : (0 : ℚ) < 2) (target m e)]

theorem le_units {n : Nat} (h : scaled n (target m e) ≤ scaled m e) : n ≤ units m e := by
  rw [units, Nat.le_div_iff_mul_le (by positivity)]
  have hshifted : ((n * 2 ^ (target m e - e).toNat : Nat) : ℚ) * 2 ^ target m e ≤
      (m * 2 ^ (e - target m e).toNat : Nat) * 2 ^ target m e := by
    rw [← scaled_eq_shifted, Nat.cast_mul, mul_right_comm]
    push_cast
    exact mul_le_mul_of_nonneg_right h (by positivity)
  exact Nat.cast_le.mp (le_of_mul_le_mul_right hshifted (by positivity))

/-- If nothing is cut off, the shifts undo each other. -/
theorem shifted_of_exact (h : scaled (units m e) (target m e) = scaled m e) :
    m * 2 ^ (e - target m e).toNat = units m e * 2 ^ (target m e - e).toNat := by
  have hshifted : ((units m e * 2 ^ (target m e - e).toNat : Nat) : ℚ) * 2 ^ target m e =
      (m * 2 ^ (e - target m e).toNat : Nat) * 2 ^ target m e := by
    rw [← scaled_eq_shifted, ← h, scaled]
    push_cast
    ring
  exact Nat.cast_injective (mul_right_cancel₀ (by positivity) hshifted.symm)

theorem units_lt (m : Nat) (e : Int) : units m e < 2 ^ 53 := by
  have hlt : scaled (units m e) (target m e) < 2 ^ (53 + target m e) := by
    refine (units_le m e).trans_lt ((scaled_lt_pow m e).trans_le ?_)
    rw [zpow_le_zpow_iff_right₀ one_lt_two, target]
    omega
  rw [scaled, zpow_add₀ two_ne_zero] at hlt
  exact_mod_cast lt_of_mul_lt_mul_right hlt (by positivity)

/-- The units of a number that is not too small are in the form. -/
theorem reduced_units (hm : 0 < m) (he : -1074 ≤ e) : Reduced (units m e) (target m e) := by
  have hlog := pow_le_scaled hm e
  have hlow : -1074 ≤ target m e := le_max_right _ _
  have hunits {k : Nat} (hk : (k : Int) + target m e ≤ m.log2 + e) : 2 ^ k ≤ units m e := by
    refine le_units (le_trans ?_ hlog)
    rw [scaled, Nat.cast_pow, Nat.cast_ofNat, ← zpow_natCast, ← zpow_add₀ two_ne_zero,
      zpow_le_zpow_iff_right₀ one_lt_two]
    exact hk
  refine ⟨?_, units_lt m e, hlow, ?_⟩
  · exact hunits (k := 0) (by rw [target]; omega)
  · rcases hlow.eq_or_lt with hlow | hlow
    · exact .inr hlow.symm
    · rw [target] at hlow
      exact .inl (hunits (by rw [target]; omega))

end

/-! ## Rounding -/

section

variable {m : Nat} {e : Int}

theorem mantissa_shiftRight (em : ExtendedMantissa) (k : Nat) :
    (em >>> k).mantissa = em.mantissa / 2 ^ k := by
  change (k.repeat ExtendedMantissa.shiftRightOne em).mantissa = _
  induction k with
  | zero => exact (Nat.div_one _).symm
  | succ k ih =>
    rw [Nat.repeat, ExtendedMantissa.shiftRightOne, ih, Nat.div_div_eq_div_mul, ← Nat.pow_succ]

/-- Zeros are cut off without a trace. -/
theorem shiftRight_mul_pow (n k : Nat) :
    (⟨n * 2 ^ k, false, false⟩ : ExtendedMantissa) >>> k = ⟨n, false, false⟩ := by
  change k.repeat ExtendedMantissa.shiftRightOne _ = _
  induction k generalizing n with
  | zero => rw [Nat.pow_zero, Nat.mul_one]; rfl
  | succ k ih =>
    rw [Nat.pow_succ', ← Nat.mul_assoc, Nat.repeat, ih, ExtendedMantissa.shiftRightOne]
    simp

theorem roundedMantissa_bounds (em : ExtendedMantissa) :
    em.mantissa ≤ em.roundedMantissa ∧ em.roundedMantissa ≤ em.mantissa + 1 := by
  obtain ⟨m, round, sticky⟩ := em
  cases round <;> cases sticky <;>
    simp only [ExtendedMantissa.roundedMantissa, ExtendedMantissa.accuracy,
      Accuracy.roundToNearestEven] <;> omega

theorem targetExponent_eq (m : Nat) (e : Int) :
    Format.binary64.targetExponent (totalExponent m e) = target m e := by
  have hbits : Format.binary64.mantissaBits = 53 := rfl
  have hleast : Format.binary64.minExponent = -1074 := rfl
  rw [Format.targetExponent, totalExponent, target, hbits, hleast]
  omega

/-- The significand that comes of rounding, before it is made to fit. -/
def roundedUnits (m : Nat) (e : Int) : Nat :=
  ((⟨m * 2 ^ (e - target m e).toNat, false, false⟩ : ExtendedMantissa) >>>
    (target m e - e).toNat).roundedMantissa

theorem roundedUnits_bounds (m : Nat) (e : Int) :
    units m e ≤ roundedUnits m e ∧ roundedUnits m e ≤ units m e + 1 := by
  have hbounds := roundedMantissa_bounds ((⟨m * 2 ^ (e - target m e).toNat, false, false⟩ :
    ExtendedMantissa) >>> (target m e - e).toNat)
  rw [mantissa_shiftRight] at hbounds
  exact hbounds

theorem roundedUnits_of_exact (h : scaled (units m e) (target m e) = scaled m e) :
    roundedUnits m e = units m e := by
  rw [roundedUnits, shifted_of_exact h, shiftRight_mul_pow]
  rfl

/-- The first shift brings a number to its target exponent. -/
theorem shiftToTargetExponent_decreased (hm : 0 < m) (e : Int) :
    shiftToTargetExponent .binary64 (m * 2 ^ (e - target m e).toNat) (e - (e - target m e).toNat)
      .exact = ((⟨m * 2 ^ (e - target m e).toNat, false, false⟩ : ExtendedMantissa) >>>
        (target m e - e).toNat, target m e) := by
  have hscaled : scaled (m * 2 ^ (e - target m e).toNat) (e - (e - target m e).toNat) =
      scaled m e := by
    rw [scaled, scaled, Nat.cast_mul, Nat.cast_pow, Nat.cast_ofNat, mul_assoc, ← zpow_natCast,
      ← zpow_add₀ two_ne_zero, add_sub_cancel]
  have htarget : target (m * 2 ^ (e - target m e).toNat) (e - (e - target m e).toNat) =
      target m e :=
    le_antisymm (target_le_target (by positivity) hscaled.le) (target_le_target hm hscaled.ge)
  have hshift : (target m e - (e - (e - target m e).toNat)).toNat = (target m e - e).toNat := by
    omega
  rw [shiftToTargetExponent, targetExponent_eq, htarget, shiftToExponent, hshift]
  refine Prod.ext rfl ?_
  change e - (e - target m e).toNat + (target m e - e).toNat = target m e
  omega

theorem shiftToTargetExponent_of_lt {r : Nat} {t : Int} (hr : r < 2 ^ 53) (ht : -1074 ≤ t) :
    shiftToTargetExponent .binary64 r t .exact = (⟨r, false, false⟩, t) := by
  have hlog : r.log2 < 53 := by
    rcases Nat.eq_zero_or_pos r with rfl | hpos
    · decide
    · exact (Nat.log2_lt hpos.ne').mpr hr
  have hshift : (target r t - t).toNat = 0 := by
    rw [target]
    omega
  rw [shiftToTargetExponent, targetExponent_eq, shiftToExponent, hshift]
  exact Prod.ext rfl (add_zero t)

theorem shiftToTargetExponent_of_eq {t : Int} (ht : -1074 ≤ t) :
    shiftToTargetExponent .binary64 (2 ^ 53) t .exact = (⟨2 ^ 52, false, false⟩, t + 1) := by
  have hshift : (target (2 ^ 53) t - t).toNat = 1 := by
    rw [target, Nat.log2_two_pow]
    omega
  rw [shiftToTargetExponent, targetExponent_eq, shiftToExponent, hshift]
  rfl

/-- Rounding in two shifts, the outcomes of which are given. -/
theorem roundWithAccuracy_eq (s : Sign) {n : Nat} {f t t' : Int} {em em' : ExtendedMantissa}
    (hfirst : shiftToTargetExponent .binary64 n f .exact = (em, t))
    (hsecond : shiftToTargetExponent .binary64 em.roundedMantissa t .exact = (em', t')) :
    roundWithAccuracy .binary64 s n f .exact =
      if h : em'.mantissa = 0 then .zero s
      else .finite s em'.mantissa t' (Nat.pos_of_ne_zero h) := by
  unfold roundWithAccuracy
  rw [hfirst]
  dsimp only
  rw [hsecond]

/-- Rounding comes to the rounded units, or to the next exponent where these are too many. -/
theorem round_eq (s : Sign) (hm : 0 < m) (he : -1074 ≤ e) :
    (∃ h, roundedUnits m e < 2 ^ 53 ∧
      UnpackedFloat.round .binary64 s m e = .finite s (roundedUnits m e) (target m e) h) ∨
      roundedUnits m e = 2 ^ 53 ∧
        UnpackedFloat.round .binary64 s m e = .finite s (2 ^ 52) (target m e + 1) (by decide) := by
  have hform := reduced_units hm he
  obtain ⟨hle, hge⟩ := roundedUnits_bounds m e
  have hround : UnpackedFloat.round .binary64 s m e =
      roundWithAccuracy .binary64 s (m * 2 ^ (e - target m e).toNat)
        (e - (e - target m e).toNat) .exact := by
    rw [UnpackedFloat.round, targetExponent_eq, decreaseExponent, Nat.shiftLeft_eq]
  have hfirst := shiftToTargetExponent_decreased hm e
  by_cases hlt : roundedUnits m e < 2 ^ 53
  · have hpos : 0 < roundedUnits m e := hform.pos.trans_le hle
    have hsecond := shiftToTargetExponent_of_lt hlt hform.low
    refine .inl ⟨hpos, hlt, ?_⟩
    rw [hround, roundWithAccuracy_eq s hfirst hsecond, dif_neg hpos.ne']
  · have hunits := hform.lt
    have hlast : roundedUnits m e = 2 ^ 53 := by omega
    have hsecond := shiftToTargetExponent_of_eq hform.low
    rw [← hlast] at hsecond
    refine .inr ⟨hlast, ?_⟩
    rw [hround, roundWithAccuracy_eq s hfirst hsecond]
    rfl

theorem Reduced.le_units {n : Nat} {f : Int} (h : Reduced n f) (hle : scaled n f ≤ scaled m e) :
    f < target m e ∨ f = target m e ∧ n ≤ units m e := by
  have hexponent := target_le_target h.pos hle
  rw [h.target_eq] at hexponent
  rcases hexponent.lt_or_eq with hlt | rfl
  · exact .inl hlt
  · exact .inr ⟨rfl, Decimal.le_units hle⟩

/-- A number has the form in one way only, which is the way its units are counted. -/
theorem Reduced.eq_units {n : Nat} {f : Int} (h : Reduced n f) (heq : scaled n f = scaled m e) :
    f = target m e ∧ n = units m e := by
  have hexponent : f = target m e := by
    rw [← h.target_eq]
    refine le_antisymm (target_le_target h.pos heq.le) (target_le_target ?_ heq.ge)
    have hpos : 0 < scaled m e := heq ▸ scaled_pos h.pos _
    exact Nat.cast_pos.mp (pos_of_mul_pos_left hpos (by positivity))
  subst hexponent
  refine ⟨rfl, le_antisymm (Decimal.le_units heq.le) ?_⟩
  have hle := (units_le m e).trans heq.ge
  exact Nat.cast_le.mp (le_of_mul_le_mul_right hle (by positivity))

/-- What rounding keeps. -/
structure Rounded (m : Nat) (e : Int) (m' : Nat) (e' : Int) : Prop where
  reduced : Reduced m' e'
  le_target : e' ≤ target m e + 1
  le_of_le {n : Nat} {f : Int} : Reduced n f → scaled n f ≤ scaled m e → f < e' ∨ f = e' ∧ n ≤ m'
  eq_of_eq {n : Nat} {f : Int} : Reduced n f → scaled n f = scaled m e → f = e' ∧ n = m'

/-- The units or one more are what rounding keeps, if there is no more when nothing is cut off. -/
theorem Rounded.of_units (hm : 0 < m) (he : -1074 ≤ e) {r : Nat} (hle : units m e ≤ r)
    (hexact : scaled (units m e) (target m e) = scaled m e → r = units m e) :
    (r < 2 ^ 53 → Rounded m e r (target m e)) ∧
      (r = 2 ^ 53 → Rounded m e (2 ^ 52) (target m e + 1)) := by
  have hform := reduced_units hm he
  have hlow := hform.low
  have heq {n : Nat} {f : Int} (h : Reduced n f) (heq : scaled n f = scaled m e) :
      f = target m e ∧ n = r := by
    obtain ⟨rfl, rfl⟩ := h.eq_units heq
    exact ⟨rfl, (hexact heq).symm⟩
  constructor
  · intro hlt
    refine ⟨⟨hform.pos.trans_le hle, hlt, hlow, hform.full.imp_left (·.trans hle)⟩, by omega, ?_,
      heq⟩
    intro n f hn hbelow
    exact (hn.le_units hbelow).imp_right fun h ↦ ⟨h.1, h.2.trans hle⟩
  · intro hover
    refine ⟨⟨by decide, by decide, by omega, .inl le_rfl⟩, le_rfl, ?_, ?_⟩
    · intro n f hn hbelow
      have := hn.le_units hbelow
      omega
    · intro n f hn hsame
      obtain ⟨-, rfl⟩ := heq hn hsame
      exact absurd hover hn.lt.ne

theorem exists_rounded (s : Sign) (hm : 0 < m) (he : -1074 ≤ e) :
    ∃ m' e' h, UnpackedFloat.round .binary64 s m e = .finite s m' e' h ∧ Rounded m e m' e' := by
  obtain ⟨hfits, hover⟩ := Rounded.of_units hm he (roundedUnits_bounds m e).1 roundedUnits_of_exact
  rcases round_eq s hm he with ⟨hpos, hlt, hround⟩ | ⟨hlast, hround⟩
  · exact ⟨_, _, hpos, hround, hfits hlt⟩
  · exact ⟨_, _, by decide, hround, hover hlast⟩

/-- A whole number has the form up to the size at which the units become greater than one. -/
theorem exists_reduced {n : Nat} (hpos : 0 < n) (hn : n ≤ 2 ^ 53) :
    ∃ m e, Reduced m e ∧ e ≤ 971 ∧ scaled m e = n := by
  rcases hn.lt_or_eq with hlt | rfl
  · have hlog := (Nat.log2_lt hpos.ne').mpr hlt
    have hbits : 2 ^ 53 = 2 ^ (n.log2 + 1) * 2 ^ (52 - n.log2) := by
      rw [← pow_add]
      congr 1
      omega
    have hfull : 2 ^ 52 = 2 ^ n.log2 * 2 ^ (52 - n.log2) := by
      rw [← pow_add]
      congr 1
      omega
    refine ⟨n * 2 ^ (52 - n.log2), n.log2 - 52, ⟨by positivity, ?_, by omega, .inl ?_⟩, by omega,
      ?_⟩
    · rw [hbits]
      exact Nat.mul_lt_mul_of_pos_right Nat.lt_log2_self (by positivity)
    · rw [hfull]
      exact Nat.mul_le_mul_right _ (Nat.log2_self_le hpos.ne')
    · have hexponents : ((52 - n.log2 : Nat) : Int) + (n.log2 - 52) = 0 := by omega
      rw [scaled, Nat.cast_mul, Nat.cast_pow, Nat.cast_ofNat, mul_assoc, ← zpow_natCast,
        ← zpow_add₀ two_ne_zero, hexponents, zpow_zero, mul_one]
  · refine ⟨2 ^ 52, 1, ⟨by decide, by decide, by decide, .inl le_rfl⟩, by decide, ?_⟩
    norm_num [scaled]

end

end DiagnosticFeed.Decimal
