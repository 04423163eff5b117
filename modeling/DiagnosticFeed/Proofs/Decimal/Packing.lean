import DiagnosticFeed.Decimal.Ratio
import DiagnosticFeed.Proofs.Decimal.Rounding
import Mathlib

/-!
# The bits of binary64 numbers

The 64 bits of a number are its sign, its exponent and its significand without the first bit. A
number of the form that rounding yields is packed into them and unpacked again without loss, unless
its exponent is too large, in which case it comes out infinite.

The laws of packed bits come with no smaller part of the library than the whole.
-/

namespace DiagnosticFeed.Decimal

open Float.Model Float.Model.UnpackedFloat

section

variable (s : Sign) (E : BitVec 11) (F : BitVec 52)

theorem toNat_packComponents :
    (packComponents .binary64 s E F).toNat =
      s.toBitVec.toNat * 2 ^ 63 + E.toNat * 2 ^ 52 + F.toNat := by
  rw [packComponents, BitVec.toNat_append, BitVec.toNat_append,
    ← Nat.shiftLeft_add_eq_or_of_lt F.isLt, ← Nat.shiftLeft_add_eq_or_of_lt E.isLt,
    Nat.shiftLeft_eq, Nat.shiftLeft_eq]
  ring

theorem exists_packComponents (b : BitVec 64) :
    ∃ s, ∃ E : BitVec 11, ∃ F : BitVec 52, b = packComponents .binary64 s E F :=
  ⟨_, _, _, (@packComponents_unpackSign_unpackExponent_unpackMantissa .binary64 b).symm⟩

theorem unpack_packComponents :
    UnpackedFloat.unpack .binary64 (packComponents .binary64 s E F) =
      if E.toNat = 2047 then if F.toNat = 0 then .infinity s else .notANumber
      else if E.toNat = 0 then
        if h : F.toNat = 0 then .zero s else .finite s F.toNat (-1074) (Nat.pos_of_ne_zero h)
      else .finite s (2 ^ 52 + F.toNat) (E.toNat - 1075) (by omega) := by
  have hlast : E = -1#_ ↔ E.toNat = 2047 := BitVec.toNat_inj.symm
  have hfirst : E = 0#_ ↔ E.toNat = 0 := BitVec.toNat_inj.symm
  have hnone : F = 0#_ ↔ F.toNat = 0 := BitVec.toNat_inj.symm
  have hfull : (1#1 ++ F).toNat = 2 ^ 52 + F.toNat := by
    rw [BitVec.toNat_append, ← Nat.shiftLeft_add_eq_or_of_lt F.isLt]
    rfl
  rw [UnpackedFloat.unpack]
  simp only [unpackExponent_packComponents, unpackMantissa_packComponents, hlast, hfirst, hnone,
    hfull, unpackSign_packComponents, Sign.ofBitVec_toBitVec]
  split_ifs with _ _ hzero hsmall
  · rfl
  · rfl
  · rfl
  · rw [hzero]
    rfl
  · rfl

end

/-- The numbers that 64 bits can hold. -/
def Fits : UnpackedFloat → Prop
  | .finite _ m e _ => Reduced m e ∧ e ≤ 971
  | _ => True

theorem fits_unpack (x : Float) : Fits x.toModel.unpack := by
  obtain ⟨s, E, F, hbits⟩ := exists_packComponents x.toModel.toBits.toBitVec
  have hE := E.isLt
  have hF := F.isLt
  rw [Float.Model.unpack, hbits, unpack_packComponents]
  split_ifs with hlast hnone hfirst hnone
  · trivial
  · trivial
  · trivial
  · exact ⟨⟨by omega, by omega, le_rfl, .inr rfl⟩, by omega⟩
  · exact ⟨⟨by omega, by omega, by omega, .inl (by omega)⟩, by omega⟩

/-- The parts that are read from the bits are those that sums are formed of. -/
def partsOf : UnpackedFloat → Parts
  | .notANumber => .nan
  | .infinity s => .infinite (s == .negative)
  | .zero s => .finite (s == .negative) 0 (-1074)
  | .finite s m e _ => .finite (s == .negative) m e

theorem ofFloat_eq (x : Float) : Parts.ofFloat x = partsOf x.toModel.unpack := by
  obtain ⟨s, E, F, hbits⟩ := exists_packComponents x.toModel.toBits.toBitVec
  have hE := E.isLt
  have hF := F.isLt
  have htoNat : x.toBits.toNat = s.toBitVec.toNat * 2 ^ 63 + E.toNat * 2 ^ 52 + F.toNat := by
    rw [← toNat_packComponents, ← hbits]
    rfl
  have hsign : s.toBitVec.toNat = if s == .negative then 1 else 0 := by cases s <;> rfl
  have hnegative : (x.toBits.toNat / 2 ^ 63 == 1) = (s == .negative) := by
    rw [htoNat, hsign]
    cases s == .negative <;> simp <;> omega
  have hexponent : x.toBits.toNat / 2 ^ 52 % 2 ^ 11 = E.toNat := by
    rw [htoNat, hsign]
    split <;> omega
  have hfraction : x.toBits.toNat % 2 ^ 52 = F.toNat := by
    rw [htoNat]
    omega
  rw [Float.Model.unpack, hbits, unpack_packComponents, Parts.ofFloat]
  simp only [pow2, Nat.pow_eq, hnegative, hexponent, hfraction, beq_iff_eq]
  split_ifs with hlast hnone hfirst hnone
  · rfl
  · rfl
  · rw [hnone]
    rfl
  · rfl
  · rfl

/-! ## Packing -/

section

variable {s : Sign} {m : Nat} {e : Int}

@[simp]
theorem unpack_pack (u : UnpackedFloat) :
    (Float.Model.pack u).unpack =
      UnpackedFloat.unpack .binary64 (UnpackedFloat.pack .binary64 u) :=
  rfl

theorem unpack_pack_zero : (Float.Model.pack (.zero s)).unpack = .zero s := by
  cases s <;> rfl

theorem unpack_pack_infinity : (Float.Model.pack (.infinity s)).unpack = .infinity s := by
  cases s <;> rfl

theorem pack_finite (hpos : 0 < m) :
    UnpackedFloat.pack .binary64 (.finite s m e hpos) =
      if 2 ^ 11 ≤ (e + 1075).toNat + 1 then packedInfinity .binary64 s
      else if m.log2 = 52 then
        packComponents .binary64 s (BitVec.ofNat 11 (e + 1075).toNat) (BitVec.ofNat 52 m)
      else packComponents .binary64 s (0 : BitVec 11) (BitVec.ofNat 52 m) := by
  have hbias : (e + Format.binary64.exponentBias +
      Format.binary64.mantissaBitsWithoutImplicit).toNat = (e + 1075).toNat := by
    change (e + 1023 + 52).toNat = _
    omega
  have hbits : m.log2 + 1 = Format.binary64.mantissaBits ↔ m.log2 = 52 := by
    change m.log2 + 1 = 53 ↔ _
    omega
  rw [UnpackedFloat.pack]
  simp only [hbias, hbits]
  rfl

/-- A number whose exponent is too large comes out infinite. -/
theorem unpack_pack_of_lt (hpos : 0 < m) (he : 971 < e) :
    (Float.Model.pack (.finite s m e hpos)).unpack = .infinity s := by
  rw [unpack_pack, pack_finite, if_pos (by omega)]
  exact unpack_pack_infinity

/-- Any other number of the form is unpacked as it was packed. -/
theorem unpack_pack_of_le (hpos : 0 < m) (hm : Reduced m e) (he : e ≤ 971) :
    (Float.Model.pack (.finite s m e hpos)).unpack = .finite s m e hpos := by
  have hlow := hm.low
  have hlt := hm.lt
  rw [unpack_pack, pack_finite, if_neg (by omega)]
  split_ifs with hfull <;> rw [hm.log2_eq_iff] at hfull
  · rw [unpack_packComponents, BitVec.toNat_ofNat, if_neg (by omega), if_neg (by omega),
      UnpackedFloat.finite.injEq, BitVec.toNat_ofNat]
    exact ⟨rfl, by omega, by omega⟩
  · have hfirst := hm.full.resolve_left hfull
    have hfraction : (BitVec.ofNat 52 m).toNat = m := by
      rw [BitVec.toNat_ofNat]
      omega
    rw [unpack_packComponents, if_neg (by decide), if_pos (by decide), dif_neg (by omega),
      UnpackedFloat.finite.injEq]
    exact ⟨rfl, hfraction, hfirst.symm⟩

end

/-! ## Significands -/

/-- The bits of a number that is not negative, as a number of their own. -/
theorem toNat_pack {m : Nat} {e : Int} (hm : Reduced m e) (he : e ≤ 971) :
    (UnpackedFloat.pack .binary64 (.finite .positive m e hm.pos)).toNat =
      if m < 2 ^ 52 then m else (e + 1075).toNat * 2 ^ 52 + (m - 2 ^ 52) := by
  have hlow := hm.low
  have hlt := hm.lt
  have hsign : Sign.positive.toBitVec.toNat = 0 := rfl
  rw [pack_finite, if_neg (by omega), apply_ite BitVec.toNat, toNat_packComponents,
    toNat_packComponents, BitVec.toNat_ofNat, BitVec.toNat_ofNat, BitVec.ofNat_eq_ofNat,
    BitVec.toNat_ofNat, hsign]
  simp only [hm.log2_eq_iff]
  split_ifs <;> omega

theorem unpack_ofBits {u : UnpackedFloat} {k : Nat}
    (hk : (UnpackedFloat.pack .binary64 u).toNat = k) (hu : (Float.Model.pack u).unpack = u) :
    (Float.ofBits (UInt64.ofNat k)).toModel.unpack = u := by
  have hbits : (UInt64.ofNat k).toBitVec = UnpackedFloat.pack .binary64 u := by
    rw [← hk]
    exact BitVec.ofNat_toNat ..
  change (Float.Model.pack (UnpackedFloat.unpack .binary64 (UInt64.ofNat k).toBitVec)).unpack = _
  rw [hbits, ← unpack_pack, hu, hu]

theorem unpack_ofSignificand {m : Nat} {e : Int} (hm : Reduced m e) (he : e ≤ 971) :
    (ofSignificand m e).toModel.unpack = .finite .positive m e hm.pos := by
  have hbits := toNat_pack hm he
  have hround := unpack_pack_of_le (s := .positive) hm.pos hm he
  rw [ofSignificand, if_neg (not_lt.mpr he)]
  simp only [pow2, Nat.pow_eq]
  split_ifs at hbits ⊢
  · exact unpack_ofBits hbits hround
  · exact unpack_ofBits hbits hround

end DiagnosticFeed.Decimal
