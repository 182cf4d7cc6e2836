import Tabletop.Decimal.Shortest
import Tabletop.Proofs.Decimal.Finite

namespace Tabletop

namespace Decimal

open Float.Model Float.Model.UnpackedFloat

structure Full (m : ℕ) : Prop where
  low : 2 ^ 52 ≤ m
  high : m < 2 ^ 53

section Rounding

variable {m i : ℕ} {e : ℤ}

lemma Full.pos (h : Full m) : 0 < m := Nat.lt_of_lt_of_le (by decide) h.low

lemma Full.log2_eq (h : Full m) : m.log2 = 52 :=
  (Nat.log2_eq_iff (Nat.ne_of_gt h.pos)).2 ⟨h.low, h.high⟩

lemma Full.log2_mul_pow (h : Full m) : (m * 2 ^ i).log2 = 52 + i := by
  have hpow : 0 < 2 ^ i := Nat.two_pow_pos i
  rw [Nat.log2_eq_iff (Nat.ne_of_gt (Nat.mul_pos h.pos hpow)), Nat.add_right_comm,
    Nat.pow_add, Nat.pow_add]
  exact ⟨Nat.mul_le_mul_right _ h.low, Nat.mul_lt_mul_of_pos_right h.high hpow⟩

lemma Full.targetExponent (h : Full m) (he : -1074 ≤ e) :
    Format.binary64.targetExponent (totalExponent (m * 2 ^ i) (e - i)) = e := by
  have hbits : (Format.binary64.mantissaBits : ℤ) = 53 := rfl
  have hmin : Format.binary64.minExponent = -1074 := rfl
  rw [Format.targetExponent, totalExponent, hbits, hmin, h.log2_mul_pow]
  omega

lemma shiftRight_mul_pow (m i : ℕ) :
    (⟨m * 2 ^ i, false, false⟩ : ExtendedMantissa) >>> i = ⟨m, false, false⟩ := by
  induction i generalizing m with
  | zero =>
    rw [Nat.pow_zero, Nat.mul_one]
    rfl
  | succ i ih =>
    have hdouble : m * 2 ^ (i + 1) = m * 2 * 2 ^ i := by
      rw [Nat.pow_succ, Nat.mul_assoc, Nat.mul_comm 2]
    change ExtendedMantissa.shiftRightOne
      ((⟨m * 2 ^ (i + 1), false, false⟩ : ExtendedMantissa) >>> i) = _
    rw [hdouble, ih, ExtendedMantissa.shiftRightOne]
    simp

lemma Full.shift (h : Full m) (he : -1074 ≤ e) :
    shiftToTargetExponent Format.binary64 (m * 2 ^ i) (e - i) .exact = (⟨m, false, false⟩, e) := by
  have hamount : (e - (e - i)).toNat = i := by omega
  have hback : e - (i : ℤ) + i = e := by omega
  rw [shiftToTargetExponent, h.targetExponent he]
  simp only [shiftToExponent, hamount, ExtendedMantissa.ofMantissaAndAccuracy, shiftRight_mul_pow,
    hback]

lemma Full.shift_self (h : Full m) (he : -1074 ≤ e) :
    shiftToTargetExponent Format.binary64 m e .exact = (⟨m, false, false⟩, e) := by
  simpa using h.shift (i := 0) he

lemma Full.round (h : Full m) (he : -1074 ≤ e) (s : Sign) :
    roundWithAccuracy Format.binary64 s (m * 2 ^ i) (e - i) .exact = .finite s m e h.pos := by
  have hrounded : (⟨m, false, false⟩ : ExtendedMantissa).roundedMantissa = m := rfl
  rw [roundWithAccuracy, h.shift he]
  dsimp only
  rw [hrounded, h.shift_self he]
  exact dif_neg (Nat.ne_of_gt h.pos)

end Rounding

section Packing

variable {s : Sign} {m : ℕ} {e : ℤ}

lemma unpackSign_packComponents {spec : Format} {exponent : BitVec spec.exponentBits}
    {mantissa : BitVec spec.mantissaBitsWithoutImplicit} :
    unpackSign (packComponents spec s exponent mantissa) = s.toBitVec := by
  ext i hi
  obtain rfl : i = 0 := by omega
  delta unpackSign
  simp [packComponents, BitVec.getLsbD_append, BitVec.getElem_append]

lemma ofBitVec_toBitVec : Sign.ofBitVec s.toBitVec = s := by
  cases s <;> rfl

lemma Full.toNat_append (h : Full m) : (1#1 ++ BitVec.ofNat 52 m).toNat = m := by
  have hlow := h.low
  have hhigh := h.high
  rw [BitVec.toNat_append, ← Nat.shiftLeft_add_eq_or_of_lt (BitVec.isLt _), BitVec.toNat_ofNat,
    BitVec.toNat_ofNat, Nat.shiftLeft_eq]
  omega

lemma finite_congr {m' : ℕ} {e' : ℤ} {hm : 0 < m} {hm' : 0 < m'} (h : m = m') (h' : e = e') :
    UnpackedFloat.finite s m e hm = .finite s m' e' hm' := by
  subst h h'
  rfl

lemma Full.unpack_pack (h : Full m) (hlow : -1074 ≤ e) (hhigh : e ≤ 971) :
    (Float.Model.pack (.finite s m e h.pos)).unpack = .finite s m e h.pos := by
  have hbits : m.log2 + 1 = 53 := by rw [h.log2_eq]
  have hbiased : (BitVec.ofNat 11 (e + 1023 + 52).toNat).toNat = (e + 1023 + 52).toNat :=
    Nat.mod_eq_of_lt (by omega)
  have hmax : BitVec.ofNat 11 (e + 1023 + 52).toNat ≠ -1#11 := by
    rw [Ne, ← BitVec.toNat_inj, hbiased]
    change ¬ _ = 2047
    omega
  have hzero : BitVec.ofNat 11 (e + 1023 + 52).toNat ≠ 0#11 := by
    rw [Ne, ← BitVec.toNat_inj, hbiased]
    change ¬ _ = 0
    omega
  change UnpackedFloat.unpack Format.binary64 (UnpackedFloat.pack Format.binary64 _) = _
  rw [pack_finite, if_neg (by omega), if_pos hbits]
  have hfields := unpacks
    (packComponents Format.binary64 s (.ofNat 11 (e + 1023 + 52).toNat) (.ofNat 52 m))
  rw [unpackSign_packComponents, unpackExponent_packComponents, unpackMantissa_packComponents,
    ofBitVec_toBitVec] at hfields
  generalize UnpackedFloat.unpack Format.binary64 _ = u at hfields ⊢
  cases hfields with
  | infinity heq | notANumber heq => exact absurd heq hmax
  | zero heq | subnormal _ heq => exact absurd heq hzero
  | normal => exact finite_congr h.toNat_append (by omega)

lemma toNat_scale (b : UInt64) :
    ((b >>> 52) &&& 0x7FF).toNat = (@unpackExponent Format.binary64 b.toBitVec).toNat := by
  have hmask (n : ℕ) : n &&& 0x7FF = n % 2 ^ 11 := Nat.and_two_pow_sub_one_eq_mod n 11
  rw [unpackExponent, BitVec.toNat_cast, BitVec.extractLsb_toNat, UInt64.toNat_and,
    UInt64.toNat_shiftRight]
  exact hmask _

lemma toNat_fraction (b : UInt64) :
    (b &&& 0xFFFFFFFFFFFFF).toNat = (@unpackMantissa Format.binary64 b.toBitVec).toNat := by
  have hmask (n : ℕ) : n &&& 0xFFFFFFFFFFFFF = n % 2 ^ 52 := Nat.and_two_pow_sub_one_eq_mod n 52
  rw [unpackMantissa, BitVec.toNat_cast, BitVec.extractLsb_toNat, UInt64.toNat_and]
  exact hmask _

lemma shiftRight_eq_one {b : UInt64} :
    b >>> 63 = 1 ↔ Sign.ofBitVec (@unpackSign Format.binary64 b.toBitVec) = .negative := by
  have hsign : (b >>> 63).toNat = (@unpackSign Format.binary64 b.toBitVec).toNat := by
    have hlt := b.toNat_lt
    delta unpackSign
    rw [BitVec.toNat_cast, BitVec.extractLsb_toNat, UInt64.toNat_shiftRight]
    change b.toNat >>> 63 = b.toNat >>> 63 % 2 ^ 1
    rw [Nat.shiftRight_eq_div_pow]
    omega
  have hone : b >>> 63 = 1 ↔ (@unpackSign Format.binary64 b.toBitVec).toNat = 1 := by
    rw [← UInt64.toNat_inj, hsign]
    rfl
  rw [hone]
  rcases BitVec.eq_zero_or_eq_one (@unpackSign Format.binary64 b.toBitVec) with h | h <;>
    simp [h, Sign.ofBitVec]

lemma ofBits_of_unpack {b : UInt64} {hm : 0 < m}
    (h : UnpackedFloat.unpack Format.binary64 b.toBitVec = .finite s m e hm) :
    (Binary.ofBits b).mantissa = m ∧ (Binary.ofBits b).exponent = e ∧
      (b >>> 63 = 1 ↔ s = .negative) := by
  rw [shiftRight_eq_one, Binary.ofBits, toNat_scale, toNat_fraction]
  have hfields := unpacks b.toBitVec
  rw [h] at hfields
  cases hfields with
  | subnormal _ hzero =>
    rw [hzero]
    exact ⟨rfl, rfl, Iff.rfl⟩
  | normal _ _ hzero =>
    have hscale : (@unpackExponent Format.binary64 b.toBitVec).toNat ≠ 0 :=
      fun h => hzero (BitVec.eq_of_toNat_eq h)
    rw [if_neg hscale]
    refine ⟨?_, rfl, Iff.rfl⟩
    rw [BitVec.toNat_append, ← Nat.shiftLeft_add_eq_or_of_lt (BitVec.isLt _)]
    rfl

lemma mantissa_of_unpack_zero {b : UInt64}
    (h : UnpackedFloat.unpack Format.binary64 b.toBitVec = .zero s) :
    (Binary.ofBits b).mantissa = 0 := by
  rw [Binary.ofBits, toNat_scale, toNat_fraction]
  have hfields := unpacks b.toBitVec
  rw [h] at hfields
  cases hfields with
  | zero hscale hfraction =>
    rw [hscale, hfraction]
    rfl

end Packing

inductive Whole (s : Sign) (k : ℕ) : UnpackedFloat → Prop
  | mk {j : ℕ} (h : Full (k * 2 ^ j)) : j ≤ 52 → Whole s k (.finite s (k * 2 ^ j) (-j) h.pos)

section Conversions

variable {s : Sign} {k : ℕ} {u : UnpackedFloat}

lemma whole_round (hpos : 0 < k) (h : k < 2 ^ 53) :
    Whole s k (UnpackedFloat.round Format.binary64 s k 0) := by
  have hlog : k.log2 ≤ 52 := Nat.le_of_lt_succ ((Nat.log2_lt (Nat.ne_of_gt hpos)).2 h)
  obtain ⟨j, hj⟩ := Nat.exists_eq_add_of_le hlog
  have hfull : Full (k * 2 ^ j) := by
    constructor
    · rw [hj, Nat.pow_add]
      exact Nat.mul_le_mul_right _ (Nat.log2_self_le (Nat.ne_of_gt hpos))
    · have hexponent : 53 = k.log2 + 1 + j := by omega
      rw [hexponent, Nat.pow_add]
      exact Nat.mul_lt_mul_of_pos_right Nat.lt_log2_self (Nat.two_pow_pos j)
  have htarget : Format.binary64.targetExponent (totalExponent k 0) = -j := by
    have hbits : (Format.binary64.mantissaBits : ℤ) = 53 := rfl
    have hmin : Format.binary64.minExponent = -1074 := rfl
    rw [Format.targetExponent, totalExponent, hbits, hmin]
    omega
  have hamount : (0 - -(j : ℤ)).toNat = j := by omega
  have hexponent : (0 : ℤ) - j = -j - (0 : ℕ) := by omega
  rw [UnpackedFloat.round]
  simp only [htarget, decreaseExponent, hamount, Nat.shiftLeft_eq, hexponent]
  have hround := hfull.round (i := 0) (e := -j) (by omega) s
  rw [Nat.pow_zero, Nat.mul_one] at hround
  rw [hround]
  exact .mk hfull (by omega)

lemma Whole.unpack_pack (h : Whole s k u) : (Float.Model.pack u).unpack = u := by
  obtain ⟨hfull, hj⟩ := h
  exact hfull.unpack_pack (by omega) (by omega)

lemma Whole.mul_one (h : Whole s k u) :
    UnpackedFloat.mul Format.binary64 u (.finite .positive (2 ^ 52) (-52) (by decide)) = u := by
  obtain ⟨hfull, hj⟩ := h
  have hsign : s * Sign.positive = s := by cases s <;> rfl
  change roundWithAccuracy Format.binary64 (s * .positive) _ _ .exact = _
  rw [hsign]
  exact hfull.round (i := 52) (by omega) s

lemma unpack_one : Float.exactlyRepresentablePowersOfTen[0].toModel.unpack =
    .finite .positive (2 ^ 52) (-52) (by decide) := by
  rfl

lemma toFloat_eq (hpos : 0 < k) (h : k < 2 ^ 53) : k.toUInt64.toFloat =
    .ofModel (.pack (UnpackedFloat.round Format.binary64 .positive k 0)) := by
  have hword : k.toUInt64.toNat = k := Nat.mod_eq_of_lt (Nat.lt_trans h (by decide))
  change Float.ofModel (.pack
    (UnpackedFloat.normalize Format.binary64 k.toUInt64.toNat 0 .positive)) = _
  rw [hword, UnpackedFloat.normalize]
  split
  · rename_i hlt
    have hneg : (k : ℤ) < 0 := Int.compare_eq_lt.1 hlt
    omega
  · rename_i heq
    have hzero : (k : ℤ) = 0 := Int.compare_eq_eq.1 heq
    omega
  · rfl

lemma exists_ofNat (hpos : 0 < k) (h : k < 2 ^ 53) :
    ∃ u, Whole .positive k u ∧ Float.ofNat k = .ofModel (.pack u) := by
  have hround := whole_round (s := .positive) hpos h
  refine ⟨_, hround, ?_⟩
  change Float.ofScientific k false 0 = _
  rw [Float.ofScientific, dif_pos ⟨h, by decide⟩]
  simp only [toFloat_eq hpos h]
  change Float.ofModel (.pack (UnpackedFloat.mul Format.binary64
    (Float.Model.pack (UnpackedFloat.round Format.binary64 .positive k 0)).unpack
    Float.exactlyRepresentablePowersOfTen[0].toModel.unpack)) = _
  rw [hround.unpack_pack, unpack_one, hround.mul_one]

end Conversions

def IsWhole (s : Sign) (k : ℕ) (x : Float) : Prop :=
  ∃ u, Whole s k u ∧ x = .ofModel (.pack u)

namespace IsWhole

variable {s : Sign} {k : ℕ} {x : Float}

lemma unpack (h : IsWhole s k x) : Whole s k x.toModel.unpack := by
  obtain ⟨u, hu, rfl⟩ := h
  rwa [hu.unpack_pack]

lemma pos (h : IsWhole s k x) : 0 < k := by
  obtain ⟨_, ⟨hfull, _⟩, _⟩ := h
  exact Nat.pos_of_mul_pos_right hfull.pos

lemma lt (h : IsWhole s k x) : k < 2 ^ 53 := by
  obtain ⟨_, ⟨hfull, _⟩, _⟩ := h
  exact Nat.lt_of_le_of_lt (Nat.le_mul_of_pos_right k (Nat.two_pow_pos _)) hfull.high

lemma exists_finite (h : IsWhole s k x) : ∃ m e hm, x.toModel.unpack = .finite s m e hm := by
  have hunpack := h.unpack
  generalize x.toModel.unpack = u at hunpack
  obtain ⟨hfull, _⟩ := hunpack
  exact ⟨_, _, hfull.pos, rfl⟩

lemma isFinite (h : IsWhole s k x) : x.isFinite = true := by
  obtain ⟨m, e, hm, h⟩ := h.exists_finite
  change x.toModel.unpack.isFinite = true
  rw [h]
  rfl

lemma isNaN (h : IsWhole s k x) : x.isNaN = false := by
  obtain ⟨m, e, hm, h⟩ := h.exists_finite
  change x.toModel.unpack.isNaN = false
  rw [h]
  rfl

lemma isInf (h : IsWhole s k x) : x.isInf = false := by
  obtain ⟨m, e, hm, h⟩ := h.exists_finite
  change x.toModel.unpack.isInf = false
  rw [h]
  rfl

lemma unpack_zero : (0 : Float).toModel.unpack = .zero .positive := rfl

lemma beq_zero (h : IsWhole s k x) : (x == 0) = false := by
  obtain ⟨m, e, hm, h⟩ := h.exists_finite
  change UnpackedFloat.beq x.toModel.unpack (0 : Float).toModel.unpack = false
  rw [unpack_zero, h]
  cases s <;> rfl

lemma lt_zero (h : IsWhole s k x) : x < 0 ↔ s = .negative := by
  obtain ⟨m, e, hm, h⟩ := h.exists_finite
  change decide (UnpackedFloat.lt x.toModel.unpack (0 : Float).toModel.unpack = true) = true ↔ _
  rw [unpack_zero, h]
  cases s
  · exact iff_of_true rfl rfl
  · exact iff_of_false nofun nofun

lemma zero_lt (h : IsWhole s k x) : 0 < x ↔ s = .positive := by
  obtain ⟨m, e, hm, h⟩ := h.exists_finite
  change decide (UnpackedFloat.lt (0 : Float).toModel.unpack x.toModel.unpack = true) = true ↔ _
  rw [unpack_zero, h]
  cases s
  · exact iff_of_false nofun nofun
  · exact iff_of_true rfl rfl

lemma neg (h : IsWhole s k x) : IsWhole (-s) k (-x) := by
  obtain ⟨u, hu, rfl⟩ := h
  refine ⟨u.neg, ?_, ?_⟩
  · obtain ⟨hfull, hj⟩ := hu
    exact .mk hfull hj
  · change Float.ofModel (.pack (Float.Model.pack u).unpack.neg) = _
    rw [hu.unpack_pack]

lemma abs (h : IsWhole s k x) : IsWhole .positive k x.abs := by
  obtain ⟨u, hu, rfl⟩ := h
  refine ⟨u.abs, ?_, ?_⟩
  · obtain ⟨hfull, hj⟩ := hu
    exact .mk hfull hj
  · change Float.ofModel (.pack (Float.Model.pack u).unpack.abs) = _
    rw [hu.unpack_pack]

lemma negZero_add (h : IsWhole s k x) : -0.0 + x = x := by
  obtain ⟨u, hu, rfl⟩ := h
  have hzero : (-0.0 : Float).toModel.unpack = .zero .negative := rfl
  change Float.ofModel (.pack (UnpackedFloat.add Format.binary64 (-0.0 : Float).toModel.unpack
    (Float.Model.pack u).unpack)) = _
  rw [hzero, hu.unpack_pack]
  cases hu
  rfl

lemma bits (h : IsWhole s k x) : ∃ j : ℕ, (Binary.ofBits x.toBits).mantissa = k * 2 ^ j ∧
    (Binary.ofBits x.toBits).exponent = -j ∧ (x.toBits >>> 63 = 1 ↔ s = .negative) := by
  have hunpack : UnpackedFloat.unpack Format.binary64 x.toBits.toBitVec = x.toModel.unpack := rfl
  have hwhole := h.unpack
  generalize x.toModel.unpack = u at hwhole hunpack
  obtain ⟨hfull, _⟩ := hwhole
  exact ⟨_, ofBits_of_unpack hunpack⟩

lemma whole?_eq (h : IsWhole s k x) : whole? x = some (s.apply k) := by
  obtain ⟨j, hmantissa, hexponent, _⟩ := h.bits
  have hquotient : (Binary.ofBits x.toBits).quotient = (k * 2 ^ j, 2 ^ j) := by
    rw [Binary.quotient, hmantissa, hexponent]
    simp
  have hwhole : (Binary.ofBits x.toBits).whole? = some k := by
    rw [Binary.whole?, hquotient]
    simp only [Nat.mul_mod_left, if_pos, Nat.mul_div_cancel k (Nat.two_pow_pos j)]
  rw [Decimal.whole?, if_pos h.isFinite, hwhole]
  change some (if x < 0 then -(k : ℤ) else k) = _
  cases s with
  | negative =>
    rw [if_pos (h.lt_zero.2 rfl)]
    rfl
  | positive =>
    rw [if_neg fun hlt => nomatch h.lt_zero.1 hlt]
    rfl

end IsWhole

section Integers

def signOf (z : ℤ) : Sign := if z < 0 then .negative else .positive

variable {z : ℤ}

lemma apply_signOf : (signOf z).apply z.natAbs = z := by
  rw [signOf]
  split
  · change -(z.natAbs : ℤ) = z
    omega
  · change (z.natAbs : ℤ) = z
    omega

lemma isWhole_ofInt (hz : z ≠ 0) (h : z.natAbs < 2 ^ 53) :
    IsWhole (signOf z) z.natAbs (Float.ofInt z) := by
  cases z with
  | ofNat n =>
    have hpos : 0 < n := Nat.pos_of_ne_zero fun h => hz (h ▸ rfl)
    exact exists_ofNat hpos h
  | negSucc n =>
    rw [signOf, if_pos (Int.negSucc_lt_zero n)]
    exact IsWhole.neg (exists_ofNat n.succ_pos h)

lemma zero_lt_ofInt (hz : z ≠ 0) (h : z.natAbs < 2 ^ 53) : 0 < Float.ofInt z ↔ 0 < z := by
  rw [(isWhole_ofInt hz h).zero_lt, signOf]
  split
  · exact iff_of_false nofun (by omega)
  · exact iff_of_true rfl (by omega)

lemma whole?_ofInt (h : z.natAbs < 2 ^ 53) : whole? (Float.ofInt z) = some z := by
  by_cases hz : z = 0
  · rw [hz]
    decide +kernel
  · rw [(isWhole_ofInt hz h).whole?_eq, apply_signOf]

end Integers

end Decimal

end Tabletop
