import Mathlib.Algebra.Order.Ring.Int

namespace Tabletop

namespace Decimal

open Float.Model Float.Model.UnpackedFloat

/-- Zero, or a finite number of so many binary digits at most and at most this exponent. -/
inductive Within (n : ℕ) (k : ℤ) : UnpackedFloat → Prop
  | zero (s : Sign) : Within n k (.zero s)
  | finite (s : Sign) {m : ℕ} {e : ℤ} (hm : 0 < m) : m < 2 ^ n → e ≤ k →
      Within n k (.finite s m e hm)

variable {n : ℕ} {k : ℤ}

lemma Within.isFinite {u : UnpackedFloat} (h : Within n k u) : u.isFinite = true := by
  cases h <;> rfl

lemma targetExponent_le {e : ℤ} {m : ℕ} (hm : m < 2 ^ n) :
    Format.binary64.targetExponent (totalExponent m e) ≤ max (n + e) (-1074) := by
  have hlog : m.log2 ≤ n := by
    by_cases hzero : m = 0
    · simp [hzero]
    · exact Nat.le_of_lt ((Nat.log2_lt hzero).2 hm)
  have hbits : (Format.binary64.mantissaBits : ℤ) = 53 := rfl
  have hmin : Format.binary64.minExponent = -1074 := rfl
  rw [Format.targetExponent, totalExponent, hbits, hmin]
  omega

lemma mantissa_shiftRight (em : ExtendedMantissa) (amount : ℕ) :
    (em >>> amount).mantissa ≤ em.mantissa := by
  induction amount with
  | zero => exact Nat.le_refl _
  | succ amount ih => exact Nat.le_trans (Nat.div_le_self _ 2) ih

lemma roundToNearestEven_le (m : ℕ) (a : Accuracy) : a.roundToNearestEven m ≤ m + 1 := by
  cases a with
  | exact => exact Nat.le_succ m
  | inexact o =>
    cases o <;> simp only [Accuracy.roundToNearestEven] <;> omega

lemma mantissa_ofMantissaAndAccuracy (m : ℕ) (a : Accuracy) :
    (ExtendedMantissa.ofMantissaAndAccuracy m a).mantissa = m := by
  cases a with
  | exact => rfl
  | inexact o => cases o <;> rfl

lemma mantissa_shiftToTarget (m : ℕ) (e : ℤ) (a : Accuracy) :
    (shiftToTargetExponent Format.binary64 m e a).1.mantissa ≤ m := by
  have h := mantissa_shiftRight (ExtendedMantissa.ofMantissaAndAccuracy m a)
    (Format.binary64.targetExponent (totalExponent m e) - e).toNat
  rwa [mantissa_ofMantissaAndAccuracy] at h

lemma exponent_shiftToTarget {m : ℕ} (hm : m < 2 ^ n) {e : ℤ} (he : e ≤ k) (hk : 0 ≤ k)
    (a : Accuracy) : (shiftToTargetExponent Format.binary64 m e a).2 ≤ k + n := by
  have htarget := targetExponent_le (e := e) hm
  change e + ((Format.binary64.targetExponent (totalExponent m e) - e).toNat : ℤ) ≤ k + n
  omega

lemma within_round {m : ℕ} (hm : m < 2 ^ n) {e : ℤ} (he : e ≤ k) (hk : 0 ≤ k) (s : Sign)
    (a : Accuracy) :
    Within (n + 1) (k + n + (n + 1)) (roundWithAccuracy Format.binary64 s m e a) := by
  have hfirst := mantissa_shiftToTarget m e a
  have hexponent := exponent_shiftToTarget hm he hk a
  rw [roundWithAccuracy]
  generalize shiftToTargetExponent Format.binary64 m e a = first at hfirst hexponent ⊢
  obtain ⟨em, e'⟩ := first
  have hrounded : em.roundedMantissa < 2 ^ (n + 1) := by
    have hround := roundToNearestEven_le em.mantissa em.accuracy
    have hpow : 2 ^ (n + 1) = 2 * 2 ^ n := Nat.pow_succ'
    change em.mantissa ≤ m at hfirst
    change em.accuracy.roundToNearestEven em.mantissa < _
    omega
  have hsecond := mantissa_shiftToTarget em.roundedMantissa e' .exact
  have hlast := exponent_shiftToTarget hrounded hexponent (by omega) .exact
  push_cast at hlast
  dsimp only
  by_cases hzero :
      (shiftToTargetExponent Format.binary64 em.roundedMantissa e' .exact).1.mantissa = 0
  · rw [dif_pos hzero]
    exact .zero s
  · rw [dif_neg hzero]
    exact .finite s _ (Nat.lt_of_le_of_lt hsecond hrounded) hlast

lemma pack_finite {s : Sign} {m : ℕ} {e : ℤ} {hm : 0 < m} :
    UnpackedFloat.pack Format.binary64 (.finite s m e hm) =
      if 2 ^ 11 ≤ (e + 1023 + 52).toNat + 1 then packedInfinity Format.binary64 s
      else if m.log2 + 1 = 53 then
        packComponents Format.binary64 s (.ofNat 11 (e + 1023 + 52).toNat) (.ofNat 52 m)
      else packComponents Format.binary64 s 0#11 (.ofNat 52 m) := rfl

lemma unpackExponent_pack {u : UnpackedFloat} (h : Within n k u) (hlow : -1075 ≤ k) (hk : k ≤ 971) :
    ((unpackExponent (UnpackedFloat.pack Format.binary64 u)).toNat : ℤ) ≤ k + 1075 := by
  cases h with
  | zero s =>
    change ((unpackExponent (packComponents Format.binary64 s 0#11 0#52)).toNat : ℤ) ≤ k + 1075
    rw [unpackExponent_packComponents]
    change (0 : ℤ) ≤ k + 1075
    omega
  | @finite s m e hm _ he =>
    have hbiased : ((e + 1023 + 52).toNat : ℤ) ≤ k + 1075 := by omega
    rw [pack_finite, if_neg (by omega)]
    split
    · rw [unpackExponent_packComponents, BitVec.toNat_ofNat]
      exact Int.le_trans (Int.ofNat_le.2 (Nat.mod_le _ _)) hbiased
    · rw [unpackExponent_packComponents]
      change (0 : ℤ) ≤ k + 1075
      omega

/-- What the three fields of the bits unpack to. -/
inductive Unpacks (s : Sign) (scale : BitVec 11) (fraction : BitVec 52) : UnpackedFloat → Prop
  | infinity : scale = -1#11 → fraction = 0#52 → Unpacks s scale fraction (.infinity s)
  | notANumber : scale = -1#11 → fraction ≠ 0#52 → Unpacks s scale fraction .notANumber
  | zero : scale = 0#11 → fraction = 0#52 → Unpacks s scale fraction (.zero s)
  | subnormal (hm : 0 < fraction.toNat) : scale = 0#11 →
      Unpacks s scale fraction (.finite s fraction.toNat (-1074) hm)
  | normal (hm : 0 < (1#1 ++ fraction).toNat) : scale ≠ -1#11 → scale ≠ 0#11 →
      Unpacks s scale fraction (.finite s (1#1 ++ fraction).toNat (scale.toNat - 1075) hm)

lemma unpacks (b : BitVec 64) :
    Unpacks (.ofBitVec (@unpackSign Format.binary64 b)) (@unpackExponent Format.binary64 b)
      (@unpackMantissa Format.binary64 b) (UnpackedFloat.unpack Format.binary64 b) := by
  delta UnpackedFloat.unpack
  dsimp only
  by_cases hmax : @unpackExponent Format.binary64 b = -1#11
  · rw [if_pos hmax]
    by_cases hfraction : @unpackMantissa Format.binary64 b = 0#52
    · rw [if_pos hfraction]
      exact .infinity hmax hfraction
    · rw [if_neg hfraction]
      exact .notANumber hmax hfraction
  · rw [if_neg hmax]
    by_cases hzero : @unpackExponent Format.binary64 b = 0#11
    · rw [if_pos hzero]
      by_cases hfraction : @unpackMantissa Format.binary64 b = 0#52
      · rw [dif_pos hfraction]
        exact .zero hzero hfraction
      · rw [dif_neg hfraction, hzero]
        exact .subnormal _ rfl
    · rw [if_neg hzero]
      exact .normal _ hmax hzero

lemma within_unpack {b : BitVec 64}
    (h : ((@unpackExponent Format.binary64 b).toNat : ℤ) ≤ k + 1075) (hlow : -1074 ≤ k)
    (hk : k ≤ 971) : Within 53 k (UnpackedFloat.unpack Format.binary64 b) := by
  have hmax : @unpackExponent Format.binary64 b ≠ -1#11 := by
    intro heq
    rw [heq] at h
    change (2047 : ℤ) ≤ k + 1075 at h
    omega
  have hb := unpacks b
  generalize UnpackedFloat.unpack Format.binary64 b = u at hb ⊢
  cases hb with
  | infinity heq | notANumber heq => exact absurd heq hmax
  | zero => exact .zero _
  | subnormal hm =>
    exact .finite _ hm (Nat.lt_trans (BitVec.isLt _) (by decide)) hlow
  | normal hm => exact .finite _ hm (BitVec.isLt _) (by omega)

lemma Within.unpack_pack {u : UnpackedFloat} (h : Within n k u) (hlow : -1074 ≤ k) (hk : k ≤ 971) :
    Within 53 k (Float.Model.pack u).unpack :=
  within_unpack (unpackExponent_pack h (by omega) hk) hlow hk

lemma isFinite_ofModel {u : UnpackedFloat} (h : Within n k u) (hlow : -1074 ≤ k) (hk : k ≤ 971) :
    (Float.ofModel (Float.Model.pack u)).isFinite = true := (h.unpack_pack hlow hk).isFinite

lemma within_of_isFinite {x : Float} (h : x.isFinite = true) : Within 53 971 x.toModel.unpack := by
  refine within_unpack ?_ (by decide) (by decide)
  have hlt := (@unpackExponent Format.binary64 x.toModel.toBits.toBitVec).isLt
  have hne : (@unpackExponent Format.binary64 x.toModel.toBits.toBitVec).toNat ≠ 2047 := by
    intro heq
    have hmax : @unpackExponent Format.binary64 x.toModel.toBits.toBitVec = -1#11 :=
      BitVec.eq_of_toNat_eq heq
    have hb := unpacks x.toModel.toBits.toBitVec
    change (UnpackedFloat.unpack Format.binary64 x.toModel.toBits.toBitVec).isFinite = true at h
    generalize UnpackedFloat.unpack Format.binary64 x.toModel.toBits.toBitVec = u at hb h
    cases hb with
    | infinity | notANumber => cases h
    | zero hzero | subnormal _ hzero =>
      rw [hmax] at hzero
      cases hzero
    | normal _ hother => exact hother hmax
  change _ < 2048 at hlt
  omega

lemma Within.neg {u : UnpackedFloat} (h : Within n k u) : Within n k u.neg := by
  cases h with
  | zero s => exact .zero _
  | finite s hm hlt he => exact .finite _ hm hlt he

lemma isFinite_neg {x : Float} (h : x.isFinite = true) : (-x).isFinite = true :=
  isFinite_ofModel (within_of_isFinite h).neg (by decide) (by decide)

lemma within_mul {j : ℕ} {l : ℤ} {u v : UnpackedFloat} (hu : Within n k u) (hv : Within j l v)
    (hk : 0 ≤ k + l) :
    Within (n + j + 1) (k + l + (n + j) + (n + j + 1)) (UnpackedFloat.mul Format.binary64 u v) := by
  cases hu with
  | zero s => cases hv <;> exact .zero _
  | finite s hm hlt he =>
    cases hv with
    | zero => exact .zero _
    | finite t hm' hlt' he' =>
      have hround := within_round (Nat.pow_add .. ▸ Nat.mul_lt_mul'' hlt hlt')
        (Int.add_le_add he he') hk (s * t) .exact
      push_cast at hround
      exact hround

lemma within_roundWhole {m : ℕ} (hm : m < 2 ^ n) (s : Sign) :
    Within (n + 54) (2 * n + 107) (UnpackedFloat.round Format.binary64 s m 0) := by
  have hshift : (0 - Format.binary64.targetExponent (totalExponent m 0)).toNat ≤ 53 := by
    have htarget : (m.log2 + 1 + 0 : ℤ) - 53 ≤
        Format.binary64.targetExponent (totalExponent m 0) := Int.le_max_left ..
    omega
  rw [UnpackedFloat.round]
  simp only [decreaseExponent]
  generalize (0 - Format.binary64.targetExponent (totalExponent m 0)).toNat = amount at hshift ⊢
  have hmantissa : m <<< amount < 2 ^ (n + 53) := by
    rw [Nat.shiftLeft_eq, Nat.pow_add]
    exact Nat.mul_lt_mul_of_lt_of_le hm (Nat.pow_le_pow_right (by decide) hshift) (by decide)
  have hexponent : (0 : ℤ) - amount ≤ 0 := by omega
  have hbound : (0 : ℤ) + (n + 53 : ℕ) + ((n + 53 : ℕ) + 1) = 2 * n + 107 := by
    push_cast
    omega
  have hround := within_round hmantissa hexponent (Int.le_refl 0) s .exact
  rw [hbound] at hround
  exact hround

lemma within_ofUInt64 (n : UInt64) : Within 118 235 (UnpackedFloat.ofUInt64 Format.binary64 n) := by
  change Within _ _ (UnpackedFloat.normalize Format.binary64 n.toNat 0 .positive)
  rw [UnpackedFloat.normalize]
  split
  · rename_i h
    have hneg : (n.toNat : ℤ) < 0 := Int.compare_eq_lt.1 h
    omega
  · exact .zero _
  · exact within_roundWhole n.toNat_lt .positive

lemma within_one : Within 53 0 Float.exactlyRepresentablePowersOfTen[0].toModel.unpack :=
  within_unpack (by decide +kernel) (by decide) (by decide)

lemma isFinite_ofNat {n : ℕ} (h : n < 2 ^ 64) : (Float.ofNat n).isFinite = true := by
  change (Float.ofScientific n false 0).isFinite = true
  rw [Float.ofScientific]
  split
  · have hn := (within_ofUInt64 n.toUInt64).unpack_pack (by decide) (by decide)
    have hproduct := within_mul hn within_one (by omega)
    exact isFinite_ofModel hproduct (by omega) (by omega)
  · rename_i hlarge
    have hpos : 0 < n := by omega
    have hshifted : n <<< 53 < 2 ^ 117 := by
      rw [Nat.shiftLeft_eq]
      omega
    have hm : 0 < n <<< 53 := Nat.lt_of_lt_of_le hpos (Nat.le_shiftLeft ..)
    have hwhole : Within 117 0 (.finite .positive (n <<< 53) (-53) hm) :=
      .finite .positive hm hshifted (by decide)
    have hone : Within 1 0 (.finite .positive 1 0 Nat.one_pos) :=
      .finite .positive Nat.one_pos (by decide) (Int.le_refl 0)
    have heq : UnpackedFloat.ofScientific Format.binary64 n 0 = UnpackedFloat.mul Format.binary64
        (.finite .positive (n <<< 53) (-53) hm) (.finite .positive 1 0 Nat.one_pos) := by
      have hlow : ¬ (0 : ℤ) < -(2 ^ 11 + n.log2) := by omega
      rw [UnpackedFloat.ofScientific, dif_neg (by omega), if_neg (by decide), if_neg hlow,
        if_pos (Int.le_refl 0)]
      rfl
    have hproduct := within_mul hwhole hone (Int.le_refl 0)
    rw [← heq] at hproduct
    exact isFinite_ofModel hproduct (by omega) (by omega)

lemma isFinite_ofInt {n : ℤ} (h : n.natAbs < 2 ^ 64) : (Float.ofInt n).isFinite = true := by
  cases n with
  | ofNat n => exact isFinite_ofNat h
  | negSucc n => exact isFinite_neg (isFinite_ofNat h)

end Decimal

end Tabletop
