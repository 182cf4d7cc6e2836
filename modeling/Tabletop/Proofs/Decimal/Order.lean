import Tabletop.Proofs.Decimal.Rounding
import Tabletop.Proofs.Decimal.Whole

namespace Tabletop

namespace Decimal

open Float.Model Float.Model.UnpackedFloat

inductive Proper : UnpackedFloat → Prop
  | infinity (s : Sign) : Proper (.infinity s)
  | zero (s : Sign) : Proper (.zero s)
  | finite (s : Sign) {m : ℕ} {e : ℤ} (hm : 0 < m) : Canonical m e → e ≤ 971 →
      Proper (.finite s m e hm)

section Packing

variable {s : Sign} {m : ℕ} {e : ℤ} {v : ℚ} {u : UnpackedFloat}

lemma canonical_subnormal (hm : m < 2 ^ 52) : Canonical m (-1074) :=
  ⟨by omega, le_refl _, .inl rfl⟩

lemma canonical_normal {k : ℕ} (hm : m < 2 ^ 52) (hk : 0 < k) :
    Canonical (2 ^ 52 + m) (k - 1075) :=
  ⟨by omega, by omega, .inr (Nat.le_add_right _ _)⟩

lemma proper_unpack {x : Float} (h : x.isNaN = false) : Proper x.toModel.unpack := by
  change UnpackedFloat.isNaN (UnpackedFloat.unpack Format.binary64 x.toModel.toBits.toBitVec) =
    false at h
  change Proper (UnpackedFloat.unpack Format.binary64 x.toModel.toBits.toBitVec)
  generalize x.toModel.toBits.toBitVec = b at h
  have hmantissa := (@unpackMantissa Format.binary64 b).isLt
  have hexponent := (@unpackExponent Format.binary64 b).isLt
  have hfields := unpacks b
  generalize UnpackedFloat.unpack Format.binary64 b = u at h hfields ⊢
  cases hfields with
  | infinity => exact .infinity _
  | notANumber => cases h
  | zero => exact .zero _
  | subnormal => exact .finite _ _ (canonical_subnormal hmantissa) (by decide)
  | normal _ hmax hzero =>
    have hnonzero : (@unpackExponent Format.binary64 b).toNat ≠ 0 :=
      fun h => hzero (BitVec.eq_of_toNat_eq h)
    have hbelow : (@unpackExponent Format.binary64 b).toNat ≠ 2047 :=
      fun h => hmax (BitVec.eq_of_toNat_eq h)
    change _ < 2 ^ 52 at hmantissa
    change _ < 2048 at hexponent
    have happend : (1#1 ++ @unpackMantissa Format.binary64 b).toNat =
        2 ^ 52 + (@unpackMantissa Format.binary64 b).toNat := by
      rw [BitVec.toNat_append, ← Nat.shiftLeft_add_eq_or_of_lt (BitVec.isLt _)]
      rfl
    refine .finite _ _ ?_ (by omega)
    rw [happend]
    exact canonical_normal hmantissa (Nat.pos_of_ne_zero hnonzero)

lemma unpack_pack_infinity : (Float.Model.pack (.infinity s)).unpack = .infinity s := by
  cases s <;> rfl

lemma unpack_pack_zero : (Float.Model.pack (.zero s)).unpack = .zero s := by
  cases s <;> rfl

lemma unpack_pack_overflow (hm : 0 < m) (he : 971 < e) :
    (Float.Model.pack (.finite s m e hm)).unpack = .infinity s := by
  rw [← unpack_pack_infinity]
  change UnpackedFloat.unpack Format.binary64 (UnpackedFloat.pack Format.binary64 _) = _
  rw [pack_finite, if_pos (by omega)]
  rfl

lemma unpack_pack_subnormal (hm : 0 < m) (h : m < 2 ^ 52) :
    (Float.Model.pack (.finite s m (-1074) hm)).unpack = .finite s m (-1074) hm := by
  have hlog : m.log2 + 1 ≠ 53 := by
    have hlt : m.log2 < 52 := (Nat.log2_lt (Nat.ne_of_gt hm)).2 h
    omega
  have hmantissa : (BitVec.ofNat 52 m).toNat = m := Nat.mod_eq_of_lt h
  have hnonzero : BitVec.ofNat 52 m ≠ 0#52 := by
    rw [Ne, ← BitVec.toNat_inj, hmantissa]
    exact Nat.ne_of_gt hm
  change UnpackedFloat.unpack Format.binary64 (UnpackedFloat.pack Format.binary64 _) = _
  rw [pack_finite, if_neg (by decide), if_neg hlog]
  have hfields := unpacks (packComponents Format.binary64 s 0#11 (.ofNat 52 m))
  rw [unpackSign_packComponents, unpackExponent_packComponents, unpackMantissa_packComponents,
    ofBitVec_toBitVec] at hfields
  generalize UnpackedFloat.unpack Format.binary64 _ = u at hfields ⊢
  cases hfields with
  | infinity hmax | notANumber hmax => cases hmax
  | zero _ hzero => exact absurd hzero hnonzero
  | subnormal => exact finite_congr hmantissa rfl
  | normal _ _ hzero => exact absurd rfl hzero

lemma unpack_pack_finite (h : Canonical m e) (hm : 0 < m) (he : e ≤ 971) :
    (Float.Model.pack (.finite s m e hm)).unpack = .finite s m e hm := by
  rcases Nat.lt_or_ge m (2 ^ 52) with hlt | hge
  · have hfull := h.full
    obtain rfl : e = -1074 := by omega
    exact unpack_pack_subnormal hm hlt
  · exact Full.unpack_pack ⟨hge, h.fits⟩ h.least he

end Packing

lemma reach_pos : 0 < reach := by
  rw [reach]
  positivity

lemma reach_eq : reach = 2 ^ (1024 : ℤ) := by
  rw [reach, ← zpow_natCast]
  rfl

def clamp (q : ℚ) : ℚ := max (-reach) (min q reach)

lemma clamp_le {p q : ℚ} (h : p ≤ q) : clamp p ≤ clamp q := by
  unfold clamp
  exact max_le_max_left _ (min_le_min_right _ h)

lemma clamp_eq {q : ℚ} (hlow : -reach ≤ q) (hhigh : q ≤ reach) : clamp q = q := by
  rw [clamp, min_eq_left hhigh, max_eq_right hlow]

lemma clamp_nonneg {q : ℚ} (h : 0 ≤ q) : 0 ≤ clamp q :=
  le_max_of_le_right (le_min h reach_pos.le)

section Reach

variable {s : Sign} {m n : ℕ} {e f : ℤ} {v : ℚ} {u u' : UnpackedFloat}

lemma Canonical.lt_reach (h : Canonical m e) (he : e ≤ 971) : (m : ℚ) * 2 ^ e < reach := by
  rw [reach_eq]
  exact lt_of_lt_of_le h.rounds.fits (zpow_le_zpow_right₀ (by norm_num) (by omega))

lemma Canonical.reach_le (h : Canonical m e) (he : 971 < e) : reach ≤ m * 2 ^ e := by
  have hfull : (2 : ℚ) ^ (e + 52) ≤ m * 2 ^ e := by
    rcases h.rounds.full with hleast | hfull
    · omega
    · exact hfull
  rw [reach_eq]
  exact le_trans (zpow_le_zpow_right₀ (by norm_num) (by omega)) hfull

lemma Rounded.unpack_pack (h : Rounded s v u) :
    Proper (Float.Model.pack u).unpack ∧ value (Float.Model.pack u).unpack = clamp (value u) := by
  have hreach := reach_pos
  cases h with
  | zero =>
    rw [unpack_pack_zero]
    exact ⟨.zero s, (clamp_eq (neg_nonpos.2 hreach.le) hreach.le).symm⟩
  | finite hm h hcanonical heq =>
    rename_i k e m f
    have hnonneg : (0 : ℚ) ≤ m * 2 ^ f := by positivity
    rcases le_or_gt f 971 with hf | hf
    · have hlt := hcanonical.lt_reach hf
      rw [unpack_pack_finite hcanonical hm hf]
      refine ⟨.finite s hm hcanonical hf, (clamp_eq ?_ ?_).symm⟩ <;> rw [value_finite]
      · cases s <;> simp only [signed] <;> linarith
      · cases s <;> simp only [signed] <;> linarith
    · have hle := hcanonical.reach_le hf
      rw [unpack_pack_overflow hm hf]
      refine ⟨.infinity s, ?_⟩
      rw [clamp, value_infinity, value_finite]
      cases s with
      | negative =>
        simp only [signed]
        rw [min_eq_left (by linarith), max_eq_left (by linarith)]
      | positive =>
        simp only [signed]
        rw [min_eq_right hle, max_eq_right (by linarith)]

lemma Canonical.lt (h : Canonical m e) (h' : Canonical n f) (hef : e < f) :
    (m : ℚ) * 2 ^ e < n * 2 ^ f := by
  have hfull : (2 : ℚ) ^ (f + 52) ≤ n * 2 ^ f := by
    rcases h'.rounds.full with hleast | hfull
    · have := h.least
      omega
    · exact hfull
  have hpow : (2 : ℚ) ^ (e + 53) ≤ 2 ^ (f + 52) := zpow_le_zpow_right₀ (by norm_num) (by omega)
  exact lt_of_lt_of_le h.rounds.fits (hpow.trans hfull)

end Reach

section Arithmetic

variable {s t : Sign} {m n : ℕ} {e f : ℤ} {u u' : UnpackedFloat}

end Arithmetic

def number (x : Float) : ℚ := value x.toModel.unpack

section Floats

variable {x y : Float}

lemma proper_of_isFinite (h : x.isFinite = true) : Proper x.toModel.unpack := by
  apply proper_unpack
  change x.toModel.unpack.isFinite = true at h
  change x.toModel.unpack.isNaN = false
  generalize x.toModel.unpack = u at h
  cases u with
  | notANumber => cases h
  | infinity | zero | finite => rfl

lemma Rounded.ofModel {s : Sign} {v : ℚ} {u : UnpackedFloat} (h : Rounded s v u) :
    Proper (Float.ofModel (.pack u)).toModel.unpack ∧
      number (.ofModel (.pack u)) = clamp (value u) := h.unpack_pack

end Floats

end Decimal

end Tabletop
