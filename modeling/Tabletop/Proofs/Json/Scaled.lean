import Tabletop.Json.Token
import Tabletop.Proofs.Decimal.Scaling
import Tabletop.Proofs.Decimal.Shortest

namespace Tabletop

namespace Json

namespace Token

open Decimal (Canonical Rounded clamp clamp_le clamp_eq isFinite_mul isFinite_div)
open Decimal.Binary (top)
open Float.Model.UnpackedFloat (Sign)

variable {n k : ℕ}

lemma exists_powerOfTen (hk : k ≤ 2048) : ∃ u, Rounded .positive (10 ^ k) u ∧
    powerOfTen k = .ofModel (.pack u) := by
  obtain ⟨u, hu, heq⟩ := Decimal.exists_rounded_scientific (e := k) Nat.one_pos hk
  rw [Nat.cast_one, one_mul, zpow_natCast] at hu
  exact ⟨u, hu, heq⟩

lemma number_powerOfTen_le {j : ℕ} (hjk : j ≤ k) (hk : k ≤ 2048) :
    Decimal.number (powerOfTen j) ≤ Decimal.number (powerOfTen k) := by
  obtain ⟨u, hu, heq⟩ := exists_powerOfTen (hjk.trans hk)
  obtain ⟨v, hv, heq'⟩ := exists_powerOfTen hk
  rw [heq, heq', hu.ofModel.2, hv.ofModel.2]
  exact clamp_le (hu.value_le hv (pow_le_pow_right₀ (by norm_num) hjk))

lemma one_le_powerOfTen (hk : k ≤ 2048) : 1 ≤ Decimal.number (powerOfTen k) := by
  obtain ⟨u, hu, heq⟩ := exists_powerOfTen hk
  have hcanonical : Canonical (2 ^ 52) (-52) := ⟨by decide, by decide, .inr (le_refl _)⟩
  have hunit : ((2 ^ 52 : ℕ) : ℚ) * 2 ^ (-52 : ℤ) = 1 := by norm_num
  have hone := hcanonical.rounded (by decide) .positive
  rw [hunit] at hone
  have hle := hone.value_le hu (one_le_pow₀ (by norm_num))
  rw [Decimal.value_finite, hunit] at hle
  have hreach : 1 ≤ Decimal.reach := one_le_pow₀ (by norm_num)
  rw [heq, hu.ofModel.2]
  exact (clamp_eq (by linarith) hreach).ge.trans (clamp_le hle)

lemma isFinite_powerOfTen (hk : k ≤ 308) : (powerOfTen k).isFinite = true := by
  have hlast : (powerOfTen 308).isFinite = true := by decide +kernel
  have hle := number_powerOfTen_le hk (by decide)
  have hone := one_le_powerOfTen (k := k) (by omega)
  obtain ⟨u, hu, heq⟩ := exists_powerOfTen (k := k) (by omega)
  have hlt := (Decimal.proper_of_isFinite hlast).value_lt_reach hlast
  have hproper := hu.ofModel.1
  rw [← heq] at hproper
  exact hproper.isFinite_of_value (zero_le_one.trans hone) (hle.trans_lt hlt)

structure Moderate (x : Float) : Prop where
  finite : x.isFinite = true
  nonneg : 0 ≤ Decimal.number x

lemma moderate_ofNat (hn : n < UInt64.size) : Moderate (Float.ofNat n) :=
  ⟨Decimal.isFinite_ofNat hn, Decimal.number_ofNat_nonneg n⟩

lemma moderate_powerOfTen (hk : k ≤ 308) : Moderate (powerOfTen k) :=
  ⟨isFinite_powerOfTen hk, zero_le_one.trans (one_le_powerOfTen (by omega))⟩

lemma Moderate.div {x : Float} (h : Moderate x) (hk : k ≤ 308) : Moderate (x / powerOfTen k) := by
  obtain ⟨hfinite, hnonneg⟩ :=
    isFinite_div h.finite (isFinite_powerOfTen hk) h.nonneg (one_le_powerOfTen (by omega))
  exact ⟨hfinite, hnonneg⟩

lemma Moderate.divideFar {x : Float} (h : Moderate x) (turns : ℕ) :
    Moderate (divideFar x turns) := by
  induction turns generalizing x with
  | zero => exact h
  | succ turns ih =>
    rw [Token.divideFar]
    split
    · exact h
    · exact ih (h.div (le_refl _))

lemma finite_of_scaled? {e : ℤ} {x : Float} (hn : n < UInt64.size) (h : scaled? n e = some x) :
    x.isFinite = true := by
  rw [scaled?] at h
  split at h
  · split at h <;> cases h
    decide +kernel
  · split at h
    · rename_i hle _
      have hproper := Decimal.proper_mul (moderate_ofNat hn).finite
        (isFinite_powerOfTen (k := e.toNat) (by omega))
      simp only at h
      generalize Float.ofNat n * powerOfTen e.toNat = y at h hproper
      split at h <;> cases h
      rename_i hinf
      change ¬ x.toModel.unpack.isInf = true at hinf
      change x.toModel.unpack.isFinite = true
      generalize x.toModel.unpack = u at hproper hinf
      cases hproper with
      | infinity => exact absurd rfl hinf
      | zero | finite => rfl
    · cases h
      exact (((moderate_ofNat hn).divideFar _).div (by omega)).finite

lemma isFinite_table : ∀ j : Fin 17,
    (Float.ofNat (17976931348623157 / 10 ^ j.val) * powerOfTen (292 + j)).isFinite = true := by
  decide +kernel

lemma isFinite_last : (Float.ofNat (10 ^ 17) * powerOfTen 291).isFinite = true := by
  decide +kernel

lemma isFinite_mul_powerOfTen (hpos : 0 < n) (hn : n ≤ 10 ^ 17) (h : (n : ℚ) * 10 ^ k ≤ top) :
    k ≤ 308 ∧ (Float.ofNat n * powerOfTen k).isFinite = true := by
  have hmul {m j : ℕ} (hm : n ≤ m) (hm' : m < UInt64.size) (hj : k ≤ j) (hj' : j ≤ 308)
      (hfinite : (Float.ofNat m * powerOfTen j).isFinite = true) :
      (Float.ofNat n * powerOfTen k).isFinite = true := by
    have hleft := moderate_ofNat (hm.trans_lt hm')
    have hright := moderate_powerOfTen (hj.trans hj')
    exact isFinite_mul hleft.finite hright.finite (moderate_ofNat hm').finite
      (isFinite_powerOfTen hj') hleft.nonneg hright.nonneg (Decimal.number_ofNat_le hm)
      (number_powerOfTen_le hj (by omega)) hfinite
  rcases Nat.lt_or_ge k 292 with hlow | hhigh
  · have hk := Nat.le_of_lt_succ hlow
    exact ⟨hk.trans (by decide), hmul hn (by decide) hk (by decide) isFinite_last⟩
  · obtain ⟨j, rfl⟩ := Nat.exists_eq_add_of_le hhigh
    have htop : (n : ℚ) * 10 ^ j ≤ 17976931348623157 := by
      rw [top, pow_add, mul_comm ((10 : ℚ) ^ 292), ← mul_assoc] at h
      exact le_of_mul_le_mul_right h (by positivity)
    have htop : n * 10 ^ j ≤ 17976931348623157 := by exact_mod_cast htop
    have hj : j < 17 := by
      by_contra hge
      have hpow : 10 ^ 17 ≤ n * 10 ^ j :=
        (Nat.pow_le_pow_right (by decide) (not_lt.1 hge)).trans (Nat.le_mul_of_pos_left _ hpos)
      omega
    have hle : n ≤ 17976931348623157 / 10 ^ j :=
      (Nat.le_div_iff_mul_le (Nat.pow_pos (by decide))).2 htop
    have hsmall := Nat.div_le_self 17976931348623157 (10 ^ j)
    refine ⟨by omega, hmul hle ?_ (le_refl _) (by omega) (isFinite_table ⟨j, hj⟩)⟩
    exact hsmall.trans_lt (by decide)

lemma exists_scaled? {e : ℤ} (hpos : 0 < n) (hn : n ≤ 10 ^ 17) (h : (n : ℚ) * 10 ^ e ≤ top) :
    ∃ x, scaled? n e = some x := by
  rw [scaled?]
  rcases le_or_gt 0 e with he | he
  · obtain ⟨k, rfl⟩ := Int.eq_ofNat_of_zero_le he
    rw [zpow_natCast] at h
    obtain ⟨hk, hfinite⟩ := isFinite_mul_powerOfTen hpos hn h
    have hinf : (Float.ofNat n * powerOfTen k).isInf = false := by
      change (Float.ofNat n * powerOfTen k).toModel.unpack.isFinite = true at hfinite
      change (Float.ofNat n * powerOfTen k).toModel.unpack.isInf = false
      generalize (Float.ofNat n * powerOfTen k).toModel.unpack = u at hfinite
      cases u <;> first | rfl | cases hfinite
    rw [if_neg (by omega), if_pos he, Int.toNat_natCast]
    simp only [hinf]
    exact ⟨_, rfl⟩
  · rw [if_neg (by omega), if_neg (by omega)]
    exact ⟨_, rfl⟩

end Token

end Json

end Tabletop
