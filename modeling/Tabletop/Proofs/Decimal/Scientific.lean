import Mathlib.Algebra.Order.Field.Basic
import Tabletop.Proofs.Decimal.Order

namespace Tabletop

namespace Decimal

open Float.Model Float.Model.UnpackedFloat

section Arithmetic

variable {s t : Sign} {m n : ℕ} {e f : ℤ}

lemma rounded_mul (hm : 0 < m) (hn : 0 < n) (hmn : 2 ^ 52 ≤ m * n ∨ e + f ≤ -1074) :
    Rounded (s * t) (m * 2 ^ e * (n * 2 ^ f))
      (UnpackedFloat.mul Format.binary64 (.finite s m e hm) (.finite t n f hn)) := by
  have hlog : 52 ≤ (m * n).log2 ∨ e + f ≤ -1074 :=
    hmn.imp_left (Nat.le_log2 (Nat.ne_of_gt (Nat.mul_pos hm hn))).2
  have htarget := targetExponent_eq (m * n) (e + f)
  have hvalue : (m : ℚ) * 2 ^ e * (n * 2 ^ f) = (m * n : ℕ) * 2 ^ (e + f) := by
    rw [zpow_add₀ (by norm_num)]
    push_cast
    ring
  rw [hvalue]
  exact rounded_roundWithAccuracy (.exact _) (by omega) (s * t)

lemma stands_quotient (m : ℕ) (hn : 0 < n) :
    Stands (.ofMantissaAndAccuracy (m / n) (accuracyOfFraction (m % n) n)) (m / n) := by
  have hpos : (0 : ℚ) < n := by exact_mod_cast hn
  have hlt : m % n < n := Nat.mod_lt m hn
  have hvalue : (m : ℚ) / n = (m / n : ℕ) + (m % n : ℕ) / n := by
    rw [div_eq_iff hpos.ne', add_mul, div_mul_cancel₀ _ hpos.ne']
    exact_mod_cast (Nat.div_add_mod' m n).symm
  rw [hvalue]
  generalize m / n = q
  generalize m % n = rest at *
  have hnonneg : (0 : ℚ) ≤ rest / n := by positivity
  have hone : (rest : ℚ) / n < 1 := (div_lt_one hpos).2 (by exact_mod_cast hlt)
  rw [accuracyOfFraction]
  split
  · rename_i hrest
    rw [hrest, Nat.cast_zero, zero_div, add_zero]
    exact .exact q
  · rename_i hrest
    have hbehind : (0 : ℚ) < rest / n := by positivity
    rcases lt_trichotomy (2 * rest) n with h | h | h
    · have hhalf : (rest : ℚ) / n < 1 / 2 := by
        rw [div_lt_iff₀ hpos]
        have : (2 : ℚ) * rest < n := by exact_mod_cast h
        linarith
      rw [Nat.compare_eq_lt.2 h]
      constructor <;> simp only [ExtendedMantissa.ofMantissaAndAccuracy] <;> grind
    · have hhalf : (rest : ℚ) / n = 1 / 2 := by
        rw [div_eq_iff hpos.ne']
        have : (2 : ℚ) * rest = n := by exact_mod_cast h
        linarith
      rw [Nat.compare_eq_eq.2 h, hhalf]
      constructor <;> simp only [ExtendedMantissa.ofMantissaAndAccuracy] <;> grind
    · have hhalf : 1 / 2 < (rest : ℚ) / n := by
        rw [lt_div_iff₀ hpos]
        have : (n : ℚ) < 2 * rest := by exact_mod_cast h
        linarith
      rw [Nat.compare_eq_gt.2 h]
      constructor <;> simp only [ExtendedMantissa.ofMantissaAndAccuracy] <;> grind

lemma rounded_div (hm : 0 < m) (hn : 0 < n) : Rounded (s / t) (m * 2 ^ e / (n * 2 ^ f))
    (UnpackedFloat.div Format.binary64 (.finite s m e hm) (.finite t n f hn)) := by
  have hpos : (0 : ℚ) < n := by exact_mod_cast hn
  have hleast : (-1074 : ℤ) ≤ Format.binary64.targetExponent
      (totalExponent m e - totalExponent n f) := le_max_right _ _
  have hbits : Format.binary64.targetExponent (totalExponent m e - totalExponent n f) =
      max (m.log2 + e - (n.log2 + f) - 53) (-1074) := by
    have hbits : (Format.binary64.mantissaBits : ℤ) = 53 := rfl
    have hmin : Format.binary64.minExponent = -1074 := rfl
    rw [Format.targetExponent, totalExponent, totalExponent, hbits, hmin]
    omega
  delta UnpackedFloat.div divCore
  dsimp only
  generalize hg : min (e - f) (Format.binary64.targetExponent
    (totalExponent m e - totalExponent n f)) = g
  obtain ⟨k, hk⟩ := Int.le.dest (show g ≤ e - f by omega)
  have hamount : (e - f - g).toNat = k := by omega
  have hvalue : (m : ℚ) * 2 ^ e / (n * 2 ^ f) = (m <<< k : ℕ) / n * 2 ^ g := by
    have he : e = g + k + f := by omega
    rw [he, Nat.shiftLeft_eq, zpow_add₀ (by norm_num), zpow_add₀ (by norm_num), zpow_natCast]
    push_cast
    field_simp
  rw [hamount, hvalue]
  refine rounded_roundWithAccuracy (stands_quotient _ hn) ?_ _
  have htarget := targetExponent_eq (m <<< k / n) g
  by_cases hg' : g ≤ -1074
  · omega
  · -- the quotient has all of its digits
    have hlow : 2 ^ 52 ≤ m <<< k / n := by
      rw [Nat.le_div_iff_mul_le hn, Nat.shiftLeft_eq]
      calc 2 ^ 52 * n ≤ 2 ^ 52 * 2 ^ (n.log2 + 1) := Nat.mul_le_mul_left _ Nat.lt_log2_self.le
        _ = 2 ^ (52 + (n.log2 + 1)) := (Nat.pow_add ..).symm
        _ ≤ 2 ^ (m.log2 + k) := Nat.pow_le_pow_right (by decide) (by omega)
        _ = 2 ^ m.log2 * 2 ^ k := Nat.pow_add ..
        _ ≤ m * 2 ^ k := Nat.mul_le_mul_right _ (Nat.log2_self_le (Nat.ne_of_gt hm))
    have hlog : 52 ≤ (m <<< k / n).log2 := (Nat.le_log2 (by omega)).2 hlow
    omega

end Arithmetic

section Scientific

variable {m : ℕ}

lemma rounded_ofScientific (hm : 0 < m) {e : ℤ} (hlow : -2048 ≤ e) (hhigh : e ≤ 2048) :
    Rounded .positive (m * 10 ^ e) (UnpackedFloat.ofScientific Format.binary64 m e) := by
  have hbits : (2 ^ Format.binary64.exponentBits : ℤ) = 2048 := rfl
  rw [UnpackedFloat.ofScientific, dif_neg (Nat.ne_of_gt hm), hbits, if_neg (by omega),
    if_neg (by omega)]
  by_cases he : 0 ≤ e
  · rw [if_pos he]
    obtain ⟨n, rfl⟩ := Int.eq_ofNat_of_zero_le he
    have hvalue : (m : ℚ) * (10 : ℚ) ^ (n : ℤ) =
        (m <<< 53 : ℕ) * 2 ^ (-53 : ℤ) * ((10 ^ n : ℕ) * 2 ^ (0 : ℤ)) := by
      rw [Nat.shiftLeft_eq, zpow_natCast, zpow_neg, zpow_zero]
      push_cast
      field_simp
    rw [hvalue]
    refine rounded_mul (s := .positive) (t := .positive) _ _ (.inl ?_)
    rw [Nat.shiftLeft_eq]
    calc 2 ^ 52 ≤ 1 * 2 ^ 53 * 1 := by decide
      _ ≤ m * 2 ^ 53 * 10 ^ n :=
        Nat.mul_le_mul (Nat.mul_le_mul_right _ hm) (Nat.pow_pos (by decide))
  · rw [if_neg he]
    obtain ⟨n, rfl⟩ : ∃ n : ℕ, e = -n := ⟨e.natAbs, by omega⟩
    have hplaces : (-(-n : ℤ)).toNat = n := by omega
    have hvalue : (m : ℚ) * (10 : ℚ) ^ (-n : ℤ) =
        m * 2 ^ (0 : ℤ) / ((10 ^ (-(-n : ℤ)).toNat : ℕ) * 2 ^ (0 : ℤ)) := by
      rw [hplaces, zpow_neg, zpow_natCast, zpow_zero]
      push_cast
      field_simp
    rw [hvalue]
    exact rounded_div (s := .positive) (t := .positive) hm (Nat.pow_pos (by decide))

def isPowerOfTen (n : ℕ) : UnpackedFloat → Bool
  | .finite .positive k e _ =>
    2 ^ 52 ≤ k ∧ k < 2 ^ 53 ∧ -52 ≤ e ∧ k * 2 ^ (e + 52).toNat = 10 ^ n * 2 ^ 52
  | _ => false

lemma exists_of_isPowerOfTen {n : ℕ} {u : UnpackedFloat} (h : isPowerOfTen n u = true) :
    ∃ k e hk, u = .finite .positive k e hk ∧ 2 ^ 52 ≤ k ∧ (k : ℚ) * 2 ^ e = 10 ^ n := by
  cases u with
  | notANumber | infinity | zero => cases h
  | finite s k e hk =>
    cases s with
    | negative => cases h
    | positive =>
      obtain ⟨hlow, _, he, hvalue⟩ := of_decide_eq_true h
      refine ⟨k, e, hk, rfl, hlow, ?_⟩
      obtain ⟨j, hj⟩ := Int.eq_ofNat_of_zero_le (show 0 ≤ e + 52 by omega)
      obtain rfl : e = j - 52 := by omega
      have hvalue : (k : ℚ) * 2 ^ j = 10 ^ n * 2 ^ 52 := by
        rw [hj, Int.toNat_natCast] at hvalue
        exact_mod_cast hvalue
      rw [zpow_sub₀ (by norm_num), zpow_natCast, ← mul_div_assoc, hvalue]
      exact mul_div_cancel_right₀ _ (by norm_num)

lemma isPowerOfTen_table : ∀ i : Fin Float.exactlyRepresentablePowersOfTen.size,
    isPowerOfTen i Float.exactlyRepresentablePowersOfTen[i].toModel.unpack = true := by
  decide +kernel

lemma exists_powerOfTen {n : ℕ} (h : n < Float.exactlyRepresentablePowersOfTen.size) :
    ∃ k e hk, Float.exactlyRepresentablePowersOfTen[n].toModel.unpack = .finite .positive k e hk ∧
      2 ^ 52 ≤ k ∧ (k : ℚ) * 2 ^ e = 10 ^ n :=
  exists_of_isPowerOfTen (isPowerOfTen_table ⟨n, h⟩)

lemma exists_rounded_table (hpos : 0 < m) (hm : m < 2 ^ 53) {e : ℤ} (he : e.natAbs ≤ 22) :
    ∃ u, Rounded .positive (m * 10 ^ e) u ∧
      Float.ofScientific m (e < 0) e.natAbs = .ofModel (.pack u) := by
  have hround := whole_round (s := .positive) hpos hm
  obtain ⟨k, f, hk, hpower, hlow, hvalue⟩ := exists_powerOfTen (Nat.lt_succ_of_le he)
  rw [Float.ofScientific, dif_pos ⟨hm, he⟩]
  simp only [toFloat_eq hpos hm]
  have hunpack := hround.unpack_pack
  generalize UnpackedFloat.round Format.binary64 .positive m 0 = u at hround hunpack ⊢
  obtain ⟨hfull, hj⟩ := hround
  rename_i j
  have hm : (m : ℚ) = (m * 2 ^ j : ℕ) * 2 ^ (-j : ℤ) := by
    rw [zpow_neg, zpow_natCast]
    push_cast
    field_simp
  by_cases hneg : e < 0
  -- both operands are exact, so one multiplication or division rounds once
  · obtain ⟨n, hn, rfl⟩ : ∃ n : ℕ, e.natAbs = n ∧ e = -n := ⟨_, rfl, by omega⟩
    rw [if_pos (decide_eq_true hneg)]
    refine ⟨_, ?_, congrArg₂ (fun u v => Float.ofModel
      (.pack (UnpackedFloat.div Format.binary64 u v))) hunpack hpower⟩
    rw [zpow_neg, zpow_natCast, ← hn, ← hvalue, hm]
    exact rounded_div (s := .positive) (t := .positive) _ _
  · obtain ⟨n, hn, rfl⟩ : ∃ n : ℕ, e.natAbs = n ∧ e = n := ⟨_, rfl, by omega⟩
    rw [if_neg (decide_eq_true_iff.not.2 hneg)]
    refine ⟨_, ?_, congrArg₂ (fun u v => Float.ofModel
      (.pack (UnpackedFloat.mul Format.binary64 u v))) hunpack hpower⟩
    rw [zpow_natCast, ← hn, ← hvalue, hm]
    exact rounded_mul (s := .positive) (t := .positive) _ _
      (.inl (hlow.trans (Nat.le_mul_of_pos_left k hfull.pos)))

/-- `ofScientific` rounds a decimal to the nearest float. -/
theorem exists_rounded_scientific (hm : 0 < m) {e : ℤ} (he : e.natAbs ≤ 2048) :
    ∃ u, Rounded .positive (m * 10 ^ e) u ∧
      Float.ofScientific m (e < 0) e.natAbs = .ofModel (.pack u) := by
  by_cases h : m < 2 ^ 53 ∧ e.natAbs ≤ 22
  · exact exists_rounded_table hm h.1 h.2
  · have hexponent : (if decide (e < 0) = true then Int.negOfNat e.natAbs else Int.ofNat e.natAbs) =
        e := by
      split
      · rename_i hneg
        have hneg := of_decide_eq_true hneg
        rw [Int.negOfNat_eq]
        change -(e.natAbs : ℤ) = e
        omega
      · rename_i hnonneg
        have hnonneg := decide_eq_true_iff.not.1 hnonneg
        change (e.natAbs : ℤ) = e
        omega
    refine ⟨_, rounded_ofScientific hm (e := e) (by omega) (by omega), ?_⟩
    rw [Float.ofScientific, dif_neg h, hexponent]
    rfl

end Scientific

section Integers

variable {z w : ℤ}

lemma exists_rounded_ofNat {n : ℕ} (hn : 0 < n) :
    ∃ u, Rounded .positive n u ∧ Float.ofNat n = .ofModel (.pack u) := by
  obtain ⟨u, hu, h⟩ := exists_rounded_scientific (e := 0) hn (by decide)
  refine ⟨u, ?_, h⟩
  simpa using hu

lemma number_ofNat_nonneg (n : ℕ) : 0 ≤ number (Float.ofNat n) := by
  rcases n.eq_zero_or_pos with rfl | hn
  · exact le_refl _
  · obtain ⟨u, hu, heq⟩ := exists_rounded_ofNat hn
    rw [heq, hu.ofModel.2]
    obtain ⟨k, e, _, hvalue⟩ := hu.exists_value
    rw [hvalue]
    exact clamp_nonneg (by simp only [signed]; positivity)

lemma number_ofNat_le {m n : ℕ} (h : m ≤ n) : number (Float.ofNat m) ≤ number (Float.ofNat n) := by
  rcases m.eq_zero_or_pos with rfl | hm
  · exact number_ofNat_nonneg n
  · obtain ⟨u, hu, heq⟩ := exists_rounded_ofNat hm
    obtain ⟨u', hu', heq'⟩ := exists_rounded_ofNat (hm.trans_le h)
    rw [heq, heq', hu.ofModel.2, hu'.ofModel.2]
    exact clamp_le (hu.value_le hu' (by simpa [signed] using h))

end Integers

end Decimal

end Tabletop
