import Mathlib.Tactic.FieldSimp
import Tabletop.Proofs.Decimal.Order
import Tabletop.Proofs.Decimal.Spelling

namespace Tabletop

namespace Decimal

open Float.Model Float.Model.UnpackedFloat

def Digits.value (d : Digits) : ℚ := d.digits * 10 ^ d.exponent

namespace Digits

lemma value_strip (d : Digits) : d.strip.value = d.value := by
  fun_induction strip d with
  | case1 d hd ih =>
    have hdigits : (d.digits : ℚ) = (d.digits / 10 : ℕ) * 10 := by
      exact_mod_cast (Nat.div_mul_cancel (Nat.dvd_of_mod_eq_zero hd.2)).symm
    rw [ih, value, value, hdigits, zpow_add₀ (by norm_num)]
    ring
  | case2 d hd => rfl

lemma digits_strip_le (d : Digits) : d.strip.digits ≤ d.digits := by
  fun_induction strip d with
  | case1 d hd ih => exact ih.trans (Nat.div_le_self _ _)
  | case2 d hd => exact le_refl _

lemma digits_pos {d : Digits} (h : 0 < d.value) : 0 < d.digits := by
  rw [value] at h
  exact_mod_cast pos_of_mul_pos_left h (by positivity)

end Digits

section Comparing

variable {a b : ℕ} {i j : ℤ}

lemma zpow_toNat (q : ℚ) (hq : q ≠ 0) (i : ℤ) : q ^ i.toNat = q ^ i * q ^ (-i).toNat := by
  rw [← zpow_natCast, ← zpow_natCast, ← zpow_add₀ hq]
  congr 1
  omega

lemma exists_scale (a b : ℕ) (i j : ℤ) : ∃ c : ℚ, 0 < c ∧
    ((a * Nat.pow 10 i.toNat * Nat.pow 2 (-j).toNat : ℕ) : ℚ) = c * (a * 10 ^ i) ∧
    ((b * Nat.pow 2 j.toNat * Nat.pow 10 (-i).toNat : ℕ) : ℚ) = c * (b * 2 ^ j) := by
  refine ⟨10 ^ (-i).toNat * 2 ^ (-j).toNat, by positivity, ?_, ?_⟩
  · push_cast [Nat.pow_eq]
    rw [zpow_toNat 10 (by norm_num) i]
    ring
  · push_cast [Nat.pow_eq]
    rw [zpow_toNat 2 (by norm_num) j]
    ring

lemma compareScaled_gt : compareScaled a i b j = .gt ↔ (b : ℚ) * 2 ^ j < a * 10 ^ i := by
  obtain ⟨c, hc, hleft, hright⟩ := exists_scale a b i j
  rw [compareScaled, Nat.compare_eq_gt, ← @Nat.cast_lt ℚ, hleft, hright,
    mul_lt_mul_iff_right₀ hc]

lemma compareScaled_lt : compareScaled a i b j = .lt ↔ (a : ℚ) * 10 ^ i < b * 2 ^ j := by
  obtain ⟨c, hc, hleft, hright⟩ := exists_scale a b i j
  rw [compareScaled, Nat.compare_eq_lt, ← @Nat.cast_lt ℚ, hleft, hright,
    mul_lt_mul_iff_right₀ hc]

lemma compareScaled_eq : compareScaled a i b j = .eq ↔ (a : ℚ) * 10 ^ i = b * 2 ^ j := by
  obtain ⟨c, hc, hleft, hright⟩ := exists_scale a b i j
  rw [compareScaled, Nat.compare_eq_eq, ← @Nat.cast_inj ℚ, hleft, hright,
    mul_right_inj' hc.ne']

end Comparing

namespace Binary

variable {x : Binary} {c : ℤ} {d : Digits} {tie : Tie}

def value (x : Binary) : ℚ := x.mantissa * 2 ^ x.exponent

/-- How far below a binary number the reals are rounded to it, in units of its last digit. -/
def margin (x : Binary) : ℚ := if x.narrow then 1 / 4 else 1 / 2

lemma margin_le (x : Binary) : x.margin ≤ 1 / 2 := by
  rw [margin]
  split <;> norm_num

lemma cast_low (hpos : 0 < x.mantissa) :
    ((if x.narrow then 4 * x.mantissa - 1 else 4 * x.mantissa - 2 : ℕ) : ℚ) =
      4 * (x.mantissa - x.margin) := by
  rw [margin]
  split
  · rw [Nat.cast_sub (by omega)]
    push_cast
    ring
  · rw [Nat.cast_sub (by omega)]
    push_cast
    ring

/-- The digits of a float, and whether it is a power of two with nearer neighbours below. -/
structure Proper (x : Binary) : Prop where
  pos : 0 < x.mantissa
  canonical : Canonical x.mantissa x.exponent
  narrow : x.narrow = true → x.mantissa = 2 ^ 52

lemma readsBack_iff (hpos : 0 < x.mantissa) : x.readsBack d = true ↔
    ((x.mantissa - x.margin) * 2 ^ x.exponent < d.value ∨
      x.mantissa % 2 = 0 ∧ d.value = (x.mantissa - x.margin) * 2 ^ x.exponent) ∧
    (d.value < (x.mantissa + 1 / 2) * 2 ^ x.exponent ∨
      x.mantissa % 2 = 0 ∧ d.value = (x.mantissa + 1 / 2) * 2 ^ x.exponent) := by
  have hquarter : (2 : ℚ) ^ (x.exponent - 2) = 2 ^ x.exponent / 4 := by
    rw [zpow_sub₀ (by norm_num)]
    norm_num
  have hlow : 4 * (x.mantissa - x.margin) * (2 ^ x.exponent / 4) =
      (x.mantissa - x.margin) * 2 ^ x.exponent := by ring
  have hhigh : ((4 * x.mantissa + 2 : ℕ) : ℚ) * (2 ^ x.exponent / 4) =
      (x.mantissa + 1 / 2) * 2 ^ x.exponent := by
    push_cast
    ring
  rw [readsBack]
  simp only [compareScaled_gt, compareScaled_lt, compareScaled_eq, hquarter, cast_low hpos, hlow,
    hhigh, decide_eq_true_eq]
  rfl

lemma Proper.pos_of_readsBack (hx : x.Proper) (h : x.readsBack d = true) : 0 < d.value := by
  obtain ⟨hlow, -⟩ := (readsBack_iff hx.pos).1 h
  have hle : (x.mantissa - x.margin) * 2 ^ x.exponent ≤ d.value :=
    hlow.elim le_of_lt fun h => h.2.ge
  have hmargin := x.margin_le
  have hone : (1 : ℚ) ≤ x.mantissa := by exact_mod_cast hx.pos
  exact (mul_pos (by linarith) (Rounds.two_zpow_pos _)).trans_le hle

lemma Proper.le_of_readsBack (hx : x.Proper) (h : x.readsBack d = true) :
    d.value ≤ (x.mantissa + 1 / 2) * 2 ^ x.exponent :=
  ((readsBack_iff hx.pos).1 h).2.elim le_of_lt fun h => h.2.le

lemma Proper.readsBack_of_near (hx : x.Proper) (hlow : x.value - d.value < x.margin * 2 ^ x.exponent)
    (hhigh : d.value - x.value < x.margin * 2 ^ x.exponent) : x.readsBack d = true := by
  have hunit : (0 : ℚ) < 2 ^ x.exponent := Rounds.two_zpow_pos _
  have hmargin := mul_le_mul_of_nonneg_right x.margin_le hunit.le
  rw [value] at hlow hhigh
  refine (readsBack_iff hx.pos).2 ⟨.inl ?_, .inl ?_⟩
  · linarith
  · linarith

lemma quotient_pos (x : Binary) : 0 < x.quotient.2 := Nat.two_pow_pos _

lemma value_eq (x : Binary) : x.value = x.quotient.1 / x.quotient.2 := by
  have hpos : (0 : ℚ) < x.quotient.2 := by exact_mod_cast x.quotient_pos
  rw [value, eq_div_iff hpos.ne', quotient]
  push_cast [Nat.pow_eq]
  rw [zpow_toNat 2 (by norm_num) x.exponent]
  ring

lemma below_bounds (x : Binary) (c : ℤ) :
    (x.below c : ℚ) * 10 ^ c ≤ x.value ∧ x.value < (x.below c + 1) * 10 ^ c := by
  have hten : (0 : ℚ) < 10 ^ c := by positivity
  have hpos := x.quotient_pos
  have hden : 0 < x.quotient.2 * Nat.pow 10 c.toNat := Nat.mul_pos hpos (Nat.pow_pos (by decide))
  have hden' : (0 : ℚ) < (x.quotient.2 * Nat.pow 10 c.toNat : ℕ) := by exact_mod_cast hden
  have hgrid : x.value / 10 ^ c = (x.quotient.1 * Nat.pow 10 (-c).toNat : ℕ) /
      (x.quotient.2 * Nat.pow 10 c.toNat : ℕ) := by
    have hpos : (0 : ℚ) < x.quotient.2 := by exact_mod_cast hpos
    rw [value_eq, div_div, div_eq_div_iff (mul_pos hpos hten).ne' hden'.ne']
    push_cast [Nat.pow_eq]
    rw [zpow_toNat 10 (by norm_num) c]
    ring
  rw [← le_div_iff₀ hten, ← div_lt_iff₀ hten, hgrid, below]
  generalize x.quotient.1 * Nat.pow 10 (-c).toNat = a
  generalize x.quotient.2 * Nat.pow 10 c.toNat = b at hden hden'
  rw [le_div_iff₀ hden', div_lt_iff₀ hden']
  refine ⟨by exact_mod_cast Nat.div_mul_le_self a b, ?_⟩
  rw [mul_comm]
  exact_mod_cast Nat.lt_mul_div_succ a hden

lemma scale_bounds (hx : x.Proper) : 10 ^ x.scale ≤ 10 * x.value ∧ x.value < 10 ^ x.scale := by
  have hpos := x.quotient_pos
  have hnum : 0 < x.quotient.1 := Nat.mul_pos hx.pos (Nat.two_pow_pos _)
  rw [value_eq, scale]
  generalize x.quotient = q at hpos hnum
  obtain ⟨num, den⟩ := q
  simp only at hpos hnum ⊢
  have hden : (0 : ℚ) < den := by exact_mod_cast hpos
  rw [← mul_div_assoc, le_div_iff₀ hden, div_lt_iff₀ hden]
  split
  · rename_i hle
    obtain ⟨hlow, hhigh⟩ := width_div_bounds hpos hle
    rw [zpow_natCast]
    exact ⟨by exact_mod_cast hlow, by exact_mod_cast hhigh⟩
  · rename_i hlt
    obtain ⟨hlow, hhigh⟩ := width_div_bounds hnum (show num ≤ den - 1 by omega)
    generalize width ((den - 1) / num) = k at *
    have hten : (0 : ℚ) < 10 ^ k := by positivity
    rw [zpow_sub₀ (by norm_num), zpow_one, zpow_natCast, div_mul_eq_mul_div, div_le_iff₀ hten,
      lt_div_iff₀ hten, mul_assoc, mul_comm (num : ℚ)]
    constructor
    · have hle : den ≤ 10 ^ k * num := by omega
      exact mul_le_mul_of_nonneg_left (by exact_mod_cast hle) (by norm_num)
    · have hlt : 10 ^ k * num < 10 * den := by omega
      exact_mod_cast hlt

/-- Seventeen digits are so many that one of the two decimals around the number reads back. -/
lemma Proper.exists_onGrid? (hx : x.Proper) (tie : Tie) :
    ∃ d, x.onGrid? tie (x.scale - 17) = some d := by
  obtain ⟨hbelow, habove⟩ := x.below_bounds (x.scale - 17)
  obtain ⟨hscale, -⟩ := scale_bounds hx
  have hunit : (0 : ℚ) < 2 ^ x.exponent := Rounds.two_zpow_pos _
  have hmantissa : (x.mantissa : ℚ) < 2 * 10 ^ 16 * x.margin := by
    rw [margin]
    split
    · rename_i hnarrow
      rw [hx.narrow hnarrow]
      norm_num
    · have hfits : (x.mantissa : ℚ) < 2 ^ 53 := by exact_mod_cast hx.canonical.fits
      norm_num at hfits ⊢
      linarith
  have hgrid : (10 : ℚ) ^ (x.scale - 17) < 2 * (x.margin * 2 ^ x.exponent) := by
    have hvalue : x.value < 2 * 10 ^ 16 * x.margin * 2 ^ x.exponent :=
      mul_lt_mul_of_pos_right hmantissa hunit
    rw [zpow_sub₀ (by norm_num)]
    norm_num at hvalue ⊢
    linarith
  apply Binary.exists_onGrid?
  rcases le_total (x.value - x.below (x.scale - 17) * 10 ^ (x.scale - 17))
    (10 ^ (x.scale - 17) / 2) with hnear | hnear
  · refine .inl (hx.readsBack_of_near ?_ ?_) <;> simp only [Digits.value] <;> linarith
  · refine .inr (hx.readsBack_of_near ?_ ?_) <;> simp only [Digits.value] <;> push_cast <;> linarith

lemma Proper.below_lt (hx : x.Proper) {n : ℕ} (hn : n < 17) :
    x.below (x.scale - (n + 1 : ℕ)) < 10 ^ 17 := by
  obtain ⟨hbelow, -⟩ := x.below_bounds (x.scale - (n + 1 : ℕ))
  obtain ⟨-, hscale⟩ := scale_bounds hx
  have hten : (0 : ℚ) < 10 ^ (x.scale - (n + 1 : ℕ)) := by positivity
  have hlt : (x.below (x.scale - (n + 1 : ℕ)) : ℚ) < 10 ^ (n + 1) := by
    refine lt_of_mul_lt_mul_right (hbelow.trans_lt (hscale.trans_eq ?_)) hten.le
    rw [← zpow_natCast, ← zpow_add₀ (by norm_num)]
    congr 1
    omega
  have hlt : x.below (x.scale - (n + 1 : ℕ)) < 10 ^ (n + 1) := by exact_mod_cast hlt
  exact hlt.trans_le (Nat.pow_le_pow_right (by decide) hn)

lemma Proper.exists_shortest (hx : x.Proper) (tie : Tie) :
    ∃ d : Digits, d.digits ≤ 10 ^ 17 ∧ x.readsBack d = true ∧ x.shortest tie = d.strip := by
  obtain ⟨d, hd⟩ := hx.exists_onGrid? tie
  obtain ⟨n, hn, d, hd, hfound⟩ := exists_findSome?_range
    (f := fun n => x.onGrid? tie (x.scale - (n + 1 : ℕ))) (m := 16) (n := 17) (by decide) hd
  obtain ⟨_, hdigits, hback⟩ := of_onGrid? hd
  have hbelow := hx.below_lt (show n < 17 by omega)
  exact ⟨d, by omega, hback, by rw [shortest, hfound]; rfl⟩

lemma Proper.shortest_le (hx : x.Proper) (tie : Tie) : (x.shortest tie).digits ≤ 10 ^ 17 := by
  obtain ⟨d, hle, _, hd⟩ := hx.exists_shortest tie
  rw [hd]
  exact d.digits_strip_le.trans hle

lemma Proper.digits_pos (hx : x.Proper) (tie : Tie) : 0 < (x.shortest tie).digits := by
  obtain ⟨d, _, hback, hd⟩ := hx.exists_shortest tie
  apply Digits.digits_pos
  rw [hd, Digits.value_strip]
  exact hx.pos_of_readsBack hback

def top : ℚ := 17976931348623157 * 10 ^ 292

lemma mid_le_top : (2 ^ 54 - 3 : ℚ) * 2 ^ (970 : ℤ) ≤ top := by
  have hle : (2 ^ 54 - 3) * 2 ^ 970 ≤ 17976931348623157 * 10 ^ 292 := by decide +kernel
  have hcast : ((2 ^ 54 - 3 : ℕ) : ℚ) * 2 ^ 970 ≤ 17976931348623157 * 10 ^ 292 := by
    exact_mod_cast hle
  rw [top, show (970 : ℤ) = (970 : ℕ) from rfl, zpow_natCast]
  norm_num only at hcast ⊢
  exact hcast

lemma Proper.value_le_top (hx : x.Proper) (he : x.exponent ≤ 971) (tie : Tie) :
    (x.shortest tie).value ≤ top := by
  by_cases hmax : x.mantissa = 2 ^ 53 - 1 ∧ x.exponent = 971
  · have hnarrow : x.narrow = false := by
      have hpow := mt hx.narrow (by omega)
      simpa using hpow
    have hshortest : x.shortest tie = ⟨17976931348623157, 292⟩ := by
      obtain ⟨m, e, b⟩ := x
      obtain ⟨rfl, rfl⟩ := hmax
      obtain rfl : b = false := hnarrow
      cases tie <;> decide +kernel
    rw [hshortest]
    rfl
  · obtain ⟨d, _, hback, hd⟩ := hx.exists_shortest tie
    have hfits := hx.canonical.fits
    have hle := hx.le_of_readsBack hback
    have hmid : (x.mantissa + 1 / 2) * 2 ^ x.exponent ≤ (2 ^ 54 - 3 : ℚ) * 2 ^ (970 : ℤ) := by
      rcases he.lt_or_eq with hlt | heq
      · have hmantissa : (x.mantissa : ℚ) + 1 ≤ 2 ^ 53 := by exact_mod_cast hfits
        have hpow : (2 : ℚ) ^ x.exponent ≤ 2 ^ (970 : ℤ) :=
          zpow_le_zpow_right₀ (by norm_num) (by omega)
        exact mul_le_mul (by linarith) hpow (Rounds.two_zpow_pos _).le (by norm_num)
      · have hmantissa : x.mantissa + 2 ≤ 2 ^ 53 := by omega
        have hmantissa : (x.mantissa : ℚ) + 2 ≤ 2 ^ 53 := by exact_mod_cast hmantissa
        have hdouble : (2 : ℚ) ^ (971 : ℤ) = 2 * 2 ^ (970 : ℤ) := zpow_one_add₀ (by norm_num) 970
        rw [heq, hdouble, ← mul_assoc]
        exact mul_le_mul_of_nonneg_right (by linarith) (Rounds.two_zpow_pos _).le
    rw [hd, Digits.value_strip]
    exact hle.trans (hmid.trans mid_le_top)

end Binary

section Floats

variable {x y : Float} {s : Sign} {m : ℕ} {e : ℤ}

lemma narrow_ofBits (b : UInt64) (h : (Binary.ofBits b).narrow = true) :
    (Binary.ofBits b).mantissa = 2 ^ 52 := by
  rw [Binary.ofBits] at h ⊢
  split at h
  · cases h
  · rename_i hscale
    simp only [decide_eq_true_eq] at h
    rw [if_neg hscale]
    exact congrArg (2 ^ 52 + ·) h.1

lemma proper_ofBits {hm : 0 < m} (h : x.toModel.unpack = .finite s m e hm) :
    (Binary.ofBits x.toBits).Proper ∧ (Binary.ofBits x.toBits).exponent ≤ 971 := by
  have hunpack : UnpackedFloat.unpack Format.binary64 x.toBits.toBitVec = .finite s m e hm := h
  obtain ⟨hmantissa, hexponent, _⟩ := ofBits_of_unpack hunpack
  have hproper : Proper x.toModel.unpack := by
    refine proper_of_isFinite ?_
    change x.toModel.unpack.isFinite = true
    rw [h]
    rfl
  rw [h] at hproper
  cases hproper with
  | finite _ _ hcanonical hle =>
    refine ⟨⟨?_, ?_, narrow_ofBits _⟩, ?_⟩
    · rwa [hmantissa]
    · rwa [hmantissa, hexponent]
    · rwa [hexponent]

end Floats

end Decimal

end Tabletop
