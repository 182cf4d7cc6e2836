import Mathlib.Algebra.Order.Field.Power
import Mathlib.Tactic.FieldSimp
import Mathlib.Tactic.Linarith
import Mathlib.Tactic.Ring
import Tabletop.Proofs.Decimal.Finite

/-! Floats are rounded to the nearest number that there is room for, and to the even one of two that
are equally near; so a larger number is never rounded to a smaller one. -/

namespace Tabletop

namespace Decimal

open Float.Model Float.Model.UnpackedFloat

/-- The whole number that is nearest; of two that are equally near, the even one. -/
structure Nearest (r : ℚ) (k : ℕ) : Prop where
  low : (k : ℚ) ≤ r + 1 / 2
  high : r ≤ k + 1 / 2
  even : (k : ℚ) = r + 1 / 2 ∨ r = k + 1 / 2 → k % 2 = 0

/-- A mantissa with its two residual bits stands for a number. -/
structure Stands (em : ExtendedMantissa) (r : ℚ) : Prop where
  low : (em.mantissa : ℚ) ≤ r
  high : r < em.mantissa + 1
  round : em.roundBit = true ↔ (em.mantissa : ℚ) + 1 / 2 ≤ r
  sticky : em.stickyBit = true ↔ r ≠ em.mantissa ∧ r ≠ em.mantissa + 1 / 2

namespace Nearest

variable {r s : ℚ} {k l : ℕ}

lemma le (h : Nearest r k) (h' : Nearest s l) (hrs : r ≤ s) : k ≤ l := by
  by_contra hlt
  have hsucc : l + 1 ≤ k := by omega
  have hcast : (l : ℚ) + 1 ≤ k := by exact_mod_cast hsucc
  have hlow := h.low
  have hhigh := h'.high
  have hk : k = l + 1 := by
    have : (k : ℚ) ≤ l + 1 := by linarith
    have : k ≤ l + 1 := by exact_mod_cast this
    omega
  have hcast' : (k : ℚ) = l + 1 := by exact_mod_cast hk
  have hkeven := h.even (.inl (by linarith))
  have hleven := h'.even (.inr (by linarith))
  omega

lemma self (k : ℕ) : Nearest k k := ⟨by linarith, by linarith, by rintro (h | h) <;> linarith⟩

end Nearest

namespace Stands

variable {em : ExtendedMantissa} {r : ℚ}

lemma exact (m : ℕ) : Stands ⟨m, false, false⟩ m := by
  refine ⟨le_refl _, by simp, ?_, by simp⟩
  simp only [Bool.false_eq_true, false_iff, not_le]
  linarith

lemma shiftRightOne (h : Stands em r) : Stands em.shiftRightOne (r / 2) := by
  obtain ⟨m, round, sticky⟩ := em
  obtain ⟨hlow, hhigh, hround, hsticky⟩ := h
  simp only at hlow hhigh hround hsticky
  have hm : m = 2 * (m / 2) + m % 2 := by omega
  have hcast : (m : ℚ) = 2 * (m / 2 : ℕ) + (m % 2 : ℕ) := by exact_mod_cast hm
  have hbit : m % 2 = 0 ∨ m % 2 = 1 := Nat.mod_two_eq_zero_or_one m
  rw [ExtendedMantissa.shiftRightOne]
  generalize m / 2 = half at *
  rcases hbit with hbit | hbit
  · rw [hbit, Nat.cast_zero, add_zero] at hcast
    simp only [hbit]
    constructor
    · linarith
    · linarith
    · simp only [bne_self_eq_false, Bool.false_eq_true, false_iff, not_le]
      linarith
    · simp only [Bool.or_eq_true, hround, hsticky]
      grind
  · rw [hbit, Nat.cast_one] at hcast
    simp only [hbit]
    constructor
    · linarith
    · linarith
    · refine iff_of_true rfl ?_
      simp only
      linarith
    · simp only [Bool.or_eq_true, hround, hsticky]
      grind

lemma shiftRight (h : Stands em r) (n : ℕ) : Stands (em >>> n) (r / 2 ^ n) := by
  induction n with
  | zero =>
    rw [pow_zero, div_one]
    exact h
  | succ n ih =>
    rw [pow_succ, ← div_div]
    exact ih.shiftRightOne

lemma nearest (h : Stands em r) : Nearest r em.roundedMantissa := by
  obtain ⟨m, round, sticky⟩ := em
  obtain ⟨hlow, hhigh, hround, hsticky⟩ := h
  simp only at hlow hhigh hround hsticky
  cases round <;> cases sticky
  · have hr : r = m := by grind
    rw [hr]
    exact .self m
  · change Nearest r m
    have hhalf : r < m + 1 / 2 := by grind
    exact ⟨by linarith, by linarith, by grind⟩
  · change Nearest r (m + m % 2)
    have hr : r = m + 1 / 2 := by grind
    rcases Nat.mod_two_eq_zero_or_one m with hbit | hbit
    · rw [hbit]
      exact ⟨by simp; linarith, by simp; linarith, fun _ => by simp [hbit]⟩
    · rw [hbit]
      exact ⟨by push_cast; linarith, by push_cast; linarith, fun _ => by omega⟩
  · change Nearest r (m + 1)
    have hhalf : (m : ℚ) + 1 / 2 < r := by grind
    exact ⟨by push_cast; linarith, by push_cast; linarith, by push_cast; grind⟩

end Stands

/-- A number rounded to a mantissa and an exponent, of which there is a least one. -/
structure Rounds (v : ℚ) (k : ℕ) (e : ℤ) : Prop where
  nonneg : 0 ≤ v
  least : -1074 ≤ e
  fits : v < 2 ^ (e + 53)
  full : e = -1074 ∨ (2 : ℚ) ^ (e + 52) ≤ v
  nearest : Nearest (v / 2 ^ e) k

namespace Rounds

variable {v w : ℚ} {k l : ℕ} {e f : ℤ}

lemma two_zpow_pos (e : ℤ) : (0 : ℚ) < 2 ^ e := by positivity

lemma le_full (h : Rounds v k e) : k ≤ 2 ^ 53 := by
  have hself : Nearest ((2 ^ 53 : ℕ) : ℚ) (2 ^ 53) := .self _
  refine h.nearest.le hself ?_
  rw [div_le_iff₀ (two_zpow_pos e)]
  have hfits := h.fits
  rw [zpow_add₀ (by norm_num)] at hfits
  push_cast
  norm_num at hfits ⊢
  linarith

lemma full_le (h : Rounds v k e) : e = -1074 ∨ 2 ^ 52 ≤ k := by
  refine h.full.imp_right fun hfull => ?_
  have hself : Nearest ((2 ^ 52 : ℕ) : ℚ) (2 ^ 52) := .self _
  refine hself.le h.nearest ?_
  rw [le_div_iff₀ (two_zpow_pos e)]
  rw [zpow_add₀ (by norm_num)] at hfull
  push_cast
  norm_num at hfull ⊢
  linarith

lemma le (h : Rounds v k e) (h' : Rounds w l f) (hvw : v ≤ w) :
    (k : ℚ) * 2 ^ e ≤ l * 2 ^ f := by
  rcases lt_trichotomy e f with hlt | rfl | hlt
  · have hl : 2 ^ 52 ≤ l := by
      rcases h'.full_le with hf | hl
      · have := h.least
        omega
      · exact hl
    have hk : (k : ℚ) ≤ 2 ^ 53 := by exact_mod_cast h.le_full
    have hl : (2 : ℚ) ^ 52 ≤ l := by exact_mod_cast hl
    calc (k : ℚ) * 2 ^ e ≤ 2 ^ 53 * 2 ^ e := mul_le_mul_of_nonneg_right hk (two_zpow_pos e).le
      _ = 2 ^ 52 * 2 ^ (e + 1) := by
        rw [zpow_add₀ (by norm_num)]
        ring
      _ ≤ 2 ^ 52 * 2 ^ f := by
        refine mul_le_mul_of_nonneg_left ?_ (by norm_num)
        exact zpow_le_zpow_right₀ (by norm_num) (by omega)
      _ ≤ l * 2 ^ f := mul_le_mul_of_nonneg_right hl (two_zpow_pos f).le
  · have hkl : k ≤ l := h.nearest.le h'.nearest (div_le_div_of_nonneg_right hvw (two_zpow_pos e).le)
    exact mul_le_mul_of_nonneg_right (by exact_mod_cast hkl) (two_zpow_pos e).le
  · exfalso
    have hfull : (2 : ℚ) ^ (e + 52) ≤ v := by
      rcases h.full with he | hfull
      · have := h'.least
        omega
      · exact hfull
    have hfits := h'.fits
    have hexp : (2 : ℚ) ^ (f + 53) ≤ 2 ^ (e + 52) :=
      zpow_le_zpow_right₀ (by norm_num) (by omega)
    linarith

end Rounds

def signed : Sign → ℚ → ℚ
  | .negative, v => -v
  | .positive, v => v

/-- The first power of two that is too large for a float. -/
def reach : ℚ := 2 ^ 1024

/-- The number that an unpacked float is; infinity counts as the first one out of reach. -/
def value : UnpackedFloat → ℚ
  | .infinity s => signed s reach
  | .notANumber => 0
  | .zero _ => 0
  | .finite s m e _ => signed s (m * 2 ^ e)

lemma value_infinity {s : Sign} : value (.infinity s) = signed s reach := rfl

lemma value_finite {s : Sign} {m : ℕ} {e : ℤ} {hm : 0 < m} :
    value (.finite s m e hm) = signed s (m * 2 ^ e) := rfl

/-- All digits that there is room for are there, but below the least exponent. -/
structure Canonical (m : ℕ) (e : ℤ) : Prop where
  fits : m < 2 ^ 53
  least : -1074 ≤ e
  full : e = -1074 ∨ 2 ^ 52 ≤ m

inductive Rounded (s : Sign) (v : ℚ) : UnpackedFloat → Prop
  | zero {e : ℤ} : Rounds v 0 e → Rounded s v (.zero s)
  | finite {k : ℕ} {e : ℤ} {m : ℕ} {f : ℤ} (hm : 0 < m) : Rounds v k e → Canonical m f →
      (m : ℚ) * 2 ^ f = k * 2 ^ e → Rounded s v (.finite s m f hm)

section Rounding

variable {s : Sign} {m k : ℕ} {e t : ℤ} {a : Accuracy} {r v : ℚ}

lemma log2_le (h : k < 2 ^ 53) : k.log2 ≤ 52 := by
  by_cases hk : k = 0
  · simp [hk]
  · exact Nat.le_of_lt_succ ((Nat.log2_lt hk).2 h)

lemma targetExponent_eq (m : ℕ) (e : ℤ) :
    Format.binary64.targetExponent (totalExponent m e) = max (m.log2 + e - 52) (-1074) := by
  have hbits : (Format.binary64.mantissaBits : ℤ) = 53 := rfl
  have hmin : Format.binary64.minExponent = -1074 := rfl
  rw [Format.targetExponent, totalExponent, hbits, hmin]
  omega

lemma Stands.lt_pow (h : Stands (.ofMantissaAndAccuracy m a) r) (e : ℤ) :
    r * 2 ^ e < 2 ^ (m.log2 + 1 + e) := by
  have hhigh := h.high
  rw [mantissa_ofMantissaAndAccuracy] at hhigh
  have hm : (m : ℚ) + 1 ≤ 2 ^ (m.log2 + 1) := by exact_mod_cast Nat.lt_log2_self
  have hsum : (m.log2 : ℤ) + 1 + e = (m.log2 + 1 : ℕ) + e := by omega
  rw [hsum, zpow_add₀ (by norm_num), zpow_natCast]
  exact mul_lt_mul_of_pos_right (hhigh.trans_le hm) (Rounds.two_zpow_pos e)

lemma Stands.pow_le (h : Stands (.ofMantissaAndAccuracy m a) r) (hm : m ≠ 0) (e : ℤ) :
    2 ^ (m.log2 + e) ≤ r * 2 ^ e := by
  have hlow := h.low
  rw [mantissa_ofMantissaAndAccuracy] at hlow
  have hm : (2 : ℚ) ^ m.log2 ≤ m := by exact_mod_cast Nat.log2_self_le hm
  rw [zpow_add₀ (by norm_num), zpow_natCast]
  exact mul_le_mul_of_nonneg_right (hm.trans hlow) (Rounds.two_zpow_pos e).le

lemma Stands.nonneg {em : ExtendedMantissa} (h : Stands em r) : 0 ≤ r :=
  (Nat.cast_nonneg em.mantissa).trans h.low

lemma exists_shift (h : Stands (.ofMantissaAndAccuracy m a) r)
    (ht : e ≤ Format.binary64.targetExponent (totalExponent m e)) :
    ∃ em t, shiftToTargetExponent Format.binary64 m e a = (em, t) ∧
      Rounds (r * 2 ^ e) em.roundedMantissa t := by
  have htarget := targetExponent_eq m e
  have hfirst : shiftToTargetExponent Format.binary64 m e a =
      (ExtendedMantissa.ofMantissaAndAccuracy m a >>>
        (Format.binary64.targetExponent (totalExponent m e) - e).toNat,
        e + (Format.binary64.targetExponent (totalExponent m e) - e).toNat) := rfl
  generalize Format.binary64.targetExponent (totalExponent m e) = t at *
  obtain ⟨n, rfl⟩ := Int.le.dest ht
  rw [add_sub_cancel_left, Int.toNat_natCast] at hfirst
  refine ⟨_, _, hfirst, ?_⟩
  constructor
  · exact mul_nonneg h.nonneg (Rounds.two_zpow_pos e).le
  · omega
  · exact (h.lt_pow e).trans_le (zpow_le_zpow_right₀ (by norm_num) (by omega))
  · by_cases hleast : e + (n : ℤ) = -1074
    · exact .inl hleast
    · have hm : m ≠ 0 := by
        rintro rfl
        have : (0 : ℕ).log2 = 0 := by decide
        omega
      -- above the least exponent the shift stops where the mantissa has 53 places
      exact .inr ((zpow_le_zpow_right₀ (by norm_num) (by omega)).trans (h.pow_le hm e))
  · have hscale : r * 2 ^ e / 2 ^ (e + (n : ℤ)) = r / 2 ^ n := by
      rw [zpow_add₀ (by norm_num), zpow_natCast]
      field_simp
    rw [hscale]
    exact (h.shiftRight n).nearest

lemma rounded_carry (h : Rounds v k e) (s : Sign) :
    Rounded s v (
      let final := shiftToTargetExponent Format.binary64 k e .exact
      if hm : final.1.mantissa = 0 then .zero s
      else .finite s final.1.mantissa final.2 (Nat.pos_of_ne_zero hm)) := by
  have htarget := targetExponent_eq k e
  have hleast := h.least
  have hshift : shiftToTargetExponent Format.binary64 k e .exact =
      ((⟨k, false, false⟩ : ExtendedMantissa) >>>
        (Format.binary64.targetExponent (totalExponent k e) - e).toNat,
        e + (Format.binary64.targetExponent (totalExponent k e) - e).toNat) := rfl
  rcases h.le_full.lt_or_eq with hlt | rfl
  · have hlog := log2_le hlt
    have hamount : (Format.binary64.targetExponent (totalExponent k e) - e).toNat = 0 := by omega
    rw [hamount, Nat.cast_zero, add_zero] at hshift
    rw [hshift]
    change Rounded s v (if hm : k = 0 then .zero s else .finite s k e (Nat.pos_of_ne_zero hm))
    by_cases hk : k = 0
    · rw [dif_pos hk]
      exact .zero (hk ▸ h)
    · rw [dif_neg hk]
      exact .finite _ h ⟨hlt, hleast, h.full_le⟩ rfl
  · have hlog : (2 ^ 53 : ℕ).log2 = 53 := Nat.log2_two_pow
    have hamount :
        (Format.binary64.targetExponent (totalExponent (2 ^ 53) e) - e).toNat = 1 := by omega
    rw [hamount] at hshift
    rw [hshift]
    refine .finite (m := 2 ^ 52) (by decide) h ⟨by decide, by omega, .inr (le_refl _)⟩ ?_
    push_cast
    rw [zpow_add₀ (by norm_num)]
    ring

lemma rounded_roundWithAccuracy (h : Stands (.ofMantissaAndAccuracy m a) r)
    (ht : e ≤ Format.binary64.targetExponent (totalExponent m e)) (s : Sign) :
    Rounded s (r * 2 ^ e) (roundWithAccuracy Format.binary64 s m e a) := by
  obtain ⟨em, t, hfirst, hrounds⟩ := exists_shift h ht
  rw [roundWithAccuracy, hfirst]
  exact rounded_carry hrounds s

lemma rounds_zero : Rounds 0 0 (-1074) :=
  ⟨le_refl _, le_refl _, by positivity, .inl rfl, by simpa using Nearest.self 0⟩

lemma Canonical.rounds (h : Canonical m e) : Rounds (m * 2 ^ e) m e := by
  have he := Rounds.two_zpow_pos e
  constructor
  · positivity
  · exact h.least
  · have hm : (m : ℚ) < 2 ^ 53 := by exact_mod_cast h.fits
    rw [zpow_add₀ (by norm_num), mul_comm]
    exact mul_lt_mul_of_pos_left (by exact_mod_cast hm) he
  · refine h.full.imp_right fun hm => ?_
    have hm : (2 : ℚ) ^ 52 ≤ m := by exact_mod_cast hm
    rw [zpow_add₀ (by norm_num), mul_comm]
    exact mul_le_mul_of_nonneg_right (by exact_mod_cast hm) he.le
  · rw [mul_div_cancel_right₀ _ he.ne']
    exact .self m

lemma Canonical.rounded (h : Canonical m e) (hm : 0 < m) (s : Sign) :
    Rounded s (m * 2 ^ e) (.finite s m e hm) := .finite hm h.rounds h rfl

end Rounding

namespace Rounded

variable {s t : Sign} {v w : ℚ} {u u' : UnpackedFloat}

lemma exists_value (h : Rounded s v u) : ∃ k e, Rounds v k e ∧ value u = signed s (k * 2 ^ e) := by
  cases h with
  | zero h =>
    refine ⟨_, _, h, ?_⟩
    change 0 = signed s _
    cases s <;> simp [signed]
  | finite hm h _ heq => exact ⟨_, _, h, by rw [value_finite, heq]⟩

lemma value_le (h : Rounded s v u) (h' : Rounded t w u') (hvw : signed s v ≤ signed t w) :
    value u ≤ value u' := by
  obtain ⟨k, e, hk, hu⟩ := h.exists_value
  obtain ⟨l, f, hl, hu'⟩ := h'.exists_value
  have hv := hk.nonneg
  have hw := hl.nonneg
  rw [hu, hu']
  cases s with
  | negative =>
    cases t with
    | negative => exact neg_le_neg (hl.le hk (neg_le_neg_iff.1 hvw))
    | positive =>
      simp only [signed]
      have : (0 : ℚ) ≤ k * 2 ^ e := by positivity
      have : (0 : ℚ) ≤ l * 2 ^ f := by positivity
      linarith
  | positive =>
    cases t with
    | positive => exact hk.le hl hvw
    | negative =>
      -- both are zero
      simp only [signed] at hvw ⊢
      obtain rfl : v = 0 := by linarith
      obtain rfl : w = 0 := by linarith
      have hk := hk.le rounds_zero (le_refl _)
      have hl := hl.le rounds_zero (le_refl _)
      simp only [Nat.cast_zero, zero_mul] at hk hl
      linarith

end Rounded

end Decimal

end Tabletop
