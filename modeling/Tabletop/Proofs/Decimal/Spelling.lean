import Mathlib.Tactic.Common
import Mathlib.Algebra.Order.Ring.Nat
import Tabletop.Proofs.Decimal.Whole
import Tabletop.Decimal.Layout

namespace Tabletop

namespace Decimal

def Binary.below (x : Binary) (c : ℤ) : ℕ :=
  x.quotient.1 * Nat.pow 10 (-c).toNat / (x.quotient.2 * Nat.pow 10 c.toNat)

lemma Binary.of_onGrid? {x : Binary} {tie : Tie} {c : ℤ} {d : Digits}
    (h : x.onGrid? tie c = some d) :
    d.exponent = c ∧ d.digits ≤ x.below c + 1 ∧ x.readsBack d = true := by
  generalize hlower : x.below c = lower
  rw [below] at hlower
  simp only [onGrid?, hlower] at h
  split at h
  · rename_i hlower _
    cases h
    exact ⟨rfl, Nat.le_succ _, hlower⟩
  · rename_i _ hupper
    cases h
    exact ⟨rfl, le_refl _, hupper⟩
  · cases h
  · rename_i hlower hupper
    split at h
    · cases h
      exact ⟨rfl, Nat.le_succ _, hlower⟩
    · cases h
      exact ⟨rfl, le_refl _, hupper⟩
    · cases h
      exact ⟨rfl, le_refl _, hupper⟩
    · cases h
      refine ⟨rfl, ?_, ?_⟩
      · have hbit := Nat.mod_lt lower (show 0 < 2 by decide)
        simp only
        omega
      · rcases Nat.mod_two_eq_zero_or_one lower with heven | hodd
        · rwa [heven]
        · rwa [hodd]

lemma Binary.exists_onGrid? {x : Binary} {c : ℤ} (tie : Tie)
    (h : x.readsBack ⟨x.below c, c⟩ = true ∨ x.readsBack ⟨x.below c + 1, c⟩ = true) :
    ∃ d, x.onGrid? tie c = some d := by
  generalize hlower : x.below c = lower at h
  rw [below] at hlower
  simp only [onGrid?, hlower]
  split
  · exact ⟨_, rfl⟩
  · exact ⟨_, rfl⟩
  · rename_i hlower hupper
    rw [hlower, hupper] at h
    simp at h
  · split <;> exact ⟨_, rfl⟩

/-- The digits of a whole number, but for zeros at its end. -/
def Digits.Writes (d : Digits) (k : ℕ) : Prop := ∃ c : ℕ, d.exponent = c ∧ d.digits * 10 ^ c = k

lemma Digits.Writes.strip {d : Digits} {k : ℕ} (h : d.Writes k) : d.strip.Writes k := by
  fun_induction Digits.strip d with
  | case1 d hd ih =>
    obtain ⟨c, hc, hk⟩ := h
    refine ih ⟨c + 1, ?_, ?_⟩
    · rw [hc]
      rfl
    · rw [Nat.pow_succ', ← Nat.mul_assoc, Nat.div_mul_cancel (Nat.dvd_of_mod_eq_zero hd.2), hk]
  | case2 d hd => exact h

lemma width_le {n k : ℕ} (h : k < 10 ^ n) : width k ≤ n := by
  induction n generalizing k with
  | zero =>
    obtain rfl : k = 0 := by omega
    simp [width]
  | succ n ih =>
    rw [width]
    split
    · omega
    · have hdiv : k / 10 < 10 ^ n := by omega
      exact Nat.succ_le_succ (ih hdiv)

lemma width_pos {k : ℕ} (h : 0 < k) : 0 < width k := by
  rw [width, if_neg (Nat.ne_of_gt h)]
  exact Nat.succ_pos _

lemma lt_pow_width (k : ℕ) : k < 10 ^ width k := by
  fun_induction width k with
  | case1 => decide
  | case2 k hk ih =>
    rw [Nat.pow_succ]
    omega

lemma pow_width_le {k : ℕ} (h : 0 < k) : 10 ^ width k ≤ 10 * k := by
  fun_induction width k with
  | case1 => omega
  | case2 k hk ih =>
    rw [Nat.pow_succ]
    rcases Nat.eq_zero_or_pos (k / 10) with hzero | hpos
    · rw [hzero, width, if_pos rfl]
      omega
    · have := ih hpos
      omega

lemma width_div_bounds {a b : ℕ} (hb : 0 < b) (hle : b ≤ a) :
    10 ^ width (a / b) * b ≤ 10 * a ∧ a < 10 ^ width (a / b) * b := by
  constructor
  · calc 10 ^ width (a / b) * b ≤ 10 * (a / b) * b :=
        Nat.mul_le_mul_right _ (pow_width_le (Nat.div_pos hle hb))
      _ = 10 * (a / b * b) := Nat.mul_assoc ..
      _ ≤ 10 * a := Nat.mul_le_mul_left _ (Nat.div_mul_le_self a b)
  · exact (Nat.div_lt_iff_lt_mul hb).1 (lt_pow_width (a / b))

lemma exists_findSome?_range {α : Type} {f : ℕ → Option α} {m n : ℕ} {a : α} (hm : m < n)
    (ha : f m = some a) : ∃ i ≤ m, ∃ b, f i = some b ∧ (List.range n).findSome? f = some b := by
  cases hfound : (List.range n).findSome? f with
  | none =>
    have hnone := List.findSome?_eq_none_iff.1 hfound m (List.mem_range.2 hm)
    cases ha.symm.trans hnone
  | some b =>
    obtain ⟨before, i, after, hrange, hb, hbefore⟩ := List.findSome?_eq_some_iff.1 hfound
    have hmem : m ∈ before ++ i :: after := hrange ▸ List.mem_range.2 hm
    have hsorted := hrange ▸ List.pairwise_lt_range (n := n)
    have hafter := (List.pairwise_cons.1 (List.pairwise_append.1 hsorted).2.1).1
    refine ⟨i, ?_, b, hb, rfl⟩
    rcases List.mem_append.1 hmem with hmem | hmem
    · cases ha.symm.trans (hbefore m hmem)
    · rcases List.mem_cons.1 hmem with heq | hmem
      · exact Nat.le_of_eq heq.symm
      · exact Nat.le_of_lt (hafter m hmem)

structure Binary.IsWhole (x : Binary) (k : ℕ) : Prop where
  pos : 0 < k
  shifted : ∃ j : ℕ, x.mantissa = k * 2 ^ j ∧ x.exponent = -j

namespace Binary.IsWhole

variable {x : Binary} {k : ℕ}

lemma quotient_eq (h : x.IsWhole k) : ∃ j : ℕ, x.quotient = (k * 2 ^ j, 2 ^ j) := by
  obtain ⟨j, hmantissa, hexponent⟩ := h.shifted
  refine ⟨j, ?_⟩
  rw [quotient, hmantissa, hexponent]
  simp

lemma scale_eq (h : x.IsWhole k) : x.scale = width k := by
  obtain ⟨j, hquotient⟩ := h.quotient_eq
  have hpow : 0 < 2 ^ j := Nat.two_pow_pos j
  simp only [scale, hquotient]
  rw [if_pos (Nat.le_mul_of_pos_left _ h.pos), Nat.mul_div_cancel _ hpow]

lemma compareScaled_eq (n c b j : ℕ) :
    compareScaled n c b (-(j : ℤ) - 2) = compare (n * 10 ^ c * (4 * 2 ^ j)) b := by
  have hpow : (-(-(j : ℤ) - 2)).toNat = j + 2 := by omega
  have hone : (-(j : ℤ) - 2).toNat = 0 := by omega
  have hfour : 2 ^ (j + 2) = 4 * 2 ^ j := by
    rw [Nat.pow_add]
    omega
  rw [compareScaled, hpow, hone]
  simp [hfour]

lemma readsBack_iff (h : x.IsWhole k) {n c : ℕ} : x.readsBack ⟨n, c⟩ = true ↔ n * 10 ^ c = k := by
  obtain ⟨j, hmantissa, hexponent⟩ := h.shifted
  have hpow : 0 < 2 ^ j := Nat.two_pow_pos j
  have hpos := Nat.mul_pos h.pos hpow
  have hless : n * 10 ^ c < k → (n * 10 ^ c) * 2 ^ j + 2 ^ j ≤ k * 2 ^ j := fun hlt => by
    rw [← Nat.succ_mul]
    exact Nat.mul_le_mul_right _ hlt
  have hmore : k < n * 10 ^ c → k * 2 ^ j + 2 ^ j ≤ (n * 10 ^ c) * 2 ^ j := fun hlt => by
    rw [← Nat.succ_mul]
    exact Nat.mul_le_mul_right _ hlt
  have hfour (a : ℕ) : a * (4 * 2 ^ j) = 4 * (a * 2 ^ j) := by rw [Nat.mul_left_comm]
  simp only [readsBack, hmantissa, hexponent, compareScaled_eq, hfour, Nat.compare_eq_gt,
    Nat.compare_eq_lt, Nat.compare_eq_eq, decide_eq_true_eq]
  generalize n * 10 ^ c = value at hless hmore ⊢
  constructor
  · rintro ⟨hlow, hhigh⟩
    split at hlow <;> omega
  · rintro rfl
    split <;> omega

lemma onGrid?_zero (h : x.IsWhole k) (tie : Tie) : x.onGrid? tie 0 = some ⟨k, 0⟩ := by
  obtain ⟨j, hquotient⟩ := h.quotient_eq
  have hdiv : k * 2 ^ j / 2 ^ j = k := Nat.mul_div_cancel _ (Nat.two_pow_pos j)
  have hself : x.readsBack ⟨k, 0⟩ = true := (h.readsBack_iff (c := 0)).2 (by simp)
  have hnext : x.readsBack ⟨k + 1, 0⟩ = false :=
    Bool.eq_false_iff.2 (mt (h.readsBack_iff (c := 0)).1 (by simp))
  simp [onGrid?, hquotient, hdiv, hself, hnext]

lemma shortest_writes (h : x.IsWhole k) (hk : k < 10 ^ 17) (tie : Tie) :
    (x.shortest tie).Writes k := by
  have hwidth := width_le hk
  have hwidth' := width_pos h.pos
  have hlast : x.onGrid? tie (x.scale - (width k - 1 + 1 : ℕ)) = some ⟨k, 0⟩ := by
    rw [h.scale_eq, Nat.sub_add_cancel hwidth', Int.sub_self, h.onGrid?_zero]
  obtain ⟨n, hn, d, hd, hfound⟩ := exists_findSome?_range
    (f := fun n => x.onGrid? tie (x.scale - (n + 1 : ℕ))) (n := 17) (by omega) hlast
  obtain ⟨hexponent, _, hback⟩ := of_onGrid? hd
  have hcast : x.scale - (n + 1 : ℕ) = (width k - (n + 1) : ℕ) := by
    rw [h.scale_eq]
    omega
  rw [shortest, hfound]
  refine Digits.Writes.strip ⟨width k - (n + 1), hexponent.trans hcast, h.readsBack_iff.1 ?_⟩
  rw [← hcast, ← hexponent]
  exact hback

end Binary.IsWhole

section Layout

variable {k : ℕ}

lemma toDigits_mul_pow (hpos : 0 < k) (c : ℕ) :
    Nat.toDigits 10 (k * 10 ^ c) = Nat.toDigits 10 k ++ List.replicate c '0' := by
  induction c with
  | zero => simp
  | succ c ih =>
    have hsplit : k * 10 ^ (c + 1) = 10 * (k * 10 ^ c) + 0 := by
      rw [Nat.pow_succ', Nat.mul_left_comm]
      rfl
    have hprior : 0 < k * 10 ^ c := Nat.mul_pos hpos (Nat.pow_pos (by decide))
    rw [hsplit, ← Nat.toDigits_append_toDigits (by decide) hprior (by decide), ih,
      Nat.toDigits_zero, List.replicate_succ', List.append_assoc]

lemma Digits.Writes.positional {d : Digits} {l : Layout} (h : d.Writes k) (hpos : 0 < k)
    (hl : l.pointZero = false) : l.positional d = Nat.toDigits 10 k := by
  obtain ⟨c, hc, rfl⟩ := h
  have hdigits : 0 < d.digits := Nat.pos_of_mul_pos_right hpos
  rw [toDigits_mul_pow hdigits, Layout.positional, Layout.digitTexts, Nat.toList_repr, hc]
  simp [hl]

lemma Binary.IsWhole.magnitude {x : Binary} (h : x.IsWhole k) (hk : k < 10 ^ 17) :
    Text.sheetLayout.magnitude x = Nat.toDigits 10 k := by
  obtain ⟨j, hmantissa, _⟩ := h.shifted
  have hne : x.mantissa ≠ 0 := hmantissa ▸ Nat.ne_of_gt (Nat.mul_pos h.pos (Nat.two_pow_pos j))
  rw [Layout.magnitude, if_neg hne]
  exact (h.shortest_writes hk .up).positional h.pos rfl

open Float.Model.UnpackedFloat (Sign)

variable {s : Sign} {x : Float}

lemma IsWhole.binary (h : IsWhole s k x) : (Binary.ofBits x.toBits).IsWhole k := by
  obtain ⟨j, hmantissa, hexponent, _⟩ := h.bits
  exact ⟨h.pos, j, hmantissa, hexponent⟩

lemma IsWhole.number_eq (h : IsWhole s k x) : Text.number x = toString (s.apply k) := by
  have hmagnitude := h.binary.magnitude (Nat.lt_trans h.lt (by decide))
  obtain ⟨_, _, _, hsign⟩ := h.bits
  have hsome : ¬ (false = true ∧ (!Text.sheetLayout.signedZero) = true) := nofun
  rw [Text.number, Layout.text, h.isNaN, h.isInf, h.beq_zero, hmagnitude,
    ← Nat.repr_eq_ofList_toDigits, if_neg Bool.false_ne_true, if_neg Bool.false_ne_true,
    if_neg hsome]
  beta_reduce
  cases s with
  | negative =>
    obtain ⟨m, rfl⟩ := Nat.exists_eq_succ_of_ne_zero (Nat.ne_of_gt h.pos)
    rw [if_pos (hsign.2 rfl)]
    rfl
  | positive =>
    rw [if_neg fun hbit => nomatch hsign.1 hbit]
    rfl

end Layout

lemma number_ofInt {z : ℤ} (h : z.natAbs < 2 ^ 53) : Text.number (Float.ofInt z) = toString z := by
  by_cases hz : z = 0
  · rw [hz]
    decide +kernel
  · rw [(isWhole_ofInt hz h).number_eq, apply_signOf]

lemma number_abs_ofInt {z : ℤ} (hz : z ≠ 0) (h : z.natAbs < 2 ^ 53) :
    Text.number (Float.ofInt z).abs = toString z.natAbs :=
  (isWhole_ofInt hz h).abs.number_eq

end Decimal

end Tabletop
