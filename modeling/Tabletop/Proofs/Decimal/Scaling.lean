import Tabletop.Proofs.Decimal.Scientific

namespace Tabletop

namespace Decimal

open Float.Model Float.Model.UnpackedFloat

section Arithmetic

variable {s t : Sign} {m n : ℕ} {e f : ℤ} {u u' : UnpackedFloat}

lemma signed_zero (s : Sign) : signed s 0 = 0 := by
  cases s
  · exact neg_zero
  · rfl

lemma signed_mul (s t : Sign) (v w : ℚ) : signed s v * signed t w = signed (s * t) (v * w) := by
  cases s <;> cases t
  · exact neg_mul_neg v w
  · exact neg_mul v w
  · exact mul_neg v w
  · rfl

lemma signed_div (s t : Sign) (v w : ℚ) : signed s v / signed t w = signed (s / t) (v / w) := by
  cases s <;> cases t
  · exact neg_div_neg_eq v w
  · exact neg_div w v
  · exact div_neg v
  · rfl

lemma Canonical.mul_full (h : Canonical m e) (h' : Canonical n f) (hm : 0 < m) (hn : 0 < n) :
    2 ^ 52 ≤ m * n ∨ e + f ≤ -1074 := by
  rcases h.full with he | hfull
  · rcases h'.full with hf | hfull
    · exact .inr (by omega)
    · exact .inl (hfull.trans (Nat.le_mul_of_pos_left n hm))
  · exact .inl (hfull.trans (Nat.le_mul_of_pos_right m hn))

lemma exists_rounded_mul (h : Proper u) (h' : Proper u') (hu : u.isFinite = true)
    (hu' : u'.isFinite = true) : ∃ r v, value u * value u' = signed r v ∧
      Rounded r v (UnpackedFloat.mul Format.binary64 u u') := by
  cases h with
  | infinity => cases hu
  | zero s =>
    have hzero : value (.zero s) * value u' = 0 := zero_mul _
    cases h' with
    | infinity => cases hu'
    | zero t => exact ⟨s * t, 0, hzero.trans (signed_zero _).symm, .zero rounds_zero⟩
    | finite t => exact ⟨s * t, 0, hzero.trans (signed_zero _).symm, .zero rounds_zero⟩
  | @finite s m e hm h he =>
    cases h' with
    | infinity => cases hu'
    | zero t => exact ⟨s * t, 0, (mul_zero _).trans (signed_zero _).symm, .zero rounds_zero⟩
    | finite t hn h' hf =>
      exact ⟨s * t, _, signed_mul _ _ _ _, rounded_mul hm hn (h.mul_full h' hm hn)⟩

lemma exists_rounded_div (h : Proper u) (h' : Proper u') (hu : u.isFinite = true)
    (hu' : u'.isFinite = true) (hne : value u' ≠ 0) : ∃ r v, value u / value u' = signed r v ∧
      Rounded r v (UnpackedFloat.div Format.binary64 u u') := by
  cases h' with
  | infinity => cases hu'
  | zero => exact absurd rfl hne
  | finite t hn h' hf =>
    cases h with
    | infinity => cases hu
    | zero s => exact ⟨s / t, 0, (zero_div _).trans (signed_zero _).symm, .zero rounds_zero⟩
    | finite s hm h he => exact ⟨s / t, _, signed_div _ _ _ _, rounded_div hm hn⟩

lemma Proper.exists_rounded (h : Proper u) (hu : u.isFinite = true) :
    ∃ r v, value u = signed r v ∧ Rounded r v u := by
  cases h with
  | infinity => cases hu
  | zero s => exact ⟨s, 0, (signed_zero s).symm, .zero rounds_zero⟩
  | finite s hm h he => exact ⟨s, _, rfl, h.rounded hm s⟩

lemma Proper.isFinite_of_value (h : Proper u) (hlow : 0 ≤ value u) (hhigh : value u < reach) :
    u.isFinite = true := by
  cases h with
  | infinity s =>
    cases s with
    | negative => exact absurd hlow (not_le.2 (neg_neg_of_pos reach_pos))
    | positive => exact absurd hhigh (lt_irrefl _)
  | zero | finite => rfl

lemma Proper.value_lt_reach (h : Proper u) (hu : u.isFinite = true) : value u < reach := by
  cases h with
  | infinity => cases hu
  | zero => exact reach_pos
  | @finite s m e hm h he =>
    have hlt := h.lt_reach he
    have hpos : (0 : ℚ) ≤ m * 2 ^ e := by positivity
    cases s with
    | negative => exact (neg_nonpos.2 hpos).trans_lt reach_pos
    | positive => exact hlt

end Arithmetic

section Floats

variable {x y x' y' : Float}

lemma exists_mul (hx : x.isFinite = true) (hy : y.isFinite = true) : ∃ r v u,
    number x * number y = signed r v ∧ Rounded r v u ∧ x * y = .ofModel (.pack u) := by
  obtain ⟨r, v, hv, hrounded⟩ :=
    exists_rounded_mul (proper_of_isFinite hx) (proper_of_isFinite hy) hx hy
  exact ⟨r, v, _, hv, hrounded, rfl⟩

lemma proper_mul (hx : x.isFinite = true) (hy : y.isFinite = true) :
    Proper (x * y).toModel.unpack := by
  obtain ⟨r, v, u, _, hrounded, heq⟩ := exists_mul hx hy
  rw [heq]
  exact hrounded.ofModel.1

lemma number_mul_nonneg (hx : x.isFinite = true) (hy : y.isFinite = true) (h : 0 ≤ number x)
    (h' : 0 ≤ number y) : 0 ≤ number (x * y) := by
  obtain ⟨r, v, u, hv, hrounded, heq⟩ := exists_mul hx hy
  have hzero : Rounded .positive 0 (.zero .positive) := .zero rounds_zero
  rw [heq, hrounded.ofModel.2]
  exact clamp_nonneg (hzero.value_le hrounded (hv ▸ mul_nonneg h h'))

lemma number_mul_le (hx : x.isFinite = true) (hy : y.isFinite = true) (hx' : x'.isFinite = true)
    (hy' : y'.isFinite = true) (h : 0 ≤ number x) (h' : 0 ≤ number y) (hxx' : number x ≤ number x')
    (hyy' : number y ≤ number y') : number (x * y) ≤ number (x' * y') := by
  obtain ⟨r, v, u, hv, hrounded, heq⟩ := exists_mul hx hy
  obtain ⟨r', v', u', hv', hrounded', heq'⟩ := exists_mul hx' hy'
  rw [heq, heq', hrounded.ofModel.2, hrounded'.ofModel.2]
  refine clamp_le (hrounded.value_le hrounded' ?_)
  rw [← hv, ← hv']
  exact mul_le_mul hxx' hyy' h' (h.trans hxx')

lemma isFinite_mul (hx : x.isFinite = true) (hy : y.isFinite = true) (hx' : x'.isFinite = true)
    (hy' : y'.isFinite = true) (h : 0 ≤ number x) (h' : 0 ≤ number y) (hxx' : number x ≤ number x')
    (hyy' : number y ≤ number y') (hfinite : (x' * y').isFinite = true) :
    (x * y).isFinite = true := by
  have hle := number_mul_le hx hy hx' hy' h h' hxx' hyy'
  have hlt := (proper_of_isFinite hfinite).value_lt_reach hfinite
  exact (proper_mul hx hy).isFinite_of_value (number_mul_nonneg hx hy h h') (hle.trans_lt hlt)

lemma isFinite_div (hx : x.isFinite = true) (hy : y.isFinite = true) (h : 0 ≤ number x)
    (h' : 1 ≤ number y) : (x / y).isFinite = true ∧ 0 ≤ number (x / y) := by
  have hpos : 0 < number y := zero_lt_one.trans_le h'
  obtain ⟨r, v, hv, hrounded⟩ :=
    exists_rounded_div (proper_of_isFinite hx) (proper_of_isFinite hy) hx hy hpos.ne'
  obtain ⟨r', v', hv', hrounded'⟩ := (proper_of_isFinite hx).exists_rounded hx
  have hzero : Rounded .positive 0 (.zero .positive) := .zero rounds_zero
  have hle : value (UnpackedFloat.div Format.binary64 x.toModel.unpack y.toModel.unpack) ≤
      number x := by
    refine hrounded.value_le hrounded' ?_
    rw [← hv, ← hv']
    exact div_le_self h h'
  have hnonneg : 0 ≤ number (x / y) := by
    change 0 ≤ number (.ofModel (.pack _))
    rw [hrounded.ofModel.2]
    exact clamp_nonneg (hzero.value_le hrounded (hv ▸ div_nonneg h hpos.le))
  refine ⟨hrounded.ofModel.1.isFinite_of_value hnonneg ?_, hnonneg⟩
  have hlt := (proper_of_isFinite hx).value_lt_reach hx
  change number (.ofModel (.pack _)) < reach
  rw [hrounded.ofModel.2]
  exact (clamp_le hle).trans_lt ((clamp_eq ((neg_nonpos.2 reach_pos.le).trans h) hlt.le).trans_lt hlt)

end Floats

end Decimal

end Tabletop
