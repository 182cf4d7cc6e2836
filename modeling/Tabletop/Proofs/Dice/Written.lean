import Mathlib.Data.List.TakeWhile
import Mathlib.Tactic.IntervalCases
import Tabletop.Proofs.Dice.Grammar

namespace Tabletop.Dice

namespace Expression

section Characters

def plain : List Char := ['0', '1', '2', '3', '4', '5', '6', '7', '8', '9', 'd', '+', '-']

lemma mem_plain_of_isDigit {c : Char} (h : c.isDigit = true) : c ∈ plain := by
  obtain ⟨hlow, hhigh⟩ := Char.isDigit_iff_toNat.1 h
  change 48 ≤ c.toNat at hlow
  change c.toNat ≤ 57 at hhigh
  rw [← Char.ofNat_toNat c]
  interval_cases c.toNat <;> decide

lemma not_isSign_of_isDigit {c : Char} (h : c.isDigit = true) : isSign c = false := by
  have hne (d : Char) (hd : d.isDigit = false) : c ≠ d := by
    rintro rfl
    rw [h] at hd
    cases hd
  simp [isSign, hne]

lemma lowerFrom_of_plain {cs : List Char} (h : ∀ c ∈ cs, c ∈ plain) (before : List Char) :
    Text.lowerFrom before cs = cs := by
  have hsmall : ∀ c ∈ plain, c ≠ 'Σ' ∧ c ≠ 'İ' ∧ Text.smallLetter c = c := by
    simp [plain, Text.smallLetter]
  induction cs generalizing before with
  | nil => rfl
  | cons c cs ih =>
    obtain ⟨hc, hcs⟩ := List.forall_mem_cons.1 h
    obtain ⟨hsigma, hdotted, hc⟩ := hsmall c hc
    rw [Text.lowerFrom, if_neg hsigma, if_neg hdotted, hc, ih hcs]
    rfl

lemma trim_of_plain {cs : List Char} (h : ∀ c ∈ cs, c ∈ plain) : Text.trim cs = cs := by
  have hblank : ∀ c ∈ plain, Text.isBlank c = false := by simp [plain, Text.isBlank]
  have hdrop {cs : List Char} (h : ∀ c ∈ cs, c ∈ plain) : cs.dropWhile Text.isBlank = cs :=
    List.dropWhile_eq_self_iff.2 fun hl => by
      rw [hblank _ (h _ (List.getElem_mem hl))]
      exact Bool.false_ne_true
  rw [Text.trim, hdrop h, hdrop fun c hc => h c (List.mem_reverse.1 hc), List.reverse_reverse]

lemma readable_of_plain {text : String} (h : ∀ c ∈ text.toList, c ∈ plain) :
    readable text = text.toList := by
  have hspace : ' ' ∉ plain := by decide
  rw [readable, trim_of_plain h, Text.lower, lowerFrom_of_plain h, List.filter_eq_self]
  intro c hc
  rw [decide_eq_true_eq]
  rintro rfl
  exact hspace (h _ hc)

end Characters

section Parts

variable {parts : List Part} {cs w : List Char}

def written (p : Part) : List Char := (if p.negative then '-' else '+') :: p.text

def Part.Whole (p : Part) : Prop := p.text ≠ [] ∧ ∀ c ∈ p.text, isSign c = false

lemma signed_cons (first : Bool) (c : Char) (signs : List Char) (texts : List (List Char)) :
    signed first (c :: signs) (w :: texts) =
      [(⟨first, w⟩ : Part)].filter (·.text ≠ []) ++ signed (c = '-') signs texts := by
  rw [signed, List.map_cons, List.zipWith_cons_cons, ← List.singleton_append, List.filter_append]
  rfl

lemma components_plus : components ('+' :: cs) = components cs := by
  have hplus : isSign '+' = true := rfl
  rw [components, List.filter_cons_of_pos hplus, List.splitOnP_cons_eq_if_modifyHead, if_pos hplus,
    signed_cons]
  rfl

lemma signed_written (h : ∀ p ∈ parts, p.Whole) (first : Bool) (hw : ∀ c ∈ w, isSign c = false) :
    signed first ((w ++ parts.flatMap written).filter isSign)
      ((w ++ parts.flatMap written).splitOnP isSign) =
      [(⟨first, w⟩ : Part)].filter (·.text ≠ []) ++ parts := by
  have hfilter : w.filter isSign = [] := List.filter_eq_nil_iff.2 fun c hc => by simp [hw c hc]
  induction parts generalizing first w with
  | nil =>
    rw [List.flatMap_nil, List.append_nil, hfilter, List.splitOnP_eq_singleton hw, List.append_nil]
    rfl
  | cons p parts ih =>
    obtain ⟨⟨hne, hp⟩, hparts⟩ := List.forall_mem_cons.1 h
    have hsign : isSign (if p.negative then '-' else '+') = true := by split <;> rfl
    have hnegative : decide ((if p.negative then '-' else '+') = '-') = p.negative := by
      cases p.negative <;> rfl
    have hpfilter : p.text.filter isSign = [] :=
      List.filter_eq_nil_iff.2 fun c hc => by simp [hp c hc]
    have hrest := ih hparts p.negative hp hpfilter
    rw [List.flatMap_cons, written, List.cons_append, List.filter_append, hfilter, List.nil_append,
      List.filter_cons_of_pos hsign, List.splitOnP_append_cons_of_forall_mem hw _ hsign,
      signed_cons, hnegative, hrest, List.filter_singleton]
    simp [hne]

lemma components_written (h : ∀ p ∈ parts, p.Whole) :
    components (parts.flatMap written) = parts :=
  signed_written (w := []) h false (by simp)

end Parts

section Items

variable {items : List Item} {item : Item} {n : ℕ}

lemma not_d_mem_toDigits : 'd' ∉ Nat.toDigits 10 n := fun hd =>
  absurd (Nat.isDigit_of_mem_toDigits (by decide) (by decide) hd) (by decide)

lemma digits_toDigits (h : n ≤ 2147483647) : Digits (Nat.toDigits 10 n) n :=
  ⟨Nat.toDigits_ne_nil, fun _ => Nat.isDigit_of_mem_toDigits (by decide) (by decide),
    Nat.ofDigitChars_ten_toDigits, h⟩

def Item.part : Item → Part
  | flat n => ⟨n < 0, Nat.toDigits 10 n.natAbs⟩
  | dice count sides => ⟨false, Nat.toDigits 10 count ++ 'd' :: Nat.toDigits 10 sides⟩

def Item.Legible : Item → Prop
  | flat n => n.natAbs ≤ 2147483647
  | dice count sides => count ≤ 2147483647 ∧ 1 ≤ sides ∧ sides ≤ 2147483647

lemma whole_part : item.part.Whole := by
  have hdigit {n : ℕ} : ∀ c ∈ Nat.toDigits 10 n, isSign c = false := fun c hc =>
    not_isSign_of_isDigit (Nat.isDigit_of_mem_toDigits (by decide) (by decide) hc)
  cases item with
  | flat n => exact ⟨Nat.toDigits_ne_nil, hdigit⟩
  | dice count sides =>
    refine ⟨by simp [Item.part], ?_⟩
    simp only [Item.part, List.forall_mem_append, List.forall_mem_cons]
    exact ⟨hdigit, rfl, hdigit⟩

lemma plain_written_part : ∀ c ∈ written item.part, c ∈ plain := by
  have hdigit {n : ℕ} : ∀ c ∈ Nat.toDigits 10 n, c ∈ plain := fun c hc =>
    mem_plain_of_isDigit (Nat.isDigit_of_mem_toDigits (by decide) (by decide) hc)
  have hsign (negative : Bool) : (if negative then '-' else '+') ∈ plain := by
    cases negative <;> decide
  rw [written, List.forall_mem_cons]
  refine ⟨hsign _, ?_⟩
  cases item with
  | flat n => exact hdigit
  | dice count sides =>
    simp only [Item.part, List.forall_mem_append, List.forall_mem_cons]
    exact ⟨hdigit, by decide, hdigit⟩

lemma reads_part (h : item.Legible) : Reads item.part item := by
  cases item with
  | flat n =>
    have hvalue : n = if (decide (n < 0)) = true then -(n.natAbs : ℤ) else n.natAbs := by
      by_cases hneg : n < 0
      · rw [decide_eq_true hneg, if_pos rfl]
        omega
      · rw [decide_eq_false hneg, if_neg Bool.false_ne_true]
        omega
    refine (reads_flat_iff not_d_mem_toDigits).2 ⟨n.natAbs, digits_toDigits h, ?_⟩
    rw [← hvalue]
  | dice count sides =>
    obtain ⟨hcount, hone, hsides⟩ := h
    exact .dice (digits_toDigits hcount) (digits_toDigits hsides) hone

lemma forall₂_reads_part (h : ∀ item ∈ items, item.Legible) :
    List.Forall₂ Reads (items.map Item.part) items := by
  rw [List.forall₂_map_left_iff, List.forall₂_same]
  exact fun item hitem => reads_part (h item hitem)

end Items

end Expression

end Tabletop.Dice
