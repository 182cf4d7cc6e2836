import Tabletop.Dice.Expression
import Tabletop.Proofs.Results
import Tabletop.Proofs.Sorted

namespace Tabletop.Dice

lemma Quantity.isValid_iff {q : Quantity} : q.IsValid ↔ 1 ≤ q.sides.toInt ∧ 0 ≤ q.count.toInt := by
  rw [IsValid, Int32.le_iff_toInt_le, Int32.le_iff_toInt_le]
  rfl

lemma Roll.fault?_eq_none {r : Roll} : r.fault? = none ↔ ∀ q ∈ r.quantities, q.IsValid := by
  simp [fault?, Sorted.mem_def]

namespace Expression

lemma toInt_ofInt {n : Int} (h : Word.fits n = true) : (Int32.ofInt n).toInt = n := by
  have hmax : Int32.maxValue.toInt + 1 = 2 ^ 31 := by decide
  simp only [Word.fits, decide_eq_true_eq] at h
  exact Int32.toInt_ofInt_of_le h.1 (by omega)

lemma toInt_add {m n : Int32} (h : Word.fits (m.toInt + n.toInt) = true) :
    (m + n).toInt = m.toInt + n.toInt := by
  rw [← toInt_ofInt h, Int32.ofInt_add, Int32.ofInt_toInt, Int32.ofInt_toInt]

lemma number?_nonneg {cs : List Char} {n : Int32} (h : number? cs = some n) : 0 ≤ n.toInt := by
  rw [number?] at h
  split at h
  · cases h
  · rename_i hcs
    cases h
    simp only [not_or, Bool.not_eq_true', Bool.not_eq_false] at hcs
    rw [← Int32.ofInt_eq_ofNat, toInt_ofInt hcs.2.2]
    exact Int.natCast_nonneg _

lemma addDice?_valid {sides count : Int32} {dice dice' : List Quantity} (hsides : 1 ≤ sides.toInt)
    (hcount : 0 ≤ count.toInt) (hdice : ∀ q ∈ dice, q.IsValid)
    (h : addDice? sides count dice = some dice') : ∀ q ∈ dice', q.IsValid := by
  induction dice generalizing dice' with
  | nil =>
    cases h
    simpa [Quantity.isValid_iff] using ⟨hsides, hcount⟩
  | cons q qs ih =>
    obtain ⟨hq, hqs⟩ := List.forall_mem_cons.1 hdice
    rw [addDice?] at h
    split at h
    · split at h
      · rename_i hfits
        cases h
        have hnonneg := (Quantity.isValid_iff.1 hq).2
        refine List.forall_mem_cons.2 ⟨Quantity.isValid_iff.2 ⟨hsides, ?_⟩, hqs⟩
        rw [toInt_add hfits]
        omega
      · cases h
    · obtain ⟨rest, hrest, rfl⟩ := Option.map_eq_some_iff.1 h
      exact List.forall_mem_cons.2 ⟨hq, ih hqs hrest⟩

lemma addPart_valid {t u : Tally} {p : Part} (ht : ∀ q ∈ t.dice, q.IsValid)
    (h : t.addPart p = .ok u) : ∀ q ∈ u.dice, q.IsValid := by
  rw [Tally.addPart] at h
  split at h
  · split at h
    · cases h
    · split at h
      · rename_i count sides hcount hsides
        split at h
        · cases h
        · rename_i hsides'
          split at h
          · rename_i dice hdice
            cases h
            refine addDice?_valid ?_ ?_ ht hdice
            · exact Int32.le_iff_toInt_le.1 (Int32.not_lt.1 hsides')
            · split at hcount
              · cases hcount
                decide
              · exact number?_nonneg hcount
          · cases h
      · cases h
  · split at h
    · cases h
    · extract_lets value flat at h
      split at h
      · cases h
        exact ht
      · cases h

end Expression

lemma Roll.fault?_of_parse {text : String} {r : Roll} (h : parse text = .ok r) :
    r.fault? = none := by
  rw [parse, bind_eq_ok] at h
  obtain ⟨tally, htally, h⟩ := h
  split at h
  · cases h
  · cases h
    have hdice : ∀ q ∈ tally.dice, q.IsValid :=
      invariant_of_foldlM_eq_ok (motive := fun t : Expression.Tally => ∀ q ∈ t.dice, q.IsValid)
        (by simp) (fun t u p _ => Expression.addPart_valid) htally
    rw [Roll.fault?_eq_none]
    exact fun q hq => hdice q (Sorted.mem_of_mem_ofList hq)

end Tabletop.Dice
