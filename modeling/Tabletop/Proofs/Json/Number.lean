import Mathlib.Data.List.TakeWhile
import Tabletop.Json.Print
import Tabletop.Json.Token

namespace Tabletop

namespace Json

open Token (inWord number? magnitude? wholeNumber readDigits digit gather)

section Digits

variable {n : ℕ} {ds : List Char}

lemma readDigits_toDigits (n : ℕ) : readDigits (Nat.toDigits 10 n) = n := by
  have h : Nat.ofDigitChars 10 (Nat.toDigits 10 n) 0 = n := Nat.ofDigitChars_ten_toDigits
  rw [Nat.ofDigitChars_eq_foldl] at h
  rw [readDigits]
  simp only [Nat.mul_comm _ 10]
  exact h

lemma head?_toDigits (n : ℕ) (h : (Nat.toDigits 10 n).head? = some '0') : n = 0 := by
  induction n using Nat.strongRecOn with
  | ind n ih =>
    rw [Nat.toDigits_eq_if (by decide)] at h
    split at h
    · rename_i hn
      have hdigit : ∀ k < 10, [Nat.digitChar k].head? = some '0' → k = 0 := by decide
      exact hdigit n hn h
    · rename_i hn
      cases hn' : Nat.toDigits 10 (n / 10) with
      | nil => exact absurd hn' Nat.toDigits_ne_nil
      | cons c cs =>
        rw [hn'] at h
        have hzero := ih (n / 10) (by omega) (hn' ▸ h)
        omega

lemma le_foldl_digit (n : ℕ) (ds : List Char) : n ≤ ds.foldl (fun n c => n * 10 + digit c) n := by
  induction ds generalizing n with
  | nil => exact le_refl n
  | cons c ds ih => exact le_trans (by omega) (ih (n * 10 + digit c))

lemma gather_of_lt (h : ds.foldl (fun n c => n * 10 + digit c) n < UInt64.size) :
    gather n ds = (ds.foldl (fun n c => n * 10 + digit c) n, 0) := by
  induction ds generalizing n with
  | nil => rfl
  | cons c ds ih =>
    rw [gather, if_pos ((le_foldl_digit _ ds).trans_lt h)]
    exact ih h

lemma gather_append {es : List Char} (h : readDigits (ds ++ es) < UInt64.size) :
    gather 0 ds = (readDigits ds, 0) ∧ gather (readDigits ds) es = (readDigits (ds ++ es), 0) := by
  rw [readDigits, List.foldl_append] at h
  refine ⟨gather_of_lt ((le_foldl_digit _ es).trans_lt h), ?_⟩
  rw [readDigits, readDigits, List.foldl_append]
  exact gather_of_lt h

lemma gather_lt (h : n < UInt64.size) : (gather n ds).1 < UInt64.size := by
  induction ds generalizing n with
  | nil => exact h
  | cons c ds ih =>
    rw [gather]
    split
    · rename_i hfits
      exact ih hfits
    · exact h

lemma magnitude?_toDigits (negative : Bool) (h : n < UInt64.size) :
    magnitude? negative (Nat.toDigits 10 n) = some (wholeNumber negative n) := by
  have hdigits : ∀ c ∈ Nat.toDigits 10 n, c.isDigit = true :=
    fun c hc => Nat.isDigit_of_mem_toDigits (by decide) (by decide) hc
  have hzero : ¬ (1 < (Nat.toDigits 10 n).length ∧ (Nat.toDigits 10 n).head? = some '0') := by
    rintro ⟨hlength, hhead⟩
    obtain rfl := head?_toDigits n hhead
    simp at hlength
  have hread := readDigits_toDigits n
  have hgather : gather 0 (Nat.toDigits 10 n) = (n, 0) := by
    rw [← hread] at h
    rw [gather_of_lt h]
    exact congrArg (·, 0) hread
  simp only [magnitude?, List.takeWhile_eq_self_iff.2 hdigits, List.dropWhile_eq_nil_iff.2 hdigits,
    hgather]
  rw [if_neg]
  · rfl
  · simp only [List.isEmpty_iff, not_or]
    exact ⟨Nat.toDigits_ne_nil, hzero⟩

end Digits

def InWord (n : Int) : Prop := Int64.minValue.toInt ≤ n ∧ n < UInt64.size

lemma number?_toDigits (n : ℕ) :
    number? (Nat.toDigits 10 n) = magnitude? false (Nat.toDigits 10 n) := by
  rw [number?]
  intro cs hcs
  have hminus : '-'.isDigit = true :=
    Nat.isDigit_of_mem_toDigits (n := n) (b := 10) (by decide) (by decide) (by simp [hcs])
  cases hminus

lemma number?_whole {n : Int} (h : InWord n) :
    number? (Print.numberText (.whole n)).toList = some (.whole n) := by
  obtain ⟨hlow, hhigh⟩ := h
  cases n with
  | ofNat m =>
    have hsize : m < UInt64.size := Int.ofNat_lt.1 hhigh
    change number? (Nat.repr m).toList = _
    rw [Nat.toList_repr, number?_toDigits, magnitude?_toDigits false hsize]
    rfl
  | negSucc m =>
    have hmin : Int64.minValue.toInt ≤ -((m + 1 : ℕ) : Int) := hlow
    change number? ("-" ++ Nat.repr (m + 1)).toList = _
    rw [String.toList_append, Nat.toList_repr]
    change magnitude? true (Nat.toDigits 10 (m + 1)) = _
    have hsize : m + 1 < UInt64.size := by
      have hle : ((m + 1 : ℕ) : ℤ) ≤ 2 ^ 63 := Int.le_of_neg_le_neg hmin
      have hle : m + 1 ≤ 2 ^ 63 := by exact_mod_cast hle
      exact hle.trans_lt (by decide)
    rw [magnitude?_toDigits true hsize, wholeNumber, if_neg (by decide), if_pos ⟨by omega, hmin⟩]
    rfl

lemma inWord_of_isDigit {c : Char} (h : c.isDigit = true) : inWord c = true := by
  have hne (d : Char) (hd : d.isDigit = false) : c ≠ d := by
    rintro rfl
    rw [h] at hd
    cases hd
  have hmark : Token.mark? c = none := by
    rw [Token.mark?]
    · exact hne _ rfl
    · exact hne _ rfl
    · exact hne _ rfl
    · exact hne _ rfl
    · exact hne _ rfl
    · exact hne _ rfl
  simp [inWord, Token.isBlank, hmark, hne]

lemma inWord_of_all {cs : List Char} (h : cs.all inWord = true) : ∀ c ∈ cs, inWord c = true :=
  List.all_eq_true.1 h

open Decimal.Layout (digitTexts)

lemma inWord_digitTexts (n : ℕ) : ∀ c ∈ digitTexts n, inWord c = true := by
  intro c hc
  rw [digitTexts, Nat.toList_repr] at hc
  exact inWord_of_isDigit (Nat.isDigit_of_mem_toDigits (by decide) (by decide) hc)

lemma inWord_scientific (d : Decimal.Digits) :
    ∀ c ∈ Decimal.Layout.scientific d, inWord c = true := by
  have hdigits := inWord_digitTexts d.digits
  simp only [Decimal.Layout.scientific, List.forall_mem_append, List.forall_mem_cons]
  refine ⟨⟨fun c hc => hdigits c (List.mem_of_mem_take hc), ?_⟩, by decide, ?_, inWord_digitTexts _⟩
  · split
    · simp
    · rw [List.forall_mem_cons]
      exact ⟨by decide, fun c hc => hdigits c (List.mem_of_mem_drop hc)⟩
  · split <;> decide

lemma inWord_positional (l : Decimal.Layout) (d : Decimal.Digits) :
    ∀ c ∈ l.positional d, inWord c = true := by
  have hdigits := inWord_digitTexts d.digits
  have hzeros (n : ℕ) : ∀ c ∈ List.replicate n '0', inWord c = true := by
    intro c hc
    rw [List.eq_of_mem_replicate hc]
    decide
  simp only [Decimal.Layout.positional]
  split
  · simp only [List.forall_mem_append]
    refine ⟨⟨hdigits, hzeros _⟩, ?_⟩
    split <;> exact inWord_of_all (by decide)
  · split
    · simp only [List.forall_mem_append, List.forall_mem_cons]
      exact ⟨fun c hc => hdigits c (List.mem_of_mem_take hc), by decide,
        fun c hc => hdigits c (List.mem_of_mem_drop hc)⟩
    · simp only [List.forall_mem_append, List.forall_mem_cons]
      exact ⟨by decide, by decide, hzeros _, hdigits⟩

lemma inWord_magnitude (l : Decimal.Layout) (x : Decimal.Binary) :
    ∀ c ∈ l.magnitude x, inWord c = true := by
  rw [Decimal.Layout.magnitude]
  split
  · split <;> exact inWord_of_all (by decide)
  · simp only
    split
    · exact inWord_positional l _
    · exact inWord_scientific _

lemma inWord_numberText (n : Number) : ∀ c ∈ (Print.numberText n).toList, inWord c = true := by
  have hsigned (negative : Prop) [Decidable negative] (t : String)
      (h : ∀ c ∈ t.toList, inWord c = true) :
      ∀ c ∈ (if negative then "-" ++ t else t).toList, inWord c = true := by
    split
    · rw [String.toList_append, List.forall_mem_append]
      exact ⟨inWord_of_all (by decide), h⟩
    · exact h
  cases n with
  | whole n =>
    change ∀ c ∈ (Int.repr n).toList, _
    cases n with
    | ofNat m => exact inWord_digitTexts m
    | negSucc m =>
      change ∀ c ∈ ("-" ++ Nat.repr (m + 1)).toList, _
      rw [String.toList_append, List.forall_mem_append]
      exact ⟨inWord_of_all (by decide), inWord_digitTexts (m + 1)⟩
  | float x =>
    simp only [Print.numberText, Decimal.Layout.text]
    split
    · exact inWord_of_all (by decide)
    · split
      · exact hsigned _ _ (inWord_of_all (by decide))
      · split
        · rw [String.toList_ofList]
          exact inWord_magnitude _ _
        · refine hsigned _ _ ?_
          rw [String.toList_ofList]
          exact inWord_magnitude _ _

lemma digitTexts_ne_nil (n : ℕ) : digitTexts n ≠ [] := by
  rw [digitTexts, Nat.toList_repr]
  exact Nat.toDigits_ne_nil

lemma magnitude_ne_nil (l : Decimal.Layout) (x : Decimal.Binary) : l.magnitude x ≠ [] := by
  have hdigits := digitTexts_ne_nil (x.shortest l.tie).digits
  rw [Decimal.Layout.magnitude]
  split
  · split <;> simp
  · simp only
    split
    · simp only [Decimal.Layout.positional]
      split
      · simp [hdigits]
      · split <;> simp
    · simp [Decimal.Layout.scientific]

lemma numberText_ne_nil (n : Number) : (Print.numberText n).toList ≠ [] := by
  have hsigned (negative : Prop) [Decidable negative] {t : String} (h : t.toList ≠ []) :
      (if negative then "-" ++ t else t).toList ≠ [] := by
    split
    · simp
    · exact h
  cases n with
  | whole n =>
    change (Int.repr n).toList ≠ []
    cases n with
    | ofNat m => exact digitTexts_ne_nil m
    | negSucc m =>
      change ("-" ++ Nat.repr (m + 1)).toList ≠ []
      simp
  | float x =>
    simp only [Print.numberText, Decimal.Layout.text]
    split
    · simp
    · split
      · exact hsigned _ (by simp)
      · split
        · rw [String.toList_ofList]
          exact magnitude_ne_nil _ _
        · refine hsigned _ ?_
          rw [String.toList_ofList]
          exact magnitude_ne_nil _ _

end Json

end Tabletop
