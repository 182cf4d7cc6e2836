import Mathlib.Algebra.Group.Nat.Defs
import Tabletop.Proofs.Json.Text
import Tabletop.Proofs.Results
import Tabletop.Sheet.Id

namespace Tabletop.SheetId

open Text (hexDigit hexValue?)

def lastDigits (count n : ℕ) : List ℕ :=
  (List.range count).map fun i => (n >>> (4 * (count - 1 - i))) % 16

lemma lastDigits_succ (count n : ℕ) :
    lastDigits (count + 1) n = lastDigits count (n / 16) ++ [n % 16] := by
  rw [lastDigits, List.range_succ, List.map_append, List.map_singleton]
  congr 1
  · refine List.map_congr_left fun i hi => ?_
    have hi : i < count := List.mem_range.1 hi
    have hshift : 4 * (count + 1 - 1 - i) = 4 + 4 * (count - 1 - i) := by omega
    rw [hshift, Nat.shiftRight_add, Nat.shiftRight_eq_div_pow n 4]
  · simp

lemma foldl_lastDigits (count n : ℕ) :
    (lastDigits count n).foldl (fun m d => m * 16 + d) 0 = n % 16 ^ count := by
  induction count generalizing n with
  | zero => simp [lastDigits, Nat.mod_one]
  | succ count ih =>
    rw [lastDigits_succ, List.foldl_append, ih, List.foldl_cons, List.foldl_nil, Nat.pow_succ',
      Nat.mod_mul]
    omega

lemma digits_eq (id : SheetId) : id.digits = (lastDigits 32 id.bits.toNat).map hexDigit := by
  rw [digits, lastDigits, List.map_map]
  rfl

lemma length_digits (id : SheetId) : id.digits.length = 32 := by
  rw [digits, List.length_map, List.length_range]

lemma mapM_digits (id : SheetId) :
    id.digits.mapM hexValue? = some (lastDigits 32 id.bits.toNat) := by
  rw [digits_eq]
  refine mapM_map_eq_pure fun d hd => Text.hexValue?_hexDigit d ?_
  obtain ⟨i, _, rfl⟩ := List.mem_map.1 hd
  exact Nat.mod_lt _ (by decide)

lemma ofDigits?_digits (id : SheetId) : ofDigits? id.digits = some id := by
  rw [ofDigits?, if_neg (by simp [length_digits]), mapM_digits]
  have hbits : id.bits.toNat % 16 ^ 32 = id.bits.toNat := Nat.mod_eq_of_lt id.bits.isLt
  change some (mk (BitVec.ofNat 128 ((lastDigits 32 id.bits.toNat).foldl _ 0))) = _
  rw [foldl_lastDigits, hbits, BitVec.ofNat_toNat, BitVec.setWidth_eq]

lemma no_hyphen (id : SheetId) : ∀ c ∈ id.digits, c ≠ '-' := by
  have hdigit : ∀ n < 16, hexDigit n ≠ '-' := by decide
  intro c hc
  obtain ⟨i, _, rfl⟩ := List.mem_map.1 hc
  exact hdigit _ (Nat.mod_lt _ (by decide))

lemma filter_hyphenate {ds : List Char} (h : ∀ c ∈ ds, c ≠ '-') :
    (hyphenate ds).filter (· ≠ '-') = ds := by
  have hkeep {es : List Char} (hes : es ⊆ ds) : es.filter (· ≠ '-') = es :=
    List.filter_eq_self.2 fun c hc => by simpa using h c (hes hc)
  have htake (n m : ℕ) : (ds.drop m).take n ⊆ ds :=
    fun c hc => List.mem_of_mem_drop (List.mem_of_mem_take hc)
  have hjoin (n m : ℕ) : (ds.drop m).take n ++ ds.drop (m + n) = ds.drop m := by
    rw [← List.drop_drop, List.take_append_drop]
  have hhyphen (es : List Char) : ('-' :: es).filter (· ≠ '-') = es.filter (· ≠ '-') := rfl
  simp only [hyphenate, List.filter_append, List.append_assoc, List.cons_append, hhyphen,
    hkeep (htake _ _), hkeep (List.take_subset 8 ds), hkeep (List.drop_subset 20 ds)]
  rw [hjoin 4 16, hjoin 4 12, hjoin 4 8]
  exact List.take_append_drop 8 ds

lemma length_hyphenate {ds : List Char} (h : ds.length = 32) : (hyphenate ds).length = 36 := by
  simp [hyphenate]
  omega

lemma parse?_text (id : SheetId) : parse? id.text = some id := by
  have hlength := length_hyphenate id.length_digits
  rw [parse?, text]
  simp only [String.toList_ofList]
  rw [if_neg (by omega), if_pos hlength, ofHyphenated?]
  simp only [filter_hyphenate id.no_hyphen, if_pos]
  exact id.ofDigits?_digits

end Tabletop.SheetId
