import Mathlib.Data.Nat.Notation
import Tabletop.Json.Print
import Tabletop.Json.Token

namespace Tabletop

lemma Text.hexValue?_hexDigit : ∀ n < 16, hexValue? (hexDigit n) = some n := by decide

namespace Json

open Token (textUnits joinUnits)

lemma textUnits_escape {c : Char} {unit : ℕ} (h : Token.escape? c = some unit) (rest : List Char) :
    textUnits ('\\' :: c :: rest) =
      (textUnits rest).map fun (units, rest) => (unit :: units, rest) := by
  have hc : c ≠ 'u' := by
    rintro rfl
    cases h
  rw [textUnits]
  · rw [h]
    cases textUnits rest <;> rfl
  · intro _ _ _ _ _ hu
    cases hu
    exact (hc rfl).elim

lemma textUnits_control {n : ℕ} (h : n < 32) (rest : List Char) :
    textUnits (['\\', 'u', '0', '0', Text.hexDigit (n / 16), Text.hexDigit (n % 16)] ++ rest) =
      (textUnits rest).map fun (units, rest) => (n :: units, rest) := by
  have hzero : Text.hexValue? '0' = some 0 := by decide
  have hhigh := Text.hexValue?_hexDigit (n / 16) (by omega)
  have hlow := Text.hexValue?_hexDigit (n % 16) (by omega)
  have hn : (0 * 16 + 0) * 256 + (n / 16 * 16 + n % 16) = n := by omega
  simp only [List.cons_append, List.nil_append]
  rw [textUnits, hzero, hhigh, hlow]
  cases textUnits rest with
  | none => rfl
  | some p => exact congrArg (fun u => some (u :: p.1, p.2)) hn

lemma textUnits_plain {c : Char} (hquote : c ≠ '"') (hslash : c ≠ '\\') (h : ¬ c.toNat < 32)
    (rest : List Char) :
    textUnits (c :: rest) = (textUnits rest).map fun (units, rest) => (c.toNat :: units, rest) := by
  rw [textUnits]
  · rw [if_neg h]
    cases textUnits rest <;> rfl
  · exact hquote
  · intro _ _ _ _ _ hc _
    exact hslash hc
  · intro _ _ hc _
    exact hslash hc

lemma textUnits_escaped (c : Char) (rest : List Char) :
    textUnits (Print.escaped c ++ rest) =
      (textUnits rest).map fun (units, rest) => (c.toNat :: units, rest) := by
  unfold Print.escaped
  split
  · exact textUnits_escape rfl rest
  · exact textUnits_escape rfl rest
  · exact textUnits_escape rfl rest
  · exact textUnits_escape rfl rest
  · exact textUnits_escape rfl rest
  · exact textUnits_escape rfl rest
  · exact textUnits_escape rfl rest
  · rename_i hquote hslash _ _ _ _ _
    by_cases h : c.toNat < 32
    · rw [if_pos h]
      exact textUnits_control h rest
    · rw [if_neg h]
      exact textUnits_plain hquote hslash h rest

lemma textUnits_quoted (cs rest : List Char) :
    textUnits (cs.flatMap Print.escaped ++ '"' :: rest) = some (cs.map Char.toNat, rest) := by
  induction cs with
  | nil => simp [textUnits]
  | cons c cs ih =>
    rw [List.flatMap_cons, List.append_assoc, textUnits_escaped, ih]
    rfl

lemma not_surrogate (c : Char) : c.toNat < 0xD800 ∨ 0xE000 ≤ c.toNat := by
  have hvalid := c.valid
  simp only [UInt32.isValidChar, Nat.isValidChar] at hvalid
  change c.val.toNat < 0xD800 ∨ 0xE000 ≤ c.val.toNat
  omega

lemma joinUnits_toNat (cs : List Char) : joinUnits (cs.map Char.toNat) = some cs := by
  induction cs with
  | nil => rfl
  | cons c cs ih =>
    have hc := not_surrogate c
    have hlow : ¬ (0xD800 ≤ c.toNat ∧ c.toNat < 0xDC00) := by omega
    have hhigh : ¬ (0xDC00 ≤ c.toNat ∧ c.toNat < 0xE000) := by omega
    cases cs with
    | nil =>
      rw [List.map_singleton, joinUnits, if_neg (by omega), Char.ofNat_toNat]
    | cons d ds =>
      simp only [List.map_cons] at ih ⊢
      rw [joinUnits, if_neg hlow, if_neg hhigh, ih, Char.ofNat_toNat]
      rfl

end Json

end Tabletop
