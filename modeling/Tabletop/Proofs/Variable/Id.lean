import Mathlib.Data.List.Infix
import Tabletop.Variable.Id

namespace Tabletop

namespace VariableId

variable {cs before after : List Char} {c : Char} {id : VariableId}

section Cut

lemma cut?_cons (h : ∀ rest, c = ':' → cs ≠ ':' :: rest) :
    cut? (c :: cs) = (cut? cs).map fun (before, after) => (c :: before, after) := by
  rw [cut?]
  exact h

lemma prefix_cons_iff : [':', ':'] <+: c :: cs ↔ c = ':' ∧ ∃ rest, cs = ':' :: rest := by
  cases cs <;> simp [List.cons_prefix_cons, eq_comm]

lemma infix_cons (h : ∀ rest, c = ':' → cs ≠ ':' :: rest) :
    [':', ':'] <:+: c :: cs ↔ [':', ':'] <:+: cs := by
  rw [List.infix_cons_iff, prefix_cons_iff]
  grind

lemma infix_concat : [':', ':'] <:+: before ++ [':'] ↔
    [':', ':'] <:+: before ∨ [':'] <:+ before := by
  have hsuffix : [':', ':'] <:+ before ++ [':'] ↔ [':'] <:+ before := by
    rw [List.suffix_concat_iff]
    constructor
    · rintro (h | ⟨t, ht, h⟩)
      · cases h
      · obtain rfl : [':'] = t := List.append_inj_left' (show [':'] ++ [':'] = _ from ht) rfl
        exact h
    · exact fun h => .inr ⟨[':'], rfl, h⟩
  rw [List.infix_concat_iff, hsuffix, or_comm]

lemma cut?_eq_none : cut? cs = none ↔ ¬ [':', ':'] <:+: cs := by
  fun_induction cut? cs with
  | case1 => simp
  | case2 rest => simp [List.infix_cons_iff]
  | case3 c rest h ih => rw [Option.map_eq_none_iff, ih, infix_cons h]

lemma cut?_join : cut? (before ++ ':' :: ':' :: after) = some (before, after) ↔
    ¬ [':', ':'] <:+: before ++ [':'] := by
  induction before with
  | nil => simp [cut?, List.infix_cons_iff]
  | cons c before ih =>
    rw [List.cons_append, List.cons_append]
    by_cases hstart : c = ':' ∧ ∃ rest, before ++ [':'] = ':' :: rest
    · obtain ⟨rfl, rest, hrest⟩ := hstart
      have hcut : before ++ ':' :: ':' :: after = ':' :: (rest ++ ':' :: after) := by
        simpa using congrArg (· ++ ':' :: after) hrest
      have hinfix : [':', ':'] <:+: ':' :: (before ++ [':']) :=
        (prefix_cons_iff.2 ⟨rfl, rest, hrest⟩).isInfix
      simp [hcut, cut?, hinfix]
    · have hbelow : ∀ rest, c = ':' → before ++ ':' :: ':' :: after ≠ ':' :: rest := by
        rintro rest rfl h
        cases before with
        | nil => exact hstart ⟨rfl, [], rfl⟩
        | cons b before => exact hstart ⟨rfl, before ++ [':'], by rw [(List.cons.inj h).1]; rfl⟩
      rw [cut?_cons hbelow, infix_cons fun rest hc h => hstart ⟨hc, rest, h⟩, ← ih]
      simp

end Cut

/-- The text of the id has its first two colons in a row where the scope ends, and without a scope
it has none. -/
def Separable (id : VariableId) : Prop :=
  match id.scope with
  | none => ¬ [':', ':'] <:+: id.name.toList
  | some scope => ¬ [':', ':'] <:+: scope.toList ∧ ¬ [':'] <:+ scope.toList

instance : DecidablePred Separable
  | ⟨none, _⟩ => inferInstanceAs (Decidable (¬ _))
  | ⟨some _, _⟩ => inferInstanceAs (Decidable (_ ∧ _))

lemma parse_text_iff : parse id.text = id ↔ id.Separable := by
  obtain ⟨_ | scope, name⟩ := id
  · change parse name = _ ↔ ¬ _
    rw [← cut?_eq_none, parse]
    split <;> simp_all
  · change parse (scope ++ "::" ++ name) = _ ↔ _ ∧ _
    have htext : (scope ++ "::" ++ name).toList = scope.toList ++ ':' :: ':' :: name.toList := by
      simp
    rw [← not_or, ← infix_concat, ← @cut?_join _ name.toList, parse, htext]
    split
    · rename_i before after hcut
      simp [hcut, String.ext_iff]
    · rename_i hcut
      simp [hcut]

lemma text_injective {a b : VariableId} (ha : a.Separable) (hb : b.Separable)
    (h : a.text = b.text) : a = b := by
  rw [← parse_text_iff.2 ha, h, parse_text_iff.2 hb]

example : parse (text ⟨some "stats", ":str"⟩) = ⟨some "stats", ":str"⟩ :=
  parse_text_iff.2 (by decide)

end VariableId

end Tabletop
