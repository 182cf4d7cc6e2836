import Tabletop.Proofs.Results
import Tabletop.Proofs.Sorted
import Tabletop.Store

namespace Tabletop

lemma Variable.order_eq_iff {v w : Variable} : Variable.order v w = .eq ↔ v.id = w.id := by
  constructor
  · intro h
    exact VariableId.key_injective (Std.LawfulEqOrd.eq_of_compare h)
  · intro h
    simp [Variable.order, compareOn, h, Std.ReflCmp.compare_self]

namespace Store

variable {s t : Store} {id other : VariableId} {u v w : Variable}

lemma get?_eq_some_iff : s.get? id = some v ↔ v ∈ s.slots ∧ v.id = id :=
  find?_eq_some_iff s.ids_nodup

lemma get?_replace :
    (⟨s.slots.replace u⟩ : Store).get? other = if u.id = other then some u else s.get? other := by
  ext w
  rw [get?_eq_some_iff, Sorted.mem_replace, ne_eq, Variable.order_eq_iff]
  split
  · rename_i hu
    grind
  · rename_i hu
    rw [get?_eq_some_iff]
    grind

lemma insert_eq_ok : s.insert v = .ok t ↔ s.get? v.id = none ∧ t = ⟨s.slots.replace v⟩ := by
  rw [insert, contains]
  cases hv : s.get? v.id with
  | some w => simp
  | none =>
    have hnew : ∀ w ∈ s.slots, Variable.order v w ≠ .eq := by
      intro w hw heq
      rw [get?_eq_some_iff.2 ⟨hw, (Variable.order_eq_iff.1 heq).symm⟩] at hv
      cases hv
    rw [Sorted.insert_eq_replace hnew]
    simp [eq_comm]

lemma id_ne_of_get? (h : s.get? id = none) (hw : w ∈ s.slots) : w.id ≠ id := by
  rintro rfl
  rw [get?_eq_some_iff.2 ⟨hw, rfl⟩] at h
  cases h

lemma mem_of_insert (h : s.insert v = .ok t) : w ∈ t.slots ↔ w = v ∨ w ∈ s.slots := by
  obtain ⟨hnew, rfl⟩ := insert_eq_ok.1 h
  rw [Sorted.mem_replace, ne_eq, Variable.order_eq_iff]
  exact or_congr_right (and_iff_left_of_imp fun hw hid => id_ne_of_get? hnew hw hid.symm)

lemma set_eq_ok {setting : Setting} :
    s.set id setting = .ok t ↔ ∃ v, s.get? id = some v ∧ v.type = setting.type ∧
      t = ⟨s.slots.replace { v with setting }⟩ := by
  simp only [set, bind_eq_ok, get_eq_ok]
  refine exists_congr fun v => and_congr_right fun _ => ?_
  by_cases h : v.type = setting.type
  · simp [h, pure, Except.pure, eq_comm]
  · simp [h, throw, throwThe, MonadExceptOf.throw]

lemma record_eq_ok {a : Assignment} :
    s.record id a = .ok t ↔ ∃ v, s.get? id = some v ∧ v.type = .number ∧
      t = ⟨s.slots.replace { v with history := v.history ++ [a] }⟩ := by
  simp only [record, bind_eq_ok, get_eq_ok]
  refine exists_congr fun v => and_congr_right fun _ => ?_
  by_cases h : v.type = .number
  · simp [h, pure, Except.pure, eq_comm]
  · simp [h, throw, throwThe, MonadExceptOf.throw]

lemma assign_eq_ok {x : Float} {description : Option String} :
    s.assign id x description = .ok t ↔ ∃ v, s.get? id = some v ∧ v.type = .number ∧
      t = ⟨s.slots.replace { v with
        setting := .number (.literal x)
        history := v.history ++ [⟨.literal x, description⟩] }⟩ := by
  simp only [assign, bind_eq_ok, set_eq_ok, record_eq_ok]
  constructor
  · rintro ⟨_, ⟨v, hv, htype, rfl⟩, w, hw, _, rfl⟩
    rw [get?_replace, if_pos (id_of_get? hv)] at hw
    cases hw
    exact ⟨v, hv, htype, congrArg mk (Sorted.replace_replace (Variable.order_eq_iff.2 rfl))⟩
  · rintro ⟨v, hv, htype, rfl⟩
    refine ⟨_, ⟨v, hv, htype, rfl⟩, { v with setting := .number (.literal x) }, ?_, rfl, ?_⟩
    · rw [get?_replace, if_pos (id_of_get? hv)]
    · symm
      exact congrArg mk (Sorted.replace_replace (Variable.order_eq_iff.2 rfl))

end Store

end Tabletop
