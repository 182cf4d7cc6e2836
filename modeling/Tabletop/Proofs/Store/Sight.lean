import Tabletop.Proofs.Results
import Tabletop.Store

/-! What is seen of a store while the settings of all but some variables are covered. -/

namespace Tabletop

lemma Sorted.map_replaceList {α β : Type} {cmp : α → α → Ordering} [Std.TransCmp cmp] {xs : List α}
    {x y : α} (hxs : xs.Pairwise fun a b => cmp a b = .lt) (hy : y ∈ xs) (hxy : cmp x y = .eq)
    {f : α → β} (hf : f x = f y) : (replaceList cmp x xs).map f = xs.map f := by
  induction xs with
  | nil => cases hy
  | cons z zs ih =>
    obtain ⟨hz, hzs⟩ := List.pairwise_cons.1 hxs
    have hcmp : cmp x z = cmp y z := Std.TransCmp.congr_left hxy
    rw [replaceList, hcmp]
    rcases List.mem_cons.1 hy with rfl | hy
    · simp [Std.ReflCmp.compare_self, hf]
    · simp [Std.OrientedCmp.gt_of_lt (hz y hy), ih hzs hy]

structure Sight where
  id : VariableId
  tags : Sorted Tag compare
  setting : Option Setting

open scoped Classical in
noncomputable def Variable.sight (known : VariableId → Prop) (v : Variable) : Sight :=
  ⟨v.id, v.tags, if known v.id then some v.setting else none⟩

namespace Store

variable {known : VariableId → Prop} {s t : Store} {id : VariableId}

noncomputable def seen (known : VariableId → Prop) (s : Store) : List Sight :=
  s.slots.toList.map (Variable.sight known)

lemma mem_of_get {v : Variable} (h : s.get id = .ok v) : v ∈ s.slots.toList ∧ v.id = id :=
  have hv := get_eq_ok.1 h
  ⟨List.mem_of_find?_eq_some hv, id_of_get? hv⟩

lemma seen_replace {u v : Variable} (hv : v ∈ s.slots.toList)
    (h : u.sight known = v.sight known) : seen known ⟨s.slots.replace u⟩ = s.seen known := by
  refine Sorted.map_replaceList s.slots.increasing hv ?_ h
  have hid : u.id = v.id := congrArg Sight.id h
  simp [Variable.order, compareOn, hid, Std.ReflCmp.compare_self]

lemma seen_set {setting : Setting} (hid : ¬ known id) (h : s.set id setting = .ok t) :
    t.seen known = s.seen known := by
  rw [set, bind_eq_ok] at h
  obtain ⟨v, hv, h⟩ := h
  split at h <;> cases h
  obtain ⟨hmem, rfl⟩ := mem_of_get hv
  exact seen_replace hmem (by simp [Variable.sight, hid])

lemma seen_record {a : Assignment} (h : s.record id a = .ok t) :
    t.seen known = s.seen known := by
  rw [record, bind_eq_ok] at h
  obtain ⟨v, hv, h⟩ := h
  split at h <;> cases h
  exact seen_replace (mem_of_get hv).1 rfl

inductive Change where
  | set (id : VariableId) (setting : Setting)
  | record (id : VariableId) (a : Assignment)

def change (s : Store) : Change → Except RuleError Store
  | .set id setting => s.set id setting
  | .record id a => s.record id a

def changed (s : Store) (x : Change) : Store :=
  match s.change x with
  | .ok t => t
  | .error _ => s

lemma seen_changes {xs : List Change} (h : ∀ id setting, .set id setting ∈ xs → ¬ known id) :
    (xs.foldl changed s).seen known = s.seen known := by
  induction xs generalizing s with
  | nil => rfl
  | cons x xs ih =>
    rw [List.foldl_cons, ih fun id setting hx => h id setting (.tail _ hx), changed]
    split
    · rename_i hx
      cases x with
      | set id setting => exact seen_set (h id setting (.head _)) hx
      | record id a => exact seen_record hx
    · rfl

lemma id_resolveSingle_tag (s : Store) (tag : Tag) :
    (s.resolveSingle (.tag tag)).map Variable.id =
      match (s.tagged tag).map Variable.id with
      | [i] => .ok i
      | ids => .error (.ambiguous tag ids.length) := by
  rw [resolveSingle]
  rcases s.tagged tag with _ | ⟨v, _ | ⟨w, vs⟩⟩ <;> simp [Except.map]

variable (h : s.seen known = t.seen known)

include h

lemma sight_get? (id : VariableId) :
    (s.get? id).map (Variable.sight known) = (t.get? id).map (Variable.sight known) := by
  have hfind := congrArg (List.find? (·.id = id)) h
  simp only [seen, List.find?_map] at hfind
  exact hfind

lemma sight_tagged (tag : Tag) :
    (s.tagged tag).map (Variable.sight known) = (t.tagged tag).map (Variable.sight known) := by
  have hfilter := congrArg (List.filter (·.tags.toList.contains tag)) h
  simp only [seen, List.filter_map] at hfilter
  exact hfilter

lemma id_resolveSingle (r : VariableRef) :
    (s.resolveSingle r).map Variable.id = (t.resolveSingle r).map Variable.id := by
  cases r with
  | id i =>
    have hget := sight_get? h i
    rw [resolveSingle, resolveSingle, get, get]
    cases hs : s.get? i <;> cases ht : t.get? i <;> simp only [hs, ht] at hget ⊢
    · cases hget
    · cases hget
    · simp only [Except.map, id_of_get? hs, id_of_get? ht]
  | tag tag =>
    have htagged := congrArg (List.map Sight.id) (sight_tagged h tag)
    simp only [List.map_map] at htagged
    rw [id_resolveSingle_tag, id_resolveSingle_tag]
    change (s.tagged tag).map Variable.id = (t.tagged tag).map Variable.id at htagged
    rw [htagged]

end Store

end Tabletop
