import Mathlib.Data.List.Nodup
import Tabletop.Proofs.Store.Slots
import Tabletop.Store.Dependency

namespace Tabletop

namespace Store

variable {s t : Store} {v : Variable} {vs ws xs : List Variable} {e : RuleError}

lemma perm_of_insert (h : s.insert v = .ok t) : t.slots.toList.Perm (v :: s.slots.toList) := by
  have hnew : v ∉ s.slots := fun hv => id_ne_of_get? (insert_eq_ok.1 h).1 hv rfl
  have hvs : (v :: s.slots.toList).Nodup := List.nodup_cons.2 ⟨hnew, .of_map _ s.ids_nodup⟩
  refine (List.perm_ext_iff_of_nodup (.of_map _ t.ids_nodup) hvs).2 fun w => ?_
  rw [List.mem_cons]
  exact mem_of_insert h

lemma append_perm_of_insert (h : s.insert v = .ok t) (vs : List Variable) :
    (vs ++ t.slots.toList).Perm (v :: vs ++ s.slots.toList) :=
  ((perm_of_insert h).append_left vs).trans List.perm_middle

lemma insert_eq_error (h : s.insert v = .error e) :
    e = .duplicateVariable v.id ∧ v.id ∈ s.ids := by
  rw [insert, contains] at h
  split at h
  · rename_i hold
    obtain ⟨w, hw⟩ := Option.isSome_iff_exists.1 hold
    cases h
    exact ⟨rfl, mem_ids_of_get? hw⟩
  · cases h

lemma perm_of_foldlM (h : vs.foldlM insert s = .ok t) :
    t.slots.toList.Perm (vs ++ s.slots.toList) := by
  induction vs generalizing s with
  | nil =>
    cases h
    exact .refl _
  | cons v vs ih =>
    rw [List.foldlM_cons, bind_eq_ok] at h
    obtain ⟨u, hu, h⟩ := h
    exact (ih h).trans (append_perm_of_insert hu vs)

lemma count_of_foldlM (h : vs.foldlM insert s = .error e) :
    ∃ id, e = .duplicateVariable id ∧ 2 ≤ ((vs ++ s.slots.toList).map Variable.id).count id := by
  induction vs generalizing s with
  | nil => cases h
  | cons v vs ih =>
    rw [List.foldlM_cons, bind_eq_error] at h
    rcases h with h | ⟨u, hu, h⟩
    · obtain ⟨rfl, hold⟩ := insert_eq_error h
      have hcount : 1 ≤ ((vs ++ s.slots.toList).map Variable.id).count v.id := by
        rw [List.one_le_count_iff, List.map_append, List.mem_append]
        exact .inr hold
      refine ⟨v.id, rfl, ?_⟩
      rw [List.cons_append, List.map_cons, List.count_cons_self]
      omega
    · obtain ⟨id, rfl, hcount⟩ := ih h
      rw [((append_perm_of_insert hu vs).map Variable.id).count_eq] at hcount
      exact ⟨id, rfl, hcount⟩

lemma perm_of_ofVariables (h : ofVariables vs = .ok s) : s.slots.toList.Perm vs := by
  simpa using perm_of_foldlM h

lemma count_of_ofVariables (h : ofVariables vs = .error e) :
    ∃ id, e = .duplicateVariable id ∧ 2 ≤ (vs.map Variable.id).count id := by
  simpa using count_of_foldlM h

lemma exists_ofVariables_iff : (∃ s, ofVariables vs = .ok s) ↔ (vs.map Variable.id).Nodup := by
  constructor
  · rintro ⟨s, hs⟩
    exact ((perm_of_ofVariables hs).map Variable.id).nodup_iff.1 s.ids_nodup
  · intro hvs
    cases h : ofVariables vs with
    | ok s => exact ⟨s, rfl⟩
    | error e =>
      obtain ⟨id, -, hcount⟩ := count_of_ofVariables h
      have hone : (vs.map Variable.id).count id ≤ 1 := List.nodup_iff_count_le_one.1 hvs id
      omega

lemma eq_of_perm (h : s.slots.toList.Perm t.slots.toList) : s = t := by
  cases s
  cases t
  exact congrArg mk (Sorted.ext_mem fun _ => h.mem_iff)

lemma ofVariables_eq_of_perm (h : s.slots.toList.Perm vs) : ofVariables vs = .ok s := by
  obtain ⟨t, ht⟩ := exists_ofVariables_iff.2 ((h.map Variable.id).nodup_iff.1 s.ids_nodup)
  rw [ht, eq_of_perm ((perm_of_ofVariables ht).trans h.symm)]

def inOrder (xs : List Variable) : List Variable :=
  xs.mergeSort fun v w => (Variable.order v w).isLE

lemma inOrder_pairwise (xs : List Variable) :
    (inOrder xs).Pairwise fun v w => (Variable.order v w).isLE := by
  refine List.pairwise_mergeSort (fun _ _ _ => Std.TransCmp.isLE_trans) (fun v w => ?_) xs
  have hswap : Variable.order w v = (Variable.order v w).swap := Std.OrientedCmp.eq_swap
  rw [hswap]
  cases Variable.order v w <;> rfl

lemma eq_inOrder (hvs : vs.Pairwise fun v w => Variable.order v w = .lt) (h : vs.Perm xs) :
    vs = inOrder xs := by
  have hids : (vs.map Variable.id).Nodup := by
    refine List.pairwise_map.2 (hvs.imp fun hlt hid => ?_)
    rw [Variable.order_eq_iff.2 hid] at hlt
    cases hlt
  have hsorted : vs.Perm (inOrder xs) := h.trans (List.mergeSort_perm xs _).symm
  refine hsorted.eq_of_pairwise (fun v w hv hw hvw hwv => ?_) ?_ (inOrder_pairwise xs)
  · have heq : Variable.order v w = .eq := Std.OrientedCmp.isLE_antisymm hvw hwv
    exact List.inj_on_of_nodup_map hids hv (hsorted.mem_iff.2 hw) (Variable.order_eq_iff.1 heq)
  · exact hvs.imp fun hlt => by rw [hlt]; rfl

def onlyOne (tag : Tag) : List Variable → Except RuleError Variable
  | [v] => .ok v
  | vs => .error (.ambiguous tag vs.length)

lemma onlyOne_of_length_ne (tag : Tag) (h : vs.length ≠ 1) :
    onlyOne tag vs = .error (.ambiguous tag vs.length) := by
  match vs with
  | [] => rfl
  | [v] => exact absurd rfl h
  | v :: w :: vs => rfl

lemma onlyOne_perm (tag : Tag) (h : vs.Perm ws) : onlyOne tag vs = onlyOne tag ws := by
  by_cases hone : ws.length = 1
  · obtain ⟨w, rfl⟩ := List.length_eq_one_iff.1 hone
    rw [h.eq_singleton]
  · rw [onlyOne_of_length_ne tag hone, onlyOne_of_length_ne tag (h.length_eq ▸ hone), h.length_eq]

def found (xs : List Variable) : VariableRef → List VariableId
  | .id i => [i]
  | .tag t => (xs.filter (·.hasTag t)).map Variable.id

/-- A table that is gone through in the order `xs` shows what the store shows. -/
structure Shows (s : Store) (xs : List Variable) : Prop where
  listed : s.slots.toList = inOrder xs
  ids : s.ids = (xs.map Variable.id).mergeSort fun i j => (compare i.key j.key).isLE
  get? : ∀ id, s.get? id = xs.find? (·.id = id)
  tagged : ∀ tag, s.tagged tag = inOrder (xs.filter (·.hasTag tag))
  resolveSingle : ∀ tag, s.resolveSingle (.tag tag) = onlyOne tag (xs.filter (·.hasTag tag))
  dependencies : ∀ b v, s.dependenciesOf b v = .ofList ((reads b v.setting).flatMap (found xs))

lemma shows_of_perm (h : s.slots.toList.Perm xs) : s.Shows xs where
  listed := eq_inOrder s.slots.increasing h
  ids := by
    rw [ids, eq_inOrder s.slots.increasing h]
    exact List.map_mergeSort fun _ _ _ _ => rfl
  get? id := by
    have hxs : (xs.map Variable.id).Nodup := (h.map Variable.id).nodup_iff.1 s.ids_nodup
    ext v
    rw [get?_eq_some_iff, find?_eq_some_iff hxs]
    exact and_congr_left fun _ => h.mem_iff
  tagged tag := eq_inOrder (s.slots.increasing.filter _) (h.filter _)
  resolveSingle tag := onlyOne_perm tag (h.filter _)
  dependencies b v := by
    have hfound (r : VariableRef) (id : VariableId) : id ∈ s.expand r ↔ id ∈ found xs r := by
      cases r with
      | id i => rfl
      | tag t => exact ((h.filter _).map Variable.id).mem_iff
    refine Sorted.ext_mem fun id => ?_
    simp only [dependenciesOf, Sorted.mem_ofList, List.mem_flatMap, hfound]

end Store

end Tabletop
