import Mathlib.Data.List.Nodup
import Mathlib.Tactic.Common
import Tabletop.Sorted

namespace Tabletop

lemma find?_eq_some_iff {α κ : Type} [DecidableEq κ] {key : α → κ} {xs : List α}
    (hxs : (xs.map key).Nodup) {k : κ} {x : α} :
    xs.find? (fun x => key x = k) = some x ↔ x ∈ xs ∧ key x = k := by
  constructor
  · intro h
    exact ⟨List.mem_of_find?_eq_some h, by simpa using List.find?_some h⟩
  · rintro ⟨hx, rfl⟩
    obtain ⟨y, hy⟩ : ∃ y, xs.find? (fun y => key y = key x) = some y :=
      Option.isSome_iff_exists.1 (List.find?_isSome.2 ⟨x, hx, by simp⟩)
    have hkey : key y = key x := by simpa using List.find?_some hy
    rw [hy, List.inj_on_of_nodup_map hxs (List.mem_of_find?_eq_some hy) hx hkey]

namespace Sorted

variable {α : Type} {cmp : α → α → Ordering} [Std.TransCmp cmp]

lemma mem_replaceList {x z : α} {xs : List α} (hxs : xs.Pairwise fun a b => cmp a b = .lt) :
    z ∈ replaceList cmp x xs ↔ z = x ∨ z ∈ xs ∧ cmp x z ≠ .eq := by
  induction xs with
  | nil => simp [replaceList]
  | cons y ys ih =>
    obtain ⟨hy, hys⟩ := List.pairwise_cons.1 hxs
    rw [replaceList]
    cases hxy : cmp x y with
    | lt =>
      have hlt : ∀ z ∈ y :: ys, cmp x z = .lt := by
        intro z hz
        rcases List.mem_cons.1 hz with rfl | hz
        · exact hxy
        · exact Std.TransCmp.lt_trans hxy (hy z hz)
      simp only [List.mem_cons]
      grind
    | eq =>
      have hlt : ∀ z ∈ ys, cmp x z = .lt := by
        intro z hz
        rw [Std.TransCmp.congr_left hxy]
        exact hy z hz
      simp only [List.mem_cons]
      grind
    | gt =>
      simp only [List.mem_cons, ih hys]
      grind

omit [Std.TransCmp cmp] in
@[simp]
lemma not_mem_empty {z : α} : z ∉ (∅ : Sorted α cmp) := List.not_mem_nil

omit [Std.TransCmp cmp] in
lemma mem_of_mem_foldl {add : Sorted α cmp → α → Sorted α cmp}
    (hadd : ∀ {s x z}, z ∈ add s x → z = x ∨ z ∈ s) {s : Sorted α cmp} {xs : List α} {z : α}
    (h : z ∈ xs.foldl add s) : z ∈ s ∨ z ∈ xs := by
  induction xs generalizing s with
  | nil => exact .inl h
  | cons x xs ih =>
    rw [List.foldl_cons] at h
    rcases ih h with h | h
    · rcases hadd h with rfl | h
      · exact .inr List.mem_cons_self
      · exact .inl h
    · exact .inr (List.mem_cons_of_mem x h)

lemma mem_of_mem_foldl_insert {s : Sorted α cmp} {xs : List α} {z : α} (h : z ∈ xs.foldl insert s) :
    z ∈ s ∨ z ∈ xs := mem_of_mem_foldl eq_or_mem_of_mem_insertList h

lemma mem_of_mem_ofList {xs : List α} {z : α} (h : z ∈ (ofList xs : Sorted α cmp)) : z ∈ xs :=
  (mem_of_mem_foldl_insert h).resolve_left not_mem_empty

lemma mem_replace {s : Sorted α cmp} {x z : α} :
    z ∈ s.replace x ↔ z = x ∨ z ∈ s ∧ cmp x z ≠ .eq := mem_replaceList s.increasing

lemma mem_of_mem_foldl_replace {s : Sorted α cmp} {xs : List α} {z : α}
    (h : z ∈ xs.foldl replace s) : z ∈ s ∨ z ∈ xs := mem_of_mem_foldl eq_or_mem_of_mem_replaceList h

omit [Std.TransCmp cmp] in
lemma insertList_eq_replaceList {x : α} {xs : List α} (h : ∀ y ∈ xs, cmp x y ≠ .eq) :
    insertList cmp x xs = replaceList cmp x xs := by
  induction xs with
  | nil => rfl
  | cons y ys ih =>
    rw [insertList, replaceList]
    cases hxy : cmp x y with
    | lt => rfl
    | eq => exact absurd hxy (h y (by simp))
    | gt => simp only [ih fun z hz => h z (by simp [hz])]

lemma insert_eq_replace {s : Sorted α cmp} {x : α} (h : ∀ y ∈ s, cmp x y ≠ .eq) :
    s.insert x = s.replace x := ext (insertList_eq_replaceList h)

lemma replace_replace {s : Sorted α cmp} {x y : α} (h : cmp x y = .eq) :
    (s.replace x).replace y = s.replace y := by
  apply ext_mem
  intro z
  have hz : cmp x z = cmp y z := Std.TransCmp.congr_left h
  have hyx : cmp y x = .eq := Std.OrientedCmp.eq_symm h
  simp only [mem_replace, hz]
  grind

omit [Std.TransCmp cmp] in
lemma insertList_eq_append [Std.OrientedCmp cmp] {x : α} {xs : List α}
    (h : ∀ y ∈ xs, cmp y x = .lt) : insertList cmp x xs = xs ++ [x] := by
  induction xs with
  | nil => rfl
  | cons y ys ih =>
    have hxy : cmp x y = .gt := Std.OrientedCmp.gt_of_lt (h y (by simp))
    simp only [insertList, hxy, ih fun z hz => h z (by simp [hz]), List.cons_append]

lemma toList_foldl_insert {s : Sorted α cmp} {xs : List α}
    (h : (s.toList ++ xs).Pairwise fun a b => cmp a b = .lt) :
    (xs.foldl insert s).toList = s.toList ++ xs := by
  induction xs generalizing s with
  | nil => rw [List.foldl_nil, List.append_nil]
  | cons x xs ih =>
    have hlast : ∀ y ∈ s.toList, cmp y x = .lt :=
      fun y hy => (List.pairwise_append.1 h).2.2 y hy x (by simp)
    have hinsert : (s.insert x).toList = s.toList ++ [x] := insertList_eq_append hlast
    rw [List.foldl_cons, ih (by simpa [hinsert] using h), hinsert, List.append_assoc]
    rfl

lemma ofList_toList (s : Sorted α cmp) : ofList s.toList = s := by
  apply ext
  exact toList_foldl_insert (by simpa using s.increasing)

end Sorted

end Tabletop
