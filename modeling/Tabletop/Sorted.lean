/-!
Lists kept in strictly increasing order: the sets and catalogues of a rulebook. Two of them with
the same members are equal, so the order in which members arrive is forgotten.
-/

namespace Tabletop

structure Sorted (α : Type) (cmp : α → α → Ordering) where
  toList : List α
  increasing : toList.Pairwise fun a b => cmp a b = .lt
  deriving DecidableEq

namespace Sorted

variable {α : Type} {cmp : α → α → Ordering}

theorem ext {s t : Sorted α cmp} (h : s.toList = t.toList) : s = t := by
  cases s; cases t; cases h; rfl

instance : Membership α (Sorted α cmp) := ⟨fun s x => x ∈ s.toList⟩

theorem mem_def {s : Sorted α cmp} {x : α} : x ∈ s ↔ x ∈ s.toList := Iff.rfl

def empty : Sorted α cmp := ⟨[], .nil⟩

instance : EmptyCollection (Sorted α cmp) := ⟨empty⟩
instance : Inhabited (Sorted α cmp) := ⟨empty⟩

@[simp] theorem toList_empty : (∅ : Sorted α cmp).toList = [] := rfl

theorem nodup_map {κ : Type} (s : Sorted α cmp) (key : α → κ)
    (hkey : ∀ a b, key a = key b → cmp a b ≠ .lt) : (s.toList.map key).Nodup :=
  List.pairwise_map.2 (s.increasing.imp fun h heq => hkey _ _ heq h)

/-- Puts `x` at its place; a member that is already there stays. -/
def insertList (cmp : α → α → Ordering) (x : α) : List α → List α
  | [] => [x]
  | y :: ys =>
    match cmp x y with
    | .lt => x :: y :: ys
    | .eq => y :: ys
    | .gt => y :: insertList cmp x ys

def replaceList (cmp : α → α → Ordering) (x : α) : List α → List α
  | [] => [x]
  | y :: ys =>
    match cmp x y with
    | .lt => x :: y :: ys
    | .eq => x :: ys
    | .gt => y :: replaceList cmp x ys

theorem eq_or_mem_of_mem_insertList {x z : α} {xs : List α} (h : z ∈ insertList cmp x xs) :
    z = x ∨ z ∈ xs := by
  induction xs with
  | nil => exact .inl (by simpa [insertList] using h)
  | cons y ys ih => rw [insertList] at h; split at h <;> grind

theorem eq_or_mem_of_mem_replaceList {x z : α} {xs : List α} (h : z ∈ replaceList cmp x xs) :
    z = x ∨ z ∈ xs := by
  induction xs with
  | nil => exact .inl (by simpa [replaceList] using h)
  | cons y ys ih => rw [replaceList] at h; split at h <;> grind

variable [Std.TransCmp cmp]

theorem insertList_increasing (x : α) {xs : List α} (h : xs.Pairwise fun a b => cmp a b = .lt) :
    (insertList cmp x xs).Pairwise fun a b => cmp a b = .lt := by
  induction xs with
  | nil => simp [insertList]
  | cons y ys ih =>
    have ⟨hy, hys⟩ := List.pairwise_cons.1 h
    rw [insertList]
    split
    · rename_i hxy
      refine List.pairwise_cons.2 ⟨fun z hz => ?_, h⟩
      rcases List.mem_cons.1 hz with rfl | hz
      · exact hxy
      · exact Std.TransCmp.lt_trans hxy (hy z hz)
    · exact h
    · rename_i hxy
      refine List.pairwise_cons.2 ⟨fun z hz => ?_, ih hys⟩
      rcases eq_or_mem_of_mem_insertList hz with rfl | hz
      · exact Std.OrientedCmp.lt_of_gt hxy
      · exact hy z hz

theorem replaceList_increasing (x : α) {xs : List α} (h : xs.Pairwise fun a b => cmp a b = .lt) :
    (replaceList cmp x xs).Pairwise fun a b => cmp a b = .lt := by
  induction xs with
  | nil => simp [replaceList]
  | cons y ys ih =>
    have ⟨hy, hys⟩ := List.pairwise_cons.1 h
    rw [replaceList]
    split
    · rename_i hxy
      refine List.pairwise_cons.2 ⟨fun z hz => ?_, h⟩
      rcases List.mem_cons.1 hz with rfl | hz
      · exact hxy
      · exact Std.TransCmp.lt_trans hxy (hy z hz)
    · rename_i hxy
      refine List.pairwise_cons.2 ⟨fun z hz => ?_, hys⟩
      rw [Std.TransCmp.congr_left hxy]
      exact hy z hz
    · rename_i hxy
      refine List.pairwise_cons.2 ⟨fun z hz => ?_, ih hys⟩
      rcases eq_or_mem_of_mem_replaceList hz with rfl | hz
      · exact Std.OrientedCmp.lt_of_gt hxy
      · exact hy z hz

def insert (s : Sorted α cmp) (x : α) : Sorted α cmp :=
  ⟨insertList cmp x s.toList, insertList_increasing x s.increasing⟩

def replace (s : Sorted α cmp) (x : α) : Sorted α cmp :=
  ⟨replaceList cmp x s.toList, replaceList_increasing x s.increasing⟩

/-- Members that come later give way to those that compare equal to them. -/
def ofList (xs : List α) : Sorted α cmp := xs.foldl insert ∅

omit [Std.TransCmp cmp] in
theorem mem_insertList_of_eq {x z : α} {xs : List α} (hx : ∀ y ∈ xs, cmp x y = .eq → x = y) :
    z ∈ insertList cmp x xs ↔ z = x ∨ z ∈ xs := by
  refine ⟨eq_or_mem_of_mem_insertList, fun h => ?_⟩
  induction xs with
  | nil => simpa [insertList] using h
  | cons y ys ih =>
    rw [insertList]
    split
    · simpa using h
    · rename_i hxy; obtain rfl := hx y (by simp) hxy; simpa using h
    · grind

theorem mem_foldl_insert_of_eq {s : Sorted α cmp} {xs : List α} {z : α}
    (h : ∀ x ∈ xs, ∀ y, y ∈ s ∨ y ∈ xs → cmp x y = .eq → x = y) :
    z ∈ xs.foldl insert s ↔ z ∈ s ∨ z ∈ xs := by
  induction xs generalizing s with
  | nil => simp
  | cons x xs ih =>
    have hmem (y : α) : y ∈ s.insert x ↔ y = x ∨ y ∈ s :=
      mem_insertList_of_eq fun y hy => h x (by simp) y (.inl hy)
    rw [List.foldl_cons, ih, hmem, List.mem_cons]
    · grind
    · intro w hw y hy
      refine h w (by simp [hw]) y ?_
      rw [hmem] at hy
      grind

theorem mem_foldl_insert [Std.LawfulEqCmp cmp] {s : Sorted α cmp} {xs : List α} {z : α} :
    z ∈ xs.foldl insert s ↔ z ∈ s ∨ z ∈ xs :=
  mem_foldl_insert_of_eq fun _ _ _ _ => Std.LawfulEqCmp.eq_of_compare

theorem mem_ofList [Std.LawfulEqCmp cmp] {xs : List α} {z : α} :
    z ∈ (ofList xs : Sorted α cmp) ↔ z ∈ xs :=
  mem_foldl_insert.trans (by simp [mem_def])

theorem ext_mem {s t : Sorted α cmp} (h : ∀ x, x ∈ s ↔ x ∈ t) : s = t := by
  obtain ⟨xs, hx⟩ := s
  obtain ⟨ys, hy⟩ := t
  have irrefl (a : α) : cmp a a ≠ .lt := by simp [Std.ReflCmp.compare_self]
  refine ext ?_
  change xs = ys
  replace h : ∀ x, x ∈ xs ↔ x ∈ ys := h
  induction xs generalizing ys with
  | nil => cases ys with
    | nil => rfl
    | cons y ys => simpa using (h y).2 (by simp)
  | cons a xs ih =>
    cases ys with
    | nil => simpa using (h a).1 (by simp)
    | cons b ys =>
      have ⟨ha, hxs⟩ := List.pairwise_cons.1 hx
      have ⟨hb, hys⟩ := List.pairwise_cons.1 hy
      have hab : a = b := by
        rcases List.mem_cons.1 ((h a).1 (by simp)) with hab | hmem
        · exact hab
        · rcases List.mem_cons.1 ((h b).2 (by simp)) with hba | hmem'
          · exact hba.symm
          · exact absurd (Std.TransCmp.lt_trans (hb a hmem) (ha b hmem')) (irrefl b)
      subst hab
      congr 1
      refine ih hxs ys hys fun z => ⟨fun hz => ?_, fun hz => ?_⟩
      · rcases List.mem_cons.1 ((h z).1 (by simp [hz])) with rfl | hz'
        · exact absurd (ha z hz) (irrefl z)
        · exact hz'
      · rcases List.mem_cons.1 ((h z).2 (by simp [hz])) with rfl | hz'
        · exact absurd (hb z hz) (irrefl z)
        · exact hz'

end Sorted

end Tabletop
