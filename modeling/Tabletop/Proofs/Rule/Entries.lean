import Mathlib.Data.List.Nodup
import Tabletop.Rule.ValueSet

namespace Tabletop

namespace Entry

variable {found : List Entry} {e : Entry}

def keep (found : List Entry) (e : Entry) : List Entry :=
  if found.any (·.id = e.id) then found else found ++ [e]

/-- The first entry of each id, in their order. -/
def firsts (es : List Entry) : List Entry := es.eraseDupsBy fun e f => e.id == f.id

lemma keep_of_mem (h : e.id ∈ found.map Entry.id) : keep found e = found := by
  rw [keep, if_pos]
  simpa using h

lemma keep_of_not_mem (h : e.id ∉ found.map Entry.id) : keep found e = found ++ [e] := by
  rw [keep, if_neg]
  simpa using h

lemma foldl_keep (found es : List Entry) :
    es.foldl keep found = found ++ firsts (es.filter fun e => e.id ∉ found.map Entry.id) := by
  induction es generalizing found with
  | nil => simp [firsts]
  | cons e es ih =>
    rw [List.foldl_cons, ih]
    by_cases h : e.id ∈ found.map Entry.id
    · rw [keep_of_mem h, List.filter_cons_of_neg (by simpa using h)]
    · have hfilter : es.filter (fun f => f.id ∉ (found ++ [e]).map Entry.id) =
          (es.filter fun f => f.id ∉ found.map Entry.id).filter
            fun f => (f.id == e.id) = false := by
        rw [List.filter_filter]
        refine List.filter_congr fun f _ => ?_
        rw [Bool.eq_iff_iff, List.map_append]
        simp [not_or, and_comm]
      rw [keep_of_not_mem h, hfilter, List.filter_cons_of_pos (by simpa using h), firsts, firsts,
        List.eraseDupsBy_cons, List.append_assoc, List.singleton_append]

lemma firsts_eq_foldl (es : List Entry) : firsts es = es.foldl keep [] := by
  simp [foldl_keep]

lemma nodup_foldl_keep {es : List Entry} (h : (found.map Entry.id).Nodup) :
    ((es.foldl keep found).map Entry.id).Nodup := by
  induction es generalizing found with
  | nil => exact h
  | cons e es ih =>
    apply ih
    by_cases he : e.id ∈ found.map Entry.id
    · rwa [keep_of_mem he]
    · rw [keep_of_not_mem he, List.map_append, List.map_singleton, ← List.concat_eq_append]
      exact h.concat he

lemma nodup_firsts (es : List Entry) : ((firsts es).map Entry.id).Nodup := by
  rw [firsts_eq_foldl]
  exact nodup_foldl_keep .nil

lemma find?_keep (found : List Entry) (e : Entry) (id : EntryId) :
    (keep found e).find? (·.id = id) = (found ++ [e]).find? (·.id = id) := by
  by_cases he : e.id ∈ found.map Entry.id
  · rw [keep_of_mem he, List.find?_append]
    cases hf : found.find? (·.id = id) with
    | some f => rfl
    | none =>
      have hne : e.id ≠ id := by
        rintro rfl
        obtain ⟨f, hmem, hid⟩ := List.mem_map.1 he
        simpa [hid] using List.find?_eq_none.1 hf f hmem
      simp [hne]
  · rw [keep_of_not_mem he]

lemma find?_foldl_keep (found es : List Entry) (id : EntryId) :
    (es.foldl keep found).find? (·.id = id) = (found ++ es).find? (·.id = id) := by
  induction es generalizing found with
  | nil => simp
  | cons e es ih =>
    rw [List.foldl_cons, ih, List.find?_append, find?_keep, ← List.find?_append,
      List.append_assoc, List.singleton_append]

lemma find?_firsts (es : List Entry) (id : EntryId) :
    (firsts es).find? (·.id = id) = es.find? (·.id = id) := by
  rw [firsts_eq_foldl, find?_foldl_keep, List.nil_append]

lemma mem_ids_foldl_keep {es : List Entry} :
    e.id ∈ (es.foldl keep found).map Entry.id ↔ e.id ∈ (found ++ es).map Entry.id := by
  have hany (xs : List Entry) : e.id ∈ xs.map Entry.id ↔ (xs.find? (·.id = e.id)).isSome := by
    simp
  rw [hany, hany, find?_foldl_keep]

lemma foldl_keep_foldl_keep (found kept es : List Entry) :
    (es.foldl keep kept).foldl keep found = es.foldl keep (kept.foldl keep found) := by
  induction es generalizing kept with
  | nil => rfl
  | cons e es ih =>
    rw [List.foldl_cons, List.foldl_cons, ih]
    congr 1
    by_cases he : e.id ∈ kept.map Entry.id
    · have hmem : e.id ∈ (kept.foldl keep found).map Entry.id := by
        rw [mem_ids_foldl_keep, List.map_append]
        exact List.mem_append_right _ he
      rw [keep_of_mem he, keep_of_mem hmem]
    · rw [keep_of_not_mem he, List.foldl_append, List.foldl_cons, List.foldl_nil]

lemma firsts_append (as bs : List Entry) : firsts (firsts as ++ firsts bs) = firsts (as ++ bs) := by
  simp only [firsts_eq_foldl, List.foldl_append, foldl_keep_foldl_keep, List.foldl_nil]

lemma firsts_firsts (es : List Entry) : firsts (firsts es) = firsts es := by
  simpa [firsts] using firsts_append es []

lemma id_mem_firsts {es : List Entry} (h : e ∈ es) : e.id ∈ (firsts es).map Entry.id := by
  rw [firsts_eq_foldl, mem_ids_foldl_keep]
  exact List.mem_map_of_mem h

end Entry

end Tabletop
