import Tabletop.Json.Fields
import Tabletop.Proofs.Json.Finite

namespace Tabletop

namespace Json

variable {α : Type} {read : Json → Option α} {fields : List (String × Json)} {key : String}

lemma exists_of_mem_listOf? {j : Json} {as : List α} (h : listOf? read j = some as) {a : α}
    (ha : a ∈ as) : ∃ items, j = .list items ∧ ∃ i ∈ items, read i = some a := by
  cases j with
  | list items =>
    refine ⟨items, rfl, ?_⟩
    rw [listOf?] at h
    induction items generalizing as with
    | nil =>
      cases h
      cases ha
    | cons j items ih =>
      rw [List.mapM_cons] at h
      obtain ⟨b, hb, h⟩ := Option.bind_eq_some_iff.1 h
      obtain ⟨bs, hbs, h⟩ := Option.bind_eq_some_iff.1 h
      cases h
      rcases List.mem_cons.1 ha with rfl | ha
      · exact ⟨j, by simp, hb⟩
      · obtain ⟨i, hi, hread⟩ := ih ha hbs
        exact ⟨i, by simp [hi], hread⟩
  | null | bool | number | text | record => cases h

lemma exists_of_mem_defaulted? {as : List α}
    (h : defaulted? fields key (listOf? read) [] = some as) {a : α} (ha : a ∈ as) :
    ∃ j, read j = some a := by
  rw [defaulted?] at h
  split at h
  · cases h
    cases ha
  · obtain ⟨items, _, i, _, hi⟩ := exists_of_mem_listOf? h ha
    exact ⟨i, hi⟩

lemma finite_of_recordFields? {known : List String} {j : Json} (hj : j.Finite)
    (h : j.recordFields? known = some fields) : ∀ f ∈ fields, f.2.Finite := by
  cases hj with
  | record hfields =>
    rw [recordFields?] at h
    split at h <;> cases h
    exact hfields
  | null | bool | number | text | list => cases h

lemma finite_of_fields? {known : List String} {j : Json} (hj : j.Finite)
    (h : j.fields? known = some fields) : ∀ f ∈ fields, f.2.Finite := by
  cases hj with
  | list hitems =>
    rw [fields?] at h
    split at h <;> cases h
    intro f hf
    exact hitems f.2 (List.of_mem_zip hf).2
  | record hfields => exact finite_of_recordFields? (.record hfields) h
  | null | bool | number | text => cases h

lemma finite_of_lookup (hf : ∀ f ∈ fields, f.2.Finite) {j : Json}
    (h : fields.lookup key = some j) : j.Finite := by
  rw [List.lookup_eq_some_iff] at h
  obtain ⟨before, after, rfl, _⟩ := h
  exact hf (key, j) (by simp)

lemma finite_of_onlyField? {j : Json} (hj : j.Finite) {f : String × Json}
    (h : j.onlyField? = some f) : f.2.Finite := by
  unfold onlyField? at h
  split at h <;> cases h
  cases hj with
  | record hfields => exact hfields f (by simp)

lemma finite_of_tagged? {tag content : String} {j : Json} (hj : j.Finite) {name : String}
    {held : Json} (h : j.tagged? tag content = some (name, some held)) : held.Finite := by
  unfold tagged? at h
  split at h
  · obtain ⟨_, _, h⟩ := Option.bind_eq_some_iff.1 h
    cases h
    cases hj with
    | list hitems => exact hitems held (by simp)
  · simp only [bind, Option.bind_eq_some_iff] at h
    obtain ⟨fields, hfields, _, _, h⟩ := h
    have hlookup : fields.lookup content = some held := congrArg Prod.snd (Option.some.inj h)
    exact finite_of_lookup (finite_of_recordFields? hj hfields) hlookup

lemma finite_of_labelled? {tag : String} {j : Json} (hj : j.Finite) {name : String} {rest : Json}
    (h : j.labelled? tag = some (name, rest)) : rest.Finite := by
  unfold labelled? at h
  split at h
  · obtain ⟨_, _, h⟩ := Option.bind_eq_some_iff.1 h
    cases h
    cases hj with
    | list hitems => exact .list fun i hi => hitems i (List.mem_cons_of_mem _ hi)
  · simp only [bind, Option.bind_eq_some_iff] at h
    obtain ⟨_, _, _, _, h⟩ := h
    cases h
    exact hj

def KeepsFinite (read : Json → Option α) (numbers : α → List Float) : Prop :=
  ∀ j, j.Finite → ∀ a, read j = some a → ∀ x ∈ numbers a, x.isFinite = true

lemma keepsFinite_float? : KeepsFinite float? fun x => [x] := by
  intro j hj x h
  cases hj with
  | number hx =>
    cases h
    simpa using hx
  | null | bool | text | list | record => cases h

lemma keepsFinite_nil : KeepsFinite read fun _ => [] := fun _ _ _ _ => nofun

namespace KeepsFinite

variable {numbers : α → List Float}

lemma wrap (h : KeepsFinite read numbers) {β : Type} {f : α → β} {numbers' : β → List Float}
    {j : Json} (hj : j.Finite) {b : β} (hread : ((read j).bind fun a => some (f a)) = some b)
    (hf : ∀ a, numbers' (f a) = numbers a) : ∀ x ∈ numbers' b, x.isFinite = true := by
  obtain ⟨a, ha, hread⟩ := Option.bind_eq_some_iff.1 hread
  cases hread
  rw [hf]
  exact h j hj a ha

lemma listOf? (h : KeepsFinite read numbers) : KeepsFinite (listOf? read) (·.flatMap numbers) := by
  intro j hj as hread x hx
  obtain ⟨a, ha, hx⟩ := List.mem_flatMap.1 hx
  obtain ⟨items, rfl, i, hi, hread⟩ := exists_of_mem_listOf? hread ha
  cases hj with
  | list hitems => exact h i (hitems i hi) a hread x hx

lemma required? (h : KeepsFinite read numbers) (hf : ∀ f ∈ fields, f.2.Finite) {a : α}
    (hread : required? fields key read = some a) : ∀ x ∈ numbers a, x.isFinite = true := by
  obtain ⟨j, hj, hread⟩ := Option.bind_eq_some_iff.1 hread
  exact h j (finite_of_lookup hf hj) a hread

lemma defaulted? (h : KeepsFinite read numbers) (hf : ∀ f ∈ fields, f.2.Finite) {value : α}
    (hvalue : ∀ x ∈ numbers value, x.isFinite = true) {a : α}
    (hread : defaulted? fields key read value = some a) : ∀ x ∈ numbers a, x.isFinite = true := by
  rw [Json.defaulted?] at hread
  split at hread
  · cases hread
    exact hvalue
  · rename_i j hj
    exact h j (finite_of_lookup hf hj) a hread

end KeepsFinite

end Json

end Tabletop
