import Tabletop.Proofs.Evaluation.Simulation
import Tabletop.Proofs.Store.Slots
import Tabletop.Sheet

namespace Tabletop

open Sheet (gain)

namespace Store

variable {s t : Store} {id : VariableId} {v : Variable} {e : RuleError}

/-- The second store has all that the first one has, and what it has besides is untagged. -/
structure Extends (s t : Store) : Prop where
  kept : ∀ v ∈ s.slots, v ∈ t.slots
  untagged : ∀ v ∈ t.slots, v ∉ s.slots → v.tags = ∅

/-- The error says that there is no such variable, where the second store has one. -/
def Misses (s t : Store) (e : RuleError) : Prop :=
  ∃ v ∈ t.slots, v ∉ s.slots ∧ e = .unknownVariable v.id

lemma extends_insert (h : s.insert v = .ok t) (hv : v.tags = ∅) : s.Extends t := by
  refine ⟨fun w hw => (mem_of_insert h).2 (.inr hw), fun w hw hnew => ?_⟩
  obtain rfl := ((mem_of_insert h).1 hw).resolve_right hnew
  exact hv

lemma eq_of_misses_insert (h : s.insert v = .ok t) (he : Misses s t e) :
    e = .unknownVariable v.id := by
  obtain ⟨w, hw, hnew, rfl⟩ := he
  obtain rfl := ((mem_of_insert h).1 hw).resolve_right hnew
  rfl

lemma mem_gains {vs : List Variable} (hv : v ∈ s.slots) : v ∈ (vs.foldl gain s).slots := by
  refine List.foldlRecOn (motive := fun t => v ∈ t.slots) vs gain hv fun t hv w _ => ?_
  rw [gain]
  split
  · rename_i u hu
    exact (mem_of_insert hu).2 (.inr hv)
  · exact hv

namespace Extends

variable (h : s.Extends t)

include h

lemma get?_eq (id : VariableId) :
    (s.get? id = none ∧ Misses s t (.unknownVariable id)) ∨ t.get? id = s.get? id := by
  cases hs : s.get? id with
  | some v =>
    obtain ⟨hv, hid⟩ := get?_eq_some_iff.1 hs
    exact .inr (get?_eq_some_iff.2 ⟨h.kept v hv, hid⟩)
  | none =>
    cases ht : t.get? id with
    | none => exact .inr rfl
    | some v =>
      obtain ⟨hv, rfl⟩ := get?_eq_some_iff.1 ht
      exact .inl ⟨rfl, v, hv, fun hmem => id_ne_of_get? hs hmem rfl, rfl⟩

lemma get_eq (id : VariableId) : FailsAs (Misses s t) (s.get id) ∨ t.get id = s.get id := by
  rcases h.get?_eq id with ⟨hs, hmiss⟩ | hsame
  · exact .inl ⟨_, by rw [get, hs], hmiss⟩
  · exact .inr (by rw [get, get, hsame])

lemma tagged_eq (tag : Tag) : t.tagged tag = s.tagged tag := by
  have hmem (v : Variable) : v ∈ t.tagged tag ↔ v ∈ s.tagged tag := by
    simp only [tagged, List.mem_filter, ← Sorted.mem_def]
    refine and_congr_left fun htag => ⟨fun hv => ?_, h.kept v⟩
    by_contra hnew
    rw [Variable.hasTag, h.untagged v hv hnew] at htag
    cases htag
  have hsorted (s : Store) : (s.tagged tag).Pairwise fun v w => Variable.order v w = .lt :=
    s.slots.increasing.filter _
  exact congrArg Sorted.toList (Sorted.ext_mem (s := ⟨_, hsorted t⟩) (t := ⟨_, hsorted s⟩) hmem)

lemma resolveSingle_eq (r : VariableRef) :
    FailsAs (Misses s t) (s.resolveSingle r) ∨ t.resolveSingle r = s.resolveSingle r := by
  cases r with
  | id i => exact h.get_eq i
  | tag tag => exact .inr (by rw [resolveSingle, resolveSingle, h.tagged_eq])

lemma resolve_eq (r : VariableRef) :
    FailsAs (Misses s t) (s.resolve r) ∨ t.resolve r = s.resolve r := by
  cases r with
  | id i =>
    rcases h.get_eq i with ⟨e, he, hmiss⟩ | hsame
    · exact .inl ⟨e, by rw [resolve, he]; rfl, hmiss⟩
    · exact .inr (by rw [resolve, resolve, hsame])
  | tag tag => exact .inr (by rw [resolve, resolve, h.tagged_eq])

end Extends

end Store

end Tabletop
