import Tabletop.Proofs.Dependency.Paths

namespace Tabletop

open Relation (ReflTransGen TransGen)

namespace Store

variable {α : Type} {visit : List VariableId → VariableId → Option α × List VariableId}
  {done : List VariableId} {ids : List VariableId}

lemma exists_of_firstFound {a : α} (h : (firstFound visit done ids).1 = some a) :
    ∃ id ∈ ids, ∃ done, (visit done id).1 = some a := by
  fun_induction firstFound visit done ids with
  | case1 => cases h
  | case2 done id ids found done' hv => exact ⟨id, by simp, done, by rw [hv]; exact h⟩
  | case3 done id ids done' hv ih =>
    obtain ⟨other, hother, h⟩ := ih h
    exact ⟨other, by simp [hother], h⟩

lemma good_of_firstFound {good : VariableId → Prop}
    (hvisit : ∀ done, (∀ x ∈ done, good x) → ∀ id, (visit done id).1 = none →
      good id ∧ ∀ x ∈ (visit done id).2, good x)
    (hdone : ∀ x ∈ done, good x) (h : (firstFound visit done ids).1 = none) :
    (∀ id ∈ ids, good id) ∧ ∀ x ∈ (firstFound visit done ids).2, good x := by
  fun_induction firstFound visit done ids with
  | case1 => exact ⟨by simp, hdone⟩
  | case2 => cases h
  | case3 done id ids done' hv ih =>
    have hid := hvisit done hdone id (by rw [hv])
    rw [hv] at hid
    obtain ⟨hids, hleft⟩ := ih hid.2 h
    exact ⟨List.forall_mem_cons.2 ⟨hid.1, hids⟩, hleft⟩

end Store

namespace Context

variable {c : Context} {id other : VariableId} {path done : List VariableId}

def Clear (c : Context) (id : VariableId) : Prop :=
  ∀ x, ReflTransGen c.Depends id x → ¬ TransGen c.Depends x x

lemma clear_of_dependencies (h : ∀ other, c.Depends id other → c.Clear other) : c.Clear id := by
  intro x hx ht
  -- a cycle through the variable itself goes through one of its dependencies too
  obtain ⟨other, hid, hother⟩ := TransGen.head'_iff.1 (TransGen.trans_right hx ht)
  exact h other hid x hother ht

lemma depends_of_get {v : Variable} (hv : c.store.get? id = some v) :
    c.Depends id other ↔ other ∈ c.store.dependenciesOf c.rulebook v := by
  simp [Depends, Store.dependencies, bind_eq_ok, Store.get_eq_ok, hv, pure, Except.pure]

lemma clear_of_get {v : Variable} (hv : c.store.get? id = some v)
    (h : ∀ other ∈ (c.store.dependenciesOf c.rulebook v).toList, c.Clear other) : c.Clear id :=
  clear_of_dependencies fun other ho => h other ((depends_of_get hv).1 ho)

lemma clear_of_undefined (h : c.store.get? id = none) : c.Clear id := by
  refine clear_of_dependencies fun other ho => ?_
  obtain ⟨v, hv, _⟩ := depends_iff.1 ho
  cases h.symm.trans hv

lemma cycle_of_visit {cycle : List VariableId} (hpath : ∀ p ∈ path, TransGen c.Depends p id)
    (h : (c.store.visit c.rulebook path done id).1 = some cycle) : ¬ c.Clear id := by
  -- all that is on the path leads to `id`, so to meet `id` there closes a cycle
  fun_induction Store.visit c.store c.rulebook path done id generalizing cycle with
  | case1 path done id hid => exact fun hclear => hclear id .refl (hpath id hid)
  | case2 | case3 => cases h
  | case4 path done id hid hdone v hv found done' hfirst ih =>
    have hfound := congrArg Prod.fst hfirst
    obtain ⟨other, hother, done'', hvisit⟩ := Store.exists_of_firstFound hfound
    have hdepends : c.Depends id other := (depends_of_get hv).2 hother
    have hother : ¬ c.Clear other := by
      refine ih done'' other (fun p hp => ?_) hvisit
      rcases List.mem_cons.1 hp with rfl | hp
      · exact .single hdepends
      · exact (hpath p hp).tail hdepends
    exact fun hclear => hother fun x hx => hclear x (.head hdepends hx)
  | case5 => cases h

lemma clear_of_visit (hdone : ∀ x ∈ done, c.Clear x)
    (h : (c.store.visit c.rulebook path done id).1 = none) :
    c.Clear id ∧ ∀ x ∈ (c.store.visit c.rulebook path done id).2, c.Clear x := by
  -- all that is done is clear, and `id` joins it once all that it depends on has
  fun_induction Store.visit c.store c.rulebook path done id with
  | case1 => cases h
  | case2 path done id hid hmem => exact ⟨hdone id hmem, hdone⟩
  | case3 path done id hid hmem hv => exact ⟨clear_of_undefined hv, hdone⟩
  | case4 => cases h
  | case5 path done id hid hmem v hv done' hfirst ih =>
    have hnone := congrArg Prod.fst hfirst
    obtain ⟨hdeps, hleft⟩ :=
      Store.good_of_firstFound (fun done hd other => ih done other hd) hdone hnone
    have hclear : c.Clear id := clear_of_get hv hdeps
    rw [hfirst] at hleft
    exact ⟨hclear, List.forall_mem_cons.2 ⟨hclear, hleft⟩⟩

lemma findCycle_eq_none : c.store.findCycle c.rulebook id = none ↔ c.Clear id := by
  constructor
  · intro h
    exact (clear_of_visit (by simp) h).1
  · intro h
    cases hfound : c.store.findCycle c.rulebook id with
    | none => rfl
    | some cycle => exact absurd h (cycle_of_visit (by simp) hfound)

end Context

end Tabletop
