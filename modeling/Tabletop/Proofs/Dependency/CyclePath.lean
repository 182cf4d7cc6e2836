import Mathlib.Data.List.Chain
import Mathlib.Data.List.Nodup
import Tabletop.Proofs.Dependency.Search

namespace Tabletop

open Relation (ReflTransGen TransGen)

namespace Context

variable {c : Context} {root id other : VariableId} {path done cycle : List VariableId}

/-- How a search that began at `root` has come to `id`; `path` is what it is inside of. -/
structure Trail (c : Context) (root id : VariableId) (path : List VariableId) : Prop where
  chain : (id :: path).IsChain fun x y => c.Depends y x
  nodup : path.Nodup
  defined : ∀ x ∈ path, c.store.contains x = true
  reached : ∀ x ∈ id :: path, ReflTransGen c.Depends root x

lemma Trail.start (root : VariableId) : c.Trail root root [] :=
  ⟨.singleton root, .nil, by simp, by simp [ReflTransGen.refl]⟩

lemma Trail.enter (h : c.Trail root id path) (hid : id ∉ path) (hdepends : c.Depends id other) :
    c.Trail root other (id :: path) := by
  obtain ⟨hchain, hnodup, hdefined, hreached⟩ := h
  have hid' : c.store.contains id = true := by
    obtain ⟨v, hv, _⟩ := depends_iff.1 hdepends
    simp [Store.contains, hv]
  refine ⟨hchain.cons_cons hdepends, List.nodup_cons.2 ⟨hid, hnodup⟩, ?_, ?_⟩
  · exact List.forall_mem_cons.2 ⟨hid', hdefined⟩
  · exact List.forall_mem_cons.2 ⟨(hreached id (by simp)).tail hdepends, hreached⟩

structure CycleBelow (c : Context) (root : VariableId) (cycle : List VariableId) : Prop where
  length : 2 ≤ cycle.length
  closed : cycle.head? = cycle.getLast?
  nodup : cycle.dropLast.Nodup
  defined : ∀ x ∈ cycle, c.store.contains x = true
  reached : ∀ x ∈ cycle, ReflTransGen c.Depends root x
  chain : cycle.IsChain c.Depends

lemma Trail.cycleBelow (h : c.Trail root id path) (hid : id ∈ path) :
    c.CycleBelow root (id :: (path.takeWhile (· ≠ id)).reverse ++ [id]) := by
  obtain ⟨hchain, hnodup, hdefined, hreached⟩ := h
  obtain ⟨inner, outer, rfl⟩ := List.append_of_mem hid
  have hinner : ∀ x ∈ inner, x ≠ id := by
    intro x hx
    exact (List.nodup_append.1 hnodup).2.2 x hx id (by simp)
  have htake : (inner ++ id :: outer).takeWhile (· ≠ id) = inner := by
    rw [List.takeWhile_append_of_pos (by simpa using hinner)]
    simp
  have hsub : ∀ x ∈ id :: inner.reverse ++ [id], x ∈ inner ++ id :: outer := by
    intro x hx
    simp only [List.cons_append, List.mem_cons, List.mem_append, List.mem_reverse] at hx ⊢
    grind
  rw [htake]
  refine ⟨by simp, ?_, ?_, fun x hx => hdefined x (hsub x hx), fun x hx => ?_, ?_⟩
  · rw [List.getLast?_concat]
    rfl
  · rw [List.dropLast_concat, List.nodup_cons, List.mem_reverse, List.nodup_reverse]
    exact ⟨fun hmem => hinner id hmem rfl, (List.nodup_append.1 hnodup).1⟩
  · exact hreached x (List.mem_cons_of_mem id (hsub x hx))
  · -- the path is listed from its end, so that its first part is the cycle backwards
    have hcycle : (id :: inner ++ [id]).IsChain fun x y => c.Depends y x := by
      have hwhole : (id :: inner ++ [id] ++ outer).IsChain fun x y => c.Depends y x := by
        simpa using hchain
      exact hwhole.left_of_append
    have hreverse : (id :: inner ++ [id]).reverse = id :: inner.reverse ++ [id] := by simp
    rw [← hreverse]
    exact List.isChain_reverse.2 hcycle

lemma cycleBelow_of_visit (h : c.Trail root id path)
    (hfound : (c.store.visit c.rulebook path done id).1 = some cycle) :
    c.CycleBelow root cycle := by
  fun_induction Store.visit c.store c.rulebook path done id generalizing cycle with
  | case1 path done id hid =>
    cases hfound
    exact h.cycleBelow hid
  | case2 | case3 => cases hfound
  | case4 path done id hid hdone v hv found done' hfirst ih =>
    cases hfound
    obtain ⟨other, hother, done'', hvisit⟩ := Store.exists_of_firstFound (congrArg Prod.fst hfirst)
    have hdepends : c.Depends id other := (depends_of_get hv).2 hother
    exact ih done'' other (h.enter hid hdepends) hvisit
  | case5 => cases hfound

lemma cycleBelow_of_findCycle (h : c.store.findCycle c.rulebook id = some cycle) :
    c.CycleBelow id cycle := cycleBelow_of_visit (.start id) h

lemma isSome_findCycle : (c.store.findCycle c.rulebook id).isSome ↔ ¬ c.Clear id := by
  rw [← findCycle_eq_none, Option.isSome_iff_ne_none]

end Context

/-- The search finds a cycle just when dependencies lead from the variable to one that depends on
itself. It gives a list that ends where it begins, with no variable twice on the way, of variables
that are defined and that dependencies lead to; each depends on the next. -/
theorem findCycle_exact (c : Context) (id : VariableId) :
    ((c.store.findCycle c.rulebook id).isSome ↔
      ∃ x, ReflTransGen c.Depends id x ∧ TransGen c.Depends x x) ∧
    ∀ cycle, c.store.findCycle c.rulebook id = some cycle →
      2 ≤ cycle.length ∧ cycle.head? = cycle.getLast? ∧ cycle.dropLast.Nodup ∧
        (∀ x ∈ cycle, c.store.contains x = true ∧ ReflTransGen c.Depends id x) ∧
        cycle.IsChain c.Depends := by
  constructor
  · rw [Context.isSome_findCycle]
    simp [Context.Clear]
  · intro cycle h
    obtain ⟨hlength, hclosed, hnodup, hdefined, hreached, hchain⟩ :=
      Context.cycleBelow_of_findCycle h
    exact ⟨hlength, hclosed, hnodup, fun x hx => ⟨hdefined x hx, hreached x hx⟩, hchain⟩

namespace CyclePath

def lead : VariableId := { name := "lead" }

def loop : VariableId := { name := "loop" }

def echo : VariableId := { name := "echo" }

def context : Context where
  rulebook := {}
  store := ⟨⟨[
    ⟨echo, "", "", ⟨["loud"], by simp⟩, .number (.variable loop), []⟩,
    ⟨lead, "", "", ∅, .number (.program ⟨"none", [.number (.variable (.id ⟨none, "gone"⟩)),
      .number (.variable (.id loop))]⟩), []⟩,
    ⟨loop, "", "", ∅, .number (.program ⟨"none", [.number (.variable (.tag "loud"))]⟩), []⟩],
    by decide⟩⟩

lemma findCycle_lead :
    context.store.findCycle context.rulebook lead = some [loop, echo, loop] := by
  cbv

end CyclePath

open CyclePath in
theorem findCycle_exact_lead :
    let cycle := [loop, echo, loop]
    context.store.findCycle context.rulebook lead = some cycle ∧
      2 ≤ cycle.length ∧ cycle.head? = cycle.getLast? ∧ cycle.dropLast.Nodup ∧
      (∀ x ∈ cycle, context.store.contains x = true ∧ ReflTransGen context.Depends lead x) ∧
      cycle.IsChain context.Depends :=
  ⟨findCycle_lead, (findCycle_exact context lead).2 _ findCycle_lead⟩

end Tabletop
