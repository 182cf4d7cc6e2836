import Tabletop.Proofs.Dependency.Graph
import Tabletop.Proofs.Results

namespace Tabletop

open Relation (ReflTransGen TransGen)

variable {id other : VariableId}

namespace Store

lemma mem_reads {b : Rulebook} {s : Setting} {r : VariableRef} :
    r ∈ reads b s ↔ r ∈ s.named b ∨ ∃ i, s.invocation? = some i ∧ r ∈ b.readBy i.program := by
  rcases s with s | s | s | s <;> cases s <;> simp [reads, Setting.named, Setting.invocation?]

lemma mem_dependenciesOf {s : Store} {b : Rulebook} {v : Variable} :
    other ∈ s.dependenciesOf b v ↔ ∃ r ∈ reads b v.setting, other ∈ s.expand r :=
  Sorted.mem_ofList.trans List.mem_flatMap

end Store

namespace Context

variable {c : Context} {x y : VariableId} {p : ProgramId} {n : Vertex}

def Depends (c : Context) (id other : VariableId) : Prop :=
  ∃ ids, c.store.dependencies c.rulebook id = .ok ids ∧ other ∈ ids

lemma depends_iff : c.Depends id other ↔ ∃ v, c.store.get? id = some v ∧
    ∃ r ∈ Store.reads c.rulebook v.setting, other ∈ c.store.expand r := by
  simp only [Depends, Store.dependencies, bind_eq_ok, Store.get_eq_ok]
  constructor
  · rintro ⟨_, ⟨v, hv, hids⟩, h⟩
    cases hids
    exact ⟨v, hv, Store.mem_dependenciesOf.1 h⟩
  · rintro ⟨v, hv, h⟩
    exact ⟨_, ⟨v, hv, rfl⟩, Store.mem_dependenciesOf.2 h⟩

/-- How a vertex that a variable leads to goes on to `y`: first through the programs that are called
there, then along dependencies. -/
def Onward (c : Context) (y : VariableId) : Vertex → Prop
  | .slot x => ReflTransGen c.Depends x y
  | .program p => ∃ q x, ReflTransGen c.rulebook.Calls p q ∧ c.Leads (.program q) (.slot x) ∧
      ReflTransGen c.Depends x y

lemma depends_of_invokes {q : ProgramId} {v : Variable} {i : Invocation}
    (hv : c.store.get? x = some v) (hi : v.setting.invocation? = some i)
    (hq : ReflTransGen c.rulebook.Calls i.program q) (hy : c.Leads (.program q) (.slot y)) :
    c.Depends x y := by
  cases hy with
  | reads hp hr hy =>
    refine depends_iff.2 ⟨v, hv, _, Store.mem_reads.2 (.inr ⟨i, hi, ?_⟩), hy⟩
    exact Rulebook.mem_readBy.2 ⟨q, hq, _, hp, hr⟩

lemma depends_onward (h : c.Leads (.slot x) n) (hn : c.Onward y n) : TransGen c.Depends x y := by
  cases h with
  | names hv hr ho =>
    exact .head' (depends_iff.2 ⟨_, hv, _, Store.mem_reads.2 (.inl hr), ho⟩) hn
  | invokes hv hi =>
    obtain ⟨q, z, hq, hz, hn⟩ := hn
    exact .head' (depends_of_invokes hv hi hq hz) hn

lemma onward_of_leads (h : ReflTransGen c.Leads n (.slot y)) : c.Onward y n := by
  -- backwards from `y`: a program passes on what the program that it calls comes to
  induction h using ReflTransGen.head_induction_on with
  | refl => exact .refl
  | @head n m hs _ ih =>
    cases n with
    | slot x => exact (depends_onward hs ih).to_reflTransGen
    | program p =>
      cases hs with
      | reads hp hr ho => exact ⟨p, _, .refl, .reads hp hr ho, ih⟩
      | calls hc =>
        obtain ⟨q, x, hq, hx, ih⟩ := ih
        exact ⟨q, x, .head hc hq, hx, ih⟩

lemma depends_of_reaches (h : ReflTransGen c.Leads (.slot x) (.slot y)) :
    ReflTransGen c.Depends x y := onward_of_leads h

lemma depends_of_leads (h : TransGen c.Leads (.slot x) (.slot y)) : TransGen c.Depends x y := by
  obtain ⟨n, hs, hn⟩ := TransGen.head'_iff.1 h
  exact depends_onward hs (onward_of_leads hn)

lemma calls_or_slot (h : TransGen c.Leads (.program p) n) :
    (∃ q, n = .program q ∧ TransGen c.rulebook.Calls p q) ∨
      ∃ x, TransGen c.Leads (.program p) (.slot x) ∧ ReflTransGen c.Leads (.slot x) n := by
  induction h with
  | @single n hs =>
    cases n with
    | slot x => exact .inr ⟨x, .single hs, .refl⟩
    | program q =>
      cases hs with
      | calls hc => exact .inl ⟨q, rfl, .single hc⟩
  | @tail m n hm hs ih =>
    cases n with
    | slot x => exact .inr ⟨x, hm.tail hs, .refl⟩
    | program q =>
      rcases ih with ⟨r, rfl, hr⟩ | ⟨x, hx, hxm⟩
      · cases hs with
        | calls hc => exact .inl ⟨q, rfl, hr.tail hc⟩
      · exact .inr ⟨x, hx, hxm.tail hs⟩

end Context

end Tabletop
