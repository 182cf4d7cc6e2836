import Mathlib.Logic.Relation
import Mathlib.Data.Nat.Notation
import Mathlib.Tactic.Common
import Tabletop.Rule.Rulebook

namespace Tabletop.Rulebook

open Relation (ReflTransGen)

variable {b : Rulebook} {id other : ProgramId} {visited pending : List ProgramId}

/-- A statement of the first program runs the second: it applies its name, and no function has
that name. -/
def Calls (b : Rulebook) (id other : ProgramId) : Prop :=
  ∃ p, b.program? id = some p ∧ other ∈ b.calls p

lemma calls_of_applied {p : Program} (hp : b.program? id = some p) (ho : other ∈ p.applied)
    (hf : b.function? other = none) : b.Calls id other :=
  ⟨p, hp, List.mem_filter.2 ⟨ho, by simp [hf]⟩⟩

def Names (b : Rulebook) (id : ProgramId) (r : VariableRef) : Prop :=
  ∃ p, b.program? id = some p ∧ r ∈ p.refs

def CallsPast (b : Rulebook) (visited : List ProgramId) : ProgramId → ProgramId → Prop :=
  ReflTransGen fun id other => b.Calls id other ∧ other ∉ visited

lemma CallsPast.mono {id' : ProgramId} (h : b.CallsPast (id' :: visited) id other) :
    b.CallsPast visited id other :=
  h.lift (fun p => p) fun _ _ h => ⟨h.1, fun hv => h.2 (List.mem_cons_of_mem _ hv)⟩

lemma CallsPast.split {start : ProgramId} (h : b.CallsPast visited start other) (id : ProgramId) :
    (start ≠ id ∧ b.CallsPast (id :: visited) start other) ∨ other = id ∨
      ∃ next, b.Calls id next ∧ next ∉ id :: visited ∧ b.CallsPast (id :: visited) next other := by
  induction h with
  | refl =>
    by_cases hs : start = id
    · exact .inr (.inl hs)
    · exact .inl ⟨hs, .refl⟩
  | @tail mid last _ hl ih =>
    by_cases hid : last = id
    · exact .inr (.inl hid)
    · have hlast : last ∉ id :: visited := by simp [hid, hl.2]
      rcases ih with ⟨hs, hp⟩ | rfl | ⟨next, hn, hv, hp⟩
      · exact .inl ⟨hs, hp.tail ⟨hl.1, hlast⟩⟩
      · exact .inr (.inr ⟨last, hl.1, hlast, .refl⟩)
      · exact .inr (.inr ⟨next, hn, hv, hp.tail ⟨hl.1, hlast⟩⟩)

lemma eq_of_callsPast {start : ProgramId} (hp : b.program? start = none)
    (h : b.CallsPast visited start other) : other = start := by
  rcases ReflTransGen.cases_head h with rfl | ⟨_, ⟨⟨p, hp', _⟩, _⟩, _⟩
  · rfl
  · rw [hp] at hp'
    cases hp'

lemma defined_of_callsPast {start : ProgramId} (h : b.CallsPast visited start other)
    (ho : ∃ p, b.program? other = some p) : ∃ p, b.program? start = some p := by
  cases hp : b.program? start with
  | some p => exact ⟨p, rfl⟩
  | none => rwa [eq_of_callsPast hp h, hp] at ho

lemma callsPast_nil : b.CallsPast [] = ReflTransGen b.Calls := by simp [CallsPast]

/-- A pending program leads, past the visited ones, to one that names `r`. -/
def Ahead (b : Rulebook) (visited pending : List ProgramId) (r : VariableRef) : Prop :=
  ∃ start ∈ pending, start ∉ visited ∧ ∃ other, b.CallsPast visited start other ∧ b.Names other r

section Ahead

variable {r : VariableRef} {p : Program}

lemma ahead_perm {others : List ProgramId} (h : pending.Perm others) :
    b.Ahead visited pending r ↔ b.Ahead visited others r := by
  simp only [Ahead, h.mem_iff]

lemma ahead_drop (h : id ∈ visited ∨ b.program? id = none) :
    b.Ahead visited (id :: pending) r ↔ b.Ahead visited pending r := by
  simp only [Ahead, List.mem_cons, exists_eq_or_imp]
  refine or_iff_right ?_
  rintro ⟨hv, other, hc, p, hp, _⟩
  rcases h with h | h
  · exact hv h
  · rw [eq_of_callsPast h hc, h] at hp
    cases hp

lemma ahead_read (hid : id ∉ visited) (hp : b.program? id = some p) :
    b.Ahead visited (id :: pending) r ↔
      r ∈ p.refs ∨ b.Ahead (id :: visited) (b.calls p ++ pending) r := by
  constructor
  -- a chain that met `id` is cut there, since `id` is visited from now on
  · rintro ⟨start, hs, hv, other, hc, hn⟩
    rcases hc.split id with ⟨hid', hc⟩ | rfl | ⟨next, ⟨q, hq, hnext⟩, hv', hc⟩
    · have hs : start ∈ pending := (List.mem_cons.1 hs).resolve_left hid'
      exact .inr ⟨start, by simp [hs], by simp [hid', hv], other, hc, hn⟩
    · obtain ⟨q, hq, hr⟩ := hn
      obtain rfl : p = q := by simpa [hp] using hq
      exact .inl hr
    · obtain rfl : p = q := by simpa [hp] using hq
      exact .inr ⟨next, by simp [hnext], hv', other, hc, hn⟩
  · rintro (hr | ⟨start, hs, hv, other, hc, hn⟩)
    · exact ⟨id, by simp, hid, id, .refl, p, hp, hr⟩
    · have hv' : start ∉ visited := fun h => hv (List.mem_cons_of_mem _ h)
      rcases List.mem_append.1 hs with hs | hs
      · exact ⟨id, by simp, hid, other, .head ⟨⟨p, hp, hs⟩, hv'⟩ hc.mono, hn⟩
      · exact ⟨start, by simp [hs], hv', other, hc.mono, hn⟩

lemma mem_readByAll : r ∈ b.readByAll visited pending ↔ b.Ahead visited pending r := by
  fun_induction readByAll b visited pending with
  | case1 => simp [Ahead]
  | case2 visited id pending hid ih => rw [ih, ahead_drop (.inl hid)]
  | case3 visited id pending hid hp ih => rw [ih, ahead_drop (.inr hp)]
  | case4 visited id pending hid p hp ih => rw [List.mem_append, ih, ahead_read hid hp]

end Ahead

lemma mem_readBy {r : VariableRef} :
    r ∈ b.readBy id ↔ ∃ other, ReflTransGen b.Calls id other ∧ b.Names other r := by
  simp [readBy, mem_readByAll, Ahead, callsPast_nil]

end Tabletop.Rulebook
