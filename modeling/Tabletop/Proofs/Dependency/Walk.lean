import Mathlib.Algebra.BigOperators.Group.List.Basic
import Mathlib.Algebra.Order.BigOperators.Group.List
import Mathlib.Algebra.Order.Ring.Nat
import Mathlib.Data.List.Chain
import Tabletop.Proofs.Dependency.Calls

/-! The walk through calls taken turn by turn. In whatever order it takes the pending programs, it
comes to an end, and then it has found what the programs in the closure of the calls read. -/

namespace Tabletop

open Relation (ReflTransGen)

structure Walk where
  visited : List ProgramId := []
  pending : List ProgramId
  found : List VariableRef := []

def Walk.start (id : ProgramId) : Walk := { pending := [id] }

namespace Rulebook

variable {b : Rulebook} {id : ProgramId} {visited pending : List ProgramId}
  {found : List VariableRef} {r : VariableRef} {p : Program} {w v : Walk}

/-- A turn takes any pending program. It drops one that is visited or does not exist, and reads any
other, whose calls are pending from then on. -/
inductive Turn (b : Rulebook) : Walk → Walk → Prop
  | drop {visited pending : List ProgramId} {found : List VariableRef} {id : ProgramId} :
      id ∈ pending → id ∈ visited ∨ b.program? id = none →
      Turn b ⟨visited, pending, found⟩ ⟨visited, pending.erase id, found⟩
  | read {visited pending : List ProgramId} {found : List VariableRef} {id : ProgramId}
      {p : Program} : id ∈ pending → id ∉ visited → b.program? id = some p →
      Turn b ⟨visited, pending, found⟩
        ⟨id :: visited, b.calls p ++ pending.erase id, found ++ p.refs⟩

lemma turn_drop (h : id ∈ visited ∨ b.program? id = none) :
    b.Turn ⟨visited, id :: pending, found⟩ ⟨visited, pending, found⟩ := by
  have hturn : b.Turn ⟨visited, id :: pending, found⟩ ⟨visited, (id :: pending).erase id, found⟩ :=
    .drop List.mem_cons_self h
  rwa [List.erase_cons_head] at hturn

lemma turn_read (hid : id ∉ visited) (hp : b.program? id = some p) :
    b.Turn ⟨visited, id :: pending, found⟩
      ⟨id :: visited, b.calls p ++ pending, found ++ p.refs⟩ := by
  have hturn : b.Turn ⟨visited, id :: pending, found⟩
      ⟨id :: visited, b.calls p ++ (id :: pending).erase id, found ++ p.refs⟩ :=
    .read List.mem_cons_self hid hp
  rwa [List.erase_cons_head] at hturn

lemma exists_turn (h : w.pending ≠ []) : ∃ v, b.Turn w v := by
  obtain ⟨id, hid⟩ := List.exists_mem_of_ne_nil _ h
  by_cases hv : id ∈ w.visited
  · exact ⟨_, .drop hid (.inl hv)⟩
  · cases hp : b.program? id with
    | none => exact ⟨_, .drop hid (.inr hp)⟩
    | some p => exact ⟨_, .read hid hv hp⟩

def callsLeft (b : Rulebook) (visited : List ProgramId) : ℕ :=
  ((b.programs.toList.filter (·.id ∉ visited)).map fun p => (b.calls p).length).sum

lemma callsLeft_read (hid : id ∉ visited) (hp : b.program? id = some p) :
    (b.calls p).length + b.callsLeft (id :: visited) ≤ b.callsLeft visited := by
  obtain rfl : p.id = id := by simpa using List.find?_some hp
  have hmem : p ∈ b.programs.toList.filter (·.id ∉ visited) :=
    List.mem_filter.2 ⟨List.mem_of_find?_eq_some hp, by simpa using hid⟩
  have hread : p ∉ b.programs.toList.filter (·.id ∉ p.id :: visited) := by simp
  have hsub : (b.programs.toList.filter (·.id ∉ p.id :: visited)).Sublist
      ((b.programs.toList.filter (·.id ∉ visited)).erase p) := by
    rw [← List.erase_of_not_mem hread]
    exact (List.monotone_filter_right _ fun q hq => by simp_all).erase p
  rw [callsLeft, callsLeft, ← List.sum_map_erase _ hmem]
  exact Nat.add_le_add_left ((hsub.map _).sum_le_sum fun _ _ => Nat.zero_le _) _

/-- Each turn uses up what is pending or what calls may still add to it. -/
def turnsLeft (b : Rulebook) (w : Walk) : ℕ := w.pending.length + b.callsLeft w.visited

lemma turnsLeft_lt (h : b.Turn w v) : b.turnsLeft v < b.turnsLeft w := by
  cases h with
  | drop hid =>
    have hlength := List.length_erase_add_one hid
    simp only [turnsLeft]
    omega
  | read hid hv hp =>
    have hlength := List.length_erase_add_one hid
    have hcalls := callsLeft_read hv hp
    simp only [turnsLeft, List.length_append]
    omega

lemma length_turns_le {turns : List Walk} (h : (w :: turns).IsChain b.Turn) :
    turns.length ≤ b.turnsLeft w := by
  induction turns generalizing w with
  | nil => exact Nat.zero_le _
  | cons v turns ih =>
    obtain ⟨hturn, hturns⟩ := List.isChain_cons_cons.1 h
    exact Nat.lt_of_le_of_lt (ih hturns) (turnsLeft_lt hturn)

def Finds (b : Rulebook) (w : Walk) (r : VariableRef) : Prop :=
  r ∈ w.found ∨ b.Ahead w.visited w.pending r

lemma finds_turn (h : b.Turn w v) : b.Finds v r ↔ b.Finds w r := by
  cases h with
  | drop hid hdrop => simp only [Finds, ahead_perm (List.perm_cons_erase hid), ahead_drop hdrop]
  | read hid hv hp =>
    simp only [Finds, ahead_perm (List.perm_cons_erase hid), ahead_read hv hp, List.mem_append,
      or_assoc]

lemma finds_walk (h : ReflTransGen b.Turn w v) : b.Finds v r ↔ b.Finds w r := by
  induction h with
  | refl => rfl
  | tail _ hturn ih => rw [finds_turn hturn, ih]

lemma mem_found (h : ReflTransGen b.Turn (.start id) w) (hw : w.pending = []) :
    r ∈ w.found ↔ r ∈ b.readBy id := by
  have hfinds : b.Finds w r ↔ b.Finds (.start id) r := finds_walk h
  simpa [Finds, hw, Walk.start, readBy, mem_readByAll, Ahead] using hfinds

lemma walk_readByAll (found : List VariableRef) :
    ∃ all, ReflTransGen b.Turn ⟨visited, pending, found⟩
      ⟨all, [], found ++ b.readByAll visited pending⟩ := by
  fun_induction readByAll b visited pending generalizing found with
  | case1 visited => exact ⟨visited, by simp [ReflTransGen.refl]⟩
  | case2 visited id pending hid ih =>
    obtain ⟨all, h⟩ := ih found
    exact ⟨all, .head (turn_drop (.inl hid)) h⟩
  | case3 visited id pending hid hp ih =>
    obtain ⟨all, h⟩ := ih found
    exact ⟨all, .head (turn_drop (.inr hp)) h⟩
  | case4 visited id pending hid p hp ih =>
    obtain ⟨all, h⟩ := ih (found ++ p.refs)
    rw [List.append_assoc] at h
    exact ⟨all, .head (turn_read hid hp) h⟩

end Rulebook

end Tabletop
