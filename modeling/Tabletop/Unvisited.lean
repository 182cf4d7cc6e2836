/-!
How many of some names a walk has not visited yet: the measure by which walks end.
-/

namespace Tabletop

variable {κ : Type} [DecidableEq κ]

def unvisited (names visited : List κ) : Nat := names.countP fun k => k ∉ visited

theorem unvisited_cons_le (names visited : List κ) (k : κ) :
    unvisited names (k :: visited) ≤ unvisited names visited :=
  List.countP_mono_left fun _ _ h => by simp_all

theorem unvisited_cons_lt {names visited : List κ} {k : κ} (hk : k ∈ names) (hv : k ∉ visited) :
    unvisited names (k :: visited) < unvisited names visited := by
  induction names with
  | nil => cases hk
  | cons n ns ih =>
    have hle := unvisited_cons_le ns visited k
    unfold unvisited at *
    rw [List.countP_cons, List.countP_cons]
    rcases List.mem_cons.1 hk with rfl | hk
    · rw [if_neg (by simp), if_pos (by simpa using hv)]
      omega
    · have := ih hk
      by_cases hn : n ∈ visited
      · rw [if_neg (by simp [hn]), if_neg (by simp [hn])]
        omega
      · rw [if_pos (c := decide (n ∉ visited) = true) (by simpa using hn)]
        split <;> omega

theorem unvisited_le_cons {names : List κ} (hn : names.Nodup) (visited : List κ) (k : κ) :
    unvisited names visited ≤ unvisited names (k :: visited) + 1 := by
  induction names with
  | nil => simp [unvisited]
  | cons n ns ih =>
    have ⟨hns, hn⟩ := List.nodup_cons.1 hn
    unfold unvisited at *
    rw [List.countP_cons, List.countP_cons]
    by_cases hk : n = k
    · subst hk
      have heq : ns.countP (fun j => j ∉ visited) = ns.countP (fun j => j ∉ n :: visited) :=
        List.countP_congr fun j hj => by
          have hj : j ≠ n := fun h => hns (h ▸ hj)
          simp [hj]
      rw [heq]
      split <;> split <;> omega
    · have := ih hn
      have hmem : decide (n ∉ k :: visited) = decide (n ∉ visited) := by simp [hk]
      rw [hmem]
      omega

theorem unvisited_tail_le {names : List κ} (hn : names.Nodup) (visited : List κ) :
    unvisited names visited.tail ≤ unvisited names visited + 1 := by
  cases visited with
  | nil => exact Nat.le_succ _
  | cons k visited => exact unvisited_le_cons hn visited k

end Tabletop
