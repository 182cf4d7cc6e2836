import Tabletop.Document.Rule
import Tabletop.Proofs.Results

namespace Tabletop

open Document (Node Decoded)

variable {α : Type}

namespace Document.Node

lemma exists_of_mem_listAt {read : Node → Decoded α} {n : Node} {key : String} {as : List α}
    (h : n.listAt read key = .ok as) {a : α} (ha : a ∈ as) : ∃ m, read m = .ok a := by
  rw [listAt, bind_eq_ok] at h
  obtain ⟨m, _, h⟩ := h
  cases m with
  | none =>
    cases h
    cases ha
  | some m =>
    obtain ⟨ms, _, h⟩ := bind_eq_ok.1 h
    obtain ⟨m, _, hm⟩ := exists_of_mapM_eq_ok h ha
    exact ⟨m, hm⟩

end Document.Node

namespace Table

lemma checkRow_of_decodeRow {t : Table} {n : Node} {r : Row} (h : t.decodeRow n = .ok r) :
    t.checkRow r = .ok () := by
  rw [decodeRow, bind_eq_ok] at h
  obtain ⟨s, _, h⟩ := h
  split at h
  · rename_i hs
    cases h
    exact hs
  · cases h

lemma validate_of_decode {n : Node} {t : Table} (h : decode n = .ok t) :
    t.validate = .ok () := by
  simp only [decode, bind_eq_ok] at h
  obtain ⟨id, _, _, _, signature, _, label, _, description, _, rows, hrows, h⟩ := h
  cases h
  rw [validate, forM_eq_ok]
  intro r hr
  -- the rows were checked before they joined the table, which has the same name and signature
  obtain ⟨m, hm⟩ := Node.exists_of_mem_listAt hrows hr
  exact checkRow_of_decodeRow hm

end Table

namespace Rulebook

lemma functions_foldl (add : Rulebook → α → Rulebook)
    (hadd : ∀ b a, (add b a).functions = b.functions) (as : List α) (b : Rulebook) :
    (as.foldl add b).functions = b.functions := by
  induction as generalizing b with
  | nil => rfl
  | cons a as ih => rw [List.foldl_cons, ih, hadd]

lemma mem_functions_foldl {ts : List Table} {b : Rulebook} {t : Table}
    (h : t ∈ (ts.foldl addFunction b).functions) : t ∈ ts ∨ t ∈ b.functions := by
  induction ts generalizing b with
  | nil => exact .inr h
  | cons u us ih =>
    rw [List.foldl_cons] at h
    rcases ih h with h | h
    · exact .inl (List.mem_cons_of_mem u h)
    · rcases Sorted.eq_or_mem_of_mem_replaceList h with rfl | h
      · exact .inl List.mem_cons_self
      · exact .inr h

lemma validate_of_decode {n : Node} {b : Rulebook} (h : decode n = .ok b) {t : Table}
    (ht : t ∈ b.functions) : t.validate = .ok () := by
  simp only [decode, bind_eq_ok] at h
  obtain ⟨name, _, sets, _, tables, htables, programs, _, summations, _, mechanics, _, h⟩ := h
  cases h
  rw [functions_foldl addMechanic fun _ _ => rfl, functions_foldl addSummation fun _ _ => rfl,
    functions_foldl addProgram fun _ _ => rfl] at ht
  rcases mem_functions_foldl ht with ht | ht
  · obtain ⟨m, hm⟩ := Node.exists_of_mem_listAt htables ht
    exact Table.validate_of_decode hm
  · rw [functions_foldl addValueSet fun _ _ => rfl] at ht
    cases ht

end Rulebook

end Tabletop
