import Tabletop.Proofs.Evaluation.Unwinding
import Tabletop.Sheet

namespace Tabletop

variable {δ : Type}

namespace Context

def leftBy (c : Context) (face : δ → ℕ → ℕ × δ) : List Call → Frame → δ → Frame × δ
  | [], f, d => (f, d)
  | call :: calls, f, d =>
    let (((_, f), _), d) := (c.take call f).play face d
    c.leftBy face calls f d

lemma take_restores (c : Context) (call : Call) (f : Frame) (face : δ → ℕ → ℕ × δ) (d : δ) :
    ((c.take call f).play face d).1.1.2 = f := by
  rw [take, carry_restores, Dice.Plan.play_map]

lemma leftBy_restores (c : Context) (face : δ → ℕ → ℕ × δ) (calls : List Call) (f : Frame) (d : δ) :
    (c.leftBy face calls f d).1 = f := by
  induction calls generalizing f d with
  | nil => rfl
  | cons call calls ih => exact (ih _ _).trans (c.take_restores call f face d)

end Context

namespace Sheet

def valuesInTurn (s : Sheet) (face : δ → ℕ → ℕ × δ) : List VariableId → δ → Report
  | [], _ => []
  | id :: ids, d =>
    let ((result, _), d) := (s.value id).run.play face d
    (id, result) :: s.valuesInTurn face ids d

lemma report_eq (s : Sheet) (face : δ → ℕ → ℕ × δ) (ids : List VariableId) (d : δ) :
    ((s.fresh (report ids)).play face d).1.1 = s.valuesInTurn face ids d := by
  induction ids generalizing d with
  | nil => rfl
  | cons id ids ih =>
    simp only [Context.fresh_eq] at ih
    simp only [report, valuesInTurn, value, ExceptT.run_mk, Context.fresh_eq, Context.result_bind,
      Dice.Plan.play_bind, ← ih]
    rfl

lemma keys_valuesInTurn (s : Sheet) (face : δ → ℕ → ℕ × δ) (ids : List VariableId) (d : δ) :
    (s.valuesInTurn face ids d).map Prod.fst = ids := by
  induction ids generalizing d with
  | nil => rfl
  | cons id ids ih => simp only [valuesInTurn, List.map_cons, ih]

lemma exists_of_mem_valuesInTurn {s : Sheet} {face : δ → ℕ → ℕ × δ} {ids : List VariableId} {d : δ}
    {id : VariableId} {r : Except RuleError Value} (h : (id, r) ∈ s.valuesInTurn face ids d) :
    ∃ d', ((s.value id).run.play face d').1.1 = r := by
  induction ids generalizing d with
  | nil => cases h
  | cons other ids ih =>
    rcases List.mem_cons.1 h with h | h
    · cases h
      exact ⟨d, rfl⟩
    · exact ih h

lemma ends_of_mem_valuesInTurn {s : Sheet} {face : δ → ℕ → ℕ × δ} {ids : List VariableId} {d : δ}
    {id : VariableId} {r : Except RuleError Value} (h : (id, r) ∈ s.valuesInTurn face ids d) :
    (s.value id).run.Ends r := by
  obtain ⟨d', rfl⟩ := exists_of_mem_valuesInTurn h
  exact Dice.Plan.ends_play face _ d'

lemma ends_of_mem_evaluateAll {s : Sheet} {face : δ → ℕ → ℕ × δ} {d : δ} {id : VariableId}
    {r : Except RuleError Value} (h : (id, r) ∈ (s.evaluateAll.play face d).1.1) :
    (s.value id).run.Ends r := by
  rw [evaluateAll, report_eq] at h
  exact ends_of_mem_valuesInTurn h

end Sheet

lemma Store.ids_increasing (s : Store) : s.ids.Pairwise fun a b => VariableId.order a b = .lt :=
  List.pairwise_map.2 s.slots.increasing

lemma Store.mem_ids_iff {s : Store} {id : VariableId} : id ∈ s.ids ↔ s.contains id = true := by
  simp [ids, contains, get?, List.find?_isSome]

/-- After any calls the next one goes, dice included, as on a new evaluator; and a sheet is
evaluated as if each of its variables had an evaluator of its own. -/
theorem evaluator_reuse_transparent :
    (∀ (c : Context) {δ : Type} (face : δ → ℕ → ℕ × δ) (before : List Call) (call : Call) (d : δ),
      let left := c.leftBy face before {} d
      (c.take call left.1).play face left.2 = (c.take call {}).play face left.2) ∧
    ∀ (s : Sheet) {δ : Type} (face : δ → ℕ → ℕ × δ) (d : δ),
      let report := (s.evaluateAll.play face d).1.1
      report = s.valuesInTurn face s.store.ids d ∧
      (report.map Prod.fst).Pairwise (fun a b => VariableId.order a b = .lt) ∧
      ∀ id, id ∈ report.map Prod.fst ↔ s.store.contains id = true := by
  refine ⟨fun c δ face before call d => ?_, fun s δ face d => ?_⟩
  · simp only [c.leftBy_restores face before {} d]
  · have h : (s.evaluateAll.play face d).1.1 = s.valuesInTurn face s.store.ids d :=
      s.report_eq face s.store.ids d
    simp only [h, s.keys_valuesInTurn]
    exact ⟨trivial, s.store.ids_increasing, fun id => Store.mem_ids_iff⟩

end Tabletop
