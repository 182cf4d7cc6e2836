import Tabletop.Command
import Tabletop.Proofs.Evaluation.Reuse
import Tabletop.Proofs.Variable.Id

namespace Tabletop

namespace Command

variable {δ : Type} (s : Sheet) (face : δ → ℕ → ℕ × δ) (d : δ)

lemma lines_all : ∃ summary, ((eval s false none).play face d).1.1.lines =
    (s.evaluateAll.play face d).1.1.map resultLine ++ ["", summary] := by
  simp [eval, evaluateAll, Dice.Plan.play_bind, Dice.Plan.play]

lemma lines_one (name : String) : ((eval s false (some name)).play face d).1.1.lines =
    [resultLine (.parse name, ((s.value (.parse name)).run.play face d).1.1)] := by
  simp [eval, evaluateOne, Dice.Plan.play_bind, Dice.Plan.play]

end Command

/-- An id is read back from its text just when two colons in a row come neither in a name without a
scope nor in a scope, and no scope ends with a colon. Such ids are told apart by their texts, and
the text of one asks for the value of its variable: with the dice that were next when its turn came
in a report, for the very line of the report. -/
theorem printed_ids_read_back :
    (∀ id : VariableId, .parse id.text = id ↔ id.Separable) ∧
    (∀ a b : VariableId, a.Separable → b.Separable → a.text = b.text → a = b) ∧
    (∀ (s : Sheet) (mechanics : Bool) (id : VariableId), id.Separable →
      Command.eval s mechanics (some id.text) = do
        let (gained, s) ← if mechanics then s.activate else pure ([], s)
        let r ← (s.value id).run
        return ⟨gained.map ("[MECHANIC] " ++ ·) ++ [Command.resultLine (id, r)], .ok r.isOk⟩) ∧
    ∀ (s : Sheet) {δ : Type} (face : δ → ℕ → ℕ × δ) (d : δ) (id : VariableId)
      (r : Except RuleError Value), (id, r) ∈ (s.evaluateAll.play face d).1.1 → id.Separable →
        Command.resultLine (id, r) ∈ ((Command.eval s false none).play face d).1.1.lines ∧
        ∃ d', ((Command.eval s false (some id.text)).play face d').1.1.lines =
          [Command.resultLine (id, r)] := by
  refine ⟨fun id => VariableId.parse_text_iff, fun a b => VariableId.text_injective, ?_, ?_⟩
  · intro s mechanics id h
    simp only [Command.eval, Command.evaluateOne, VariableId.parse_text_iff.2 h, bind_assoc,
      pure_bind]
  · intro s δ face d id r hr h
    obtain ⟨summary, hlines⟩ := Command.lines_all s face d
    refine ⟨?_, ?_⟩
    · rw [hlines]
      exact List.mem_append_left _ (List.mem_map_of_mem hr)
    · rw [Sheet.evaluateAll, Sheet.report_eq] at hr
      obtain ⟨d', rfl⟩ := Sheet.exists_of_mem_valuesInTurn hr
      exact ⟨d', by rw [Command.lines_one, VariableId.parse_text_iff.2 h]⟩

namespace Naming

def secret : VariableId := ⟨some "door", ":secret"⟩

def trapped : VariableId := ⟨some "door", "trapped"⟩

def sheet : Sheet where
  rulebook := {}
  store := ⟨⟨[{ id := secret, label := "Secret", setting := .boolean (.literal true) }], by simp⟩⟩

lemma value_secret : (sheet.value secret).run = .done (.ok (.boolean true)) := by
  change sheet.fresh (Evaluation.enter (.evaluate secret)).run = _
  rw [Context.fresh_eq, Context.result_enter, Context.outcome_started rfl]
  rfl

lemma mem_report (face : Unit → ℕ → ℕ × Unit) :
    (secret, .ok (.boolean true)) ∈ (sheet.evaluateAll.play face ()).1.1 := by
  rw [Sheet.evaluateAll, Sheet.report_eq]
  change _ ∈ sheet.valuesInTurn face [secret] ()
  simp [Sheet.valuesInTurn, value_secret, Dice.Plan.play]

end Naming

open Naming in
theorem printed_ids_read_back_secret :
    let face : Unit → ℕ → ℕ × Unit := fun d _ => (1, d)
    secret.text = "door:::secret" ∧ secret.Separable ∧ VariableId.parse secret.text = secret ∧
      trapped.Separable ∧ secret.text ≠ trapped.text ∧
      (secret, .ok (.boolean true)) ∈ (sheet.evaluateAll.play face ()).1.1 ∧
      "door:::secret = true" ∈ ((Command.eval sheet false none).play face ()).1.1.lines ∧
      (∃ d, ((Command.eval sheet false (some secret.text)).play face d).1.1.lines =
        ["door:::secret = true"]) ∧
      Command.eval sheet false (some secret.text) = do
        let r ← (sheet.value secret).run
        return ⟨[Command.resultLine (secret, r)], .ok r.isOk⟩ := by
  intro face
  have hsecret : secret.Separable := by decide
  have htrapped : trapped.Separable := by decide
  obtain ⟨hread, hinjective, hasked, hreported⟩ := printed_ids_read_back
  obtain ⟨hall, hone⟩ := hreported sheet face () secret _ (mem_report face) hsecret
  exact ⟨rfl, hsecret, (hread secret).2 hsecret, htrapped,
    fun h => absurd (hinjective secret trapped hsecret htrapped h) (by decide),
    mem_report face, hall, hone, hasked sheet false secret hsecret⟩

end Tabletop
