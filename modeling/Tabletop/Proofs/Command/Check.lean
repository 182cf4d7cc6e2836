import Tabletop.Command
import Tabletop.Proofs.Dependency.Cycles
import Tabletop.Proofs.Dependency.Search
import Tabletop.Proofs.Evaluation.Bindings
import Tabletop.Proofs.Evaluation.Reuse
import Tabletop.Proofs.Json.Restore

/-! The check of a rulebook and a sheet finds every name that is read early and every cycle of
dependencies, so that no evaluation can come upon one after it has passed. -/

namespace Tabletop

open Relation (ReflTransGen TransGen)

lemma readDocument_pretty {j : Json} (h : Json.Writable id Json.Progress.deepest j) :
    readDocument (some j.pretty) = .ok j.sortKeys := by
  rw [readDocument, readJson, Json.parse?_pretty_self h]
  rfl

lemma Sheet.rulebook_of_ofText {b : Rulebook} {text : Option String} {s : Sheet}
    (h : ofText b text = .ok s) : s.rulebook = b := by
  simp only [ofText, bind_eq_ok] at h
  obtain ⟨_, _, _, _, _, _, h⟩ := h
  cases h
  rfl

namespace Command

lemma passed_verdict {problems : List String} :
    (verdict problems).result = .ok true ↔ problems = [] := by
  cases problems <;> simp [verdict]

lemma forwardLines_eq_nil {p : Program} : forwardLines p = [] ↔ ¬ p.ReadsEarly := by
  rw [forwardLines, List.map_eq_nil_iff, Program.forwardReferences_eq_nil]

lemma cyclesFrom_eq_nil {c : Context} {reported ids : List VariableId} :
    cyclesFrom c.store c.rulebook reported ids = [] ↔ ∀ id ∈ ids, id ∉ reported → c.Clear id := by
  induction ids generalizing reported with
  | nil => simp [cyclesFrom]
  | cons id ids ih =>
    rw [cyclesFrom, List.forall_mem_cons]
    split
    · rename_i hid
      simp [ih, hid]
    · rename_i hid
      split
      · rename_i cycle hcycle
        have hclear : ¬ c.Clear id := by
          rw [← Context.findCycle_eq_none, hcycle]
          simp
        simp [hid, hclear]
      · rename_i hnone
        simp [ih, Context.findCycle_eq_none.1 hnone]

lemma passed_check {rulebook sheet : Option String} {b : Rulebook} {s : Sheet}
    (hb : Rulebook.ofText rulebook = .ok b) (hs : Sheet.ofText b sheet = .ok s) :
    (check rulebook (some sheet)).result = .ok true ↔
      (∀ p ∈ b.programs, ¬ p.ReadsEarly) ∧ ∀ id ∈ s.store.ids, s.Clear id := by
  obtain rfl := Sheet.rulebook_of_ofText hs
  have hcycles : cycles s.store s.rulebook = [] ↔ ∀ id ∈ s.store.ids, s.Clear id := by
    rw [cycles, cyclesFrom_eq_nil]
    simp
  simp only [check, hb, hs, passed_verdict, List.append_eq_nil_iff, List.map_eq_nil_iff,
    List.flatMap_eq_nil_iff, forwardLines_eq_nil, hcycles]
  rfl

end Command

/-- A rulebook and a sheet pass the check just when no program reads a name before it is bound and
no variable leads to one that depends on itself. No value and no report of the sheet then shows an
early name or a cycle of variables, whatever the limits and the dice. -/
theorem check_finds_all {rulebook sheet : Option String} {b : Rulebook} {s : Sheet}
    (hb : Rulebook.ofText rulebook = .ok b) (hs : Sheet.ofText b sheet = .ok s) :
    let passed := (Command.check rulebook (some sheet)).result = .ok true
    (passed ↔ (∀ p ∈ b.programs, ¬ p.ReadsEarly) ∧
      ∀ id ∈ s.store.ids, ∀ x, ReflTransGen s.Depends id x → ¬ TransGen s.Depends x x) ∧
    (passed → ∀ (limits : Limits) {δ : Type} (face : δ → ℕ → ℕ × δ) (d : δ),
      let t : Sheet := { s with limits }
      ∀ id ∈ s.store.ids, ∀ r : Except RuleError Value,
        r = ((t.value id).run.play face d).1.1 ∨ (id, r) ∈ (t.evaluateAll.play face d).1.1 →
        (∀ x, r ≠ .error (.cyclicVariable x)) ∧
          ∀ program place name, r ≠ .error (.forwardReference program place name)) := by
  intro passed
  have hpassed := Command.passed_check hb hs
  obtain rfl := Sheet.rulebook_of_ofText hs
  refine ⟨hpassed, ?_⟩
  intro h limits δ face d t id hid r hr
  obtain ⟨hprograms, hclear⟩ := hpassed.1 h
  have hends : (t.value id).run.Ends r := by
    rcases hr with rfl | hr
    · exact Dice.Plan.ends_play face _ d
    · exact Sheet.ends_of_mem_evaluateAll hr
  constructor
  · rintro x rfl
    -- a cycle that an evaluation comes upon is one of dependencies
    obtain ⟨hreach, hcycle⟩ := Context.explains_evaluate hends
    exact hclear id hid x hreach hcycle
  · rintro program place name rfl
    exact Context.ordered_evaluate (c := t.toContext) hprograms hends program place name rfl

namespace Checking

def total : VariableId := { name := "total" }

def score : Program where
  id := "score"
  label := "score"
  signature := ⟨[], .number⟩
  statements := [⟨"base", "ten", []⟩, ⟨"result", "double", [.binding "base"]⟩]
  resultBinding := "result"

def rulebook : Rulebook where
  programs := ⟨[score], by simp⟩

def sheet : Sheet where
  rulebook := rulebook
  store := ⟨⟨[{ id := total, label := "Total", setting := .number (.program ⟨"score", []⟩) }],
    by simp⟩⟩

def rulebookJson : Json :=
  .record [("programs", .list [.record [("program_id", .text "score"),
    ("type_signature", .record [("result_type", .text "number")]),
    ("statements", .list [
      .record [("binding_name", .text "base"), ("function_id", .text "ten")],
      .record [("binding_name", .text "result"), ("function_id", .text "double"),
        ("parameter1", .record [("case", .text "statement_binding"), ("value", .text "base")])]]),
    ("result_binding_name", .text "result")]])]

def sheetJson : Json :=
  .list [.record [("case", .text "variable_number"), ("id", .text "total"),
    ("label", .text "Total"), ("value", .record [("case", .text "program_invocation"),
      ("value", .record [("program_id", .text "score")])])]]

lemma ofText_rulebook : Rulebook.ofText (some rulebookJson.pretty) = .ok rulebook := by
  have hwritable : Json.Writable id Json.Progress.deepest rulebookJson := by
    simp [rulebookJson, Json.Progress.deepest, Json.writable_record, Json.writable_list,
      Json.Writable.text]
  rw [Rulebook.ofText, readDocument_pretty hwritable]
  decide +kernel

lemma ofText_sheet : Sheet.ofText rulebook (some sheetJson.pretty) = .ok sheet := by
  have hwritable : Json.Writable id Json.Progress.deepest sheetJson := by
    simp [sheetJson, Json.Progress.deepest, Json.writable_record, Json.writable_list,
      Json.Writable.text]
  rw [Sheet.ofText, readDocument_pretty hwritable]
  rfl

lemma not_readsEarly : ∀ p ∈ rulebook.programs, ¬ p.ReadsEarly := by
  intro p hp
  obtain rfl := List.mem_singleton.1 hp
  exact Program.forwardReferences_eq_nil.1 (by decide)

lemma not_depends (x y : VariableId) : ¬ sheet.Depends x y := by
  have hreads (r : VariableRef) : r ∉ rulebook.readBy "score" := by
    intro hr
    obtain ⟨id, _, p, hp, hr⟩ := Rulebook.mem_readBy.1 hr
    cases List.mem_singleton.1 (List.mem_of_find?_eq_some hp)
    cases hr
  rw [Context.depends_iff]
  rintro ⟨v, hv, r, hr, _⟩
  cases List.mem_singleton.1 (List.mem_of_find?_eq_some hv)
  exact hreads r hr

lemma clear_total : ∀ id ∈ sheet.store.ids, sheet.Clear id :=
  fun _ _ => Context.clear_of_dependencies fun y hy => absurd hy (not_depends _ y)

end Checking

open Checking in
theorem check_finds_all_score :
    let face : Unit → ℕ → ℕ × Unit := fun d _ => (1, d)
    let t : Sheet := { sheet with limits := { invocations := 1 } }
    Rulebook.ofText (some rulebookJson.pretty) = .ok rulebook ∧
      Sheet.ofText rulebook (some sheetJson.pretty) = .ok sheet ∧
      (Command.check (some rulebookJson.pretty) (some (some sheetJson.pretty))).result =
        .ok true ∧
      ¬ score.ReadsEarly ∧ (∀ x, ReflTransGen sheet.Depends total x → ¬ TransGen sheet.Depends x x) ∧
      ∀ r, r = ((t.value total).run.play face ()).1.1 →
        (∀ x, r ≠ .error (.cyclicVariable x)) ∧
          ∀ program place name, r ≠ .error (.forwardReference program place name) := by
  intro face t
  obtain ⟨hexact, hsafe⟩ := check_finds_all ofText_rulebook ofText_sheet
  have hpassed := hexact.2 ⟨not_readsEarly, clear_total⟩
  obtain ⟨hprograms, hclear⟩ := hexact.1 hpassed
  exact ⟨ofText_rulebook, ofText_sheet, hpassed, hprograms score List.mem_cons_self,
    hclear total List.mem_cons_self,
    fun r hr => hsafe hpassed _ face () total List.mem_cons_self r (.inl hr)⟩

end Tabletop
