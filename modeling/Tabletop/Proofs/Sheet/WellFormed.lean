import Tabletop.Proofs.Evaluation.Reuse
import Tabletop.Proofs.Evaluation.WellFormed
import Tabletop.Proofs.Sheet.History

namespace Tabletop

open Sheet (Change)

namespace Sheet

variable {s t : Sheet} {x : Change} {r : Except RuleError Unit}

structure WellFormed (s : Sheet) : Prop where
  rulebook : s.rulebook.WellFormed
  store : s.store.WellFormed

/-- What play does to a sheet: numbers are assigned and recorded, and mechanics come into force. -/
def Change.InPlay : Change → Prop
  | record .. | assign .. | activate => True
  | insert _ | set .. => False

lemma wellFormed_make (hs : s.WellFormed) (hx : x.InPlay) (h : (s.make x).Ends (r, t)) :
    t.WellFormed := by
  rcases make_cases h with ⟨f, store, hf, hstore, _, rfl⟩ | ⟨_, _, rfl⟩ | ⟨_, _, vs, hvs, rfl⟩
  · refine ⟨hs.rulebook, ?_⟩
    cases x with
    | insert | set => cases hx
    | activate => cases hf
    | record =>
      cases hf
      obtain ⟨v, hv, _, rfl⟩ := Store.record_eq_ok.1 hstore
      exact Store.forall_replace hs.store (hs.store v (List.mem_of_find?_eq_some hv))
    | assign =>
      cases hf
      obtain ⟨v, hv, _, rfl⟩ := Store.assign_eq_ok.1 hstore
      -- a number takes the place of the setting, which has neither arguments nor dice
      exact Store.forall_replace hs.store ⟨fun _ => nofun, fun _ => nofun⟩
  · exact hs
  · refine ⟨hs.rulebook, Store.forall_gains hs.store fun v hv => ?_⟩
    obtain ⟨m, hm, hv⟩ := hvs v hv
    exact hs.rulebook.mechanics m hm v hv

lemma wellFormed_makeAll {xs : List Change} (hs : s.WellFormed) (hxs : ∀ x ∈ xs, x.InPlay)
    (h : (s.makeAll xs).Ends t) : t.WellFormed := by
  induction xs generalizing s with
  | nil =>
    cases h
    exact hs
  | cons x xs ih =>
    rw [makeAll, Dice.Plan.ends_bind] at h
    obtain ⟨⟨r, u⟩, hu, h⟩ := h
    obtain ⟨hx, hxs⟩ := List.forall_mem_cons.1 hxs
    exact ih (wellFormed_make hs hx hu) hxs h

lemma WellFormed.honours (hs : s.WellFormed) : s.Honours .wellFormed :=
  Context.honours_wellFormed hs.rulebook hs.store

lemma WellFormed.value (hs : s.WellFormed) {id : VariableId} {e : RuleError}
    (h : (s.value id).run.Ends (.error e)) : ¬ e.IllFormed := by
  change (s.fresh (Evaluation.enter (.evaluate id)).run).Ends (.error e) at h
  rw [Context.fresh_eq, Context.result_enter] at h
  exact Contract.admits_error.1 (hs.honours.outcome (a := .evaluate id) trivial h)

lemma WellFormed.isActive (hs : s.WellFormed) {m : Mechanic} {e : RuleError}
    (h : (s.fresh m.isActive.run).Ends (.error e)) : ¬ e.IllFormed := by
  have hstrict := Mechanic.strict_holds Contract.tolerant_wellFormed.toLenient m.requirements
    fun _ _ => trivial
  rw [Context.fresh_eq] at h
  exact Contract.admits_error.1 (hs.honours.result hstrict h)

end Sheet

/-- What has been decoded is well-formed and stays so in play: no variable, no report and no check
of a mechanic ever fails with invalid dice or with too many parameters, whatever the limits and the
dice. -/
theorem decoded_sheets_never_ill_formed {rulebook sheet : Json} {vs : List Variable} {start : Sheet}
    (hrulebook : Document.decode Rulebook.decode rulebook = .ok start.rulebook)
    (hvs : Document.decode Variable.decodeAll sheet = .ok vs)
    (hstart : Store.ofVariables vs = .ok start.store) {changes : List Change}
    (hchanges : ∀ x ∈ changes, x.InPlay) {s : Sheet} (hs : (start.makeAll changes).Ends s)
    {δ : Type} (face : δ → ℕ → ℕ × δ) (d : δ) {e : RuleError} (he : e.IllFormed) :
    (∀ id, ((s.value id).run.play face d).1.1 ≠ .error e) ∧
    (∀ id r, (id, r) ∈ (s.evaluateAll.play face d).1.1 → r ≠ .error e) ∧
    ∀ m : Mechanic, ((s.fresh m.isActive.run).play face d).1.1 ≠ .error e := by
  have hwf : start.WellFormed := by
    constructor
    · exact Rulebook.wellFormed_of_decode hrulebook
    · exact Store.forall_ofVariables (Variable.wellFormed_of_decodeAll hvs) hstart
  have hwf : s.WellFormed := Sheet.wellFormed_makeAll hwf hchanges hs
  refine ⟨fun id h => ?_, fun id r hr h => ?_, fun m h => ?_⟩
  · exact hwf.value (h ▸ Dice.Plan.ends_play face _ d) he
  · exact hwf.value (Sheet.ends_of_mem_evaluateAll (h ▸ hr)) he
  · exact hwf.isActive (h ▸ Dice.Plan.ends_play face _ d) he

namespace Armed

def sword : VariableId := { name := "sword" }

def weapon : Variable where
  id := sword
  label := "Sword"
  setting := .diceRoll (.literal { quantities := ⟨[⟨6, 2⟩], by simp⟩ })

def damage : Summation where
  id := "damage"
  name := "Damage"
  terms := ⟨[⟨none, .diceRoll (.variable (.id sword))⟩], by simp⟩

def armed : Mechanic where
  id := "armed"
  label := "Armed"
  requirements := [{ name := "ready" }]
  gains := [weapon]

def hit : Variable where
  id := { name := "hit" }
  label := "Hit"
  setting := .number (.summation "damage")

def ready : Variable where
  id := { name := "ready" }
  label := "Ready"
  setting := .boolean (.literal true)

def rules : Rulebook where
  summations := ⟨[damage], by simp⟩
  mechanics := [armed]

def unarmed : Sheet := { rulebook := rules, store := ⟨⟨[hit, ready], by decide⟩⟩ }

def drawn : Sheet := { rulebook := rules, store := ⟨⟨[hit, ready, weapon], by decide⟩⟩ }

def rulebookJson : Json :=
  .record [
    ("summations", .list [.record [("summation_id", .text "damage"), ("name", .text "Damage"),
      ("terms", .list [.record [("case", .text "summation_term_dice_roll"),
        ("value", .record [("case", .text "variable_reference"),
          ("value", .record [("case", .text "variable_id"), ("value", .text "sword")])])]])]]),
    ("mechanics", .list [.record [("mechanic_id", .text "armed"), ("label", .text "Armed"),
      ("requirements", .list [.text "ready"]),
      ("variables", .list [.record [("case", .text "variable_dice_roll"), ("id", .text "sword"),
        ("label", .text "Sword"), ("value", .record [("case", .text "dice_roll_literal"),
          ("value", .text "2d6")])]])]])]

def sheetJson : Json :=
  .list [
    .record [("case", .text "variable_number"), ("id", .text "hit"), ("label", .text "Hit"),
      ("value", .record [("case", .text "summation_id"), ("value", .text "damage")])],
    .record [("case", .text "variable_boolean"), ("id", .text "ready"), ("label", .text "Ready"),
      ("value", .record [("case", .text "boolean_literal"), ("value", .bool true)])]]

lemma activate_unarmed : unarmed.activate = .done (["armed"], drawn) := by
  have hactive : unarmed.fresh (Sheet.active rules.mechanics) = .done [armed] := by
    rw [Context.fresh_eq]
    exact (Context.result_entered rfl rfl).trans rfl
  change unarmed.fresh (Sheet.active rules.mechanics) >>= _ = _
  rw [hactive]
  rfl

end Armed

open Armed in
theorem decoded_sheets_never_ill_formed_armed :
    let face : Unit → ℕ → ℕ × Unit := fun d _ => (1, d)
    let e : RuleError := .dice (.invalid ⟨0, 1⟩)
    Document.decode Rulebook.decode rulebookJson = .ok unarmed.rulebook ∧
      Document.decode Variable.decodeAll sheetJson = .ok [hit, ready] ∧
      Store.ofVariables [hit, ready] = .ok unarmed.store ∧
      (unarmed.makeAll [.activate]).Ends drawn ∧ e.IllFormed ∧
      ((drawn.value hit.id).run.play face ()).1.1 ≠ .error e ∧
      (∀ id r, (id, r) ∈ (drawn.evaluateAll.play face ()).1.1 → r ≠ .error e) ∧
      ((drawn.fresh armed.isActive.run).play face ()).1.1 ≠ .error e := by
  intro face e
  have hrulebook : Document.decode Rulebook.decode rulebookJson = .ok unarmed.rulebook := by
    decide +kernel
  have hsheet : Document.decode Variable.decodeAll sheetJson = .ok [hit, ready] := by
    decide +kernel
  have hstart : Store.ofVariables [hit, ready] = .ok unarmed.store := by decide +kernel
  have hdrawn : (unarmed.makeAll [.activate]).Ends drawn := by
    rw [Sheet.makeAll, Sheet.make, activate_unarmed]
    exact Dice.Plan.ends_done.2 rfl
  obtain ⟨hvalue, hreport, hactive⟩ := decoded_sheets_never_ill_formed hrulebook hsheet hstart
    (by simp [Change.InPlay]) hdrawn face () (e := e) trivial
  exact ⟨hrulebook, hsheet, hstart, hdrawn, trivial, hvalue hit.id, hreport, hactive armed⟩

end Tabletop
