import Tabletop.Proofs.Dependency.Graph
import Tabletop.Proofs.Evaluation.Congruence
import Tabletop.Proofs.Results

namespace Tabletop

open Value (AllLike)

variable {α β : Type}

def Dice.Plan.Still (p : Plan α) : Prop := ∃ a, p = .done a

namespace Dice.Plan

lemma still_done (a : α) : (done a).Still := ⟨a, rfl⟩

lemma Still.bind {p : Plan α} {g : α → Plan β} (hp : p.Still) (hg : ∀ a, (g a).Still) :
    (p >>= g).Still := by
  obtain ⟨a, rfl⟩ := hp
  exact hg a

end Dice.Plan

namespace Context

variable {c : Context} {f : Frame}

lemma still_now {q : Request} {p : Dice.Plan (Except RuleError q.Answer)}
    (hq : ∀ r, q ≠ .roll r) (h : c.reply q = .now p) : p.Still := by
  cases q with
  | enter => cases h
  | roll r => exact absurd rfl (hq r)
  | value r =>
    simp only [reply] at h
    split at h <;> cases h
    exact Dice.Plan.still_done _
  | entry r =>
    cases h
    exact Dice.Plan.still_done _
  | apply name args =>
    simp only [reply] at h
    split at h
    · cases h
      exact Dice.Plan.still_done _
    · split at h <;> cases h
      exact Dice.Plan.still_done _

lemma still_follow {out : Activity → Dice.Plan Outcome} (hout : ∀ b, (out b).Still)
    {x : Inquiry (Except RuleError α)}
    (hx : x.Strict (.plain fun q => ∀ r, q ≠ .roll r) fun _ => True) : (x.follow c out).Still := by
  induction x with
  | done r => exact Dice.Plan.still_done r
  | ask q next ih =>
    obtain ⟨hq, herror, hok⟩ := hx
    have hnext (r : Except RuleError q.Answer) : ((next r).follow c out).Still := by
      cases r with
      | error e =>
        rw [herror e]
        exact Dice.Plan.still_done _
      | ok a => exact ih (.ok a) (hok a trivial)
    cases hr : c.reply q with
    | now p =>
      rw [Inquiry.follow_now hr]
      exact (still_now hq hr).bind hnext
    | enter b pass =>
      rw [Inquiry.follow_enter hr]
      exact (hout b).bind fun r => hnext (pass r)

lemma still_outcome (hc : c.store = {}) (a : Activity) : (c.outcome f a).Still := by
  induction f, a using activity_induction (c := c) with
  | step f a ih =>
    cases hx : c.start f a with
    | error e =>
      rw [outcome_refused hx]
      exact Dice.Plan.still_done _
    | ok x =>
      rw [outcome_started hx]
      refine still_follow (ih x hx) ?_
      cases a with
      | evaluate id =>
        obtain ⟨_, v, hv, _⟩ := start_evaluate hx
        rw [hc] at hv
        cases hv
      | run id args =>
        obtain ⟨_, p, _, rfl⟩ := start_run hx
        exact p.strict (Contract.lenient_plain fun _ _ => nofun) args (fun _ _ _ => nofun)
          (fun _ => trivial) (fun _ _ _ => trivial) (fun _ _ _ => trivial) fun _ _ _ _ _ => nofun

end Context

namespace Conformance

variable {c : Context} {f : Frame} {r r' : Conformance}

lemma success_of_add {row : ℕ} {expected : Row} {actual : Except RuleError Value}
    (h : (r.add row expected actual).success = true) :
    r.success = true ∧ ∃ w, actual = .ok w ∧ (w == expected.result) = true := by
  cases actual with
  | error e => simp [add, success] at h
  | ok w =>
    by_cases hw : (w == expected.result) = true
    · exact ⟨by simpa [add, success, hw] using h, w, rfl, hw⟩
    · simp [add, success, hw] at h

lemma program_add (row : ℕ) (expected : Row) (actual : Except RuleError Value) :
    (r.add row expected actual).program = r.program := by
  unfold add
  extract_lets conforms
  split <;> rfl

lemma still_checkRows (hc : c.store = {}) (row : ℕ) (rows : List Row) :
    (c.result f (r.checkRows row rows)).Still := by
  induction rows generalizing r row with
  | nil => exact Dice.Plan.still_done _
  | cons expected rest ih =>
    rw [checkRows, Context.result_bind, Context.result_enter]
    exact (Context.still_outcome hc _).bind fun actual => ih (row + 1)

lemma conforms_of_checkRows {row : ℕ} {rows : List Row}
    (h : (c.result f (r.checkRows row rows)).Ends r') (hsuccess : r'.success = true) :
    r.success = true ∧ ∀ expected ∈ rows, ∃ w,
      (c.outcome f (.run r.program expected.parameters)).Ends (.ok w) ∧
        (w == expected.result) = true := by
  induction rows generalizing r row with
  | nil =>
    cases h
    exact ⟨hsuccess, by simp⟩
  | cons expected rest ih =>
    rw [checkRows, Context.result_bind, Context.result_enter, Dice.Plan.ends_bind] at h
    obtain ⟨actual, hactual, h⟩ := h
    obtain ⟨hadd, hrest⟩ := ih h
    obtain ⟨hr, w, rfl, hw⟩ := success_of_add hadd
    rw [program_add] at hrest
    exact ⟨hr, List.forall_mem_cons.2 ⟨⟨w, hactual, hw⟩, hrest⟩⟩

lemma still_check (hc : c.store = {}) (program : ProgramId) (function : FunctionId) :
    (c.result f (check c.rulebook program function).run).Still := by
  rw [check]
  split
  · exact Dice.Plan.still_done _
  · exact Dice.Plan.still_done _
  · rw [ExceptT.run_lift, map_eq_pure_bind, Context.result_bind]
    exact (still_checkRows hc 0 _).bind fun _ => Dice.Plan.still_done _

lemma conforms_of_check {program : ProgramId} {function : FunctionId} {t : Table}
    (ht : c.rulebook.function? function = some t)
    (h : (c.result f (check c.rulebook program function).run).Ends (.ok r))
    (hsuccess : r.success = true) : ∀ expected ∈ t.rows, ∃ w,
      (c.outcome f (.run program expected.parameters)).Ends (.ok w) ∧
        (w == expected.result) = true := by
  rw [check, ht] at h
  split at h
  · cases h
  · rename_i hnone
    cases hnone
  · rename_i hsome
    cases hsome
    rw [ExceptT.run_lift, map_eq_pure_bind, Context.result_bind, Dice.Plan.ends_bind] at h
    obtain ⟨report, hreport, h⟩ := h
    cases h
    exact (conforms_of_checkRows hreport hsuccess).2

end Conformance

lemma Table.row_of_apply {t : Table} {args : List Value} {v : Value} (h : t.apply args = .ok v) :
    ∃ row ∈ t.rows, AllLike row.parameters args ∧ row.result = v := by
  rw [apply, bind_eq_ok] at h
  obtain ⟨_, _, h⟩ := h
  split at h
  · rename_i row hrow
    cases h
    have hparameters : (row.parameters == args) = true := by simpa using List.find?_some hrow
    exact ⟨row, List.mem_of_find?_eq_some hrow, Value.allLike_of_beq hparameters, rfl⟩
  · cases h

/-- Without variables a check of conformance rolls no dice, so that all dice lead to one report. If
the report is a success, the program computes the function's value for all arguments for which the
function has one. -/
theorem conformance_guarantee (b : Rulebook) (limits : Limits) (program : ProgramId)
    (function : FunctionId) :
    let c : Context := { rulebook := b, store := {}, limits }
    ∃ result : Except RuleError Conformance,
      (∀ {δ : Type} (face : δ → ℕ → ℕ × δ) (d : δ),
        (c.fresh (Conformance.check b program function).run).play face d = ((result, []), d)) ∧
      ∀ report, result = .ok report → report.success = true →
        ∀ t, b.function? function = some t → ∀ args v, t.apply args = .ok v →
          ∃ w, (w == v) = true ∧ ∀ {δ : Type} (face : δ → ℕ → ℕ × δ) (d : δ),
            (c.fresh (Evaluation.enter (.run program args)).run).play face d = ((.ok w, []), d) := by
  intro c
  obtain ⟨result, hresult⟩ := Conformance.still_check (c := c) (f := {}) rfl program function
  refine ⟨result, fun face d => ?_, ?_⟩
  · rw [Context.fresh_eq, hresult]
    rfl
  · rintro report rfl hsuccess t ht args v hv
    obtain ⟨row, hrow, hargs, rfl⟩ := t.row_of_apply hv
    have hends : (c.result {} (Conformance.check b program function).run).Ends (.ok report) := by
      rw [hresult]
      exact .done _
    obtain ⟨w, hw, heq⟩ := Conformance.conforms_of_check ht hends hsuccess row hrow
    -- the program was run on the row's parameters, which it cannot tell from the arguments
    obtain ⟨o, ho⟩ := Context.still_outcome (c := c) (f := {}) rfl (.run program row.parameters)
    rw [ho, Dice.Plan.ends_done] at hw
    subst hw
    refine ⟨w, heq, fun face d => ?_⟩
    rw [Context.fresh_eq, Context.result_enter, ← Context.outcome_like {} program hargs, ho]
    rfl

namespace Conforming

def sign : Table where
  id := "sign"
  label := "sign"
  signature := ⟨[.number], .text⟩
  rows := [⟨[.number 0], .text "zero"⟩]

def describe : Program where
  id := "describe"
  label := "describe"
  signature := ⟨[.number], .text⟩
  statements := [⟨"word", "sign", [.argument 1]⟩]
  resultBinding := "word"

def rules : Rulebook where
  functions := ⟨[sign], by simp⟩
  programs := ⟨[describe], by simp⟩

def bare : Context := { rulebook := rules, store := {}, limits := { invocations := 1 } }

def report : Conformance := { program := "describe", function := "sign", passed := 1 }

lemma apply_zero : sign.apply [.number 0] = .ok (.text "zero") := by decide +kernel

lemma apply_negativeZero : sign.apply [.number (-0.0)] = .ok (.text "zero") := by decide +kernel

lemma outcome_describe :
    bare.outcome {} (.run "describe" [.number 0]) = .done (.ok (.text "zero")) := by
  rw [Context.outcome_started rfl]
  refine (Inquiry.follow_now rfl).trans ?_
  change (Dice.Plan.done (sign.apply [.number 0]) >>= _) = _
  rw [apply_zero]
  rfl

lemma check_describe : bare.fresh (Conformance.check rules "describe" "sign").run =
    .done (.ok report) := by
  rw [Context.fresh_eq]
  change bare.result {} (ExceptT.lift (Conformance.checkRows _ 0 sign.rows)).run = _
  rw [ExceptT.run_lift, map_eq_pure_bind, Context.result_bind, sign, Conformance.checkRows,
    Context.result_bind, Context.result_enter, outcome_describe]
  rfl

end Conforming

open Conforming in
theorem conformance_guarantee_negative_zero :
    let face : Unit → ℕ → ℕ × Unit := fun d _ => (1, d)
    (bare.fresh (Conformance.check rules "describe" "sign").run).play face () =
        ((.ok report, []), ()) ∧ report.success = true ∧
      rules.function? "sign" = some sign ∧
      sign.apply [.number (-0.0)] = .ok (.text "zero") ∧
      ∃ w, (w == .text "zero") = true ∧
        (bare.fresh (Evaluation.enter (.run "describe" [.number (-0.0)])).run).play face () =
          ((.ok w, []), ()) := by
  intro face
  have hsign : rules.function? "sign" = some sign := rfl
  obtain ⟨result, hplay, hgood⟩ := conformance_guarantee rules { invocations := 1 } "describe" "sign"
  have hchecked : (bare.fresh (Conformance.check rules "describe" "sign").run).play face () =
      ((.ok report, []), ()) := by rw [check_describe]; rfl
  have hresult : result = .ok report := by
    have hsame := (hplay face ()).symm.trans hchecked
    simpa using hsame
  obtain ⟨w, hw, hrun⟩ := hgood report hresult rfl sign hsign _ _ apply_negativeZero
  exact ⟨hchecked, rfl, hsign, apply_negativeZero, w, hw, hrun face ()⟩

end Tabletop
