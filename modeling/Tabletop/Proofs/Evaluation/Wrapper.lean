import Tabletop.Proofs.Evaluation.Conformance
import Tabletop.Proofs.Evaluation.Typing
import Tabletop.Proofs.Rule.Shadowing

namespace Tabletop

open Evaluation

def Parameter.arguments (n : ℕ) : List Parameter :=
  (List.range n).map fun k => argument (UInt64.ofNat (k + 1))

@[simp] lemma Parameter.length_arguments (n : ℕ) : (arguments n).length = n := by simp [arguments]

/-- The program has the signature of the function and a single statement, which applies the function
to the arguments of the program in their order and binds the result. -/
structure Program.Wraps (p : Program) (t : Table) : Prop where
  signature : p.signature = t.signature
  statements : p.statements =
    [⟨p.resultBinding, t.id, Parameter.arguments t.signature.parameters.length⟩]

lemma Parameter.mapM_resolve_arguments (program : ProgramId) (place : ℕ) (args : List Value)
    (bindings : List (String × Value)) (hargs : args.length ≤ maxParameters) :
    (arguments args.length).mapM (resolve program place args bindings) = pure args := by
  refine mapM_eq_pure (List.forall₂_iff_get.2 ⟨by simp, fun k hk hk' => ?_⟩)
  have hsize : maxParameters < UInt64.size := by decide
  have hindex : (UInt64.ofNat (k + 1)).toNat = k + 1 := UInt64.toNat_ofNat_of_lt' (by omega)
  have hget : args[k]? = some args[k] := List.getElem?_eq_getElem hk'
  simp only [arguments, List.get_eq_getElem, List.getElem_map, List.getElem_range, resolve, hindex,
    hget]

lemma Program.Wraps.execute {p : Program} {t : Table} {args : List Value} (hp : p.Wraps t)
    (hargs : t.signature.checkArguments t.id args = .ok ()) :
    p.execute args = do
      let v ← Evaluation.apply t.id args
      p.signature.checkResult p.id v
      return v := by
  obtain ⟨hmax, hlen, hmatch⟩ := Signature.checkArguments_eq_ok.1 hargs
  have hcheck : p.signature.checkArguments p.id args = .ok () := by
    rw [hp.signature]
    exact Signature.checkArguments_eq_ok.2 ⟨hmax, hlen, hmatch⟩
  have hchecked : (liftM (Except.ok () : Except RuleError Unit) : Evaluation Unit) = pure () := rfl
  have hcount : ¬maxParameters < (Parameter.arguments args.length).length := by
    simpa using hmax
  rw [Program.execute, hcheck, hp.statements, ← hlen, runFrom, Statement.evaluate, if_neg hcount,
    Parameter.mapM_resolve_arguments p.id 0 args [] hmax]
  simp [runFrom, hchecked]

namespace Context

variable {c : Context} {p : Program} {t : Table} {args : List Value}

lemma outcome_wrapper (hlimit : 1 ≤ c.limits.invocations)
    (ht : c.rulebook.function? t.id = some t) (hp : c.rulebook.program? p.id = some p)
    (hvalid : t.validate = .ok ()) (hwraps : p.Wraps t)
    (hargs : t.signature.checkArguments t.id args = .ok ()) :
    c.outcome {} (.run p.id args) = .done (t.apply args) := by
  have hroom : ¬c.limits.invocations.toNat ≤ 0 := Nat.not_le.2 (UInt64.le_iff_toNat_le.1 hlimit)
  have hstart : c.start {} (.run p.id args) = .ok (p.execute args).run := by
    simp [start, hp, hroom]
  have hreply : c.reply (.apply t.id args) = .now (return t.apply args) := by
    simp only [reply, ht]
  rw [outcome_started hstart, hwraps.execute hargs, ExceptT.run_bind, Evaluation.apply,
    Evaluation.ask, ExceptT.run_mk, result_bind, result_now hreply]
  -- the result passes the program's own check, as the rows have passed that of the function
  cases hv : t.apply args with
  | error e => rfl
  | ok v =>
    have htype : v.type = p.signature.result := by
      rw [hwraps.signature]
      exact Table.type_of_apply hvalid hv
    have hresult : p.signature.checkResult p.id v = .ok () := if_pos htype
    change c.result _ (ExceptT.run do liftM (p.signature.checkResult p.id v); pure v) = _
    rw [hresult]
    rfl

end Context

namespace Conformance

variable {c : Context} {f : Frame} {r : Conformance}

def addAll (out : Row → Outcome) (r : Conformance) (row : ℕ) : List Row → Conformance
  | [] => r
  | expected :: rest => addAll out (r.add row expected (out expected)) (row + 1) rest

lemma result_checkRows {out : Row → Outcome} {rows : List Row} (row : ℕ)
    (h : ∀ expected ∈ rows,
      c.outcome f (.run r.program expected.parameters) = .done (out expected)) :
    c.result f (r.checkRows row rows) = .done (r.addAll out row rows) := by
  induction rows generalizing r row with
  | nil => rfl
  | cons expected rest ih =>
    obtain ⟨hexpected, hrest⟩ := List.forall_mem_cons.1 h
    rw [checkRows, Context.result_bind, Context.result_enter, hexpected]
    exact ih (row + 1) (by simpa only [program_add] using hrest)

def failure? (row : ℕ) (expected : Row) (actual : Outcome) : Option Failure :=
  match actual with
  | .ok v =>
    if v == expected.result then none
    else some ⟨row, expected.parameters, expected.result, actual⟩
  | .error _ => some ⟨row, expected.parameters, expected.result, actual⟩

lemma row_of_failure? {row : ℕ} {expected : Row} {actual : Outcome} {failure : Failure}
    (h : failure? row expected actual = some failure) : failure.row = row := by
  unfold failure? at h
  split at h
  · split at h <;> cases h
    rfl
  · cases h
    rfl

lemma failures_add (row : ℕ) (expected : Row) (actual : Outcome) :
    (r.add row expected actual).failures =
      r.failures ++ (failure? row expected actual).toList := by
  cases actual with
  | error e => simp [add, failure?]
  | ok v => by_cases hv : (v == expected.result) = true <;> simp [add, failure?, hv]

lemma total_add (row : ℕ) (expected : Row) (actual : Outcome) :
    (r.add row expected actual).total = r.total + 1 := by
  cases actual with
  | error e => simp [add, total]; omega
  | ok v => by_cases hv : (v == expected.result) = true <;> simp [add, total, hv] <;> omega

section All

variable (out : Row → Outcome) (row : ℕ) (rows : List Row)

lemma total_addAll : (r.addAll out row rows).total = r.total + rows.length := by
  induction rows generalizing r row with
  | nil => rfl
  | cons expected rest ih =>
    rw [addAll, ih, total_add, List.length_cons]
    omega

lemma failures_addAll : (r.addAll out row rows).failures = r.failures ++
    (rows.zipIdx row).filterMap fun (expected, k) => failure? k expected (out expected) := by
  induction rows generalizing r row with
  | nil => simp [addAll]
  | cons expected rest ih =>
    rw [addAll, ih, failures_add, List.zipIdx_cons, List.append_assoc]
    cases h : failure? row expected (out expected) with
    | none => simp [h]
    | some failure => simp [h]

end All

lemma failures_increasing (out : Row → Outcome) (rows : List Row)
    (h : r.failures = []) : ((r.addAll out 0 rows).failures.map Failure.row).Pairwise (· < ·) := by
  rw [failures_addAll, h, List.nil_append, List.pairwise_map]
  have hrows : (rows.zipIdx.map Prod.snd).Pairwise (· < ·) := by
    rw [List.zipIdx_map_snd]
    exact List.pairwise_lt_range'
  refine (List.pairwise_map.1 hrows).filterMap _ fun a b hab failure ha failure' hb => ?_
  rwa [row_of_failure? ha, row_of_failure? hb]

lemma mem_failures {out : Row → Outcome} {rows : List Row} {failure : Failure}
    (h : r.failures = []) : failure ∈ (r.addAll out 0 rows).failures ↔
      ∃ k expected, rows[k]? = some expected ∧
        failure? k expected (out expected) = some failure := by
  rw [failures_addAll, h, List.nil_append, List.mem_filterMap]
  constructor
  · rintro ⟨⟨expected, k⟩, hmem, hfailure⟩
    exact ⟨k, expected, List.mem_zipIdx_iff_getElem?.1 hmem, hfailure⟩
  · rintro ⟨k, expected, hget, hfailure⟩
    exact ⟨(expected, k), List.mem_zipIdx_iff_getElem?.2 hget, hfailure⟩

lemma failure?_apply {t : Table} {k : ℕ} {row : Row} {failure : Failure}
    (hvalid : t.validate = .ok ()) (hrow : t.rows[k]? = some row) (hdefinite : row.Definite) :
    failure? k row (t.apply row.parameters) = some failure ↔
      ∃ first, t.Shadows first k row ∧
        failure = ⟨k, row.parameters, row.result, .ok first.result⟩ := by
  have hshadowed {first : Row} (h : t.Shadows first k row) :
      failure? k row (t.apply row.parameters) =
        some ⟨k, row.parameters, row.result, .ok first.result⟩ := by
    rw [Table.apply_of_shadows hvalid h, failure?, h.differs]
    rfl
  constructor
  · intro h
    obtain ⟨v, hv, hconforms⟩ | ⟨first, hfirst⟩ :=
      Table.conforms_or_shadowed hvalid hrow hdefinite
    · simp [hv, failure?, hconforms] at h
    · rw [hshadowed hfirst] at h
      exact ⟨first, hfirst, (Option.some.inj h).symm⟩
  · rintro ⟨first, hfirst, rfl⟩
    exact hshadowed hfirst

lemma result_check {program : ProgramId} {p : Program} {t : Table} {out : Row → Outcome}
    (hp : c.rulebook.program? program = some p) (ht : c.rulebook.function? t.id = some t)
    (h : ∀ row ∈ t.rows, c.outcome f (.run program row.parameters) = .done (out row)) :
    c.result f (check c.rulebook program t.id).run =
      .done (.ok (addAll out ⟨program, t.id, 0, []⟩ 0 t.rows)) := by
  have hcheck : check c.rulebook program t.id =
      ExceptT.lift (checkRows ⟨program, t.id, 0, []⟩ 0 t.rows) := by rw [check, hp, ht]
  rw [hcheck, ExceptT.run_lift, map_eq_pure_bind, Context.result_bind, result_checkRows 0 h]
  rfl

end Conformance

/-- When a program that does nothing but apply a function is checked against the function, the rows
fail that stand after another row with equal parameters, the first of which has another result. So
the report is a success if and only if the table has one result for all equal parameters. -/
theorem wrapper_fails_on_shadowed_rows (c : Context) (p : Program) (t : Table)
    (hlimit : 1 ≤ c.limits.invocations) (ht : c.rulebook.function? t.id = some t)
    (hp : c.rulebook.program? p.id = some p) (hvalid : t.validate = .ok ())
    (hdefinite : ∀ row ∈ t.rows, row.Definite) (hwraps : p.Wraps t) :
    ∃ report : Conformance,
      (∀ {δ : Type} (face : δ → ℕ → ℕ × δ) (d : δ),
        (c.fresh (Conformance.check c.rulebook p.id t.id).run).play face d =
          ((.ok report, []), d)) ∧
      report.passed + report.failures.length = t.rows.length ∧
      (report.failures.map Failure.row).Pairwise (· < ·) ∧
      (∀ failure, failure ∈ report.failures ↔ ∃ first k row, t.Shadows first k row ∧
        failure = ⟨k, row.parameters, row.result, .ok first.result⟩) ∧
      (report.success = true ↔ t.SingleValued) := by
  let out (row : Row) : Outcome := t.apply row.parameters
  let report : Conformance := Conformance.addAll out ⟨p.id, t.id, 0, []⟩ 0 t.rows
  have hout : ∀ row ∈ t.rows, c.outcome {} (.run p.id row.parameters) = .done (out row) :=
    fun row hrow => Context.outcome_wrapper hlimit ht hp hvalid hwraps
      (Table.checkArguments_of_validate hvalid hrow)
  have hfailures (failure : Failure) : failure ∈ report.failures ↔
      ∃ first k row, t.Shadows first k row ∧
        failure = ⟨k, row.parameters, row.result, .ok first.result⟩ := by
    rw [Conformance.mem_failures rfl]
    constructor
    · rintro ⟨k, row, hrow, h⟩
      obtain ⟨first, hfirst, rfl⟩ := (Conformance.failure?_apply hvalid hrow
        (hdefinite row (List.mem_of_getElem? hrow))).1 h
      exact ⟨first, k, row, hfirst, rfl⟩
    · rintro ⟨first, k, row, hfirst, rfl⟩
      exact ⟨k, row, hfirst.stands, (Conformance.failure?_apply hvalid hfirst.stands
        (hdefinite row (List.mem_of_getElem? hfirst.stands))).2 ⟨first, hfirst, rfl⟩⟩
  refine ⟨report, fun face d => ?_, ?_, Conformance.failures_increasing out t.rows rfl, hfailures,
    ?_⟩
  · rw [Context.fresh_eq, Conformance.result_check hp ht hout]
    rfl
  · exact (Conformance.total_addAll out 0 t.rows).trans (Nat.zero_add _)
  · rw [Table.singleValued_iff hvalid hdefinite, Conformance.success, List.isEmpty_iff,
      List.eq_nil_iff_forall_not_mem]
    constructor
    · intro h first k row hshadows
      exact h _ ((hfailures _).2 ⟨first, k, row, hshadows, rfl⟩)
    · intro h failure hmem
      obtain ⟨first, k, row, hshadows, _⟩ := (hfailures failure).1 hmem
      exact h first k row hshadows

namespace Shadowing

/-- Negative zero equals zero, so that the second row is never reached; nor is the last, but its
result is that of the row before it. -/
def digit : Table where
  id := "digit"
  label := "digit"
  signature := ⟨[.number], .text⟩
  rows := [⟨[.number 0], .text "zero"⟩, ⟨[.number (-0.0)], .text "naught"⟩,
    ⟨[.number 1], .text "one"⟩, ⟨[.number 1], .text "one"⟩]

def spell : Program where
  id := "spell"
  label := "spell"
  signature := ⟨[.number], .text⟩
  statements := [⟨"word", "digit", [.argument 1]⟩]
  resultBinding := "word"

def spelling : Context where
  rulebook := { functions := ⟨[digit], by simp⟩, programs := ⟨[spell], by simp⟩ }
  store := {}
  limits := { invocations := 1 }

lemma shadows : digit.Shadows ⟨[.number 0], .text "zero"⟩ 1 ⟨[.number (-0.0)], .text "naught"⟩ where
  stands := rfl
  earlier := ⟨0, by omega, rfl, by omega⟩
  equal := by decide +kernel
  differs := by decide +kernel

end Shadowing

open Shadowing in
theorem wrapper_fails_on_shadowed_rows_negative_zero :
    1 ≤ spelling.limits.invocations ∧ spelling.rulebook.function? digit.id = some digit ∧
      spelling.rulebook.program? spell.id = some spell ∧ digit.validate = .ok () ∧
      (∀ row ∈ digit.rows, row.Definite) ∧ spell.Wraps digit ∧
      ∃ report : Conformance,
        (∀ {δ : Type} (face : δ → ℕ → ℕ × δ) (d : δ),
          (spelling.fresh (Conformance.check spelling.rulebook spell.id digit.id).run).play face d =
            ((.ok report, []), d)) ∧
        report.passed + report.failures.length = 4 ∧
        ⟨1, [.number (-0.0)], .text "naught", .ok (.text "zero")⟩ ∈ report.failures ∧
        report.success = false := by
  have hlimit : 1 ≤ spelling.limits.invocations := by decide
  have hvalid : digit.validate = .ok () := rfl
  have hdefinite : ∀ row ∈ digit.rows, row.Definite := by decide +kernel
  have hwraps : spell.Wraps digit := ⟨rfl, rfl⟩
  obtain ⟨report, hplay, htotal, _, hfailures, hsuccess⟩ :=
    wrapper_fails_on_shadowed_rows spelling spell digit hlimit rfl rfl hvalid hdefinite hwraps
  refine ⟨hlimit, rfl, rfl, hvalid, hdefinite, hwraps, report, hplay, htotal,
    (hfailures _).2 ⟨_, 1, _, shadows, rfl⟩, ?_⟩
  rw [← Bool.not_eq_true, hsuccess, Table.singleValued_iff hvalid hdefinite]
  exact fun h => h _ _ _ shadows

end Tabletop
