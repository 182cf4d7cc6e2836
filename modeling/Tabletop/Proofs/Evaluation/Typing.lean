import Tabletop.Proofs.Document.Validation
import Tabletop.Proofs.Evaluation.Yields

namespace Tabletop

open Evaluation

variable {c : Context} {f : Frame}

namespace Signature

variable {s : Signature} {target : String} {args : List Value}

lemma types_of_firstMismatch? {position : ℕ} {ts : List ValueType} {vs : List Value}
    (hlen : vs.length = ts.length) (h : firstMismatch? position ts vs = none) :
    vs.map Value.type = ts := by
  induction ts generalizing position vs with
  | nil =>
    have hnil : vs = [] := List.length_eq_zero_iff.1 hlen
    rw [hnil, List.map_nil]
  | cons t ts ih =>
    cases vs with
    | nil => cases hlen
    | cons v vs =>
      rw [firstMismatch?] at h
      split at h
      · rename_i hv
        have hlen : vs.length = ts.length := Nat.succ.inj hlen
        rw [List.map_cons, hv, ih hlen h]
      · cases h

lemma checkArguments_eq_ok : s.checkArguments target args = .ok () ↔
    args.length ≤ maxParameters ∧ args.length = s.parameters.length ∧
      firstMismatch? 1 s.parameters args = none := by
  rw [checkArguments]
  split
  · simp; omega
  · split
    · simp_all
    · split <;> simp_all

lemma types_of_checkArguments {u : Unit} (h : s.checkArguments target args = .ok u) :
    args.map Value.type = s.parameters := by
  obtain ⟨_, hlen, hmatch⟩ := checkArguments_eq_ok.1 h
  exact types_of_firstMismatch? hlen hmatch

lemma type_of_checkResult {v : Value} {u : Unit} (h : s.checkResult target v = .ok u) :
    v.type = s.result := by
  rw [checkResult] at h
  split at h
  · rename_i hv
    exact hv
  · cases h

end Signature

lemma Table.type_of_apply {t : Table} (ht : t.validate = .ok ()) {args : List Value} {v : Value}
    (h : t.apply args = .ok v) : v.type = t.signature.result := by
  rw [apply, bind_eq_ok] at h
  obtain ⟨_, _, h⟩ := h
  split at h
  · rename_i row hrow
    cases h
    have hvalid : t.checkRow row = .ok () := forM_eq_ok.1 ht row (List.mem_of_find?_eq_some hrow)
    rw [checkRow, bind_eq_ok] at hvalid
    obtain ⟨_, _, hresult⟩ := hvalid
    exact Signature.type_of_checkResult hresult
  · cases h

lemma Value.type_of_expect {v w : Value} {t : ValueType} (h : v.expect t = .ok w) :
    w.type = t := by
  rw [expect] at h
  split at h
  · rename_i hv
    cases h
    exact hv
  · cases h

lemma Evaluation.yields_typed {good : Value → Prop} {r : Except Mismatch Value}
    (h : ∀ v, r = .ok v → good v) : Yields good (typed r) := by
  refine yields_lift fun v hv => ?_
  cases r with
  | error e => cases hv
  | ok w =>
    cases hv
    exact h v rfl

lemma DataRef.yields (r : DataRef) : Yields (fun v => v.type = r.type) r.resolve := by
  cases r with
  | boolean r => exact yields_bind fun b => yields_pure rfl
  | number r => exact yields_bind fun x => yields_pure rfl
  | diceRoll r => exact yields_bind fun d => yields_pure rfl

lemma Variable.yields (b : Rulebook) (v : Variable) :
    Yields (fun w => w.type = v.type) (v.evaluate b) := by
  have hexpect (x : Evaluation Value) (t : ValueType) :
      Yields (fun w => w.type = t) (do typed ((← x).expect t)) :=
    yields_bind fun w => yields_typed fun _ h => Value.type_of_expect h
  rw [evaluate, type]
  rcases v.setting with s | s | s | s
  · cases s with
    | literal b => exact yields_pure rfl
    | program i => exact hexpect i.invoke .boolean
  · cases s with
    | literal x => exact yields_pure rfl
    | unknown => exact yields_throw _
    | «variable» id => exact hexpect (enter (.evaluate id)) .number
    | program i => exact hexpect i.invoke .number
    | entry r => exact yields_bind fun e => yields_bind fun x => yields_pure rfl
    | summation id => exact yields_bind fun x => yields_pure rfl
  · cases s with
    | literal s => exact yields_pure rfl
    | unknown => exact yields_throw _
    | entry r => exact yields_bind fun e => yields_bind fun s => yields_pure rfl
    | program i => exact hexpect i.invoke .text
    | choice id => exact yields_throw _
  · cases s with
    | literal r => exact yields_pure rfl

lemma Program.yields (p : Program) (args : List Value) :
    Yields (fun v => args.map Value.type = p.signature.parameters ∧ v.type = p.signature.result)
      (p.execute args) := by
  have hargs : Yields (fun _ => args.map Value.type = p.signature.parameters)
      (liftM (p.signature.checkArguments p.id args) : Evaluation Unit) :=
    yields_lift fun _ h => Signature.types_of_checkArguments h
  have hresult (v : Value) : Yields (fun _ => v.type = p.signature.result)
      (liftM (p.signature.checkResult p.id v) : Evaluation Unit) :=
    yields_lift fun _ h => Signature.type_of_checkResult h
  rw [execute]
  refine hargs.bind fun _ hargs => yields_bind fun bindings => ?_
  split
  · exact yields_throw _
  · exact (hresult _).bind fun _ hv => yields_pure ⟨hargs, hv⟩

namespace Context

lemma type_of_evaluate {id : VariableId} {v : Value}
    (h : (c.outcome f (.evaluate id)).Ends (.ok v)) :
    ∃ w, c.store.get? id = some w ∧ v.type = w.type := by
  obtain ⟨x, hx, h⟩ := started_of_ends h
  obtain ⟨_, w, hw, rfl⟩ := start_evaluate hx
  exact ⟨w, hw, (w.yields c.rulebook).ends h⟩

lemma types_of_run {id : ProgramId} {args : List Value} {v : Value}
    (h : (c.outcome f (.run id args)).Ends (.ok v)) :
    ∃ p, c.rulebook.program? id = some p ∧ args.map Value.type = p.signature.parameters ∧
      v.type = p.signature.result := by
  obtain ⟨x, hx, h⟩ := started_of_ends h
  obtain ⟨_, p, hp, rfl⟩ := start_run hx
  exact ⟨p, hp, (p.yields args).ends h⟩

lemma type_of_apply {id : FunctionId} {args : List Value} {v : Value}
    (hvalid : ∀ t ∈ c.rulebook.functions, t.validate = .ok ())
    (h : (c.result f (Evaluation.apply id args).run).Ends (.ok v)) :
    (∃ t, c.rulebook.function? id = some t ∧ v.type = t.signature.result) ∨
      (c.rulebook.function? id = none ∧
        ∃ p, c.rulebook.program? id = some p ∧ v.type = p.signature.result) := by
  cases ht : c.rulebook.function? id with
  | some t =>
    have hreply : c.reply (.apply id args) = .now (return t.apply args) := by
      simp only [reply, ht]
    rw [Evaluation.apply, ask, ExceptT.run_mk, result_now hreply] at h
    have happly : t.apply args = .ok v := (Dice.Plan.ends_done.1 h).symm
    have hmem : t ∈ c.rulebook.functions := List.mem_of_find?_eq_some ht
    exact .inl ⟨t, rfl, Table.type_of_apply (hvalid t hmem) happly⟩
  | none =>
    cases hp : c.rulebook.program? id with
    | none =>
      have hreply : c.reply (.apply id args) = .now (return .error (.unknownFunction id)) := by
        simp only [reply, ht, hp]
      rw [Evaluation.apply, ask, ExceptT.run_mk, result_now hreply] at h
      cases h
    | some p =>
      have hreply : c.reply (.apply id args) = .enter (.run id args) fun r => r := by
        simp only [reply, ht, hp]
        rfl
      rw [Evaluation.apply, ask, ExceptT.run_mk, result, Inquiry.follow_enter hreply,
        Dice.Plan.ends_bind] at h
      obtain ⟨r, hr, h⟩ := h
      cases h
      obtain ⟨q, hq, _, hv⟩ := types_of_run hr
      obtain rfl : p = q := Option.some.inj (hp.symm.trans hq)
      exact .inr ⟨rfl, p, rfl, hv⟩

end Context

/-- Whatever the evaluator is inside of, a value it gives has the type that was declared: for what a
function gives this takes rows that fit the function's signature, and rows from a document do. -/
theorem values_have_declared_types :
    (∀ (c : Context) (f : Frame) {δ : Type} (face : δ → ℕ → ℕ × δ) (d : δ),
      let answer (call : Call) := ((c.take call f).play face d).1.1.1
      (∀ id a, answer (.evaluate id) = .ok a →
        ∃ v w, a = .value v ∧ c.store.get? id = some w ∧ v.type = w.type) ∧
      (∀ r a, answer (.resolve r) = .ok a → ∃ v, a = .value v ∧ v.type = r.type) ∧
      (∀ id args a, answer (.run id args) = .ok a →
        ∃ v p, a = .value v ∧ c.rulebook.program? id = some p ∧
          args.map Value.type = p.signature.parameters ∧ v.type = p.signature.result) ∧
      ((∀ t ∈ c.rulebook.functions, t.validate = .ok ()) →
        ∀ id args a, answer (.apply id args) = .ok a →
          ∃ v, a = .value v ∧
            ((∃ t, c.rulebook.function? id = some t ∧ v.type = t.signature.result) ∨
              (c.rulebook.function? id = none ∧
                ∃ p, c.rulebook.program? id = some p ∧ v.type = p.signature.result)))) ∧
    ∀ j b, Document.decode Rulebook.decode j = .ok b → ∀ t ∈ b.functions, t.validate = .ok () := by
  refine ⟨fun c f δ face d => ?_, fun j b h t ht => Rulebook.validate_of_decode h ht⟩
  intro answer
  have hvalue {x : Evaluation Value} {call : Call} {a : Answer} (hx : call.evaluation c = do
      return .value (← x)) (h : answer call = .ok a) :
      ∃ v, a = .value v ∧ (c.result f x.run).Ends (.ok v) := by
    have hends := Context.ends_take h
    rw [hx] at hends
    obtain ⟨v, hv, ha⟩ := Context.ends_ok_bind.1 hends
    exact ⟨v, (Context.ends_ok_pure.1 ha).symm, hv⟩
  refine ⟨fun id a h => ?_, fun r a h => ?_, fun id args a h => ?_, fun ht id args a h => ?_⟩
  · obtain ⟨v, rfl, hv⟩ := hvalue rfl h
    rw [Context.result_enter] at hv
    obtain ⟨w, hw, htype⟩ := Context.type_of_evaluate hv
    exact ⟨v, w, rfl, hw, htype⟩
  · obtain ⟨v, rfl, hv⟩ := hvalue rfl h
    exact ⟨v, rfl, r.yields.ends hv⟩
  · obtain ⟨v, rfl, hv⟩ := hvalue rfl h
    rw [Context.result_enter] at hv
    obtain ⟨p, hp, hargs, htype⟩ := Context.types_of_run hv
    exact ⟨v, p, rfl, hp, hargs, htype⟩
  · obtain ⟨v, rfl, hv⟩ := hvalue rfl h
    exact ⟨v, rfl, Context.type_of_apply ht hv⟩

namespace Typing

def double : Table where
  id := "double"
  label := "double"
  signature := ⟨[.number], .number⟩
  rows := [⟨[.number 1], .number 2⟩]

def doubled : Program where
  id := "doubled"
  label := "doubled"
  signature := ⟨[.number], .number⟩
  statements := [⟨"result", "double", [.argument 1]⟩]
  resultBinding := "result"

def document : Json :=
  let number (x : Float) : Json :=
    .record [("case", .text "engine_value_number"), ("value", .number (.float x))]
  let signature : Json :=
    .record [("parameter1_type", .text "number"), ("result_type", .text "number")]
  .record [
    ("functions", .list [.record [("function_id", .text "double"), ("type_signature", signature),
      ("tuples", .list [.record [("parameter1", number 1), ("result", number 2)]])]]),
    ("programs", .list [.record [("program_id", .text "doubled"), ("type_signature", signature),
      ("result_binding_name", .text "result"),
      ("statements", .list [.record [("binding_name", .text "result"),
        ("function_id", .text "double"), ("parameter1", .record [
          ("case", .text "program_parameter_index"), ("value", .number (.float 1))])]])]])]

def strength : VariableId := { name := "strength" }

def typed : Context where
  rulebook := { functions := ⟨[double], by simp⟩, programs := ⟨[doubled], by simp⟩ }
  store := ⟨⟨[⟨strength, "", "", ∅, .text (.literal "great"), []⟩], by simp⟩⟩

lemma answer_strength :
    typed.result {} ((Call.evaluate strength).evaluation typed).run =
      .done (.ok (.value (.text "great"))) := (Context.result_entered rfl rfl).trans rfl

lemma answer_doubled :
    typed.result {} ((Call.run "doubled" [.number 1]).evaluation typed).run =
      .done (.ok (.value (.number 2))) := by
  refine (Context.result_entered rfl rfl).trans ?_
  rfl

lemma answer_double :
    typed.result {} ((Call.apply "double" [.number 1]).evaluation typed).run =
      .done (.ok (.value (.number 2))) := rfl

lemma answer_applied :
    typed.result {} ((Call.apply "doubled" [.number 1]).evaluation typed).run =
      .done (.ok (.value (.number 2))) := (Context.result_entered rfl rfl).trans rfl

lemma decode_document : Document.decode Rulebook.decode document = .ok typed.rulebook := by
  decide +kernel

end Typing

open Typing in
theorem values_have_declared_types_doubled :
    let answer (call : Call) :=
      ((typed.take call {}).play (fun (_ : Unit) _ => (1, ())) ()).1.1.1
    let literal : DataRef := .number (.literal 1)
    let two : Answer := .value (.number 2)
    (answer (.evaluate strength) = .ok (.value (.text "great")) ∧
      ∃ v w, Answer.value (.text "great") = .value v ∧ typed.store.get? strength = some w ∧
        v.type = w.type) ∧
    (answer (.resolve literal) = .ok (.value (.number 1)) ∧
      ∃ v, Answer.value (.number 1) = .value v ∧ v.type = literal.type) ∧
    (answer (.run "doubled" [.number 1]) = .ok two ∧
      ∃ v p, two = .value v ∧ typed.rulebook.program? "doubled" = some p ∧
        [Value.number 1].map Value.type = p.signature.parameters ∧ v.type = p.signature.result) ∧
    (Document.decode Rulebook.decode document = .ok typed.rulebook ∧
      ∀ t ∈ typed.rulebook.functions, t.validate = .ok ()) ∧
    ∀ id ∈ ["double", "doubled"], answer (.apply id [.number 1]) = .ok two ∧
      ∃ v, two = .value v ∧
        ((∃ t, typed.rulebook.function? id = some t ∧ v.type = t.signature.result) ∨
          (typed.rulebook.function? id = none ∧
            ∃ p, typed.rulebook.program? id = some p ∧ v.type = p.signature.result)) := by
  intro answer literal two
  have hanswer {call : Call} {r : Except RuleError Answer}
      (h : typed.result {} (call.evaluation typed).run = .done r) : answer call = r := by
    simp only [answer, Context.take, Context.carry_restores, Dice.Plan.play_map, h, Dice.Plan.play]
  obtain ⟨hevaluate, hresolve, hrun, happly⟩ :=
    values_have_declared_types.1 typed {} (fun (_ : Unit) _ => (1, ())) ()
  have hvalid : ∀ t ∈ typed.rulebook.functions, t.validate = .ok () :=
    values_have_declared_types.2 document typed.rulebook decode_document
  refine ⟨⟨hanswer answer_strength, hevaluate _ _ (hanswer answer_strength)⟩,
    ⟨hanswer rfl, hresolve _ _ (hanswer rfl)⟩,
    ⟨hanswer answer_doubled, hrun _ _ _ (hanswer answer_doubled)⟩, ⟨decode_document, hvalid⟩, ?_⟩
  intro id hid
  simp only [List.mem_cons, List.not_mem_nil, or_false] at hid
  rcases hid with rfl | rfl
  · exact ⟨hanswer answer_double, happly hvalid _ _ _ (hanswer answer_double)⟩
  · exact ⟨hanswer answer_applied, happly hvalid _ _ _ (hanswer answer_applied)⟩

end Tabletop
