import Tabletop.Document.Rule
import Tabletop.Proofs.Document.Path

namespace Tabletop

open Document

lemma ValueType.faithful : Faithful decode := by
  intro root n hn
  refine hn.text.bind fun s hs => ?_
  split
  · exact locates_pure trivial
  · exact Node.Present.unexpectedValue ⟨hn, by simp [hs]⟩

namespace Dice

lemma Quantity.faithful : Faithful decode := by
  intro root n hn
  refine (hn.child "sides").bind fun m hm => hm.1.int32.bind fun sides _ => ?_
  exact (hn.child "quantity").bind fun m hm => hm.1.int32.bind fun _ _ => locates_pure trivial

lemma Modifier.faithful : Faithful decode := by
  intro root n hn
  refine hn.childThen faithful_number "value" fun value => ?_
  exact (hn.maybeTextAt "name").bind fun _ _ => locates_pure trivial

lemma Roll.faithful : Faithful decode := by
  intro root n hn
  rw [decode]
  split
  · rename_i s hs
    split
    · exact locates_pure trivial
    · exact Node.Present.unexpectedValue ⟨hn, by simp [hs]⟩
  · refine (hn.listAt Quantity.faithful "quantities").bind fun quantities hdict => ?_
    refine (hn.listAt Modifier.faithful "modifiers").bind fun modifiers _ => ?_
    refine (hn.maybeTextAt "name").bind fun name _ => ?_
    dsimp only
    split
    · exact (hn.present hdict).unexpectedValue
    · exact locates_pure trivial

end Dice

lemma Value.faithful : Faithful decode := by
  intro root n hn
  refine hn.case.bind fun case hcase => ?_
  split
  · exact hn.wrap faithful_number "value"
  · exact (hn.textAt "value").bind fun _ _ => locates_pure trivial
  · exact hn.wrap faithful_boolean "value"
  · exact hn.wrap Dice.Roll.faithful "value"
  · exact (hn.listAt faithful_text "value").bind fun _ _ => locates_pure trivial
  · exact hcase.unknownCase

lemma VariableId.faithful : Faithful decode := by
  intro root n hn
  rw [decode]
  split
  · exact locates_pure trivial
  · refine (hn.maybeTextAt "namespace").bind fun scope _ => ?_
    exact (hn.textAt "name").bind fun _ _ => locates_pure trivial

lemma VariableRef.faithful : Faithful decode := by
  intro root n hn
  refine hn.case.bind fun case hcase => ?_
  split
  · exact hn.wrap VariableId.faithful "value"
  · exact (hn.textAt "value").bind fun _ _ => locates_pure trivial
  · exact hcase.unknownCase

lemma EntryRef.faithful : Faithful decode := by
  intro root n hn
  refine (hn.textAt "value_set_id").bind fun valueSet _ => ?_
  exact (hn.textAt "value_id").bind fun _ _ => locates_pure trivial

lemma BooleanRef.faithful : Faithful decode := by
  intro root n hn
  refine hn.case.bind fun case hcase => ?_
  split
  · exact hn.wrap faithful_boolean "value"
  · exact hn.wrap VariableRef.faithful "value"
  · exact hcase.unknownCase

lemma NumberRef.faithful : Faithful decode := by
  intro root n hn
  refine hn.case.bind fun case hcase => ?_
  split
  · exact hn.wrap faithful_number "value"
  · exact hn.wrap VariableRef.faithful "value"
  · exact hn.wrap EntryRef.faithful "value"
  · exact hcase.unknownCase

lemma DiceRef.faithful : Faithful decode := by
  intro root n hn
  refine hn.case.bind fun case hcase => ?_
  split
  · exact hn.wrap Dice.Roll.faithful "value"
  · exact hn.wrap VariableRef.faithful "value"
  · exact hcase.unknownCase

lemma DataRef.faithful : Faithful decode := by
  intro root n hn
  refine hn.case.bind fun case hcase => ?_
  split
  · exact hn.wrap BooleanRef.faithful "value"
  · exact hn.wrap NumberRef.faithful "value"
  · exact hn.wrap DiceRef.faithful "value"
  · exact hcase.unknownCase

lemma Invocation.faithful : Faithful decode := by
  intro root n hn
  refine (hn.textAt "program_id").bind fun program _ => ?_
  exact (hn.parameters DataRef.faithful).bind fun _ _ => locates_pure trivial

lemma BooleanSetting.faithful : Faithful decode := by
  intro root n hn
  refine hn.case.bind fun case hcase => ?_
  split
  · exact hn.wrap faithful_boolean "value"
  · exact hn.wrap Invocation.faithful "value"
  · exact hcase.unknownCase

lemma NumberSetting.faithful : Faithful decode := by
  intro root n hn
  refine hn.case.bind fun case hcase => ?_
  split
  · exact hn.wrap faithful_number "value"
  · exact locates_pure trivial
  · exact hn.wrap VariableId.faithful "value"
  · exact hn.wrap Invocation.faithful "value"
  · exact hn.wrap EntryRef.faithful "value"
  · exact (hn.textAt "value").bind fun _ _ => locates_pure trivial
  · exact hcase.unknownCase

lemma TextSetting.faithful : Faithful decode := by
  intro root n hn
  refine hn.case.bind fun case hcase => ?_
  split
  · exact (hn.textAt "value").bind fun _ _ => locates_pure trivial
  · exact locates_pure trivial
  · exact hn.wrap EntryRef.faithful "value"
  · exact hn.wrap Invocation.faithful "value"
  · exact (hn.textAt "value").bind fun _ _ => locates_pure trivial
  · exact hcase.unknownCase

lemma DiceSetting.faithful : Faithful decode := by
  intro root n hn
  refine hn.case.bind fun case hcase => ?_
  split
  · exact hn.wrap Dice.Roll.faithful "value"
  · exact hcase.unknownCase

lemma Setting.faithful : Faithful decode := by
  intro root n hn
  refine hn.case.bind fun case hcase => ?_
  split
  · exact hn.wrap BooleanSetting.faithful "value"
  · exact hn.wrap NumberSetting.faithful "value"
  · exact hn.wrap TextSetting.faithful "value"
  · exact hn.wrap DiceSetting.faithful "value"
  · exact hcase.unknownCase

lemma Assignment.faithful : Faithful decode := by
  intro root n hn
  refine hn.childThen NumberSetting.faithful "value" fun setting => ?_
  exact (hn.maybeTextAt "description").bind fun _ _ => locates_pure trivial

lemma Variable.faithful : Faithful decode := by
  intro root n hn
  refine (Setting.faithful root n hn).bind fun setting _ => ?_
  refine hn.childThen VariableId.faithful "id" fun id => ?_
  refine (hn.textAt "label").bind fun label _ => ?_
  refine (hn.maybeTextAt "description").bind fun description _ => ?_
  refine (hn.listAt faithful_text "tags").bind fun tags _ => ?_
  refine (hn.maybeAt "history").bind fun m hm => ?_
  cases m with
  | none => exact locates_pure trivial
  | some m =>
    refine hm.2.1.stands.list.bind fun ms hms => ?_
    refine (locates_mapM fun k hk => Assignment.faithful root k (hms k hk)).bind fun entries _ => ?_
    -- entries that do not fit the variable are reported at their list
    split
    · exact locates_pure trivial
    · exact hm.2.1.unexpectedValue

lemma Variable.faithful_decodeAll : Faithful decodeAll := by
  intro root n hn
  rw [decodeAll]
  split
  · exact hn.list.bind fun ms hms => locates_mapM fun m hm => Variable.faithful root m (hms m hm)
  · exact (hn.listAt Variable.faithful "variables").mono fun _ _ => trivial

lemma Citation.faithful : Faithful decode := by
  intro root n hn
  refine (hn.textAt "chapter").bind fun chapter _ => ?_
  refine (hn.maybeTextAt "section").bind fun heading _ => ?_
  exact (hn.maybeTextAt "subsection").bind fun _ _ => locates_pure trivial

lemma Payload.faithful : Faithful decode := by
  intro root n hn
  refine hn.case.bind fun case hcase => ?_
  split
  · exact hn.wrap faithful_number "value"
  · exact (hn.textAt "value").bind fun _ _ => locates_pure trivial
  · exact hcase.unknownCase

lemma Entry.faithful : Faithful decode := by
  intro root n hn
  refine (Payload.faithful root n hn).bind fun payload _ => ?_
  refine (hn.maybeTextAt "value_set_id").bind fun valueSet _ => ?_
  refine (hn.textAt "value_id").bind fun id _ => ?_
  refine (hn.maybeTextAt "description").bind fun description _ => ?_
  refine (hn.maybe Citation.faithful "rulebook_reference").bind fun citation _ => ?_
  exact (hn.listAt Variable.faithful "variables").bind fun _ _ => locates_pure trivial

lemma Members.faithful : Faithful decode := by
  intro root n hn
  refine hn.case.bind fun case hcase => ?_
  split
  · exact (hn.listAt Entry.faithful "values").bind fun _ _ => locates_pure trivial
  · exact (hn.listAt faithful_text "value_set_ids").bind fun _ _ => locates_pure trivial
  · exact hcase.unknownCase

lemma ValueSet.faithful : Faithful decode := by
  intro root n hn
  refine (hn.textAt "value_set_id").bind fun id _ => ?_
  refine (hn.textAt "label").bind fun label _ => ?_
  refine (Members.faithful root n hn).bind fun members _ => ?_
  refine (hn.maybeTextAt "label_singular").bind fun labelSingular _ => ?_
  refine (hn.maybeTextAt "description").bind fun description _ => ?_
  exact (hn.maybe ValueType.faithful "value_type").bind fun _ _ => locates_pure trivial

lemma Term.faithful : Faithful decode := by
  intro root n hn
  refine hn.case.bind fun case hcase => ?_
  split
  · exact hn.wrap NumberRef.faithful "value"
  · exact hn.wrap DiceRef.faithful "value"
  · refine hn.childThen BooleanRef.faithful "condition" fun condition => ?_
    refine hn.childThen NumberRef.faithful "when_true" fun whenTrue => ?_
    exact hn.wrap NumberRef.faithful "when_false"
  · exact hcase.unknownCase

lemma NamedTerm.faithful : Faithful decode := by
  intro root n hn
  refine (Term.faithful root n hn).bind fun term _ => ?_
  exact (hn.maybeTextAt "term_name").bind fun _ _ => locates_pure trivial

lemma Summation.faithful : Faithful decode := by
  intro root n hn
  refine (hn.textAt "summation_id").bind fun id _ => ?_
  refine (hn.textAt "name").bind fun name _ => ?_
  exact (hn.listAt NamedTerm.faithful "terms").bind fun _ _ => locates_pure trivial

lemma Signature.faithful : Faithful decode := by
  intro root n hn
  refine (hn.positional "parameter" "_type").bind fun ms hms => ?_
  refine (locates_mapM fun m hm => ValueType.faithful root m (hms.2 m hm)).bind fun parameters _ => ?_
  exact hn.wrap ValueType.faithful "result_type"

lemma Row.locates_decode {root : Json} {n : Node} (hn : n.At root) :
    (decode n).Locates root fun _ => n.IsDict := by
  refine (hn.parameters Value.faithful).bind fun parameters hdict => ?_
  exact hn.childThen Value.faithful "result" fun _ => locates_pure hdict

lemma Row.faithful : Faithful decode :=
  fun _ _ hn => (locates_decode hn).mono fun _ _ => trivial

lemma Table.faithful_decodeRow (t : Table) : Faithful t.decodeRow := by
  intro root n hn
  refine (Row.locates_decode hn).bind fun r hdict => ?_
  split
  · exact locates_pure trivial
  · exact (hn.present hdict).unexpectedValue

lemma Table.faithful : Faithful decode := by
  intro root n hn
  refine (hn.textAt "function_id").bind fun id _ => ?_
  refine hn.childThen Signature.faithful "type_signature" fun signature => ?_
  refine (hn.maybeTextAt "label").bind fun label _ => ?_
  refine (hn.maybeTextAt "description").bind fun description _ => ?_
  exact (hn.listAt (faithful_decodeRow _) "tuples").bind fun _ _ => locates_pure trivial

lemma Parameter.faithful : Faithful decode := by
  intro root n hn
  refine hn.case.bind fun case hcase => ?_
  split
  · exact (hn.textAt "value").bind fun _ _ => locates_pure trivial
  · refine (hn.child "value").bind fun m hm => hm.1.integer.bind fun i _ => ?_
    split
    · exact hm.1.unexpectedValue
    · exact locates_pure trivial
  · exact hn.wrap DataRef.faithful "value"
  · exact hcase.unknownCase

lemma Statement.faithful : Faithful decode := by
  intro root n hn
  refine (hn.textAt "binding_name").bind fun binding _ => ?_
  refine (hn.textAt "function_id").bind fun function _ => ?_
  exact (hn.parameters Parameter.faithful).bind fun _ _ => locates_pure trivial

lemma Program.faithful : Faithful decode := by
  intro root n hn
  refine (hn.textAt "program_id").bind fun id _ => ?_
  refine hn.childThen Signature.faithful "type_signature" fun signature => ?_
  refine (hn.textAt "result_binding_name").bind fun resultBinding _ => ?_
  refine (hn.maybeTextAt "label").bind fun label _ => ?_
  refine (hn.maybeTextAt "description").bind fun description _ => ?_
  exact (hn.listAt Statement.faithful "statements").bind fun _ _ => locates_pure trivial

lemma Mechanic.faithful : Faithful decode := by
  intro root n hn
  refine (hn.textAt "mechanic_id").bind fun id _ => ?_
  refine (hn.textAt "label").bind fun label _ => ?_
  refine (hn.maybeTextAt "description").bind fun description _ => ?_
  refine (hn.maybeTextAt "summary").bind fun summary _ => ?_
  refine (hn.maybeTextAt "category_id").bind fun category _ => ?_
  refine (hn.listAt VariableId.faithful "requirements").bind fun requirements _ => ?_
  exact (hn.listAt Variable.faithful "variables").bind fun _ _ => locates_pure trivial

lemma Rulebook.faithful : Faithful decode := by
  intro root n hn
  refine (hn.maybeTextAt "name").bind fun name _ => ?_
  refine (hn.listAt ValueSet.faithful "value_sets").bind fun valueSets _ => ?_
  refine (hn.listAt Table.faithful "functions").bind fun functions _ => ?_
  refine (hn.listAt Program.faithful "programs").bind fun programs _ => ?_
  refine (hn.listAt Summation.faithful "summations").bind fun summations _ => ?_
  exact (hn.listAt Mechanic.faithful "mechanics").bind fun _ _ => locates_pure trivial

inductive Document.Reader : {α : Type} → (Node → Decoded α) → Prop
  | text : Reader Node.text
  | valueType : Reader ValueType.decode
  | value : Reader Value.decode
  | diceRoll : Reader Dice.Roll.decode
  | variableId : Reader VariableId.decode
  | variableRef : Reader VariableRef.decode
  | entryRef : Reader EntryRef.decode
  | booleanRef : Reader BooleanRef.decode
  | numberRef : Reader NumberRef.decode
  | diceRef : Reader DiceRef.decode
  | dataRef : Reader DataRef.decode
  | invocation : Reader Invocation.decode
  | setting : Reader Setting.decode
  | assignment : Reader Assignment.decode
  | «variable» : Reader Variable.decode
  | sheet : Reader Variable.decodeAll
  | citation : Reader Citation.decode
  | entry : Reader Entry.decode
  | valueSet : Reader ValueSet.decode
  | term : Reader NamedTerm.decode
  | summation : Reader Summation.decode
  | signature : Reader Signature.decode
  | row : Reader Row.decode
  | table : Reader Table.decode
  | parameter : Reader Parameter.decode
  | statement : Reader Statement.decode
  | program : Reader Program.decode
  | mechanic : Reader Mechanic.decode
  | rulebook : Reader Rulebook.decode

lemma Document.Reader.faithful {α : Type} {read : Node → Decoded α} (h : Reader read) :
    Faithful read := by
  cases h with
  | text => exact faithful_text
  | valueType => exact ValueType.faithful
  | value => exact Value.faithful
  | diceRoll => exact Dice.Roll.faithful
  | variableId => exact VariableId.faithful
  | variableRef => exact VariableRef.faithful
  | entryRef => exact EntryRef.faithful
  | booleanRef => exact BooleanRef.faithful
  | numberRef => exact NumberRef.faithful
  | diceRef => exact DiceRef.faithful
  | dataRef => exact DataRef.faithful
  | invocation => exact Invocation.faithful
  | setting => exact Setting.faithful
  | assignment => exact Assignment.faithful
  | «variable» => exact Variable.faithful
  | sheet => exact Variable.faithful_decodeAll
  | citation => exact Citation.faithful
  | entry => exact Entry.faithful
  | valueSet => exact ValueSet.faithful
  | term => exact NamedTerm.faithful
  | summation => exact Summation.faithful
  | signature => exact Signature.faithful
  | row => exact Row.faithful
  | table => exact Table.faithful
  | parameter => exact Parameter.faithful
  | statement => exact Statement.faithful
  | program => exact Program.faithful
  | mechanic => exact Mechanic.faithful
  | rulebook => exact Rulebook.faithful

/-- The path of a decoding error leads to a value of the document: one of another kind than was
expected, a record that lacks the key, the name of the unknown case, or a value that is there but
not allowed. -/
theorem decode_error_traces {α : Type} {read : Node → Decoded α} (hread : Reader read) {j : Json}
    {e : DecodeError} (h : decode read j = .error e) :
    ∃ n, j.follow e.path = some n ∧
      match e.defect with
      | .kind expected found => found = .of n ∧ found ≠ expected
      | .missingKey key =>
        ∃ fields, n = .record fields ∧ (fields.lookup key = none ∨ fields.lookup key = some .null)
      | .unknownCase case => e.path.getLast? = some (.key "case") ∧ n = .text case
      | .value _ => n ≠ .null :=
  (hread.faithful j { json := j } rfl).2 e h

namespace Culprit

def rulebookJson : Json :=
  .record [("functions", .list [.record [("function_id", .text "not"),
    ("type_signature", .record [("parameter1_type", .text "boolean"),
      ("result_type", .text "boolean")]),
    ("tuples", .list [
      .record [
        ("parameter1", .record [("case", .text "engine_value_boolean"), ("value", .bool true)]),
        ("result", .record [("case", .text "engine_value_boolean"), ("value", .bool false)])],
      .record [
        ("parameter1", .record [("case", .text "boolean"), ("value", .bool false)]),
        ("result", .record [("case", .text "engine_value_boolean"), ("value", .bool true)])]])]])]

def path : Path :=
  [.key "functions", .index 0, .key "tuples", .index 1, .key "parameter1", .key "case"]

end Culprit

open Culprit in
theorem decode_error_traces_row :
    decode Rulebook.decode rulebookJson = .error ⟨path, .unknownCase "boolean"⟩ ∧
      ∃ n, rulebookJson.follow path = some n ∧ path.getLast? = some (.key "case") ∧
        n = .text "boolean" := by
  have h : decode Rulebook.decode rulebookJson = .error ⟨path, .unknownCase "boolean"⟩ := by
    decide +kernel
  exact ⟨h, decode_error_traces .rulebook h⟩

end Tabletop
