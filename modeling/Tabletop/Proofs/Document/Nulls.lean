import Tabletop.Proofs.Document.Errors
import Tabletop.Proofs.Document.Pruning
import Tabletop.Sheet.Save

namespace Tabletop

open Document

lemma ValueType.ignoresNulls : IgnoresNulls decode := by
  intro m n h
  simp only [decode, h.text, h.unexpectedValue]

namespace Dice

lemma Quantity.ignoresNulls : IgnoresNulls decode := by
  intro m n h
  simp only [decode, h.childThen ignoresNulls_int32]

lemma Modifier.ignoresNulls : IgnoresNulls decode := by
  intro m n h
  simp only [decode, h.childThen ignoresNulls_number, h.maybeTextAt]

lemma Roll.ignoresNulls : IgnoresNulls decode := by
  intro m n h
  rw [decode, decode, h.json]
  cases n.json with
  | text s => simp only [Json.dropNulls, h.unexpectedValue]
  | _ =>
    simp only [Json.dropNulls, decodeRecord, h.listAt Quantity.ignoresNulls,
      h.listAt Modifier.ignoresNulls, h.maybeTextAt, h.unexpectedValue]

end Dice

lemma Value.ignoresNulls : IgnoresNulls decode := by
  intro m n h
  simp only [decode, h.case, h.childThen ignoresNulls_number, h.textAt,
    h.childThen ignoresNulls_boolean, h.childThen Dice.Roll.ignoresNulls,
    h.listAt ignoresNulls_text, h.unknownCase]

lemma VariableId.ignoresNulls : IgnoresNulls decode := by
  intro m n h
  rw [decode, decode, h.json]
  cases n.json with
  | text s => rfl
  | _ => simp only [Json.dropNulls, h.maybeTextAt, h.textAt]

lemma VariableRef.ignoresNulls : IgnoresNulls decode := by
  intro m n h
  simp only [decode, h.case, h.childThen VariableId.ignoresNulls, h.textAt, h.unknownCase]

lemma EntryRef.ignoresNulls : IgnoresNulls decode := by
  intro m n h
  simp only [decode, h.textAt]

lemma BooleanRef.ignoresNulls : IgnoresNulls decode := by
  intro m n h
  simp only [decode, h.case, h.childThen ignoresNulls_boolean,
    h.childThen VariableRef.ignoresNulls, h.unknownCase]

lemma NumberRef.ignoresNulls : IgnoresNulls decode := by
  intro m n h
  simp only [decode, h.case, h.childThen ignoresNulls_number,
    h.childThen VariableRef.ignoresNulls, h.childThen EntryRef.ignoresNulls, h.unknownCase]

lemma DiceRef.ignoresNulls : IgnoresNulls decode := by
  intro m n h
  simp only [decode, h.case, h.childThen Dice.Roll.ignoresNulls,
    h.childThen VariableRef.ignoresNulls, h.unknownCase]

lemma DataRef.ignoresNulls : IgnoresNulls decode := by
  intro m n h
  simp only [decode, h.case, h.childThen BooleanRef.ignoresNulls,
    h.childThen NumberRef.ignoresNulls, h.childThen DiceRef.ignoresNulls, h.unknownCase]

lemma Invocation.ignoresNulls : IgnoresNulls decode := by
  intro m n h
  simp only [decode, h.textAt, h.parameters DataRef.ignoresNulls]

lemma BooleanSetting.ignoresNulls : IgnoresNulls decode := by
  intro m n h
  simp only [decode, h.case, h.childThen ignoresNulls_boolean,
    h.childThen Invocation.ignoresNulls, h.unknownCase]

lemma NumberSetting.ignoresNulls : IgnoresNulls decode := by
  intro m n h
  simp only [decode, h.case, h.childThen ignoresNulls_number,
    h.childThen VariableId.ignoresNulls, h.childThen Invocation.ignoresNulls,
    h.childThen EntryRef.ignoresNulls, h.textAt, h.unknownCase]

lemma TextSetting.ignoresNulls : IgnoresNulls decode := by
  intro m n h
  simp only [decode, h.case, h.textAt, h.childThen EntryRef.ignoresNulls,
    h.childThen Invocation.ignoresNulls, h.unknownCase]

lemma DiceSetting.ignoresNulls : IgnoresNulls decode := by
  intro m n h
  simp only [decode, h.case, h.childThen Dice.Roll.ignoresNulls, h.unknownCase]

lemma Setting.ignoresNulls : IgnoresNulls decode := by
  intro m n h
  simp only [decode, h.case, h.childThen BooleanSetting.ignoresNulls,
    h.childThen NumberSetting.ignoresNulls, h.childThen TextSetting.ignoresNulls,
    h.childThen DiceSetting.ignoresNulls, h.unknownCase]

lemma Assignment.ignoresNulls : IgnoresNulls decode := by
  intro m n h
  simp only [decode, h.childThen NumberSetting.ignoresNulls, h.maybeTextAt]

lemma Variable.ignoresNulls : IgnoresNulls decode := by
  intro m n h
  simp only [decode, Setting.ignoresNulls m n h, h.childThen VariableId.ignoresNulls, h.textAt,
    h.maybeTextAt, h.listAt ignoresNulls_text]
  refine bind_congr fun setting => bind_congr fun _ => bind_congr fun id => ?_
  refine bind_congr fun label => bind_congr fun description => bind_congr fun tags => ?_
  refine (h.maybeAt "history").bind_eq fun k l hkl => ?_
  cases hkl with
  | none => rfl
  | some hkl =>
    simp only [hkl.unexpectedValue]
    exact hkl.list.bind_eq fun _ _ hms => by rw [mapM_eq Assignment.ignoresNulls hms]

lemma Variable.ignoresNulls_decodeAll : IgnoresNulls decodeAll := by
  intro m n h
  rw [decodeAll, decodeAll, h.json]
  cases n.json with
  | list items => exact h.list.bind_eq fun _ _ => mapM_eq Variable.ignoresNulls
  | _ => simp only [Json.dropNulls, h.listAt Variable.ignoresNulls]

lemma Citation.ignoresNulls : IgnoresNulls decode := by
  intro m n h
  simp only [decode, h.textAt, h.maybeTextAt]

lemma Payload.ignoresNulls : IgnoresNulls decode := by
  intro m n h
  simp only [decode, h.case, h.childThen ignoresNulls_number, h.textAt, h.unknownCase]

lemma Entry.ignoresNulls : IgnoresNulls decode := by
  intro m n h
  simp only [decode, Payload.ignoresNulls m n h, h.maybeTextAt, h.textAt,
    h.maybe Citation.ignoresNulls, h.listAt Variable.ignoresNulls]

lemma Members.ignoresNulls : IgnoresNulls decode := by
  intro m n h
  simp only [decode, h.case, h.listAt Entry.ignoresNulls, h.listAt ignoresNulls_text, h.unknownCase]

lemma ValueSet.ignoresNulls : IgnoresNulls decode := by
  intro m n h
  simp only [decode, h.textAt, Members.ignoresNulls m n h, h.maybeTextAt,
    h.maybe ValueType.ignoresNulls]

lemma Term.ignoresNulls : IgnoresNulls decode := by
  intro m n h
  simp only [decode, h.case, h.childThen NumberRef.ignoresNulls, h.childThen DiceRef.ignoresNulls,
    h.childThen BooleanRef.ignoresNulls, h.unknownCase]

lemma NamedTerm.ignoresNulls : IgnoresNulls decode := by
  intro m n h
  simp only [decode, Term.ignoresNulls m n h, h.maybeTextAt]

lemma Summation.ignoresNulls : IgnoresNulls decode := by
  intro m n h
  simp only [decode, h.textAt, h.listAt NamedTerm.ignoresNulls]

lemma Signature.ignoresNulls : IgnoresNulls decode := by
  intro m n h
  simp only [decode, h.positionalThen ValueType.ignoresNulls, h.childThen ValueType.ignoresNulls]

lemma Row.ignoresNulls : IgnoresNulls decode := by
  intro m n h
  simp only [decode, h.parameters Value.ignoresNulls, h.childThen Value.ignoresNulls]

lemma Table.ignoresNulls_decodeRow (t : Table) : IgnoresNulls t.decodeRow := by
  intro m n h
  simp only [decodeRow, Row.ignoresNulls m n h, h.unexpectedValue]

lemma Table.ignoresNulls : IgnoresNulls decode := by
  intro m n h
  simp only [decode, h.textAt, h.childThen Signature.ignoresNulls, h.maybeTextAt,
    h.listAt (ignoresNulls_decodeRow _)]

lemma Parameter.ignoresNulls : IgnoresNulls decode := by
  intro m n h
  simp only [decode, h.case, h.textAt, h.childThen DataRef.ignoresNulls, h.unknownCase]
  refine bind_congr fun case => ?_
  split
  · rfl
  · exact (h.child "value").bind_eq fun k l hkl => by simp only [hkl.integer, hkl.unexpectedValue]
  · rfl
  · rfl

lemma Statement.ignoresNulls : IgnoresNulls decode := by
  intro m n h
  simp only [decode, h.textAt, h.parameters Parameter.ignoresNulls]

lemma Program.ignoresNulls : IgnoresNulls decode := by
  intro m n h
  simp only [decode, h.textAt, h.childThen Signature.ignoresNulls, h.maybeTextAt,
    h.listAt Statement.ignoresNulls]

lemma Mechanic.ignoresNulls : IgnoresNulls decode := by
  intro m n h
  simp only [decode, h.textAt, h.maybeTextAt, h.listAt VariableId.ignoresNulls,
    h.listAt Variable.ignoresNulls]

lemma Rulebook.ignoresNulls : IgnoresNulls decode := by
  intro m n h
  simp only [decode, h.maybeTextAt, h.listAt ValueSet.ignoresNulls,
    h.listAt Table.ignoresNulls, h.listAt Program.ignoresNulls,
    h.listAt Summation.ignoresNulls, h.listAt Mechanic.ignoresNulls]

lemma Document.Reader.ignoresNulls {α : Type} {read : Node → Decoded α} (h : Reader read) :
    IgnoresNulls read := by
  cases h with
  | text => exact ignoresNulls_text
  | valueType => exact ValueType.ignoresNulls
  | value => exact Value.ignoresNulls
  | diceRoll => exact Dice.Roll.ignoresNulls
  | variableId => exact VariableId.ignoresNulls
  | variableRef => exact VariableRef.ignoresNulls
  | entryRef => exact EntryRef.ignoresNulls
  | booleanRef => exact BooleanRef.ignoresNulls
  | numberRef => exact NumberRef.ignoresNulls
  | diceRef => exact DiceRef.ignoresNulls
  | dataRef => exact DataRef.ignoresNulls
  | invocation => exact Invocation.ignoresNulls
  | setting => exact Setting.ignoresNulls
  | assignment => exact Assignment.ignoresNulls
  | «variable» => exact Variable.ignoresNulls
  | sheet => exact Variable.ignoresNulls_decodeAll
  | citation => exact Citation.ignoresNulls
  | entry => exact Entry.ignoresNulls
  | valueSet => exact ValueSet.ignoresNulls
  | term => exact NamedTerm.ignoresNulls
  | summation => exact Summation.ignoresNulls
  | signature => exact Signature.ignoresNulls
  | row => exact Row.ignoresNulls
  | table => exact Table.ignoresNulls
  | parameter => exact Parameter.ignoresNulls
  | statement => exact Statement.ignoresNulls
  | program => exact Program.ignoresNulls
  | mechanic => exact Mechanic.ignoresNulls
  | rulebook => exact Rulebook.ignoresNulls

/-- Whatever is read from a document, entries of records that are null might as well not be there,
at any depth: what is read stays the same, and so does the error. No document that was loaded
repeats a key. -/
theorem null_entries_ignored {α : Type} {read : Node → Decoded α} (hread : Reader read) :
    (∀ j : Json, j.Unrepeated → decode read j.dropNulls = decode read j) ∧
      ∀ text j, readDocument text = .ok j → j.Unrepeated := by
  refine ⟨fun j hj => hread.ignoresNulls _ _ ⟨rfl, rfl, hj⟩, fun text j h => ?_⟩
  rw [readDocument] at h
  cases hjson : readJson text with
  | error e =>
    rw [hjson] at h
    cases h
  | ok i =>
    rw [hjson] at h
    cases h
    exact i.unrepeated_sortKeys

namespace Padded

def boolean (b : Bool) : Json :=
  .record [("case", .text "engine_value_boolean"), ("value", .bool b)]

def plain : Json :=
  .record [("functions", .list [.record [("function_id", .text "not"),
    ("tuples", .list [
      .record [("parameter1", boolean false), ("result", boolean true)],
      .record [("parameter1", boolean true), ("result", boolean false)]]),
    ("type_signature", .record [("parameter1_type", .text "boolean"),
      ("result_type", .text "boolean")])]])]

def padded : Json :=
  .record [("functions", .list [.record [("description", .null), ("function_id", .text "not"),
    ("label", .null),
    ("tuples", .list [
      .record [("parameter1", boolean false), ("parameter2", .null), ("result", boolean true)],
      .record [("parameter1", boolean true), ("parameter9", .null), ("result", boolean false)]]),
    ("type_signature", .record [("parameter0_type", .null), ("parameter1_type", .text "boolean"),
      ("result_type", .text "boolean")])]]), ("programs", .null)]

lemma unrepeated_padded : padded.Unrepeated := padded.unrepeated_sortKeys

end Padded

open Padded in
theorem null_entries_ignored_padded :
    padded.Unrepeated ∧ padded.dropNulls = plain ∧
      decode Rulebook.decode plain = decode Rulebook.decode padded ∧
      (decode Rulebook.decode padded).isOk = true :=
  ⟨unrepeated_padded, rfl, (null_entries_ignored .rulebook).1 padded unrepeated_padded,
    by decide +kernel⟩

end Tabletop
