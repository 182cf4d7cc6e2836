import Tabletop.Document.Rule
import Tabletop.Json.Parse
import Tabletop.Sheet
import Tabletop.Stored.Variable

namespace Tabletop

inductive LoadError where
  | missing
  | malformed
  | document (e : Document.DecodeError)
  | rule (e : RuleError)
  | version (found : Nat)
  deriving DecidableEq

def saveVersion : Nat := 1

def LoadError.message : LoadError → String
  | missing => "IO error"
  | malformed => "JSON error"
  | document e => "Document error: " ++ e.message
  | rule e => "Invalid sheet: " ++ e.message
  | version found =>
    "Version mismatch: expected " ++ toString saveVersion ++ ", found " ++ toString found

abbrev Loaded := Except LoadError

def readJson (text : Option String) : Loaded Json :=
  match text with
  | none => .error .missing
  | some t =>
    match Json.parse? t with
    | none => .error .malformed
    | some j => .ok j

def readDocument (text : Option String) : Loaded Json := Json.sortKeys <$> readJson text

def Rulebook.ofText (text : Option String) : Loaded Rulebook := do
  (Document.decode Rulebook.decode (← readDocument text)).mapError .document

namespace Sheet

def ofText (rulebook : Rulebook) (text : Option String) : Loaded Sheet := do
  let vs ← (Document.decode Variable.decodeAll (← readDocument text)).mapError .document
  let store ← (Store.ofVariables vs).mapError .rule
  return { rulebook, store }

end Sheet

structure SavedSheet where
  version : Nat := saveVersion
  savedAt : String
  sheet : SheetId
  rulebook : String := ""
  slots : List Variable
  deriving DecidableEq

namespace SavedSheet

def ofSheet (savedAt : String) (s : Sheet) : SavedSheet :=
  { savedAt, sheet := s.id, rulebook := s.rulebook.name, slots := s.store.slots.toList }

def toSheet (saved : SavedSheet) (rulebook : Rulebook) : Loaded Sheet := do
  let store ← (Store.ofVariables saved.slots).mapError .rule
  return { rulebook, store, id := saved.sheet }

def toJson (saved : SavedSheet) : Json :=
  .record [("version", .whole saved.version), ("saved_at", .text saved.savedAt),
    ("sheet_id", .text saved.sheet.text), ("rulebook", .text saved.rulebook),
    ("variables", .list (saved.slots.map Variable.toJson))]

def ofJson? (j : Json) : Option SavedSheet := do
  let fields ← j.fields? ["version", "saved_at", "sheet_id", "rulebook", "variables"]
  return {
    version := ← Json.required? fields "version" (Json.nat? UInt32.size)
    savedAt := ← Json.required? fields "saved_at" Json.text?
    sheet := ← SheetId.parse? (← Json.required? fields "sheet_id" Json.text?)
    rulebook := ← Json.defaulted? fields "rulebook" Json.text? ""
    slots := ← Json.required? fields "variables" (Json.listOf? Variable.ofJson?) }

def text (saved : SavedSheet) : String := saved.toJson.pretty

def ofText (text : Option String) : Loaded SavedSheet := do
  match ofJson? (← readJson text) with
  | none => throw .malformed
  | some saved =>
    if saved.version = saveVersion then return saved else throw (.version saved.version)

end SavedSheet

end Tabletop
