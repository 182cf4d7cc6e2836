import Tabletop.Text.Basic

namespace Tabletop.Command

inductive Request where
  | eval (rulebook sheet : String) (seed : Option UInt64) (name : Option String) (mechanics : Bool)
  | roll (expression : String) (seed : Option UInt64)
  | conformance (rulebook program function : String)
  | check (rulebook : String) (sheet : Option String)
  | save (rulebook sheet dir : String)
  deriving DecidableEq

structure Words where
  options : List (String × String) := []
  flags : List String := []
  plain : List String := []

namespace Words

def split (word : String) : List String :=
  let cs := word.toList
  if ['-', '-'].isPrefixOf cs ∧ '=' ∈ cs then
    [String.ofList (cs.takeWhile (· ≠ '=')), String.ofList ((cs.dropWhile (· ≠ '=')).drop 1)]
  else [word]

def addOption? (name value : String) (w : Words) : Option Words :=
  if (w.options.lookup name).isSome then none
  else some { w with options := (name, value) :: w.options }

def addFlag? (name : String) (w : Words) : Option Words :=
  if name ∈ w.flags then none else some { w with flags := name :: w.flags }

def addPlain? (word : String) (w : Words) : Option Words :=
  if ['-'].isPrefixOf word.toList then none else some { w with plain := word :: w.plain }

def read (options flags : List String) : List String → Option Words
  | [] => some {}
  | [word] =>
    if word ∈ options then none
    else if word ∈ flags then addFlag? word {}
    else addPlain? word {}
  | word :: value :: rest =>
    if word ∈ options then (read options flags rest).bind (addOption? word value)
    else (read options flags (value :: rest)).bind
      (if word ∈ flags then addFlag? word else addPlain? word)

def option? (w : Words) (name : String) : Option String := w.options.lookup name

def seed? (w : Words) : Option (Option UInt64) :=
  match w.option? "--seed" with
  | none => some none
  | some s => (Text.word? s.toList).map some

end Words

namespace Request

def parse? (command : String) (words : List String) : Option Request := do
  let words := words.flatMap Words.split
  match command with
  | "eval" =>
    let w ← Words.read ["--rulebook", "--sheet", "--seed", "--variable"] ["--mechanics"] words
    guard w.plain.isEmpty
    return eval (← w.option? "--rulebook") (← w.option? "--sheet") (← w.seed?)
      (w.option? "--variable") (w.flags.contains "--mechanics")
  | "roll" =>
    let w ← Words.read ["--seed"] [] words
    match w.plain with
    | [expression] => return roll expression (← w.seed?)
    | _ => none
  | "conformance" =>
    let w ← Words.read ["--rulebook", "--program", "--function"] [] words
    guard w.plain.isEmpty
    return conformance (← w.option? "--rulebook") (← w.option? "--program")
      (← w.option? "--function")
  | "check" =>
    let w ← Words.read ["--rulebook", "--sheet"] [] words
    guard w.plain.isEmpty
    return check (← w.option? "--rulebook") (w.option? "--sheet")
  | "save" =>
    let w ← Words.read ["--rulebook", "--sheet", "--dir"] [] words
    guard w.plain.isEmpty
    return save (← w.option? "--rulebook") (← w.option? "--sheet")
      ((w.option? "--dir").getD "saves")
  | _ => none

end Request

end Tabletop.Command
