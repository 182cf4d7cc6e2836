import Std.Time.DateTime.Timestamp
import Tabletop.Command
import Tabletop.Command.Request
import Tabletop.Dice.Plan

namespace Tabletop.Command

def readText (path : String) : IO (Option String) := do
  match ← (IO.FS.readFile path).toBaseIO with
  | .ok text => return some text
  | .error _ => return none

def readLimits : IO Limits := do
  let settings ← Limits.settings.mapM fun name =>
    return (name, ← IO.getEnv ("CHARSHEET_" ++ name))
  return .ofSettings fun name => (settings.lookup name).join

def randomBits (bytes : USize) : IO Nat := do
  return (← IO.getRandomBytes bytes).toList.foldl (fun n b => n * 256 + b.toNat) 0

def play (seed : Option UInt64) (p : Dice.Plan α) : IO α := do
  let seed ← match seed with
    | some n => pure n.toNat
    | none => randomBits 8
  return (p.roll (mkStdGen seed)).1

def saveSheet (s : Sheet) (dir : String) : IO Output := do
  let id := SheetId.ofRandom (← randomBits 16)
  let now ← Std.Time.Timestamp.now
  let path := id.path dir
  try
    IO.FS.createDirAll dir
    IO.FS.writeFile path
      (SavedSheet.ofSheet (toString now.toSecondsSinceUnixEpoch.val) { s with id }).text
    return ⟨[savedLine path], .ok true⟩
  catch _ => return stopped (.load .missing)

def Request.run (request : Request) : IO Output := do
  let limits ← readLimits
  match request with
  | .eval rulebook sheet seed name mechanics =>
    match load limits (← readText rulebook) (← readText sheet) with
    | .error e => return stopped (.load e)
    | .ok s => play seed (Command.eval s mechanics name)
  | .roll expression seed => play seed (Command.roll expression)
  | .conformance rulebook program function =>
    match Rulebook.ofText (← readText rulebook) with
    | .error e => return stopped (.load e)
    | .ok b => play (some 0) (Command.conformance limits b program function)
  | .check rulebook sheet =>
    return Command.check (← readText rulebook) (← sheet.mapM readText)
  | .save rulebook sheet dir =>
    match load limits (← readText rulebook) (← readText sheet) with
    | .error e => return stopped (.load e)
    | .ok s => saveSheet s dir

def Output.report (o : Output) : IO UInt32 := do
  o.lines.forM (IO.println ·)
  match o.result with
  | .ok ok => return if ok then 0 else 1
  | .error e =>
    IO.eprintln ("Error: " ++ e.message)
    return 1

def usage : String :=
  "usage: tabletop eval --rulebook FILE --sheet FILE [--seed N] [--variable NAME]\n" ++
  "                     [--mechanics]\n" ++
  "       tabletop roll NOTATION [--seed N]\n" ++
  "       tabletop conformance --rulebook FILE --program ID --function ID\n" ++
  "       tabletop check --rulebook FILE [--sheet FILE]\n" ++
  "       tabletop save --rulebook FILE --sheet FILE [--dir DIR]"

end Tabletop.Command

open Tabletop.Command in
def main (args : List String) : IO UInt32 := do
  match args with
  | command :: words =>
    match Request.parse? command words with
    | some request => (← request.run).report
    | none =>
      IO.eprintln usage
      return 2
  | [] =>
    IO.eprintln usage
    return 2
