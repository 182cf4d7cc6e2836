import Tabletop.Text.Basic

namespace Tabletop

structure SheetId where
  bits : BitVec 128 := 0
  deriving DecidableEq

namespace SheetId

def digits (id : SheetId) : List Char :=
  (List.range 32).map fun i => Text.hexDigit ((id.bits.toNat >>> (4 * (31 - i))) % 16)

def hyphenate (ds : List Char) : List Char :=
  ds.take 8 ++ '-' :: (ds.drop 8).take 4 ++ '-' :: (ds.drop 12).take 4 ++
    '-' :: (ds.drop 16).take 4 ++ '-' :: ds.drop 20

def text (id : SheetId) : String := String.ofList (hyphenate id.digits)

def ofDigits? (ds : List Char) : Option SheetId := do
  if ds.length ≠ 32 then none
  else return ⟨BitVec.ofNat 128 ((← ds.mapM Text.hexValue?).foldl (fun n d => n * 16 + d) 0)⟩

def ofHyphenated? (cs : List Char) : Option SheetId :=
  let ds := cs.filter (· ≠ '-')
  if hyphenate ds = cs then ofDigits? ds else none

def parse? (s : String) : Option SheetId :=
  let cs := s.toList
  let name := "urn:uuid:".toList
  if cs.length = 32 then ofDigits? cs
  else if cs.length = 36 then ofHyphenated? cs
  else if cs.length = 38 ∧ cs.head? = some '\x7b' ∧ cs.getLast? = some '\x7d' then
    ofHyphenated? (cs.drop 1).dropLast
  else if cs.length = 45 ∧ name.isPrefixOf cs then ofHyphenated? (cs.drop name.length)
  else none

def ofRandom (n : Nat) : SheetId :=
  let bits := BitVec.ofNat 128 n
  ⟨bits &&& ~~~(0xF000#128 <<< 64 ||| 3#128 <<< 62) ||| 0x4000#128 <<< 64 ||| 2#128 <<< 62⟩

def fileName (id : SheetId) : String := "sheet_" ++ id.text ++ ".json"

def path (dir : String) (id : SheetId) : String :=
  if dir.isEmpty ∨ dir.toList.getLast? = some '/' then dir ++ id.fileName
  else dir ++ "/" ++ id.fileName

end SheetId

end Tabletop
