import Tabletop.Text.LetterTable

namespace Tabletop.Text

def inRanges (rs : List (Nat × Nat)) (c : Char) : Bool :=
  rs.any fun (first, last) => first ≤ c.toNat ∧ c.toNat ≤ last

def isCased (c : Char) : Bool := inRanges casedRanges c

def isCaseless (c : Char) : Bool := inRanges caselessRanges c

def smallLetter (c : Char) : Char :=
  if c.toNat < 128 then c.toLower
  else
    let n := c.toNat
    match smallLetterRuns.find? fun (first, last, step, _) =>
      first ≤ n ∧ n ≤ last ∧ (n - first) % step = 0 with
    | some (_, _, _, shift) => Char.ofNat (n + shift).toNat
    | none => c

def beginsCased (cs : List Char) : Bool :=
  match cs.dropWhile isCaseless with
  | c :: _ => isCased c
  | [] => false

/-- A capital sigma is written `ς` where a word ends: after a cased letter and not before one. The
dotted capital `İ` keeps its dot as a mark of its own. -/
def lowerFrom (before : List Char) : List Char → List Char
  | [] => []
  | c :: rest =>
    let small :=
      if c = 'Σ' then if beginsCased before ∧ !beginsCased rest then ['ς'] else ['σ']
      else if c = 'İ' then ['i', '\u0307']
      else [smallLetter c]
    small ++ lowerFrom (c :: before) rest

def lower (cs : List Char) : List Char := lowerFrom [] cs

end Tabletop.Text
