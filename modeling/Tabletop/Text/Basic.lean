namespace Tabletop

namespace Word

def fits (n : Int) : Bool := Int32.minValue.toInt ≤ n ∧ n ≤ Int32.maxValue.toInt

def clamp (n : Int) : Int := max Int64.minValue.toInt (min n Int64.maxValue.toInt)

end Word

namespace Text

def isBlank (c : Char) : Bool :=
  let n := c.toNat
  (9 ≤ n ∧ n ≤ 13) ∨ n = 0x20 ∨ n = 0x85 ∨ n = 0xA0 ∨ n = 0x1680 ∨ (0x2000 ≤ n ∧ n ≤ 0x200A) ∨
    n = 0x2028 ∨ n = 0x2029 ∨ n = 0x202F ∨ n = 0x205F ∨ n = 0x3000

def trim (cs : List Char) : List Char :=
  ((cs.dropWhile isBlank).reverse.dropWhile isBlank).reverse

def hexDigit (n : Nat) : Char := Char.ofNat (if n < 10 then 48 + n else 87 + n)

def hexValue? (c : Char) : Option Nat :=
  if '0' ≤ c ∧ c ≤ '9' then some (c.toNat - 48)
  else if 'a' ≤ c ∧ c ≤ 'f' then some (c.toNat - 87)
  else if 'A' ≤ c ∧ c ≤ 'F' then some (c.toNat - 55)
  else none

def word? (cs : List Char) : Option UInt64 :=
  let ds : List Char := match cs with
    | '+' :: ds => ds
    | ds => ds
  let n : Nat := ds.foldl (fun n c => n * 10 + (c.toNat - 48)) 0
  if ds.isEmpty ∨ !ds.all Char.isDigit ∨ UInt64.size ≤ n then none else some (UInt64.ofNat n)

end Text

end Tabletop
