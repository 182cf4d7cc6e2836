import Tabletop.Decimal.Shortest

namespace Tabletop.Decimal

structure Layout where
  plain : Int → Bool
  pointZero : Bool
  signedZero : Bool
  tie : Tie

namespace Layout

def digitTexts (n : Nat) : List Char := (Nat.repr n).toList

def positional (l : Layout) (d : Digits) : List Char :=
  let ds := digitTexts d.digits
  let point : Int := ds.length + d.exponent
  if 0 ≤ d.exponent then
    ds ++ List.replicate d.exponent.toNat '0' ++ (if l.pointZero then ['.', '0'] else [])
  else if 0 < point then ds.take point.toNat ++ '.' :: ds.drop point.toNat
  else '0' :: '.' :: (List.replicate (-point).toNat '0' ++ ds)

def scientific (d : Digits) : List Char :=
  let ds := digitTexts d.digits
  let weight : Int := ds.length + d.exponent - 1
  let fraction := if ds.length ≤ 1 then [] else '.' :: ds.drop 1
  let sign := if weight < 0 then '-' else '+'
  ds.take 1 ++ fraction ++ 'e' :: sign :: digitTexts weight.natAbs

def magnitude (l : Layout) (x : Binary) : List Char :=
  if x.mantissa = 0 then if l.pointZero then ['0', '.', '0'] else ['0']
  else
    let d := x.shortest l.tie
    if l.plain ((digitTexts d.digits).length + d.exponent - 1) then l.positional d
    else scientific d

def text (l : Layout) (x : Float) : String :=
  if x.isNaN then "NaN"
  else
    let negative := x.toBits >>> 63 = 1
    let signed (t : String) := if negative then "-" ++ t else t
    if x.isInf then signed "inf"
    else if x == 0 ∧ !l.signedZero then String.ofList (l.magnitude (.ofBits 0))
    else signed (String.ofList (l.magnitude (.ofBits x.toBits)))

end Layout

end Tabletop.Decimal

namespace Tabletop.Text

/-- Never an exponent; whole numbers without a point; of two equally close decimals the larger. -/
def sheetLayout : Decimal.Layout where
  plain _ := true
  pointZero := false
  signedZero := false
  tie := .up

def number (x : Float) : String := sheetLayout.text x

def signedNumber (x : Float) : String :=
  Decimal.Layout.text { sheetLayout with signedZero := true } x

end Tabletop.Text
