import Tabletop.Json.Basic
import Tabletop.Text.Basic

namespace Tabletop.Json

inductive Token where
  | openList
  | closeList
  | openRecord
  | closeRecord
  | comma
  | colon
  | text (s : String)
  | word (j : Json)

namespace Token

def isBlank (c : Char) : Bool := c = ' ' ∨ c = '\t' ∨ c = '\n' ∨ c = '\r'

def mark? : Char → Option Token
  | '[' => some openList
  | ']' => some closeList
  | '\x7b' => some openRecord
  | '\x7d' => some closeRecord
  | ',' => some comma
  | ':' => some colon
  | _ => none

def escape? : Char → Option Nat
  | '"' => some 34
  | '\\' => some 92
  | '/' => some 47
  | 'b' => some 8
  | 'f' => some 12
  | 'n' => some 10
  | 'r' => some 13
  | 't' => some 9
  | _ => none

/-- The code points of a text up to its closing quote, and what follows the quote. An escape may
stand for half of a surrogate pair. -/
def textUnits : List Char → Option (List Nat × List Char)
  | [] => none
  | '"' :: rest => some ([], rest)
  | '\\' :: 'u' :: a :: b :: c :: d :: rest => do
    let high := (← Text.hexValue? a) * 16 + (← Text.hexValue? b)
    let low := (← Text.hexValue? c) * 16 + (← Text.hexValue? d)
    let unit := high * 256 + low
    let (units, rest) ← textUnits rest
    return (unit :: units, rest)
  | '\\' :: c :: rest => do
    let unit ← escape? c
    let (units, rest) ← textUnits rest
    return (unit :: units, rest)
  | c :: rest =>
    if c.toNat < 32 then none
    else do
      let (units, rest) ← textUnits rest
      return (c.toNat :: units, rest)

/-- Joins surrogate pairs; half a pair on its own stands for nothing. -/
def joinUnits : List Nat → Option (List Char)
  | [] => some []
  | [u] => if 0xD800 ≤ u ∧ u < 0xE000 then none else some [Char.ofNat u]
  | u :: v :: rest =>
    if 0xD800 ≤ u ∧ u < 0xDC00 then
      if 0xDC00 ≤ v ∧ v < 0xE000 then
        (joinUnits rest).map (Char.ofNat (0x10000 + (u - 0xD800) * 0x400 + (v - 0xDC00)) :: ·)
      else none
    else if 0xDC00 ≤ u ∧ u < 0xE000 then none
    else (joinUnits (v :: rest)).map (Char.ofNat u :: ·)

def digit (c : Char) : Nat := c.toNat - 48

def readDigits (ds : List Char) : Nat := ds.foldl (fun n c => n * 10 + digit c) 0

/-- Digits are put behind a number as long as it fits in a word of 64 bits; with it, how many of
them are left over. -/
def gather (n : Nat) : List Char → Nat × Nat
  | [] => (n, 0)
  | c :: cs =>
    if n * 10 + digit c < UInt64.size then gather (n * 10 + digit c) cs else (n, cs.length + 1)

def powerOfTen (k : Nat) : Float := Float.ofScientific 1 false k

def divideFar (x : Float) : Nat → Float
  | 0 => x
  | turns + 1 => if x == 0 then x else divideFar (x / powerOfTen 308) turns

/-- The digits are rounded, and then multiplied or divided by a power of ten, which rounds once
more. -/
def scaled? (n : Nat) (exponent : Int) : Option Float :=
  if 308 < exponent then if n = 0 then some 0 else none
  else if 0 ≤ exponent then
    let x := Float.ofNat n * powerOfTen exponent.toNat
    if x.isInf then none else some x
  else
    let places := (-exponent).toNat - 1
    some (divideFar (Float.ofNat n) (places / 308) / powerOfTen (places % 308 + 1))

def signed (negative : Bool) (x : Float) : Float := if negative then -x else x

def wholeNumber (negative : Bool) (n : Nat) : Number :=
  if !negative then .whole n
  else if 0 < n ∧ Int64.minValue.toInt ≤ -n then .whole (-n)
  else .float (-Float.ofNat n)

def exponent? : List Char → Option Int
  | '+' :: ds => natural ds
  | '-' :: ds => (natural ds).map (- ·)
  | ds => natural ds
where
  natural (ds : List Char) : Option Int :=
    if ds.isEmpty ∨ !ds.all Char.isDigit then none else some (readDigits ds)

def magnitude? (negative : Bool) (cs : List Char) : Option Number := do
  let ds := cs.takeWhile Char.isDigit
  let rest := cs.dropWhile Char.isDigit
  let (n, left) := gather 0 ds
  if ds.isEmpty ∨ (1 < ds.length ∧ ds.head? = some '0') then none
  else if rest.isEmpty ∧ left = 0 then return wholeNumber negative n
  else
    let (fs, rest) ← match rest with
      | '.' :: more =>
        let fs := more.takeWhile Char.isDigit
        if fs.isEmpty then none else some (fs, more.dropWhile Char.isDigit)
      | _ => some ([], rest)
    let e ← match rest with
      | [] => some 0
      | c :: more => if c = 'e' ∨ c = 'E' then exponent? more else none
    let (n, more) := gather n fs
    return .float (signed negative (← scaled? n (e + left + more - fs.length)))

def number? : List Char → Option Number
  | '-' :: cs => magnitude? true cs
  | cs => magnitude? false cs

def word? (cs : List Char) : Option Json :=
  if cs = ['n', 'u', 'l', 'l'] then some .null
  else if cs = ['t', 'r', 'u', 'e'] then some (.bool true)
  else if cs = ['f', 'a', 'l', 's', 'e'] then some (.bool false)
  else (number? cs).map .number

def inWord (c : Char) : Bool := !isBlank c ∧ (mark? c).isNone ∧ c ≠ '"'

theorem textUnits_length {cs rest : List Char} {us : List Nat}
    (h : textUnits cs = some (us, rest)) : rest.length < cs.length := by
  fun_induction textUnits cs generalizing us rest with
  | case1 => simp at h
  | case2 => simp_all
  | case3 _ _ _ _ _ ih =>
    simp only [Option.bind_eq_bind, Option.bind_eq_some_iff, Prod.exists] at h
    obtain ⟨_, _, _, _, _, _, _, _, vs, r, hr, h⟩ := h
    have := ih hr
    grind
  | case4 _ _ _ ih =>
    simp only [Option.bind_eq_bind, Option.bind_eq_some_iff, Prod.exists] at h
    obtain ⟨_, _, vs, r, hr, h⟩ := h
    have := ih hr
    grind
  | case5 => simp at h
  | case6 _ _ _ _ _ _ ih =>
    simp only [Option.bind_eq_bind, Option.bind_eq_some_iff, Prod.exists] at h
    obtain ⟨vs, r, hr, h⟩ := h
    have := ih hr
    grind

def scan (cs : List Char) : Option (List Token) :=
  match cs with
  | [] => some []
  | c :: rest =>
    if isBlank c then scan rest
    else match mark? c with
    | some t => (scan rest).map (t :: ·)
    | none =>
      if c = '"' then
        match _h : textUnits rest with
        | none => none
        | some (units, rest') => do
          let s ← joinUnits units
          return .text (String.ofList s) :: (← scan rest')
      else do
        let j ← word? (c :: rest.takeWhile inWord)
        return .word j :: (← scan (rest.dropWhile inWord))
termination_by cs.length
decreasing_by
  · simp
  · simp
  · have := textUnits_length _h; simp; omega
  · have := (List.dropWhile_sublist (l := rest) inWord).length_le; simp; omega

end Token

end Tabletop.Json
