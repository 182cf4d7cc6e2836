import Mathlib.Data.Int.Notation
import Mathlib.Data.List.TakeWhile
import Tabletop.Proofs.Dice.Expression

namespace Tabletop.Dice

namespace Expression

def isSign (c : Char) : Bool := c = '+' ∨ c = '-'

def signed (first : Bool) (signs : List Char) (texts : List (List Char)) : List Part :=
  (List.zipWith Part.mk (first :: signs.map (· = '-')) texts).filter (·.text ≠ [])

/-- The components of a text that are not empty, each under the sign written last before it. -/
def components (cs : List Char) : List Part :=
  signed false (cs.filter isSign) (cs.splitOnP isSign)

/-- An expression in small letters, without blanks around it and without spaces. -/
def readable (text : String) : List Char := (Text.lower (Text.trim text.toList)).filter (· ≠ ' ')

structure Digits (ds : List Char) (n : ℕ) : Prop where
  nonempty : ds ≠ []
  digits : ∀ c ∈ ds, c.isDigit = true
  value : Nat.ofDigitChars 10 ds 0 = n
  bound : n ≤ 2147483647

inductive Item where
  | flat (n : ℤ)
  | dice (count sides : ℕ)

inductive Reads : Part → Item → Prop
  | flat {negative : Bool} {ds : List Char} {n : ℕ} : Digits ds n →
      Reads ⟨negative, ds⟩ (.flat (if negative then -n else n))
  | die {ds : List Char} {sides : ℕ} : Digits ds sides → 1 ≤ sides →
      Reads ⟨false, 'd' :: ds⟩ (.dice 1 sides)
  | dice {cs ds : List Char} {count sides : ℕ} : Digits cs count → Digits ds sides → 1 ≤ sides →
      Reads ⟨false, cs ++ 'd' :: ds⟩ (.dice count sides)

section Components

lemma split_eq (negative : Bool) (current cs : List Char) :
    split negative current cs = signed negative ((cs.filter (· ≠ ' ')).filter isSign)
      (List.splitOnPPrepend isSign (cs.filter (· ≠ ' ')) current.reverse) := by
  induction cs generalizing negative current with
  | nil =>
    cases current <;> simp [split, signed]
  | cons c cs ih =>
    rw [split]
    split
    · rename_i hc
      have hspace : c ≠ ' ' := by rintro rfl; simp at hc
      have hsign : isSign c = true := by simpa [isSign] using hc
      rw [List.filter_cons_of_pos (by simpa using hspace), List.filter_cons_of_pos hsign,
        List.splitOnPPrepend_cons_pos hsign, ih]
      cases current <;> simp [signed]
    · rename_i hc
      have hsign : isSign c = false := by simpa [isSign] using hc
      split
      · rename_i hspace
        rw [ih, List.filter_cons_of_neg (by simpa using hspace)]
      · rename_i hspace
        rw [ih, List.filter_cons_of_pos (by simpa using hspace),
          List.filter_cons_of_neg (by simp [hsign]), List.splitOnPPrepend_cons_neg hsign,
          List.reverse_append, List.reverse_singleton, List.singleton_append]

lemma split_eq_components (cs : List Char) :
    split false [] cs = components (cs.filter (· ≠ ' ')) := split_eq false [] cs

end Components

section Reading

variable {t u : Tally} {p : Part} {item : Item} {ds : List Char} {n : ℕ} {w : Int32}

lemma fits_iff {m : ℤ} : Word.fits m = true ↔ -2147483648 ≤ m ∧ m ≤ 2147483647 := by
  have hmin : Int32.minValue.toInt = -2147483648 := rfl
  have hmax : Int32.maxValue.toInt = 2147483647 := rfl
  rw [Word.fits, hmin, hmax, decide_eq_true_eq]

lemma fits_natCast : Word.fits (n : ℤ) = true ↔ n ≤ 2147483647 := by
  rw [fits_iff]
  omega

lemma toInt_ofNat (h : n ≤ 2147483647) : (Int32.ofNat n).toInt = n := by
  rw [← Int32.ofInt_eq_ofNat]
  exact toInt_ofInt (fits_natCast.2 h)

lemma number?_eq_some : number? ds = some w ↔ ∃ n, Digits ds n ∧ w = Int32.ofNat n := by
  have hvalue : ds.foldl (fun n c => n * 10 + (c.toNat - 48)) 0 = Nat.ofDigitChars 10 ds 0 := by
    rw [Nat.ofDigitChars_eq_foldl]
    simp only [Nat.mul_comm _ 10]
    rfl
  simp only [number?, hvalue]
  split
  · rename_i h
    constructor
    · intro hw
      cases hw
    · rintro ⟨n, ⟨hne, hdigits, rfl, hbound⟩, _⟩
      have hall : ds.all Char.isDigit = true := List.all_eq_true.2 hdigits
      simp [hne, hall, fits_natCast.2 hbound] at h
  · rename_i h
    simp only [not_or, Bool.not_eq_true', Bool.not_eq_false, List.isEmpty_iff] at h
    obtain ⟨hne, hall, hfits⟩ := h
    constructor
    · intro hw
      exact ⟨_, ⟨hne, List.all_eq_true.1 hall, rfl, fits_natCast.1 hfits⟩,
        (Option.some.inj hw).symm⟩
    · rintro ⟨n, ⟨_, _, rfl, _⟩, rfl⟩
      rfl

lemma Digits.not_mem (h : Digits ds n) : 'd' ∉ ds := fun hd => absurd (h.digits 'd' hd) (by decide)

lemma Digits.eq {m : ℕ} (hm : Digits ds m) (hn : Digits ds n) : m = n :=
  hm.value.symm.trans hn.value

def Tally.add? (t : Tally) : Item → Option Tally
  | .flat n =>
    if Word.fits (t.flat.toInt + n) then some { t with flat := .ofInt (t.flat.toInt + n) } else none
  | .dice count sides =>
    (addDice? (.ofNat sides) (.ofNat count) t.dice).map fun dice => { t with dice }

lemma reads_flat_iff {negative : Bool} {text : List Char} (hd : 'd' ∉ text) :
    Reads ⟨negative, text⟩ item ↔
      ∃ n, Digits text n ∧ item = .flat (if negative then -n else n) := by
  constructor
  · intro h
    cases h with
    | flat h => exact ⟨_, h, rfl⟩
    | die => simp at hd
    | dice => simp at hd
  · rintro ⟨n, h, rfl⟩
    exact .flat h

lemma exists_flat_iff {negative : Bool} (hd : 'd' ∉ ds) (h : Digits ds n) :
    (∃ item, Reads ⟨negative, ds⟩ item ∧ t.add? item = some u) ↔
      t.add? (.flat (if negative then -n else n)) = some u := by
  constructor
  · rintro ⟨item, hitem, hu⟩
    obtain ⟨m, hm, rfl⟩ := (reads_flat_iff hd).1 hitem
    obtain rfl := hm.eq h
    exact hu
  · intro hu
    exact ⟨_, (reads_flat_iff hd).2 ⟨n, h, rfl⟩, hu⟩

lemma addPart_flat {negative : Bool} (hd : 'd' ∉ ds) :
    t.addPart ⟨negative, ds⟩ = .ok u ↔
      ∃ item, Reads ⟨negative, ds⟩ item ∧ t.add? item = some u := by
  have hdrop : ds.dropWhile (· ≠ 'd') = [] :=
    List.dropWhile_eq_nil_iff.2 fun c hc => by simpa using fun h : c = 'd' => hd (h ▸ hc)
  simp only [Tally.addPart, hdrop]
  cases hn : number? ds with
  | none =>
    constructor
    · intro hu
      cases hu
    · rintro ⟨_, hitem, _⟩
      obtain ⟨n, h, _⟩ := (reads_flat_iff hd).1 hitem
      cases hn.symm.trans (number?_eq_some.2 ⟨n, h, rfl⟩)
  | some w =>
    obtain ⟨n, h, rfl⟩ := number?_eq_some.1 hn
    rw [exists_flat_iff hd h]
    simp only [toInt_ofNat h.bound, Tally.add?]
    generalize (if negative = true then -(n : ℤ) else n) = value
    by_cases hfits : Word.fits (t.flat.toInt + value) = true <;> simp [hfits]

def Count (cs : List Char) (count : ℕ) : Prop := cs = [] ∧ count = 1 ∨ Digits cs count

lemma Count.eq {cs : List Char} {m n : ℕ} (hm : Count cs m) (hn : Count cs n) : m = n := by
  rcases hm with ⟨rfl, rfl⟩ | hm
  · rcases hn with ⟨_, rfl⟩ | hn
    · rfl
    · exact absurd rfl hn.nonempty
  · rcases hn with ⟨rfl, _⟩ | hn
    · exact absurd rfl hm.nonempty
    · exact hm.eq hn

lemma reads_dice_iff {negative : Bool} {before after : List Char} (hd : 'd' ∉ before) :
    Reads ⟨negative, before ++ 'd' :: after⟩ item ↔ negative = false ∧ ∃ count sides,
      Count before count ∧ Digits after sides ∧ 1 ≤ sides ∧ item = .dice count sides := by
  constructor
  · intro h
    generalize hp : (⟨negative, before ++ 'd' :: after⟩ : Part) = p at h
    cases h with
    | flat h =>
      cases hp
      exact absurd h.not_mem (by simp)
    | @die ds sides h hsides =>
      obtain ⟨rfl, htext⟩ := Part.mk.inj hp
      cases before with
      | nil =>
        cases htext
        exact ⟨rfl, 1, sides, .inl ⟨rfl, rfl⟩, h, hsides, rfl⟩
      | cons c cs =>
        cases htext
        simp at hd
    | @dice cs ds count sides hcount h hsides =>
      obtain ⟨rfl, htext⟩ := Part.mk.inj hp
      obtain ⟨rfl, _, rfl⟩ :=
        (List.append_cons_inj_of_notMem hcount.not_mem h.not_mem).1 htext.symm
      exact ⟨rfl, count, sides, .inr hcount, h, hsides, rfl⟩
  · rintro ⟨rfl, count, sides, ⟨rfl, rfl⟩ | hcount, h, hsides, rfl⟩
    · exact .die h hsides
    · exact .dice hcount h hsides

lemma count_eq_some {cs : List Char} : (if cs.isEmpty then some 1 else number? cs) = some w ↔
    ∃ count, Count cs count ∧ w = Int32.ofNat count := by
  cases cs with
  | nil =>
    have hempty {n : ℕ} : ¬ Digits [] n := fun h => h.nonempty rfl
    simp [Count, hempty, eq_comm]
  | cons c cs => simp [Count, number?_eq_some]

lemma exists_dice_iff {before after : List Char} {count sides : ℕ} (hd : 'd' ∉ before)
    (hcount : Count before count) (hsides : Digits after sides) :
    (∃ item, Reads ⟨false, before ++ 'd' :: after⟩ item ∧ t.add? item = some u) ↔
      1 ≤ sides ∧ t.add? (.dice count sides) = some u := by
  constructor
  · rintro ⟨item, hitem, hu⟩
    obtain ⟨_, count', sides', hcount', hsides', hle, rfl⟩ := (reads_dice_iff hd).1 hitem
    obtain rfl := hcount'.eq hcount
    obtain rfl := hsides'.eq hsides
    exact ⟨hle, hu⟩
  · rintro ⟨hle, hu⟩
    exact ⟨_, (reads_dice_iff hd).2 ⟨rfl, count, sides, hcount, hsides, hle, rfl⟩, hu⟩

lemma ofNat_lt_one (h : n ≤ 2147483647) : Int32.ofNat n < 1 ↔ ¬ 1 ≤ n := by
  rw [Int32.lt_iff_toInt_lt, toInt_ofNat h]
  change (n : ℤ) < 1 ↔ _
  omega

lemma addPart_dice {negative : Bool} {before after : List Char} (hd : 'd' ∉ before) :
    t.addPart ⟨negative, before ++ 'd' :: after⟩ = .ok u ↔
      ∃ item, Reads ⟨negative, before ++ 'd' :: after⟩ item ∧ t.add? item = some u := by
  have hbefore : ∀ c ∈ before, (decide (c ≠ 'd')) = true :=
    fun c hc => by simpa using fun h : c = 'd' => hd (h ▸ hc)
  have htake : (before ++ 'd' :: after).takeWhile (· ≠ 'd') = before := by
    rw [List.takeWhile_append_of_pos hbefore]
    simp
  have hdrop : (before ++ 'd' :: after).dropWhile (· ≠ 'd') = 'd' :: after := by
    rw [List.dropWhile_append_of_pos hbefore]
    simp
  simp only [Tally.addPart, htake, hdrop]
  cases negative with
  | true => simp [reads_dice_iff hd]
  | false =>
    cases hw : (if before.isEmpty then some 1 else number? before) with
    | none =>
      constructor
      · intro hu
        cases hu
      · rintro ⟨_, hitem, _⟩
        obtain ⟨_, count, _, h, _⟩ := (reads_dice_iff hd).1 hitem
        cases hw.symm.trans (count_eq_some.2 ⟨count, h, rfl⟩)
    | some w =>
      obtain ⟨count, hcount, rfl⟩ := count_eq_some.1 hw
      cases hw : number? after with
      | none =>
        constructor
        · intro hu
          cases hu
        · rintro ⟨_, hitem, _⟩
          obtain ⟨_, _, sides, _, h, _⟩ := (reads_dice_iff hd).1 hitem
          cases hw.symm.trans (number?_eq_some.2 ⟨sides, h, rfl⟩)
      | some w =>
        obtain ⟨sides, hsides, rfl⟩ := number?_eq_some.1 hw
        rw [exists_dice_iff hd hcount hsides]
        simp only [ofNat_lt_one hsides.bound, Tally.add?]
        by_cases hle : 1 ≤ sides
        · cases addDice? (.ofNat sides) (.ofNat count) t.dice <;> simp [hle]
        · simp [hle]

lemma addPart_eq_ok : t.addPart p = .ok u ↔ ∃ item, Reads p item ∧ t.add? item = some u := by
  obtain ⟨negative, text⟩ := p
  by_cases hd : 'd' ∈ text
  · obtain ⟨before, after, rfl, hbefore⟩ := List.eq_append_cons_of_mem hd
    exact addPart_dice hbefore
  · exact addPart_flat hd

lemma Reads.eq {item' : Item} (h : Reads p item) (h' : Reads p item') : item = item' := by
  obtain ⟨negative, text⟩ := p
  by_cases hd : 'd' ∈ text
  · obtain ⟨before, after, rfl, hbefore⟩ := List.eq_append_cons_of_mem hd
    obtain ⟨_, count, sides, hcount, hsides, _, rfl⟩ := (reads_dice_iff hbefore).1 h
    obtain ⟨_, count', sides', hcount', hsides', _, rfl⟩ := (reads_dice_iff hbefore).1 h'
    rw [hcount.eq hcount', hsides.eq hsides']
  · obtain ⟨n, hn, rfl⟩ := (reads_flat_iff hd).1 h
    obtain ⟨n', hn', rfl⟩ := (reads_flat_iff hd).1 h'
    rw [hn.eq hn']

end Reading

end Expression

end Tabletop.Dice
