import Tabletop.Proofs.Decimal.Whole
import Tabletop.Proofs.Dice.Tally

namespace Tabletop.Dice

namespace Expression

def Names (items : List Item) : Prop := (∃ sides, Mentions sides items) ∨ flatSum items ≠ 0

/-- The text is an expression with these components, and the sums fit a word up to each of them. -/
structure Accepts (text : String) (items : List Item) : Prop where
  reads : List.Forall₂ Reads (components (readable text)) items
  inRange : ∀ prior, prior <+: items → InRange prior
  names : Names items

structure Tally.Holds (t : Tally) (items : List Item) : Prop where
  flat : t.flat.toInt = flatSum items
  dice : ∀ q ∈ t.dice, ∃ sides : ℕ, q.sides.toInt = sides ∧ q.count.toInt = countSum sides items

section Rolls

variable {t u : Tally} {items : List Item}

lemma Tallies.holds (h : Tallies t items) : t.Holds items := by
  refine ⟨h.flat, fun q hq => ?_⟩
  obtain ⟨sides, hm, rfl⟩ := (h.dice q).1 hq
  exact ⟨sides, h.toInt_counted hm⟩

lemma Tallies.flat_eq_zero (h : Tallies t items) : t.flat = 0 ↔ flatSum items = 0 := by
  rw [← Int32.toInt_inj, h.flat]
  rfl

lemma Tallies.empty_iff (h : Tallies t items) : (t.dice.isEmpty ∧ t.flat = 0) ↔ ¬ Names items := by
  have hdice : t.dice.isEmpty ↔ ¬ ∃ sides, Mentions sides items := by
    rw [List.isEmpty_iff, List.eq_nil_iff_forall_not_mem]
    constructor
    · rintro hnone ⟨sides, hm⟩
      exact hnone _ ((h.dice _).2 ⟨sides, hm, rfl⟩)
    · intro hnone q hq
      obtain ⟨sides, hm, _⟩ := (h.dice q).1 hq
      exact hnone ⟨sides, hm⟩
  rw [hdice, h.flat_eq_zero, Names, not_or, not_not]

lemma Tallies.mem_quantities (h : Tallies t items) (q : Quantity) :
    q ∈ t.toRoll.quantities ↔ ∃ sides, Mentions sides items ∧ q = counted items sides := by
  rw [← h.dice]
  exact Sorted.mem_ofList

lemma Tallies.modifiers (h : Tallies t items) : t.toRoll.modifiers =
    if flatSum items = 0 then ∅ else .ofList [⟨Float.ofInt (flatSum items), none⟩] := by
  rw [Tally.toRoll]
  simp only [h.flat_eq_zero, h.flat]

lemma Tallies.toRoll_eq (h : Tallies t items) (h' : Tallies u items) : t.toRoll = u.toRoll := by
  have hquantities : t.toRoll.quantities = u.toRoll.quantities :=
    Sorted.ext_mem fun q => by rw [h.mem_quantities, h'.mem_quantities]
  have hmodifiers : t.toRoll.modifiers = u.toRoll.modifiers := h.modifiers.trans h'.modifiers.symm
  change Roll.mk t.toRoll.quantities t.toRoll.modifiers none = .mk u.toRoll.quantities _ none
  rw [hquantities, hmodifiers]
  rfl

end Rolls

end Expression

open Expression

variable {text : String} {r : Roll} {items : List Item}

lemma Expression.Accepts.exists_tally (h : Accepts text items) :
    ∃ t, (components (readable text)).foldlM Tally.addPart {} = .ok t ∧ Tallies t items := by
  obtain ⟨t, ht⟩ := tallies_nil.exists_run h.reads h.inRange
  exact ⟨t, ht, tallies_of_run ht h.reads⟩

lemma Roll.parse_eq : parse text =
    (components (readable text)).foldlM Tally.addPart {} >>= fun t =>
      if t.dice.isEmpty ∧ t.flat = 0 then .error .noDice else pure t.toRoll := by
  rw [parse, split_eq_components]
  rfl

lemma Roll.parse_eq_ok :
    parse text = .ok r ↔ ∃ t items, Accepts text items ∧ Tallies t items ∧ r = t.toRoll := by
  rw [parse_eq, bind_eq_ok]
  constructor
  · rintro ⟨t, ht, h⟩
    obtain ⟨items, hitems, hrange, htallies⟩ := tallies_nil.exists_items ht
    split at h
    · cases h
    · rename_i hempty
      cases h
      exact ⟨t, items, ⟨hitems, hrange, not_not.1 (mt htallies.empty_iff.2 hempty)⟩, htallies, rfl⟩
  · rintro ⟨t, items, h, htallies, rfl⟩
    obtain ⟨u, hu, htallies'⟩ := h.exists_tally
    refine ⟨u, hu, ?_⟩
    rw [if_neg fun hempty => htallies'.empty_iff.1 hempty h.names, htallies.toRoll_eq htallies']
    rfl

/-- One quantity for each size, of all the dice of that size, and one modifier without a name for
the flat numbers. -/
structure Roll.Describes (r : Roll) (items : List Item) : Prop where
  sizes : ∀ sides : ℕ, Mentions sides items → ∃! q, q ∈ r.quantities ∧ q.sides.toInt = sides
  counts : ∀ q ∈ r.quantities, ∃ sides : ℕ, Mentions sides items ∧ q.sides.toInt = sides ∧
    q.count.toInt = countSum sides items
  noModifier : flatSum items = 0 → r.modifiers.toList = []
  modifier : flatSum items ≠ 0 → ∃ m, r.modifiers.toList = [m] ∧ m.name = none ∧
    m.value = Float.ofInt (flatSum items) ∧ Decimal.whole? m.value = some (flatSum items)
  name : r.name = none
  valid : r.fault? = none

lemma Expression.Tallies.describes {t : Tally} (h : Tallies t items)
    (hvalid : t.toRoll.fault? = none) : t.toRoll.Describes items where
  sizes sides hm := by
    refine ⟨counted items sides,
      ⟨(h.mem_quantities _).2 ⟨sides, hm, rfl⟩, (h.toInt_counted hm).1⟩, ?_⟩
    rintro q ⟨hq, hsides⟩
    obtain ⟨s, hm', rfl⟩ := (h.mem_quantities q).1 hq
    rw [(h.toInt_counted hm').1] at hsides
    rw [Int.ofNat_inj.1 hsides]
  counts q hq := by
    obtain ⟨sides, hm, rfl⟩ := (h.mem_quantities q).1 hq
    exact ⟨sides, hm, h.toInt_counted hm⟩
  noModifier hzero := by
    rw [h.modifiers, if_pos hzero]
    rfl
  modifier hne := by
    rw [h.modifiers, if_neg hne]
    exact ⟨_, rfl, rfl, rfl, Decimal.whole?_ofInt h.inRange.natAbs_lt⟩
  name := rfl
  valid := hvalid

lemma Expression.fits_signed {cs : List Char} {w : Int32} (h : number? cs = some w)
    (negative : Bool) : Word.fits (if negative then -w.toInt else w.toInt) = true := by
  obtain ⟨n, hn, rfl⟩ := number?_eq_some.1 h
  have hbound := hn.bound
  rw [toInt_ofNat hbound, fits_iff]
  split <;> omega

/-- The texts that are read are the expressions of the grammar whose sums fit a word, each as the
roll that it describes. On the way no sum is ever cut off. -/
theorem expressions_read_exactly (text : String) :
    ((∃ r, Roll.parse text = .ok r) ↔ ∃ items, Accepts text items) ∧
      (∀ r items, Roll.parse text = .ok r → Accepts text items → r.Describes items) ∧
      (∀ cs w (negative : Bool), number? cs = some w →
        Word.fits (if negative then -w.toInt else w.toInt) = true) ∧
      ∀ parts t items, parts.foldlM Tally.addPart {} = .ok t → List.Forall₂ Reads parts items →
        t.Holds items := by
  refine ⟨⟨?_, ?_⟩, ?_, fun cs w negative h => fits_signed h negative, ?_⟩
  · rintro ⟨r, h⟩
    obtain ⟨_, items, haccepts, _⟩ := Roll.parse_eq_ok.1 h
    exact ⟨items, haccepts⟩
  · rintro ⟨items, h⟩
    obtain ⟨t, _, htallies⟩ := h.exists_tally
    exact ⟨t.toRoll, Roll.parse_eq_ok.2 ⟨t, items, h, htallies, rfl⟩⟩
  · intro r items hr h
    obtain ⟨t, items', h', htallies, rfl⟩ := Roll.parse_eq_ok.1 hr
    obtain rfl := forall₂_reads_eq h'.reads h.reads
    exact htallies.describes (Roll.fault?_of_parse hr)
  · exact fun parts t items ht hreads => (tallies_of_run ht hreads).holds

theorem expressions_read_exactly_longsword :
    ∃ r, Roll.parse " 2D6 + d6--3 + 1 " = .ok r ∧
      r.Describes [.dice 2 6, .dice 1 6, .flat (-3), .flat 1] := by
  obtain ⟨hok, hdescribes, _, _⟩ := expressions_read_exactly " 2D6 + d6--3 + 1 "
  have hdigits (c : Char) (n : ℕ) (h : c.isDigit ∧ Nat.ofDigitChars 10 [c] 0 = n ∧ n ≤ 2147483647) :
      Digits [c] n := ⟨by simp, by simpa using h.1, h.2.1, h.2.2⟩
  have hparts : components (readable " 2D6 + d6--3 + 1 ") = [⟨false, ['2', 'd', '6']⟩,
      ⟨false, ['d', '6']⟩, ⟨true, ['3']⟩, ⟨false, ['1']⟩] := by decide +kernel
  have hreads : List.Forall₂ Reads (components (readable " 2D6 + d6--3 + 1 "))
      [.dice 2 6, .dice 1 6, .flat (-3), .flat 1] := by
    have hsix := hdigits '6' 6 (by decide)
    rw [hparts]
    exact .cons (.dice (hdigits '2' 2 (by decide)) hsix (by decide))
      (.cons (.die hsix (by decide)) (.cons (.flat (hdigits '3' 3 (by decide)))
        (.cons (.flat (hdigits '1' 1 (by decide))) .nil)))
  have hread : (Roll.parse " 2D6 + d6--3 + 1 ").isOk = true := by decide +kernel
  cases hr : Roll.parse " 2D6 + d6--3 + 1 " with
  | error e =>
    rw [hr] at hread
    cases hread
  | ok r =>
    obtain ⟨items, haccepts⟩ := hok.1 ⟨r, hr⟩
    obtain rfl := forall₂_reads_eq haccepts.reads hreads
    exact ⟨r, rfl, hdescribes r _ hr haccepts⟩

end Tabletop.Dice
