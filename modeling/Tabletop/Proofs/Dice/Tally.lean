import Mathlib.Algebra.Order.Ring.Int
import Tabletop.Proofs.Dice.Grammar

namespace Tabletop.Dice

instance : Std.LawfulEqCmp Quantity.order where
  eq_of_compare {a b} h := by
    simp only [Quantity.order, compareLex, compareOn, Ordering.then_eq_eq,
      Std.compare_eq_iff_eq] at h
    cases a
    cases b
    simpa using h

namespace Expression

def Item.flatPart : Item → ℤ
  | flat n => n
  | dice .. => 0

def Item.countPart (sides : ℕ) : Item → ℕ
  | flat _ => 0
  | dice count s => if s = sides then count else 0

def flatSum (items : List Item) : ℤ := (items.map Item.flatPart).sum

def countSum (sides : ℕ) (items : List Item) : ℕ := (items.map (Item.countPart sides)).sum

def Mentions (sides : ℕ) (items : List Item) : Prop := ∃ count, Item.dice count sides ∈ items

structure InRange (items : List Item) : Prop where
  counts : ∀ sides, countSum sides items ≤ 2147483647
  low : -2147483648 ≤ flatSum items
  high : flatSum items ≤ 2147483647

section Sums

variable {t u : Tally} {item : Item} {items : List Item} {sides : ℕ}

lemma InRange.natAbs_lt (h : InRange items) : (flatSum items).natAbs < 2 ^ 53 := by
  have hlow := h.low
  have hhigh := h.high
  omega

lemma flatSum_concat : flatSum (items ++ [item]) = flatSum items + item.flatPart := by
  simp [flatSum]

lemma countSum_concat :
    countSum sides (items ++ [item]) = countSum sides items + item.countPart sides := by
  simp [countSum]

lemma mentions_concat :
    Mentions sides (items ++ [item]) ↔
      Mentions sides items ∨ ∃ count, item = .dice count sides := by
  simp [Mentions, exists_or, eq_comm]

lemma countSum_of_not_mentions (h : ¬ Mentions sides items) : countSum sides items = 0 := by
  rw [countSum, List.sum_eq_zero_iff_forall_eq_nat]
  intro n hn
  obtain ⟨item, hitem, rfl⟩ := List.mem_map.1 hn
  cases item with
  | flat n => rfl
  | dice count s =>
    rw [Item.countPart, if_neg]
    rintro rfl
    exact h ⟨count, hitem⟩

lemma ofNat_inj {m n : ℕ} (hm : m ≤ 2147483647) (hn : n ≤ 2147483647) :
    Int32.ofNat m = Int32.ofNat n ↔ m = n := by
  refine ⟨fun h => ?_, fun h => h ▸ rfl⟩
  have hint := congrArg Int32.toInt h
  rw [toInt_ofNat hm, toInt_ofNat hn] at hint
  exact Int.ofNat_inj.1 hint

lemma addDice?_of_not_mem {sides count : Int32} {dice : List Quantity}
    (h : sides ∉ dice.map Quantity.sides) :
    addDice? sides count dice = some (dice ++ [⟨sides, count⟩]) := by
  induction dice with
  | nil => rfl
  | cons q qs ih =>
    rw [List.map_cons, List.mem_cons, not_or] at h
    rw [addDice?, if_neg (Ne.symm h.1), ih h.2]
    rfl

def raise (q : Quantity) (count : Int32) (r : Quantity) : Quantity :=
  if r.sides = q.sides then ⟨q.sides, q.count + count⟩ else r

lemma sides_raise (q : Quantity) (count : Int32) (r : Quantity) :
    (raise q count r).sides = r.sides := by
  rw [raise]
  split
  · rename_i heq
    exact heq.symm
  · rfl

lemma addDice?_of_mem {q : Quantity} (count : Int32) {dice : List Quantity} (hq : q ∈ dice)
    (hdice : (dice.map Quantity.sides).Nodup) :
    addDice? q.sides count dice =
      if Word.fits (q.count.toInt + count.toInt) then some (dice.map (raise q count))
      else none := by
  induction dice with
  | nil => cases hq
  | cons r rs ih =>
    obtain ⟨hr, hrs⟩ := List.nodup_cons.1 hdice
    rw [addDice?, List.map_cons]
    rcases List.mem_cons.1 hq with rfl | hq
    · have hrest : ∀ r ∈ rs, raise q count r = r := by
        intro r hmem
        rw [raise, if_neg]
        intro heq
        exact hr (heq ▸ List.mem_map_of_mem hmem)
      rw [if_pos rfl, raise, if_pos rfl, List.map_congr_left hrest, List.map_id']
    · have hne : r.sides ≠ q.sides := fun heq => hr (heq ▸ List.mem_map_of_mem hq)
      rw [if_neg hne, raise, if_neg hne, ih hq hrs]
      split <;> rfl

def Item.Small : Item → Prop
  | flat _ => True
  | dice count sides => count ≤ 2147483647 ∧ sides ≤ 2147483647

lemma Reads.small {p : Part} (h : Reads p item) : item.Small := by
  cases h with
  | flat => trivial
  | die h => exact ⟨by decide, h.bound⟩
  | dice hcount h => exact ⟨hcount.bound, h.bound⟩

def counted (items : List Item) (sides : ℕ) : Quantity :=
  ⟨.ofNat sides, .ofNat (countSum sides items)⟩

/-- The sums of some components: their numbers add up to the flat number, and for each size that
they mention there is one quantity, of the sum of the counts. -/
structure Tallies (t : Tally) (items : List Item) : Prop where
  inRange : InRange items
  small : ∀ sides, Mentions sides items → sides ≤ 2147483647
  flat : t.flat.toInt = flatSum items
  nodup : (t.dice.map Quantity.sides).Nodup
  dice : ∀ q, q ∈ t.dice ↔ ∃ sides, Mentions sides items ∧ q = counted items sides

lemma tallies_nil : Tallies {} [] :=
  ⟨⟨fun _ => Nat.zero_le _, by decide, by decide⟩, nofun, rfl, .nil, by simp [Mentions]⟩

lemma Tallies.flatSum_concat (h : Tallies t items) (n : ℤ) :
    flatSum (items ++ [.flat n]) = t.flat.toInt + n := by
  rw [Expression.flatSum_concat, h.flat]
  rfl

lemma Tallies.add_flat (h : Tallies t items) {n : ℤ} (hu : t.add? (.flat n) = some u) :
    Tallies u (items ++ [.flat n]) := by
  have hmentions (sides : ℕ) : Mentions sides (items ++ [.flat n]) ↔ Mentions sides items := by
    simp [mentions_concat]
  have hcount (sides : ℕ) : countSum sides (items ++ [.flat n]) = countSum sides items := by
    rw [countSum_concat]
    rfl
  rw [Tally.add?] at hu
  split at hu <;> cases hu
  rename_i hfits
  have hflat := h.flatSum_concat n
  obtain ⟨hlow, hhigh⟩ := fits_iff.1 hfits
  refine ⟨⟨fun sides => hcount sides ▸ h.inRange.counts sides, ?_, ?_⟩, fun sides hm =>
    h.small sides ((hmentions sides).1 hm), ?_, h.nodup, ?_⟩
  · rwa [hflat]
  · rwa [hflat]
  · rw [hflat, toInt_ofInt hfits]
  · simp only [hmentions, counted, hcount]
    exact h.dice

lemma Tallies.toInt_counted (h : Tallies t items) (hm : Mentions sides items) :
    (counted items sides).sides.toInt = sides ∧
      (counted items sides).count.toInt = countSum sides items :=
  ⟨toInt_ofNat (h.small sides hm), toInt_ofNat (h.inRange.counts sides)⟩

lemma Tallies.mem_sides (h : Tallies t items) (hs : sides ≤ 2147483647) :
    Int32.ofNat sides ∈ t.dice.map Quantity.sides ↔ Mentions sides items := by
  rw [List.mem_map]
  constructor
  · rintro ⟨q, hq, heq⟩
    obtain ⟨s, hm, rfl⟩ := (h.dice q).1 hq
    obtain rfl := (ofNat_inj (h.small s hm) hs).1 heq
    exact hm
  · intro hm
    exact ⟨counted items sides, (h.dice _).2 ⟨sides, hm, rfl⟩, rfl⟩

lemma counted_concat_of_ne {count s : ℕ} (hne : sides ≠ s) :
    counted (items ++ [.dice count sides]) s = counted items s := by
  simp [counted, countSum_concat, Item.countPart, hne]

lemma counted_concat {count : ℕ} : counted (items ++ [.dice count sides]) sides =
    ⟨.ofNat sides, (counted items sides).count + .ofNat count⟩ := by
  simp [counted, countSum_concat, Item.countPart]

lemma inRange_concat_dice {count : ℕ} (h : InRange items) :
    InRange (items ++ [.dice count sides]) ↔ countSum sides items + count ≤ 2147483647 := by
  have hflat : flatSum (items ++ [.dice count sides]) = flatSum items := by
    rw [flatSum_concat]
    exact Int.add_zero _
  constructor
  · intro hrange
    have hcount := hrange.counts sides
    rwa [countSum_concat, Item.countPart, if_pos rfl] at hcount
  · intro hle
    refine ⟨fun s => ?_, hflat ▸ h.low, hflat ▸ h.high⟩
    rw [countSum_concat, Item.countPart]
    split
    · rename_i heq
      exact heq ▸ hle
    · exact h.counts s

lemma Tallies.of_dice (h : Tallies t items) {count : ℕ} {dice : List Quantity}
    (hs : sides ≤ 2147483647) (hrange : InRange (items ++ [.dice count sides]))
    (hnodup : (dice.map Quantity.sides).Nodup)
    (hdice : ∀ q, q ∈ dice ↔ q = counted (items ++ [.dice count sides]) sides ∨
      ∃ s, s ≠ sides ∧ Mentions s items ∧ q = counted items s) :
    Tallies { t with dice } (items ++ [.dice count sides]) := by
  have hmentions (s : ℕ) :
      Mentions s (items ++ [.dice count sides]) ↔ Mentions s items ∨ s = sides := by
    simp [mentions_concat, eq_comm]
  refine ⟨hrange, fun s hm => ?_, ?_, hnodup, fun q => ?_⟩
  · rcases (hmentions s).1 hm with hm | rfl
    · exact h.small s hm
    · exact hs
  · rw [Expression.flatSum_concat, h.flat]
    exact (Int.add_zero _).symm
  · rw [hdice]
    constructor
    · rintro (rfl | ⟨s, hne, hm, rfl⟩)
      · exact ⟨sides, (hmentions sides).2 (.inr rfl), rfl⟩
      · exact ⟨s, (hmentions s).2 (.inl hm), (counted_concat_of_ne hne.symm).symm⟩
    · rintro ⟨s, hm, rfl⟩
      by_cases hne : s = sides
      · exact .inl (by rw [hne])
      · exact .inr ⟨s, hne, ((hmentions s).1 hm).resolve_right hne,
          counted_concat_of_ne (Ne.symm hne)⟩

lemma Tallies.mem_raised (h : Tallies t items) (hm : Mentions sides items) {count : ℕ}
    (q : Quantity) : q ∈ t.dice.map (raise (counted items sides) (.ofNat count)) ↔
      q = counted (items ++ [.dice count sides]) sides ∨
        ∃ s, s ≠ sides ∧ Mentions s items ∧ q = counted items s := by
  have hsame {s : ℕ} (hs : Mentions s items) :
      (counted items s).sides = (counted items sides).sides ↔ s = sides :=
    ofNat_inj (h.small s hs) (h.small sides hm)
  rw [List.mem_map, counted_concat]
  constructor
  · rintro ⟨r, hr, rfl⟩
    obtain ⟨s, hs, rfl⟩ := (h.dice r).1 hr
    by_cases heq : s = sides
    · rw [raise, if_pos ((hsame hs).2 heq)]
      exact .inl rfl
    · rw [raise, if_neg (mt (hsame hs).1 heq)]
      exact .inr ⟨s, heq, hs, rfl⟩
  · rintro (rfl | ⟨s, heq, hs, rfl⟩)
    · exact ⟨_, (h.dice _).2 ⟨sides, hm, rfl⟩, by rw [raise, if_pos rfl]; rfl⟩
    · exact ⟨_, (h.dice _).2 ⟨s, hs, rfl⟩, by rw [raise, if_neg (mt (hsame hs).1 heq)]⟩

lemma Tallies.add_mentioned (h : Tallies t items) (hm : Mentions sides items) {count : ℕ}
    (hcount : count ≤ 2147483647) :
    (InRange (items ++ [.dice count sides]) → ∃ u, t.add? (.dice count sides) = some u) ∧
      ∀ u, t.add? (.dice count sides) = some u → Tallies u (items ++ [.dice count sides]) := by
  have hadd := addDice?_of_mem (.ofNat count) ((h.dice _).2 ⟨sides, hm, rfl⟩) h.nodup
  have hfits : Word.fits ((counted items sides).count.toInt + (Int32.ofNat count).toInt) = true ↔
      InRange (items ++ [.dice count sides]) := by
    rw [(h.toInt_counted hm).2, toInt_ofNat hcount, ← Int.natCast_add, fits_natCast,
      inRange_concat_dice h.inRange]
  change addDice? (.ofNat sides) _ _ = _ at hadd
  rw [Tally.add?, hadd]
  constructor
  · intro hrange
    rw [if_pos (hfits.2 hrange)]
    exact ⟨_, rfl⟩
  · intro u hu
    split at hu <;> cases hu
    rename_i hrange
    refine h.of_dice (h.small sides hm) (hfits.1 hrange) ?_ (h.mem_raised hm)
    have hsides : Quantity.sides ∘ raise (counted items sides) (.ofNat count) = Quantity.sides :=
      funext (sides_raise _ _)
    rw [List.map_map, hsides]
    exact h.nodup

lemma Tallies.add_new (h : Tallies t items) (hm : ¬ Mentions sides items) {count : ℕ}
    (hcount : count ≤ 2147483647) (hs : sides ≤ 2147483647) :
    ∃ u, t.add? (.dice count sides) = some u ∧ Tallies u (items ++ [.dice count sides]) := by
  have hnew : Int32.ofNat sides ∉ t.dice.map Quantity.sides := mt (h.mem_sides hs).1 hm
  have hzero := countSum_of_not_mentions hm
  have hcounted :
      counted (items ++ [.dice count sides]) sides = ⟨.ofNat sides, .ofNat count⟩ := by
    simp [counted, countSum_concat, Item.countPart, hzero]
  rw [Tally.add?, addDice?_of_not_mem hnew]
  refine ⟨_, rfl, h.of_dice hs ((inRange_concat_dice h.inRange).2 (by omega)) ?_ fun q => ?_⟩
  · rw [List.map_append, List.map_singleton, ← List.concat_eq_append]
    exact h.nodup.concat hnew
  · rw [List.mem_append, List.mem_singleton, h.dice, hcounted, or_comm]
    refine or_congr_right ⟨?_, ?_⟩
    · rintro ⟨s, hms, rfl⟩
      exact ⟨s, fun heq => hm (heq ▸ hms), hms, rfl⟩
    · rintro ⟨s, _, hms, rfl⟩
      exact ⟨s, hms, rfl⟩

lemma Tallies.add (h : Tallies t items) (hsmall : item.Small) :
    (InRange (items ++ [item]) → ∃ u, t.add? item = some u) ∧
      ∀ u, t.add? item = some u → Tallies u (items ++ [item]) := by
  cases item with
  | flat n =>
    refine ⟨fun hrange => ?_, fun u hu => h.add_flat hu⟩
    have hfits : Word.fits (t.flat.toInt + n) = true :=
      fits_iff.2 (h.flatSum_concat n ▸ ⟨hrange.low, hrange.high⟩)
    rw [Tally.add?, if_pos hfits]
    exact ⟨_, rfl⟩
  | dice count sides =>
    by_cases hm : Mentions sides items
    · exact h.add_mentioned hm hsmall.1
    · obtain ⟨u, hu, htallies⟩ := h.add_new hm hsmall.1 hsmall.2
      refine ⟨fun _ => ⟨u, hu⟩, fun v hv => ?_⟩
      obtain rfl := Option.some.inj (hu.symm.trans hv)
      exact htallies

end Sums

section Runs

variable {t u : Tally} {items new : List Item} {parts : List Part}

lemma Tallies.exists_items (h : Tallies t items) (hu : parts.foldlM Tally.addPart t = .ok u) :
    ∃ new, List.Forall₂ Reads parts new ∧ (∀ prior, prior <+: new → InRange (items ++ prior)) ∧
      Tallies u (items ++ new) := by
  induction parts generalizing t items with
  | nil =>
    cases hu
    refine ⟨[], .nil, fun prior hprior => ?_, by simpa using h⟩
    obtain rfl := List.prefix_nil.1 hprior
    simpa using h.inRange
  | cons p parts ih =>
    rw [List.foldlM_cons, bind_eq_ok] at hu
    obtain ⟨t', hp, hu⟩ := hu
    obtain ⟨item, hitem, hadd⟩ := addPart_eq_ok.1 hp
    obtain ⟨new, hnew, hrange, hfinal⟩ := ih ((h.add hitem.small).2 t' hadd) hu
    refine ⟨item :: new, .cons hitem hnew, fun prior hprior => ?_, by simpa using hfinal⟩
    rcases List.prefix_cons_iff.1 hprior with rfl | ⟨rest, rfl, hrest⟩
    · simpa using h.inRange
    · simpa using hrange rest hrest

lemma Tallies.exists_run (h : Tallies t items) (hnew : List.Forall₂ Reads parts new)
    (hrange : ∀ prior, prior <+: new → InRange (items ++ prior)) :
    ∃ u, parts.foldlM Tally.addPart t = .ok u := by
  induction hnew generalizing t items with
  | nil => exact ⟨t, rfl⟩
  | @cons p item parts new hitem _ ih =>
    obtain ⟨hadd, htallies⟩ := h.add hitem.small
    have hfirst : [item] <+: item :: new :=
      List.prefix_cons_iff.2 (.inr ⟨[], rfl, List.nil_prefix⟩)
    obtain ⟨t', ht'⟩ := hadd (hrange [item] hfirst)
    have hrest : ∀ prior, prior <+: new → InRange (items ++ [item] ++ prior) := by
      intro prior hprior
      simpa using hrange (item :: prior) ((List.prefix_cons_inj item).2 hprior)
    obtain ⟨u, hu⟩ := ih (htallies t' ht') hrest
    exact ⟨u, by rw [List.foldlM_cons, addPart_eq_ok.2 ⟨item, hitem, ht'⟩]; exact hu⟩

lemma forall₂_reads_eq {items' : List Item} (h : List.Forall₂ Reads parts items)
    (h' : List.Forall₂ Reads parts items') : items = items' :=
  List.right_unique_forall₂' (R := Reads) (fun _ _ _ h h' => h.eq h') h h'

lemma tallies_of_run (hu : parts.foldlM Tally.addPart {} = .ok u)
    (h : List.Forall₂ Reads parts items) : Tallies u items := by
  obtain ⟨items', h', _, htallies⟩ := tallies_nil.exists_items hu
  rwa [forall₂_reads_eq h h']

end Runs

end Expression

end Tabletop.Dice
