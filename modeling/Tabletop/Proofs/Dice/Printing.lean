import Mathlib.Algebra.BigOperators.Group.List.Basic
import Tabletop.Proofs.Decimal.Spelling
import Tabletop.Proofs.Dice.Parse
import Tabletop.Proofs.Dice.Written

namespace Tabletop.Dice

namespace Expression

section Merging

variable {items more prior : List Item} {sizes : List ℕ} {sides : ℕ}

def mergedDice (sizes : List ℕ) (items : List Item) : List Item :=
  sizes.map fun sides => .dice (countSum sides items) sides

def mergedFlat (items : List Item) : List Item :=
  if flatSum items = 0 then [] else [.flat (flatSum items)]

def merged (sizes : List ℕ) (items : List Item) : List Item :=
  mergedDice sizes items ++ mergedFlat items

lemma flatSum_append : flatSum (items ++ more) = flatSum items + flatSum more := by
  simp [flatSum]

lemma countSum_append :
    countSum sides (items ++ more) = countSum sides items + countSum sides more := by
  simp [countSum]

lemma mentions_mergedDice : Mentions sides (mergedDice sizes items) ↔ sides ∈ sizes := by
  simp [Mentions, mergedDice]

lemma not_mentions_mergedFlat : ¬ Mentions sides (mergedFlat items) := by
  rintro ⟨count, h⟩
  rw [mergedFlat] at h
  split at h <;> simp at h

lemma mentions_merged : Mentions sides (merged sizes items) ↔ sides ∈ sizes := by
  have happend : Mentions sides (merged sizes items) ↔
      Mentions sides (mergedDice sizes items) ∨ Mentions sides (mergedFlat items) := by
    simp [Mentions, merged, exists_or]
  rw [happend, mentions_mergedDice, or_iff_left not_mentions_mergedFlat]

lemma flatSum_of_prefix_mergedDice (h : prior <+: mergedDice sizes items) : flatSum prior = 0 := by
  refine List.sum_eq_zero fun n hn => ?_
  obtain ⟨item, hitem, rfl⟩ := List.mem_map.1 hn
  obtain ⟨sides, _, rfl⟩ := List.mem_map.1 (h.subset hitem)
  rfl

lemma flatSum_mergedFlat : flatSum (mergedFlat items) = flatSum items := by
  rw [mergedFlat]
  split
  · rename_i hzero
    exact hzero.symm
  · simp [flatSum, Item.flatPart]

lemma flatSum_merged : flatSum (merged sizes items) = flatSum items := by
  rw [merged, flatSum_append, flatSum_of_prefix_mergedDice (List.prefix_refl _), Int.zero_add,
    flatSum_mergedFlat]

lemma countSum_mergedDice (hnodup : sizes.Nodup) (h : sides ∈ sizes) :
    countSum sides (mergedDice sizes items) = countSum sides items := by
  obtain ⟨before, after, rfl⟩ := List.append_of_mem h
  have hbefore : sides ∉ before := fun hmem =>
    (List.nodup_append.1 hnodup).2.2 sides hmem sides (List.mem_cons_self ..) rfl
  have hafter : sides ∉ after := (List.nodup_cons.1 (List.nodup_append.1 hnodup).2.1).1
  have hsplit : mergedDice (before ++ sides :: after) items =
      mergedDice before items ++
        ([.dice (countSum sides items) sides] ++ mergedDice after items) := by
    simp [mergedDice]
  rw [hsplit, countSum_append, countSum_append,
    countSum_of_not_mentions (mt mentions_mergedDice.1 hbefore),
    countSum_of_not_mentions (mt mentions_mergedDice.1 hafter)]
  simp [countSum, Item.countPart]

lemma countSum_merged (hnodup : sizes.Nodup) (hsizes : ∀ s, s ∈ sizes ↔ Mentions s items) :
    countSum sides (merged sizes items) = countSum sides items := by
  by_cases hm : Mentions sides items
  · rw [merged, countSum_append, countSum_mergedDice hnodup ((hsizes sides).2 hm),
      countSum_of_not_mentions not_mentions_mergedFlat, Nat.add_zero]
  · rw [countSum_of_not_mentions hm,
      countSum_of_not_mentions (mt mentions_merged.1 (mt (hsizes sides).1 hm))]

lemma flatSum_of_prefix (h : prior <+: merged sizes items) :
    flatSum prior = 0 ∨ flatSum prior = flatSum items := by
  rw [merged, mergedFlat] at h
  split at h
  · rw [List.append_nil] at h
    exact .inl (flatSum_of_prefix_mergedDice h)
  · rcases List.prefix_concat_iff.1 h with heq | h
    · rw [heq, flatSum_append, flatSum_of_prefix_mergedDice (List.prefix_refl _)]
      exact .inr (by simp [flatSum, Item.flatPart])
    · exact .inl (flatSum_of_prefix_mergedDice h)

lemma inRange_of_prefix (h : prior <+: merged sizes items) (hrange : InRange (merged sizes items)) :
    InRange prior := by
  have hlow := hrange.low
  have hhigh := hrange.high
  rw [flatSum_merged] at hlow hhigh
  refine ⟨fun s => ?_, ?_, ?_⟩
  · obtain ⟨rest, hrest⟩ := h
    have hcounts := hrange.counts s
    rw [← hrest, countSum_append] at hcounts
    omega
  · rcases flatSum_of_prefix h with hflat | hflat <;> omega
  · rcases flatSum_of_prefix h with hflat | hflat <;> omega

end Merging

/-- The roll of a tally lists the dice of these sizes, in this order. -/
structure Lists (t : Tally) (items : List Item) (sizes : List ℕ) : Prop where
  tallies : Tallies t items
  nodup : sizes.Nodup
  mem_iff : ∀ sides, sides ∈ sizes ↔ Mentions sides items
  quantities : t.toRoll.quantities.toList = sizes.map (counted items)

section Lists

variable {t : Tally} {items : List Item} {sizes : List ℕ} {sides : ℕ}

lemma Tallies.exists_lists (h : Tallies t items) : ∃ sizes, Lists t items sizes := by
  have hself : ∀ q ∈ t.toRoll.quantities.toList, counted items q.sides.toInt.toNat = q := by
    intro q hq
    obtain ⟨sides, hm, rfl⟩ := (h.mem_quantities q).1 hq
    rw [(h.toInt_counted hm).1, Int.toNat_natCast]
  have hquantities : (t.toRoll.quantities.toList.map fun q => q.sides.toInt.toNat).map
      (counted items) = t.toRoll.quantities.toList := by
    rw [List.map_map]
    exact (List.map_congr_left hself).trans (List.map_id _)
  have hnodup : t.toRoll.quantities.toList.Nodup := by
    simpa using t.toRoll.quantities.nodup_map id fun q q' heq => by
      obtain rfl : q = q' := heq
      simp [Std.ReflCmp.compare_self]
  refine ⟨_, h, .of_map _ (hquantities ▸ hnodup), fun sides => ?_, hquantities.symm⟩
  rw [List.mem_map]
  constructor
  · rintro ⟨q, hq, rfl⟩
    obtain ⟨sides, hm, rfl⟩ := (h.mem_quantities q).1 hq
    rwa [(h.toInt_counted hm).1, Int.toNat_natCast]
  · intro hm
    exact ⟨counted items sides, (h.mem_quantities _).2 ⟨sides, hm, rfl⟩, by
      rw [(h.toInt_counted hm).1, Int.toNat_natCast]⟩

lemma Lists.merged (h : Lists t items sizes) : Tallies t (merged sizes items) := by
  have hmentions (s : ℕ) : Mentions s (Expression.merged sizes items) ↔ Mentions s items :=
    mentions_merged.trans (h.mem_iff s)
  have hcount (s : ℕ) : countSum s (Expression.merged sizes items) = countSum s items :=
    countSum_merged h.nodup h.mem_iff
  obtain ⟨hrange, hsmall, hflat, hnodup, hdice⟩ := h.tallies
  refine ⟨⟨fun s => hcount s ▸ hrange.counts s, ?_, ?_⟩, fun s hm => hsmall s ((hmentions s).1 hm),
    hflat.trans flatSum_merged.symm, hnodup, fun q => ?_⟩
  · rw [flatSum_merged]
    exact hrange.low
  · rw [flatSum_merged]
    exact hrange.high
  · simp only [hdice, hmentions, counted, hcount]

lemma Lists.names_merged (h : Lists t items sizes) :
    Names (Expression.merged sizes items) ↔ Names items := by
  simp only [Names, mentions_merged, flatSum_merged, h.mem_iff]

end Lists

section Texts

variable {t : Tally} {items : List Item} {sizes : List ℕ} {sides : ℕ} {z : ℤ}

lemma toList_toString (n : ℕ) : (toString (n : ℤ)).toList = Nat.toDigits 10 n := Nat.toList_repr

lemma Tallies.text_counted (h : Tallies t items) (hm : Mentions sides items) :
    '+' :: (counted items sides).text.toList =
      written (Item.dice (countSum sides items) sides).part := by
  obtain ⟨hsides, hcount⟩ := h.toInt_counted hm
  rw [Quantity.text, hsides, hcount, String.toList_append, String.toList_append, toList_toString,
    toList_toString, List.append_assoc]
  rfl

lemma plus_intercalate {ws : List String} (h : ws ≠ []) :
    '+' :: ("+".intercalate ws).toList = ws.flatMap fun w => '+' :: w.toList := by
  induction ws with
  | nil => exact absurd rfl h
  | cons w ws ih =>
    by_cases hws : ws = []
    · simp [hws]
    · rw [String.intercalate_cons_of_ne_nil hws, List.flatMap_cons, ← ih hws, String.toList_append,
        String.toList_append, List.append_assoc]
      rfl

lemma Lists.plus_dice (h : Lists t items sizes) (hne : sizes ≠ []) :
    '+' :: ("+".intercalate (t.toRoll.quantities.toList.map Quantity.text)).toList =
      (mergedDice sizes items).flatMap fun item => written item.part := by
  have hsome : t.toRoll.quantities.toList.map Quantity.text ≠ [] := by
    simpa [h.quantities] using hne
  rw [plus_intercalate hsome, h.quantities, mergedDice, List.flatMap_map, List.flatMap_map,
    List.flatMap_map]
  exact List.flatMap_congr fun s hs => h.tallies.text_counted ((h.mem_iff s).1 hs)

lemma written_flat_of_nonneg (hz : 0 ≤ z) :
    written (Item.flat z).part = '+' :: (toString z).toList := by
  obtain ⟨n, rfl⟩ := Int.eq_ofNat_of_zero_le hz
  have hneg : decide ((n : ℤ) < 0) = false := decide_eq_false (Int.not_lt.2 hz)
  rw [written, Item.part, hneg, toList_toString]
  rfl

lemma written_flat_of_neg (hz : z < 0) :
    written (Item.flat z).part = '-' :: (toString z.natAbs).toList := by
  rw [written, Item.part, decide_eq_true hz]
  exact congrArg (List.cons '-') (toList_toString z.natAbs).symm

lemma toString_of_neg (hz : z < 0) : toString z = "-" ++ toString z.natAbs := by
  obtain ⟨n, rfl⟩ := Int.eq_negSucc_of_lt_zero hz
  rfl

lemma Tallies.modifierTotal_eq (h : Tallies t items) : t.toRoll.modifierTotal =
    if flatSum items = 0 then -0.0 else Float.ofInt (flatSum items) := by
  rw [Roll.modifierTotal, h.modifiers]
  split
  · rfl
  · rename_i hne
    exact (Decimal.isWhole_ofInt hne h.inRange.natAbs_lt).negZero_add

lemma Tallies.text_flat (h : Tallies t items) (hne : flatSum items ≠ 0)
    (hnone : t.toRoll.quantities.toList = []) :
    written (Item.flat (flatSum items)).part = '+' :: t.toRoll.text.toList ∨
      written (Item.flat (flatSum items)).part = t.toRoll.text.toList := by
  have htext : t.toRoll.text = toString (flatSum items) := by
    rw [Roll.text, hnone, h.modifierTotal_eq, if_neg hne]
    exact Decimal.number_ofInt h.inRange.natAbs_lt
  rw [htext]
  rcases Int.lt_or_le (flatSum items) 0 with hneg | hpos
  · rw [written_flat_of_neg hneg, toString_of_neg hneg, String.toList_append]
    exact .inr rfl
  · exact .inl (written_flat_of_nonneg hpos)

lemma Tallies.text_dice (h : Tallies t items) (hsome : t.toRoll.quantities.toList ≠ []) :
    t.toRoll.text.toList =
      ("+".intercalate (t.toRoll.quantities.toList.map Quantity.text)).toList ++
        (mergedFlat items).flatMap fun item => written item.part := by
  have hempty : t.toRoll.quantities.toList.isEmpty = false := by simpa using hsome
  have hbound := h.inRange.natAbs_lt
  rw [Roll.text, hempty, h.modifierTotal_eq, mergedFlat, if_neg Bool.false_ne_true]
  by_cases hzero : flatSum items = 0
  · have hneutral : ((-0.0 : Float) == 0) = true := rfl
    rw [if_pos hzero, if_pos hzero, if_pos hneutral, List.flatMap_nil, List.append_nil]
  · have hsign := Decimal.zero_lt_ofInt hzero hbound
    rw [if_neg hzero, if_neg hzero, (Decimal.isWhole_ofInt hzero hbound).beq_zero,
      if_neg Bool.false_ne_true, List.flatMap_singleton]
    rcases Int.lt_or_le (flatSum items) 0 with hneg | hpos
    · rw [if_neg (mt hsign.1 (by omega)), Decimal.number_abs_ofInt hzero hbound,
        written_flat_of_neg hneg, String.toList_append, String.toList_append, List.append_assoc]
      rfl
    · rw [if_pos (hsign.2 (by omega)), Decimal.number_ofInt hbound, written_flat_of_nonneg hpos,
        String.toList_append, String.toList_append, List.append_assoc]
      rfl

lemma Lists.text_written (h : Lists t items sizes) (hnames : Names items) :
    ((Expression.merged sizes items).map Item.part).flatMap written = '+' :: t.toRoll.text.toList ∨
      ((Expression.merged sizes items).map Item.part).flatMap written = t.toRoll.text.toList := by
  by_cases hnone : sizes = []
  · subst hnone
    have hne : flatSum items ≠ 0 :=
      hnames.resolve_left fun ⟨s, hm⟩ => List.not_mem_nil ((h.mem_iff s).2 hm)
    simpa [Expression.merged, mergedDice, mergedFlat, hne] using
      h.tallies.text_flat hne h.quantities
  · have hsome : t.toRoll.quantities.toList ≠ [] := by simpa [h.quantities] using hnone
    rw [h.tallies.text_dice hsome, List.flatMap_map, Expression.merged, List.flatMap_append,
      ← h.plus_dice hnone]
    exact .inl rfl

lemma Lists.components_text (h : Lists t items sizes) (hnames : Names items) :
    components (readable t.toRoll.text) = (Expression.merged sizes items).map Item.part := by
  have htext := h.text_written hnames
  have hplain : ∀ c ∈ t.toRoll.text.toList, c ∈ plain := by
    have hwritten : ∀ c ∈ ((Expression.merged sizes items).map Item.part).flatMap written,
        c ∈ plain := by
      simpa [List.mem_flatMap] using fun c item _ hc => plain_written_part c hc
    rcases htext with htext | htext
    · rw [htext] at hwritten
      exact (List.forall_mem_cons.1 hwritten).2
    · exact htext ▸ hwritten
  have hwritten : components (((Expression.merged sizes items).map Item.part).flatMap written) =
      (Expression.merged sizes items).map Item.part :=
    components_written (by simpa using fun item _ => whole_part)
  rw [readable_of_plain hplain]
  refine Eq.trans ?_ hwritten
  rcases htext with htext | htext
  · rw [htext, components_plus]
  · rw [htext]

end Texts

section Reading

variable {t : Tally} {items : List Item} {sizes : List ℕ}

lemma Tallies.one_le (h : Tallies t items) (hvalid : t.toRoll.fault? = none) {sides : ℕ}
    (hm : Mentions sides items) : 1 ≤ sides := by
  have hq := Roll.fault?_eq_none.1 hvalid _ ((h.mem_quantities _).2 ⟨sides, hm, rfl⟩)
  have hone := (Quantity.isValid_iff.1 hq).1
  rw [(h.toInt_counted hm).1] at hone
  omega

lemma Lists.legible_dice (h : Lists t items sizes) (hvalid : t.toRoll.fault? = none) :
    ∀ item ∈ mergedDice sizes items, item.Legible := by
  intro item hitem
  obtain ⟨s, hs, rfl⟩ := List.mem_map.1 hitem
  have hm := (h.mem_iff s).1 hs
  exact ⟨h.tallies.inRange.counts s, h.tallies.one_le hvalid hm, h.tallies.small s hm⟩

lemma Lists.legible_merged (h : Lists t items sizes) (hvalid : t.toRoll.fault? = none)
    (hne : flatSum items ≠ -2147483648) :
    ∀ item ∈ Expression.merged sizes items, item.Legible := by
  have hlow := h.tallies.inRange.low
  have hhigh := h.tallies.inRange.high
  rw [Expression.merged, List.forall_mem_append]
  refine ⟨h.legible_dice hvalid, ?_⟩
  rw [mergedFlat]
  split
  · simp
  · rw [List.forall_mem_singleton]
    change (flatSum items).natAbs ≤ 2147483647
    omega

lemma Lists.accepts (h : Lists t items sizes) (hnames : Names items)
    (hvalid : t.toRoll.fault? = none) (hne : flatSum items ≠ -2147483648) :
    Accepts t.toRoll.text (Expression.merged sizes items) where
  reads := by
    rw [h.components_text hnames]
    exact forall₂_reads_part (h.legible_merged hvalid hne)
  inRange prior hprior := inRange_of_prefix hprior h.merged.inRange
  names := h.names_merged.2 hnames

lemma addPart_least (t : Tally) :
    t.addPart (Item.flat (-2147483648)).part = .error (.malformed "2147483648") := rfl

lemma Lists.run_least (h : Lists t items sizes) (hnames : Names items)
    (hvalid : t.toRoll.fault? = none) (hleast : flatSum items = -2147483648) :
    (components (readable t.toRoll.text)).foldlM Tally.addPart {} =
      .error (.malformed "2147483648") := by
  have hmerged : Expression.merged sizes items =
      mergedDice sizes items ++ [.flat (-2147483648)] := by
    rw [Expression.merged, mergedFlat, hleast]
    rfl
  have hranges : ∀ prior, prior <+: mergedDice sizes items → InRange ([] ++ prior) :=
    fun prior hprior => inRange_of_prefix
      (hmerged ▸ hprior.trans (List.prefix_append _ _)) h.merged.inRange
  obtain ⟨u, hu⟩ := tallies_nil.exists_run (forall₂_reads_part (h.legible_dice hvalid)) hranges
  rw [h.components_text hnames, hmerged, List.map_append, List.foldlM_append, hu]
  change [(Item.flat (-2147483648)).part].foldlM Tally.addPart u = _
  rw [List.foldlM_cons, addPart_least]
  rfl

def leastModifier : Modifier := ⟨Float.ofInt (-2147483648), none⟩

lemma Tallies.leastModifier_mem (h : Tallies t items) :
    leastModifier ∈ t.toRoll.modifiers ↔ flatSum items = -2147483648 := by
  rw [Sorted.mem_def, h.modifiers]
  constructor
  · intro hmem
    split at hmem
    · cases hmem
    · have hvalue : Float.ofInt (-2147483648) = Float.ofInt (flatSum items) :=
        congrArg Modifier.value (List.mem_singleton.1 hmem)
      have hwhole := congrArg Decimal.whole? hvalue
      rw [Decimal.whole?_ofInt (by decide), Decimal.whole?_ofInt h.inRange.natAbs_lt] at hwhole
      exact (Option.some.inj hwhole).symm
  · intro hleast
    rw [hleast]
    exact List.mem_singleton.2 rfl

end Reading

end Expression

open Expression

/-- The text of a roll that has been read is read as that roll again, but for one flat number: the
least that a word holds can be the sum of others, and its digits by themselves are too large. -/
theorem printed_rolls_read_again {text : String} {r : Roll} (h : Roll.parse text = .ok r) :
    (leastModifier ∉ r.modifiers → Roll.parse r.text = .ok r) ∧
      (leastModifier ∈ r.modifiers → Roll.parse r.text = .error (.malformed "2147483648")) := by
  have hvalid := Roll.fault?_of_parse h
  obtain ⟨t, items, haccepts, htallies, rfl⟩ := Roll.parse_eq_ok.1 h
  obtain ⟨sizes, hlists⟩ := htallies.exists_lists
  rw [htallies.leastModifier_mem]
  constructor
  · intro hne
    have haccepts' := hlists.accepts haccepts.names hvalid hne
    exact Roll.parse_eq_ok.2 ⟨t, merged sizes items, haccepts', hlists.merged, rfl⟩
  · intro hleast
    rw [Roll.parse_eq, hlists.run_least haccepts.names hvalid hleast]
    rfl

theorem printed_rolls_read_again_greataxe :
    ∃ r, Roll.parse "D20 - 2 + 2 d20 + 3d6" = .ok r ∧ leastModifier ∉ r.modifiers ∧
      r.text = "3d6+3d20-2" ∧ Roll.parse r.text = .ok r := by
  have hread : Roll.parse "D20 - 2 + 2 d20 + 3d6" = .ok
      { quantities := .ofList [⟨6, 3⟩, ⟨20, 3⟩]
        modifiers := .ofList [⟨Float.ofInt (-2), none⟩] } := by
    decide +kernel
  have hmodifier : leastModifier ∉
      (.ofList [⟨Float.ofInt (-2), none⟩] : Sorted Modifier Modifier.order) := by
    rw [Sorted.mem_def]
    decide +kernel
  exact ⟨_, hread, hmodifier, by decide +kernel, (printed_rolls_read_again hread).1 hmodifier⟩

theorem printed_roll_lost :
    ∃ r, Roll.parse "-2147483647-1" = .ok r ∧ r.text = "-2147483648" ∧
      Roll.parse r.text = .error (.malformed "2147483648") := by
  refine ⟨{ modifiers := .ofList [leastModifier] }, ?_, ?_, ?_⟩
  · decide +kernel
  · decide +kernel
  · decide +kernel

end Tabletop.Dice
