import Mathlib.Data.List.Induction
import Mathlib.Data.List.Nodup
import Tabletop.Proofs.Document.Pruning
import Tabletop.Proofs.Document.WellFormed
import Tabletop.Proofs.Json.Number

namespace Tabletop

open Document (Node Decoded)

section Digits

variable {c : Char} {ds : List Char}

lemma exists_digitChar (h : c.isDigit = true) : ∃ d < 10, d.digitChar = c := by
  obtain ⟨hlow, hhigh⟩ := Char.isDigit_iff_toNat.1 h
  change 48 ≤ c.toNat at hlow
  change c.toNat ≤ 57 at hhigh
  refine ⟨c.toNat - 48, by omega, Char.toNat_inj.1 ?_⟩
  rw [Nat.toNat_digitChar_of_lt_ten (by omega)]
  omega

lemma toDigits_ofDigitChars (hne : ds ≠ []) (hdigits : ∀ c ∈ ds, c.isDigit = true)
    (hzero : ds.head? ≠ some '0') : Nat.toDigits 10 (Nat.ofDigitChars 10 ds 0) = ds := by
  induction ds using List.reverseRecOn with
  | nil => exact absurd rfl hne
  | append_singleton ds c ih =>
    obtain ⟨d, hd, rfl⟩ := exists_digitChar (hdigits c (by simp))
    rw [Nat.ofDigitChars_append, Nat.ofDigitChars_cons_digitChar_of_lt_ten hd, Nat.ofDigitChars_nil]
    by_cases hds : ds = []
    · subst hds
      rw [Nat.ofDigitChars_nil, Nat.mul_zero, Nat.zero_add, Nat.toDigits_of_lt_base hd]
      rfl
    · rw [List.head?_append_of_ne_nil _ hds] at hzero
      have ih := ih hds (fun c hc => hdigits c (List.mem_append_left _ hc)) hzero
      have hpos : 0 < Nat.ofDigitChars 10 ds 0 := by
        refine Nat.pos_of_ne_zero fun h => hzero ?_
        rw [← ih, h, Nat.toDigits_zero]
        rfl
      rw [← Nat.toDigits_append_toDigits (by decide) hpos hd, ih, Nat.toDigits_of_lt_base hd]

lemma word?_digits (hne : ds ≠ []) (hdigits : ∀ c ∈ ds, c.isDigit = true) :
    Text.word? ds = if UInt64.size ≤ Nat.ofDigitChars 10 ds 0 then none
      else some (UInt64.ofNat (Nat.ofDigitChars 10 ds 0)) := by
  have hvalue : ds.foldl (fun n c => n * 10 + (c.toNat - 48)) 0 = Nat.ofDigitChars 10 ds 0 := by
    simp only [Nat.ofDigitChars, Nat.mul_comm 10]
    rfl
  have hall : ds.all Char.isDigit = true := by simpa using hdigits
  have hplus : ∀ rest, ds ≠ '+' :: rest := by
    rintro rest rfl
    exact absurd (hdigits '+' (by simp)) (by decide)
  rw [Text.word?, hvalue]
  · simp [hne, hall]
  · exact hplus

end Digits

namespace Document

variable {before after key : String} {ds : List Char} {fields : List (String × Json)}

/-- The digits of a key that is put together from `before`, digits and `after`. -/
def digits? (before after key : String) : Option (List Char) :=
  let ds := (key.toList.drop before.length).take (key.length - before.length - after.length)
  if key.toList = before.toList ++ ds ++ after.toList ∧ ds ≠ [] ∧ ds.all Char.isDigit then some ds
  else none

lemma digits?_eq_some : digits? before after key = some ds ↔
    key.toList = before.toList ++ ds ++ after.toList ∧ ds ≠ [] ∧ ∀ c ∈ ds, c.isDigit = true := by
  constructor
  · intro h
    rw [digits?] at h
    split at h
    · rename_i hkey
      cases h
      simpa using hkey
    · cases h
  · rintro ⟨hkey, hne, hdigits⟩
    have hmiddle : (key.toList.drop before.length).take
        (key.length - before.length - after.length) = ds := by
      simp [← String.length_toList, hkey]
    rw [digits?, hmiddle, if_pos ⟨hkey, hne, by simpa using hdigits⟩]

lemma position?_of_digits? (h : digits? before after key = some ds) :
    Node.position? before after key = Text.word? ds := by
  obtain ⟨hkey, hne, hdigits⟩ := digits?_eq_some.1 h
  simp [Node.position?, hkey]

/-- The digits in the keys of those entries that are numbered so and are not null. -/
def numbered (before after : String) (fields : List (String × Json)) : List (List Char) :=
  fields.filterMap fun (key, j) => if Kind.of j = .null then none else digits? before after key

lemma mem_numbered : ds ∈ numbered before after fields ↔
    ∃ key j, (key, j) ∈ fields ∧ j ≠ .null ∧ digits? before after key = some ds := by
  have hnull (j : Json) : Kind.of j = .null ↔ j = .null := by cases j <;> simp [Kind.of]
  simp [numbered, List.mem_filterMap, hnull]

lemma nodup_numbered (hkeys : (fields.map Prod.fst).Nodup) :
    (numbered before after fields).Nodup := by
  refine List.Pairwise.filterMap _ (fun f g hfg ds hf es hg heq => ?_) (List.pairwise_map.1 hkeys)
  subst heq
  simp only [Option.ite_none_left_eq_some, digits?_eq_some] at hf hg
  exact hfg (String.toList_inj.1 (hf.2.1.trans hg.2.1.symm))

/-- The digits write a number that no word holds, or that of a parameter with zeros in front. -/
def Overlooked (ds : List Char) : Prop :=
  let n := Nat.ofDigitChars 10 ds 0
  UInt64.size ≤ n ∨ 1 ≤ n ∧ n ≤ maxParameters ∧ ds.head? = some '0'

instance : DecidablePred Overlooked := fun _ => inferInstanceAs (Decidable (_ ∨ _))

lemma not_overlooked_toDigits {k : ℕ} (hk : k < maxParameters) :
    ¬ Overlooked (Nat.toDigits 10 (k + 1)) := by
  have hsize : maxParameters < UInt64.size := by decide
  rintro (h | ⟨_, _, hhead⟩)
  · rw [Nat.ofDigitChars_ten_toDigits] at h
    omega
  · exact absurd (Json.head?_toDigits _ hhead) (Nat.succ_ne_zero k)

lemma digits?_toString (n : ℕ) :
    digits? before after (before ++ toString n ++ after) = some (Nat.toDigits 10 n) := by
  refine digits?_eq_some.2 ⟨?_, Nat.toDigits_ne_nil, fun c hc => ?_⟩
  · simp
  · exact Nat.isDigit_of_mem_toDigits (by decide) (by decide) hc

lemma key_of_digits? {n : ℕ} (h : digits? before after key = some (Nat.toDigits 10 n)) :
    key = before ++ toString n ++ after := by
  refine String.toList_inj.1 ((digits?_eq_some.1 h).1.trans ?_)
  simp

namespace Node

variable {n m : Node} {ms : List Node} {i count : ℕ} {gap : Bool} {keys : List String}

lemma exists_of_maybeAt (hjson : n.json = .record fields) (h : n.maybeAt key = .ok (some m)) :
    ∃ j, fields.lookup key = some j ∧ j ≠ .null ∧ m = ⟨n.path ++ [.key key], j⟩ := by
  by_cases hempty : ∀ j, fields.lookup key = some j → j = .null
  · rw [maybeAt_of_empty hjson hempty] at h
    cases h
  · push Not at hempty
    obtain ⟨j, hj, hnull⟩ := hempty
    rw [maybeAt_of_lookup hjson hj hnull] at h
    cases h
    exact ⟨j, hj, hnull, rfl⟩

lemma maybeAt_of_checkPositions (h : n.checkPositions before after keys = .ok ())
    (hkey : key ∈ keys) {p : UInt64} (hp : position? before after key = some p)
    (hrange : p = 0 ∨ maxParameters < p.toNat) : n.maybeAt key = .ok none := by
  induction keys with
  | nil => cases hkey
  | cons k keys ih =>
    rw [checkPositions] at h
    rcases List.mem_cons.1 hkey with rfl | hkey
    · rw [hp] at h
      simp only [hrange, if_true] at h
      obtain ⟨m, hm, h⟩ := bind_eq_ok.1 h
      cases m with
      | none => exact hm
      | some m => cases h
    · refine ih ?_ hkey
      split at h
      · split at h
        · obtain ⟨m, _, h⟩ := bind_eq_ok.1 h
          cases m with
          | none => exact h
          | some m => cases h
        · exact h
      · exact h

lemma maybeAt_of_numberedFrom (h : n.numberedFrom before after i count gap = .ok ms) :
    (gap = true → ms = []) ∧
      ∀ k < count, n.maybeAt (before ++ toString (i + k) ++ after) = .ok ms[k]? := by
  induction count generalizing i gap ms with
  | zero =>
    cases h
    simp
  | succ count ih =>
    rw [numberedFrom] at h
    obtain ⟨m, hm, h⟩ := bind_eq_ok.1 h
    cases m with
    | none =>
      obtain ⟨hnil, hrest⟩ := ih h
      obtain rfl := hnil rfl
      refine ⟨fun _ => rfl, fun k hk => ?_⟩
      cases k with
      | zero => exact hm
      | succ k =>
        rw [show i + (k + 1) = i + 1 + k by omega]
        exact hrest k (by omega)
    | some m =>
      dsimp only at h
      split at h
      · cases h
      · rename_i hgap
        obtain ⟨rest, hrest, h⟩ := bind_eq_ok.1 h
        cases h
        refine ⟨fun h => absurd h hgap, fun k hk => ?_⟩
        cases k with
        | zero => exact hm
        | succ k =>
          rw [show i + (k + 1) = i + 1 + k by omega]
          exact (ih hrest).2 k (by omega)

lemma exists_of_mem_numbered (hjson : n.json = .record fields)
    (hkeys : (fields.map Prod.fst).Nodup) (h : ds ∈ numbered before after fields) :
    ∃ key m, key ∈ fields.map Prod.fst ∧ digits? before after key = some ds ∧
      n.maybeAt key = .ok (some m) := by
  obtain ⟨key, j, hmem, hnull, hds⟩ := mem_numbered.1 h
  have hj := (Json.lookup_eq_some_iff hkeys).2 hmem
  exact ⟨key, _, List.mem_map_of_mem hmem, hds, maybeAt_of_lookup hjson hj hnull⟩

lemma toDigits_mem_numbered (hjson : n.json = .record fields)
    (hkeys : (fields.map Prod.fst).Nodup) {p : ℕ}
    (h : n.maybeAt (before ++ toString p ++ after) = .ok (some m)) :
    Nat.toDigits 10 p ∈ numbered before after fields := by
  obtain ⟨j, hj, hnull, _⟩ := exists_of_maybeAt hjson h
  exact mem_numbered.2 ⟨_, j, (Json.lookup_eq_some_iff hkeys).1 hj, hnull, digits?_toString p⟩

lemma exists_place (hchecked : n.checkPositions before after keys = .ok ()) (hkey : key ∈ keys)
    (hds : digits? before after key = some ds) (hm : n.maybeAt key = .ok (some m))
    (hheeded : ¬ Overlooked ds) : ∃ k < maxParameters, ds = Nat.toDigits 10 (k + 1) := by
  obtain ⟨_, hne, hdigits⟩ := digits?_eq_some.1 hds
  obtain ⟨hsize, hzero⟩ := not_or.1 hheeded
  have hsmall : Nat.ofDigitChars 10 ds 0 < UInt64.size := Nat.lt_of_not_le hsize
  have hp : position? before after key = some (UInt64.ofNat (Nat.ofDigitChars 10 ds 0)) := by
    rw [position?_of_digits? hds, word?_digits hne hdigits, if_neg hsize]
  have hvalue := UInt64.toNat_ofNat_of_lt' hsmall
  have hrange : ¬ (UInt64.ofNat (Nat.ofDigitChars 10 ds 0) = 0 ∨
      maxParameters < (UInt64.ofNat (Nat.ofDigitChars 10 ds 0)).toNat) := by
    intro hrange
    rw [maybeAt_of_checkPositions hchecked hkey hp hrange] at hm
    cases hm
  obtain ⟨hpos, hle⟩ := not_or.1 hrange
  rw [hvalue, Nat.not_lt] at hle
  have hpos : Nat.ofDigitChars 10 ds 0 ≠ 0 := fun h => hpos (by rw [h]; rfl)
  refine ⟨Nat.ofDigitChars 10 ds 0 - 1, by omega, ?_⟩
  rw [Nat.sub_add_cancel (Nat.pos_of_ne_zero hpos)]
  refine (toDigits_ofDigitChars hne hdigits fun h => hzero ⟨?_, hle, h⟩).symm
  exact Nat.pos_of_ne_zero hpos

lemma entries_of_positional (hjson : n.json = .record fields)
    (h : n.positional before after = .ok ms) :
    ms.length ≤ maxParameters ∧
      n.checkPositions before after (fields.map Prod.fst) = .ok () ∧
      ∀ k < maxParameters, n.maybeAt (before ++ toString (k + 1) ++ after) = .ok ms[k]? := by
  rw [positional_of_record hjson] at h
  obtain ⟨_, hchecked, hread⟩ := bind_eq_ok.1 h
  refine ⟨length_numberedFrom hread, hchecked, fun k hk => ?_⟩
  rw [Nat.add_comm]
  exact (maybeAt_of_numberedFrom hread).2 k hk

lemma heeded_of_positional (hjson : n.json = .record fields)
    (hkeys : (fields.map Prod.fst).Nodup) (h : n.positional before after = .ok ms) :
    ((numbered before after fields).filter (¬ Overlooked ·)).Perm
      ((List.range ms.length).map fun k => Nat.toDigits 10 (k + 1)) := by
  obtain ⟨hlength, hchecked, hentry⟩ := entries_of_positional hjson h
  have hnumerals : ((List.range ms.length).map fun k => Nat.toDigits 10 (k + 1)).Nodup := by
    refine List.nodup_range.map fun k l hkl => ?_
    have hvalue := congrArg (Nat.ofDigitChars 10 · 0) hkl
    simpa only [Nat.ofDigitChars_ten_toDigits, Nat.add_right_cancel_iff] using hvalue
  refine (List.perm_ext_iff_of_nodup ((nodup_numbered hkeys).filter _) hnumerals).2 fun ds => ?_
  simp only [List.mem_filter, decide_eq_true_eq, List.mem_map, List.mem_range]
  constructor
  · rintro ⟨hds, hheeded⟩
    obtain ⟨key, m, hkey, hdigits, hm⟩ := exists_of_mem_numbered hjson hkeys hds
    obtain ⟨k, hk, rfl⟩ := exists_place hchecked hkey hdigits hm hheeded
    refine ⟨k, ?_, rfl⟩
    rw [key_of_digits? hdigits, hentry k hk] at hm
    exact (List.getElem?_eq_some_iff.1 (Except.ok.inj hm)).1
  · rintro ⟨k, hk, rfl⟩
    have hk' : k < maxParameters := by omega
    have hm : n.maybeAt (before ++ toString (k + 1) ++ after) = .ok (some ms[k]) := by
      rw [hentry k hk', List.getElem?_eq_getElem hk]
    exact ⟨toDigits_mem_numbered hjson hkeys hm, not_overlooked_toDigits hk'⟩

end Node

/-- The second reader reads `args` with the first one, in their order, from the entries that are
numbered between `before` and `after`. -/
inductive Enumerates : {α β : Type} → String → String → (Node → Decoded β) → (Node → Decoded α) →
    (α → List β) → Prop
  | invocation : Enumerates "parameter" "" DataRef.decode Invocation.decode Invocation.arguments
  | statement : Enumerates "parameter" "" Parameter.decode Statement.decode Statement.parameters
  | row : Enumerates "parameter" "" Value.decode Row.decode Row.parameters
  | signature :
    Enumerates "parameter" "_type" ValueType.decode Signature.decode Signature.parameters

variable {α β : Type} {item : Node → Decoded β} {read : Node → Decoded α} {args : α → List β}

lemma Enumerates.positional (h : Enumerates before after item read args) {n : Node} {x : α}
    (hx : read n = .ok x) :
    ∃ ms, n.positional before after = .ok ms ∧ ms.mapM item = .ok (args x) := by
  cases h with
  | invocation =>
    simp only [Invocation.decode, Node.parameters, bind_eq_ok] at hx
    obtain ⟨program, _, arguments, ⟨ms, hms, harguments⟩, hx⟩ := hx
    cases hx
    exact ⟨ms, hms, harguments⟩
  | statement =>
    simp only [Statement.decode, Node.parameters, bind_eq_ok] at hx
    obtain ⟨binding, _, function, _, parameters, ⟨ms, hms, hparameters⟩, hx⟩ := hx
    cases hx
    exact ⟨ms, hms, hparameters⟩
  | row =>
    simp only [Row.decode, Node.parameters, bind_eq_ok] at hx
    obtain ⟨parameters, ⟨ms, hms, hparameters⟩, m, _, result, _, hx⟩ := hx
    cases hx
    exact ⟨ms, hms, hparameters⟩
  | signature =>
    simp only [Signature.decode, bind_eq_ok] at hx
    obtain ⟨ms, hms, parameters, hparameters, m, _, result, _, hx⟩ := hx
    cases hx
    exact ⟨ms, hms, hparameters⟩

end Document

/-- The numbered entries of a record are accounted for wherever parameters are read from it. Those
that are not overlooked are the parameters, each read from the entry of its number, or the record is
refused; so where nothing is overlooked there are as many parameters as numbered entries. -/
theorem numbered_entries_accounted {α β : Type} {before after : String} {item : Node → Decoded β}
    {read : Node → Decoded α} {args : α → List β}
    (h : Document.Enumerates before after item read args) {n : Node}
    {fields : List (String × Json)} (hjson : n.json = .record fields)
    (hkeys : (fields.map Prod.fst).Nodup) :
    let given := Document.numbered before after fields
    let overlooked := given.filter (Document.Overlooked ·)
    let heeded := given.filter (¬ Document.Overlooked ·)
    (∀ x, read n = .ok x → (args x).length + overlooked.length = given.length ∧
      ∀ k a, (args x)[k]? = some a →
        let key := before ++ toString (k + 1) ++ after
        ∃ j, fields.lookup key = some j ∧ j ≠ .null ∧ item ⟨n.path ++ [.key key], j⟩ = .ok a) ∧
    ((¬ ∃ count ≤ maxParameters,
      heeded.Perm ((List.range count).map fun k => Nat.toDigits 10 (k + 1))) →
        ∃ e, read n = .error e) := by
  intro given overlooked heeded
  constructor
  · intro x hx
    obtain ⟨ms, hms, hargs⟩ := h.positional hx
    obtain ⟨hlength, _, hentry⟩ := Document.Node.entries_of_positional hjson hms
    constructor
    · have hheeded := (Document.Node.heeded_of_positional hjson hkeys hms).length_eq
      rw [List.length_map, List.length_range, ← length_of_mapM_eq_ok hargs] at hheeded
      rw [← hheeded, Nat.add_comm, given.length_eq_length_filter_add (Document.Overlooked ·)]
      simp only [decide_not, overlooked]
      rfl
    · intro k a ha key
      obtain ⟨m, hm, hitem⟩ := getElem?_of_mapM_eq_ok hargs ha
      have hk : k < ms.length := (List.getElem?_eq_some_iff.1 hm).1
      have hat := hentry k (by omega)
      rw [hm] at hat
      obtain ⟨j, hj, hnull, rfl⟩ := Document.Node.exists_of_maybeAt hjson hat
      exact ⟨j, hj, hnull, hitem⟩
  · intro hnone
    cases hx : read n with
    | error e => exact ⟨e, rfl⟩
    | ok x =>
      obtain ⟨ms, hms, _⟩ := h.positional hx
      obtain ⟨hlength, _⟩ := Document.Node.entries_of_positional hjson hms
      exact absurd ⟨_, hlength, Document.Node.heeded_of_positional hjson hkeys hms⟩ hnone

namespace Calling

def number (x : Float) : Json :=
  .record [("case", .text "data_reference_number"),
    ("value", .record [("case", .text "number_literal"), ("value", .number (.float x))])]

def call : List (String × Json) :=
  [("parameter002", number 5), ("parameter1", number 3), ("parameter2", number 4),
    ("parameter7", .null), ("program_id", .text "add")]

def add : Invocation := ⟨"add", [.number (.literal 3), .number (.literal 4)]⟩

def gap : List (String × Json) :=
  [("parameter1", number 3), ("parameter3", number 4), ("program_id", .text "add")]

def dropped : List (String × Json) :=
  [("parameter18446744073709551616", number 3), ("program_id", .text "add")]

lemma decode_call : Invocation.decode { json := .record call } = .ok add := by decide +kernel

lemma numbered_gap : ¬ ∃ count ≤ maxParameters,
    ((Document.numbered "parameter" "" gap).filter (¬ Document.Overlooked ·)).Perm
      ((List.range count).map fun k => Nat.toDigits 10 (k + 1)) := by
  decide +kernel

end Calling

open Calling in
theorem numbered_entries_accounted_add :
    let given := Document.numbered "parameter" "" call
    Invocation.decode { json := .record call } = .ok add ∧
      (call.map Prod.fst).Nodup ∧ (gap.map Prod.fst).Nodup ∧
      2 + (given.filter (Document.Overlooked ·)).length = given.length ∧
      (∃ j, call.lookup "parameter2" = some j ∧ j ≠ .null ∧
        DataRef.decode ⟨[.key "parameter2"], j⟩ = .ok (.number (.literal 4))) ∧
      (¬ ∃ count ≤ maxParameters,
        ((Document.numbered "parameter" "" gap).filter (¬ Document.Overlooked ·)).Perm
          ((List.range count).map fun k => Nat.toDigits 10 (k + 1))) ∧
      ∃ e, Invocation.decode { json := .record gap } = .error e := by
  intro given
  have hcall : (call.map Prod.fst).Nodup := by decide
  have hgap : (gap.map Prod.fst).Nodup := by decide
  obtain ⟨haccounted, _⟩ :=
    numbered_entries_accounted .invocation (n := { json := .record call }) rfl hcall
  obtain ⟨_, hrefused⟩ :=
    numbered_entries_accounted .invocation (n := { json := .record gap }) rfl hgap
  obtain ⟨hcount, hread⟩ := haccounted add decode_call
  exact ⟨decode_call, hcall, hgap, hcount, hread 1 _ rfl, numbered_gap, hrefused numbered_gap⟩

open Calling in
theorem numbered_argument_dropped :
    Invocation.decode { json := .record dropped } = .ok ⟨"add", []⟩ ∧
      (dropped.map Prod.fst).Nodup ∧ (Document.numbered "parameter" "" dropped).length = 1 := by
  decide +kernel

end Tabletop
