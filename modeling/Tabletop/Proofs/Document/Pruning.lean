import Mathlib.Data.List.Forall2
import Tabletop.Document.Node
import Tabletop.Proofs.Sorted

namespace Tabletop

open Document (Node Decoded Kind)

namespace Json

mutual

/-- Deletes the null entries of all records. The items of lists stay. -/
def dropNulls : Json → Json
  | .list items => .list (dropItems items)
  | .record fields => .record (dropFields fields)
  | j => j

def dropItems : List Json → List Json
  | [] => []
  | j :: js => dropNulls j :: dropItems js

def dropFields : List (String × Json) → List (String × Json)
  | [] => []
  | (_, .null) :: rest => dropFields rest
  | (k, j) :: rest => (k, dropNulls j) :: dropFields rest

end

/-- No record has two entries of one key. -/
inductive Unrepeated : Json → Prop
  | null : Unrepeated .null
  | bool (b : Bool) : Unrepeated (.bool b)
  | number (n : Number) : Unrepeated (.number n)
  | text (s : String) : Unrepeated (.text s)
  | list {items : List Json} : (∀ j ∈ items, Unrepeated j) → Unrepeated (.list items)
  | record {fields : List (String × Json)} : (fields.map Prod.fst).Nodup →
      (∀ f ∈ fields, Unrepeated f.2) → Unrepeated (.record fields)

section Fields

variable {fields rest : List (String × Json)} {k : String} {j : Json}

lemma dropFields_cons (hj : j ≠ .null) :
    dropFields ((k, j) :: rest) = (k, j.dropNulls) :: dropFields rest := by
  cases j with
  | null => exact absurd rfl hj
  | _ => rfl

lemma dropNulls_ne_null (hj : j ≠ .null) : j.dropNulls ≠ .null := by
  cases j with
  | null => exact absurd rfl hj
  | _ => nofun

lemma mem_dropFields {i : Json} :
    (k, i) ∈ dropFields fields ↔ ∃ j, (k, j) ∈ fields ∧ j ≠ .null ∧ j.dropNulls = i := by
  induction fields with
  | nil => simp [dropFields]
  | cons f rest ih =>
    obtain ⟨k', j'⟩ := f
    by_cases hj' : j' = .null
    · subst hj'
      rw [dropFields, ih]
      grind
    · rw [dropFields_cons hj', List.mem_cons, ih]
      grind

lemma keys_dropFields (fields : List (String × Json)) :
    ((dropFields fields).map Prod.fst).Sublist (fields.map Prod.fst) := by
  induction fields with
  | nil => exact .slnil
  | cons f rest ih =>
    obtain ⟨k, j⟩ := f
    by_cases hj : j = .null
    · subst hj
      exact ih.cons k
    · rw [dropFields_cons hj]
      exact ih.cons_cons k

lemma lookup_eq_some_iff (hkeys : (fields.map Prod.fst).Nodup) :
    fields.lookup k = some j ↔ (k, j) ∈ fields := by
  induction fields with
  | nil => simp
  | cons f rest ih =>
    obtain ⟨k', j'⟩ := f
    obtain ⟨hnew, hkeys⟩ := List.nodup_cons.1 hkeys
    rw [List.lookup_cons, List.mem_cons, Prod.mk.injEq]
    split
    · rename_i hk
      obtain rfl : k = k' := eq_of_beq hk
      have hrest : (k, j) ∉ rest := fun hj => hnew (List.mem_map.2 ⟨_, hj, rfl⟩)
      simp [hrest, eq_comm]
    · rename_i hk
      simp [ih hkeys, ne_of_beq_false hk]

lemma lookup_dropFields (hkeys : (fields.map Prod.fst).Nodup) {i : Json} :
    (dropFields fields).lookup k = some i ↔
      ∃ j, fields.lookup k = some j ∧ j ≠ .null ∧ j.dropNulls = i := by
  rw [lookup_eq_some_iff (hkeys.sublist (keys_dropFields fields)), mem_dropFields]
  simp only [lookup_eq_some_iff hkeys]

lemma lookup_dropFields_eq_none (hkeys : (fields.map Prod.fst).Nodup)
    (hempty : ∀ j, fields.lookup k = some j → j = .null) : (dropFields fields).lookup k = none := by
  refine Option.eq_none_iff_forall_ne_some.2 fun i hi => ?_
  obtain ⟨j, hj, hnull, _⟩ := (lookup_dropFields hkeys).1 hi
  exact hnull (hempty j hj)

end Fields

lemma unrepeated_list {items : List Json} :
    Unrepeated (.list items) ↔ ∀ j ∈ items, Unrepeated j := by
  constructor
  · rintro ⟨⟩
    assumption
  · exact .list

lemma unrepeated_record {fields : List (String × Json)} :
    Unrepeated (.record fields) ↔
      (fields.map Prod.fst).Nodup ∧ ∀ f ∈ fields, Unrepeated f.2 := by
  constructor
  · rintro ⟨⟩
    exact ⟨‹_›, ‹_›⟩
  · rintro ⟨hkeys, hfields⟩
    exact .record hkeys hfields

section Sorted

abbrev keyOrder : String × Json → String × Json → Ordering := compareOn Prod.fst

lemma insertField_eq_insertList (k : String) (j : Json) (fields : List (String × Json)) :
    insertField k j fields = Sorted.insertList keyOrder (k, j) fields := by
  induction fields with
  | nil => rfl
  | cons f rest ih =>
    rw [insertField, Sorted.insertList, ih]
    rfl

lemma sortFields_increasing (fields : List (String × Json)) :
    (sortFields fields).Pairwise fun f g => keyOrder f g = .lt := by
  induction fields with
  | nil => exact .nil
  | cons f rest ih =>
    rw [sortFields, insertField_eq_insertList]
    exact Sorted.insertList_increasing _ ih

lemma keys_sortFields_nodup (fields : List (String × Json)) :
    ((sortFields fields).map Prod.fst).Nodup := by
  refine List.pairwise_map.2 ((sortFields_increasing fields).imp fun hlt hkey => ?_)
  simp [keyOrder, compareOn, hkey, Std.ReflCmp.compare_self] at hlt

mutual

lemma unrepeated_sortKeys (j : Json) : j.sortKeys.Unrepeated := by
  cases j with
  | null => exact .null
  | bool b => exact .bool b
  | number n => exact .number n
  | text s => exact .text s
  | list items => exact .list (unrepeated_sortItems items)
  | record fields => exact .record (keys_sortFields_nodup fields) (unrepeated_sortFields fields)

lemma unrepeated_sortItems (items : List Json) : ∀ j ∈ sortItems items, j.Unrepeated := by
  cases items with
  | nil => nofun
  | cons j items =>
    exact List.forall_mem_cons.2 ⟨unrepeated_sortKeys j, unrepeated_sortItems items⟩

lemma unrepeated_sortFields (fields : List (String × Json)) :
    ∀ f ∈ sortFields fields, f.2.Unrepeated := by
  cases fields with
  | nil => nofun
  | cons f rest =>
    intro g hg
    rw [sortFields, insertField_eq_insertList] at hg
    rcases Sorted.eq_or_mem_of_mem_insertList hg with rfl | hg
    · exact unrepeated_sortKeys f.2
    · exact unrepeated_sortFields rest g hg

end

end Sorted

end Json

namespace Document

variable {α β γ δ : Type}

/-- The nodes stand in the same place, and the first holds what the second does without nulls. -/
structure Node.Prunes (m n : Node) : Prop where
  path : m.path = n.path
  json : m.json = n.json.dropNulls
  unrepeated : n.json.Unrepeated

/-- A reader of nodes that cannot tell a null entry from none. -/
def IgnoresNulls (read : Node → Decoded α) : Prop := ∀ m n, m.Prunes n → read m = read n

inductive Decoded.Rel (R : α → β → Prop) : Decoded α → Decoded β → Prop
  | ok {a : α} {b : β} : R a b → Rel R (.ok a) (.ok b)
  | error (e : DecodeError) : Rel R (.error e) (.error e)

section Rel

variable {R : α → β → Prop} {x : Decoded α} {y : Decoded β}

lemma Decoded.Rel.bind {S : γ → δ → Prop} {f : α → Decoded γ} {g : β → Decoded δ} (h : Rel R x y)
    (hfg : ∀ a b, R a b → Rel S (f a) (g b)) : Rel S (x >>= f) (y >>= g) := by
  cases h with
  | ok hab => exact hfg _ _ hab
  | error e => exact .error e

lemma Decoded.Rel.bind_eq {f : α → Decoded γ} {g : β → Decoded γ} (h : Rel R x y)
    (hfg : ∀ a b, R a b → f a = g b) : x >>= f = y >>= g := by
  cases h with
  | ok hab => exact hfg _ _ hab
  | error e => rfl

lemma mapM_eq {read : Node → Decoded α} (hread : IgnoresNulls read) {ms ns : List Node}
    (h : List.Forall₂ Node.Prunes ms ns) : ms.mapM read = ns.mapM read := by
  induction h with
  | nil => rfl
  | cons hm _ ih => rw [List.mapM_cons, List.mapM_cons, hread _ _ hm, ih]

end Rel

namespace Node

variable {n : Node} {fields : List (String × Json)} {key : String} {j : Json}
  (hjson : n.json = .record fields)

include hjson

lemma maybeAt_of_empty (hempty : ∀ j, fields.lookup key = some j → j = .null) :
    n.maybeAt key = .ok none := by
  simp only [Node.maybeAt, Node.dict, hjson, bind, Except.bind]
  split
  · rfl
  · rfl
  · rename_i j hnull hj
    exact absurd (hempty j hj) hnull

lemma maybeAt_of_lookup (hj : fields.lookup key = some j) (hnull : j ≠ .null) :
    n.maybeAt key = .ok (some ⟨n.path ++ [.key key], j⟩) := by
  simp only [Node.maybeAt, Node.dict, hjson, bind, Except.bind, hj]
  cases j with
  | null => exact absurd rfl hnull
  | _ => rfl

lemma positional_of_record (before after : String) :
    n.positional before after = (do
      n.checkPositions before after (fields.map Prod.fst)
      n.numberedFrom before after 1 maxParameters false) := by
  rw [Node.positional, Node.dict, hjson]
  rfl

end Node

lemma Node.prunes_nodesFrom (path : Path) (i : ℕ) {items : List Json}
    (hitems : ∀ j ∈ items, j.Unrepeated) :
    List.Forall₂ Prunes (nodesFrom path i (Json.dropItems items)) (nodesFrom path i items) := by
  induction items generalizing i with
  | nil => exact .nil
  | cons j items ih =>
    obtain ⟨hj, hitems⟩ := List.forall_mem_cons.1 hitems
    exact .cons ⟨rfl, rfl, hj⟩ (ih (i + 1) hitems)

namespace Node.Prunes

variable {m n : Node} (h : m.Prunes n)

include h

lemma fail (d : Defect) : (m.fail d : Decoded α) = n.fail d := by rw [Node.fail, Node.fail, h.path]

lemma unexpectedValue (shown : String) :
    (m.unexpectedValue shown : Decoded α) = n.unexpectedValue shown := h.fail _

lemma unknownCase (case : String) : (m.unknownCase case : Decoded α) = n.unknownCase case := by
  rw [Node.unknownCase, Node.unknownCase, h.path]

lemma kind : Kind.of m.json = .of n.json := by
  rw [h.json]
  cases n.json <;> rfl

lemma unexpected (expected : Kind) :
    (m.unexpected expected : Decoded α) = n.unexpected expected := by
  rw [Node.unexpected, Node.unexpected, h.kind, h.fail]

lemma text : m.text = n.text := by
  rw [Node.text, Node.text, h.json, h.unexpected]
  cases n.json <;> rfl

lemma number : m.number = n.number := by
  rw [Node.number, Node.number, h.json, h.unexpected]
  cases n.json <;> rfl

lemma boolean : m.boolean = n.boolean := by
  rw [Node.boolean, Node.boolean, h.json, h.unexpected]
  cases n.json <;> rfl

lemma integer : m.integer = n.integer := by
  simp only [Node.integer, h.number, h.unexpectedValue]

lemma int32 : m.int32 = n.int32 := by
  simp only [Node.int32, h.integer, h.unexpectedValue]

lemma record {fields : List (String × Json)} (hjson : n.json = .record fields) :
    m.json = .record (Json.dropFields fields) ∧
      (fields.map Prod.fst).Nodup ∧ ∀ f ∈ fields, f.2.Unrepeated := by
  have hfields := h.unrepeated
  rw [hjson] at hfields
  refine ⟨?_, Json.unrepeated_record.1 hfields⟩
  rw [h.json, hjson, Json.dropNulls]

lemma maybeAt (key : String) : (m.maybeAt key).Rel (Option.Rel Prunes) (n.maybeAt key) := by
  cases hjson : n.json with
  | record fields =>
    obtain ⟨hm, hkeys, hfields⟩ := h.record hjson
    by_cases hempty : ∀ j, fields.lookup key = some j → j = .null
    · have hnone := Json.lookup_dropFields_eq_none hkeys hempty
      rw [maybeAt_of_empty hjson hempty, maybeAt_of_empty hm (by simp [hnone])]
      exact .ok .none
    · push Not at hempty
      obtain ⟨j, hj, hnull⟩ := hempty
      have hi := (Json.lookup_dropFields hkeys).2 ⟨j, hj, hnull, rfl⟩
      rw [maybeAt_of_lookup hjson hj hnull, maybeAt_of_lookup hm hi (Json.dropNulls_ne_null hnull),
        h.path]
      exact .ok (.some ⟨rfl, rfl, hfields _ ((Json.lookup_eq_some_iff hkeys).1 hj)⟩)
  | _ =>
    simp only [Node.maybeAt, Node.dict, h.json, hjson, Json.dropNulls, h.unexpected]
    exact .error _

lemma child (key : String) : (m.child key).Rel Prunes (n.child key) := by
  refine (h.maybeAt key).bind fun k l hkl => ?_
  cases hkl with
  | some hkl => exact .ok hkl
  | none =>
    rw [h.fail]
    exact .error _

lemma list : m.list.Rel (List.Forall₂ Prunes) n.list := by
  rw [Node.list, Node.list, h.json, h.unexpected, h.path]
  cases hjson : n.json with
  | list items =>
    have hitems := h.unrepeated
    rw [hjson] at hitems
    exact .ok (prunes_nodesFrom n.path 0 (Json.unrepeated_list.1 hitems))
  | _ =>
    rw [Node.unexpected]
    exact .error _

section Read

variable {read : Node → Decoded α} (hread : IgnoresNulls read) (key : String)

include hread

lemma childThen (g : α → Decoded β) :
    (m.child key >>= fun k => read k >>= g) = (n.child key >>= fun k => read k >>= g) :=
  (h.child key).bind_eq fun _ _ hkl => by rw [hread _ _ hkl]

lemma maybe : m.maybe read key = n.maybe read key := by
  refine (h.maybeAt key).bind_eq fun k l hkl => ?_
  cases hkl with
  | some hkl => simp only [hread _ _ hkl]
  | none => rfl

lemma listAt : m.listAt read key = n.listAt read key := by
  refine (h.maybeAt key).bind_eq fun k l hkl => ?_
  cases hkl with
  | some hkl => exact hkl.list.bind_eq fun _ _ => mapM_eq hread
  | none => rfl

end Read

lemma textAt (key : String) : m.textAt key = n.textAt key :=
  (h.child key).bind_eq fun _ _ hkl => hkl.text

lemma case : m.case = n.case := h.textAt "case"

lemma maybeTextAt (key : String) : m.maybeTextAt key = n.maybeTextAt key :=
  h.maybe (fun _ _ hkl => hkl.text) key

lemma checkPositions (before after : String) {fs : List (String × Json)}
    (hnull : ∀ k, (k, .null) ∈ fs → n.maybeAt k = .ok none) :
    m.checkPositions before after ((Json.dropFields fs).map Prod.fst) =
      n.checkPositions before after (fs.map Prod.fst) := by
  induction fs with
  | nil => rfl
  | cons f rest ih =>
    obtain ⟨k, j⟩ := f
    specialize ih fun k hk => hnull k (.tail _ hk)
    by_cases hj : j = .null
    · -- the key is gone on one side and passed over on the other
      subst hj
      rw [List.map_cons, Node.checkPositions, hnull k (.head _), Json.dropFields, ih]
      cases position? before after k with
      | none => rfl
      | some i =>
        dsimp only
        split <;> rfl
    · rw [Json.dropFields_cons hj, List.map_cons, List.map_cons, Node.checkPositions,
        Node.checkPositions, ih]
      cases position? before after k with
      | none => rfl
      | some i =>
        dsimp only
        split
        · refine (h.maybeAt k).bind_eq fun k l hkl => ?_
          cases hkl with
          | none => rfl
          | some hkl => simp only [hkl.unexpectedValue]
        · rfl

lemma numberedFrom (before after : String) (i count : ℕ) (gap : Bool) :
    (m.numberedFrom before after i count gap).Rel (List.Forall₂ Prunes)
      (n.numberedFrom before after i count gap) := by
  induction count generalizing i gap with
  | zero => exact .ok .nil
  | succ count ih =>
    rw [Node.numberedFrom, Node.numberedFrom]
    refine (h.maybeAt _).bind fun k l hkl => ?_
    cases hkl with
    | none => exact ih _ _
    | some hkl =>
      dsimp only
      split
      · rw [hkl.unexpectedValue]
        exact .error _
      · exact (ih _ _).bind fun _ _ hms => .ok (.cons hkl hms)

lemma positional (before after : String) :
    (m.positional before after).Rel (List.Forall₂ Prunes) (n.positional before after) := by
  cases hjson : n.json with
  | record fields =>
    obtain ⟨hm, hkeys, _⟩ := h.record hjson
    have hnull (k : String) (hk : (k, .null) ∈ fields) : n.maybeAt k = .ok none := by
      refine maybeAt_of_empty hjson fun j hj => ?_
      rw [(Json.lookup_eq_some_iff hkeys).2 hk] at hj
      exact (Option.some.inj hj).symm
    rw [positional_of_record hjson, positional_of_record hm, h.checkPositions before after hnull]
    cases n.checkPositions before after (fields.map Prod.fst) with
    | ok u => exact h.numberedFrom before after 1 maxParameters false
    | error e => exact .error e
  | _ =>
    simp only [Node.positional, Node.dict, h.json, hjson, Json.dropNulls, h.unexpected]
    exact .error _

lemma positionalThen {read : Node → Decoded α} (hread : IgnoresNulls read) (before after : String)
    (g : List α → Decoded β) :
    (m.positional before after >>= fun ms => ms.mapM read >>= g) =
      (n.positional before after >>= fun ms => ms.mapM read >>= g) :=
  (h.positional before after).bind_eq fun _ _ hms => by rw [mapM_eq hread hms]

lemma parameters {read : Node → Decoded α} (hread : IgnoresNulls read) :
    m.parameters read = n.parameters read :=
  (h.positional "parameter" "").bind_eq fun _ _ => mapM_eq hread

end Node.Prunes

lemma ignoresNulls_text : IgnoresNulls Node.text := fun _ _ h => h.text

lemma ignoresNulls_number : IgnoresNulls Node.number := fun _ _ h => h.number

lemma ignoresNulls_boolean : IgnoresNulls Node.boolean := fun _ _ h => h.boolean

lemma ignoresNulls_int32 : IgnoresNulls Node.int32 := fun _ _ h => h.int32

end Document

end Tabletop
