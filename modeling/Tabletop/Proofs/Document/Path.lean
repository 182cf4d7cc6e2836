import Tabletop.Document.Node
import Tabletop.Proofs.Results

/-! Where the path of a decoding error leads: to a value of the document of which the error says
something true. -/

namespace Tabletop

open Document (Path Step Kind Node Decoded DecodeError)

variable {α β : Type} {root : Json} {n : Node}

namespace Document

def Step.of : Step → Json → Option Json
  | .key k, .record fields => fields.lookup k
  | .index i, .list items => items[i]?
  | _, _ => none

end Document

def Json.follow (j : Json) (p : Path) : Option Json := p.foldlM (fun j s => s.of j) j

lemma Json.follow_append {j : Json} {p q : Path} :
    j.follow (p ++ q) = (j.follow p).bind (·.follow q) := List.foldlM_append

namespace Document

def DecodeError.TrueOf (e : DecodeError) (j : Json) : Prop :=
  match e.defect with
  | .kind expected found => found = .of j ∧ found ≠ expected
  | .missingKey key =>
    ∃ fields, j = .record fields ∧ (fields.lookup key = none ∨ fields.lookup key = some .null)
  | .unknownCase case => e.path.getLast? = some (.key "case") ∧ j = .text case
  | .value _ => j ≠ .null

/-- The path of the error leads to a value of the document that the error is right about. -/
def DecodeError.Traces (root : Json) (e : DecodeError) : Prop :=
  ∃ j, root.follow e.path = some j ∧ e.TrueOf j

def Decoded.Locates (root : Json) (good : α → Prop) (x : Decoded α) : Prop :=
  (∀ a, x = .ok a → good a) ∧ ∀ e, x = .error e → e.Traces root

section Locates

variable {mid good : α → Prop}

lemma locates_pure {a : α} (h : good a) : Decoded.Locates root good (pure a) := by
  constructor
  · intro b hb
    cases hb
    exact h
  · intro e he
    cases he

lemma locates_error {e : DecodeError} (h : e.Traces root) :
    Decoded.Locates root good (.error e) := by
  constructor
  · intro a ha
    cases ha
  · intro e' he
    cases he
    exact h

lemma Decoded.Locates.bind {good : β → Prop} {x : Decoded α} {f : α → Decoded β}
    (hx : x.Locates root mid) (hf : ∀ a, mid a → (f a).Locates root good) :
    Decoded.Locates root good (x >>= f) := by
  cases x with
  | error e => exact locates_error (hx.2 e rfl)
  | ok a => exact hf a (hx.1 a rfl)

lemma Decoded.Locates.mono {x : Decoded α} (hx : x.Locates root mid) (h : ∀ a, mid a → good a) :
    x.Locates root good := ⟨fun a ha => h a (hx.1 a ha), hx.2⟩

lemma locates_mapM {read : Node → Decoded α} {ms : List Node}
    (h : ∀ m ∈ ms, (read m).Locates root fun _ => True) :
    Decoded.Locates root (fun _ => True) (ms.mapM read) := by
  induction ms with
  | nil => exact locates_pure trivial
  | cons m ms ih =>
    rw [List.mapM_cons]
    refine (h m (by simp)).bind fun a _ => ?_
    exact (ih fun k hk => h k (by simp [hk])).bind fun as _ => locates_pure trivial

end Locates

namespace Node

def At (root : Json) (n : Node) : Prop := root.follow n.path = some n.json

/-- The node stands where its path leads to, and there is something there. -/
structure Present (root : Json) (n : Node) : Prop where
  stands : n.At root
  filled : n.json ≠ .null

end Node

/-- A reader of nodes whose errors trace back, whatever the document. -/
def Faithful (read : Node → Decoded α) : Prop :=
  ∀ root n, n.At root → (read n).Locates root fun _ => True

namespace Node

lemma At.fail {d : Defect} {good : α → Prop} (hn : n.At root)
    (h : DecodeError.TrueOf ⟨n.path, d⟩ n.json) : (n.fail d : Decoded α).Locates root good :=
  locates_error ⟨n.json, hn, h⟩

lemma At.unexpected {expected : Kind} {good : α → Prop} (hn : n.At root)
    (h : .of n.json ≠ expected) : (n.unexpected expected : Decoded α).Locates root good :=
  hn.fail ⟨rfl, h⟩

lemma Present.unexpectedValue {shown : String} {good : α → Prop} (hn : n.Present root) :
    (n.unexpectedValue shown : Decoded α).Locates root good := hn.stands.fail hn.filled

lemma At.step {s : Step} {j : Json} (hn : n.At root) (hj : s.of n.json = some j) :
    (⟨n.path ++ [s], j⟩ : Node).At root := by
  rw [At, Json.follow_append, hn, Option.bind_some]
  simpa [Json.follow] using hj

lemma At.dict (hn : n.At root) : n.dict.Locates root fun fields => n.json = .record fields := by
  rw [Node.dict]
  cases hjson : n.json with
  | record fields => exact locates_pure rfl
  | _ => exact hn.unexpected (by rw [hjson]; nofun)

def IsDict (n : Node) : Prop := ∃ fields, n.json = .record fields

lemma At.present (hn : n.At root) (hdict : n.IsDict) : n.Present root := by
  obtain ⟨fields, hjson⟩ := hdict
  exact ⟨hn, by simp [hjson]⟩

lemma At.maybeAt (hn : n.At root) (key : String) :
    (n.maybeAt key).Locates root fun
      | none => ∃ fields, n.json = .record fields ∧
          (fields.lookup key = none ∨ fields.lookup key = some .null)
      | some m => n.IsDict ∧ m.Present root ∧ m.path = n.path ++ [.key key] := by
  refine hn.dict.bind fun fields hjson => ?_
  split
  · rename_i hnone
    exact locates_pure ⟨fields, hjson, .inl hnone⟩
  · rename_i hnull
    exact locates_pure ⟨fields, hjson, .inr hnull⟩
  · rename_i j hnull hj
    refine locates_pure ⟨⟨fields, hjson⟩, ⟨hn.step ?_, hnull⟩, rfl⟩
    rw [hjson]
    exact hj

lemma At.child (hn : n.At root) (key : String) :
    (n.child key).Locates root fun m => m.Present root ∧ m.path = n.path ++ [.key key] := by
  refine (hn.maybeAt key).bind fun m hm => ?_
  cases m with
  | none => exact hn.fail hm
  | some m => exact locates_pure hm.2

lemma At.text (hn : n.At root) : n.text.Locates root fun s => n.json = .text s := by
  rw [Node.text]
  cases hjson : n.json with
  | text s => exact locates_pure rfl
  | _ => exact hn.unexpected (by rw [hjson]; nofun)

lemma At.number (hn : n.At root) : n.number.Locates root fun _ => True := by
  rw [Node.number]
  cases hjson : n.json with
  | number x => exact locates_pure trivial
  | _ => exact hn.unexpected (by rw [hjson]; nofun)

lemma At.boolean (hn : n.At root) : n.boolean.Locates root fun _ => True := by
  rw [Node.boolean]
  cases hjson : n.json with
  | bool b => exact locates_pure trivial
  | _ => exact hn.unexpected (by rw [hjson]; nofun)

lemma Present.integer (hn : n.Present root) : n.integer.Locates root fun _ => True := by
  refine hn.stands.number.bind fun x _ => ?_
  split
  · exact locates_pure trivial
  · exact hn.unexpectedValue

lemma Present.int32 (hn : n.Present root) : n.int32.Locates root fun _ => True := by
  refine hn.integer.bind fun i _ => ?_
  split
  · exact locates_pure trivial
  · exact hn.unexpectedValue

lemma at_nodesFrom {path : Path} {i : ℕ} {js : List Json}
    (h : ∀ k j, js[k]? = some j → (⟨path ++ [.index (i + k)], j⟩ : Node).At root) :
    ∀ m ∈ nodesFrom path i js, m.At root := by
  induction js generalizing i with
  | nil => simp [nodesFrom]
  | cons j js ih =>
    refine List.forall_mem_cons.2 ⟨h 0 j rfl, ih fun k j' hj => ?_⟩
    rw [Nat.add_assoc, Nat.add_comm 1]
    exact h (k + 1) j' hj

lemma At.list (hn : n.At root) : n.list.Locates root fun ms => ∀ m ∈ ms, m.At root := by
  rw [Node.list]
  cases hjson : n.json with
  | list items =>
    refine locates_pure (at_nodesFrom fun k j hj => hn.step ?_)
    rw [hjson, Nat.zero_add]
    exact hj
  | _ => exact hn.unexpected (by rw [hjson]; nofun)

def HasCase (root : Json) (n : Node) (case : String) : Prop :=
  root.follow (n.path ++ [.key "case"]) = some (.text case)

lemma At.case (hn : n.At root) : n.case.Locates root (n.HasCase root) := by
  refine (hn.child "case").bind fun m ⟨hm, hpath⟩ => hm.stands.text.mono fun c hc => ?_
  rw [HasCase, ← hpath, ← hc]
  exact hm.stands

lemma HasCase.unknownCase {case : String} {good : α → Prop} (h : n.HasCase root case) :
    (n.unknownCase case : Decoded α).Locates root good :=
  locates_error ⟨.text case, h, List.getLast?_concat, rfl⟩

lemma At.textAt (hn : n.At root) (key : String) : (n.textAt key).Locates root fun _ => True :=
  (hn.child key).bind fun _ hm => hm.1.stands.text.mono fun _ _ => trivial

section Read

variable {read : Node → Decoded α} (hread : Faithful read) (hn : n.At root) (key : String)

include hread hn

lemma At.childThen {good : β → Prop} {g : α → Decoded β} (hg : ∀ a, (g a).Locates root good) :
    Decoded.Locates root good (do g (← read (← n.child key))) :=
  (hn.child key).bind fun m hm => (hread root m hm.1.stands).bind fun a _ => hg a

lemma At.wrap {f : α → β} :
    Decoded.Locates root (fun _ => True) (do return f (← read (← n.child key))) :=
  hn.childThen hread key fun _ => locates_pure trivial

lemma At.maybe : (n.maybe read key).Locates root fun _ => True := by
  refine (hn.maybeAt key).bind fun m hm => ?_
  cases m with
  | none => exact locates_pure trivial
  | some m => exact (hread root m hm.2.1.stands).bind fun _ _ => locates_pure trivial

lemma At.listAt : (n.listAt read key).Locates root fun _ => n.IsDict := by
  refine (hn.maybeAt key).bind fun m hm => ?_
  cases m with
  | none =>
    obtain ⟨fields, hjson, _⟩ := hm
    exact locates_pure ⟨fields, hjson⟩
  | some m =>
    obtain ⟨hdict, hm, _⟩ := hm
    refine hm.stands.list.bind fun ms hms => ?_
    exact (locates_mapM fun k hk => hread root k (hms k hk)).mono fun _ _ => hdict

end Read

lemma At.maybeTextAt (hn : n.At root) (key : String) :
    (n.maybeTextAt key).Locates root fun _ => True :=
  hn.maybe (fun _ _ hm => hm.text.mono fun _ _ => trivial) key

lemma At.checkPositions (hn : n.At root) (before after : String) (keys : List String) :
    (n.checkPositions before after keys).Locates root fun _ => True := by
  induction keys with
  | nil => exact locates_pure trivial
  | cons key keys ih =>
    rw [Node.checkPositions]
    split
    · split
      · refine (hn.maybeAt key).bind fun m hm => ?_
        cases m with
        | none => exact ih
        | some m =>
          have hrefused (shown : String) :
              (m.unexpectedValue shown : Decoded PUnit).Locates root fun _ => True :=
            hm.2.1.unexpectedValue
          exact (hrefused _).bind fun _ _ => ih
      · exact ih
    · exact ih

lemma At.numberedFrom (hn : n.At root) (before after : String) (i count : ℕ) (gap : Bool) :
    (n.numberedFrom before after i count gap).Locates root fun ms => ∀ m ∈ ms, m.At root := by
  induction count generalizing i gap with
  | zero => exact locates_pure (by simp)
  | succ count ih =>
    rw [Node.numberedFrom]
    refine (hn.maybeAt _).bind fun m hm => ?_
    cases m with
    | none => exact ih _ _
    | some m =>
      obtain ⟨_, hm, _⟩ := hm
      dsimp only
      split
      · exact hm.unexpectedValue
      · refine (ih _ _).bind fun ms hms => locates_pure ?_
        exact List.forall_mem_cons.2 ⟨hm.stands, hms⟩

lemma At.positional (hn : n.At root) (before after : String) :
    (n.positional before after).Locates root fun ms => n.IsDict ∧ ∀ m ∈ ms, m.At root := by
  refine hn.dict.bind fun fields hjson => ?_
  refine (hn.checkPositions before after _).bind fun _ _ => ?_
  exact (hn.numberedFrom before after 1 maxParameters false).mono fun _ hms => ⟨⟨fields, hjson⟩, hms⟩

lemma At.parameters {read : Node → Decoded α} (hread : Faithful read) (hn : n.At root) :
    (n.parameters read).Locates root fun _ => n.IsDict := by
  refine (hn.positional "parameter" "").bind fun ms hms => ?_
  exact (locates_mapM fun m hm => hread root m (hms.2 m hm)).mono fun _ _ => hms.1

end Node

lemma faithful_text : Faithful Node.text := fun _ _ hn => hn.text.mono fun _ _ => trivial

lemma faithful_number : Faithful Node.number := fun _ _ hn => hn.number

lemma faithful_boolean : Faithful Node.boolean := fun _ _ hn => hn.boolean

end Document

end Tabletop
