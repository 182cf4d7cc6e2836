import Tabletop.Json.Fields
import Tabletop.Proofs.Json.Parse
import Tabletop.Proofs.Results

namespace Tabletop

namespace Json

variable {α : Type} {read : Json → Option α} {f : Number → Number} {room : ℕ} {j : Json} {a : α}

/-- The value can be read from the JSON, and the JSON can be written with so many levels. -/
structure Restores (read : Json → Option α) (room : ℕ) (j : Json) (a : α) : Prop where
  writable : Writable id room j
  read : read j = some a

lemma Restores.wrap {β : Type} (h : Restores read room j a) (f : α → β) :
    ((read j).bind fun a => some (f a)) = some (f a) := by
  rw [h.read]
  rfl

structure ReadsBack (x : Float) : Prop where
  finite : x.isFinite = true
  text : Token.number? (floatLayout.text x).toList = some (.float x)

lemma restores_text (room : ℕ) (s : String) : Restores text? room (.text s) s :=
  ⟨.text room s, rfl⟩

lemma restores_float (room : ℕ) {x : Float} (h : ReadsBack x) :
    Restores float? room (.float x) x := by
  rw [float, if_pos h.finite]
  exact ⟨.number room h.text, rfl⟩

lemma restores_int32 (room : ℕ) (n : Int32) : Restores int32? room (.whole n.toInt) n := by
  have hlow : Int32.minValue.toInt ≤ n.toInt := n.le_toInt
  have hhigh := n.toInt_le
  have hmin : Int64.minValue.toInt ≤ Int32.minValue.toInt := by decide
  have hmax : Int32.maxValue.toInt < UInt64.size := by decide
  constructor
  · exact .number room (number?_whole ⟨by omega, by omega⟩)
  · change ((if _ then _ else _ : Option Int).map Int32.ofInt) = _
    rw [if_pos ⟨hlow, hhigh⟩, Option.map_some, Int32.ofInt_toInt]

lemma restores_uint64 (room : ℕ) (n : UInt64) : Restores uint64? room (.whole n.toNat) n := by
  have hsize : n.toNat < UInt64.size := n.toNat_lt_size
  constructor
  · refine .number room (number?_whole ⟨?_, by omega⟩)
    have hmin : Int64.minValue.toInt ≤ 0 := by decide
    omega
  · change (((if _ then _ else _ : Option Int).map Int.toNat).map UInt64.ofNat) = _
    rw [if_pos ⟨by omega, by omega⟩, Option.map_some, Option.map_some, Int.toNat_natCast,
      UInt64.ofNat_toNat]

lemma restores_list {write : α → Json} {as : List α}
    (h : ∀ a ∈ as, Restores read room (write a) a) :
    Restores (listOf? read) (room + 1) (.list (as.map write)) as := by
  constructor
  · refine .list fun j hj => ?_
    obtain ⟨a, ha, rfl⟩ := List.mem_map.1 hj
    exact (h a ha).writable
  · exact mapM_map_eq_pure fun a ha => (h a ha).read

lemma writable_list {items : List Json} :
    Writable f (room + 1) (.list items) ↔ ∀ j ∈ items, Writable f room j :=
  ⟨fun h => by cases h; assumption, .list⟩

lemma writable_record {fields : List (String × Json)} :
    Writable f (room + 1) (.record fields) ↔ ∀ g ∈ fields, Writable f room g.2 :=
  ⟨fun h => by cases h; assumption, .record⟩

lemma writable_single {key : String} (h : Writable f room j) : Writable f (room + 1) (single key j) :=
  .record (by simpa using h)

lemma writable_tagged {tag content name : String} (h : Writable f room j) :
    Writable f (room + 1) (tagged tag content name j) :=
  .record (by simpa using ⟨.text room name, h⟩)

lemma Restores.single {β : Type} {outer : Json → Option β} {key : String}
    (h : Restores read room j a) (f : α → β)
    (hread : outer (.single key j) = (read j).bind fun a => some (f a)) :
    Restores outer (room + 1) (.single key j) (f a) :=
  ⟨writable_single h.writable, hread.trans (h.wrap f)⟩

lemma Restores.tagged {β : Type} {outer : Json → Option β} {tag content name : String}
    (h : Restores read room j a) (f : α → β)
    (hread : outer (.tagged tag content name j) = (read j).bind fun a => some (f a)) :
    Restores outer (room + 1) (.tagged tag content name j) (f a) :=
  ⟨writable_tagged h.writable, hread.trans (h.wrap f)⟩

lemma writable_optional {key : String} {write : α → Json} {a : Option α}
    (h : ∀ b, a = some b → Writable f room (write b)) :
    ∀ g ∈ optionalField key write a, Writable f room g.2 := by
  cases a with
  | none => simp [optionalField]
  | some b => simpa [optionalField] using h b rfl

lemma writable_optionalText {key : String} {s : Option String} :
    ∀ g ∈ optionalField key .text s, Writable f room g.2 :=
  writable_optional fun t _ => .text room t

end Json

end Tabletop
