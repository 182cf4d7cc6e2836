import Tabletop.Proofs.Stored.Finite

/-! Rule content survives as JSON text: what has been written is read back, and what has been read
and written once stays as it is. -/

namespace Tabletop

namespace Json

variable {α : Type}

def printers : List (Json → String) := [compact, pretty]

def load? (read : Json → Option α) (text : String) : Option α := (parse? text).bind read

/-- The text of what has been read from a text. -/
def rewrite? (read : Json → Option α) (write : α → Json) (print : Json → String) (text : String) :
    Option String :=
  (load? read text).map fun a => print (write a)

/-- Everything that is made can be read from its texts, and reading and writing a text twice is
reading and writing it once, as long as the text of each number stands for the number. -/
structure Survives (made : α → Prop) (numbers : α → List Float) (write : α → Json)
    (read : Json → Option α) : Prop where
  restored : ∀ a, made a → (∀ x ∈ numbers a, x.isFinite = true) →
    (∀ x ∈ numbers a, Token.number? (floatLayout.text x).toList = some (.float x)) →
    ∀ print ∈ printers, load? read (print (write a)) = some a
  settled : ∀ text a, load? read text = some a →
    (∀ x ∈ numbers a, x.isFinite = true →
      Token.number? (floatLayout.text x).toList = some (.float x)) →
    ∀ print ∈ printers, ∀ again ∈ printers,
      (rewrite? read write print text).bind (rewrite? read write again) =
        rewrite? read write again text

variable {read : Json → Option α} {made : α → Prop} {numbers : α → List Float} {write : α → Json}

lemma Restores.load? {j : Json} {a : α} (h : Restores read Progress.deepest j a)
    {print : Json → String} (hprint : print ∈ printers) : load? read (print j) = some a := by
  have hparse : parse? (print j) = some j := by
    rcases List.mem_pair.1 hprint with rfl | rfl
    · exact parse?_compact_self h.writable
    · exact parse?_pretty_self h.writable
  rw [Json.load?, hparse, Option.bind_some, h.read]

lemma Survives.of_restores (hmade : ∀ j a, read j = some a → made a)
    (hfinite : KeepsFinite read numbers)
    (hrestores : ∀ a, made a → (∀ x ∈ numbers a, ReadsBack x) →
      Restores read Progress.deepest (write a) a) :
    Survives made numbers write read where
  restored a ha hfin hprinted print hprint :=
    (hrestores a ha fun x hx => ⟨hfin x hx, hprinted x hx⟩).load? hprint
  settled text a h hprinted print hprint again _ := by
    obtain ⟨j, hj, hread⟩ := Option.bind_eq_some_iff.1 h
    have hfin : ∀ x ∈ numbers a, x.isFinite = true := hfinite j (finite_of_parse? hj) a hread
    have hback : ∀ x ∈ numbers a, ReadsBack x := fun x hx => ⟨hfin x hx, hprinted x hx (hfin x hx)⟩
    have hagain : load? read (print (write a)) = some a :=
      (hrestores a (hmade j a hread) hback).load? hprint
    simp only [rewrite?, h, Option.map_some, Option.bind_some, hagain]

end Json

open Json (Survives Restores)

/-- Rule content that is made, however it is, comes back equal from its stored texts, with its
members, terms, statements and rows in their order, and storing it again changes nothing. -/
theorem rule_content_survives :
    Survives (fun _ => True) Value.numbers Value.toJson Value.ofJson? ∧
      Survives ValueSet.Made ValueSet.numbers ValueSet.toJson ValueSet.ofJson? ∧
      Survives (fun _ => True) Summation.numbers Summation.toJson Summation.ofJson? ∧
      Survives (fun _ => True) Table.numbers Table.toJson Table.ofJson? ∧
      Survives (fun _ => True) Program.numbers Program.toJson Program.ofJson? ∧
      Survives Mechanic.Made Mechanic.numbers Mechanic.toJson Mechanic.ofJson? := by
  refine ⟨?_, ?_, ?_, ?_, ?_, ?_⟩
  · refine .of_restores (fun _ _ _ => trivial) Value.keepsFinite fun v _ h => ?_
    have hv : Restores Value.ofJson? (123 + 4) v.toJson v := Value.restores h
    exact hv
  · refine .of_restores (fun _ _ => .load) ValueSet.keepsFinite fun s hs h => ?_
    have hrestores : Restores ValueSet.ofJson? (110 + 17) s.toJson s :=
      ValueSet.restores hs.lawful h
    exact hrestores
  · refine .of_restores (fun _ _ _ => trivial) Summation.keepsFinite fun s _ h => ?_
    have hs : Restores Summation.ofJson? (120 + 7) s.toJson s := Summation.restores h
    exact hs
  · refine .of_restores (fun _ _ _ => trivial) Table.keepsFinite fun f _ h => ?_
    have hf : Restores Table.ofJson? (119 + 8) f.toJson f := Table.restores h
    exact hf
  · refine .of_restores (fun _ _ _ => trivial) Program.keepsFinite fun p _ h => ?_
    have hp : Restores Program.ofJson? (117 + 10) p.toJson p := Program.restores h
    exact hp
  · refine .of_restores (fun _ _ => .load) Mechanic.keepsFinite fun m hm h => ?_
    have hrestores : Restores Mechanic.ofJson? (113 + 14) m.toJson m :=
      Mechanic.restores hm.lawful h
    exact hrestores

namespace Archery

def volley : Dice.Roll where
  quantities := ⟨[⟨6, 2⟩, ⟨8, 1⟩], by decide⟩
  modifiers := ⟨[⟨0.5, some "bless"⟩], by decide⟩

def aim : Variable := { id := ⟨none, "aim"⟩, label := "Aim", setting := .number (.literal (-0.0)) }

def stance : Entry where
  id := "stance"
  valueSet := "elsewhere"
  gains := [aim]
  payload := .number 1e22

def skills : ValueSet :=
  (({ id := "skills", label := "Skills", members := .base [] } : ValueSet).addEntry stance).addEntry
    { stance with gains := [] }

def total : Summation :=
  [⟨some "volley", .diceRoll (.literal volley)⟩, ⟨none, .number (.literal 12.25)⟩].foldl
    Summation.addTerm { id := "total", name := "Total" }

def halve : Table where
  id := "halve"
  label := "Halve \"down\""
  signature := ⟨[.number, .diceRoll], .number⟩
  rows := [⟨[.number 3, .diceRoll volley], .number 1.5⟩]

def shoot : Program where
  id := "shoot"
  label := "Schießen"
  signature := ⟨[.number], .number⟩
  statements := [⟨"half", "halve", [.argument 1, .reference (.diceRoll (.literal volley))]⟩]
  resultBinding := "half"

def archer : Mechanic where
  id := "archer"
  label := "Archer"
  category := some "fighting"
  requirements := [⟨some "hero", "bow"⟩]
  gains := [aim]

def stored : Json :=
  .record [("members", .single "compound" (.list [.text "bows", .text "bows"])),
    ("label_singular", .text "Any"), ("label", .text "All"), ("id", .text "all")]

def all : ValueSet where
  id := "all"
  label := "All"
  labelSingular := "Any"
  members := .compound ["bows"]

lemma load?_stored {print : Json → String} (hprint : print ∈ Json.printers) :
    Json.load? ValueSet.ofJson? (print stored) = some all := by
  have hsets : Json.Writable id (124 + 1) (.list [.text "bows", .text "bows"]) :=
    .list (by simpa using .text _ "bows")
  have hstored : Json.Writable id (124 + 3) stored := by
    refine .record ?_
    simpa using ⟨Json.writable_single hsets, .text _ "Any", .text _ "All", .text _ "all"⟩
  have hread : ValueSet.ofJson? stored = some all := rfl
  exact Restores.load? ⟨hstored, hread⟩ hprint

lemma skills_made : skills.Made := by
  have hbase := ValueSet.Made.base "skills" "Skills"
  have hstance : ValueSet.Made _ := hbase.addEntry (e := stance) fun v hv => by
    obtain rfl : v = aim := List.mem_singleton.1 hv
    exact .new aim.id aim.label aim.setting
  exact hstance.addEntry (e := { stance with gains := [] }) nofun

lemma archer_made : archer.Made := by
  have hnew := Mechanic.Made.new archer.id archer.label
  have hdescribed := hnew.describe archer.id archer.label "" "" archer.category
  have hgained := (hdescribed.require ⟨some "hero", "bow"⟩).gain (v := aim)
    (.new aim.id aim.label aim.setting)
  exact hgained

end Archery

open Archery in
theorem rule_content_survives_archery :
    ∀ print ∈ Json.printers,
      Json.load? Value.ofJson? (print (Value.diceRoll volley).toJson) = some (.diceRoll volley) ∧
        Json.load? ValueSet.ofJson? (print skills.toJson) = some skills ∧
        Json.load? Summation.ofJson? (print total.toJson) = some total ∧
        Json.load? Table.ofJson? (print halve.toJson) = some halve ∧
        Json.load? Program.ofJson? (print shoot.toJson) = some shoot ∧
        Json.load? Mechanic.ofJson? (print archer.toJson) = some archer ∧
        (Json.rewrite? ValueSet.ofJson? ValueSet.toJson print (print stored)).bind
            (Json.rewrite? ValueSet.ofJson? ValueSet.toJson print) =
          some (print all.toJson) := by
  intro print hprint
  obtain ⟨hvalue, hset, hsummation, htable, hprogram, hmechanic⟩ := rule_content_survives
  refine ⟨hvalue.restored _ trivial (by decide +kernel) (by decide +kernel) _ hprint,
    hset.restored skills skills_made (by decide +kernel) (by decide +kernel) _ hprint,
    hsummation.restored total trivial (by decide +kernel) (by decide +kernel) _ hprint,
    htable.restored halve trivial (by decide +kernel) (by decide +kernel) _ hprint,
    hprogram.restored shoot trivial (by decide +kernel) (by decide +kernel) _ hprint,
    hmechanic.restored archer archer_made (by decide +kernel) (by decide +kernel) _ hprint, ?_⟩
  rw [hset.settled _ all (load?_stored hprint) nofun print hprint print hprint, Json.rewrite?,
    load?_stored hprint, Option.map_some]

end Tabletop
