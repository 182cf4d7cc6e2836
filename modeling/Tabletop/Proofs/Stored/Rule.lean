import Tabletop.Proofs.Sorted
import Tabletop.Proofs.Stored.Spelling
import Tabletop.Proofs.Stored.Value
import Tabletop.Proofs.Stored.Variable
import Tabletop.Stored.Rule

namespace Tabletop

open Json (Restores ReadsBack writable_single writable_optionalText)

variable {room : ℕ}

lemma NamedTerm.restores {t : NamedTerm} (h : ∀ x ∈ t.numbers, ReadsBack x) :
    Restores ofJson? (room + 5) t.toJson t := by
  obtain ⟨name, term⟩ := t
  have hwritable (hterm : ∀ f ∈ term.fields, Json.Writable id (room + 4) f.2) :
      Json.Writable id (room + 5) (toJson ⟨name, term⟩) := by
    refine .record ?_
    rw [List.forall_mem_append, List.forall_mem_cons]
    exact ⟨⟨.text _ term.kind, writable_optionalText⟩, hterm⟩
  cases term with
  | number r =>
    have hr : Restores NumberRef.ofJson? (room + 4) r.toJson r := NumberRef.restores h
    refine ⟨hwritable (by simpa [Term.fields] using hr.writable), ?_⟩
    cases name <;> exact hr.wrap fun r => NamedTerm.mk _ (.number r)
  | diceRoll r =>
    have hr : Restores DiceRef.ofJson? (room + 4) r.toJson r := DiceRef.restores h
    refine ⟨hwritable (by simpa [Term.fields] using hr.writable), ?_⟩
    cases name <;> exact hr.wrap fun r => NamedTerm.mk _ (.diceRoll r)
  | conditional c t f =>
    have hc : Restores BooleanRef.ofJson? (room + 4) c.toJson c := c.restores
    have ht : Restores NumberRef.ofJson? (room + 4) t.toJson t :=
      NumberRef.restores fun x hx => h x (List.mem_append_left _ hx)
    have hf : Restores NumberRef.ofJson? (room + 4) f.toJson f :=
      NumberRef.restores fun x hx => h x (List.mem_append_right _ hx)
    refine ⟨hwritable (by simpa [Term.fields] using ⟨hc.writable, ht.writable, hf.writable⟩), ?_⟩
    have hread : ofJson? (toJson ⟨name, .conditional c t f⟩) =
        (BooleanRef.ofJson? c.toJson).bind fun c => (NumberRef.ofJson? t.toJson).bind fun t =>
          (NumberRef.ofJson? f.toJson).bind fun f => some ⟨name, .conditional c t f⟩ := by
      cases name <;> rfl
    rw [hread, hc.read, Option.bind_some, ht.read, Option.bind_some, hf.read, Option.bind_some]

namespace Summation

def numbers (s : Summation) : List Float := s.terms.toList.flatMap NamedTerm.numbers

lemma restores {s : Summation} (h : ∀ x ∈ s.numbers, ReadsBack x) :
    Restores ofJson? (room + 7) s.toJson s := by
  have hterms : Restores (Json.listOf? NamedTerm.ofJson?) (room + 6)
      (.list (s.terms.toList.map NamedTerm.toJson)) s.terms.toList :=
    Json.restores_list fun t ht =>
      NamedTerm.restores fun x hx => h x (List.mem_flatMap.2 ⟨t, ht, hx⟩)
  constructor
  · exact .record (by simpa using ⟨.text _ s.id, .text _ s.name, hterms.writable⟩)
  · have hread : ofJson? s.toJson =
        (Json.listOf? NamedTerm.ofJson? (.list (s.terms.toList.map NamedTerm.toJson))).bind
          fun terms => some (terms.foldl addTerm { id := s.id, name := s.name }) := rfl
    have hagain : s.terms.toList.foldl Sorted.insert ∅ = s.terms := Sorted.ofList_toList s.terms
    rw [hread, hterms.read, Option.bind_some, foldl_addTerm, hagain]

end Summation

lemma Signature.restores (s : Signature) : Restores ofJson? (room + 2) s.toJson s := by
  have hparameters : Restores (Json.listOf? ValueType.ofJson?) (room + 1)
      (.list (s.parameters.map ValueType.toJson)) s.parameters :=
    Json.restores_list fun t _ => t.restores
  have hresult : Restores ValueType.ofJson? (room + 1) s.result.toJson s.result :=
    s.result.restores
  constructor
  · exact .record (by simpa using ⟨hparameters.writable, hresult.writable⟩)
  · have hread : ofJson? s.toJson =
        (Json.listOf? ValueType.ofJson? (.list (s.parameters.map ValueType.toJson))).bind
          fun parameters => (ValueType.ofJson? s.result.toJson).bind fun result =>
            some ⟨parameters, result⟩ := rfl
    rw [hread, hparameters.read, Option.bind_some, hresult.read, Option.bind_some]

namespace Row

def numbers (r : Row) : List Float := r.parameters.flatMap Value.numbers ++ r.result.numbers

lemma restores {r : Row} (h : ∀ x ∈ r.numbers, ReadsBack x) :
    Restores ofJson? (room + 6) r.toJson r := by
  have hparameters : Restores (Json.listOf? Value.ofJson?) (room + 5)
      (.list (r.parameters.map Value.toJson)) r.parameters :=
    Json.restores_list fun v hv =>
      Value.restores fun x hx => h x (List.mem_append_left _ (List.mem_flatMap.2 ⟨v, hv, hx⟩))
  have hresult : Restores Value.ofJson? (room + 5) r.result.toJson r.result :=
    Value.restores fun x hx => h x (List.mem_append_right _ hx)
  constructor
  · exact .record (by simpa using ⟨hparameters.writable, hresult.writable⟩)
  · have hread : ofJson? r.toJson =
        (Json.listOf? Value.ofJson? (.list (r.parameters.map Value.toJson))).bind
          fun parameters => (Value.ofJson? r.result.toJson).bind fun result =>
            some ⟨parameters, result⟩ := rfl
    rw [hread, hparameters.read, Option.bind_some, hresult.read, Option.bind_some]

end Row

namespace Table

def numbers (f : Table) : List Float := f.rows.flatMap Row.numbers

lemma restores {f : Table} (h : ∀ x ∈ f.numbers, ReadsBack x) :
    Restores ofJson? (room + 8) f.toJson f := by
  have hsignature : Restores Signature.ofJson? (room + 7) f.signature.toJson f.signature :=
    f.signature.restores
  have hrows : Restores (Json.listOf? Row.ofJson?) (room + 7) (.list (f.rows.map Row.toJson))
      f.rows :=
    Json.restores_list fun r hr => Row.restores fun x hx => h x (List.mem_flatMap.2 ⟨r, hr, hx⟩)
  constructor
  · refine .record ?_
    simpa using ⟨.text _ f.id, .text _ f.label, .text _ f.description, hsignature.writable,
      hrows.writable⟩
  · have hread : ofJson? f.toJson = (Signature.ofJson? f.signature.toJson).bind fun signature =>
        (Json.listOf? Row.ofJson? (.list (f.rows.map Row.toJson))).bind fun rows =>
          some ⟨f.id, f.label, f.description, signature, rows⟩ := rfl
    rw [hread, hsignature.read, Option.bind_some, hrows.read, Option.bind_some]

end Table

namespace Parameter

def numbers : Parameter → List Float
  | reference r => r.numbers
  | binding _ | argument _ => []

lemma restores {p : Parameter} (h : ∀ x ∈ p.numbers, ReadsBack x) :
    Restores ofJson? (room + 6) p.toJson p := by
  cases p with
  | binding name => exact ⟨writable_single (.text _ name), rfl⟩
  | argument i =>
    have hi := Json.restores_uint64 (room + 5) i
    exact hi.single argument rfl
  | reference r =>
    exact (DataRef.restores h).single reference rfl

end Parameter

namespace Statement

def numbers (s : Statement) : List Float := s.parameters.flatMap Parameter.numbers

lemma restores {s : Statement} (h : ∀ x ∈ s.numbers, ReadsBack x) :
    Restores ofJson? (room + 8) s.toJson s := by
  have hparameters : Restores (Json.listOf? Parameter.ofJson?) (room + 7)
      (.list (s.parameters.map Parameter.toJson)) s.parameters :=
    Json.restores_list fun p hp =>
      Parameter.restores fun x hx => h x (List.mem_flatMap.2 ⟨p, hp, hx⟩)
  constructor
  · refine .record ?_
    simpa using ⟨.text _ s.binding, .text _ s.function, hparameters.writable⟩
  · exact hparameters.wrap (Statement.mk s.binding s.function)

end Statement

namespace Program

def numbers (p : Program) : List Float := p.statements.flatMap Statement.numbers

lemma restores {p : Program} (h : ∀ x ∈ p.numbers, ReadsBack x) :
    Restores ofJson? (room + 10) p.toJson p := by
  have hsignature : Restores Signature.ofJson? (room + 9) p.signature.toJson p.signature :=
    p.signature.restores
  have hstatements : Restores (Json.listOf? Statement.ofJson?) (room + 9)
      (.list (p.statements.map Statement.toJson)) p.statements :=
    Json.restores_list fun s hs =>
      Statement.restores fun x hx => h x (List.mem_flatMap.2 ⟨s, hs, hx⟩)
  constructor
  · refine .record ?_
    simpa using ⟨.text _ p.id, .text _ p.label, .text _ p.description, hsignature.writable,
      hstatements.writable, .text _ p.resultBinding⟩
  · have hread : ofJson? p.toJson = (Signature.ofJson? p.signature.toJson).bind fun signature =>
        (Json.listOf? Statement.ofJson? (.list (p.statements.map Statement.toJson))).bind
          fun statements =>
            some ⟨p.id, p.label, p.description, signature, statements, p.resultBinding⟩ := rfl
    rw [hread, hsignature.read, Option.bind_some, hstatements.read, Option.bind_some]

end Program

namespace Mechanic

def numbers (m : Mechanic) : List Float := m.gains.flatMap Variable.numbers

lemma restores {m : Mechanic} (hm : ∀ v ∈ m.gains, v.Lawful) (h : ∀ x ∈ m.numbers, ReadsBack x) :
    Restores ofJson? (room + 14) m.toJson m := by
  have hrequirements : Restores (Json.listOf? VariableId.ofJson?) (room + 13)
      (.list (m.requirements.map VariableId.toJson)) m.requirements :=
    Json.restores_list fun id _ => id.restores
  have hgains : Restores (Json.listOf? Variable.ofJson?) (room + 13)
      (.list (m.gains.map Variable.toJson)) m.gains :=
    Json.restores_list fun v hv =>
      Variable.restores (hm v hv) fun x hx => h x (List.mem_flatMap.2 ⟨v, hv, hx⟩)
  constructor
  · refine .record ?_
    simp only [List.forall_mem_append]
    refine ⟨⟨?_, writable_optionalText⟩, by simpa using ⟨hrequirements.writable, hgains.writable⟩⟩
    simpa using ⟨.text _ m.id, .text _ m.label, .text _ m.description, .text _ m.summary⟩
  · have hread : ofJson? m.toJson =
        (Json.listOf? VariableId.ofJson? (.list (m.requirements.map VariableId.toJson))).bind
          fun requirements =>
            (Json.listOf? Variable.ofJson? (.list (m.gains.map Variable.toJson))).bind fun gains =>
              some ⟨m.id, m.label, m.description, m.summary, m.category, requirements, gains⟩ := by
      obtain ⟨id, label, description, summary, category, requirements, gains⟩ := m
      cases category <;> rfl
    rw [hread, hrequirements.read, Option.bind_some, hgains.read, Option.bind_some]

end Mechanic

end Tabletop
