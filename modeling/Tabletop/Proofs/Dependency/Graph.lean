import Tabletop.Evaluation.Evaluator
import Tabletop.Proofs.Dependency.Calls
import Tabletop.Proofs.Evaluation.RuleRequests

/-! The variables and programs that a variable's setting or a program's text leads to, one step at a
time: whatever an activity asks for while it goes on is a step of this graph. -/

namespace Tabletop

inductive Vertex where
  | slot (id : VariableId)
  | program (id : ProgramId)

def Activity.vertex : Activity → Vertex
  | evaluate id => .slot id
  | run id _ => .program id

namespace Context

variable {c : Context}

inductive Leads (c : Context) : Vertex → Vertex → Prop
  | names {id other : VariableId} {v : Variable} {r : VariableRef} :
      c.store.get? id = some v → r ∈ v.setting.named c.rulebook → other ∈ c.store.expand r →
      Leads c (.slot id) (.slot other)
  | invokes {id : VariableId} {v : Variable} {i : Invocation} :
      c.store.get? id = some v → v.setting.invocation? = some i →
      Leads c (.slot id) (.program i.program)
  | reads {id : ProgramId} {p : Program} {r : VariableRef} {other : VariableId} :
      c.rulebook.program? id = some p → r ∈ p.refs → other ∈ c.store.expand r →
      Leads c (.program id) (.slot other)
  | calls {id other : ProgramId} : c.rulebook.Calls id other →
      Leads c (.program id) (.program other)

lemma mem_expand_of_resolveSingle {s : Store} {r : VariableRef} {v : Variable}
    (h : s.resolveSingle r = .ok v) : v.id ∈ s.expand r := by
  cases r with
  | id i =>
    simp only [Store.resolveSingle, Store.get] at h
    split at h
    · rename_i w hw
      cases h
      simp [Store.expand, Store.id_of_get? hw]
    · cases h
  | tag t =>
    simp only [Store.resolveSingle] at h
    split at h
    · rename_i w hw
      cases h
      simp [Store.expand, hw]
    · cases h

def Aims (c : Context) (n : Vertex) (q : Request) : Prop :=
  ∀ a pass, c.reply q = .enter a pass → c.Leads n a.vertex

lemma aims_now {n : Vertex} {q : Request} {p : Dice.Plan (Except RuleError q.Answer)}
    (h : c.reply q = .now p) : c.Aims n q := fun a pass h' => by rw [h] at h'; cases h'

lemma aims_value {n : Vertex} {r : VariableRef}
    (h : ∀ id ∈ c.store.expand r, c.Leads n (.slot id)) : c.Aims n (.value r) := by
  intro a pass ha
  simp only [reply] at ha
  split at ha
  · rename_i v hv
    cases ha
    exact h _ (mem_expand_of_resolveSingle hv)
  · cases ha

lemma aims_apply {n : Vertex} {f : FunctionId} {args : List Value}
    (h : c.rulebook.function? f = none → c.Leads n (.program f)) : c.Aims n (.apply f args) := by
  intro a pass ha
  simp only [reply] at ha
  split at ha
  · cases ha
  · rename_i hf
    split at ha <;> cases ha
    exact h hf

def Rolls (c : Context) (id : VariableId) : Prop :=
  ∃ v summation s, c.store.get? id = some v ∧ v.setting = .number (.summation summation) ∧
    c.rulebook.summation? summation = some s ∧ ∃ t ∈ s.terms, ∃ r, t.term = .diceRoll r

lemma strict_of_start {asks : Request → Prop} {f : Frame} {a : Activity} {x : Inquiry Outcome}
    (hx : c.start f a = .ok x) (haims : ∀ q, c.Aims a.vertex q → (∀ r, q ≠ .roll r) → asks q)
    (hroll : ∀ id r, a = .evaluate id → c.Rolls id → asks (.roll r)) :
    x.Strict (.plain asks) fun _ => True := by
  have hk : (Contract.plain asks).Lenient :=
    Contract.lenient_plain fun r => haims _ (aims_now rfl) nofun
  cases a with
  | evaluate id =>
    obtain ⟨_, v, hv, rfl⟩ := start_evaluate hx
    refine v.strict hk c.rulebook ?_ ?_ (fun _ _ _ => trivial) ?_ ?_
    · exact fun r hr => haims _ (aims_value fun other ho => .names hv hr ho) nofun
    · intro other ho
      refine haims _ (fun a pass ha => ?_) nofun
      cases ha
      exact .names hv ho (by simp [Store.expand])
    · intro i hi args _
      refine haims _ (fun a pass ha => ?_) nofun
      cases ha
      exact .invokes hv hi
    · intro summation s hsetting hs t ht r d hr _
      exact hroll id d rfl ⟨v, summation, s, hv, hsetting, hs, t, ht, r, hr⟩
  | run id args =>
    obtain ⟨_, p, hp, rfl⟩ := start_run hx
    refine p.strict hk args ?_ (fun _ => trivial) (fun _ _ _ => trivial) (fun _ _ _ => trivial)
      fun s hs vs _ => ?_
    · exact fun r hr => haims _ (aims_value fun other ho => .reads hp hr ho) nofun
    · refine haims _ (aims_apply fun hn => ?_) nofun
      exact .calls (Rulebook.calls_of_applied hp (List.mem_map_of_mem hs) hn)

lemma start_strict {f : Frame} {a : Activity} {x : Inquiry Outcome} (hx : c.start f a = .ok x) :
    x.Strict (.plain (c.Aims a.vertex)) fun _ => True :=
  strict_of_start hx (fun _ hq _ => hq) fun _ _ _ _ => aims_now rfl

lemma start_confined {f : Frame} {a : Activity} {x : Inquiry Outcome} {fails : RuleError → Prop}
    (hx : c.start f a = .ok x) (hplain : ∀ e, RuleError.Plain e → fails e) :
    x.Confined (c.Aims a.vertex) fails :=
  (start_strict hx).confined (fun _ _ => trivial) hplain

end Context

end Tabletop
