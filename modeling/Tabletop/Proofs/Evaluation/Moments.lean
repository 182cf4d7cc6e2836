import Mathlib.Logic.Relation
import Tabletop.Proofs.Evaluation.Unwinding

/-! A call taken apart into its moments. At each of them the stacks hold defined variables and
programs, none of them twice. -/

namespace Tabletop

open Relation (ReflTransGen)

variable {α β : Type}

/-- What is left of a call: what is asked for next, and where an activity is left. -/
inductive Course (α : Type) where
  | done (r : α)
  | ask (q : Request) (next : Except RuleError q.Answer → Course α)
  | leave (a : Activity) (rest : Course α)

def Inquiry.course : Inquiry β → (β → Course α) → Course α
  | done r, rest => rest r
  | ask q next, rest => .ask q fun r => (next r).course rest

structure Moment (α : Type) where
  frame : Frame
  left : Course α

namespace Context

inductive Step (c : Context) : Moment α → Moment α → Prop
  | now {f : Frame} {q : Request} {next : Except RuleError q.Answer → Course α}
      {p : Dice.Plan (Except RuleError q.Answer)} {r : Except RuleError q.Answer} :
      c.reply q = .now p → p.Ends r → Step c ⟨f, .ask q next⟩ ⟨f, next r⟩
  | refuse {f : Frame} {q : Request} {next : Except RuleError q.Answer → Course α}
      {a : Activity} {pass : Outcome → Except RuleError q.Answer} {e : RuleError} :
      c.reply q = .enter a pass → c.start f a = .error e →
      Step c ⟨f, .ask q next⟩ ⟨f, next (pass (.error e))⟩
  | enter {f : Frame} {q : Request} {next : Except RuleError q.Answer → Course α}
      {a : Activity} {pass : Outcome → Except RuleError q.Answer} {x : Inquiry Outcome} :
      c.reply q = .enter a pass → c.start f a = .ok x →
      Step c ⟨f, .ask q next⟩ ⟨f.enter a, x.course fun r => .leave a (next (pass r))⟩
  | leave {f : Frame} {a : Activity} {rest : Course α} :
      Step c ⟨f, .leave a rest⟩ ⟨f.leave a, rest⟩

section Steps

variable {c : Context} {f : Frame} {m : Moment α} {q : Request} {b : Activity}
  {next : Except RuleError q.Answer → Course α} {pass : Outcome → Except RuleError q.Answer}

lemma step_now {p : Dice.Plan (Except RuleError q.Answer)} (hq : c.reply q = .now p)
    (hs : c.Step ⟨f, .ask q next⟩ m) : ∃ r, p.Ends r ∧ m = ⟨f, next r⟩ := by
  cases hs with
  | now hq' hr => cases hq.symm.trans hq'; exact ⟨_, hr, rfl⟩
  | refuse hq' | enter hq' => cases hq.symm.trans hq'

lemma step_refused {e : RuleError} (hq : c.reply q = .enter b pass) (hb : c.start f b = .error e)
    (hs : c.Step ⟨f, .ask q next⟩ m) : m = ⟨f, next (pass (.error e))⟩ := by
  cases hs with
  | now hq' => cases hq.symm.trans hq'
  | refuse hq' hb' => cases hq.symm.trans hq'; cases hb.symm.trans hb'; rfl
  | enter hq' hb' => cases hq.symm.trans hq'; cases hb.symm.trans hb'

lemma step_entered {y : Inquiry Outcome} (hq : c.reply q = .enter b pass)
    (hb : c.start f b = .ok y) (hs : c.Step ⟨f, .ask q next⟩ m) :
    m = ⟨f.enter b, y.course fun r => .leave b (next (pass r))⟩ := by
  cases hs with
  | now hq' => cases hq.symm.trans hq'
  | refuse hq' hb' => cases hq.symm.trans hq'; cases hb.symm.trans hb'
  | enter hq' hb' => cases hq.symm.trans hq'; cases hb.symm.trans hb'; rfl

lemma step_left {a : Activity} {rest : Course α} (hs : c.Step ⟨f.enter a, .leave a rest⟩ m) :
    m = ⟨f, rest⟩ := by
  cases hs
  rw [Frame.leave_enter]

end Steps

def opening (c : Context) (call : Call) (f : Frame) : Moment (Except RuleError Answer) :=
  ⟨f, (call.evaluation c).run.course .done⟩

end Context

structure Frame.Sound (c : Context) (f : Frame) : Prop where
  evaluating_nodup : f.evaluating.Nodup
  evaluating_defined : f.evaluating ⊆ c.store.ids
  running_nodup : f.running.Nodup
  running_defined : f.running ⊆ c.rulebook.programIds

namespace Frame.Sound

variable {c : Context} {f : Frame} {a : Activity}

lemma new : Frame.Sound c {} := ⟨.nil, List.nil_subset _, .nil, List.nil_subset _⟩

lemma leave (h : f.Sound c) : (f.leave a).Sound c := by
  obtain ⟨hv, hs, hp, hr⟩ := h
  cases a with
  | evaluate id => exact ⟨hv.tail, fun _ hx => hs (List.mem_of_mem_tail hx), hp, hr⟩
  | run id args => exact ⟨hv, hs, hp.tail, fun _ hx => hr (List.mem_of_mem_tail hx)⟩

lemma enter {x : Inquiry Outcome} (h : f.Sound c) (hx : c.start f a = .ok x) :
    (f.enter a).Sound c := by
  obtain ⟨hv, hs, hp, hr⟩ := h
  cases a with
  | evaluate id =>
    obtain ⟨hid, v, hget, _⟩ := Context.start_evaluate hx
    exact ⟨List.nodup_cons.2 ⟨hid, hv⟩, List.cons_subset.2 ⟨Store.mem_ids_of_get? hget, hs⟩, hp, hr⟩
  | run id args =>
    obtain ⟨hid, p, hget, _⟩ := Context.start_run hx
    exact ⟨hv, hs, List.nodup_cons.2 ⟨hid, hp⟩,
      List.cons_subset.2 ⟨Rulebook.mem_programIds_of_program? hget, hr⟩⟩

lemma length_running_lt {id : ProgramId} (h : f.Sound c) (hid : id ∈ c.rulebook.programIds)
    (hn : id ∉ f.running) : f.running.length < c.rulebook.programs.toList.length := by
  have hlen := (List.nodup_cons.2 ⟨hn, h.running_nodup⟩).length_le_of_subset
    (List.cons_subset.2 ⟨hid, h.running_defined⟩)
  rwa [Rulebook.programIds, List.length_map, List.length_cons] at hlen

end Frame.Sound

namespace Context

variable {c : Context} {m n : Moment α}

lemma sound_step (h : m.frame.Sound c) (hs : c.Step m n) : n.frame.Sound c := by
  cases hs with
  | now | refuse => exact h
  | enter _ hx => exact h.enter hx
  | leave => exact h.leave

lemma sound_run (h : m.frame.Sound c) (hr : ReflTransGen c.Step m n) : n.frame.Sound c := by
  induction hr with
  | refl => exact h
  | tail _ hs ih => exact sound_step ih hs

lemma done_or_step (m : Moment α) : (∃ r, m.left = .done r) ∨ ∃ n, c.Step m n := by
  obtain ⟨f, t⟩ := m
  cases t with
  | done r => exact .inl ⟨r, rfl⟩
  | leave a rest => exact .inr ⟨_, .leave⟩
  | ask q next =>
    right
    cases hq : c.reply q with
    | now p =>
      obtain ⟨r, hr⟩ := p.exists_ends
      exact ⟨_, .now hq hr⟩
    | enter a pass =>
      cases hx : c.start f a with
      | error e => exact ⟨_, .refuse hq hx⟩
      | ok x => exact ⟨_, .enter hq hx⟩

end Context

end Tabletop
