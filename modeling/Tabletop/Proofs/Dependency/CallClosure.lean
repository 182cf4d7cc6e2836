import Tabletop.Proofs.Dependency.Graph
import Tabletop.Proofs.Dependency.Walk
import Tabletop.Proofs.Evaluation.Depth

/-! The programs in the closure of a program's calls are those that an evaluator inside of the
program may come to run by applying what statements name. -/

namespace Tabletop

open Relation (ReflTransGen)

/-- Calls lead from the first program to the second, which is defined. -/
def Rulebook.Reaches (b : Rulebook) (id other : ProgramId) : Prop :=
  ReflTransGen b.Calls id other ∧ ∃ p, b.program? other = some p

namespace Context

variable {α : Type} {c : Context} {f g : Frame} {id other top : ProgramId} {args : List Value}

/-- Inside of a program, the evaluator applies what one of its statements names, and with that it
runs a program. Which arguments it applies it to, and how the statements before it end, is left
open. -/
inductive Applies (c : Context) (f : Frame) : Frame → Prop
  | run {id other : ProgramId} {p : Program} {s : Statement} {args : List Value}
      {x : Inquiry Outcome} :
      f.running.head? = some id → c.rulebook.program? id = some p → s ∈ p.statements →
      c.reply (.apply s.function args) = .enter (.run other args) (fun r => r) →
      c.start f (.run other args) = .ok x → Applies c f (f.enter (.run other args))

/-- Once a new evaluator runs the first program, applying alone may lead it into the second. -/
def MayRun (c : Context) (id other : ProgramId) : Prop :=
  ∃ args x g, c.start {} (.run id args) = .ok x ∧
    ReflTransGen c.Applies (Frame.enter {} (.run id args)) g ∧ g.running.head? = some other

lemma reply_apply {name : FunctionId} :
    c.reply (.apply name args) = .enter (.run other args) (fun r => r) ↔
      c.rulebook.function? name = none ∧ (∃ p, c.rulebook.program? name = some p) ∧
        name = other := by
  cases hf : c.rulebook.function? name with
  | some t => simp [reply, hf]
  | none =>
    cases hp : c.rulebook.program? name with
    | none => simp [reply, hf, hp]
    | some p =>
      have hreply : c.reply (.apply name args) = .enter (.run name args) (fun r => r) := by
        simp only [reply, hf, hp]
        rfl
      simp [hreply]

lemma applies_iff : c.Applies f g ↔ ∃ id other args x, f.running.head? = some id ∧
    c.rulebook.Calls id other ∧ c.start f (.run other args) = .ok x ∧
      g = f.enter (.run other args) := by
  constructor
  · rintro ⟨hid, hp, hs, hreply, hx⟩
    obtain ⟨hf, _, rfl⟩ := reply_apply.1 hreply
    exact ⟨_, _, _, _, hid, Rulebook.calls_of_applied hp (List.mem_map_of_mem hs) hf, hx, rfl⟩
  · rintro ⟨id, other, args, x, hid, ⟨p, hp, ho⟩, hx, rfl⟩
    obtain ⟨happlied, hf⟩ := List.mem_filter.1 ho
    obtain ⟨s, hs, rfl⟩ := List.mem_map.1 happlied
    obtain ⟨_, q, hq, _⟩ := start_run hx
    exact .run hid hp hs (reply_apply.2 ⟨by simpa using hf, ⟨q, hq⟩, rfl⟩) hx

structure Inside (c : Context) (f : Frame) (id : ProgramId) (g : Frame) : Prop where
  evaluating : g.evaluating = f.evaluating
  running : ∃ top stack, g.running = top :: stack ++ f.running ∧
    ∀ other ∈ top :: stack, c.rulebook.Reaches id other

lemma inside_enter {x : Inquiry Outcome} (h : c.start f (.run id args) = .ok x) :
    c.Inside f id (f.enter (.run id args)) := by
  obtain ⟨_, p, hp, _⟩ := start_run h
  exact ⟨rfl, id, [], rfl, by simpa using ⟨.refl, p, hp⟩⟩

lemma Inside.applies {g' : Frame} (h : c.Inside f id g) (hg : c.Applies g g') :
    c.Inside f id g' := by
  obtain ⟨hevaluating, top, stack, hrunning, hreaches⟩ := h
  obtain ⟨caller, other, args, x, hcaller, hcalls, hx, rfl⟩ := applies_iff.1 hg
  obtain ⟨_, p, hp, _⟩ := start_run hx
  obtain rfl : top = caller := by simpa [hrunning] using hcaller
  refine ⟨hevaluating, other, top :: stack, by simp [Frame.enter, hrunning], ?_⟩
  exact List.forall_mem_cons.2 ⟨⟨(hreaches top (by simp)).1.tail hcalls, p, hp⟩, hreaches⟩

lemma inside_of_applies {x : Inquiry Outcome} (h : c.start f (.run id args) = .ok x)
    (hg : ReflTransGen c.Applies (f.enter (.run id args)) g) : c.Inside f id g := by
  induction hg with
  | refl => exact inside_enter h
  | tail _ hg ih => exact ih.applies hg

lemma reaches_of_mayRun (h : c.MayRun id other) : c.rulebook.Reaches id other := by
  obtain ⟨args, x, g, hx, hg, hother⟩ := h
  obtain ⟨_, top, stack, hrunning, hreaches⟩ := inside_of_applies hx hg
  obtain rfl : top = other := by simpa [hrunning] using hother
  exact hreaches top (by simp)

section Room

variable (hroom : c.rulebook.programs.toList.length ≤ c.limits.invocations.toNat)

include hroom

lemma exists_start (args : List Value) (hf : f.Sound c) (hn : id ∉ f.running)
    (hid : ∃ p, c.rulebook.program? id = some p) : ∃ x, c.start f (.run id args) = .ok x := by
  obtain ⟨p, hp⟩ := hid
  have hlen := hf.length_running_lt (Rulebook.mem_programIds_of_program? hp) hn
  refine ⟨(p.execute args).run, ?_⟩
  simp only [start, hp]
  rw [if_neg hn, if_neg (by omega)]

lemma exists_applies {rest : List ProgramId} (hf : f.Sound c) (hrunning : f.running = top :: rest)
    (hpath : c.rulebook.CallsPast rest top other)
    (hother : ∃ p, c.rulebook.program? other = some p) :
    ∃ g, ReflTransGen c.Applies f g ∧ g.running.head? = some other := by
  -- each program that is entered leaves less room for the calls that are still to be made
  induction hn : f.room c using Nat.strongRecOn generalizing f top rest with
  | _ n ih =>
    subst hn
    rcases hpath.split top with ⟨h, _⟩ | rfl | ⟨next, hcalls, hnext, hpath⟩
    · exact absurd rfl h
    · exact ⟨f, .refl, by simp [hrunning]⟩
    · rw [← hrunning] at hnext hpath
      have hdefined := Rulebook.defined_of_callsPast hpath hother
      obtain ⟨x, hx⟩ := exists_start hroom [] hf hnext hdefined
      have happlies : c.Applies f (f.enter (.run next [])) :=
        applies_iff.2 ⟨top, next, [], x, by simp [hrunning], hcalls, hx, rfl⟩
      obtain ⟨g, hg, hhead⟩ := ih _ (room_enter_lt hx) (hf.enter hx) rfl hpath rfl
      exact ⟨g, .head happlies hg, hhead⟩

lemma mayRun_of_reaches (h : c.rulebook.Reaches id other) : c.MayRun id other := by
  obtain ⟨hpath, hother⟩ := h
  rw [← Rulebook.callsPast_nil] at hpath
  have hdefined := Rulebook.defined_of_callsPast hpath hother
  obtain ⟨x, hx⟩ := exists_start (f := {}) hroom [] .new (by simp) hdefined
  obtain ⟨g, hg, hhead⟩ := exists_applies hroom (Frame.Sound.new.enter hx) rfl hpath hother
  exact ⟨[], x, g, hx, hg, hhead⟩

end Room

/-- What an activity hands down to those that it has entered holds at every moment, of one of them,
until the activity is left. -/
lemma within_activity {motive : Frame → Activity → Prop}
    (entered : ∀ g a b y, motive g a → c.Leads a.vertex b.vertex → c.start g b = .ok y →
      motive (g.enter b) b)
    {a : Activity} {x : Inquiry Outcome} {rest : Outcome → Course α} {m : Moment α}
    (hx : c.start f a = .ok x) (ha : motive (f.enter a) a)
    (h : ReflTransGen c.Step ⟨f.enter a, x.course rest⟩ m) :
    (∃ b, motive m.frame b) ∨ ∃ r, ReflTransGen c.Step ⟨f.enter a, rest r⟩ m := by
  induction f, a using activity_induction (c := c) generalizing x rest with
  | step f a ih =>
    have hconfined : x.Confined (c.Aims a.vertex) fun _ => True :=
      start_confined hx fun _ _ => trivial
    replace ih := ih x hx
    clear hx
    induction x with
    | done r => exact .inr ⟨r, h⟩
    | ask q next ihx =>
      obtain ⟨hq, hnext⟩ := hconfined
      replace hnext (r) := hnext r fun _ _ => trivial
      obtain rfl | ⟨n, hs, h⟩ := h.cases_head
      · exact .inl ⟨a, ha⟩
      · cases hr : c.reply q with
        | now p =>
          obtain ⟨r, _, rfl⟩ := step_now hr hs
          exact ihx r h (hnext r)
        | enter b pass =>
          cases hy : c.start (f.enter a) b with
          | error e =>
            obtain rfl := step_refused hr hy hs
            exact ihx _ h (hnext _)
          | ok y =>
            obtain rfl := step_entered hr hy hs
            have hb := entered _ a b y ha (hq b pass hr) hy
            -- the moment lies inside of what is entered, or after it
            obtain hm | ⟨r, h⟩ := ih b hy hb h
            · exact .inl hm
            · obtain rfl | ⟨n, hs, h⟩ := h.cases_head
              · exact .inl ⟨b, hb⟩
              · obtain rfl := step_left hs
                exact ihx _ h (hnext _)

/-- The frame is that of a program which was run by applying names since `id` was run in `f`, unless
a variable is being evaluated in it that was not in `f`. -/
def Under (c : Context) (f : Frame) (id : ProgramId) (args : List Value) (g : Frame)
    (a : Activity) : Prop :=
  f.evaluating.length < g.evaluating.length ∨
    ReflTransGen c.Applies (f.enter (.run id args)) g ∧
      ∃ top args', a = .run top args' ∧ g.running.head? = some top

lemma under_enter {x y : Inquiry Outcome} {a b : Activity} (hx : c.start f (.run id args) = .ok x)
    (ha : c.Under f id args g a) (hb : c.Leads a.vertex b.vertex) (hy : c.start g b = .ok y) :
    c.Under f id args (g.enter b) b := by
  obtain hdeep | ⟨hg, top, args', rfl, htop⟩ := ha
  · refine .inl (Nat.lt_of_lt_of_le hdeep ?_)
    cases b <;> simp [Frame.enter]
  · cases b with
    | evaluate v =>
      have hevaluating := (inside_of_applies hx hg).evaluating
      exact .inl (by simp [Frame.enter, hevaluating])
    | run other args' =>
      cases hb with
      | calls hcalls =>
        have happlies : c.Applies g (g.enter (.run other args')) :=
          applies_iff.2 ⟨top, other, args', y, htop, hcalls, hy, rfl⟩
        exact .inr ⟨hg.tail happlies, other, args', rfl, rfl⟩

lemma opening_run : c.opening (.run id args) f =
    ⟨f, .ask (.enter (.run id args)) fun r => .done (r.map Answer.value)⟩ := by
  refine congrArg (Moment.mk f) (congrArg (Course.ask _) (funext fun r => ?_))
  cases r <;> rfl

lemma inside_of_moment {m : Moment (Except RuleError Answer)}
    (h : ReflTransGen c.Step (c.opening (.run id args) f) m)
    (hm : m.frame.evaluating = f.evaluating) : m.frame = f ∨ c.Inside f id m.frame := by
  have last {r : Except RuleError Answer} (h : ReflTransGen c.Step ⟨f, .done r⟩ m) :
      m.frame = f := by
    obtain rfl | ⟨n, hs, _⟩ := h.cases_head
    · rfl
    · cases hs
  rw [opening_run] at h
  obtain rfl | ⟨n, hs, h⟩ := h.cases_head
  · exact .inl rfl
  · cases hx : c.start f (.run id args) with
    | error e =>
      obtain rfl := step_refused rfl hx hs
      exact .inl (last h)
    | ok x =>
      obtain rfl := step_entered rfl hx hs
      have hunder : c.Under f id args (f.enter (.run id args)) (.run id args) :=
        .inr ⟨.refl, id, args, rfl, rfl⟩
      obtain ⟨b, hdeep | ⟨hg, _⟩⟩ | ⟨r, h⟩ :=
        within_activity (fun g a b y ha hb hy => under_enter hx ha hb hy) hx hunder h
      · exact absurd hdeep (by simp [hm])
      · exact .inr (inside_of_applies hx hg)
      · obtain rfl | ⟨n, hs, h⟩ := h.cases_head
        · exact .inr (inside_enter hx)
        · obtain rfl := step_left hs
          exact .inl (last h)

end Context

/-- A walk through calls comes to an end in whatever order it takes the pending programs, and what
it has found then is what `readBy` lists: what those programs read that calls lead to. A name of no
program reads nothing. By applying what statements name, the evaluator may come to run no other
programs, and where it has room for all of them it may come to run each of these. In no run of a
program is another one running, as long as no variable is being evaluated inside of it. -/
theorem call_closure_exact (c : Context) (id : ProgramId) :
    let b := c.rulebook
    ((∃ visited, ReflTransGen b.Turn (.start id) ⟨visited, [], b.readBy id⟩) ∧
      (∀ turns : List Walk, (.start id :: turns).IsChain b.Turn →
        turns.length ≤ 1 + (b.programs.toList.map fun p => (b.calls p).length).sum) ∧
      ∀ w, ReflTransGen b.Turn (.start id) w →
        (w.pending ≠ [] → ∃ v, b.Turn w v) ∧
        (w.pending = [] → ∀ r, r ∈ w.found ↔ r ∈ b.readBy id)) ∧
    (∀ r, r ∈ b.readBy id ↔
      ∃ other p, ReflTransGen b.Calls id other ∧ b.program? other = some p ∧ r ∈ p.refs) ∧
    (b.program? id = none → b.readBy id = []) ∧
    (∀ other, c.MayRun id other → b.Reaches id other) ∧
    (b.programs.toList.length ≤ c.limits.invocations.toNat →
      ∀ other, b.Reaches id other → c.MayRun id other) ∧
    ∀ args f m, ReflTransGen c.Step (c.opening (.run id args) f) m →
      m.frame.evaluating = f.evaluating →
        ∀ other ∈ m.frame.running, other ∈ f.running ∨ b.Reaches id other := by
  intro b
  have hread (r : VariableRef) : r ∈ b.readBy id ↔
      ∃ other p, ReflTransGen b.Calls id other ∧ b.program? other = some p ∧ r ∈ p.refs := by
    simp [Rulebook.mem_readBy, Rulebook.Names]
  refine ⟨⟨Rulebook.walk_readByAll [], fun turns h => ?_, fun w hw =>
    ⟨Rulebook.exists_turn, fun hdone r => Rulebook.mem_found hw hdone⟩⟩, hread, fun hid => ?_,
    fun other => Context.reaches_of_mayRun, fun hroom other => Context.mayRun_of_reaches hroom,
    fun args f m hm hevaluating other hother => ?_⟩
  · simpa [Rulebook.turnsLeft, Rulebook.callsLeft, Walk.start] using Rulebook.length_turns_le h
  · refine List.eq_nil_iff_forall_not_mem.2 fun r hr => ?_
    obtain ⟨other, p, hpath, hp, _⟩ := (hread r).1 hr
    rw [← Rulebook.callsPast_nil] at hpath
    rw [Rulebook.eq_of_callsPast hid hpath, hid] at hp
    cases hp
  · obtain hm | ⟨_, top, stack, hrunning, hreaches⟩ := Context.inside_of_moment hm hevaluating
    · exact .inl (hm ▸ hother)
    · rw [hrunning] at hother
      exact (List.mem_append.1 hother).symm.imp_right (hreaches other)

namespace Volley

def skill : VariableId := { name := "skill" }

def chance : VariableId := { name := "chance" }

def aim : Program where
  id := "aim"
  label := "Aim"
  signature := ⟨[.number], .number⟩
  statements := [⟨"aimed", "strike", [.reference (.number (.variable (.id skill)))]⟩]
  resultBinding := "aimed"

def luck : Program where
  id := "luck"
  label := "Luck"
  signature := ⟨[], .number⟩
  statements := [⟨"drawn", "luck", [.reference (.number (.variable (.id chance)))]⟩]
  resultBinding := "drawn"

def strike : Program where
  id := "strike"
  label := "Strike"
  signature := ⟨[], .number⟩
  statements := [⟨"aimed", "aim", []⟩, ⟨"drawn", "luck", []⟩, ⟨"lost", "gone", []⟩]
  resultBinding := "aimed"

def volley : Context where
  rulebook := {
    functions := ⟨[⟨"luck", "Luck", "", ⟨[], .number⟩, [⟨[], .number 1⟩]⟩], by simp⟩
    programs := ⟨[aim, luck, strike], by decide⟩ }
  store := ⟨⟨[], by simp⟩⟩

def turns : List Walk :=
  [⟨["strike"], ["aim", "gone"], []⟩, ⟨["aim", "strike"], ["strike", "gone"], [.id skill]⟩,
    ⟨["aim", "strike"], ["gone"], [.id skill]⟩, ⟨["aim", "strike"], [], [.id skill]⟩]

lemma isChain_turns : (Walk.start "strike" :: turns).IsChain volley.rulebook.Turn := by
  refine .cons_cons ?_ (.cons_cons ?_ (.cons_cons ?_ (.cons_cons ?_ (.singleton _))))
  · exact Rulebook.turn_read (p := strike) (by decide) rfl
  · exact Rulebook.turn_read (p := aim) (by decide) rfl
  · exact Rulebook.turn_drop (.inl (by decide))
  · exact Rulebook.turn_drop (.inr rfl)

lemma walk_turns : ReflTransGen volley.rulebook.Turn (.start "strike")
    ⟨["aim", "strike"], [], [.id skill]⟩ :=
  List.relationReflTransGen_of_exists_isChain_cons turns isChain_turns rfl

lemma exists_moment : ∃ left, ReflTransGen volley.Step (volley.opening (.run "strike" []) {})
    ⟨(Frame.enter {} (.run "strike" [])).enter (.run "aim" []), left⟩ := by
  obtain ⟨next, hnext⟩ : ∃ next, (strike.execute []).run = .ask (.apply "aim" []) next := ⟨_, rfl⟩
  have hstrike : volley.start {} (.run "strike" []) = .ok (.ask (.apply "aim" []) next) :=
    congrArg Except.ok hnext
  rw [Context.opening_run]
  exact ⟨_, .tail (.single (.enter rfl hstrike)) (.enter rfl rfl)⟩

end Volley

open Volley in
theorem call_closure_exact_volley :
    let b := volley.rulebook
    (((Walk.start "strike" :: turns).IsChain b.Turn ∧
        turns.length ≤ 1 + (b.programs.toList.map fun p => (b.calls p).length).sum) ∧
      ∀ r, r ∈ b.readBy "strike" ↔ r = .id skill) ∧
    (b.program? "gone" = none ∧ b.readBy "gone" = []) ∧
    (b.programs.toList.length ≤ volley.limits.invocations.toNat ∧
      volley.MayRun "strike" "aim" ∧ ¬ volley.MayRun "strike" "luck") ∧
    ∃ m, ReflTransGen volley.Step (volley.opening (.run "strike" []) {}) m ∧
      m.frame.evaluating = [] ∧ m.frame.running = ["aim", "strike"] ∧
        ∀ other ∈ m.frame.running, b.Reaches "strike" other := by
  intro b
  obtain ⟨⟨_, hturns, hwalks⟩, hread, _, hreaches, hmay, hmoments⟩ :=
    call_closure_exact volley "strike"
  have hfound (r : VariableRef) : r ∈ b.readBy "strike" ↔ r = .id skill := by
    rw [← (hwalks _ walk_turns).2 rfl]
    exact List.mem_singleton
  have hroom : b.programs.toList.length ≤ volley.limits.invocations.toNat := by decide
  have haim : b.Reaches "strike" "aim" := ⟨.single ⟨strike, rfl, by decide⟩, aim, rfl⟩
  have hluck : ¬ b.Reaches "strike" "luck" := by
    intro ⟨hpath, _⟩
    have hchance : .id chance ∈ b.readBy "strike" :=
      (hread _).2 ⟨"luck", luck, hpath, rfl, by decide⟩
    exact absurd ((hfound _).1 hchance) (by decide)
  obtain ⟨left, hleft⟩ := exists_moment
  refine ⟨⟨⟨isChain_turns, hturns _ isChain_turns⟩, hfound⟩,
    ⟨rfl, (call_closure_exact volley "gone").2.2.1 rfl⟩,
    ⟨hroom, hmay hroom _ haim, fun h => hluck (hreaches _ h)⟩,
    _, hleft, rfl, rfl, fun other hother => ?_⟩
  exact (hmoments [] {} _ hleft rfl other hother).resolve_left (by simp)

end Tabletop
