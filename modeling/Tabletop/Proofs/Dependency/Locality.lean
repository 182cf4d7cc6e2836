import Tabletop.Proofs.Dependency.Paths
import Tabletop.Proofs.Evaluation.Unwinding
import Tabletop.Proofs.Store.Sight

namespace Tabletop

open Relation (ReflTransGen)

variable {α : Type} {known : VariableId → Prop} {c c' : Context}

lemma Inquiry.follow_congr {out out' : Activity → Dice.Plan Outcome} {asks : Request → Prop}
    {fails : RuleError → Prop} (hreply : ∀ q, c.reply q = c'.reply q)
    (hout : ∀ q b pass, asks q → c.reply q = .enter b pass → out b = out' b)
    (hfails : ∀ e, fails e) {x : Inquiry (Except RuleError α)} (hx : x.Confined asks fails) :
    x.follow c out = x.follow c' out' := by
  induction x with
  | done r => rfl
  | ask q next ih =>
    have hnext (r : Except RuleError q.Answer) : (next r).follow c out = (next r).follow c' out' :=
      ih r (hx.2 r fun e _ => hfails e)
    cases hr : c.reply q with
    | now p => rw [follow_now hr, follow_now (hreply q ▸ hr)]; simp only [hnext]
    | enter b pass =>
      rw [follow_enter hr, follow_enter (hreply q ▸ hr), hout q b pass hx.1 hr]
      simp only [hnext]

lemma Variable.evaluate_eq {b : Rulebook} {v w : Variable} (h : v.sight known = w.sight known)
    (hv : known v.id) : v.evaluate b = w.evaluate b := by
  have hid : v.id = w.id := congrArg Sight.id h
  have hsetting : v.setting = w.setting := by
    simpa [sight, hv, hid ▸ hv] using congrArg Sight.setting h
  rw [evaluate, evaluate, hsetting, hid]

namespace Context

lemma reply_value (r : VariableRef) : c.reply (.value r) =
    match (c.store.resolveSingle r).map Variable.id with
    | .ok i => .enter (.evaluate i) id
    | .error e => .now (return .error e) := by
  rw [reply]
  cases c.store.resolveSingle r <;> rfl

section Seen

variable {s : Store} (h : c.store.seen known = s.seen known)

include h

lemma reply_seen (q : Request) : c.reply q = { c with store := s }.reply q := by
  cases q with
  | enter | entry | roll | apply => rfl
  | value r => rw [reply_value, reply_value, Store.id_resolveSingle h r]

lemma start_seen {f : Frame} {a : Activity} (ha : ∀ id, a = .evaluate id → known id) :
    c.start f a = { c with store := s }.start f a := by
  cases a with
  | run => rfl
  | evaluate id =>
    have hget := Store.sight_get? h id
    simp only [start]
    cases hs : c.store.get? id <;> cases ht : s.get? id <;> simp only [hs, ht] at hget ⊢
    · cases hget
    · cases hget
    · rw [Variable.evaluate_eq (Option.some.inj hget) (Store.id_of_get? hs ▸ ha id rfl)]

end Seen

variable {id : VariableId} {s : Store}
  (h : c.store.seen (ReflTransGen c.Depends id) = s.seen (ReflTransGen c.Depends id))

include h

lemma outcome_seen {f : Frame} {a : Activity} (ha : ReflTransGen c.Leads (.slot id) a.vertex) :
    c.outcome f a = { c with store := s }.outcome f a := by
  induction f, a using activity_induction (c := c) with
  | step f a ih =>
    -- both stores start the same inquiry and answer it alike, so only what is entered is left
    have hstart : c.start f a = { c with store := s }.start f a :=
      start_seen h fun x hx => depends_of_reaches (by rwa [hx] at ha)
    cases hx : c.start f a with
    | error e => rw [outcome_refused hx, outcome_refused (hstart ▸ hx)]
    | ok x =>
      rw [outcome_started hx, outcome_started (hstart ▸ hx)]
      refine Inquiry.follow_congr (reply_seen h) (fun q b pass hq hr => ?_) (fun _ => trivial)
        (start_confined hx fun _ _ => trivial)
      exact ih x hx b (ha.tail (hq b pass hr))

lemma fresh_seen : c.fresh (Evaluation.enter (.evaluate id)).run =
    { c with store := s }.fresh (Evaluation.enter (.evaluate id)).run := by
  simp only [fresh_eq, result_enter]
  exact outcome_seen h .refl

end Context

/-- The value of a variable and the dice drawn for it stay the same, whoever rolls them, when other
variables than those that it depends on are set anew, and whatever is added to histories. -/
theorem evaluation_depends_on_dependencies (c : Context) (id : VariableId) {δ : Type}
    (face : δ → ℕ → ℕ × δ) (d : δ) :
    let value (s : Store) :=
      ({ c with store := s }.fresh (Evaluation.enter (.evaluate id)).run).play face d
    (∀ other v setting, c.store.get? other = some v → setting.type = v.type →
      ¬ ReflTransGen c.Depends id other →
      ∃ s, c.store.set other setting = .ok s ∧ value s = value c.store) ∧
    ∀ changes : List Store.Change,
      (∀ other setting, .set other setting ∈ changes → ¬ ReflTransGen c.Depends id other) →
      value (changes.foldl Store.changed c.store) = value c.store := by
  intro value
  have hvalue {s : Store}
      (h : s.seen (ReflTransGen c.Depends id) = c.store.seen (ReflTransGen c.Depends id)) :
      value s = value c.store := by
    simp only [value, Context.fresh_seen h.symm]
  refine ⟨fun other v setting hv ht hid => ?_, fun changes h => hvalue (Store.seen_changes h)⟩
  have hset : c.store.set other setting =
      .ok ⟨c.store.slots.replace { v with setting }⟩ := by
    rw [Store.set, bind_eq_ok]
    exact ⟨v, Store.get_eq_ok.2 hv, by rw [if_pos ht.symm]; rfl⟩
  exact ⟨_, hset, hvalue (Store.seen_set hid hset)⟩

namespace Locality

def base : VariableId := { name := "base" }

def bonus : VariableId := { name := "bonus" }

def copy : VariableId := { name := "copy" }

def copied : Context where
  rulebook := {}
  store := ⟨⟨[⟨base, "", "", ∅, .number (.literal 1), []⟩, ⟨bonus, "", "", ∅, .text .unknown, []⟩,
    ⟨copy, "", "", ∅, .number (.variable base), []⟩], by decide⟩⟩

lemma not_depends_bonus : ¬ ReflTransGen copied.Depends copy bonus := by
  have hdepends {x y : VariableId} (h : copied.Depends x y) : y = base := by
    obtain ⟨v, hv, r, hr, hy⟩ := Context.depends_iff.1 h
    have hmem := List.mem_of_find?_eq_some hv
    simp only [copied, List.mem_cons, List.not_mem_nil, or_false] at hmem
    rcases hmem with rfl | rfl | rfl
    · cases hr
    · cases hr
    · cases List.mem_singleton.1 hr
      exact List.mem_singleton.1 hy
  intro h
  rcases ReflTransGen.cases_tail h with h | ⟨x, _, h⟩
  · exact absurd h (by decide)
  · exact absurd (hdepends h) (by decide)

end Locality

open Locality in
theorem evaluation_depends_on_dependencies_copied :
    let face : Unit → ℕ → ℕ × Unit := fun d _ => (1, d)
    let value (s : Store) :=
      ({ copied with store := s }.fresh (Evaluation.enter (.evaluate copy)).run).play face ()
    (∃ s, copied.store.set bonus (.text (.literal "high")) = .ok s ∧ value s = value copied.store) ∧
    value ([.set bonus (.text (.literal "low")), .record base ⟨.literal 2, none⟩].foldl
      Store.changed copied.store) = value copied.store := by
  intro face value
  obtain ⟨hset, hchanges⟩ := evaluation_depends_on_dependencies copied copy face ()
  refine ⟨hset bonus _ _ rfl rfl not_depends_bonus, hchanges _ fun other setting h => ?_⟩
  obtain rfl : other = bonus := by simp_all
  exact not_depends_bonus

end Tabletop
