import Tabletop.Proofs.Evaluation.Confinement
import Tabletop.Store.Dependency

/-! What the references, summations, programs and variables of a rulebook ask for: the variables
that their texts name, the functions that they apply and the programs that they run. -/

namespace Tabletop

open Evaluation

/-- The variables that a setting names, in its summation too but in no program. -/
def Setting.named (b : Rulebook) (s : Setting) : List VariableRef :=
  s.refs ++ match s with
    | .number (.summation id) => ((b.summation? id).map Summation.refs).getD []
    | _ => []

lemma Setting.mem_named {b : Rulebook} {s : Setting} {i : Invocation}
    (h : s.invocation? = some i) {r : VariableRef} (hr : r ∈ i.refs) : r ∈ s.named b := by
  have hrefs : s.refs = i.refs := by
    unfold refs
    split
    · cases h
    · rw [h]
      rfl
  simp [named, hrefs, hr]

/-- Errors that say neither that something is nested, nor that a statement comes too early, that
there are too many parameters, or what is wrong with dice. -/
def RuleError.Ordinary : RuleError → Prop
  | forwardReference .. | tooManyParameters .. | dice _ => False
  | e => e.Plain

lemma RuleError.Ordinary.plain {e : RuleError} (h : e.Ordinary) : e.Plain := by
  cases e <;> trivial

structure Contract.Lenient (k : Contract) : Prop where
  raises : ∀ e, e.Ordinary → k.raises e
  entry : ∀ r, k.asks (.entry r)

lemma Contract.lenient_plain {asks : Request → Prop} (hentry : ∀ r, asks (.entry r)) :
    (plain asks).Lenient := ⟨fun _ he => he.plain, hentry⟩

lemma Signature.fault_of_checkArguments {s : Signature} {target : String} {args : List Value}
    {e : RuleError} (h : s.checkArguments target args = .error e) :
    e.Ordinary ∨ maxParameters < args.length ∧ e = .tooManyParameters args.length maxParameters := by
  rw [checkArguments] at h
  split at h
  · rename_i hmany
    cases h
    exact .inr ⟨hmany, rfl⟩
  · split at h
    · cases h
      exact .inl trivial
    · split at h <;> cases h
      exact .inl trivial

lemma Signature.ordinary_of_checkResult {s : Signature} {target : String} {v : Value}
    {e : RuleError} (h : s.checkResult target v = .error e) : e.Ordinary := by
  rw [checkResult] at h
  split at h <;> cases h
  trivial

def DiceRef.May (k : Contract) : DiceRef → Dice.Roll → Prop
  | literal r, d => d = r
  | .variable v, d => k.answers (.value v) (.diceRoll d)

variable {α : Type} {k : Contract} (hk : k.Lenient)

include hk

lemma Evaluation.strict_typed {good : α → Prop} {r : Except Mismatch α}
    (h : ∀ a, r = .ok a → good a) : Strict k good (typed r) := by
  refine strict_lift (fun a ha => ?_) fun e he => ?_
  · cases r with
    | error m => cases ha
    | ok b =>
      cases ha
      exact h a rfl
  · cases r with
    | error m =>
      cases he
      exact hk.raises _ trivial
    | ok b => cases he

lemma BooleanRef.strict (r : BooleanRef) (hv : ∀ v ∈ r.refs, k.asks (.value v)) :
    Strict k (fun _ => True) r.resolve := by
  cases r with
  | literal b => exact strict_pure trivial
  | «variable» v =>
    exact (strict_ask (hv v (by simp [refs]))).bind fun _ _ => strict_typed hk fun _ _ => trivial

lemma NumberRef.strict (r : NumberRef) (hv : ∀ v ∈ r.refs, k.asks (.value v)) :
    Strict k (fun _ => True) r.resolve := by
  cases r with
  | literal x => exact strict_pure trivial
  | «variable» v =>
    exact (strict_ask (hv v (by simp [refs]))).bind fun _ _ => strict_typed hk fun _ _ => trivial
  | entry r => exact (strict_ask (hk.entry r)).bind fun _ _ => strict_typed hk fun _ _ => trivial

lemma DiceRef.strict (r : DiceRef) (hv : ∀ v ∈ r.refs, k.asks (.value v)) :
    Strict k (r.May k) r.resolve := by
  cases r with
  | literal r => exact strict_pure rfl
  | «variable» v =>
    refine (strict_ask (hv v (by simp [refs]))).bind fun w hw => strict_typed hk fun d hd => ?_
    cases w <;> cases hd
    exact hw

lemma DataRef.strict (r : DataRef) (hv : ∀ v ∈ r.refs, k.asks (.value v)) :
    Strict k (fun _ => True) r.resolve := by
  cases r with
  | boolean r => exact (r.strict hk hv).bind fun _ _ => strict_pure trivial
  | number r => exact (r.strict hk hv).bind fun _ _ => strict_pure trivial
  | diceRoll r => exact (r.strict hk hv).bind fun _ _ => strict_pure trivial

lemma Invocation.strict (i : Invocation) (hv : ∀ v ∈ i.refs, k.asks (.value v))
    (hmany : maxParameters < i.arguments.length →
      k.raises (.tooManyParameters i.arguments.length maxParameters))
    (hrun : ∀ args, args.length = i.arguments.length → k.asks (.enter (.run i.program args))) :
    Strict k (fun _ => True) i.invoke := by
  have harguments : Strict k (fun args => args.length = i.arguments.length) i.resolveArguments := by
    rw [resolveArguments]
    split
    · rename_i h
      exact strict_throw (hmany h)
    · refine strict_mapM fun r hr => r.strict hk fun v hv' => hv v ?_
      exact List.mem_flatMap.2 ⟨r, hr, hv'⟩
  exact harguments.bind fun args h => (strict_ask (hrun args h)).mono fun _ _ => trivial

lemma Term.strict (t : Term) (hv : ∀ v ∈ t.refs, k.asks (.value v))
    (hroll : ∀ r d, t = .diceRoll r → r.May k d → k.asks (.roll d)) :
    Strict k (fun _ => True) t.evaluate := by
  cases t with
  | number r => exact r.strict hk hv
  | diceRoll r =>
    refine (r.strict hk hv).bind fun d hd => ?_
    exact (strict_ask (hroll r d rfl hd)).mono fun _ _ => trivial
  | conditional c t f =>
    simp only [refs, List.mem_append] at hv
    refine (c.strict hk fun v h => hv v (.inl (.inl h))).bind fun b _ => ?_
    cases b with
    | true => exact t.strict hk fun v h => hv v (.inl (.inr h))
    | false => exact f.strict hk fun v h => hv v (.inr h)

lemma Summation.strict (s : Summation) (hv : ∀ v ∈ s.refs, k.asks (.value v))
    (hroll : ∀ t ∈ s.terms, ∀ r d, t.term = .diceRoll r → r.May k d → k.asks (.roll d)) :
    Strict k (fun _ => True) s.evaluate := by
  refine strict_foldlM (fun total t ht => ?_) trivial
  refine (t.term.strict hk (fun v h => hv v ?_) (hroll t ht)).bind fun _ _ => strict_pure trivial
  exact List.mem_flatMap.2 ⟨t, ht, h⟩

lemma Parameter.strict (program : ProgramId) (place : ℕ) (args : List Value)
    (bindings : List (String × Value)) (p : Parameter)
    (hv : ∀ r, p = .reference r → ∀ v ∈ r.refs, k.asks (.value v))
    (hforward : ∀ name, p = .binding name → name ∉ bindings.map Prod.fst →
      k.raises (.forwardReference program place name)) :
    Strict k (fun _ => ∀ name, p = .binding name → name ∈ bindings.map Prod.fst)
      (p.resolve program place args bindings) := by
  cases p with
  | binding name =>
    rw [resolve]
    split
    · rename_i v hsome
      refine strict_pure fun other hother => ?_
      cases hother
      by_contra hmem
      have hnone : bindings.lookup name = none := by
        rw [List.lookup_eq_none_iff]
        intro pair hpair
        by_contra heq
        have hname : name = pair.1 := by simpa using heq
        exact hmem (List.mem_map.2 ⟨pair, hpair, hname.symm⟩)
      cases hnone.symm.trans hsome
    · rename_i hnone
      refine strict_throw (hforward name rfl fun hmem => ?_)
      obtain ⟨⟨_, v⟩, hpair, rfl⟩ := List.mem_map.1 hmem
      exact absurd (List.lookup_eq_none_iff.1 hnone _ hpair) (by simp)
  | argument i =>
    rw [resolve]
    split
    · exact strict_throw (hk.raises _ trivial)
    · split
      · exact strict_pure fun _ => nofun
      · exact strict_throw (hk.raises _ trivial)
  | reference r => exact (r.strict hk (hv r rfl)).mono fun _ _ _ => nofun

lemma Statement.strict_parameters (program : ProgramId) (place : ℕ) (args : List Value)
    (bindings : List (String × Value)) (s : Statement) (hv : ∀ v ∈ s.refs, k.asks (.value v))
    (hforward : ∀ name, (s.reads.filter (· ∉ bindings.map Prod.fst)).head? = some name →
      k.raises (.forwardReference program place name)) :
    Strict k (fun vs => vs.length = s.parameters.length ∧
        s.reads.filter (· ∉ bindings.map Prod.fst) = [])
      (s.parameters.mapM (Parameter.resolve program place args bindings)) := by
  obtain ⟨binding, function, parameters⟩ := s
  induction parameters with
  | nil => exact strict_pure ⟨rfl, rfl⟩
  | cons p ps ih =>
    have hrefs : ∀ v ∈ refs ⟨binding, function, ps⟩, k.asks (.value v) :=
      fun v h => hv v (List.mem_append_right _ h)
    rw [List.mapM_cons]
    refine (p.strict hk program place args bindings ?_ ?_).bind fun v hbound => ?_
    · rintro r rfl v h
      exact hv v (List.mem_append_left _ h)
    · rintro name rfl hunbound
      apply hforward
      simp [reads, hunbound]
    · have hsame : (reads ⟨binding, function, p :: ps⟩).filter (· ∉ bindings.map Prod.fst) =
          (reads ⟨binding, function, ps⟩).filter (· ∉ bindings.map Prod.fst) := by
        cases p with
        | binding name =>
          have hname : name ∈ bindings.map Prod.fst := hbound name rfl
          change (name :: reads ⟨binding, function, ps⟩).filter _ = _
          rw [List.filter_cons_of_neg (by simpa using hname)]
        | argument | reference => rfl
      rw [hsame] at hforward ⊢
      refine (ih hrefs hforward).bind fun vs hvs => strict_pure ⟨?_, hvs.2⟩
      rw [List.length_cons, List.length_cons, hvs.1]

lemma Statement.strict (program : ProgramId) (place : ℕ) (args : List Value)
    (bindings : List (String × Value)) (s : Statement) (hv : ∀ v ∈ s.refs, k.asks (.value v))
    (hmany : maxParameters < s.parameters.length →
      k.raises (.tooManyParameters s.parameters.length maxParameters))
    (hforward : ∀ name, (s.reads.filter (· ∉ bindings.map Prod.fst)).head? = some name →
      k.raises (.forwardReference program place name))
    (happly : ∀ vs, vs.length = s.parameters.length → k.asks (.apply s.function vs)) :
    Strict k (fun _ => s.reads.filter (· ∉ bindings.map Prod.fst) = [])
      (s.evaluate program place args bindings) := by
  have happly' : Strict k (fun _ => s.reads.filter (· ∉ bindings.map Prod.fst) = []) (do
      let vs ← s.parameters.mapM (Parameter.resolve program place args bindings)
      Evaluation.apply s.function vs) :=
    (s.strict_parameters hk program place args bindings hv hforward).bind fun vs h =>
      (strict_ask (happly vs h.1)).mono fun _ _ => h.2
  rw [evaluate]
  split
  · rename_i h
    exact Strict.andThen (strict_throw (hmany h)) fun _ => happly'
  · exact happly'

lemma Program.strict_runFrom (program : ProgramId) (args : List Value) (place : ℕ)
    (bindings : List (String × Value)) (statements : List Statement)
    (hv : ∀ s ∈ statements, ∀ v ∈ s.refs, k.asks (.value v))
    (hmany : ∀ s ∈ statements, maxParameters < s.parameters.length →
      k.raises (.tooManyParameters s.parameters.length maxParameters))
    (hforward : ∀ i name,
      (forwardFrom (bindings.map Prod.fst) place statements).head? = some (i, name) →
      k.raises (.forwardReference program i name))
    (happly : ∀ s ∈ statements, ∀ vs, vs.length = s.parameters.length →
      k.asks (.apply s.function vs)) :
    Strict k (fun _ => forwardFrom (bindings.map Prod.fst) place statements = [])
      (runFrom program args place bindings statements) := by
  induction statements generalizing place bindings with
  | nil => exact strict_pure rfl
  | cons s rest ih =>
    rw [runFrom]
    rw [forwardFrom] at hforward ⊢
    refine (s.strict hk program place args bindings (hv s (by simp)) (hmany s (by simp)) ?_
      (happly s (by simp))).bind fun v hnone => ?_
    · intro name hname
      apply hforward
      rw [List.head?_append, List.head?_map, hname]
      rfl
    · -- the names bound so far are those that the scan of the program has passed
      rw [hnone, List.map_nil, List.nil_append] at hforward ⊢
      exact ih (place + 1) ((s.binding, v) :: bindings) (fun t ht => hv t (by simp [ht]))
        (fun t ht => hmany t (by simp [ht])) hforward fun t ht => happly t (by simp [ht])

lemma Program.strict_first (p : Program) (args : List Value)
    (hv : ∀ v ∈ p.refs, k.asks (.value v))
    (hargs : maxParameters < args.length →
      k.raises (.tooManyParameters args.length maxParameters))
    (hmany : ∀ s ∈ p.statements, maxParameters < s.parameters.length →
      k.raises (.tooManyParameters s.parameters.length maxParameters))
    (hforward : ∀ i name, p.forwardReferences.head? = some (i, name) →
      k.raises (.forwardReference p.id i name))
    (happly : ∀ s ∈ p.statements, ∀ vs, vs.length = s.parameters.length →
      k.asks (.apply s.function vs)) :
    Strict k (fun _ => p.forwardReferences = []) (p.execute args) := by
  have hcheck : Strict k (fun _ => True)
      (liftM (p.signature.checkArguments p.id args) : Evaluation Unit) := by
    refine strict_lift (fun _ _ => trivial) fun e he => ?_
    rcases Signature.fault_of_checkArguments he with he | ⟨h, rfl⟩
    · exact hk.raises e he
    · exact hargs h
  refine hcheck.bind fun _ _ => ?_
  refine Strict.bind (strict_runFrom hk p.id args 0 [] p.statements
    (fun s hs v hv' => hv v (List.mem_flatMap.2 ⟨s, hs, hv'⟩)) hmany hforward happly)
    fun bindings hnone => ?_
  split
  · exact strict_throw (hk.raises _ trivial)
  · refine Strict.andThen (strict_lift (fun _ _ => trivial) fun e he => ?_)
      fun _ => strict_pure hnone
    exact hk.raises e (Signature.ordinary_of_checkResult he)

lemma Program.strict (p : Program) (args : List Value) (hv : ∀ v ∈ p.refs, k.asks (.value v))
    (hargs : maxParameters < args.length →
      k.raises (.tooManyParameters args.length maxParameters))
    (hmany : ∀ s ∈ p.statements, maxParameters < s.parameters.length →
      k.raises (.tooManyParameters s.parameters.length maxParameters))
    (hforward : ∀ i name, (i, name) ∈ p.forwardReferences →
      k.raises (.forwardReference p.id i name))
    (happly : ∀ s ∈ p.statements, ∀ vs, vs.length = s.parameters.length →
      k.asks (.apply s.function vs)) :
    Strict k (fun _ => True) (p.execute args) :=
  (p.strict_first hk args hv hargs hmany
    (fun i name h => hforward i name (List.mem_of_mem_head? h)) happly).mono fun _ _ => trivial

lemma Rulebook.strict_summation (b : Rulebook) (id : SummationId)
    (hv : ∀ v ∈ Setting.named b (.number (.summation id)), k.asks (.value v))
    (hroll : ∀ s, b.summation? id = some s → ∀ t ∈ s.terms, ∀ r d, t.term = .diceRoll r →
      r.May k d → k.asks (.roll d)) : Strict k (fun _ => True) (b.summation id) := by
  rw [summation]
  split
  · rename_i s hs
    refine s.strict hk (fun v h => hv v ?_) (hroll s hs)
    simpa [Setting.named, Setting.refs, Setting.invocation?, hs] using h
  · exact strict_throw (hk.raises _ trivial)

lemma Variable.strict (v : Variable) (b : Rulebook)
    (hv : ∀ r ∈ v.setting.named b, k.asks (.value r))
    (hid : ∀ id, .id id ∈ v.setting.named b → k.asks (.enter (.evaluate id)))
    (hmany : ∀ i, v.setting.invocation? = some i → maxParameters < i.arguments.length →
      k.raises (.tooManyParameters i.arguments.length maxParameters))
    (hrun : ∀ i, v.setting.invocation? = some i → ∀ args, args.length = i.arguments.length →
      k.asks (.enter (.run i.program args)))
    (hroll : ∀ id s, v.setting = .number (.summation id) → b.summation? id = some s →
      ∀ t ∈ s.terms, ∀ r d, t.term = .diceRoll r → r.May k d → k.asks (.roll d)) :
    Strict k (fun _ => True) (v.evaluate b) := by
  have hinvoke (i : Invocation) (t : ValueType) (h : v.setting.invocation? = some i) :
      Strict k (fun _ => True) (do typed ((← i.invoke).expect t)) :=
    (i.strict hk (fun r hr => hv r (Setting.mem_named h hr)) (hmany i h) (hrun i h)).bind
      fun _ _ => strict_typed hk fun _ _ => trivial
  have hentry (r : EntryRef) {α : Type} (f : Entry → Except Mismatch α) (g : α → Value) :
      Strict k (fun _ => True) (do return g (← typed (f (← entry r)))) :=
    (strict_ask (hk.entry r)).bind fun e _ =>
      Strict.andThen (strict_typed hk fun _ _ => trivial) fun _ => strict_pure trivial
  rw [evaluate]
  rcases hs : v.setting with s | s | s | s <;> rw [hs] at hv hid hinvoke hroll
  · cases s with
    | literal b => exact strict_pure trivial
    | program i => exact hinvoke i _ rfl
  · cases s with
    | literal x => exact strict_pure trivial
    | unknown => exact strict_throw (hk.raises _ trivial)
    | «variable» id =>
      exact (strict_ask (hid id (by simp [Setting.named, Setting.refs]))).bind fun _ _ =>
        strict_typed hk fun _ _ => trivial
    | program i => exact hinvoke i _ rfl
    | entry r => exact hentry r (·.value.toNumber) .number
    | summation id =>
      exact (b.strict_summation hk id hv fun s => hroll id s rfl).bind
        fun _ _ => strict_pure trivial
  · cases s with
    | literal s => exact strict_pure trivial
    | unknown => exact strict_throw (hk.raises _ trivial)
    | entry r => exact hentry r (·.value.toText) .text
    | program i => exact hinvoke i _ rfl
    | choice id => exact strict_throw (hk.raises _ trivial)
  · cases s with
    | literal r => exact strict_pure trivial

lemma Mechanic.strict_holds (ids : List VariableId)
    (hv : ∀ id ∈ ids, k.asks (.value (.id id))) : Strict k (fun _ => True) (holds ids) := by
  induction ids with
  | nil => exact strict_pure trivial
  | cons id ids ih =>
    refine (strict_ask (hv id (by simp))).bind fun v _ => ?_
    refine Strict.andThen (strict_typed hk fun _ _ => trivial) fun b => ?_
    cases b with
    | true => exact ih fun id h => hv id (by simp [h])
    | false => exact strict_pure trivial

end Tabletop
