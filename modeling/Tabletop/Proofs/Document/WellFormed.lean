import Tabletop.Proofs.Dice.Expression
import Tabletop.Proofs.Document.Validation
import Tabletop.Store

namespace Tabletop

open Document (Node Decoded)

variable {α : Type} {n : Node}

structure Setting.WellFormed (s : Setting) : Prop where
  arguments : ∀ i, s.invocation? = some i → i.arguments.length ≤ maxParameters
  dice : ∀ r, s = .diceRoll (.literal r) → r.fault? = none

def Program.WellFormed (p : Program) : Prop :=
  ∀ s ∈ p.statements, s.parameters.length ≤ maxParameters

def Summation.WellFormed (s : Summation) : Prop :=
  ∀ t ∈ s.terms, ∀ r, t.term = .diceRoll (.literal r) → r.fault? = none

def Mechanic.WellFormed (m : Mechanic) : Prop := ∀ v ∈ m.gains, v.setting.WellFormed

structure Rulebook.WellFormed (b : Rulebook) : Prop where
  programs : ∀ p ∈ b.programs, p.WellFormed
  summations : ∀ s ∈ b.summations, s.WellFormed
  mechanics : ∀ m ∈ b.mechanics, m.WellFormed

namespace Document.Node

lemma length_numberedFrom {before after : String} {i count : ℕ} {gap : Bool} {ms : List Node}
    (h : n.numberedFrom before after i count gap = .ok ms) : ms.length ≤ count := by
  induction count generalizing i gap ms with
  | zero =>
    cases h
    exact Nat.le_refl 0
  | succ count ih =>
    simp only [numberedFrom, bind_eq_ok] at h
    obtain ⟨m, _, h⟩ := h
    split at h
    · split at h
      · cases h
      · obtain ⟨rest, hrest, h⟩ := bind_eq_ok.1 h
        cases h
        exact Nat.succ_le_succ (ih hrest)
    · exact Nat.le_succ_of_le (ih h)

lemma length_parameters {read : Node → Decoded α} {as : List α}
    (h : n.parameters read = .ok as) : as.length ≤ maxParameters := by
  rw [parameters, bind_eq_ok] at h
  obtain ⟨ms, hms, h⟩ := h
  rw [positional, bind_eq_ok] at hms
  obtain ⟨fields, _, hms⟩ := hms
  obtain ⟨_, _, hms⟩ := bind_eq_ok.1 hms
  rw [length_of_mapM_eq_ok h]
  exact length_numberedFrom hms

end Document.Node

namespace Dice.Roll

lemma fault?_of_decode {r : Roll} (h : decode n = .ok r) : r.fault? = none := by
  rw [decode] at h
  split at h
  · split at h
    · rename_i hr
      cases h
      exact fault?_of_parse hr
    · cases h
  · simp only [decodeRecord, bind_eq_ok] at h
    obtain ⟨quantities, _, modifiers, _, name, _, h⟩ := h
    split at h
    · cases h
    · rename_i hfault
      cases h
      exact hfault

end Dice.Roll

lemma Invocation.length_of_decode {i : Invocation} (h : decode n = .ok i) :
    i.arguments.length ≤ maxParameters := by
  simp only [decode, bind_eq_ok] at h
  obtain ⟨program, _, arguments, harguments, h⟩ := h
  cases h
  exact Node.length_parameters harguments

lemma BooleanSetting.length_of_decode {i : Invocation} (h : decode n = .ok (.program i)) :
    i.arguments.length ≤ maxParameters := by
  rw [decode, bind_eq_ok] at h
  obtain ⟨case, _, h⟩ := h
  split at h <;> try simp only [bind_eq_ok] at h
  · obtain ⟨_, _, _, _, h⟩ := h
    cases h
  · obtain ⟨_, _, _, hi, h⟩ := h
    cases h
    exact Invocation.length_of_decode hi
  · cases h

lemma NumberSetting.length_of_decode {i : Invocation} (h : decode n = .ok (.program i)) :
    i.arguments.length ≤ maxParameters := by
  rw [decode, bind_eq_ok] at h
  obtain ⟨case, _, h⟩ := h
  split at h <;> try simp only [bind_eq_ok] at h
  · obtain ⟨_, _, _, _, h⟩ := h
    cases h
  · cases h
  · obtain ⟨_, _, _, _, h⟩ := h
    cases h
  · obtain ⟨_, _, _, hi, h⟩ := h
    cases h
    exact Invocation.length_of_decode hi
  · obtain ⟨_, _, _, _, h⟩ := h
    cases h
  · obtain ⟨_, _, h⟩ := h
    cases h
  · cases h

lemma TextSetting.length_of_decode {i : Invocation} (h : decode n = .ok (.program i)) :
    i.arguments.length ≤ maxParameters := by
  rw [decode, bind_eq_ok] at h
  obtain ⟨case, _, h⟩ := h
  split at h <;> try simp only [bind_eq_ok] at h
  · obtain ⟨_, _, h⟩ := h
    cases h
  · cases h
  · obtain ⟨_, _, _, _, h⟩ := h
    cases h
  · obtain ⟨_, _, _, hi, h⟩ := h
    cases h
    exact Invocation.length_of_decode hi
  · obtain ⟨_, _, h⟩ := h
    cases h
  · cases h

lemma DiceSetting.fault?_of_decode {r : Dice.Roll} (h : decode n = .ok (.literal r)) :
    r.fault? = none := by
  rw [decode, bind_eq_ok] at h
  obtain ⟨case, _, h⟩ := h
  split at h <;> try simp only [bind_eq_ok] at h
  · obtain ⟨_, _, _, hr, h⟩ := h
    cases h
    exact Dice.Roll.fault?_of_decode hr
  · cases h

lemma Setting.wellFormed_of_decode {s : Setting} (h : decode n = .ok s) : s.WellFormed := by
  rw [decode, bind_eq_ok] at h
  obtain ⟨case, _, h⟩ := h
  split at h <;> try simp only [bind_eq_ok] at h
  · obtain ⟨_, _, t, ht, h⟩ := h
    cases h
    refine ⟨fun i hi => ?_, fun _ => nofun⟩
    cases t <;> cases hi
    exact BooleanSetting.length_of_decode ht
  · obtain ⟨_, _, t, ht, h⟩ := h
    cases h
    refine ⟨fun i hi => ?_, fun _ => nofun⟩
    cases t <;> cases hi
    exact NumberSetting.length_of_decode ht
  · obtain ⟨_, _, t, ht, h⟩ := h
    cases h
    refine ⟨fun i hi => ?_, fun _ => nofun⟩
    cases t <;> cases hi
    exact TextSetting.length_of_decode ht
  · obtain ⟨_, _, t, ht, h⟩ := h
    cases h
    refine ⟨fun _ => nofun, fun r hr => ?_⟩
    cases hr
    exact DiceSetting.fault?_of_decode ht
  · cases h

namespace Variable

lemma wellFormed_of_decode {v : Variable} (h : decode n = .ok v) : v.setting.WellFormed := by
  simp only [decode, bind_eq_ok] at h
  obtain ⟨setting, hsetting, _, _, _, _, _, _, _, _, _, _, history, _, h⟩ := h
  have hwf := Setting.wellFormed_of_decode hsetting
  cases history with
  | none =>
    cases h
    exact hwf
  | some m =>
    simp only [bind_eq_ok] at h
    obtain ⟨_, _, entries, _, h⟩ := h
    split at h
    · rename_i w hw
      cases h
      rw [withHistory?] at hw
      split at hw <;> cases hw
      exact hwf
    · cases h

lemma exists_of_mem_decodeAll {vs : List Variable} (h : decodeAll n = .ok vs) {v : Variable}
    (hv : v ∈ vs) : ∃ m, decode m = .ok v := by
  rw [decodeAll] at h
  split at h
  · obtain ⟨ms, _, h⟩ := bind_eq_ok.1 h
    obtain ⟨m, _, hm⟩ := exists_of_mapM_eq_ok h hv
    exact ⟨m, hm⟩
  · exact Node.exists_of_mem_listAt h hv

lemma wellFormed_of_decodeAll {vs : List Variable} (h : decodeAll n = .ok vs) :
    ∀ v ∈ vs, v.setting.WellFormed := by
  intro v hv
  obtain ⟨m, hm⟩ := exists_of_mem_decodeAll h hv
  exact wellFormed_of_decode hm

end Variable

lemma DiceRef.fault?_of_decode {r : Dice.Roll} (h : decode n = .ok (.literal r)) :
    r.fault? = none := by
  rw [decode, bind_eq_ok] at h
  obtain ⟨case, _, h⟩ := h
  split at h <;> try simp only [bind_eq_ok] at h
  · obtain ⟨_, _, _, hr, h⟩ := h
    cases h
    exact Dice.Roll.fault?_of_decode hr
  · obtain ⟨_, _, _, _, h⟩ := h
    cases h
  · cases h

lemma Term.fault?_of_decode {r : Dice.Roll} (h : decode n = .ok (.diceRoll (.literal r))) :
    r.fault? = none := by
  rw [decode, bind_eq_ok] at h
  obtain ⟨case, _, h⟩ := h
  split at h <;> try simp only [bind_eq_ok] at h
  · obtain ⟨_, _, _, _, h⟩ := h
    cases h
  · obtain ⟨_, _, _, hr, h⟩ := h
    cases h
    exact DiceRef.fault?_of_decode hr
  · obtain ⟨_, _, _, _, _, _, _, _, _, _, _, _, h⟩ := h
    cases h
  · cases h

namespace Summation

lemma wellFormed_of_decode {s : Summation} (h : decode n = .ok s) : s.WellFormed := by
  simp only [decode, bind_eq_ok] at h
  obtain ⟨id, _, name, _, terms, hterms, h⟩ := h
  cases h
  intro t ht r hr
  rw [terms_foldl] at ht
  rcases Sorted.mem_of_mem_foldl_insert ht with ht | ht
  · cases ht
  · obtain ⟨m, hm⟩ := Node.exists_of_mem_listAt hterms ht
    rw [NamedTerm.decode, bind_eq_ok] at hm
    obtain ⟨term, hterm, hm⟩ := hm
    obtain ⟨_, _, hm⟩ := bind_eq_ok.1 hm
    cases hm
    obtain rfl : term = .diceRoll (.literal r) := hr
    exact Term.fault?_of_decode hterm

end Summation

lemma Program.wellFormed_of_decode {p : Program} (h : decode n = .ok p) : p.WellFormed := by
  simp only [decode, bind_eq_ok] at h
  obtain ⟨_, _, _, _, _, _, _, _, _, _, _, _, statements, hstatements, h⟩ := h
  cases h
  intro s hs
  obtain ⟨m, hm⟩ := Node.exists_of_mem_listAt hstatements hs
  simp only [Statement.decode, bind_eq_ok] at hm
  obtain ⟨_, _, _, _, parameters, hparameters, hm⟩ := hm
  cases hm
  exact Node.length_parameters hparameters

lemma Mechanic.wellFormed_of_decode {m : Mechanic} (h : decode n = .ok m) : m.WellFormed := by
  simp only [decode, bind_eq_ok] at h
  obtain ⟨_, _, _, _, _, _, _, _, _, _, _, _, gains, hgains, h⟩ := h
  cases h
  intro v hv
  obtain ⟨m, hm⟩ := Node.exists_of_mem_listAt hgains hv
  exact Variable.wellFormed_of_decode hm

namespace Rulebook

variable {b : Rulebook}

lemma WellFormed.addProgram (h : b.WellFormed) {p : Program} (hp : p.WellFormed) :
    (b.addProgram p).WellFormed where
  programs q hq := by
    rcases Sorted.eq_or_mem_of_mem_replaceList hq with rfl | hq
    · exact hp
    · exact h.programs q hq
  summations := h.summations
  mechanics := h.mechanics

lemma WellFormed.addSummation (h : b.WellFormed) {s : Summation} (hs : s.WellFormed) :
    (b.addSummation s).WellFormed where
  programs := h.programs
  summations t ht := by
    rcases Sorted.eq_or_mem_of_mem_replaceList ht with rfl | ht
    · exact hs
    · exact h.summations t ht
  mechanics := h.mechanics

lemma WellFormed.addMechanic (h : b.WellFormed) {m : Mechanic} (hm : m.WellFormed) :
    (b.addMechanic m).WellFormed where
  programs := h.programs
  summations := h.summations
  mechanics k hk := by
    rw [Rulebook.addMechanic] at hk
    dsimp only at hk
    split at hk
    · obtain ⟨l, hl, rfl⟩ := List.mem_map.1 hk
      split
      · exact hm
      · exact h.mechanics l hl
    · rcases List.mem_append.1 hk with hk | hk
      · exact h.mechanics k hk
      · obtain rfl := List.mem_singleton.1 hk
        exact hm

lemma WellFormed.foldl {add : Rulebook → α → Rulebook} {as : List α} (h : b.WellFormed)
    (hadd : ∀ b : Rulebook, b.WellFormed → ∀ a ∈ as, (add b a).WellFormed) :
    (as.foldl add b).WellFormed :=
  List.foldlRecOn (motive := Rulebook.WellFormed) as add h hadd

lemma wellFormed_of_decode (h : decode n = .ok b) : b.WellFormed := by
  simp only [decode, bind_eq_ok] at h
  obtain ⟨name, _, sets, _, tables, _, programs, hprograms, summations, hsummations, mechanics,
    hmechanics, h⟩ := h
  cases h
  have hempty : WellFormed { name := name.getD "" } := ⟨by simp, by simp, by simp⟩
  have hsets : (sets.foldl addValueSet { name := name.getD "" }).WellFormed :=
    hempty.foldl fun _ hb _ _ => ⟨hb.1, hb.2, hb.3⟩
  have htables : (tables.foldl addFunction
      (sets.foldl addValueSet { name := name.getD "" })).WellFormed :=
    hsets.foldl fun _ hb _ _ => ⟨hb.1, hb.2, hb.3⟩
  refine ((htables.foldl ?_).foldl ?_).foldl ?_
  · intro b hb p hp
    obtain ⟨m, hm⟩ := Node.exists_of_mem_listAt hprograms hp
    exact hb.addProgram (Program.wellFormed_of_decode hm)
  · intro b hb s hs
    obtain ⟨m, hm⟩ := Node.exists_of_mem_listAt hsummations hs
    exact hb.addSummation (Summation.wellFormed_of_decode hm)
  · intro b hb k hk
    obtain ⟨m, hm⟩ := Node.exists_of_mem_listAt hmechanics hk
    exact hb.addMechanic (Mechanic.wellFormed_of_decode hm)

end Rulebook

end Tabletop
