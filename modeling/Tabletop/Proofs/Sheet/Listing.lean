import Tabletop.Proofs.Store.Listing
import Tabletop.Sheet.Save
import Tabletop.Store.Dependency

namespace Tabletop

/-- The stores answer alike, under any rules, and what is thrown for it is thrown in one order. -/
structure Store.AnswersAs (s t : Store) : Prop where
  ids : s.ids = t.ids
  tagged : ∀ tag, s.tagged tag = t.tagged tag
  resolve : ∀ r, s.resolve r = t.resolve r
  resolveSingle : ∀ r, s.resolveSingle r = t.resolveSingle r
  dependencies : ∀ b id, s.dependencies b id = t.dependencies b id
  findCycle : ∀ b id, s.findCycle b id = t.findCycle b id
  evaluateAll : ∀ sheet : Sheet,
    { sheet with store := s }.evaluateAll = { sheet with store := t }.evaluateAll
  activate : ∀ sheet : Sheet,
    { sheet with store := s }.activate = { sheet with store := t }.activate
  saved : ∀ (sheet : Sheet) (savedAt : String),
    (SavedSheet.ofSheet savedAt { sheet with store := s }).slots =
      (SavedSheet.ofSheet savedAt { sheet with store := t }).slots

lemma Store.AnswersAs.refl (s : Store) : s.AnswersAs s :=
  ⟨rfl, fun _ => rfl, fun _ => rfl, fun _ => rfl, fun _ _ => rfl, fun _ _ => rfl, fun _ => rfl,
    fun _ => rfl, fun _ _ => rfl⟩

/-- However the same variables are listed, they make a store just where no id occurs twice, and
then one that gives the same answers. These are found, too, by whoever goes through a table of the
variables in any order and then sorts what was found. -/
theorem listing_order_irrelevant {vs ws : List Variable} (h : vs.Perm ws) :
    (∀ xs ∈ [vs, ws], ((∃ s, Store.ofVariables xs = .ok s) ↔ (vs.map Variable.id).Nodup) ∧
      ∀ e, Store.ofVariables xs = .error e →
        ∃ id, e = .duplicateVariable id ∧ 2 ≤ (vs.map Variable.id).count id) ∧
    ∀ s t, Store.ofVariables vs = .ok s → Store.ofVariables ws = .ok t →
      s.AnswersAs t ∧ ∀ xs, vs.Perm xs → s.Shows xs ∧ t.Shows xs := by
  refine ⟨fun xs hxs => ?_, fun s t hs ht => ?_⟩
  · have hperm : vs.Perm xs := by
      rcases List.mem_pair.1 hxs with rfl | rfl
      · exact .refl _
      · exact h
    have hids : (vs.map Variable.id).Perm (xs.map Variable.id) := hperm.map _
    simp only [hids.nodup_iff, hids.count_eq]
    exact ⟨Store.exists_ofVariables_iff, fun e => Store.count_of_ofVariables⟩
  · have hvs : s.slots.toList.Perm vs := Store.perm_of_ofVariables hs
    have hws : t.slots.toList.Perm ws := Store.perm_of_ofVariables ht
    obtain rfl : s = t := Store.eq_of_perm (hvs.trans (h.trans hws.symm))
    exact ⟨.refl s, fun xs hxs =>
      ⟨Store.shows_of_perm (hvs.trans hxs), Store.shows_of_perm (hvs.trans hxs)⟩⟩

namespace Shuffled

def strength : Variable where
  id := ⟨some "hero", "strength"⟩
  label := "Strength"
  tags := .ofList ["ability"]
  setting := .number (.literal 12)

def agility : Variable where
  id := ⟨some "hero", "agility"⟩
  label := "Agility"
  tags := .ofList ["ability"]
  setting := .number (.literal 9)

def motto : Variable where
  id := ⟨none, "motto"⟩
  label := "Motto"
  setting := .text .unknown

def store : Store := ⟨⟨[motto, agility, strength], by decide⟩⟩

end Shuffled

open Shuffled in
theorem listing_order_irrelevant_abilities :
    [strength, motto, agility].Perm [agility, strength, motto] ∧
      Store.ofVariables [strength, motto, agility] = .ok store ∧
      Store.ofVariables [agility, strength, motto] = .ok store ∧
      store.Shows [motto, strength, agility] ∧
      store.tagged "ability" = Store.inOrder [strength, agility] := by
  have hperm : [strength, motto, agility].Perm [agility, strength, motto] := by decide
  have hvs : Store.ofVariables [strength, motto, agility] = .ok store := by decide +kernel
  have hws : Store.ofVariables [agility, strength, motto] = .ok store := by decide +kernel
  obtain ⟨-, hanswers⟩ := listing_order_irrelevant hperm
  obtain ⟨-, hshows⟩ := hanswers store store hvs hws
  obtain ⟨hshows, -⟩ := hshows [motto, strength, agility] (by decide)
  exact ⟨hperm, hvs, hws, hshows, hshows.tagged "ability"⟩

end Tabletop
