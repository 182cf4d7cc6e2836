import Mathlib.Data.Finset.Card
import Tabletop.Proofs.Command.Check

namespace Tabletop

namespace Command

variable {s : Store} {b : Rulebook} {reported ids : List VariableId} {cycle : List VariableId}

lemma exists_of_mem_cyclesFrom (h : cycle ∈ cyclesFrom s b reported ids) :
    ∃ id ∈ ids, id ∉ reported ∧ s.findCycle b id = some cycle := by
  fun_induction cyclesFrom s b reported ids with
  | case1 => cases h
  | case2 reported id ids hid ih =>
    obtain ⟨other, hother, hfound⟩ := ih h
    exact ⟨other, by simp [hother], hfound⟩
  | case3 reported id ids hid found hfound ih =>
    rcases List.mem_cons.1 h with rfl | h
    · exact ⟨id, by simp, hid, hfound⟩
    · obtain ⟨other, hother, hnew, hcycle⟩ := ih h
      exact ⟨other, by simp [hother], fun hmem => hnew (by simp [hmem]), hcycle⟩
  | case4 reported id ids hid hnone ih =>
    obtain ⟨other, hother, hfound⟩ := ih h
    exact ⟨other, by simp [hother], hfound⟩

/-- A variable on a cycle that has been reported is skipped, so that whatever is on its own cycle
brings up a cycle that is new. -/
lemma pairwise_cyclesFrom : (cyclesFrom s b reported ids).Pairwise fun old new =>
    old.toFinset = new.toFinset → ∃ id ∈ ids, s.findCycle b id = some new ∧ id ∉ new := by
  fun_induction cyclesFrom s b reported ids with
  | case1 => exact .nil
  | case2 reported id ids hid ih | case4 reported id ids hid hnone ih =>
    refine ih.imp fun hrepeat hsame => ?_
    obtain ⟨other, hother, hfound⟩ := hrepeat hsame
    exact ⟨other, by simp [hother], hfound⟩
  | case3 reported id ids hid found hfound ih =>
    refine List.pairwise_cons.2 ⟨fun new hnew hsame => ?_, ih.imp fun hrepeat hsame => ?_⟩
    · obtain ⟨other, hother, hskipped, hcycle⟩ := exists_of_mem_cyclesFrom hnew
      have hoff : other ∉ found := fun hmem => hskipped (List.mem_append_left _ hmem)
      refine ⟨other, by simp [hother], hcycle, fun hmem => hoff ?_⟩
      rwa [← List.mem_toFinset, hsame, List.mem_toFinset]
    · obtain ⟨other, hother, hcycle⟩ := hrepeat hsame
      exact ⟨other, by simp [hother], hcycle⟩

def opens (words line : String) : Bool := words.toList.isPrefixOf line.toList

lemma opens_cycleLine (cycle : List VariableId) : opens "[WARN] cycle: " (cycleLine cycle) = true ∧
    opens "[WARN]" (cycleLine cycle) = true := by
  simp [opens, cycleLine]

lemma opens_forwardLines {p : Program} {line : String} (h : line ∈ forwardLines p) :
    opens "[WARN] cycle: " line = false ∧ opens "[WARN]" line = true := by
  obtain ⟨⟨place, name⟩, _, rfl⟩ := List.mem_map.1 h
  simp [opens, List.isPrefixOf]

lemma filter_verdict {problems : List String} {p : String → Bool}
    (hp : p "No problems found" = false) :
    (verdict problems).lines.filter p = problems.filter p := by
  cases problems with
  | nil => simp [verdict, hp]
  | cons problem problems => rfl

section Check

variable {rulebook sheet : Option String} {b : Rulebook} {s : Sheet}
  (hb : Rulebook.ofText rulebook = .ok b) (hs : Sheet.ofText b sheet = .ok s)

include hb hs

lemma check_eq : check rulebook (some sheet) =
    verdict (b.programs.toList.flatMap forwardLines ++ (cycles s.store b).map cycleLine) := by
  simp only [check, hb, hs]

lemma cycleLines_check : (check rulebook (some sheet)).lines.filter (opens "[WARN] cycle: ") =
    (cycles s.store b).map cycleLine := by
  have hforward :
      (b.programs.toList.flatMap forwardLines).filter (opens "[WARN] cycle: ") = [] := by
    refine List.filter_eq_nil_iff.2 fun line hline => ?_
    obtain ⟨p, _, hp⟩ := List.mem_flatMap.1 hline
    simp [(opens_forwardLines hp).1]
  have hcycles : ((cycles s.store b).map cycleLine).filter (opens "[WARN] cycle: ") =
      (cycles s.store b).map cycleLine := by
    refine List.filter_eq_self.2 fun line hline => ?_
    obtain ⟨cycle, _, rfl⟩ := List.mem_map.1 hline
    exact (opens_cycleLine cycle).1
  rw [check_eq hb hs, filter_verdict (by decide), List.filter_append, hforward, hcycles,
    List.nil_append]

lemma count_warnings_check : (check rulebook (some sheet)).lines.countP (opens "[WARN]") =
    (b.programs.toList.flatMap Program.forwardReferences).length + (cycles s.store b).length := by
  have hall : ∀ line ∈ b.programs.toList.flatMap forwardLines ++ (cycles s.store b).map cycleLine,
      opens "[WARN]" line = true := by
    intro line hline
    rcases List.mem_append.1 hline with hline | hline
    · obtain ⟨p, _, hp⟩ := List.mem_flatMap.1 hline
      exact (opens_forwardLines hp).2
    · obtain ⟨cycle, _, rfl⟩ := List.mem_map.1 hline
      exact (opens_cycleLine cycle).2
  rw [check_eq hb hs, List.countP_eq_length_filter, filter_verdict (by decide),
    List.filter_eq_self.2 hall, List.length_append, List.length_map]
  simp only [List.length_flatMap, forwardLines, List.length_map]

end Check

end Command

/-- The check of a sheet gives a warning for each early name and for each cycle that it finds. Two
of these cycles have the same variables only if the later one was found for a variable that is not
on it. So where a search that begins at a variable finds only cycles through this variable, no
cycle is reported twice, and the warnings count the early names and the cycles that differ. -/
theorem cycles_repeat_only_off_cycle {rulebook sheet : Option String} {b : Rulebook} {s : Sheet}
    (hb : Rulebook.ofText rulebook = .ok b) (hs : Sheet.ofText b sheet = .ok s) :
    let lines := (Command.check rulebook (some sheet)).lines
    let early := b.programs.toList.flatMap Program.forwardReferences
    let found := Command.cycles s.store b
    lines.filter (Command.opens "[WARN] cycle: ") = found.map Command.cycleLine ∧
    lines.countP (Command.opens "[WARN]") = early.length + found.length ∧
    (found.Pairwise fun old new => old.toFinset = new.toFinset →
      ∃ id ∈ s.store.ids, s.store.findCycle b id = some new ∧ id ∉ new) ∧
    ((∀ id ∈ s.store.ids, ∀ cycle, s.store.findCycle b id = some cycle → id ∈ cycle) →
      (found.map List.toFinset).Nodup ∧
      lines.countP (Command.opens "[WARN]") =
        early.length + (found.map List.toFinset).toFinset.card) := by
  intro lines early found
  have hrepeat : found.Pairwise fun old new => old.toFinset = new.toFinset →
      ∃ id ∈ s.store.ids, s.store.findCycle b id = some new ∧ id ∉ new :=
    Command.pairwise_cyclesFrom
  refine ⟨Command.cycleLines_check hb hs, Command.count_warnings_check hb hs, hrepeat, ?_⟩
  intro hthrough
  have hnodup : (found.map List.toFinset).Nodup := by
    refine List.pairwise_map.2 (hrepeat.imp fun hrepeat hsame => ?_)
    obtain ⟨id, hid, hfound, hoff⟩ := hrepeat hsame
    exact hoff (hthrough id hid _ hfound)
  refine ⟨hnodup, ?_⟩
  rw [List.toFinset_card_of_nodup hnodup, List.length_map]
  exact Command.count_warnings_check hb hs

namespace Repeats

def named (name : String) : VariableId := { name }

def copy (name other : String) : Variable :=
  { id := named name, label := name, setting := .number (.variable (named other)) }

def copyJson (name other : String) : Json :=
  .record [("case", .text "variable_number"), ("id", .text name), ("label", .text name),
    ("value", .record [("case", .text "variable_id"), ("value", .text other)])]

def copiesJson (pairs : List (String × String)) : Json :=
  .list (pairs.map fun (name, other) => copyJson name other)

lemma writable_copies (pairs : List (String × String)) :
    Json.Writable id Json.Progress.deepest (copiesJson pairs) := by
  refine Json.writable_list.2 fun j hj => ?_
  obtain ⟨⟨name, other⟩, _, rfl⟩ := List.mem_map.1 hj
  simp [copyJson, Json.writable_record, Json.Writable.text]

def apart : Sheet where
  rulebook := {}
  store := ⟨⟨[copy "a" "b", copy "b" "a", copy "c" "c"], by decide⟩⟩

def apartJson : Json := copiesJson [("a", "b"), ("b", "a"), ("c", "c")]

def led : Sheet where
  rulebook := {}
  store := ⟨⟨[copy "a" "c", copy "b" "c", copy "c" "c"], by decide⟩⟩

def ledJson : Json := copiesJson [("a", "c"), ("b", "c"), ("c", "c")]

lemma ofText_rules : Rulebook.ofText (some (Json.record []).pretty) = .ok {} := by
  have hwritable : Json.Writable id Json.Progress.deepest (.record []) := by
    simp [Json.Progress.deepest, Json.writable_record]
  rw [Rulebook.ofText, readDocument_pretty hwritable]
  rfl

lemma ofText_apart : Sheet.ofText {} (some apartJson.pretty) = .ok apart := by
  rw [Sheet.ofText, apartJson, readDocument_pretty (writable_copies _)]
  rfl

lemma ofText_led : Sheet.ofText {} (some ledJson.pretty) = .ok led := by
  rw [Sheet.ofText, ledJson, readDocument_pretty (writable_copies _)]
  rfl

lemma findCycle_apart :
    apart.store.findCycle {} (named "a") = some [named "a", named "b", named "a"] ∧
    apart.store.findCycle {} (named "b") = some [named "b", named "a", named "b"] ∧
    apart.store.findCycle {} (named "c") = some [named "c", named "c"] := by
  cbv

lemma through_apart : ∀ x ∈ apart.store.ids, ∀ cycle,
    apart.store.findCycle {} x = some cycle → x ∈ cycle := by
  obtain ⟨ha, hb, hc⟩ := findCycle_apart
  change ∀ x ∈ [named "a", named "b", named "c"], _
  simp [ha, hb, hc]

lemma cycles_led :
    Command.cycles led.store {} = [[named "c", named "c"], [named "c", named "c"]] := by
  cbv

end Repeats

open Repeats in
theorem cycles_repeat_only_off_cycle_apart :
    let lines := (Command.check (some (Json.record []).pretty) (some (some apartJson.pretty))).lines
    Rulebook.ofText (some (Json.record []).pretty) = .ok {} ∧
      Sheet.ofText {} (some apartJson.pretty) = .ok apart ∧
      (∀ x ∈ apart.store.ids, ∀ cycle, apart.store.findCycle {} x = some cycle → x ∈ cycle) ∧
      ((Command.cycles apart.store {}).map List.toFinset).Nodup ∧
      lines.countP (Command.opens "[WARN]") =
        ((Command.cycles apart.store {}).map List.toFinset).toFinset.card := by
  intro lines
  obtain ⟨_, _, _, hdistinct⟩ := cycles_repeat_only_off_cycle ofText_rules ofText_apart
  obtain ⟨hnodup, hcount⟩ := hdistinct through_apart
  exact ⟨ofText_rules, ofText_apart, through_apart, hnodup, hcount.trans (Nat.zero_add _)⟩

open Repeats in
theorem cycle_reported_twice :
    let found := Command.cycles led.store {}
    Rulebook.ofText (some (Json.record []).pretty) = .ok {} ∧
      Sheet.ofText {} (some ledJson.pretty) = .ok led ∧
      (Command.check (some (Json.record []).pretty) (some (some ledJson.pretty))).lines =
        ["[WARN] cycle: c -> c", "[WARN] cycle: c -> c"] ∧
      ¬ (found.map List.toFinset).Nodup ∧
      found.length ≠ (found.map List.toFinset).toFinset.card := by
  intro found
  refine ⟨ofText_rules, ofText_led, ?_, ?_, ?_⟩
  · rw [Command.check_eq ofText_rules ofText_led, cycles_led]
    rfl
  · simp [found, cycles_led]
  · simp [found, cycles_led]

end Tabletop
