import Switchyard.Proofs.Condition.Semantics
import Switchyard.Router.Basic

/-! What routing means, said of the definitions of rules, routes and
configurations alone, and that a router does it. -/

namespace Switchyard

/-- A rule without conditions matches everything, whatever its combination. -/
def Rule.Matches (r : Rule) (data : Json) : Prop :=
  r.conditions = [] ∨
    match r.combination with
    | .all => ∀ c ∈ r.conditions, c.Satisfied data
    | .any => ∃ c ∈ r.conditions, c.Satisfied data

namespace Configuration

open Classical in
noncomputable def matchingOutputs (c : Configuration) (data : Json) : List UInt64 :=
  match c.mode with
  | .rules => ((c.rules.getD []).filter fun r => r.Matches data).map Rule.outputIndex
  | .expression =>
    match c.valueToMatch with
    | none => []
    | some v => ((c.routes.getD []).filter fun r => v.strictEqual r.value).map Route.outputIndex

/-- All of the matching outputs or the first one, and if there are none the
fallback output, which only a negative number leaves out. -/
noncomputable def specifiedOutputs (c : Configuration) (data : Json) : List UInt64 :=
  match c.matchingOutputs data with
  | [] => if 0 ≤ c.fallbackOutput.toInt then [.ofNat c.fallbackOutput.toInt.toNat] else []
  | first :: rest => if c.allowMultipleMatches then first :: rest else [first]

end Configuration

theorem Rule.holds_iff (r : Rule) (data : Json) : r.holds data = true ↔ r.Matches data := by
  unfold Rule.holds RuleCheck.holds RuleCheck.ofRule Rule.Matches
  rw [Bool.or_eq_true, List.isEmpty_iff, List.map_eq_nil_iff]
  apply or_congr Iff.rfl
  cases r.combination with
  | all =>
    rw [List.all_map, List.all_eq_true]
    exact forall₂_congr fun c _ => c.holds_iff data
  | any =>
    rw [List.any_map, List.any_eq_true]
    exact exists_congr fun c => and_congr_right fun _ => c.holds_iff data

namespace Router

variable {β : Type} {holds : β → Bool} {describe : Nat → β → Match}

theorem map_outputIndex_scan (output : β → UInt64)
    (hout : ∀ position b, (describe position b).outputIndex = output b) (multiple : Bool)
    (position : Nat) (branches : List β) :
    (scan multiple holds describe position branches).map Match.outputIndex =
      if multiple then (branches.filter holds).map output
      else ((branches.filter holds).map output).take 1 := by
  induction branches generalizing position with
  | nil => cases multiple <;> rfl
  | cons b rest ih =>
    rw [scan]
    by_cases hb : holds b = true
    · rw [if_pos hb, List.filter_cons_of_pos hb, List.map_cons, List.map_cons, hout]
      cases multiple with
      | true => exact congrArg _ (ih (position + 1))
      | false => rfl
    · rw [if_neg hb, List.filter_cons_of_neg hb, ih]

theorem outputsOf_eq (r : Router) (ms : List Match) :
    r.outputsOf ms =
      match ms.map Match.outputIndex with
      | [] => r.fallback.toList
      | first :: rest => first :: rest := by
  cases ms <;> rfl

open Classical in
theorem map_outputIndex_matchesOf (c : Configuration) (data : Json) :
    ((ofConfiguration c).matchesOf data).map Match.outputIndex =
      if c.allowMultipleMatches then c.matchingOutputs data
      else (c.matchingOutputs data).take 1 := by
  unfold matchesOf ofConfiguration Configuration.matchingOutputs
  cases hmode : c.mode with
  | rules =>
    have hdecide (r : Rule) : (RuleCheck.ofRule r).holds data = decide (r.Matches data) := by
      rw [Bool.eq_iff_iff, decide_eq_true_iff]
      exact r.holds_iff data
    dsimp only
    rw [map_outputIndex_scan RuleCheck.outputIndex fun _ _ => rfl]
    simp only [Configuration.activeRules, hmode, List.filter_map, List.map_map, Function.comp_def,
      hdecide]
    rfl
  | expression =>
    cases c.valueToMatch with
    | none => simp
    | some v =>
      dsimp only
      rw [map_outputIndex_scan Route.outputIndex fun _ _ => rfl]
      simp only [Configuration.activeRoutes, hmode]

theorem route_ofConfiguration (c : Configuration) (data : Json) :
    (ofConfiguration c).route data = c.specifiedOutputs data := by
  have hfallback : (ofConfiguration c).fallback.toList =
      if 0 ≤ c.fallbackOutput.toInt then [.ofNat c.fallbackOutput.toInt.toNat] else [] := by
    show c.fallback.toList = _
    unfold Configuration.fallback
    split_ifs <;> rfl
  rw [route, outputsOf_eq, map_outputIndex_matchesOf, Configuration.specifiedOutputs, ← hfallback]
  cases c.matchingOutputs data <;> cases c.allowMultipleMatches <;> rfl

/-- The router of a configuration, with its paths and patterns prepared, gives
every value the outputs that the configuration specifies for it. -/
theorem outcome_eq_specified (c : Configuration) (data : Json) :
    (ofConfiguration c).outcome data = ⟨c.specifiedOutputs data, data⟩ := by
  rw [outcome, route_ofConfiguration]

end Router

end Switchyard
