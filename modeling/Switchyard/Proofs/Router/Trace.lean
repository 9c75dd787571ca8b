import Mathlib.Data.List.Forall2
import Switchyard.Proofs.Router.Branches
import Switchyard.Router.Trace

/-! The trace as an audit: what is reported when a value goes through a fresh router
says why it went where it did. -/

namespace Switchyard

def Condition.Unusable (p : Condition) (source : String) : Prop :=
  p.operator = .regex ∧ p.value = some (.str source) ∧ Pattern.compile? source = none

namespace Check

theorem patternText?_eq_some_iff (p : Condition) (source : String) :
    patternText? p = some source ↔ p.operator = .regex ∧ p.value = some (.str source) := by
  constructor
  · intro h
    have hop : p.operator = .regex := by
      unfold patternText? at h
      split at h
      · next hop _ => exact hop
      · cases h
    exact ⟨hop, (patternText?_eq_some hop).mp h⟩
  · rintro ⟨hop, hvalue⟩
    exact (patternText?_eq_some hop).mpr hvalue

theorem invalidPattern?_eq_some_iff (p : Condition) (source : String) :
    invalidPattern? p = some source ↔ p.Unusable source := by
  rw [invalidPattern?, Option.filter_eq_some_iff, patternText?_eq_some_iff,
    Option.isNone_iff_eq_none, Condition.Unusable, and_assoc]

end Check

section Lists

open Classical

variable {α β : Type} {R : α → β → Prop}

theorem forall₂_filterMap {f : α → Option β} (h : ∀ a b, f a = some b ↔ R a b) (as : List α) :
    List.Forall₂ R (as.filter fun a => ∃ b, R a b) (as.filterMap f) := by
  induction as with
  | nil => exact .nil
  | cons a rest ih =>
    cases hf : f a with
    | none =>
      have hno : ¬ ∃ b, R a b := fun ⟨b, hb⟩ => by cases hf.symm.trans ((h a b).mpr hb)
      rw [List.filterMap_cons_none hf, List.filter_cons_of_neg (by simpa using hno)]
      exact ih
    | some b =>
      have hb : R a b := (h a b).mp hf
      have hsome : ∃ b, R a b := ⟨b, hb⟩
      rw [List.filterMap_cons_some hf, List.filter_cons_of_pos (by simpa using hsome)]
      exact .cons hb ih

end Lists

theorem Router.Report.event_prepared (mode : Mode) (branches : Nat) (fallback : Option UInt64)
    (allowMultiple : Bool) :
    (prepared mode branches fallback allowMultiple).event =
      ⟨.debug, "nvisy_switch::router", "Switch router compiled",
        [("mode", some (.str mode.name)), ("branches", some (.ofUInt64 (.ofNat branches))),
          ("fallback", some (.str
            (fallback.elim "None" fun n => "Some(" ++ toString n.toNat ++ ")"))),
          ("allow_multiple_matches", some (.bool allowMultiple))]⟩ := by
  cases fallback <;> rfl

theorem Router.Report.event_matched (mode : Mode) (m : Match) :
    (matched mode m).event =
      ⟨.trace, "nvisy_switch::router", if mode = .rules then "Rule matched" else "Route matched",
        [("position", some (.ofUInt64 (.ofNat m.position))),
          ("output_index", some (.ofUInt64 m.outputIndex)), ("name", m.name.map .str)]⟩ := by
  cases mode <;> rfl

namespace Configuration

def conditionsInUse (c : Configuration) : List Condition :=
  match c.mode with
  | .rules => (c.rules.getD []).flatMap Rule.conditions
  | .expression => []

theorem flatMap_activeRules (c : Configuration) :
    c.activeRules.flatMap (fun r => r.conditions.filterMap Check.invalidPattern?) =
      c.conditionsInUse.filterMap Check.invalidPattern? := by
  unfold activeRules conditionsInUse
  cases c.mode with
  | rules => rw [List.filterMap_flatMap]
  | expression => rfl

open Classical in
noncomputable def brokenSearches (c : Configuration) : List Condition :=
  c.conditionsInUse.filter fun p => ∃ source, p.Unusable source

/-- Why a value goes where it goes: the texts of the broken searches, the matches that are
found, and the outputs, which are those of the matches or else the fallback. -/
structure Explains (c : Configuration) (data : Json) (sources : List String) (ms : List Match) :
    Prop where
  sources : List.Forall₂ Condition.Unusable c.brokenSearches sources
  found : Finds (c.MatchesAt data) c.allowMultipleMatches ms
  outputs_of_found : ms ≠ [] → c.route data = ms.map Match.outputIndex
  outputs_of_none : ms = [] → c.route data = (Router.ofConfiguration c).fallback.toList

theorem mode_ofConfiguration (c : Configuration) : (Router.ofConfiguration c).mode = c.mode := by
  unfold Router.mode Router.ofConfiguration
  cases c.mode <;> rfl

theorem trace_eq (c : Configuration) (data : Json) :
    c.trace data =
      (c.conditionsInUse.filterMap Check.invalidPattern?).map .invalidPattern ++
        .prepared c.mode (Router.ofConfiguration c).branchCount (Router.ofConfiguration c).fallback
          c.allowMultipleMatches ::
        (((Router.ofConfiguration c).matchesOf data).map (.matched c.mode) ++
          [.routed (c.route data)]) := by
  rw [trace, Router.preparation, Router.routing, flatMap_activeRules, mode_ofConfiguration,
    List.append_assoc]
  rfl

theorem explains_matchesOf (c : Configuration) (data : Json) :
    c.Explains data (c.conditionsInUse.filterMap Check.invalidPattern?)
      ((Router.ofConfiguration c).matchesOf data) where
  sources := forall₂_filterMap Check.invalidPattern?_eq_some_iff _
  found := Router.finds_matchesOf c data
  outputs_of_found hfound := by
    rw [route, Router.route]
    cases hms : (Router.ofConfiguration c).matchesOf data with
    | nil => exact absurd hms hfound
    | cons m rest => rfl
  outputs_of_none hnone := by
    rw [route, Router.route, hnone]
    rfl

/-- The events of a value explain where it went: they tell of the texts that are no
patterns, of the prepared router, of the matches in order, and of the outputs. -/
theorem trace_explains (c : Configuration) (data : Json) :
    let r := Router.ofConfiguration c
    let event (level : Log.Level) (message : String) (fields : List (String × Option Json)) :
        Log.Event := ⟨level, "nvisy_switch::router", message, fields⟩
    ∃ sources ms, c.Explains data sources ms ∧
      (c.trace data).map (·.event) =
        sources.map (fun source =>
          event .debug "Invalid regex operand, condition will never match"
            [("pattern", some (.str source))]) ++
        event .debug "Switch router compiled"
          [("mode", some (.str c.mode.name)),
            ("branches", some (.ofUInt64 (.ofNat r.branches.length))),
            ("fallback", some (.str
              (r.fallback.elim "None" fun n => "Some(" ++ toString n.toNat ++ ")"))),
            ("allow_multiple_matches", some (.bool c.allowMultipleMatches))] ::
        (ms.map (fun m =>
          event .trace (if c.mode = .rules then "Rule matched" else "Route matched")
            [("position", some (.ofUInt64 (.ofNat m.position))),
              ("output_index", some (.ofUInt64 m.outputIndex)), ("name", m.name.map .str)]) ++
        [event .trace "Input routed"
          [("matched_outputs", some (.str
            ("[" ++ ", ".intercalate ((c.route data).map fun n => toString n.toNat) ++ "]")))]]) := by
  intro r event
  refine ⟨_, _, c.explains_matchesOf data, ?_⟩
  rw [c.trace_eq data, Router.length_branches]
  simp only [List.map_append, List.map_cons, List.map_map, List.map_nil, Function.comp_def,
    Router.Report.event_prepared, Router.Report.event_matched]
  rfl

end Configuration

end Switchyard
