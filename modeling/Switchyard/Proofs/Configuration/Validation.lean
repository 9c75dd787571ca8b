import Switchyard.Configuration.Validation
import Switchyard.Proofs.Json.Literal
import Switchyard.Router.Basic

/-! What the report of a configuration lists. Every fault inside a configuration
has its entry. The entry for a collection that is missing appears only if there is
no other, and the literals of routes are looked at even when rules are in use. -/

namespace Switchyard

inductive Json.IsLiteral : Json → Prop
  | str (s : String) : IsLiteral (.str s)
  | num (n : Number) : IsLiteral (.num n)
  | bool (b : Bool) : IsLiteral (.bool b)

theorem Json.isLiteral_iff {v : Json} : v.isLiteral = true ↔ v.IsLiteral := by
  constructor
  · intro h
    cases v with
    | str s => exact .str s
    | num n => exact .num n
    | bool b => exact .bool b
    | _ => cases h
  · rintro (_ | _ | _) <;> rfl

theorem Violation.routeLiteral_path_inj {i j : Nat} {v w : Json}
    (h : (routeLiteral i v).path = (routeLiteral j w).path) : i = j :=
  Digits.toString_inj ((String.append_right_inj _).mp ((String.append_left_inj _).mp h))

namespace Configuration

def RefusedIn (routes : List Route) (position : Nat) (value : Json) : Prop :=
  ∃ r, routes[position]? = some r ∧ r.value = value ∧ ¬ value.IsLiteral

theorem refusedIn_zero {r : Route} {rest : List Route} {value : Json} :
    RefusedIn (r :: rest) 0 value ↔ r.value = value ∧ ¬ value.IsLiteral := by
  simp [RefusedIn]

theorem refusedIn_succ {r : Route} {rest : List Route} {position : Nat} {value : Json} :
    RefusedIn (r :: rest) (position + 1) value ↔ RefusedIn rest position value := by
  simp [RefusedIn]

def refusals (first : Nat) (routes : List Route) : List Violation :=
  (routes.mapIdx fun i r =>
    if r.value.isLiteral then [] else [.routeLiteral (first + i) r.value]).flatten

theorem refusals_cons (first : Nat) (r : Route) (rest : List Route) :
    refusals first (r :: rest) =
      (if r.value.isLiteral then [] else [.routeLiteral first r.value]) ++
        refusals (first + 1) rest := by
  unfold refusals
  rw [List.mapIdx_cons, List.flatten_cons, Nat.add_zero]
  simp only [Nat.add_comm 1, Nat.add_assoc]

theorem mem_refusals {first : Nat} {routes : List Route} {v : Violation} :
    v ∈ refusals first routes ↔
      ∃ i value, RefusedIn routes i value ∧ v = .routeLiteral (first + i) value := by
  unfold refusals RefusedIn
  simp only [List.mem_flatten, List.mem_mapIdx]
  constructor
  · rintro ⟨entries, ⟨i, hi, rfl⟩, hv⟩
    split at hv
    · cases hv
    · next hno =>
      exact ⟨i, _, ⟨routes[i], List.getElem?_eq_getElem hi, rfl, mt Json.isLiteral_iff.mpr hno⟩,
        List.mem_singleton.mp hv⟩
  · rintro ⟨i, value, ⟨r, hr, rfl, hno⟩, rfl⟩
    obtain ⟨hi, rfl⟩ := List.getElem?_eq_some_iff.mp hr
    refine ⟨_, ⟨i, hi, rfl⟩, ?_⟩
    rw [if_neg (mt Json.isLiteral_iff.mp hno)]
    exact List.mem_singleton_self _

theorem refusals_eq_nil {first : Nat} {routes : List Route}
    (h : ∀ i value, ¬ RefusedIn routes i value) : refusals first routes = [] := by
  refine List.eq_nil_iff_forall_not_mem.mpr fun v hv => ?_
  obtain ⟨i, value, hrefused, -⟩ := mem_refusals.mp hv
  exact h i value hrefused

theorem refusals_congr {routes others : List Route} (first : Nat)
    (h : ∀ i value, RefusedIn routes i value ↔ RefusedIn others i value) :
    refusals first routes = refusals first others := by
  induction routes generalizing others first with
  | nil =>
    have hnone : ∀ i value, ¬ RefusedIn others i value := fun i value hi => by
      obtain ⟨r, hr, -⟩ := (h i value).mpr hi
      cases hr
    rw [refusals_eq_nil hnone]
    rfl
  | cons r rest ih =>
    cases others with
    | nil =>
      have hnone : ∀ i value, ¬ RefusedIn (r :: rest) i value := fun i value hi => by
        obtain ⟨s, hs, -⟩ := (h i value).mp hi
        cases hs
      rw [refusals_eq_nil hnone]
      rfl
    | cons s others =>
      have hrest := ih (first + 1) fun i value => by simpa only [refusedIn_succ] using h (i + 1) value
      have hhead (value : Json) := h 0 value
      simp only [refusedIn_zero, ← Json.isLiteral_iff] at hhead
      rw [refusals_cons, refusals_cons, hrest]
      congr 1
      -- the first entries agree: either side refuses what the other one does
      by_cases hr : r.value.isLiteral = true
      · have hs : s.value.isLiteral = true := by
          by_contra hs
          obtain ⟨heq, -⟩ := (hhead s.value).mpr ⟨rfl, hs⟩
          exact hs (heq ▸ hr)
        rw [if_pos hr, if_pos hs]
      · obtain ⟨heq, -⟩ := (hhead r.value).mp ⟨rfl, hr⟩
        rw [heq]

variable {c d : Configuration}

def Refuses (c : Configuration) (position : Nat) (value : Json) : Prop :=
  RefusedIn (c.routes.getD []) position value

theorem fieldViolations_eq (c : Configuration) :
    c.fieldViolations =
      (if c.fallbackOutput < noFallback then [.fallbackOutput c.fallbackOutput] else []) ++
        refusals 0 (c.routes.getD []) := by
  unfold fieldViolations refusals
  simp only [Nat.zero_add]

theorem fallbackOutput_lt_iff : c.fallbackOutput < noFallback ↔ c.fallbackOutput.toInt < -1 :=
  Int64.lt_iff_toInt_lt

theorem mem_fieldViolations {v : Violation} :
    v ∈ c.fieldViolations ↔
      (c.fallbackOutput.toInt < -1 ∧ v = .fallbackOutput c.fallbackOutput) ∨
        ∃ i value, c.Refuses i value ∧ v = .routeLiteral i value := by
  rw [fieldViolations_eq, List.mem_append, mem_refusals, ← fallbackOutput_lt_iff]
  simp only [Nat.zero_add]
  refine or_congr ?_ Iff.rfl
  split
  · next h => simp [h]
  · next h => simp [h]

theorem mem_modeViolations {v : Violation} :
    v ∈ c.modeViolations ↔
      (c.mode = .rules ∧ c.rules = none ∧ v = .missingRules) ∨
        (c.mode = .expression ∧ c.routes = none ∧ v = .missingRoutes) := by
  unfold modeViolations
  cases c.mode <;> cases c.rules <;> cases c.routes <;> simp

def Sound (c : Configuration) : Prop :=
  -1 ≤ c.fallbackOutput.toInt ∧ ∀ i value, ¬ c.Refuses i value

theorem fieldViolations_eq_nil_iff : c.fieldViolations = [] ↔ c.Sound := by
  rw [List.eq_nil_iff_forall_not_mem]
  simp only [mem_fieldViolations, Sound]
  constructor
  · intro h
    refine ⟨Int.not_lt.mp fun hlow => h _ (.inl ⟨hlow, rfl⟩), fun i value hi => ?_⟩
    exact h _ (.inr ⟨i, value, hi, rfl⟩)
  · rintro ⟨hlow, hroutes⟩ v (⟨hv, -⟩ | ⟨i, value, hi, -⟩)
    · exact Int.not_lt.mpr hlow hv
    · exact hroutes i value hi

theorem mem_report {v : Violation} :
    v ∈ c.report ↔ v ∈ c.fieldViolations ∨ (c.Sound ∧ v ∈ c.modeViolations) := by
  rw [report, List.mem_mergeSort, violations, ← fieldViolations_eq_nil_iff]
  split
  · next h => simp [List.isEmpty_iff.mp h]
  · next h => simp [mt List.isEmpty_iff.mpr h]

theorem fallbackOutput_mem_report_iff {value : Int64} :
    .fallbackOutput value ∈ c.report ↔ c.fallbackOutput.toInt < -1 ∧ value = c.fallbackOutput := by
  simp [mem_report, mem_fieldViolations, mem_modeViolations]

theorem routeLiteral_mem_report_iff {position : Nat} {value : Json} :
    .routeLiteral position value ∈ c.report ↔ c.Refuses position value := by
  simp [mem_report, mem_fieldViolations, mem_modeViolations]

theorem missingRules_mem_report_iff :
    .missingRules ∈ c.report ↔ c.Sound ∧ c.mode = .rules ∧ c.rules = none := by
  simp [mem_report, mem_fieldViolations, mem_modeViolations]

theorem missingRoutes_mem_report_iff :
    .missingRoutes ∈ c.report ↔ c.Sound ∧ c.mode = .expression ∧ c.routes = none := by
  simp [mem_report, mem_fieldViolations, mem_modeViolations]

def Reports (c : Configuration) (path code : String) : Prop :=
  ∃ v ∈ c.report, v.path = path ∧ v.code = code

theorem reports_fallbackOutput_iff :
    c.Reports "fallback_output" "range" ↔ c.fallbackOutput.toInt < -1 := by
  constructor
  · rintro ⟨v, hv, -, hcode⟩
    cases v with
    | fallbackOutput value => exact (fallbackOutput_mem_report_iff.mp hv).1
    | _ => simp [Violation.code] at hcode
  · exact fun h => ⟨_, fallbackOutput_mem_report_iff.mpr ⟨h, rfl⟩, rfl, rfl⟩

theorem reports_routeLiteral_iff {position : Nat} :
    c.Reports ("routes[" ++ toString position ++ "].value") "route_literal" ↔
      ∃ value, c.Refuses position value := by
  constructor
  · rintro ⟨v, hv, hpath, hcode⟩
    cases v with
    | routeLiteral i value =>
      obtain rfl : i = position := Violation.routeLiteral_path_inj (v := value) (w := value) hpath
      exact ⟨value, routeLiteral_mem_report_iff.mp hv⟩
    | _ => simp [Violation.code] at hcode
  · exact fun ⟨value, h⟩ => ⟨_, routeLiteral_mem_report_iff.mpr h, rfl, rfl⟩

theorem reports_iff_mem {v : Violation} (hcode : ∀ w : Violation, w.code = v.code → w = v) :
    c.Reports v.path v.code ↔ v ∈ c.report := by
  constructor
  · rintro ⟨w, hw, -, heq⟩
    exact hcode w heq ▸ hw
  · exact fun hv => ⟨v, hv, rfl, rfl⟩

theorem reports_missingRules_iff :
    c.Reports "__all__" "missing_rules" ↔ c.Sound ∧ c.mode = .rules ∧ c.rules = none := by
  rw [← missingRules_mem_report_iff]
  refine reports_iff_mem (v := .missingRules) fun w hw => ?_
  cases w with
  | missingRules => rfl
  | _ => simp [Violation.code] at hw

theorem reports_missingRoutes_iff :
    c.Reports "__all__" "missing_routes" ↔ c.Sound ∧ c.mode = .expression ∧ c.routes = none := by
  rw [← missingRoutes_mem_report_iff]
  refine reports_iff_mem (v := .missingRoutes) fun w hw => ?_
  cases w with
  | missingRoutes => rfl
  | _ => simp [Violation.code] at hw

structure ReportsFields (c : Configuration) : Prop where
  fallbackOutput : c.Reports "fallback_output" "range" ↔ c.fallbackOutput.toInt < -1
  literals : ∀ position : Nat,
    c.Reports ("routes[" ++ toString position ++ "].value") "route_literal" ↔
      ∃ value, c.Refuses position value

structure ReportsMode (c : Configuration) : Prop where
  rules : c.Reports "__all__" "missing_rules" ↔ c.mode = .rules ∧ c.rules = none
  routes : c.Reports "__all__" "missing_routes" ↔ c.mode = .expression ∧ c.routes = none

def Lacks (c : Configuration) : Prop :=
  (c.mode = .rules ∧ c.rules = none) ∨ (c.mode = .expression ∧ c.routes = none)

/-- The report lists every fault inside a configuration. A missing collection is
listed exactly if there is no such fault. -/
theorem reportsMode_iff (c : Configuration) :
    c.ReportsFields ∧ (c.ReportsMode ↔ (c.Lacks → c.Sound)) := by
  refine ⟨⟨reports_fallbackOutput_iff, fun _ => reports_routeLiteral_iff⟩, ?_⟩
  constructor
  · rintro ⟨hrules, hroutes⟩ (hlacks | hlacks)
    · exact (reports_missingRules_iff.mp (hrules.mpr hlacks)).1
    · exact (reports_missingRoutes_iff.mp (hroutes.mpr hlacks)).1
  · intro h
    constructor
    · rw [reports_missingRules_iff, and_iff_right_iff_imp]
      exact fun hlacks => h (.inl hlacks)
    · rw [reports_missingRoutes_iff, and_iff_right_iff_imp]
      exact fun hlacks => h (.inr hlacks)

def twoFaults : Configuration := ⟨.rules, none, none, none, -2, false⟩

theorem not_reportsMode_twoFaults :
    ¬ ∀ c : Configuration, c.ReportsFields ∧ c.ReportsMode := by
  intro h
  have hmissing := (h twoFaults).2.rules.mpr ⟨rfl, rfl⟩
  have hsound := (reports_missingRules_iff.mp hmissing).1.1
  exact absurd hsound (by decide)

/-- Two configurations that differ at most in the collection which their mode does
not select. -/
structure SameInUse (c d : Configuration) : Prop where
  mode : c.mode = d.mode
  valueToMatch : c.valueToMatch = d.valueToMatch
  rules : c.mode = .rules → c.rules = d.rules
  routes : c.mode = .expression → c.routes = d.routes
  fallbackOutput : c.fallbackOutput = d.fallbackOutput
  allowMultipleMatches : c.allowMultipleMatches = d.allowMultipleMatches

theorem SameInUse.ofConfiguration_eq (h : SameInUse c d) :
    Router.ofConfiguration c = Router.ofConfiguration d := by
  obtain ⟨mode, valueToMatch, rules, routes, fallbackOutput, allow⟩ := c
  obtain ⟨hmode, hvalue, hrules, hroutes, hfallback, hallow⟩ := h
  dsimp only at hmode hvalue hrules hroutes hfallback hallow
  subst hmode hvalue hfallback hallow
  unfold Router.ofConfiguration activeRules activeRoutes fallback
  cases hm : d.mode with
  | rules => rw [hrules hm]
  | expression => rw [hroutes hm]

theorem SameInUse.modeViolations_eq (h : SameInUse c d) : c.modeViolations = d.modeViolations := by
  unfold modeViolations
  rw [← h.mode]
  cases hm : c.mode with
  | rules =>
    rw [h.rules hm]
    cases d.rules <;> cases c.routes <;> cases d.routes <;> rfl
  | expression =>
    rw [h.routes hm]
    cases d.routes <;> rfl

theorem report_congr (hfields : c.fieldViolations = d.fieldViolations)
    (hmode : c.modeViolations = d.modeViolations) : c.report = d.report := by
  rw [report, report, violations, violations, hfields, hmode]

/-- What a mode does not select has no part in routing. It has none in the report
either if it is the rules, but routes have by their literals. -/
theorem SameInUse.report_eq_iff (h : SameInUse c d) :
    (∀ data, c.route data = d.route data) ∧
      (c.report = d.report ↔
        (c.mode = .rules → ∀ position value, c.Refuses position value ↔ d.Refuses position value)) := by
  refine ⟨fun data => by rw [route, route, h.ofConfiguration_eq], ?_⟩
  constructor
  · intro heq _ position value
    rw [← routeLiteral_mem_report_iff, ← routeLiteral_mem_report_iff, heq]
  · intro hrefuses
    refine report_congr ?_ h.modeViolations_eq
    rw [fieldViolations_eq, fieldViolations_eq, h.fallbackOutput]
    congr 1
    cases hm : c.mode with
    | rules => exact refusals_congr 0 (hrefuses hm)
    | expression => rw [h.routes hm]

def idle (routes : Option (List Route)) : Configuration :=
  ⟨.rules, none, some [], routes, noFallback, false⟩

theorem sameInUse_idle (routes others : Option (List Route)) :
    SameInUse (idle routes) (idle others) where
  mode := rfl
  valueToMatch := rfl
  rules _ := rfl
  routes h := by cases h
  fallbackOutput := rfl
  allowMultipleMatches := rfl

theorem report_eq_idle_scalar :
    SameInUse (idle none) (idle (some [⟨.str "a", 0, none⟩])) ∧
      (idle none).report = (idle (some [⟨.str "a", 0, none⟩])).report := by
  have hsame := sameInUse_idle none (some [⟨.str "a", 0, none⟩])
  refine ⟨hsame, hsame.report_eq_iff.2.mpr fun _ position value => ?_⟩
  refine iff_of_false (fun ⟨r, hr, _⟩ => by cases hr) ?_
  rintro ⟨r, hr, rfl, hno⟩
  obtain rfl := List.mem_singleton.mp (List.mem_of_getElem? hr)
  exact hno (.str "a")

theorem not_report_eq_idle_null :
    ¬ ∀ c d : Configuration, SameInUse c d → c.report = d.report := by
  intro h
  have heq := h _ _ (sameInUse_idle none (some [⟨.null, 0, none⟩]))
  have hnull : (idle (some [⟨.null, 0, none⟩])).Refuses 0 .null := ⟨_, rfl, rfl, fun hnull => by cases hnull⟩
  rw [← routeLiteral_mem_report_iff, ← heq, routeLiteral_mem_report_iff] at hnull
  obtain ⟨r, hr, -⟩ := hnull
  cases hr

end Configuration

end Switchyard
