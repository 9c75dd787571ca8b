import Switchyard.Proofs.Configuration.Validation
import Switchyard.Proofs.Router.Branches

/-! The report as a whole: every fault has one entry, and a missing collection has one if
there is no fault. A configuration without entries drops what matches no branch only if its
fallback output is the one that stands for none. -/

namespace Switchyard

theorem Violation.path_fallbackOutput_ne (value : Int64) (position : Nat) (v : Json) :
    (fallbackOutput value).path ≠ (routeLiteral position v).path := by
  intro h
  have hfirst := congrArg (fun s => s.toList.head?) h
  simp [path] at hfirst

namespace Configuration

variable {c : Configuration}

inductive FaultInside (c : Configuration) : Violation → Prop
  | fallbackOutput : c.fallbackOutput.toInt < -1 →
    FaultInside c (.fallbackOutput c.fallbackOutput)
  | routeLiteral {position : Nat} {value : Json} : c.Refuses position value →
    FaultInside c (.routeLiteral position value)

inductive Missing (c : Configuration) : Violation → Prop
  | rules : c.mode = .rules → c.rules = none → Missing c .missingRules
  | routes : c.mode = .expression → c.routes = none → Missing c .missingRoutes

theorem faultInside_iff {v : Violation} : c.FaultInside v ↔ v ∈ c.fieldViolations := by
  rw [mem_fieldViolations]
  constructor
  · rintro (hlow | hrefused)
    · exact .inl ⟨hlow, rfl⟩
    · exact .inr ⟨_, _, hrefused, rfl⟩
  · rintro (⟨hlow, rfl⟩ | ⟨position, value, hrefused, rfl⟩)
    · exact .fallbackOutput hlow
    · exact .routeLiteral hrefused

theorem missing_iff {v : Violation} : c.Missing v ↔ v ∈ c.modeViolations := by
  rw [mem_modeViolations]
  constructor
  · rintro (⟨hmode, hrules⟩ | ⟨hmode, hroutes⟩)
    · exact .inl ⟨hmode, hrules, rfl⟩
    · exact .inr ⟨hmode, hroutes, rfl⟩
  · rintro (⟨hmode, hrules, rfl⟩ | ⟨hmode, hroutes, rfl⟩)
    · exact .rules hmode hrules
    · exact .routes hmode hroutes

theorem sound_iff : c.Sound ↔ ∀ v, ¬ c.FaultInside v := by
  rw [← fieldViolations_eq_nil_iff, List.eq_nil_iff_forall_not_mem]
  exact forall_congr' fun v => not_congr faultInside_iff.symm

theorem lacks_iff : c.Lacks ↔ c.modeViolations ≠ [] := by
  unfold Lacks modeViolations
  cases c.mode <;> cases c.rules <;> cases c.routes <;> simp

theorem nodup_refusals (first : Nat) (routes : List Route) :
    ((refusals first routes).map Violation.path).Nodup := by
  induction routes generalizing first with
  | nil => exact List.nodup_nil
  | cons r rest ih =>
    rw [refusals_cons]
    split
    · exact ih (first + 1)
    · rw [List.singleton_append, List.map_cons, List.nodup_cons]
      refine ⟨fun hmem => ?_, ih (first + 1)⟩
      -- entries of the other routes have greater positions
      obtain ⟨v, hv, hpath⟩ := List.mem_map.mp hmem
      obtain ⟨i, value, -, rfl⟩ := mem_refusals.mp hv
      have := Violation.routeLiteral_path_inj hpath
      omega

theorem nodup_fieldViolations (c : Configuration) :
    (c.fieldViolations.map Violation.path).Nodup := by
  rw [fieldViolations_eq]
  split
  · rw [List.singleton_append, List.map_cons, List.nodup_cons]
    refine ⟨fun hmem => ?_, nodup_refusals 0 _⟩
    obtain ⟨v, hv, hpath⟩ := List.mem_map.mp hmem
    obtain ⟨i, value, -, rfl⟩ := mem_refusals.mp hv
    exact Violation.path_fallbackOutput_ne _ _ _ hpath.symm
  · exact nodup_refusals 0 _

theorem nodup_modeViolations (c : Configuration) :
    (c.modeViolations.map Violation.path).Nodup := by
  unfold modeViolations
  split <;> simp

theorem report_perm (c : Configuration) : c.report.Perm c.violations :=
  List.mergeSort_perm _ _

theorem nodup_report (c : Configuration) : (c.report.map Violation.path).Nodup := by
  rw [(c.report_perm.map Violation.path).nodup_iff]
  unfold violations
  split
  · exact c.nodup_modeViolations
  · exact c.nodup_fieldViolations

theorem isValid_iff_report : c.isValid = true ↔ c.report = [] := by
  rw [isValid, List.isEmpty_iff]
  constructor
  · intro h
    have hperm := c.report_perm
    rwa [h, List.perm_nil] at hperm
  · intro h
    have hperm := c.report_perm
    rwa [h, List.nil_perm] at hperm

theorem isValid_iff_sound : c.isValid = true ↔ c.Sound ∧ ¬ c.Lacks := by
  rw [isValid, List.isEmpty_iff, violations, ← fieldViolations_eq_nil_iff, lacks_iff, not_not]
  split
  · next h => simp [List.isEmpty_iff.mp h]
  · next h => simp [mt List.isEmpty_iff.mpr h]

theorem sound_iff_literals :
    c.Sound ↔ -1 ≤ c.fallbackOutput.toInt ∧ ∀ r ∈ c.routes.getD [], r.value.IsLiteral := by
  refine and_congr Iff.rfl ?_
  unfold Refuses RefusedIn
  constructor
  · intro h r hr
    obtain ⟨i, hi⟩ := List.mem_iff_getElem?.mp hr
    by_contra hno
    exact h i r.value ⟨r, hi, rfl, hno⟩
  · rintro h i value ⟨r, hr, rfl, hno⟩
    exact hno (h r (List.mem_of_getElem? hr))

/-- Each fault has an entry of its own, and if there is none a missing collection has. -/
structure Lists (c : Configuration) (report : List Violation) : Prop where
  distinct : (report.map Violation.path).Nodup
  entries : ∀ v, v ∈ report ↔ c.FaultInside v ∨ (c.Missing v ∧ ∀ w, ¬ c.FaultInside w)

theorem lists_report (c : Configuration) : c.Lists c.report where
  distinct := c.nodup_report
  entries v := by
    rw [mem_report, faultInside_iff, missing_iff, ← sound_iff, and_comm]

theorem route_eq_nil_iff {data : Json} :
    c.route data = [] ↔ (∀ m, ¬ c.MatchesAt data m) ∧ c.fallbackOutput.toInt < 0 := by
  have hfinds := Router.finds_matchesOf c data
  have hfallback : (Router.ofConfiguration c).fallback.toList = [] ↔
      c.fallbackOutput.toInt < 0 := by
    show c.fallback.toList = [] ↔ _
    unfold fallback
    split
    · next h => simp [h]
    · next h => simpa using h
  rw [route, Router.route]
  generalize (Router.ofConfiguration c).matchesOf data = ms at hfinds
  cases ms with
  | nil =>
    have hnone : ∀ m, ¬ c.MatchesAt data m := fun m hm => by
      obtain ⟨n, hn, -⟩ := hfinds.first m hm
      cases hn
    rw [and_iff_right hnone, ← hfallback]
    rfl
  | cons m rest =>
    have hmatches := hfinds.sound m List.mem_cons_self
    refine iff_of_false ?_ fun h => h.1 m hmatches
    intro h
    cases h

/-- What validation accepts, what it reports of all else, and when a valid configuration
drops a value. -/
theorem isValid_iff_and_lists_report (c : Configuration) :
    (c.isValid = true ↔
      -1 ≤ c.fallbackOutput.toInt ∧ (∀ r ∈ c.routes.getD [], r.value.IsLiteral) ∧ ¬ c.Lacks) ∧
    (c.isValid = true ↔ c.report = []) ∧ c.Lists c.report ∧
    (c.isValid = true → ∀ data,
      c.route data = [] ↔ (∀ m, ¬ c.MatchesAt data m) ∧ c.fallbackOutput.toInt = -1) := by
  have hvalid : c.isValid = true ↔
      -1 ≤ c.fallbackOutput.toInt ∧ (∀ r ∈ c.routes.getD [], r.value.IsLiteral) ∧ ¬ c.Lacks := by
    rw [isValid_iff_sound, sound_iff_literals, and_assoc]
  refine ⟨hvalid, isValid_iff_report, c.lists_report, fun h data => ?_⟩
  -- of the fallback outputs that stand for none, validation leaves one
  have hlow := (hvalid.mp h).1
  rw [route_eq_nil_iff]
  refine and_congr_right fun _ => ?_
  omega

def unrouted : Configuration :=
  ⟨.expression, some (.str "b"), none, some [⟨.str "a", 0, none⟩], noFallback, false⟩

theorem route_unrouted_eq_nil : unrouted.isValid = true ∧ unrouted.route .null = [] := by
  have hvalid : unrouted.isValid = true := by decide
  refine ⟨hvalid, ?_⟩
  rw [(isValid_iff_and_lists_report unrouted).2.2.2 hvalid .null]
  refine ⟨?_, by decide⟩
  rintro m ⟨v, position, r, hv, hr, hequal, -⟩
  cases hv
  obtain rfl := List.mem_singleton.mp (List.mem_of_getElem? hr)
  revert hequal
  decide

end Configuration

end Switchyard
