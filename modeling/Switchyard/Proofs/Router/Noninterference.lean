import Switchyard.Proofs.Router.Semantics

/-! What routing depends on: the branches in use, the match policy and the fallback,
and of the data only what stands at the fields of the conditions in use. -/

namespace Switchyard

namespace Configuration

/-- The same switch, up to what its mode does not use. All negative fallback outputs
stand for none. -/
structure SameSwitch (c d : Configuration) : Prop where
  mode : c.mode = d.mode
  rules : c.mode = .rules → c.rules.getD [] = d.rules.getD []
  routes : c.mode = .expression → c.routes.getD [] = d.routes.getD []
  valueToMatch : c.mode = .expression → c.valueToMatch = d.valueToMatch
  fallbackOutput : c.fallbackOutput = d.fallbackOutput ∨
    (c.fallbackOutput.toInt < 0 ∧ d.fallbackOutput.toInt < 0)
  allowMultipleMatches : c.allowMultipleMatches = d.allowMultipleMatches

def Addresses (c : Configuration) (field : String) : Prop :=
  c.mode = .rules ∧ ∃ r ∈ c.rules.getD [], ∃ p ∈ r.conditions, p.field = field

/-- Two values have the same, or both nothing, at every field that is addressed. -/
def SeesAlike (c : Configuration) (x y : Json) : Prop :=
  ∀ field, c.Addresses field → x.resolve field = y.resolve field

variable {c d : Configuration}

theorem SameSwitch.fallback_eq (h : c.SameSwitch d) : c.fallback = d.fallback := by
  unfold fallback
  rcases h.fallbackOutput with heq | ⟨hc, hd⟩
  · rw [heq]
  · rw [if_neg (Int.not_le.mpr hc), if_neg (Int.not_le.mpr hd)]

theorem SameSwitch.ofConfiguration_eq (h : c.SameSwitch d) :
    Router.ofConfiguration c = Router.ofConfiguration d := by
  unfold Router.ofConfiguration activeRules activeRoutes
  rw [h.fallback_eq, h.allowMultipleMatches, ← h.mode]
  cases hmode : c.mode with
  | rules => rw [h.rules hmode]
  | expression => rw [h.routes hmode, h.valueToMatch hmode]

end Configuration

variable {x y : Json}

theorem Condition.satisfied_congr {p : Condition} (h : x.resolve p.field = y.resolve p.field) :
    p.Satisfied x ↔ p.Satisfied y := by
  rw [Satisfied, Satisfied, h]

theorem Rule.matches_congr {r : Rule}
    (h : ∀ p ∈ r.conditions, x.resolve p.field = y.resolve p.field) :
    r.Matches x ↔ r.Matches y := by
  unfold Matches
  apply or_congr Iff.rfl
  cases r.combination with
  | all => exact forall₂_congr fun p hp => Condition.satisfied_congr (h p hp)
  | any => exact exists_congr fun p => and_congr_right fun hp => Condition.satisfied_congr (h p hp)

namespace Configuration

variable {c d : Configuration}

theorem SeesAlike.matchingOutputs_eq (h : c.SeesAlike x y) :
    c.matchingOutputs x = c.matchingOutputs y := by
  unfold matchingOutputs
  cases hmode : c.mode with
  | rules =>
    refine congrArg (List.map Rule.outputIndex) (List.filter_congr fun r hr => ?_)
    exact decide_eq_decide.mpr (Rule.matches_congr fun p hp => h p.field ⟨hmode, r, hr, p, hp, rfl⟩)
  | expression => rfl

theorem SeesAlike.route_eq (h : c.SeesAlike x y) : c.route x = c.route y := by
  unfold route
  rw [Router.route_ofConfiguration, Router.route_ofConfiguration, specifiedOutputs,
    specifiedOutputs, h.matchingOutputs_eq]

theorem SameSwitch.route_eq (h : c.SameSwitch d) (data : Json) : c.route data = d.route data := by
  rw [route, route, h.ofConfiguration_eq]

theorem seesAlike_of_expression (hmode : c.mode = .expression) (x y : Json) : c.SeesAlike x y :=
  fun _ haddressed => by cases hmode.symm.trans haddressed.1

theorem sameSwitch_withRules (hmode : c.mode = .expression) (rules : Option (List Rule)) :
    c.SameSwitch { c with rules } where
  mode := rfl
  rules h := by cases hmode.symm.trans h
  routes _ := rfl
  valueToMatch _ := rfl
  fallbackOutput := .inl rfl
  allowMultipleMatches := rfl

theorem sameSwitch_withRoutes (hmode : c.mode = .rules) (valueToMatch : Option Json)
    (routes : Option (List Route)) : c.SameSwitch { c with valueToMatch, routes } where
  mode := rfl
  rules _ := rfl
  routes h := by cases hmode.symm.trans h
  valueToMatch h := by cases hmode.symm.trans h
  fallbackOutput := .inl rfl
  allowMultipleMatches := rfl

/-- Switches that are the same in use send values that are alike at the fields in use to
the same outputs, by the same number of branches. So nothing in the data matters to a
switch over an expression, and what a mode does not use never matters. -/
theorem noninterference (c : Configuration) (x : Json) :
    (∀ (d : Configuration) (y : Json), c.SameSwitch d → c.SeesAlike x y →
      c.route x = d.route y ∧
        (Router.ofConfiguration c).branchCount = (Router.ofConfiguration d).branchCount) ∧
    (c.mode = .expression → ∀ (rules : Option (List Rule)) (y : Json),
      c.route x = route { c with rules } y) ∧
    (c.mode = .rules → ∀ (valueToMatch : Option Json) (routes : Option (List Route)),
      c.route x = route { c with valueToMatch, routes } x) := by
  refine ⟨fun d y hswitch hdata => ⟨?_, ?_⟩, fun hmode rules y => ?_, fun hmode value routes => ?_⟩
  · rw [hdata.route_eq, hswitch.route_eq]
  · rw [hswitch.ofConfiguration_eq]
  · rw [(seesAlike_of_expression hmode x y).route_eq, (sameSwitch_withRules hmode rules).route_eq]
  · rw [(sameSwitch_withRoutes hmode value routes).route_eq]

theorem noninterference_orders :
    let rule : Rule := ⟨[⟨"order.items[0]", .greaterThan, some (.str "2")⟩], .any, 4, none⟩
    let c : Configuration := ⟨.rules, none, some [rule], none, -1, false⟩
    let d : Configuration := ⟨.rules, some .null, some [rule], some [⟨.null, 7, none⟩], -9, false⟩
    let order (note : Json) : Json :=
      .obj [("note", note), ("order", .obj [("items", .arr [.ofUInt64 3])])]
    (c.SameSwitch d ∧ c.SeesAlike (order .null) (order (.str "late"))) ∧
      c.route (order .null) = [4] ∧ d.route (order (.str "late")) = [4] := by
  intro rule c d order
  have hswitch : c.SameSwitch d :=
    ⟨rfl, fun _ => rfl, fun h => (by cases h), fun h => (by cases h), .inr (by decide), rfl⟩
  have hdata : c.SeesAlike (order .null) (order (.str "late")) := by
    rintro _ ⟨-, r, hr, p, hp, rfl⟩
    obtain rfl := List.mem_singleton.mp hr
    obtain rfl := List.mem_singleton.mp hp
    rfl
  have hroute : c.route (order .null) = [4] := by decide +kernel
  exact ⟨⟨hswitch, hdata⟩, hroute,
    ((noninterference c (order .null)).1 d _ hswitch hdata).1.symm.trans hroute⟩

end Configuration

end Switchyard
