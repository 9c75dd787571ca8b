import Mathlib.Data.List.Forall2
import Switchyard.Proofs.Condition.Equivalence
import Switchyard.Proofs.Router.Semantics

/-! Routing does not depend on the spelling of values: on that of the data, of the
operands of conditions, of the value to match, and of the literals of routes. -/

namespace Switchyard

open Json (Equivalent?)

structure Rule.Equivalent (r s : Rule) : Prop where
  conditions : List.Forall₂ Condition.Equivalent r.conditions s.conditions
  combination : r.combination = s.combination
  outputIndex : r.outputIndex = s.outputIndex
  name : r.name = s.name

structure Route.Equivalent (r s : Route) : Prop where
  value : r.value.Equivalent s.value
  outputIndex : r.outputIndex = s.outputIndex
  name : r.name = s.name

structure Configuration.Equivalent (c d : Configuration) : Prop where
  mode : c.mode = d.mode
  valueToMatch : Equivalent? c.valueToMatch d.valueToMatch
  rules : Option.Rel (List.Forall₂ Rule.Equivalent) c.rules d.rules
  routes : Option.Rel (List.Forall₂ Route.Equivalent) c.routes d.routes
  fallbackOutput : c.fallbackOutput = d.fallbackOutput
  allowMultipleMatches : c.allowMultipleMatches = d.allowMultipleMatches

section Lists

variable {α β : Type} {R : α → β → Prop} {as : List α} {bs : List β}

theorem forall_mem_congr {p : α → Prop} {q : β → Prop} (h : List.Forall₂ R as bs)
    (hpq : ∀ a b, R a b → (p a ↔ q b)) : (∀ a ∈ as, p a) ↔ ∀ b ∈ bs, q b := by
  induction h with
  | nil => simp
  | cons hab _ ih => rw [List.forall_mem_cons, List.forall_mem_cons, hpq _ _ hab, ih]

theorem exists_mem_congr {p : α → Prop} {q : β → Prop} (h : List.Forall₂ R as bs)
    (hpq : ∀ a b, R a b → (p a ↔ q b)) : (∃ a ∈ as, p a) ↔ ∃ b ∈ bs, q b := by
  induction h with
  | nil => simp
  | cons hab _ ih => rw [List.exists_mem_cons_iff, List.exists_mem_cons_iff, hpq _ _ hab, ih]

theorem map_filter_congr {γ : Type} {p : α → Bool} {q : β → Bool} {f : α → γ} {g : β → γ}
    (h : List.Forall₂ R as bs) (hpq : ∀ a b, R a b → p a = q b)
    (hfg : ∀ a b, R a b → f a = g b) : (as.filter p).map f = (bs.filter q).map g := by
  have hfilter : List.Forall₂ R (as.filter p) (bs.filter q) :=
    List.rel_filter (fun a b hab => Bool.eq_iff_iff.mp (hpq a b hab)) h
  rw [← List.forall₂_eq_eq_eq]
  exact List.rel_map (fun a b hab => hfg a b hab) hfilter

theorem forall₂_getD {l : Option (List α)} {m : Option (List β)}
    (h : Option.Rel (List.Forall₂ R) l m) : List.Forall₂ R (l.getD []) (m.getD []) := by
  cases h with
  | none => exact .nil
  | some h => exact h

end Lists

theorem Rule.Equivalent.matches_iff {r s : Rule} (h : r.Equivalent s) {x y : Json}
    (hxy : x.Equivalent y) : r.Matches x ↔ s.Matches y := by
  have hcondition (c d : Condition) (hcd : c.Equivalent d) : c.Satisfied x ↔ d.Satisfied y :=
    hcd.satisfied_iff hxy
  unfold Matches
  rw [← h.combination, ← List.length_eq_zero_iff, h.conditions.length_eq, List.length_eq_zero_iff]
  apply or_congr Iff.rfl
  cases r.combination with
  | all => exact forall_mem_congr h.conditions hcondition
  | any => exact exists_mem_congr h.conditions hcondition

namespace Configuration

variable {c d : Configuration} {x y : Json}

theorem Equivalent.matchingOutputs_eq (h : c.Equivalent d) (hxy : x.Equivalent y) :
    c.matchingOutputs x = d.matchingOutputs y := by
  unfold matchingOutputs
  rw [← h.mode]
  cases c.mode with
  | rules =>
    refine map_filter_congr (forall₂_getD h.rules) (fun r s hrs => ?_)
      fun _ _ hrs => hrs.outputIndex
    exact decide_eq_decide.mpr (hrs.matches_iff hxy)
  | expression =>
    have hmatch := h.valueToMatch
    generalize c.valueToMatch = v, d.valueToMatch = w at hmatch
    cases hmatch with
    | none => rfl
    | some hvw =>
      refine map_filter_congr (forall₂_getD h.routes) (fun r s hrs => ?_)
        fun _ _ hrs => hrs.outputIndex
      exact hvw.strictEqual_congr hrs.value

theorem route_eq_of_equivalent (h : c.Equivalent d) (hxy : x.Equivalent y) :
    c.route x = d.route y := by
  unfold route
  rw [Router.route_ofConfiguration, Router.route_ofConfiguration, specifiedOutputs,
    specifiedOutputs, h.matchingOutputs_eq hxy, h.fallbackOutput, h.allowMultipleMatches]

theorem route_eq_of_spellings :
    let five : Json := .num (.ofUInt64 5)
    let five' : Json := .num (.real (.ofNat 5) (by decide +kernel))
    let zero : Json := .num (.ofUInt64 0)
    let zero' : Json := .num (.real (.ranked true 0) (by decide))
    let v : Json := .obj [("lines", .arr [five, zero]), ("total", five)]
    let v' : Json := .obj [("total", five'), ("lines", .arr [five, zero'])]
    let config (w : Json) : Configuration :=
      ofRules [⟨[⟨"order", .isIn, some (.arr [w])⟩], .all, 3, none⟩]
    let x : Json := .obj [("order", .obj [("lines", .arr [five', zero']), ("total", five)])]
    let y : Json := .obj [("order", v)]
    ((config v).Equivalent (config v') ∧ x.Equivalent y) ∧
      (config v).route x = [3] ∧ (config v').route y = [3] := by
  intro five five' zero zero' v v' config x y
  have hfive : five.Equivalent five' := Json.equivalent_integer_real (by decide) (by decide +kernel)
  have hzero : zero.Equivalent zero' := Json.equivalent_integer_real (by decide) (by decide +kernel)
  have hself : five.Equivalent five := .refl hfive.left
  have hlines {a a' b b' : Json} (ha : a.Equivalent a') (hb : b.Equivalent b') :
      Json.Equivalent (.arr [a, b]) (.arr [a', b']) := .arr fun i => by
    rcases i with _ | _ | i
    exacts [.some ha, .some hb, .none]
  have hreordered {a a' b b' : Json} (ha : a.Equivalent a') (hb : b.Equivalent b') :
      Json.Equivalent (.obj [("lines", a), ("total", b)]) (.obj [("total", b'), ("lines", a')]) :=
    .obj (by simp) (by simp) fun key => by
      by_cases hkey : "lines" = key
      · subst hkey
        exact .some ha
      · by_cases hkey' : "total" = key
        · subst hkey'
          exact .some hb
        · simp [Json.lookup, hkey, hkey']
  have hv : v.Equivalent v' := hreordered (hlines hself hzero) hfive
  have hoperand : Json.Equivalent (.arr [v]) (.arr [v']) := .arr fun i => by
    rcases i with _ | i
    exacts [.some hv, .none]
  have hdata : Json.Equivalent (.obj [("lines", .arr [five', zero']), ("total", five)]) v :=
    (hreordered (hlines hfive.symm hzero.symm) hself).trans
      (hreordered (hlines hself (.refl hzero.left)) hself).symm
  have hxy : x.Equivalent y := .obj (by decide) (by decide) fun key => by
    by_cases hkey : "order" = key
    · subst hkey
      exact .some hdata
    · simp [Json.lookup, hkey]
  have hrule : Rule.Equivalent ⟨[⟨"order", .isIn, some (.arr [v])⟩], .all, 3, none⟩
      ⟨[⟨"order", .isIn, some (.arr [v'])⟩], .all, 3, none⟩ :=
    ⟨.cons ⟨rfl, rfl, .some hoperand⟩ .nil, rfl, rfl, rfl⟩
  have hconfig : (config v).Equivalent (config v') :=
    ⟨rfl, .none, .some (.cons hrule .nil), .none, rfl, rfl⟩
  have hroute : (config v).route x = [3] := by decide +kernel
  exact ⟨⟨hconfig, hxy⟩, hroute, (route_eq_of_equivalent hconfig hxy).symm.trans hroute⟩

end Configuration

end Switchyard
