import Switchyard.Proofs.Configuration.Report
import Switchyard.Proofs.Json.Equivalence

/-! Routing by another equality. Strict and deep equality differ on two arrays and on two
objects alone, and the routes of a valid configuration have neither, so that either equality
finds the same branches. -/

namespace Switchyard

namespace Json

variable {a b : Json}

theorem IsLiteral.isScalar (h : a.IsLiteral) : a.IsScalar := by
  cases h <;> trivial

theorem strictEqual_eq_deepEqual (h : a.IsScalar ∨ b.IsScalar) :
    a.strictEqual b = deepEqual a b := by
  -- the equations are the same but for two arrays and for two objects
  cases a <;> cases b <;> first
    | rfl
    | exact absurd h (not_or.mpr ⟨id, id⟩)

theorem strictEqual_eq_false (ha : ¬ a.IsScalar) : a.strictEqual b = false := by
  rw [Bool.eq_false_iff, Ne, strictEqual_iff]
  exact fun h => ha h.1

theorem IsLiteral.of_strictEqual (hb : b.IsLiteral) (h : a.strictEqual b = true) :
    a.IsLiteral := by
  cases hb <;> cases a <;> first
    | constructor
    | cases h

end Json

open Json (strictEqual deepEqual)

namespace Router

theorem scan_congr {β : Type} {holds holds' : β → Bool} {describe : Nat → β → Match}
    (multiple : Bool) (position : Nat) {branches : List β}
    (h : ∀ b ∈ branches, holds b = holds' b) :
    scan multiple holds describe position branches =
      scan multiple holds' describe position branches := by
  induction branches generalizing position with
  | nil => rfl
  | cons b rest ih =>
    have hfirst : holds b = holds' b := h b List.mem_cons_self
    have hrest := ih (position + 1) fun b' hb' => h b' (List.mem_cons_of_mem b hb')
    rw [scan, scan, hfirst, hrest]

def matchesBy (equal : Json → Json → Bool) (r : Router) (data : Json) : List Match :=
  match r.strategy with
  | .rules _ => r.matchesOf data
  | .expression none _ => []
  | .expression (some v) routes =>
    scan r.allowMultipleMatches (fun route => equal v route.value)
      (fun position route => ⟨position, route.outputIndex, route.name⟩) 0 routes

theorem matchesBy_strictEqual (r : Router) (data : Json) :
    r.matchesBy strictEqual data = r.matchesOf data := by
  unfold matchesBy matchesOf
  split <;> simp only [*]

theorem matchesBy_congr {equal equal' : Json → Json → Bool} {c : Configuration}
    (h : ∀ v ∈ c.valueToMatch, ∀ r ∈ c.routes.getD [], equal v r.value = equal' v r.value)
    (data : Json) :
    (ofConfiguration c).matchesBy equal data = (ofConfiguration c).matchesBy equal' data := by
  unfold matchesBy ofConfiguration
  cases hmode : c.mode with
  | rules => rfl
  | expression =>
    cases hvalue : c.valueToMatch with
    | none => rfl
    | some v =>
      refine scan_congr _ 0 fun r hr => h v hvalue r ?_
      rwa [Configuration.activeRoutes, hmode] at hr

end Router

namespace Configuration

variable {c : Configuration}

def routeBy (equal : Json → Json → Bool) (c : Configuration) (data : Json) : List UInt64 :=
  (Router.ofConfiguration c).outputsOf ((Router.ofConfiguration c).matchesBy equal data)

theorem isLiteral_of_isValid (h : c.isValid = true) : ∀ r ∈ c.routes.getD [], r.value.IsLiteral :=
  (sound_iff_literals.mp (isValid_iff_sound.mp h).1).2

theorem routeBy_deepEqual (h : c.isValid = true) (data : Json) :
    c.routeBy deepEqual data = c.route data := by
  have hagree : ∀ v ∈ c.valueToMatch, ∀ r ∈ c.routes.getD [],
      deepEqual v r.value = strictEqual v r.value := fun v _ r hr =>
    (Json.strictEqual_eq_deepEqual (.inr (isLiteral_of_isValid h r hr).isScalar)).symm
  rw [routeBy, Router.matchesBy_congr hagree, Router.matchesBy_strictEqual]
  rfl

theorem not_matchesAt_of_not_isLiteral (hvalid : c.isValid = true) (hmode : c.mode = .expression)
    (hvalue : ∀ v ∈ c.valueToMatch, ¬ v.IsLiteral) (data : Json) (m : Match) :
    ¬ c.MatchesAt data m := by
  rw [MatchesAt, hmode]
  rintro ⟨v, position, r, hv, hr, hequal, -⟩
  have hliteral := isLiteral_of_isValid hvalid r (List.mem_of_getElem? hr)
  exact hvalue v hv (hliteral.of_strictEqual hequal)

theorem route_of_not_matchesAt {data : Json} (h : ∀ m, ¬ c.MatchesAt data m) :
    c.route data = c.fallback.toList := by
  have hnone : (Router.ofConfiguration c).matchesOf data = [] :=
    List.eq_nil_iff_forall_not_mem.mpr fun m hm =>
      h m ((Router.finds_matchesOf c data).sound m hm)
  rw [route, Router.route, hnone]
  rfl

/-- The equalities agree as soon as one value is a scalar, and the strict one rejects what is
left. So valid configurations route by either of them alike, and values that cannot be
literals of routes go to the fallback or nowhere. -/
theorem strictEqual_agrees_deepEqual :
    (∀ a b : Json, a.IsScalar ∨ b.IsScalar → strictEqual a b = deepEqual a b) ∧
    (∀ a b : Json, ¬ a.IsScalar → ¬ b.IsScalar → strictEqual a b = false) ∧
    ∀ c : Configuration, c.mode = .expression → c.isValid = true → ∀ data,
      c.routeBy deepEqual data = c.route data ∧
      ((∀ v ∈ c.valueToMatch, ¬ v.IsLiteral) →
        (∀ m, ¬ c.MatchesAt data m) ∧ c.route data = c.fallback.toList) := by
  refine ⟨fun _ _ => Json.strictEqual_eq_deepEqual, fun _ _ ha _ => Json.strictEqual_eq_false ha,
    fun c hmode hvalid data => ⟨routeBy_deepEqual hvalid data, fun hvalue => ?_⟩⟩
  have hnone := not_matchesAt_of_not_isLiteral hvalid hmode hvalue data
  exact ⟨hnone, route_of_not_matchesAt hnone⟩

theorem strictEqual_agrees_deepEqual_object :
    let v : Json := .obj [("kind", .str "a")]
    let c : Configuration := ⟨.expression, some v, none, some [⟨.str "a", 0, none⟩], 3, false⟩
    strictEqual .null v = deepEqual .null v ∧ strictEqual v v = false ∧
      c.isValid = true ∧ c.route .null = [3] ∧ c.routeBy deepEqual .null = [3] := by
  intro v c
  obtain ⟨hagree, hcomposite, hroute⟩ := strictEqual_agrees_deepEqual
  have hvalid : c.isValid = true := by decide
  obtain ⟨hequal, hnone⟩ := hroute c rfl hvalid .null
  have hobject : ¬ Json.IsLiteral (.obj [("kind", .str "a")]) := fun h => by cases h
  have hvalue : ∀ w ∈ c.valueToMatch, ¬ w.IsLiteral := by
    rintro _ ⟨⟩
    exact hobject
  have hfallback : c.route .null = [3] := (hnone hvalue).2
  exact ⟨hagree _ _ (.inl trivial), hcomposite _ _ id id, hvalid, hfallback, hequal.trans hfallback⟩

end Configuration

end Switchyard
