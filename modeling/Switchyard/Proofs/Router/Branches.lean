import Switchyard.Port
import Switchyard.Proofs.Router.Semantics

/-! The branches of a router by their positions, and which of them are found to match:
all that do, in order, or the first of them. -/

namespace Switchyard

/-- Matches found among those that there are: all of them in the order of their positions,
or if only one is wanted, one that none comes before. -/
structure Finds (Found : Match → Prop) (multiple : Bool) (ms : List Match) : Prop where
  ordered : ms.Pairwise (·.position < ·.position)
  sound : ∀ m ∈ ms, Found m
  first : ∀ m, Found m → ∃ n ∈ ms, n.position ≤ m.position
  complete : multiple = true → ∀ m, Found m → m ∈ ms
  single : multiple = false → ms.length ≤ 1

namespace Router

def branches (r : Router) : List (Option String × UInt64) :=
  match r.strategy with
  | .rules rules => rules.map fun rule => (rule.name, rule.outputIndex)
  | .expression _ routes => routes.map fun route => (route.name, route.outputIndex)

theorem length_branches (r : Router) : r.branches.length = r.branchCount := by
  unfold branches branchCount
  cases r.strategy <;> exact List.length_map _

theorem branches_ofConfiguration (c : Configuration) : (ofConfiguration c).branches = c.branches := by
  unfold branches ofConfiguration Configuration.branches
  cases c.mode with
  | rules => exact List.map_map
  | expression => rfl

section Scan

variable {β : Type} {holds : β → Bool} {describe : Nat → β → Match}

def holding (holds : β → Bool) (describe : Nat → β → Match) (position : Nat) (branches : List β) :
    List Match :=
  ((branches.zipIdx position).filter fun b => holds b.1).map fun b => describe b.2 b.1

theorem holding_cons (position : Nat) (b : β) (rest : List β) :
    holding holds describe position (b :: rest) =
      (if holds b then [describe position b] else []) ++
        holding holds describe (position + 1) rest := by
  unfold holding
  rw [List.zipIdx_cons, List.filter_cons]
  cases holds b <;> rfl

theorem scan_eq (multiple : Bool) (position : Nat) (branches : List β) :
    scan multiple holds describe position branches =
      if multiple then holding holds describe position branches
      else (holding holds describe position branches).take 1 := by
  induction branches generalizing position with
  | nil => cases multiple <;> rfl
  | cons b rest ih =>
    rw [scan, ih, holding_cons]
    cases holds b with
    | true => cases multiple <;> rfl
    | false => rfl

theorem mem_holding_iff {branches : List β} {m : Match} :
    m ∈ holding holds describe 0 branches ↔
      ∃ position b, branches[position]? = some b ∧ holds b = true ∧ describe position b = m := by
  unfold holding
  simp only [List.mem_map, List.mem_filter, List.mem_zipIdx_iff_getElem?, Prod.exists]
  constructor
  · rintro ⟨b, position, ⟨hb, hholds⟩, hm⟩
    exact ⟨position, b, hb, hholds, hm⟩
  · rintro ⟨position, b, hb, hholds, hm⟩
    exact ⟨b, position, ⟨hb, hholds⟩, hm⟩

theorem pairwise_holding (hposition : ∀ position b, (describe position b).position = position)
    (position : Nat) (branches : List β) :
    (holding holds describe position branches).Pairwise (·.position < ·.position) := by
  have hrange : ((branches.zipIdx position).map Prod.snd).Pairwise (· < ·) := by
    rw [List.zipIdx_map_snd]
    exact List.pairwise_lt_range'
  unfold holding
  rw [List.pairwise_map]
  simp only [hposition]
  exact (List.pairwise_map.mp hrange).filter _

theorem finds_scan (hposition : ∀ position b, (describe position b).position = position)
    (multiple : Bool) (branches : List β) :
    Finds (· ∈ holding holds describe 0 branches) multiple
      (scan multiple holds describe 0 branches) := by
  have hordered : (holding holds describe 0 branches).Pairwise (·.position < ·.position) :=
    pairwise_holding hposition 0 branches
  rw [scan_eq]
  generalize holding holds describe 0 branches = ms at hordered ⊢
  cases multiple with
  | true =>
    exact ⟨hordered, fun m hm => hm, fun m hm => ⟨m, hm, Nat.le_refl _⟩, fun _ m hm => hm,
      fun h => (by cases h)⟩
  | false =>
    refine ⟨hordered.sublist (List.take_sublist 1 ms), fun m => List.mem_of_mem_take, fun m hm => ?_,
      fun h => (by cases h), fun _ => List.length_take_le 1 ms⟩
    cases ms with
    | nil => cases hm
    | cons n rest =>
      refine ⟨n, List.mem_cons_self, ?_⟩
      rcases List.mem_cons.mp hm with rfl | hm
      · exact Nat.le_refl _
      · exact Nat.le_of_lt ((List.pairwise_cons.mp hordered).1 m hm)

end Scan

end Router

namespace Configuration

def MatchesAt (c : Configuration) (data : Json) (m : Match) : Prop :=
  match c.mode with
  | .rules =>
    ∃ (position : Nat) (r : Rule), (c.rules.getD [])[position]? = some r ∧ r.Matches data ∧
      m = ⟨position, r.outputIndex, r.name⟩
  | .expression =>
    ∃ (v : Json) (position : Nat) (r : Route), c.valueToMatch = some v ∧
      (c.routes.getD [])[position]? = some r ∧ v.strictEqual r.value = true ∧
        m = ⟨position, r.outputIndex, r.name⟩

theorem MatchesAt.branch {c : Configuration} {data : Json} {m : Match} (h : c.MatchesAt data m) :
    c.branches[m.position]? = some (m.name, m.outputIndex) := by
  unfold MatchesAt at h
  unfold branches activeRules activeRoutes
  cases hmode : c.mode with
  | rules =>
    rw [hmode] at h
    obtain ⟨position, r, hr, -, rfl⟩ := h
    rw [List.getElem?_map, hr]
    rfl
  | expression =>
    rw [hmode] at h
    obtain ⟨v, position, r, -, hr, -, rfl⟩ := h
    rw [List.getElem?_map, hr]
    rfl

end Configuration

theorem Finds.congr {P Q : Match → Prop} {multiple : Bool} {ms : List Match}
    (h : Finds P multiple ms) (hPQ : ∀ m, P m ↔ Q m) : Finds Q multiple ms := by
  obtain rfl : P = Q := funext fun m => propext (hPQ m)
  exact h

theorem Router.finds_matchesOf (c : Configuration) (data : Json) :
    Finds (c.MatchesAt data) c.allowMultipleMatches ((ofConfiguration c).matchesOf data) := by
  unfold matchesOf ofConfiguration
  cases hmode : c.mode with
  | rules =>
    refine (finds_scan (fun _ _ => rfl) _ _).congr fun m => ?_
    rw [mem_holding_iff, Configuration.MatchesAt, hmode, Configuration.activeRules, hmode]
    simp only [List.getElem?_map, Option.map_eq_some_iff]
    constructor
    · rintro ⟨position, b, ⟨r, hr, rfl⟩, hholds, rfl⟩
      exact ⟨position, r, hr, (r.holds_iff data).mp hholds, rfl⟩
    · rintro ⟨position, r, hr, hmatches, rfl⟩
      exact ⟨position, _, ⟨r, hr, rfl⟩, (r.holds_iff data).mpr hmatches, rfl⟩
  | expression =>
    cases hvalue : c.valueToMatch with
    | none =>
      have hnone (m : Match) : ¬ c.MatchesAt data m := by
        rw [Configuration.MatchesAt, hmode]
        rintro ⟨v, position, r, hv, -⟩
        cases hvalue.symm.trans hv
      exact ⟨.nil, fun _ hm => (by cases hm), fun m hm => (hnone m hm).elim,
        fun _ m hm => (hnone m hm).elim, fun _ => Nat.zero_le 1⟩
    | some v =>
      refine (finds_scan (fun _ _ => rfl) _ _).congr fun m => ?_
      rw [mem_holding_iff, Configuration.MatchesAt, hmode, Configuration.activeRoutes, hmode]
      constructor
      · rintro ⟨position, r, hr, hequal, rfl⟩
        exact ⟨v, position, r, hvalue, hr, hequal, rfl⟩
      · rintro ⟨w, position, r, hw, hr, hequal, rfl⟩
        cases hvalue.symm.trans hw
        exact ⟨position, r, hr, hequal, rfl⟩

end Switchyard
