import Switchyard.Condition.Check
import Switchyard.Proofs.Comparison

/-! What the operators of conditions say of a field and an operand, as a relation
on values that may be absent. Prepared checks decide that relation. -/

namespace Switchyard

def Binary64.Related (r : Int → Int → Prop) (x y : Binary64) : Prop :=
  ∃ m n, x.key? = some m ∧ y.key? = some n ∧ r m n

namespace Operator

def Contains (field operand : Option Json) : Prop :=
  (∃ s t, field = some (.str s) ∧ operand = some (.str t) ∧ t.toList <:+: s.toList) ∨
    ∃ items, field = some (.arr items) ∧ ∃ item ∈ items, Json.deepEqual? (some item) operand = true

def IsElement (field operand : Option Json) : Prop :=
  ∃ items, operand = some (.arr items) ∧ ∃ item ∈ items, Json.deepEqual? (some item) field = true

def Relates (op : Operator) (field operand : Option Json) : Prop :=
  match op with
  | equals => Json.deepEqual? field operand = true
  | notEquals => ¬ Json.deepEqual? field operand = true
  | contains => Contains field operand
  | notContains => ¬ Contains field operand
  | startsWith =>
    ∃ s t, field = some (.str s) ∧ operand = some (.str t) ∧ t.toList <+: s.toList
  | endsWith =>
    ∃ s t, field = some (.str s) ∧ operand = some (.str t) ∧ t.toList <:+ s.toList
  | greaterThan => Binary64.Related (· > ·) (Json.toBinary64? field) (Json.toBinary64? operand)
  | lessThan => Binary64.Related (· < ·) (Json.toBinary64? field) (Json.toBinary64? operand)
  | greaterThanOrEqual =>
    Binary64.Related (· ≥ ·) (Json.toBinary64? field) (Json.toBinary64? operand)
  | lessThanOrEqual => Binary64.Related (· ≤ ·) (Json.toBinary64? field) (Json.toBinary64? operand)
  | isEmpty => Json.isEmpty field = true
  | isNotEmpty => ¬ Json.isEmpty field = true
  | isTrue =>
    field = some (.bool true) ∨ field = some (.str "true") ∨
      Json.deepEqual? field (some (.ofUInt64 1)) = true
  | isFalse =>
    field = some (.bool false) ∨ field = some (.str "false") ∨
      Json.deepEqual? field (some (.ofUInt64 0)) = true
  | regex =>
    ∃ s source p, field = some (.str s) ∧ operand = some (.str source) ∧
      Pattern.compile? source = some p ∧ p.occursIn s = true
  | isIn => IsElement field operand
  | notIn => ¬ IsElement field operand

end Operator

def Condition.Satisfied (c : Condition) (data : Json) : Prop :=
  c.operator.Relates (data.resolve c.field) c.value

theorem Binary64.less_iff_related {x y : Binary64} : x.less y = true ↔ Related (· < ·) x y := by
  unfold less Related
  cases x.key? <;> cases y.key? <;> simp

theorem Binary64.lessOrEqual_iff_related {x y : Binary64} :
    x.lessOrEqual y = true ↔ Related (· ≤ ·) x y := by
  unfold lessOrEqual Related
  cases x.key? <;> cases y.key? <;> simp

theorem Binary64.related_swap {r : Int → Int → Prop} {x y : Binary64} :
    Related r x y ↔ Related (fun m n => r n m) y x :=
  ⟨fun ⟨m, n, hx, hy, h⟩ => ⟨n, m, hy, hx, h⟩, fun ⟨m, n, hy, hx, h⟩ => ⟨n, m, hx, hy, h⟩⟩

namespace Check

theorem onStrings_iff {test : String → String → Bool} {a b : Option Json} :
    onStrings test a b = true ↔ ∃ s t, a = some (.str s) ∧ b = some (.str t) ∧ test s t = true := by
  constructor
  · intro h
    unfold onStrings at h
    split at h
    · exact ⟨_, _, rfl, rfl, h⟩
    · cases h
  · rintro ⟨s, t, rfl, rfl, h⟩
    exact h

theorem contains_iff {field operand : Option Json} :
    contains field operand = true ↔ Operator.Contains field operand := by
  constructor
  · intro h
    unfold contains at h
    split at h
    · exact .inl ⟨_, _, rfl, rfl, Text.occursIn_iff.mp h⟩
    · exact .inr ⟨_, rfl, List.any_eq_true.mp h⟩
    · cases h
  · rintro (⟨s, t, rfl, rfl, h⟩ | ⟨items, rfl, h⟩)
    · exact Text.occursIn_iff.mpr h
    · exact List.any_eq_true.mpr h

theorem isElement_iff {field operand : Option Json} :
    isElement field operand = true ↔ Operator.IsElement field operand := by
  constructor
  · intro h
    unfold isElement at h
    split at h
    · exact ⟨_, rfl, List.any_eq_true.mp h⟩
    · cases h
  · rintro ⟨items, rfl, h⟩
    exact List.any_eq_true.mpr h

theorem searches_iff {pattern : Option Pattern} {field : Option Json} :
    searches pattern field = true ↔
      ∃ s p, field = some (.str s) ∧ pattern = some p ∧ p.occursIn s = true := by
  constructor
  · intro h
    unfold searches at h
    split at h
    · split at h
      · exact ⟨_, _, rfl, rfl, h⟩
      · cases h
    · cases h
  · rintro ⟨s, p, rfl, rfl, h⟩
    exact h

theorem patternText?_eq_some {c : Condition} (hop : c.operator = .regex) {source : String} :
    patternText? c = some source ↔ c.value = some (.str source) := by
  unfold patternText?
  rw [hop]
  split
  · next heq => simp [heq]
  · next hno => simpa using fun h => hno source rfl h

theorem pattern_eq_some_iff {c : Condition} (hop : c.operator = .regex) {p : Pattern} :
    (ofCondition c).pattern = some p ↔
      ∃ source, c.value = some (.str source) ∧ Pattern.compile? source = some p := by
  rw [ofCondition, Option.bind_eq_some_iff]
  simp only [patternText?_eq_some hop]

/-- The numbers that count as true are those equal to `1`: rounding merges no
other number with it, and likewise for `0`. -/
theorem isTrue_iff {field operand : Option Json} :
    isTrue field = true ↔ Operator.Relates .isTrue field operand := by
  rcases field with _ | (_ | b | n | s | items | members)
  case some.num =>
    have hone : n.toBinary64.equal (.ofNat 1) = true ↔ n.equal (.ofUInt64 1) = true :=
      (Number.equal_integer_iff (i := 1) (by decide)).symm
    simpa [isTrue, Operator.Relates, Json.deepEqual?, Json.deepEqual, Json.ofUInt64] using hone
  all_goals simp [isTrue, Operator.Relates, Json.deepEqual?, Json.deepEqual, Json.ofUInt64]

theorem isFalse_iff {field operand : Option Json} :
    isFalse field = true ↔ Operator.Relates .isFalse field operand := by
  rcases field with _ | (_ | b | n | s | items | members)
  case some.num =>
    have hzero : n.toBinary64.equal .zero = true ↔ n.equal (.ofUInt64 0) = true :=
      (Number.equal_integer_iff (i := 0) (by decide)).symm
    simpa [isFalse, Operator.Relates, Json.deepEqual?, Json.deepEqual, Json.ofUInt64] using hzero
  all_goals simp [isFalse, Operator.Relates, Json.deepEqual?, Json.deepEqual, Json.ofUInt64]

theorem test_iff (c : Condition) (field : Option Json) :
    (ofCondition c).test field = true ↔ c.operator.Relates field c.value := by
  obtain ⟨path, op, operand⟩ := c
  cases op with
  | equals => rfl
  | notEquals => exact Bool.not_iff_not
  | contains => exact contains_iff
  | notContains => exact Bool.not_iff_not.trans (not_congr contains_iff)
  | startsWith =>
    refine onStrings_iff.trans ?_
    simp only [Text.startsWith, List.isPrefixOf_iff_prefix, Operator.Relates, ofCondition]
  | endsWith =>
    refine onStrings_iff.trans ?_
    simp only [Text.endsWith, List.isSuffixOf_iff_suffix, Operator.Relates, ofCondition]
  | greaterThan => exact Binary64.less_iff_related.trans Binary64.related_swap
  | lessThan => exact Binary64.less_iff_related
  | greaterThanOrEqual => exact Binary64.lessOrEqual_iff_related.trans Binary64.related_swap
  | lessThanOrEqual => exact Binary64.lessOrEqual_iff_related
  | isEmpty => rfl
  | isNotEmpty => exact Bool.not_iff_not
  | isTrue => exact isTrue_iff
  | isFalse => exact isFalse_iff
  | regex =>
    refine searches_iff.trans ?_
    constructor
    · rintro ⟨s, p, hs, hpattern, h⟩
      obtain ⟨source, hsource, hp⟩ := (pattern_eq_some_iff rfl).mp hpattern
      exact ⟨s, source, p, hs, hsource, hp, h⟩
    · rintro ⟨s, source, p, hs, hsource, hp, h⟩
      exact ⟨s, p, hs, (pattern_eq_some_iff rfl).mpr ⟨source, hsource, hp⟩, h⟩
  | isIn => exact isElement_iff
  | notIn => exact Bool.not_iff_not.trans (not_congr isElement_iff)

end Check

theorem Condition.holds_iff (c : Condition) (data : Json) : c.holds data = true ↔ c.Satisfied data :=
  Check.test_iff c _

end Switchyard
