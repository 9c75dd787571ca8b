import Switchyard.Proofs.Router.Semantics

/-! Negation of rules. Most operators have a partner that holds where they do not; for
the orders this is so as long as both sides are numbers. So a rule is negated when all
of its operators are exchanged for their partners and its combination for the other one. -/

namespace Switchyard

theorem Binary64.related_not_iff {r s : Int → Int → Prop} (h : ∀ m n, s m n ↔ ¬ r m n)
    {x y : Binary64} :
    Related s x y ↔ ¬ Related r x y ∧ ¬ (x.isNaN = true ∨ y.isNaN = true) := by
  unfold Related
  cases x with
  | nan => simp [key?, isNaN]
  | ranked p a =>
    cases y with
    | nan => simp [key?, isNaN]
    | ranked q b => cases p <;> cases q <;> simp [key?, isNaN, h]

namespace Operator

/-- The operator that holds where another one does not. An operator without such a
partner is its own. -/
def partner : Operator → Operator
  | equals => notEquals
  | notEquals => equals
  | contains => notContains
  | notContains => contains
  | isEmpty => isNotEmpty
  | isNotEmpty => isEmpty
  | isIn => notIn
  | notIn => isIn
  | greaterThan => lessThanOrEqual
  | lessThanOrEqual => greaterThan
  | lessThan => greaterThanOrEqual
  | greaterThanOrEqual => lessThan
  | op => op

def IsPaired (op : Operator) : Prop := op.partner ≠ op

instance (op : Operator) : Decidable op.IsPaired := inferInstanceAs (Decidable (op.partner ≠ op))

def Incomparable (field operand : Option Json) : Prop :=
  (Json.toBinary64? field).isNaN = true ∨ (Json.toBinary64? operand).isNaN = true

instance (field operand : Option Json) : Decidable (Incomparable field operand) :=
  inferInstanceAs (Decidable (_ ∨ _))

theorem partner_partner (op : Operator) : op.partner.partner = op := by cases op <;> rfl

theorem isNumeric_partner (op : Operator) : op.partner.isNumeric = op.isNumeric := by
  cases op <;> rfl

theorem isPaired_of_isNumeric {op : Operator} (h : op.isNumeric = true) : op.IsPaired := by
  revert h
  cases op <;> decide

theorem relates_partner_iff {op : Operator} (h : op.IsPaired) (field operand : Option Json) :
    op.partner.Relates field operand ↔
      ¬ op.Relates field operand ∧ ¬ (op.isNumeric = true ∧ Incomparable field operand) := by
  have hplain {p q : Prop} (hpq : q ↔ ¬ p) :
      q ↔ ¬ p ∧ ¬ (false = true ∧ Incomparable field operand) := by
    simpa using hpq
  have horder {r s : Int → Int → Prop} (hrs : ∀ m n, s m n ↔ ¬ r m n) :
      Binary64.Related s (Json.toBinary64? field) (Json.toBinary64? operand) ↔
        ¬ Binary64.Related r (Json.toBinary64? field) (Json.toBinary64? operand) ∧
          ¬ (true = true ∧ Incomparable field operand) := by
    simpa [Incomparable] using Binary64.related_not_iff hrs
  cases op with
  | equals => exact hplain Iff.rfl
  | notEquals => exact hplain not_not.symm
  | contains => exact hplain Iff.rfl
  | notContains => exact hplain not_not.symm
  | isEmpty => exact hplain Iff.rfl
  | isNotEmpty => exact hplain not_not.symm
  | isIn => exact hplain Iff.rfl
  | notIn => exact hplain not_not.symm
  | greaterThan => exact horder fun m n => Int.not_lt.symm
  | lessThan => exact horder fun m n => Int.not_lt.symm
  | greaterThanOrEqual => exact horder fun m n => Int.not_le.symm
  | lessThanOrEqual => exact horder fun m n => Int.not_le.symm
  | startsWith | endsWith | isTrue | isFalse | regex => exact absurd rfl h

theorem not_isTrue_and_isFalse (field v w : Option Json) :
    ¬ (isTrue.Relates field v ∧ isFalse.Relates field w) := by
  rintro ⟨htrue, hfalse⟩
  rcases field with _ | (_ | b | n | s | items | members)
  case some.num =>
    have hone : n.equal (.ofUInt64 1) = true := by
      simpa [Relates, Json.deepEqual?, Json.deepEqual, Json.ofUInt64] using htrue
    have hzero : n.equal (.ofUInt64 0) = true := by
      simpa [Relates, Json.deepEqual?, Json.deepEqual, Json.ofUInt64] using hfalse
    have hkey := ((Number.equal_iff _ _).mp hone).1.symm.trans ((Number.equal_iff _ _).mp hzero).1
    have hlt : Binary64.keyOfInt 0 < Binary64.keyOfInt 1 :=
      Binary64.keyOfInt_lt (by decide) (.inl (by decide))
    exact absurd hkey hlt.ne'
  all_goals simp_all [Relates, Json.deepEqual?, Json.deepEqual, Json.ofUInt64]

end Operator

variable {data : Json}

namespace Condition

def swap (c : Condition) : Condition := { c with operator := c.operator.partner }

def Incomparable (c : Condition) (data : Json) : Prop :=
  Operator.Incomparable (data.resolve c.field) c.value

instance (c : Condition) (data : Json) : Decidable (c.Incomparable data) :=
  inferInstanceAs (Decidable (Operator.Incomparable ..))

theorem satisfied_swap_iff {c : Condition} (h : c.operator.IsPaired) (data : Json) :
    c.swap.Satisfied data ↔
      ¬ c.Satisfied data ∧ ¬ (c.operator.isNumeric = true ∧ c.Incomparable data) :=
  Operator.relates_partner_iff h _ _

theorem swap_swap (c : Condition) : c.swap.swap = c := by
  rw [swap, swap, Operator.partner_partner]

theorem not_satisfied_of_incomparable {c : Condition} (horder : c.operator.isNumeric = true)
    (h : c.Incomparable data) : ¬ c.Satisfied data := by
  have horder' : c.swap.operator.isNumeric = true := (Operator.isNumeric_partner _).trans horder
  have hswap := satisfied_swap_iff (Operator.isPaired_of_isNumeric horder') data
  rw [swap_swap] at hswap
  exact fun hsatisfied => (hswap.mp hsatisfied).2 ⟨horder', h⟩

end Condition

def Combination.swap : Combination → Combination
  | all => any
  | any => all

namespace Rule

def swap (r : Rule) : Rule :=
  { r with conditions := r.conditions.map Condition.swap, combination := r.combination.swap }

theorem matches_swap_iff {r : Rule} (hne : r.conditions ≠ [])
    (h : ∀ c ∈ r.conditions, (c.swap.Satisfied data ↔ ¬ c.Satisfied data)) :
    r.swap.Matches data ↔ ¬ r.Matches data := by
  have hne' : r.swap.conditions ≠ [] := mt List.map_eq_nil_iff.mp hne
  rw [Matches, Matches, or_iff_right hne, or_iff_right hne']
  cases hcombination : r.combination with
  | all =>
    simp only [swap, hcombination, Combination.swap, List.mem_map, exists_exists_and_eq_and,
      not_forall, exists_prop]
    exact exists_congr fun c => and_congr_right fun hc => h c hc
  | any =>
    simp only [swap, hcombination, Combination.swap, List.forall_mem_map, not_exists, not_and]
    exact forall₂_congr h

/-- A rule with conditions is negated by the exchange as long as its orders compare
numbers. An order and its partner never both hold, and neither does exactly if a side is
no number. Nothing counts as true and as false. A rule without conditions matches
everything, and so does what the exchange makes of it. -/
theorem holds_swap_deMorgan (data : Json) :
    (∀ r : Rule, r.conditions ≠ [] → (∀ c ∈ r.conditions, c.operator.IsPaired) →
      (∀ c ∈ r.conditions, c.operator.isNumeric = true → ¬ c.Incomparable data) →
      r.swap.holds data = !r.holds data) ∧
    (∀ c : Condition, c.operator.isNumeric = true →
      ¬ (c.holds data = true ∧ c.swap.holds data = true) ∧
        (¬ c.holds data = true ∧ ¬ c.swap.holds data = true ↔ c.Incomparable data)) ∧
    (∀ (field : String) (v w : Option Json),
      ¬ (Condition.holds ⟨field, .isTrue, v⟩ data = true ∧
        Condition.holds ⟨field, .isFalse, w⟩ data = true)) ∧
    (∀ r : Rule, r.conditions = [] → r.holds data = true ∧ r.swap.holds data = true) := by
  refine ⟨fun r hne hpaired hnumbers => ?_, fun c horder => ?_, fun field v w => ?_, fun r hnil => ?_⟩
  · have hswap : ∀ c ∈ r.conditions, (c.swap.Satisfied data ↔ ¬ c.Satisfied data) := by
      intro c hc
      rw [Condition.satisfied_swap_iff (hpaired c hc) data, and_iff_left_iff_imp]
      rintro - ⟨horder, hincomparable⟩
      exact hnumbers c hc horder hincomparable
    rw [Bool.eq_iff_iff, Bool.not_eq_true', ← Bool.not_eq_true, Rule.holds_iff, Rule.holds_iff]
    exact matches_swap_iff hne hswap
  · have hswap := Condition.satisfied_swap_iff (Operator.isPaired_of_isNumeric horder) data
    have hnone : c.Incomparable data → ¬ c.Satisfied data :=
      Condition.not_satisfied_of_incomparable horder
    rw [Condition.holds_iff, Condition.holds_iff, hswap]
    refine ⟨fun ⟨hholds, hnot, _⟩ => hnot hholds, fun ⟨hnot, hneither⟩ => ?_, fun h => ?_⟩
    · by_contra hcomparable
      exact hneither ⟨hnot, fun h => hcomparable h.2⟩
    · exact ⟨hnone h, fun hboth => hboth.2 ⟨horder, h⟩⟩
  · rw [Condition.holds_iff, Condition.holds_iff]
    exact Operator.not_isTrue_and_isFalse _ v w
  · rw [Rule.holds_iff, Rule.holds_iff]
    exact ⟨.inl hnil, .inl (List.map_eq_nil_iff.mpr hnil)⟩

theorem holds_swap_deMorgan_order :
    let age : Condition := ⟨"age", .greaterThan, some (.ofUInt64 18)⟩
    let tags : Condition := ⟨"tags", .notContains, some (.str "y")⟩
    let title : Condition := ⟨"name", .lessThan, some (.ofUInt64 5)⟩
    let r : Rule := ⟨[age, tags], .all, 0, none⟩
    let data : Json := .obj [("age", .str "30"), ("name", .str "abc"), ("tags", .arr [.str "x"])]
    (r.conditions ≠ [] ∧ (∀ c ∈ r.conditions, c.operator.IsPaired) ∧
      (∀ c ∈ r.conditions, c.operator.isNumeric = true → ¬ c.Incomparable data) ∧
      title.operator.isNumeric = true ∧ title.Incomparable data) ∧
    r.swap.holds data = false ∧ title.holds data = false ∧ title.swap.holds data = false := by
  intro age tags title r data
  have hnumbers : ∀ c ∈ r.conditions, c.operator.isNumeric = true → ¬ c.Incomparable data := by
    decide +kernel
  have htitle : title.Incomparable data := by decide +kernel
  have hholds : r.holds data = true := by decide +kernel
  have hne : r.conditions ≠ [] := List.cons_ne_nil _ _
  have hpaired : ∀ c ∈ r.conditions, c.operator.IsPaired := by decide +kernel
  obtain ⟨hrule, horder, -, -⟩ := holds_swap_deMorgan data
  have hneither := (horder title rfl).2.mpr htitle
  rw [Bool.not_eq_true, Bool.not_eq_true] at hneither
  refine ⟨⟨hne, hpaired, hnumbers, rfl, htitle⟩, ?_, hneither⟩
  rw [hrule r hne hpaired hnumbers, hholds]
  rfl

end Rule

end Switchyard
