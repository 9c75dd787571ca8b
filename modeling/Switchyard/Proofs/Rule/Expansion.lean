import Switchyard.Proofs.Json.Equality
import Switchyard.Proofs.Path.Resolution
import Switchyard.Proofs.Router.Semantics

/-! Membership in a list, written out: a rule with one condition for each item says the
same, because deep equality is symmetric. The empty list is the exception, since a rule
without conditions matches everything. -/

namespace Switchyard

def Condition.forEach (field : String) (operator : Operator) (operands : List Json) :
    List Condition :=
  operands.map fun v => ⟨field, operator, some v⟩

variable {field : String} {data : Json} {items : List Json}

namespace Json

theorem deepEqual?_resolve_comm (hdata : data.DistinctKeys) {v : Json} (hv : v.DistinctKeys) :
    deepEqual? (some v) (data.resolve field) = deepEqual? (data.resolve field) (some v) := by
  refine deepEqual?_comm ?_ fun w hw => hdata.of_occursIn (occursIn_of_resolve hw)
  rintro _ ⟨⟩
  exact hv

end Json

theorem Condition.holds_isIn_iff (hdata : data.DistinctKeys) (hitems : ∀ v ∈ items, v.DistinctKeys) :
    Condition.holds ⟨field, .isIn, some (.arr items)⟩ data = true ↔
      ∃ v ∈ items, Json.deepEqual? (data.resolve field) (some v) = true := by
  have hlist : Condition.holds ⟨field, .isIn, some (.arr items)⟩ data = true ↔
      ∃ v ∈ items, Json.deepEqual? (some v) (data.resolve field) = true := List.any_eq_true
  rw [hlist]
  refine exists_congr fun v => and_congr_right fun hv => ?_
  rw [Json.deepEqual?_resolve_comm hdata (hitems v hv)]

theorem Condition.holds_notIn (operand : Option Json) :
    Condition.holds ⟨field, .notIn, operand⟩ data = !Condition.holds ⟨field, .isIn, operand⟩ data := rfl

theorem Rule.holds_any_equals_iff (outputIndex : UInt64) (name : Option String) :
    Rule.holds ⟨Condition.forEach field .equals items, .any, outputIndex, name⟩ data = true ↔
      items = [] ∨ ∃ v ∈ items, Json.deepEqual? (data.resolve field) (some v) = true := by
  rw [Rule.holds_iff, Rule.Matches, Condition.forEach, List.map_eq_nil_iff]
  simp only [List.mem_map, exists_exists_and_eq_and]
  rfl

theorem Rule.holds_all_notEquals_iff (outputIndex : UInt64) (name : Option String) :
    Rule.holds ⟨Condition.forEach field .notEquals items, .all, outputIndex, name⟩ data = true ↔
      ¬ ∃ v ∈ items, Json.deepEqual? (data.resolve field) (some v) = true := by
  rw [Rule.holds_iff, Rule.Matches, Condition.forEach, List.map_eq_nil_iff]
  simp only [List.forall_mem_map, not_exists, not_and]
  refine or_iff_right_of_imp ?_
  rintro rfl
  exact fun v hv => absurd hv List.not_mem_nil

/-- Membership in a list is a rule with one condition for each item, except that the
empty list has no members and rules without conditions match everything. -/
theorem Condition.membership_eq_expansion (field : String) (hdata : data.DistinctKeys)
    (hitems : ∀ v ∈ items, v.DistinctKeys) (outputIndex : UInt64) (name : Option String) :
    (items ≠ [] →
      Condition.holds ⟨field, .isIn, some (.arr items)⟩ data =
          Rule.holds ⟨Condition.forEach field .equals items, .any, outputIndex, name⟩ data ∧
        Condition.holds ⟨field, .notIn, some (.arr items)⟩ data =
          Rule.holds ⟨Condition.forEach field .notEquals items, .all, outputIndex, name⟩ data) ∧
    (items = [] →
      Condition.holds ⟨field, .isIn, some (.arr items)⟩ data = false ∧
        Condition.holds ⟨field, .notIn, some (.arr items)⟩ data = true ∧
        Rule.holds ⟨Condition.forEach field .equals items, .any, outputIndex, name⟩ data = true ∧
        Rule.holds ⟨Condition.forEach field .notEquals items, .all, outputIndex, name⟩ data =
          true) := by
  refine ⟨fun hne => ⟨Bool.eq_iff_iff.mpr ?_, Bool.eq_iff_iff.mpr ?_⟩, ?_⟩
  · rw [Condition.holds_isIn_iff hdata hitems, Rule.holds_any_equals_iff, or_iff_right hne]
  · rw [Condition.holds_notIn, Bool.not_eq_true', ← Bool.not_eq_true,
      Condition.holds_isIn_iff hdata hitems, Rule.holds_all_notEquals_iff]
  · rintro rfl
    exact ⟨rfl, rfl, rfl, rfl⟩

theorem Condition.membership_eq_expansion_nested :
    let note : Json := .obj [("by", .str "ada"), ("pages", .arr [.ofUInt64 2, .null])]
    let other : Json := .obj [("pages", .arr [.ofUInt64 2, .null]), ("by", .str "ada")]
    let data : Json := .obj [("order", .obj [("note", note)])]
    let items : List Json := [.null, other]
    (data.DistinctKeys ∧ (∀ v ∈ items, v.DistinctKeys) ∧ items ≠ []) ∧
      Condition.holds ⟨"order.note", .isIn, some (.arr items)⟩ data = true ∧
      Rule.holds ⟨Condition.forEach "order.note" .notEquals items, .all, 0, none⟩ data = false := by
  intro note other data items
  have hdata : data.DistinctKeys := by simp [Json.DistinctKeys, data, note, Json.ofUInt64]
  have hitems : ∀ v ∈ items, v.DistinctKeys := by
    simp [Json.DistinctKeys, items, other, Json.ofUInt64]
  have hne : items ≠ [] := List.cons_ne_nil _ _
  obtain ⟨hin, hnot⟩ := (Condition.membership_eq_expansion "order.note" hdata hitems 0 none).1 hne
  refine ⟨⟨hdata, hitems, hne⟩, hin.trans (by decide +kernel), ?_⟩
  exact hnot.symm.trans (by decide +kernel)

end Switchyard
