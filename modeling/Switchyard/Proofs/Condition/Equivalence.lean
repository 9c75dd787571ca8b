import Switchyard.Proofs.Condition.Semantics
import Switchyard.Proofs.Json.Equivalence

/-! Operators and conditions do not depend on the spelling of the values that
they are about. -/

namespace Switchyard

open Json (Equivalent?)

namespace Operator

variable {f f' v v' : Option Json}

theorem Contains.of_equivalent (hf : Equivalent? f f') (hv : Equivalent? v v')
    (h : Contains f v) : Contains f' v' := by
  rcases h with ⟨s, t, hs, ht, hpart⟩ | ⟨items, hfield, item, hitem, hequal⟩
  · exact .inl ⟨s, t, hf.eq_str_iff.mp hs, hv.eq_str_iff.mp ht, hpart⟩
  · obtain ⟨items', hfield', hmem⟩ := hf.items hfield
    obtain ⟨item', hitem', hsame⟩ := hmem item hitem
    rw [Equivalent?.deepEqual?_congr (.some hsame) hv] at hequal
    exact .inr ⟨items', hfield', item', hitem', hequal⟩

theorem IsElement.of_equivalent (hf : Equivalent? f f') (hv : Equivalent? v v')
    (h : IsElement f v) : IsElement f' v' := by
  obtain ⟨items, hoperand, item, hitem, hequal⟩ := h
  obtain ⟨items', hoperand', hmem⟩ := hv.items hoperand
  obtain ⟨item', hitem', hsame⟩ := hmem item hitem
  rw [Equivalent?.deepEqual?_congr (.some hsame) hf] at hequal
  exact ⟨items', hoperand', item', hitem', hequal⟩

theorem related_congr (hf : Equivalent? f f') (hv : Equivalent? v v') (r : Int → Int → Prop) :
    Binary64.Related r (Json.toBinary64? f) (Json.toBinary64? v) ↔
      Binary64.Related r (Json.toBinary64? f') (Json.toBinary64? v') := by
  unfold Binary64.Related
  rw [hf.key?_toBinary64?, hv.key?_toBinary64?]

theorem relates_congr (op : Operator) (hf : Equivalent? f f') (hv : Equivalent? v v') :
    op.Relates f v ↔ op.Relates f' v' := by
  have hequal : Json.deepEqual? f v = Json.deepEqual? f' v' := hf.deepEqual?_congr hv
  have hcontains : Contains f v ↔ Contains f' v' :=
    ⟨.of_equivalent hf hv, .of_equivalent hf.symm hv.symm⟩
  have helement : IsElement f v ↔ IsElement f' v' :=
    ⟨.of_equivalent hf hv, .of_equivalent hf.symm hv.symm⟩
  have hcount {n : UInt64} (hn : n.toNat ≤ 2 ^ 53) :
      Json.deepEqual? f (some (.ofUInt64 n)) = Json.deepEqual? f' (some (.ofUInt64 n)) :=
    hf.deepEqual?_congr (.some (.refl (.ofUInt64 hn)))
  cases op with
  | equals => simp only [Relates, hequal]
  | notEquals => simp only [Relates, hequal]
  | contains => exact hcontains
  | notContains => exact not_congr hcontains
  | startsWith => simp only [Relates, hf.eq_str_iff, hv.eq_str_iff]
  | endsWith => simp only [Relates, hf.eq_str_iff, hv.eq_str_iff]
  | greaterThan => exact related_congr hf hv _
  | lessThan => exact related_congr hf hv _
  | greaterThanOrEqual => exact related_congr hf hv _
  | lessThanOrEqual => exact related_congr hf hv _
  | isEmpty => simp only [Relates, hf.isEmpty_eq]
  | isNotEmpty => simp only [Relates, hf.isEmpty_eq]
  | isTrue => simp only [Relates, hf.eq_bool_iff, hf.eq_str_iff, hcount (n := 1) (by decide)]
  | isFalse => simp only [Relates, hf.eq_bool_iff, hf.eq_str_iff, hcount (n := 0) (by decide)]
  | regex => simp only [Relates, hf.eq_str_iff, hv.eq_str_iff]
  | isIn => exact helement
  | notIn => exact not_congr helement

end Operator

namespace Condition

structure Equivalent (c d : Condition) : Prop where
  field : c.field = d.field
  operator : c.operator = d.operator
  value : Equivalent? c.value d.value

theorem Equivalent.satisfied_iff {c d : Condition} (h : c.Equivalent d) {x y : Json}
    (hxy : x.Equivalent y) : c.Satisfied x ↔ d.Satisfied y := by
  unfold Satisfied
  rw [← h.field, ← h.operator]
  exact c.operator.relates_congr (hxy.resolve c.field) h.value

end Condition

end Switchyard
