import Mathlib.Tactic.SplitIfs
import Switchyard.Condition.Check
import Switchyard.Proofs.Rounding

/-! Equality and order of numbers. Order looks at rounded numbers and equality
of integers at exact ones, so that the two fit together except where rounding
merges two integers. -/

namespace Switchyard

namespace Number

def key : Number → Int
  | integer i _ => Binary64.keyOfInt i
  | real x _ => x.key?.getD 0

theorem key?_toBinary64 (a : Number) : a.toBinary64.key? = some a.key := by
  cases a with
  | integer i word => exact Binary64.key?_ofInt i
  | real x finite =>
    cases x with
    | nan => cases finite
    | ranked negative rank => cases negative <;> rfl

def Merged : Number → Number → Prop
  | integer i _, integer j _ => i ≠ j ∧ Binary64.ofInt i = Binary64.ofInt j
  | _, _ => False

theorem Merged.key_eq {a b : Number} (h : a.Merged b) : a.key = b.key := by
  cases a <;> cases b <;> simp only [Merged] at h
  exact Binary64.ofInt_eq_iff.mp h.2

theorem Merged.large {a b : Number} (h : a.Merged b) (i : Int) (word : IsWord i)
    (hmem : a = integer i word ∨ b = integer i word) : 2 ^ 53 ≤ i.natAbs := by
  cases a <;> cases b <;> simp only [Merged] at h
  case integer.integer m hm n hn =>
  obtain ⟨hne, hsame⟩ := h
  have hkey := Binary64.ofInt_eq_iff.mp hsame
  have hlarge : 2 ^ 53 ≤ m.natAbs ∧ 2 ^ 53 ≤ n.natAbs := by
    rcases Int.lt_or_gt_of_ne hne with hlt | hgt
    · have hno := mt (Binary64.keyOfInt_lt hlt) (by omega)
      omega
    · have hno := mt (Binary64.keyOfInt_lt hgt) (by omega)
      omega
  rcases hmem with ⟨⟨⟩⟩ | ⟨⟨⟩⟩
  · exact hlarge.1
  · exact hlarge.2

theorem equal_of_signed {a b : Number} {i j : Int64} (ha : a.toInt64? = some i)
    (hb : b.toInt64? = some j) : a.equal b = (i == j) := by
  rw [equal, ha, hb]

theorem equal_of_unsigned {a b : Number} {m n : UInt64} (h : a.toInt64? = none ∨ b.toInt64? = none)
    (ha : a.toUInt64? = some m) (hb : b.toUInt64? = some n) : a.equal b = (m == n) := by
  unfold equal
  rcases h with h | h <;> rw [h, ha, hb]
  cases a.toInt64? <;> rfl

theorem equal_of_double {a b : Number} (h : a.toInt64? = none ∨ b.toInt64? = none)
    (h' : a.toUInt64? = none ∨ b.toUInt64? = none) :
    a.equal b = a.toBinary64.equal b.toBinary64 := by
  unfold equal
  rcases h with h | h <;> rcases h' with h' | h' <;> rw [h, h'] <;>
    cases a.toInt64? <;> cases a.toUInt64? <;> rfl

theorem int64_ofInt_inj {i j : Int} (hi : IsWord i) (hj : IsWord j) (hi' : i < 0x8000000000000000)
    (hj' : j < 0x8000000000000000) (h : Int64.ofInt i = Int64.ofInt j) : i = j := by
  have hsame := congrArg Int64.toInt h
  rwa [Int64.toInt_ofInt_of_le hi.1 hi', Int64.toInt_ofInt_of_le hj.1 hj'] at hsame

theorem uint64_ofNat_inj {i j : Int} (hi : IsWord i) (hj : IsWord j) (hi' : 0 ≤ i) (hj' : 0 ≤ j)
    (h : UInt64.ofNat i.toNat = UInt64.ofNat j.toNat) : i = j := by
  have hsame := congrArg UInt64.toNat h
  have hm : i.toNat < 2 ^ 64 := by have := hi.2; omega
  have hn : j.toNat < 2 ^ 64 := by have := hj.2; omega
  rw [UInt64.toNat_ofNat_of_lt' hm, UInt64.toNat_ofNat_of_lt' hn] at hsame
  omega

/-- Integers compare exactly. What neither kind of words takes is one negative integer and
one beyond the signed words, and rounding keeps their signs apart. -/
theorem equal_integers_iff {i j : Int} {hi : IsWord i} {hj : IsWord j} :
    (integer i hi).equal (integer j hj) = true ↔ i = j := by
  by_cases hsigned : i < 0x8000000000000000 ∧ j < 0x8000000000000000
  · have hi' : (integer i hi).toInt64? = some (.ofInt i) := if_pos hsigned.1
    have hj' : (integer j hj).toInt64? = some (.ofInt j) := if_pos hsigned.2
    rw [equal_of_signed hi' hj', beq_iff_eq]
    exact ⟨int64_ofInt_inj hi hj hsigned.1 hsigned.2, congrArg Int64.ofInt⟩
  have hno : (integer i hi).toInt64? = none ∨ (integer j hj).toInt64? = none :=
    (not_and_or.mp hsigned).imp (fun h => if_neg h) fun h => if_neg h
  by_cases hunsigned : 0 ≤ i ∧ 0 ≤ j
  · have hi' : (integer i hi).toUInt64? = some (.ofNat i.toNat) := if_pos hunsigned.1
    have hj' : (integer j hj).toUInt64? = some (.ofNat j.toNat) := if_pos hunsigned.2
    rw [equal_of_unsigned hno hi' hj', beq_iff_eq]
    exact ⟨uint64_ofNat_inj hi hj hunsigned.1 hunsigned.2, fun h => by rw [h]⟩
  have hno' : (integer i hi).toUInt64? = none ∨ (integer j hj).toUInt64? = none :=
    (not_and_or.mp hunsigned).imp (fun h => if_neg h) fun h => if_neg h
  have hkey : Binary64.keyOfInt i ≠ Binary64.keyOfInt j := by
    have h0 : Binary64.keyOfInt 0 = 0 := by decide
    have hneg {m : Int} (hm : m < 0) := Binary64.keyOfInt_lt hm (.inr (by decide))
    have hnonneg {m : Int} (hm : 0 ≤ m) := Binary64.keyOfInt_mono hm
    rcases Int.lt_or_le i 0 with hlt | hle
    · have := hneg hlt
      have := hnonneg (show 0 ≤ j by omega)
      omega
    · have := hneg (show j < 0 by omega)
      have := hnonneg hle
      omega
  rw [equal_of_double hno hno', toBinary64, toBinary64, Binary64.equal, Binary64.key?_ofInt,
    Binary64.key?_ofInt, beq_iff_eq]
  exact iff_of_false hkey (by omega)

theorem equal_iff (a b : Number) : a.equal b = true ↔ a.key = b.key ∧ ¬ a.Merged b := by
  have hround : a.toBinary64.equal b.toBinary64 = true ↔ a.key = b.key := by
    simp only [Binary64.equal, key?_toBinary64, beq_iff_eq]
  cases a <;> cases b
  case integer.integer i hi j hj =>
    simp only [equal_integers_iff, Merged, Binary64.ofInt_eq_iff, key]
    constructor
    · rintro rfl
      exact ⟨rfl, fun h => h.1 rfl⟩
    · rintro ⟨hkey, hmerged⟩
      exact not_not.mp fun hne => hmerged ⟨hne, hkey⟩
  case integer.real =>
    rw [equal_of_double (.inr rfl) (.inr rfl)]
    simpa only [Merged, not_false_eq_true, and_true] using hround
  all_goals
    rw [equal_of_double (.inl rfl) (.inl rfl)]
    simpa only [Merged, not_false_eq_true, and_true] using hround

theorem equal_refl (a : Number) : a.equal a = true := by
  refine (equal_iff a a).mpr ⟨rfl, ?_⟩
  cases a with
  | integer i word => exact fun h => h.1 rfl
  | real x finite => exact not_false

theorem equal_integer_iff {a : Number} {i : Int} {word : IsWord i} (hsmall : i.natAbs < 2 ^ 53) :
    a.equal (integer i word) = true ↔ a.toBinary64.equal (Binary64.ofInt i) = true := by
  have hno : ¬ a.Merged (integer i word) := fun h => by
    have hlarge := h.large i word (.inr rfl)
    omega
  rw [equal_iff, and_iff_left hno]
  simp only [Binary64.equal, key?_toBinary64, Binary64.key?_ofInt, key, beq_iff_eq]

theorem less_iff (a b : Number) : a.toBinary64.less b.toBinary64 = true ↔ a.key < b.key := by
  simp only [Binary64.less, key?_toBinary64, decide_eq_true_eq]

theorem lessOrEqual_iff (a b : Number) :
    a.toBinary64.lessOrEqual b.toBinary64 = true ↔ a.key ≤ b.key := by
  simp only [Binary64.lessOrEqual, key?_toBinary64, decide_eq_true_eq]

end Number

namespace Condition

/-- Exactly one of `equals`, `lessThan` and `greaterThan` holds, and the two
other orders hold with it. -/
def Trichotomy (holds : Operator → Prop) : Prop :=
  ((holds .equals ∧ ¬ holds .lessThan ∧ ¬ holds .greaterThan) ∨
    (¬ holds .equals ∧ holds .lessThan ∧ ¬ holds .greaterThan) ∨
    (¬ holds .equals ∧ ¬ holds .lessThan ∧ holds .greaterThan)) ∧
  (holds .greaterThanOrEqual ↔ holds .equals ∨ holds .greaterThan) ∧
  (holds .lessThanOrEqual ↔ holds .equals ∨ holds .lessThan)

theorem holds_numbers {field : String} {data : Json} {a : Number} (b : Number)
    (ha : data.resolve field = some (.num a)) :
    (holds ⟨field, .equals, some (.num b)⟩ data = true ↔ a.key = b.key ∧ ¬ a.Merged b) ∧
    (holds ⟨field, .lessThan, some (.num b)⟩ data = true ↔ a.key < b.key) ∧
    (holds ⟨field, .greaterThan, some (.num b)⟩ data = true ↔ b.key < a.key) ∧
    (holds ⟨field, .lessThanOrEqual, some (.num b)⟩ data = true ↔ a.key ≤ b.key) ∧
    (holds ⟨field, .greaterThanOrEqual, some (.num b)⟩ data = true ↔ b.key ≤ a.key) := by
  unfold Json.resolve at ha
  simp only [holds, Check.holds, Check.ofCondition, Check.test, ha, Check.onNumbers,
    Json.toBinary64?, Json.toBinary64, Json.deepEqual?, Json.deepEqual, Number.equal_iff,
    Number.less_iff, Number.lessOrEqual_iff, and_self]

/-- Numbers are equal, less or greater unless they are integers that rounding
merges: these are none of the three, and yet in order both ways. -/
theorem trichotomy_iff_not_merged {field : String} {data : Json} {a : Number} (b : Number)
    (ha : data.resolve field = some (.num a)) :
    (Trichotomy (fun op => holds ⟨field, op, some (.num b)⟩ data = true) ↔ ¬ a.Merged b) ∧
    (a.Merged b →
      (∀ i word, a = .integer i word ∨ b = .integer i word → 2 ^ 53 ≤ i.natAbs) ∧
      (∀ op ∈ [Operator.equals, .lessThan, .greaterThan],
        holds ⟨field, op, some (.num b)⟩ data = false) ∧
      (∀ op ∈ [Operator.lessThanOrEqual, .greaterThanOrEqual],
        holds ⟨field, op, some (.num b)⟩ data = true)) := by
  obtain ⟨heq, hlt, hgt, hle, hge⟩ := holds_numbers b ha
  unfold Trichotomy
  simp only [heq, hlt, hgt, hle, hge]
  by_cases hm : a.Merged b
  · have hkey := hm.key_eq
    refine ⟨?_, fun _ => ⟨hm.large, ?_, ?_⟩⟩
    · simp only [hm, hkey, not_true_eq_false, and_false, lt_self_iff_false, false_and, or_self]
    · simp [← Bool.not_eq_true, heq, hlt, hgt, hm, hkey]
    · simp [hle, hge, hkey]
  · simp only [hm, not_false_eq_true, and_true, iff_true, false_implies]
    omega

theorem trichotomy_of_kinds :
    let a : Number := .ofUInt64 9007199254740993
    let b : Number := .real (.ofNat 9007199254740994) (by decide +kernel)
    let data : Json := .obj [("id", .num a)]
    data.resolve "id" = some (.num a) ∧
      Trichotomy (fun op => holds ⟨"id", op, some (.num b)⟩ data = true) := by
  intro a b data
  have ha : data.resolve "id" = some (.num a) := rfl
  exact ⟨ha, (trichotomy_iff_not_merged b ha).1.mpr not_false⟩

theorem not_trichotomy_of_identifiers :
    ¬ ∀ (field : String) (data : Json) (a b : Number), data.resolve field = some (.num a) →
      Trichotomy (fun op => holds ⟨field, op, some (.num b)⟩ data = true) := by
  intro h
  let a : Number := .ofUInt64 9007199254740993
  let b : Number := .ofUInt64 9007199254740992
  let data : Json := .obj [("id", .num a)]
  have heq : holds ⟨"id", .equals, some (.num b)⟩ data = false := by decide +kernel
  have hlt : holds ⟨"id", .lessThan, some (.num b)⟩ data = false := by decide +kernel
  have hgt : holds ⟨"id", .greaterThan, some (.num b)⟩ data = false := by decide +kernel
  have hone := (h "id" data a b rfl).1
  simp only [heq, hlt, hgt] at hone
  simp at hone

end Condition

end Switchyard
