import Switchyard.Proofs.Condition.Semantics
import Switchyard.Proofs.Json.Spelling

/-! Number literals with and without quotes. A string stands for the double nearest
to the literal in it, while the reader scales the digits that it keeps. The operators
of order tell the two apart where scaling misses the nearest double. -/

namespace Switchyard

namespace Condition

/-- No operator of order tells two values of a field apart, whatever the operand. -/
def OrderedAlike (v w : Json) : Prop :=
  ∀ (c : Condition) (x y : Json), c.operator.isNumeric = true →
    x.resolve c.field = some v → y.resolve c.field = some w → c.holds x = c.holds y

theorem resolve_root (v : Json) : v.resolve "" = some v := rfl

theorem relates_congr_of_key? {op : Operator} (hop : op.isNumeric = true) {v w : Json}
    (h : v.toBinary64.key? = w.toBinary64.key?) (operand : Option Json) :
    op.Relates (some v) operand ↔ op.Relates (some w) operand := by
  have hrelated (r : Int → Int → Prop) :
      Binary64.Related r v.toBinary64 (Json.toBinary64? operand) ↔
        Binary64.Related r w.toBinary64 (Json.toBinary64? operand) := by
    unfold Binary64.Related
    rw [h]
  cases op <;> first | exact hrelated _ | cases hop

theorem OrderedAlike.related_iff {v w : Json} (h : OrderedAlike v w) (op : Operator)
    (hop : op.isNumeric = true) {r : Int → Int → Prop} (hr : ∀ f u : Json,
      op.Relates (some f) (some u) = Binary64.Related r f.toBinary64 u.toBinary64) (u : Json) :
    Binary64.Related r v.toBinary64 u.toBinary64 ↔ Binary64.Related r w.toBinary64 u.toBinary64 := by
  have hholds := h ⟨"", op, some u⟩ v w hop (resolve_root v) (resolve_root w)
  rw [Bool.eq_iff_iff, holds_iff, holds_iff, Satisfied, Satisfied, resolve_root, resolve_root,
    hr, hr] at hholds
  exact hholds

theorem orderedAlike_iff {v w : Json} :
    OrderedAlike v w ↔ v.toBinary64.key? = w.toBinary64.key? := by
  constructor
  · intro h
    have hle := h.related_iff .lessThanOrEqual rfl fun _ _ => rfl
    have hge := h.related_iff .greaterThanOrEqual rfl fun _ _ => rfl
    cases hv : v.toBinary64.key? with
    | none =>
      cases hw : w.toBinary64.key? with
      | none => rfl
      | some k =>
        obtain ⟨m, -, hm, -, -⟩ := (hle w).mpr ⟨k, k, hw, hw, Int.le_refl k⟩
        rw [hv] at hm
        cases hm
    | some j =>
      -- the value itself as the operand bounds the other key from both sides
      obtain ⟨m, a, hm, ha, hma⟩ := (hle v).mp ⟨j, j, hv, hv, Int.le_refl j⟩
      obtain ⟨n, b, hn, hb, hnb⟩ := (hge v).mp ⟨j, j, hv, hv, Int.le_refl j⟩
      rw [hv] at ha hb
      cases ha
      cases hb
      rw [hm] at hn
      cases hn
      rw [hm, Int.le_antisymm hnb hma]
  · intro hkey c x y hop hx hy
    rw [Bool.eq_iff_iff, holds_iff, holds_iff, Satisfied, Satisfied, hx, hy]
    exact relates_congr_of_key? hop hkey c.value

end Condition

theorem Number.isNaN_toBinary64 (n : Number) : n.toBinary64.isNaN = false := by
  cases n with
  | integer i word => rfl
  | real x finite =>
    cases x with
    | nan => cases finite
    | ranked negative rank => rfl

open Numeral Json.Reader

/-- Both doubles of a literal have its sign, so that zeros are not mixed up. -/
theorem Numeral.Parts.converted_eq_nearest_iff {p : Parts} (h : p.converted.isNaN = false) :
    p.converted = p.nearest ↔ p.converted.key? = p.nearest.key? := by
  refine ⟨congrArg _, Binary64.eq_of_key?_eq ?_⟩
  rw [nearest, Binary64.isNegative_ofDecimal]
  exact isNegative_scaled h

namespace Condition

/-- A text that is read as a number is one literal. In a string it stands for the
nearest double. Where the reader makes the same of it, and only there, the operators of
order do not tell the number from the string. -/
theorem orderedAlike_quoted_iff {text : String} {n : Number} (h : Json.read text = .ok (.num n)) :
    (∃ p : Parts, p.SpellsText text) ∧ ∀ p : Parts, p.SpellsText text →
      (Json.str text).toBinary64 = p.nearest ∧ (Json.num n).toBinary64 = p.converted ∧
      (Scalable p.digits p.power → p.converted = p.nearest) ∧
      (OrderedAlike (.num n) (.str text) ↔ p.converted = p.nearest) := by
  obtain ⟨q, hq, hn⟩ := Json.spellsText_of_read h
  refine ⟨⟨q, hq⟩, fun p hp => ?_⟩
  obtain rfl : q = p := hq.unique hp
  have hstring : (Json.str text).toBinary64 = q.nearest := hp.ofString_eq
  have hnumber : (Json.num n).toBinary64 = q.converted := hn
  have hnum : q.converted.isNaN = false := hn ▸ n.isNaN_toBinary64
  refine ⟨hstring, hnumber, hp.spells_trimmed.converted_eq_nearest, ?_⟩
  rw [orderedAlike_iff, hstring, hnumber, Parts.converted_eq_nearest_iff hnum]

theorem orderedAlike_quoted_scientific :
    let n : Number := .real (.ranked true ⟨0x44A97EE5A6ED75E7, by decide⟩) (by decide)
    Json.read " -6.02E+22" = .ok (.num n) ∧ OrderedAlike (.num n) (.str " -6.02E+22") := by
  intro n
  have hread : Json.read " -6.02E+22" = .ok (.num n) := by decide +kernel
  have hspelled : (Parts.mk true ['6'] ['0', '2'] 22).SpellsText " -6.02E+22" := by
    have hdigits : Digits.All ['2', '2'] := by decide
    have hplaces : Digits.All ['0', '2'] := by decide
    have hexponent : SpellsExponent 22 ['E', '+', '2', '2'] :=
      .present (.inr rfl) .plus (List.cons_ne_nil _ _) hdigits
    have hfraction : SpellsAfter ['0', '2'] 22 ['.', '0', '2', 'E', '+', '2', '2'] :=
      .fraction (List.cons_ne_nil _ _) hplaces hexponent
    refine ⟨[' '], _, [], rfl, .intro (List.cons_ne_nil _ _) (by decide) hfraction, ?_⟩
    exact List.forall_mem_singleton.mpr rfl
  obtain ⟨-, -, hscalable, halike⟩ := (orderedAlike_quoted_iff hread).2 _ hspelled
  exact ⟨hread, halike.mpr (hscalable (.inr (.inr ⟨by decide, by decide⟩)))⟩

theorem not_orderedAlike_quoted_large :
    (¬ ∀ (text : String) (n : Number), Json.read text = .ok (.num n) →
      (Json.num n).toBinary64 = (Json.str text).toBinary64) ∧
    ¬ ∀ (text : String) (n : Number), Json.read text = .ok (.num n) →
      OrderedAlike (.num n) (.str text) := by
  let n : Number := .real (.ranked false ⟨0x44CFC3842BD1F071, by decide⟩) (by decide)
  have hread : Json.read "3e23" = .ok (.num n) := by decide +kernel
  have hkey : (Json.num n).toBinary64.key? ≠ (Json.str "3e23").toBinary64.key? := by decide +kernel
  exact ⟨fun h => hkey (congrArg _ (h _ _ hread)),
    fun h => hkey (orderedAlike_iff.mp (h _ _ hread))⟩

end Condition

end Switchyard
