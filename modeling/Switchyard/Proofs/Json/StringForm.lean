import Switchyard.Proofs.Json.Structure
import Switchyard.Proofs.Numeral.Printed
import Switchyard.Proofs.Numeral.Recognition

/-! The string form of values. An array coerces as the string does that its items make up,
separated by commas, so that only arrays of up to one item have a numeric reading. -/

namespace Switchyard

theorem Numeral.ofString_eq_nan {s : String} {c : Char} (hc : c ∈ s.toList)
    (hpadding : isPadding c = false) (hnumber : inNumber c = false) : ofString s = .nan := by
  obtain ⟨before, after, hs, hbefore, hafter⟩ := Text.exists_eq_trimWhere isPadding s.toList
  by_contra hne
  have hnumeric : Numeric (Text.trimWhere isPadding s.toList) := ofTrimmed_ne_nan_iff.mp hne
  have hmem : c ∈ Text.trimWhere isPadding s.toList := by
    rw [hs] at hc
    rcases List.mem_append.mp hc with hfront | hback
    · refine (List.mem_append.mp hfront).resolve_left fun h => ?_
      rw [hbefore c h] at hpadding
      cases hpadding
    · rw [hafter c hback] at hpadding
      cases hpadding
  rw [hnumeric.characters c hmem] at hnumber
  cases hnumber

namespace Json

theorem toBinary64_singleton {v : Json} (hv : ∀ b, v ≠ .bool b) :
    toBinary64 (.arr [v]) = toBinary64 v := by
  cases v with
  | bool b => exact absurd rfl (hv b)
  | _ => rfl

theorem toBinary64_cons_cons (v w : Json) (rest : List Json) :
    toBinary64 (.arr (v :: w :: rest)) = .nan := by
  cases v <;> rfl

section StringForm

variable (form : Number → String)

mutual

/-- The string that a value makes within an array, with a form for numbers. -/
def stringForm : Json → String
  | .null => ""
  | .bool b => if b then "true" else "false"
  | .num n => form n
  | .str s => s
  | .arr items => ",".intercalate (stringForms items)
  | .obj _ => "[object Object]"
termination_by structural v => v

def stringForms : List Json → List String
  | [] => []
  | v :: vs => stringForm v :: stringForms vs
termination_by structural vs => vs

end

variable {form}

theorem stringForm_singleton (v : Json) : stringForm form (.arr [v]) = stringForm form v := by
  rw [stringForm, stringForms, stringForms, String.intercalate_singleton]

theorem comma_mem_stringForm (v w : Json) (rest : List Json) :
    ',' ∈ (stringForm form (.arr (v :: w :: rest))).toList := by
  rw [stringForm, stringForms, stringForms, String.intercalate_cons_cons]
  simp

theorem ofString_stringForm_bool (b : Bool) :
    Numeral.ofString (stringForm form (.bool b)) = .nan := by
  cases b <;> simp only [stringForm] <;> decide

theorem ofString_stringForm_cons_cons (v w : Json) (rest : List Json) :
    Numeral.ofString (stringForm form (.arr (v :: w :: rest))) = .nan :=
  Numeral.ofString_eq_nan (comma_mem_stringForm v w rest) (by decide) (by decide)

theorem key?_ofString_stringForm
    (hform : ∀ n, (Numeral.ofString (form n)).key? = n.toBinary64.key?) {v : Json}
    (hv : ∀ b, v ≠ .bool b) : v.toBinary64.key? = (Numeral.ofString (stringForm form v)).key? := by
  induction v with
  | null =>
    rw [stringForm]
    decide
  | bool b => exact absurd rfl (hv b)
  | num n => exact (hform n).symm
  | str s => rfl
  | obj members =>
    have hbracket : '[' ∈ "[object Object]".toList := by decide
    rw [stringForm, Numeral.ofString_eq_nan hbracket (by decide) (by decide), toBinary64]
  | arr items ih =>
    rcases items with _ | ⟨v, _ | ⟨w, rest⟩⟩
    · rw [stringForm, stringForms]
      decide
    · -- the item alone makes up the string, and only booleans coerce otherwise within an array
      rw [stringForm_singleton]
      by_cases hitem : ∃ b, v = .bool b
      · obtain ⟨b, rfl⟩ := hitem
        rw [ofString_stringForm_bool]
        rfl
      · have hv : ∀ b, v ≠ .bool b := fun b h => hitem ⟨b, h⟩
        rw [toBinary64_singleton hv]
        exact ih v List.mem_cons_self hv
    · rw [ofString_stringForm_cons_cons, toBinary64_cons_cons]

end StringForm

def wrapped : Nat → Json → Json
  | 0, v => v
  | k + 1, v => .arr [wrapped k v]

theorem wrapped_ne_bool {v : Json} (hv : ∀ b, v ≠ .bool b) (k : Nat) (b : Bool) :
    wrapped k v ≠ .bool b := by
  cases k with
  | zero => exact hv b
  | succ k => nofun

theorem toBinary64_wrapped {v : Json} (hv : ∀ b, v ≠ .bool b) (k : Nat) :
    toBinary64 (wrapped k v) = toBinary64 v := by
  induction k with
  | zero => rfl
  | succ k ih => rw [wrapped, toBinary64_singleton (wrapped_ne_bool hv k), ih]

theorem toBinary64_wrapped_bool (k : Nat) (b : Bool) :
    toBinary64 (wrapped (k + 1) (.bool b)) = .nan := by
  induction k with
  | zero => rfl
  | succ k ih =>
    have hne : ∀ c, wrapped (k + 1) (.bool b) ≠ .bool c := fun c h => by cases h
    rw [wrapped, toBinary64_singleton hne, ih]

/-- Arrays coerce as their string forms do, however numbers are written in those, as long as
each comes back from its form. -/
theorem toBinary64_arr_eq_stringForm {form : Number → String}
    (hform : ∀ n, (Numeral.ofString (form n)).key? = n.toBinary64.key?) :
    (∀ items, (toBinary64 (.arr items)).key? =
      (Numeral.ofString (stringForm form (.arr items))).key?) ∧
    (∀ (k : Nat) (v : Json), (∀ b, v ≠ .bool b) → toBinary64 (wrapped k v) = toBinary64 v) ∧
    (∀ (k : Nat) (b : Bool), toBinary64 (wrapped (k + 1) (.bool b)) = .nan) ∧
    ∀ items : List Json, 2 ≤ items.length → toBinary64 (.arr items) = .nan := by
  refine ⟨fun items => key?_ofString_stringForm hform fun b => ?_,
    fun k v hv => toBinary64_wrapped hv k, toBinary64_wrapped_bool, fun items hlong => ?_⟩
  · intro h
    cases h
  · rcases items with _ | ⟨v, _ | ⟨w, rest⟩⟩
    · exact absurd hlong (by decide)
    · exact absurd hlong (by decide : ¬ 2 ≤ 1)
    · exact toBinary64_cons_cons v w rest

theorem toBinary64_arr_eq_stringForm_printed :
    let form (n : Number) := String.ofList n.write
    let seven : Json := .num (.ofUInt64 7)
    (∀ n, (Numeral.ofString (form n)).key? = n.toBinary64.key?) ∧
      (toBinary64 (.arr [.arr [seven]])).key? =
        (Numeral.ofString (stringForm form (.arr [.arr [seven]]))).key? ∧
      toBinary64 (wrapped 3 seven) = toBinary64 seven ∧
      toBinary64 (wrapped 1 (.bool true)) = .nan ∧ toBinary64 (.arr [.null, seven]) = .nan := by
  intro form seven
  have hform : ∀ n, (Numeral.ofString (form n)).key? = n.toBinary64.key? := fun n =>
    congrArg Binary64.key? n.ofString_write
  obtain ⟨hitems, hwrapped, hbool, hlong⟩ := toBinary64_arr_eq_stringForm hform
  have hseven : ∀ b, Json.num (.ofUInt64 7) ≠ .bool b := fun b h => by cases h
  exact ⟨hform, hitems _, hwrapped 3 seven hseven, hbool 0 true, hlong _ (Nat.le_refl 2)⟩

end Json

end Switchyard
