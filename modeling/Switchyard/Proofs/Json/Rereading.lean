import Switchyard.Proofs.Json.Printing
import Switchyard.Proofs.Json.Reading

/-! What a printed value is read back as. Strings, integers and the structure of
a value come back; a real number comes back as what its literal reads as, and
nesting is limited. -/

namespace Switchyard

open Json.Reader

def Number.reread (n : Number) : Option Number :=
  match Json.read (Json.num n).print with
  | .ok (.num m) => some m
  | _ => none

theorem Number.reread_eq_some_iff {n m : Number} :
    n.reread = some m ↔ Json.read (Json.num n).print = .ok (.num m) := by
  unfold Number.reread
  split <;> simp_all

namespace Json

mutual

/-- What a printed value is read back as where arrays and objects may nest to a
depth. -/
def reread : (depth : Nat) → Json → Option Json
  | _, .num n => n.reread.map .num
  | 0, .arr _ => none
  | depth + 1, .arr items => (rereadItems depth items).map .arr
  | 0, .obj _ => none
  | depth + 1, .obj members => (rereadMembers depth members).map ofMembers
  | _, v => some v
termination_by structural _ v => v

def rereadItems : (depth : Nat) → List Json → Option (List Json)
  | _, [] => some []
  | depth, v :: vs => (reread depth v).bind fun w => (rereadItems depth vs).map (w :: ·)
termination_by structural _ vs => vs

def rereadMembers : (depth : Nat) → List (String × Json) → Option (List (String × Json))
  | _, [] => some []
  | depth, (k, v) :: ms =>
    (reread depth v).bind fun w => (rereadMembers depth ms).map ((k, w) :: ·)
termination_by structural _ ms => ms

end

def ReadBack (v : Json) : Prop :=
  ∀ fuel depth, 2 * v.write.length ≤ fuel → Whole (valueWith fuel depth) v.write (v.reread depth)

theorem toOption_eq_some {ε α : Type} {r : Except ε α} {a : α} (h : r.toOption = some a) :
    r = .ok a := by
  cases r with
  | error e => cases h
  | ok b => exact congrArg Except.ok (Option.some.inj h)

theorem toOption_eq_none {ε α : Type} {r : Except ε α} (h : r.toOption = none) : ∃ e, r = .error e := by
  cases r with
  | error e => exact ⟨e, rfl⟩
  | ok b => cases h

theorem itemsWith_itemsText {items : List Json} (hread : ∀ v ∈ items, ReadBack v) {fuel : Nat}
    (depth : Nat) (first : Bool) (acc : List Json) (rest : List Char)
    (hfuel : 2 * (itemsText first items).length + 2 ≤ fuel) :
    (itemsWith fuel depth first acc (itemsText first items ++ ']' :: rest)).toOption =
      (rereadItems depth items).map fun ws => (.arr (acc.reverse ++ ws), rest) := by
  induction items generalizing fuel first acc with
  | nil =>
    obtain ⟨fuel, rfl⟩ := Nat.exists_eq_add_of_le' (Nat.le_of_add_left_le hfuel)
    simp [itemsText, itemsWith, nextItem_bracket, closeList_bracket, constant, rereadItems,
      Except.toOption]
  | cons v vs ih =>
    obtain ⟨hv, hvs⟩ := List.forall_mem_cons.mp hread
    obtain ⟨fuel, rfl⟩ : ∃ g, fuel = g + 1 := Nat.exists_eq_add_of_le' (by omega)
    simp only [itemsText, List.length_append] at hfuel
    have hrest : 2 * (itemsText false vs).length + 2 ≤ fuel := by
      obtain ⟨c, cs, hwrite, -⟩ := exists_write_eq v
      have hlength : 1 ≤ v.write.length := by simp [hwrite]
      omega
    -- the first item ends where the comma or the bracket after it stands
    have hvalue := hv fuel depth (by omega) _ (ends_itemsText vs rest)
    rw [itemsText, List.append_assoc, itemsWith, nextItem_write]
    dsimp only
    cases hw : v.reread depth with
    | none =>
      rw [hw] at hvalue
      obtain ⟨e, he⟩ := toOption_eq_none hvalue
      rw [he, rereadItems, hw]
      rfl
    | some w =>
      rw [hw] at hvalue
      rw [toOption_eq_some hvalue]
      dsimp only
      rw [ih hvs false (w :: acc) hrest, rereadItems, hw, Option.bind_some, Option.map_map]
      simp [Function.comp_def]

def insertAll (acc members : List (String × Json)) : List (String × Json) :=
  members.foldl (fun ms (k, v) => insert k v ms) acc

theorem membersWith_membersText {members : List (String × Json)}
    (hread : ∀ m ∈ members, ReadBack m.2) {fuel : Nat} (depth : Nat) (first : Bool)
    (acc : List (String × Json)) (rest : List Char)
    (hfuel : 2 * (membersText first members).length + 2 ≤ fuel) :
    (membersWith fuel depth first acc (membersText first members ++ '\x7d' :: rest)).toOption =
      (rereadMembers depth members).map fun ms => (.obj (insertAll acc ms), rest) := by
  induction members generalizing fuel first acc with
  | nil =>
    obtain ⟨fuel, rfl⟩ := Nat.exists_eq_add_of_le' (Nat.le_of_add_left_le hfuel)
    simp [membersText, membersWith, nextKey_brace, closeObject_brace, constant, rereadMembers,
      Except.toOption, insertAll]
  | cons m ms ih =>
    obtain ⟨k, v⟩ := m
    obtain ⟨hv, hms⟩ := List.forall_mem_cons.mp hread
    obtain ⟨fuel, rfl⟩ : ∃ g, fuel = g + 1 := Nat.exists_eq_add_of_le' (by omega)
    simp only [membersText, List.length_append, List.length_cons] at hfuel
    have hvalue := hv fuel depth (by dsimp only; omega) _ (ends_membersText ms rest)
    have hrest : 2 * (membersText false ms).length + 2 ≤ fuel := by omega
    rw [membersText_cons_append, membersWith, nextKey_quote]
    dsimp only
    rw [string_flatMap_escape]
    dsimp only
    rw [colon_colon]
    dsimp only at hvalue ⊢
    cases hw : v.reread depth with
    | none =>
      rw [hw] at hvalue
      obtain ⟨e, he⟩ := toOption_eq_none hvalue
      rw [he, rereadMembers, hw]
      rfl
    | some w =>
      rw [hw] at hvalue
      rw [toOption_eq_some hvalue]
      dsimp only
      rw [ih hms false (insert k w acc) hrest, rereadMembers, hw, Option.bind_some, Option.map_map]
      rfl

theorem valueWith_literal {negative : Bool} {text : List Char} (h : PlainLiteral text)
    (fuel depth : Nat) (rest : List Char) :
    valueWith (fuel + 1) depth (signed negative text ++ rest) =
      mapValue .num (literal (signed negative text ++ rest)) := by
  rw [literal_signed h]
  cases negative with
  | true => rfl
  | false =>
    obtain ⟨c, cs, rfl, hc⟩ := h.exists_digit
    have hne {d : Char} (hd : Digits.isDigit d = false) : c ≠ d := Digits.ne_of_isDigit hc hd
    simp only [signed, Bool.false_eq_true, if_false, List.cons_append]
    rw [valueWith, skipBlanks_of_opens (opens_of_isDigit hc)]
    split
    · next heq => cases heq
    · next heq => exact absurd (List.cons.inj heq).1 (hne (by decide))
    · next heq => exact absurd (List.cons.inj heq).1 (hne (by decide))
    · next heq => exact absurd (List.cons.inj heq).1 (hne (by decide))
    · next heq => exact absurd (List.cons.inj heq).1 (hne (by decide))
    · next heq => exact absurd (List.cons.inj heq).1 (hne (by decide))
    · next heq => exact absurd (List.cons.inj heq).1 (hne (by decide))
    · next heq => exact absurd (List.cons.inj heq).1 (hne (by decide))
    · next heq =>
      obtain ⟨rfl, rfl⟩ := List.cons.inj heq
      exact if_pos hc

theorem toOption_run {α : Type} (reader : (depth : Nat) → List Char → Result (α × List Char))
    (text : String) :
    (Reader.run reader text).toOption = (atEnd (reader depthLimit text.toList)).toOption := by
  unfold Reader.run
  split <;> next heq => rw [heq]; rfl

theorem toOption_atEnd {α : Type} {r : Result (α × List Char)} {a : Option α}
    (h : r.toOption = a.map (·, [])) : (atEnd r).toOption = a := by
  cases a with
  | none =>
    obtain ⟨e, rfl⟩ := toOption_eq_none h
    rfl
  | some a =>
    rw [toOption_eq_some h]
    rfl

theorem toOption_mapValue {α β : Type} (f : α → β) (r : Result (α × List Char)) :
    (mapValue f r).toOption = r.toOption.map fun p => (f p.1, p.2) := by
  cases r <;> rfl

theorem toOption_read_literal {negative : Bool} {text : List Char} (h : PlainLiteral text) :
    (read (String.ofList (signed negative text))).toOption =
      (literal (signed negative text)).toOption.map fun p => .num p.1 := by
  obtain ⟨a, ha⟩ := whole_number negative h
  have hliteral : (literal (signed negative text)).toOption = a.map (·, []) := by
    have hwhole := ha [] Ends.nil
    rwa [← literal_signed h, List.append_nil] at hwhole
  have hvalue : (value depthLimit (signed negative text)).toOption = (a.map Json.num).map (·, []) := by
    have hnumber := @valueWith_literal negative text h
      (2 * (signed negative text).length + 1) depthLimit []
    rw [List.append_nil] at hnumber
    rw [value, fuelFor, hnumber, toOption_mapValue, hliteral, Option.map_map, Option.map_map]
    rfl
  rw [read, toOption_run, String.toList_ofList, toOption_atEnd hvalue, hliteral, Option.map_map]
  rfl

theorem reread_num_eq (n : Number) : n.reread = (literal n.write).toOption.map Prod.fst := by
  obtain ⟨negative, text, hplain, hwrite⟩ := n.exists_write_eq
  have hread : (read (Json.num n).print).toOption =
      (literal n.write).toOption.map fun p => .num p.1 := by
    rw [print, write, hwrite]
    exact toOption_read_literal hplain
  cases hliteral : (literal n.write).toOption with
  | some p =>
    rw [hliteral] at hread
    exact Number.reread_eq_some_iff.mpr (toOption_eq_some hread)
  | none =>
    rw [hliteral] at hread
    rw [Option.map_none, Option.eq_none_iff_forall_ne_some]
    intro m hm
    rw [Number.reread_eq_some_iff.mp hm] at hread
    cases hread

theorem whole_literal_reread (n : Number) : Whole literal n.write n.reread := by
  obtain ⟨a, ha⟩ := n.whole_literal
  have hreread : n.reread = a := by
    have hliteral := ha [] Ends.nil
    rw [List.append_nil] at hliteral
    rw [reread_num_eq, hliteral]
    cases a <;> rfl
  rwa [hreread]

theorem whole_num (n : Number) (fuel depth : Nat) :
    Whole (valueWith (fuel + 1) depth) n.write (n.reread.map .num) := by
  intro rest hrest
  have hvalue : valueWith (fuel + 1) depth (n.write ++ rest) =
      mapValue .num (literal (n.write ++ rest)) := by
    obtain ⟨negative, text, hplain, hwrite⟩ := n.exists_write_eq
    rw [hwrite]
    exact valueWith_literal hplain fuel depth rest
  rw [hvalue, toOption_mapValue, whole_literal_reread n rest hrest, Option.map_map, Option.map_map]
  rfl

theorem ReadBack.of_succ {v : Json} (h : ∀ fuel depth, 2 * v.write.length ≤ fuel + 1 →
    Whole (valueWith (fuel + 1) depth) v.write (v.reread depth)) : ReadBack v := by
  intro fuel depth hfuel
  obtain ⟨c, cs, hwrite, -⟩ := exists_write_eq v
  have hpos : 1 ≤ fuel := by
    rw [hwrite, List.length_cons] at hfuel
    omega
  obtain ⟨fuel, rfl⟩ := Nat.exists_eq_add_of_le' hpos
  exact h fuel depth hfuel

theorem readBack (v : Json) : ReadBack v := by
  -- on the value: its items and members are shorter, so the fuel that is left is enough
  induction v with
  | null => exact .of_succ fun fuel depth _ rest _ => rfl
  | bool b => exact .of_succ fun fuel depth _ rest _ => by cases b <;> rfl
  | num n =>
    refine .of_succ fun fuel depth _ => ?_
    rw [write, reread]
    exact whole_num n fuel depth
  | str s =>
    refine .of_succ fun fuel depth _ rest _ => ?_
    have htext : (Json.str s).write ++ rest = '"' :: (s.toList.flatMap escape ++ '"' :: rest) := by
      simp [write, writeString]
    rw [htext]
    change (mapValue Json.str (string _)).toOption = _
    rw [string_flatMap_escape]
    rfl
  | arr items ih =>
    refine .of_succ fun fuel depth hfuel rest _ => ?_
    have hlength : (Json.arr items).write.length = (itemsText true items).length + 2 := by
      simp [write, writeItems_eq]
    rw [write_arr_append]
    cases depth with
    | zero => rfl
    | succ depth =>
      change (itemsWith fuel depth true [] _).toOption = _
      rw [itemsWith_itemsText ih depth true [] rest (by omega), reread, Option.map_map]
      rfl
  | obj members ih =>
    refine .of_succ fun fuel depth hfuel rest _ => ?_
    have hlength : (Json.obj members).write.length = (membersText true members).length + 2 := by
      simp [write, writeMembers_eq]
    rw [write_obj_append]
    cases depth with
    | zero => rfl
    | succ depth =>
      change (membersWith fuel depth true [] _).toOption = _
      rw [membersWith_membersText ih depth true [] rest (by omega), reread, Option.map_map]
      rfl

theorem toOption_read_print (v : Json) : (read v.print).toOption = v.reread depthLimit := by
  rw [read, toOption_run, print, String.toList_ofList]
  have hvalue : (value depthLimit v.write).toOption = (v.reread depthLimit).map (·, []) := by
    have hfuel : 2 * v.write.length ≤ fuelFor v.write := Nat.le_add_right _ _
    have hread := readBack v _ depthLimit hfuel [] Ends.nil
    rwa [List.append_nil] at hread
  exact toOption_atEnd hvalue

theorem read_print_eq_ok_iff {v w : Json} :
    read v.print = .ok w ↔ v.reread depthLimit = some w := by
  rw [← toOption_read_print]
  cases read v.print <;> simp [Except.toOption]

end Json

end Switchyard
