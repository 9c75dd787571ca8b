import Switchyard.Json.Text
import Switchyard.Proofs.Json.Literal
import Switchyard.Proofs.Json.Strings
import Switchyard.Proofs.Json.Structure

/-! Printed values: how they begin, how items and members follow one another,
and that they hold no character below a blank. -/

namespace Switchyard.Json

open Reader

def opens (c : Char) : Bool := !isBlank c && c != ']' && c != ',' && c != '\x7d'

theorem skipBlanks_of_opens {c : Char} (h : opens c = true) (cs : List Char) :
    skipBlanks (c :: cs) = c :: cs := by
  have hblank : isBlank c = false := by
    unfold opens at h
    simp only [Bool.and_eq_true, Bool.not_eq_true'] at h
    exact h.1.1.1
  exact List.dropWhile_cons_of_neg (by simp [hblank])

theorem opens_of_isDigit {c : Char} (h : Digits.isDigit c = true) : opens c = true := by
  have hne {d : Char} (hd : Digits.isDigit d = false) : c ≠ d := Digits.ne_of_isDigit h hd
  have hspace := hne (d := ' ') (by decide)
  have hnewline := hne (d := '\n') (by decide)
  have htab := hne (d := '\t') (by decide)
  have hreturn := hne (d := '\r') (by decide)
  have hbracket := hne (d := ']') (by decide)
  have hcomma := hne (d := ',') (by decide)
  have hbrace := hne (d := '\x7d') (by decide)
  simp [opens, isBlank, hspace, hnewline, htab, hreturn, hbracket, hcomma, hbrace]

theorem exists_signed_eq {negative : Bool} {text : List Char} (h : PlainLiteral text) :
    ∃ c cs, signed negative text = c :: cs ∧ opens c = true := by
  obtain ⟨c, cs, rfl, hc⟩ := h.exists_digit
  cases negative with
  | true => exact ⟨'-', c :: cs, rfl, by decide⟩
  | false => exact ⟨c, cs, rfl, opens_of_isDigit hc⟩

theorem exists_write_eq (v : Json) : ∃ c cs, v.write = c :: cs ∧ opens c = true := by
  cases v with
  | null => exact ⟨_, _, by rw [write]; rfl, by decide⟩
  | bool b => cases b <;> exact ⟨_, _, by rw [write]; rfl, by decide⟩
  | num n =>
    obtain ⟨negative, text, hplain, hwrite⟩ := n.exists_write_eq
    rw [write, hwrite]
    exact exists_signed_eq hplain
  | str s => exact ⟨_, _, by rw [write]; rfl, by decide⟩
  | arr items => exact ⟨_, _, by rw [write], by decide⟩
  | obj members => exact ⟨_, _, by rw [write], by decide⟩

def comma (first : Bool) : List Char := if first then [] else [',']

def itemsText (first : Bool) : List Json → List Char
  | [] => []
  | v :: vs => comma first ++ v.write ++ itemsText false vs

def membersText (first : Bool) : List (String × Json) → List Char
  | [] => []
  | (k, v) :: ms => comma first ++ writeString k ++ ':' :: v.write ++ membersText false ms

theorem length_le_itemsText (first : Bool) (items : List Json) :
    items.length ≤ (itemsText first items).length := by
  induction items generalizing first with
  | nil => exact Nat.zero_le _
  | cons v vs ih =>
    obtain ⟨c, cs, hwrite, -⟩ := exists_write_eq v
    have hrest := ih false
    simp only [itemsText, hwrite, List.length_append, List.length_cons]
    omega

theorem length_le_membersText (first : Bool) (members : List (String × Json)) :
    members.length ≤ (membersText first members).length := by
  induction members generalizing first with
  | nil => exact Nat.zero_le _
  | cons m ms ih =>
    have hrest := ih false
    simp only [membersText, List.length_append, List.length_cons]
    omega

theorem writeItems_eq (items : List Json) : writeItems items = itemsText true items := by
  induction items with
  | nil => rw [writeItems, itemsText]
  | cons v vs ih =>
    rw [writeItems, itemsText, ih]
    cases vs with
    | nil => simp [comma, itemsText]
    | cons w ws => simp [comma, itemsText]

theorem writeMembers_eq (members : List (String × Json)) :
    writeMembers members = membersText true members := by
  induction members with
  | nil => rw [writeMembers, membersText]
  | cons m ms ih =>
    obtain ⟨k, v⟩ := m
    rw [writeMembers, membersText, ih]
    cases ms with
    | nil => simp [comma, membersText]
    | cons w ws => simp [comma, membersText]

theorem write_arr_append (items : List Json) (rest : List Char) :
    (Json.arr items).write ++ rest = '[' :: (itemsText true items ++ ']' :: rest) := by
  simp [write, writeItems_eq]

theorem write_obj_append (members : List (String × Json)) (rest : List Char) :
    (Json.obj members).write ++ rest = '\x7b' :: (membersText true members ++ '\x7d' :: rest) := by
  simp [write, writeMembers_eq]

theorem membersText_cons_append (first : Bool) (k : String) (v : Json)
    (members : List (String × Json)) (rest : List Char) :
    membersText first ((k, v) :: members) ++ '\x7d' :: rest =
      comma first ++ '"' :: (k.toList.flatMap escape ++
        '"' :: ':' :: (v.write ++ (membersText false members ++ '\x7d' :: rest))) := by
  simp [membersText, writeString]

theorem ends_itemsText (items : List Json) (rest : List Char) :
    Ends (itemsText false items ++ ']' :: rest) := by
  cases items with
  | nil => exact Ends.cons _ (by decide)
  | cons v vs => exact Ends.cons _ (by decide)

theorem ends_membersText (members : List (String × Json)) (rest : List Char) :
    Ends (membersText false members ++ '\x7d' :: rest) := by
  cases members with
  | nil => exact Ends.cons _ (by decide)
  | cons m ms => exact Ends.cons _ (by decide)

theorem nextItem_of_opens (first : Bool) {c : Char} (h : opens c = true) (cs : List Char) :
    nextItem first (comma first ++ c :: cs) = .ok (some (c :: cs)) := by
  have hskip := skipBlanks_of_opens h cs
  obtain ⟨hbracket, hcomma⟩ : c ≠ ']' ∧ c ≠ ',' := by
    unfold opens at h
    simp only [Bool.and_eq_true, bne_iff_ne] at h
    exact ⟨h.1.1.2, h.1.2⟩
  cases first with
  | true => simp [nextItem, comma, hskip, hbracket, hcomma]
  | false =>
    have hsep : skipBlanks (',' :: c :: cs) = ',' :: c :: cs := by rfl
    simp [nextItem, comma, hsep, hskip, hbracket]

theorem nextItem_write (first : Bool) (v : Json) (rest : List Char) :
    nextItem first (comma first ++ v.write ++ rest) = .ok (some (v.write ++ rest)) := by
  obtain ⟨c, cs, hwrite, hopens⟩ := exists_write_eq v
  rw [hwrite, List.append_assoc]
  exact nextItem_of_opens first hopens (cs ++ rest)

theorem nextItem_bracket (first : Bool) (rest : List Char) : nextItem first (']' :: rest) = .ok none := rfl

theorem closeList_bracket (rest : List Char) : closeList (']' :: rest) = .ok rest := rfl

theorem nextKey_quote (first : Bool) (rest : List Char) :
    nextKey first (comma first ++ '"' :: rest) = .ok (some rest) := by
  cases first <;> rfl

theorem nextKey_brace (first : Bool) (rest : List Char) : nextKey first ('\x7d' :: rest) = .ok none := by
  cases first <;> rfl

theorem closeObject_brace (rest : List Char) : closeObject ('\x7d' :: rest) = .ok rest := rfl

theorem colon_colon (rest : List Char) : colon (':' :: rest) = .ok rest := rfl

theorem printing_of_all_digits {ds : List Char} (h : Digits.All ds) : Printing ds := by
  intro c hc
  have hdigit := h c hc
  unfold Digits.isDigit at hdigit
  simp only [Bool.and_eq_true, decide_eq_true_eq] at hdigit
  have hval : 48 ≤ c.toNat := hdigit.1
  omega

theorem printing_exponentPart {tail : List Char} (h : ExponentPart tail) : Printing tail := by
  cases h with
  | absent => exact .nil
  | present hletter hsign _ hds =>
    refine .cons ?_ (.append ?_ (printing_of_all_digits hds))
    · rcases hletter with rfl | rfl <;> decide
    · rcases hsign with rfl | rfl | rfl <;> decide

theorem printing_plainLiteral {text : List Char} (h : PlainLiteral text) : Printing text := by
  cases h with
  | whole _ hds htail => exact (printing_of_all_digits hds).append (printing_exponentPart htail)
  | fraction _ hds _ hfs htail =>
    refine (printing_of_all_digits hds).append (.cons (by decide) ?_)
    exact (printing_of_all_digits hfs).append (printing_exponentPart htail)

theorem printing_number (n : Number) : Printing n.write := by
  obtain ⟨negative, text, hplain, hwrite⟩ := n.exists_write_eq
  have htext := printing_plainLiteral hplain
  rw [hwrite]
  cases negative with
  | true => exact .cons (by decide) htext
  | false => exact htext

theorem printing_comma (first : Bool) : Printing (comma first) := by
  cases first with
  | true => exact .nil
  | false => exact .cons (by decide) .nil

theorem printing_itemsText {items : List Json} (h : ∀ v ∈ items, Printing v.write) (first : Bool) :
    Printing (itemsText first items) := by
  induction items generalizing first with
  | nil => exact .nil
  | cons v vs ih =>
    obtain ⟨hv, hvs⟩ := List.forall_mem_cons.mp h
    exact ((printing_comma first).append hv).append (ih hvs false)

theorem printing_membersText {members : List (String × Json)}
    (h : ∀ m ∈ members, Printing m.2.write) (first : Bool) :
    Printing (membersText first members) := by
  induction members generalizing first with
  | nil => exact .nil
  | cons m ms ih =>
    obtain ⟨k, v⟩ := m
    obtain ⟨hv, hms⟩ := List.forall_mem_cons.mp h
    have hkey := (printing_comma first).append (printing_writeString k)
    exact (hkey.append (.cons (by decide) hv)).append (ih hms false)

theorem printing_write (v : Json) : Printing v.write := by
  induction v with
  | null => exact (show Printing "null".toList by decide)
  | bool b =>
    cases b with
    | true => exact (show Printing "true".toList by decide)
    | false => exact (show Printing "false".toList by decide)
  | num n => exact printing_number n
  | str s => exact printing_writeString s
  | arr items ih =>
    rw [write, writeItems_eq]
    exact .cons (by decide) ((printing_itemsText ih true).append (.cons (by decide) .nil))
  | obj members ih =>
    rw [write, writeMembers_eq]
    exact .cons (by decide) ((printing_membersText ih true).append (.cons (by decide) .nil))

end Switchyard.Json
