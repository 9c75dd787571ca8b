import Switchyard.Proofs.Json.Locality

/-! What a value that is written in a text denotes. Whatever the reader accepts is a value of
the grammar, and it is read alike wherever it stands. -/

namespace Switchyard.Json

open Reader

/-- A value as it is written, and what it is read as where arrays and objects may nest to a
depth: whatever blanks come before it, and whatever comes after it. -/
structure Denotes (depth : Nat) (text : List Char) (v : Json) : Prop where
  form : IsValue text
  reads : ∀ (fuel : Nat) (b : Blanks) (rest : List Char), 2 * text.length ≤ fuel → Ends rest →
    valueWith fuel depth (b.1 ++ (text ++ rest)) = .ok (v, rest)

theorem forall_of_forall₂ {α β : Type} {r : α → β → Prop} {p : α → Prop} {as : List α} {bs : List β}
    (h : List.Forall₂ r as bs) (himp : ∀ a b, r a b → p a) : ∀ a ∈ as, p a := by
  induction h with
  | nil => nofun
  | cons hab _ ih => exact List.forall_mem_cons.mpr ⟨himp _ _ hab, ih⟩

theorem valueWith_blanks (fuel depth : Nat) (b : Blanks) (cs : List Char) :
    valueWith (fuel + 1) depth (b.1 ++ cs) = valueWith (fuel + 1) depth cs := by
  unfold valueWith
  rw [skipBlanks_append]

section Forward

variable {depth : Nat}

theorem Denotes.intro {text : List Char} {v : Json} (form : IsValue text)
    (h : ∀ fuel rest, 2 * text.length ≤ fuel + 1 → Ends rest →
      valueWith (fuel + 1) depth (text ++ rest) = .ok (v, rest)) : Denotes depth text v where
  form := form
  reads fuel b rest hfuel hrest := by
    have hpos := form.length_pos
    obtain ⟨fuel, rfl⟩ : ∃ g, fuel = g + 1 := Nat.exists_eq_add_of_le' (by omega)
    rw [valueWith_blanks]
    exact h fuel rest hfuel hrest

theorem denotes_null : Denotes depth "null".toList .null :=
  .intro (.word (by simp)) fun _ _ _ _ => rfl

theorem denotes_true : Denotes depth "true".toList (.bool true) :=
  .intro (.word (by simp)) fun _ _ _ _ => rfl

theorem denotes_false : Denotes depth "false".toList (.bool false) :=
  .intro (.word (by simp)) fun _ _ _ _ => rfl

theorem denotes_num {negative : Bool} {plain : List Char} {n : Number}
    (hplain : PlainLiteral plain) (hform : IsNumber (signed negative plain))
    (h : ∀ rest, Ends rest → number negative (plain ++ rest) = .ok (n, rest)) :
    Denotes depth (signed negative plain) (.num n) := by
  refine .intro (.number hform) fun fuel rest _ hrest => ?_
  rw [valueWith_literal hplain, literal_signed hplain, h rest hrest]
  rfl

theorem denotes_str {key : List Char} {s : String} (h : SpellsName key s) :
    Denotes depth ('"' :: (key ++ ['"'])) (.str s) := by
  refine .intro (.string h.form) fun fuel rest _ _ => ?_
  rw [List.cons_append, List.append_assoc, valueWith]
  change mapValue Json.str (string (key ++ '"' :: rest)) = _
  rw [h.reads]
  rfl

theorem forall_isValue {items : List Padded} {vs : List Json}
    (h : List.Forall₂ (fun p v => Denotes depth p.value v) items vs) :
    ∀ p ∈ items, IsValue p.value := forall_of_forall₂ h fun _ _ hv => hv.form

theorem itemsWith_itemsOnto {items : List Padded} {vs : List Json}
    (h : List.Forall₂ (fun p v => Denotes depth p.value v) items vs) {fuel : Nat} (first : Bool)
    (acc : List Json) (before inside : Blanks) (rest : List Char)
    (hfuel : 2 * (itemsOnto first items (inside.1 ++ [']'])).length ≤ fuel) :
    itemsWith fuel depth first acc (before.1 ++ itemsOnto first items (inside.1 ++ ']' :: rest)) =
      .ok (.arr (acc.reverse ++ vs), rest) := by
  induction h generalizing fuel first acc before with
  | nil =>
    simp only [itemsOnto, List.length_append, List.length_singleton] at hfuel
    obtain ⟨fuel, rfl⟩ : ∃ g, fuel = g + 1 := Nat.exists_eq_add_of_le' (by omega)
    rw [itemsOnto, itemsWith, nextItem_close, closeList_close, List.append_nil]
    rfl
  | @cons p v ps vs hp hps ih =>
    have hpos := hp.form.length_pos
    have hlength := length_le_itemsOnto (forall_isValue hps) false (inside.1 ++ [']'])
    simp only [itemsOnto, Padded.onto, List.length_append, List.length_singleton] at hfuel hlength
    obtain ⟨fuel, rfl⟩ : ∃ g, fuel = g + 1 := Nat.exists_eq_add_of_le' (by omega)
    have hvalue := hp.reads fuel .none (p.after.1 ++ itemsOnto false ps (inside.1 ++ ']' :: rest))
      (by omega) (ends_append _ (ends_itemsOnto ps inside rest))
    have hrest := @ih fuel false (v :: acc) p.after (by omega)
    rw [List.nil_append] at hvalue
    rw [itemsWith, nextItem_itemsOnto hp.form]
    dsimp only
    rw [hvalue]
    dsimp only
    rw [hrest, List.reverse_cons, List.append_assoc, List.singleton_append]

theorem denotes_arr {items : List Padded} {inside : Blanks} {vs : List Json}
    (h : List.Forall₂ (fun p v => Denotes depth p.value v) items vs) :
    Denotes (depth + 1) (listText items inside) (.arr vs) := by
  refine .intro (.list (forall_isValue h)) fun fuel rest hfuel _ => ?_
  simp only [listText, List.length_cons] at hfuel
  rw [listText_append]
  exact itemsWith_itemsOnto h true [] .none inside rest (by omega)

def Denote (depth : Nat) : List Entry → List (String × Json) → Prop :=
  List.Forall₂ fun e m => SpellsName e.key m.1 ∧ Denotes depth e.value.value m.2

theorem membersWith_entriesOnto {entries : List Entry} {members : List (String × Json)}
    (h : Denote depth entries members) {fuel : Nat} (first : Bool) (acc : List (String × Json))
    (before inside : Blanks) (rest : List Char)
    (hfuel : 2 * (entriesOnto first entries (inside.1 ++ ['\x7d'])).length ≤ fuel) :
    membersWith fuel depth first acc
        (before.1 ++ entriesOnto first entries (inside.1 ++ '\x7d' :: rest)) =
      .ok (.obj (insertAll acc members), rest) := by
  unfold Denote at h
  induction h generalizing fuel first acc before with
  | nil =>
    simp only [entriesOnto, List.length_append, List.length_singleton] at hfuel
    obtain ⟨fuel, rfl⟩ : ∃ g, fuel = g + 1 := Nat.exists_eq_add_of_le' (by omega)
    rw [entriesOnto, membersWith, nextKey_close, closeObject_close]
    rfl
  | @cons e m es ms hm _ ih =>
    obtain ⟨hname, hvalue⟩ := hm
    have hlength := length_le_entriesOnto es false (inside.1 ++ ['\x7d'])
    simp only [entriesOnto, Entry.onto, Padded.onto, List.length_append, List.length_cons,
      List.length_nil] at hfuel hlength
    obtain ⟨fuel, rfl⟩ : ∃ g, fuel = g + 1 := Nat.exists_eq_add_of_le' (by omega)
    have hread := hvalue.reads fuel e.value.before
      (e.value.after.1 ++ entriesOnto false es (inside.1 ++ '\x7d' :: rest))
      (by omega) (ends_append _ (ends_entriesOnto es inside rest))
    have hrest := @ih fuel false (insert m.1 m.2 acc) e.value.after (by omega)
    rw [membersWith, nextKey_entriesOnto]
    dsimp only
    rw [hname.reads]
    dsimp only
    rw [colon_append, Padded.onto]
    dsimp only
    rw [hread]
    exact hrest

theorem denotes_obj {entries : List Entry} {inside : Blanks} {members : List (String × Json)}
    (h : Denote depth entries members) :
    Denotes (depth + 1) (objectText entries inside) (.obj (insertAll [] members)) := by
  have hkeys : ∀ e ∈ entries, IsStringBody e.key :=
    forall_of_forall₂ h fun _ _ hm => hm.1.form
  have hvalues : ∀ e ∈ entries, IsValue e.value.value :=
    forall_of_forall₂ h fun _ _ hm => hm.2.form
  refine .intro (.object hkeys hvalues) fun fuel rest hfuel _ => ?_
  simp only [objectText, List.length_cons] at hfuel
  rw [objectText_append]
  exact membersWith_entriesOnto h true [] .none inside rest (by omega)

end Forward

structure ReadsTexts (fuel : Nat) : Prop where
  value : ∀ {depth : Nat} {cs rest : List Char} {v : Json},
    valueWith fuel depth cs = .ok (v, rest) → Ends rest →
      ∃ (b : Blanks) (text : List Char), cs = b.1 ++ (text ++ rest) ∧ Denotes depth text v
  items : ∀ {depth : Nat} {first : Bool} {acc : List Json} {cs rest : List Char} {v : Json},
    itemsWith fuel depth first acc cs = .ok (v, rest) →
      ∃ (b : Blanks) (items : List Padded) (inside : Blanks) (vs : List Json),
        (first = true → b.1 = []) ∧ cs = b.1 ++ itemsOnto first items (inside.1 ++ ']' :: rest) ∧
        v = .arr (acc.reverse ++ vs) ∧ List.Forall₂ (fun p v => Denotes depth p.value v) items vs
  members : ∀ {depth : Nat} {first : Bool} {acc : List (String × Json)} {cs rest : List Char}
    {v : Json}, membersWith fuel depth first acc cs = .ok (v, rest) →
      ∃ (b : Blanks) (entries : List Entry) (inside : Blanks) (members : List (String × Json)),
        (first = true → b.1 = []) ∧
        cs = b.1 ++ entriesOnto first entries (inside.1 ++ '\x7d' :: rest) ∧
        v = .obj (insertAll acc members) ∧ Denote depth entries members

namespace ReadsTexts

variable {fuel depth : Nat} {first : Bool} {cs rest : List Char} {v : Json}

theorem value_succ (h : ReadsTexts fuel) (hok : valueWith (fuel + 1) depth cs = .ok (v, rest))
    (hrest : Ends rest) :
    ∃ (b : Blanks) (text : List Char), cs = b.1 ++ (text ++ rest) ∧ Denotes depth text v := by
  suffices ∃ text, skipBlanks cs = text ++ rest ∧ Denotes depth text v by
    obtain ⟨text, htext, hv⟩ := this
    obtain ⟨b, rfl⟩ := exists_of_skipBlanks_eq htext
    exact ⟨b, text, rfl, hv⟩
  unfold valueWith at hok
  split at hok
  · cases hok
  · next heq =>
    obtain ⟨hword, rfl⟩ := constant_eq_ok hok
    exact ⟨_, by rw [heq, word_eq_ok hword]; rfl, denotes_null⟩
  · next heq =>
    obtain ⟨hword, rfl⟩ := constant_eq_ok hok
    exact ⟨_, by rw [heq, word_eq_ok hword]; rfl, denotes_true⟩
  · next heq =>
    obtain ⟨hword, rfl⟩ := constant_eq_ok hok
    exact ⟨_, by rw [heq, word_eq_ok hword]; rfl, denotes_false⟩
  · next heq =>
    obtain ⟨n, hn, rfl⟩ := mapValue_eq_ok hok
    obtain ⟨plain, hplain, hform, rfl, hread⟩ := number_eq_ok_text hn hrest
    exact ⟨signed true plain, heq, denotes_num hplain hform hread⟩
  · next heq =>
    obtain ⟨s, hs, rfl⟩ := mapValue_eq_ok hok
    obtain ⟨key, rfl, hkey⟩ := string_eq_ok hs
    exact ⟨_, by rw [heq]; simp, denotes_str hkey⟩
  · next heq =>
    cases depth with
    | zero => cases hok
    | succ depth =>
      obtain ⟨b', items, inside, vs, hb, rfl, rfl, hvs⟩ := h.items hok
      refine ⟨listText items inside, ?_, denotes_arr hvs⟩
      rw [heq, listText_append, hb rfl, List.nil_append]
  · next heq =>
    cases depth with
    | zero => cases hok
    | succ depth =>
      obtain ⟨b', entries, inside, members, hb, rfl, rfl, hmembers⟩ := h.members hok
      refine ⟨objectText entries inside, ?_, denotes_obj hmembers⟩
      rw [heq, objectText_append, hb rfl, List.nil_append]
  · next heq =>
    split at hok
    · obtain ⟨n, hn, rfl⟩ := mapValue_eq_ok hok
      obtain ⟨plain, hplain, hform, hplaincs, hread⟩ := number_eq_ok_text hn hrest
      exact ⟨signed false plain, heq.trans hplaincs, denotes_num hplain hform hread⟩
    · cases hok

theorem items_succ (h : ReadsTexts fuel) {acc : List Json}
    (hok : itemsWith (fuel + 1) depth first acc cs = .ok (v, rest)) :
    ∃ (b : Blanks) (items : List Padded) (inside : Blanks) (vs : List Json),
      (first = true → b.1 = []) ∧ cs = b.1 ++ itemsOnto first items (inside.1 ++ ']' :: rest) ∧
      v = .arr (acc.reverse ++ vs) ∧ List.Forall₂ (fun p v => Denotes depth p.value v) items vs := by
  unfold itemsWith at hok
  split at hok
  · cases hok
  · next hnext =>
    obtain ⟨inside, after, rfl⟩ := nextItem_eq_none hnext
    rw [closeList_append, closeList_bracket] at hok
    cases hok
    exact ⟨.none, [], inside, [], fun _ => rfl, rfl, by rw [List.append_nil], .nil⟩
  · next hnext =>
    obtain ⟨b, before, hb, rfl⟩ := nextItem_eq_some hnext
    split at hok
    · cases hok
    · next w more hvalue =>
      obtain ⟨after, items, inside, vs, -, rfl, rfl, hvs⟩ := h.items hok
      obtain ⟨before', text, rfl, hw⟩ := h.value hvalue (ends_append _ (ends_itemsOnto items inside rest))
      refine ⟨b, ⟨before.append before', text, after⟩ :: items, inside, w :: vs, hb, ?_, ?_, .cons hw hvs⟩
      · simp only [itemsOnto, Padded.onto, Blanks.append, List.append_assoc]
      · rw [List.reverse_cons, List.append_assoc, List.singleton_append]

theorem members_succ (h : ReadsTexts fuel) {acc : List (String × Json)}
    (hok : membersWith (fuel + 1) depth first acc cs = .ok (v, rest)) :
    ∃ (b : Blanks) (entries : List Entry) (inside : Blanks) (members : List (String × Json)),
      (first = true → b.1 = []) ∧
      cs = b.1 ++ entriesOnto first entries (inside.1 ++ '\x7d' :: rest) ∧
      v = .obj (insertAll acc members) ∧ Denote depth entries members := by
  unfold membersWith at hok
  split at hok
  · cases hok
  · next hnext =>
    obtain ⟨inside, after, rfl⟩ := nextKey_eq_none hnext
    rw [closeObject_append, closeObject_brace] at hok
    cases hok
    exact ⟨.none, [], inside, [], fun _ => rfl, rfl, rfl, .nil⟩
  · next hnext =>
    obtain ⟨b, before, hb, rfl⟩ := nextKey_eq_some hnext
    split at hok
    · cases hok
    · next name more hstring =>
      obtain ⟨key, rfl, hname⟩ := string_eq_ok hstring
      split at hok
      · cases hok
      · next hcolon =>
        obtain ⟨between, rfl⟩ := colon_eq_ok hcolon
        split at hok
        · cases hok
        · next w more hvalue =>
          obtain ⟨after, entries, inside, members, -, rfl, rfl, hmembers⟩ := h.members hok
          obtain ⟨before', text, rfl, hw⟩ :=
            h.value hvalue (ends_append _ (ends_entriesOnto entries inside rest))
          refine ⟨b, ⟨before, key, between, ⟨before', text, after⟩⟩ :: entries, inside,
            (name, w) :: members, hb, rfl, rfl, .cons ⟨hname, hw⟩ hmembers⟩

end ReadsTexts

theorem readsTexts (fuel : Nat) : ReadsTexts fuel := by
  induction fuel with
  | zero =>
    constructor
    · nofun
    · nofun
    · nofun
  | succ fuel ih =>
    constructor
    · exact ih.value_succ
    · exact ih.items_succ
    · exact ih.members_succ

end Switchyard.Json
