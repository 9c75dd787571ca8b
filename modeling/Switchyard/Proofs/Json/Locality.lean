import Switchyard.Proofs.Json.Grammar
import Switchyard.Proofs.Json.Spelling

/-! Readers of what values are made of: strings, words, numbers, and what stands between
items and members. What they accept is a text of the grammar, and they make the same of it at
every place where it can stand. -/

namespace Switchyard.Json

open Reader

/-- The characters between the quotes of a string, and the string that they stand for. -/
structure SpellsName (key : List Char) (name : String) : Prop where
  form : IsStringBody key
  reads : ∀ rest, Reader.string (key ++ '"' :: rest) = .ok (name, rest)

section Strings

variable {cs rest : List Char}

theorem hexQuad_eq_ok {n : Nat} (h : hexQuad cs = .ok (n, rest)) :
    ∃ a b c d, cs = a :: b :: c :: d :: rest ∧ (∀ x ∈ [a, b, c, d], (hexDigit? x).isSome) ∧
      ∀ rest', hexQuad (a :: b :: c :: d :: rest') = .ok (n, rest') := by
  unfold hexQuad at h
  dsimp only at h
  split at h
  · next a b c d _ =>
    split at h
    · next ha hb hc hd =>
      cases h
      refine ⟨a, b, c, d, rfl, ?_, fun rest' => ?_⟩
      · simp [ha, hb, hc, hd]
      · simp only [hexQuad, ha, hb, hc, hd]
    · split at h <;> cases h
  · split at h <;> cases h

theorem unicodeEscape_eq_ok {c : Char} (h : unicodeEscape cs = .ok (c, rest)) :
    ∃ text, cs = text ++ rest ∧
      (∀ body, IsStringBody body → IsStringBody ('\\' :: 'u' :: (text ++ body))) ∧
      ∀ rest', unicodeEscape (text ++ rest') = .ok (c, rest') := by
  cases hquad : hexQuad cs with
  | error e =>
    rw [unicodeEscape, hquad] at h
    cases h
  | ok p =>
    obtain ⟨high, after⟩ := p
    obtain ⟨a, b, c', d, rfl, hdigits, hhigh⟩ := hexQuad_eq_ok hquad
    rw [unicodeEscape, hquad] at h
    dsimp only at h
    by_cases hlone : 0xDC00 ≤ high ∧ high ≤ 0xDFFF
    · rw [if_pos hlone] at h
      cases h
    rw [if_neg hlone] at h
    by_cases hpair : 0xD800 ≤ high ∧ high ≤ 0xDBFF
    · rw [if_pos hpair] at h
      split at h
      · next partner =>
        cases hquad' : hexQuad partner with
        | error e =>
          rw [hquad'] at h
          cases h
        | ok q =>
          obtain ⟨low, more⟩ := q
          obtain ⟨a', b', c'', d', rfl, hdigits', hlow⟩ := hexQuad_eq_ok hquad'
          rw [hquad'] at h
          dsimp only at h
          by_cases hrange : 0xDC00 ≤ low ∧ low ≤ 0xDFFF
          · rw [if_pos hrange] at h
            obtain ⟨rfl, rfl⟩ := Prod.mk.inj (Except.ok.inj h)
            refine ⟨[a, b, c', d, '\\', 'u', a', b', c'', d'], rfl,
              fun body hbody => .unicode hdigits (.unicode hdigits' hbody), fun rest' => ?_⟩
            simp only [List.cons_append, List.nil_append, unicodeEscape, hhigh, hlow]
            rw [if_neg hlone, if_pos hpair, if_pos hrange]
          · rw [if_neg hrange] at h
            cases h
      all_goals cases h
    · rw [if_neg hpair] at h
      obtain ⟨rfl, rfl⟩ := Prod.mk.inj (Except.ok.inj h)
      refine ⟨[a, b, c', d], rfl, fun body hbody => .unicode hdigits hbody, fun rest' => ?_⟩
      simp only [List.cons_append, List.nil_append, unicodeEscape, hhigh]
      rw [if_neg hlone, if_neg hpair]

theorem stringTail_eq_ok {fuel : Nat} {acc : List Char} {s : String}
    (h : stringTail fuel acc cs = .ok (s, rest)) :
    ∃ body, IsStringBody body ∧ cs = body ++ '"' :: rest ∧ ∀ fuel' rest', body.length < fuel' →
      stringTail fuel' acc (body ++ '"' :: rest') = .ok (s, rest') := by
  have hfuel {n fuel' : Nat} (hlt : n < fuel') : ∃ g, fuel' = g + 1 :=
    Nat.exists_eq_add_of_le' (by omega)
  fun_induction stringTail fuel acc cs with
  | case1 => cases h
  | case2 => cases h
  | case3 =>
    cases h
    refine ⟨[], .nil, rfl, fun fuel' rest' hlt => ?_⟩
    obtain ⟨g, rfl⟩ := hfuel hlt
    rfl
  | case4 => cases h
  | case5 => cases h
  | case6 fuel acc cs c after hescape ih =>
    obtain ⟨text, rfl, hform, hread⟩ := unicodeEscape_eq_ok hescape
    obtain ⟨body, hbody, rfl, htail⟩ := ih h
    refine ⟨'\\' :: 'u' :: (text ++ body), hform body hbody, by simp, fun fuel' rest' hlt => ?_⟩
    obtain ⟨g, rfl⟩ := hfuel hlt
    simp only [List.length_cons, List.length_append] at hlt
    simp only [List.cons_append, List.append_assoc, stringTail, hread]
    exact htail g rest' (by omega)
  | case7 fuel acc letter cs hletter c hescape ih =>
    obtain ⟨body, hbody, rfl, htail⟩ := ih h
    refine ⟨'\\' :: letter :: body, .escaped (by simp [hescape]) hbody, rfl, fun fuel' rest' hlt => ?_⟩
    obtain ⟨g, rfl⟩ := hfuel hlt
    simp only [List.length_cons] at hlt
    simp only [List.cons_append, stringTail, hescape]
    exact htail g rest' (by omega)
  | case8 => cases h
  | case9 => cases h
  | case10 fuel acc c cs hquote hlast _ hslash hcontrol ih =>
    have hplain : c ≠ '\\' := fun heq => by
      cases cs with
      | nil => exact hlast heq rfl
      | cons d ds => exact hslash d ds heq rfl
    obtain ⟨body, hbody, rfl, htail⟩ := ih h
    refine ⟨c :: body, .plain hquote hplain hcontrol hbody, rfl, fun fuel' rest' hlt => ?_⟩
    obtain ⟨g, rfl⟩ := hfuel hlt
    simp only [List.length_cons] at hlt
    rw [List.cons_append, stringTail_plain hquote hplain hcontrol]
    exact htail g rest' (by omega)

theorem string_eq_ok {s : String} (h : Reader.string cs = .ok (s, rest)) :
    ∃ key, cs = key ++ '"' :: rest ∧ SpellsName key s := by
  obtain ⟨key, hkey, hcs, hread⟩ := stringTail_eq_ok h
  refine ⟨key, hcs, hkey, fun rest' => hread _ rest' ?_⟩
  rw [List.length_append]
  omega

theorem spellsName_escape (s : String) : SpellsName (s.toList.flatMap escape) s := by
  obtain ⟨key, hkey, hname⟩ := string_eq_ok (string_flatMap_escape s [])
  rwa [List.append_cancel_right hkey]

theorem SpellsName.eq {key : List Char} {name name' : String} (h : SpellsName key name)
    (h' : SpellsName key name') : name = name' := by
  have hread := h.reads []
  rw [h'.reads] at hread
  cases hread
  rfl

end Strings

section Words

variable {cs rest : List Char}

theorem word_eq_ok {expected : List Char} (h : word expected cs = .ok rest) :
    cs = expected ++ rest := by
  induction expected generalizing cs with
  | nil => exact Except.ok.inj h
  | cons e es ih =>
    cases cs with
    | nil => cases h
    | cons c cs =>
      unfold word at h
      split at h
      · next heq => rw [heq, ih h, List.cons_append]
      · cases h

theorem constant_eq_ok {α : Type} {a a' : α} {r : Result (List Char)}
    (h : constant a r = .ok (a', rest)) : r = .ok rest ∧ a = a' := by
  unfold constant at h
  split at h
  · cases h
  · cases h
    exact ⟨rfl, rfl⟩

end Words

section Numbers

variable {negative : Bool} {n : Number} {cs rest : List Char}

theorem number_zero_append_eq_ok {ds after : List Char} (hds : Digits.All ds)
    (hafter : startsWithDigit after = false)
    (h : number negative ('0' :: (ds ++ after)) = .ok (n, rest)) : ds = [] := by
  rw [number, startsWithDigit_append hds hafter] at h
  cases ds with
  | nil => rfl
  | cons d ds => cases h

theorem number_eq_ok_text (h : number negative cs = .ok (n, rest)) (hrest : Ends rest) :
    ∃ text, PlainLiteral text ∧ IsNumber (signed negative text) ∧ cs = text ++ rest ∧
      ∀ rest', Ends rest' → number negative (text ++ rest') = .ok (n, rest') := by
  obtain ⟨ds, after, rfl, hds, hafter⟩ := exists_digits cs
  obtain ⟨hne, hok⟩ := number_append_eq_ok hds hafter h
  have hignored := (gather_digits 0 hds hafter).2.1
  obtain ⟨fs, e, tail, htail, rfl, -⟩ := afterInteger_eq_ok hignored hafter (gather_lt (by decide)) hok
  let p : Numeral.Parts := ⟨negative, ds, fs, e⟩
  have hspells : p.Spells (signed negative (ds ++ tail)) := .intro hne hds htail
  have hzero : ds.head? = some '0' → ds = ['0'] := by
    cases ds with
    | nil => nofun
    | cons d ds =>
      rintro ⟨⟩
      rw [number_zero_append_eq_ok hds.tail hafter h]
  have hplain : PlainLiteral (ds ++ tail) := by
    cases htail with
    | whole htail => exact .whole hne hds htail.exponentPart
    | fraction hfne hfs htail => exact .fraction hne hds hfne hfs htail.exponentPart
  refine ⟨ds ++ tail, hplain, ⟨p, hspells, hzero⟩, (List.append_assoc ..).symm, fun rest' hrest' => ?_⟩
  -- the literal is read alike in front of all ends, and it is read in front of this one
  obtain ⟨a, ha⟩ := whole_number negative hplain
  have hhere := ha rest hrest
  rw [List.append_assoc, h] at hhere
  obtain ⟨m, rfl, hm⟩ := Option.map_eq_some_iff.mp hhere.symm
  cases hm
  exact toOption_eq_some (ha rest' hrest')

end Numbers

section Separators

variable {first : Bool} {cs rest : List Char}

theorem nextItem_eq_some (h : nextItem first cs = .ok (some rest)) :
    ∃ before after : Blanks, (first = true → before.1 = []) ∧
      cs = before.1 ++ (comma first ++ (after.1 ++ rest)) := by
  cases first with
  | true =>
    have hrest : skipBlanks cs = rest := by
      unfold nextItem at h
      split at h
      · cases h
      · cases h
      · next heq =>
        rw [heq]
        cases h
        rfl
      · cases h
        rfl
    obtain ⟨b, rfl⟩ := exists_of_skipBlanks_eq hrest
    exact ⟨.none, b, fun _ => rfl, rfl⟩
  | false =>
    obtain ⟨more, hcomma, hrest⟩ : ∃ more, skipBlanks cs = ',' :: more ∧ skipBlanks more = rest := by
      unfold nextItem at h
      split at h
      · cases h
      · cases h
      · next more heq =>
        refine ⟨more, heq, ?_⟩
        rw [if_neg Bool.false_ne_true] at h
        split at h
        · cases h
        · cases h
        · cases h
          rfl
      · cases h
    obtain ⟨after, rfl⟩ := exists_of_skipBlanks_eq hrest
    obtain ⟨b, rfl⟩ := exists_of_skipBlanks_eq hcomma
    exact ⟨b, after, nofun, rfl⟩

theorem nextItem_eq_none (h : nextItem first cs = .ok none) :
    ∃ (inside : Blanks) (after : List Char), cs = inside.1 ++ ']' :: after := by
  unfold nextItem at h
  split at h
  · cases h
  · next after heq =>
    obtain ⟨b, rfl⟩ := exists_of_skipBlanks_eq heq
    exact ⟨b, after, rfl⟩
  · split at h
    · cases h
    · split at h <;> cases h
  · split at h <;> cases h

theorem closeList_append (b : Blanks) (cs : List Char) : closeList (b.1 ++ cs) = closeList cs := by
  rw [closeList, closeList, skipBlanks_append]

theorem closeList_eq_ok (h : closeList cs = .ok rest) : ∃ b : Blanks, cs = b.1 ++ ']' :: rest := by
  unfold closeList at h
  split at h
  · cases h
  · next heq =>
    cases h
    exact exists_of_skipBlanks_eq heq
  · split at h <;> cases h
  · cases h

theorem nextItem_append (first : Bool) (b : Blanks) (cs : List Char) :
    nextItem first (b.1 ++ cs) = nextItem first cs := by
  rw [nextItem, nextItem, skipBlanks_append]

theorem nextItem_value {text : List Char} (htext : IsValue text) (first : Bool) (after : Blanks)
    (rest : List Char) :
    nextItem first (comma first ++ (after.1 ++ (text ++ rest))) = .ok (some (text ++ rest)) := by
  have htrim := htext.skipBlanks_append after rest
  obtain ⟨c, cs, rfl, hopens⟩ := htext.exists_head
  obtain ⟨hbracket, hcomma⟩ : c ≠ ']' ∧ c ≠ ',' := by
    unfold opens at hopens
    simp only [Bool.and_eq_true, bne_iff_ne] at hopens
    exact ⟨hopens.1.1.2, hopens.1.2⟩
  rw [List.cons_append] at htrim ⊢
  rw [nextItem]
  cases first with
  | true =>
    have hhead : skipBlanks (comma true ++ (after.1 ++ c :: (cs ++ rest))) = c :: (cs ++ rest) := htrim
    simp [hhead, hbracket, hcomma]
  | false =>
    have hhead : skipBlanks (comma false ++ (after.1 ++ c :: (cs ++ rest))) =
        ',' :: (after.1 ++ c :: (cs ++ rest)) := rfl
    simp [hhead, htrim, hbracket]

theorem nextItem_itemsOnto {p : Padded} (hp : IsValue p.value) (first : Bool) (b : Blanks)
    (ps : List Padded) (rest : List Char) :
    nextItem first (b.1 ++ itemsOnto first (p :: ps) rest) =
      .ok (some (p.value ++ (p.after.1 ++ itemsOnto false ps rest))) := by
  rw [nextItem_append]
  exact nextItem_value hp first p.before _

theorem nextItem_close (first : Bool) (b inside : Blanks) (rest : List Char) :
    nextItem first (b.1 ++ (inside.1 ++ ']' :: rest)) = .ok none := by
  rw [nextItem_append, nextItem_append, nextItem_bracket]

theorem closeList_close (b inside : Blanks) (rest : List Char) :
    closeList (b.1 ++ (inside.1 ++ ']' :: rest)) = .ok rest := by
  rw [closeList_append, closeList_append, closeList_bracket]

theorem nextKey_eq_some (h : nextKey first cs = .ok (some rest)) :
    ∃ before after : Blanks, (first = true → before.1 = []) ∧
      cs = before.1 ++ (comma first ++ (after.1 ++ '"' :: rest)) := by
  cases first with
  | true =>
    have hquote : skipBlanks cs = '"' :: rest := by
      unfold nextKey at h
      split at h
      · cases h
      · cases h
      · rw [if_pos rfl] at h
        split at h
        · next heq =>
          cases h
          exact heq
        · cases h
    obtain ⟨b, rfl⟩ := exists_of_skipBlanks_eq hquote
    exact ⟨.none, b, fun _ => rfl, rfl⟩
  | false =>
    obtain ⟨more, hcomma, hquote⟩ : ∃ more, skipBlanks cs = ',' :: more ∧
        skipBlanks more = '"' :: rest := by
      unfold nextKey at h
      split at h
      · cases h
      · cases h
      · rw [if_neg Bool.false_ne_true] at h
        split at h
        · next more heq =>
          refine ⟨more, heq, ?_⟩
          split at h
          · cases h
          · next hquote =>
            cases h
            exact hquote
          · cases h
          · cases h
        · cases h
    obtain ⟨after, rfl⟩ := exists_of_skipBlanks_eq hquote
    obtain ⟨b, rfl⟩ := exists_of_skipBlanks_eq hcomma
    exact ⟨b, after, nofun, rfl⟩

theorem nextKey_eq_none (h : nextKey first cs = .ok none) :
    ∃ (inside : Blanks) (after : List Char), cs = inside.1 ++ '\x7d' :: after := by
  unfold nextKey at h
  split at h
  · cases h
  · next after heq =>
    obtain ⟨b, rfl⟩ := exists_of_skipBlanks_eq heq
    exact ⟨b, after, rfl⟩
  · split at h
    · split at h <;> cases h
    · split at h
      · split at h <;> cases h
      · cases h

theorem closeObject_append (b : Blanks) (cs : List Char) :
    closeObject (b.1 ++ cs) = closeObject cs := by
  rw [closeObject, closeObject, skipBlanks_append]

theorem nextKey_append (first : Bool) (b : Blanks) (cs : List Char) :
    nextKey first (b.1 ++ cs) = nextKey first cs := by
  rw [nextKey, nextKey, skipBlanks_append]

theorem nextKey_blanks (first : Bool) (after : Blanks) (rest : List Char) :
    nextKey first (comma first ++ (after.1 ++ '"' :: rest)) = .ok (some rest) := by
  have hquote : skipBlanks (after.1 ++ '"' :: rest) = '"' :: rest := skipBlanks_append after _
  rw [nextKey]
  cases first with
  | true =>
    have hhead : skipBlanks (comma true ++ (after.1 ++ '"' :: rest)) = '"' :: rest := hquote
    rw [hhead]
    rfl
  | false =>
    have hhead : skipBlanks (comma false ++ (after.1 ++ '"' :: rest)) =
        ',' :: (after.1 ++ '"' :: rest) := rfl
    simp [hhead, hquote]

theorem nextKey_entriesOnto (first : Bool) (b : Blanks) (e : Entry) (es : List Entry)
    (rest : List Char) :
    nextKey first (b.1 ++ entriesOnto first (e :: es) rest) =
      .ok (some (e.key ++ '"' :: (e.between.1 ++ ':' :: e.value.onto (entriesOnto false es rest)))) := by
  rw [nextKey_append]
  exact nextKey_blanks first e.before _

theorem nextKey_close (first : Bool) (b inside : Blanks) (rest : List Char) :
    nextKey first (b.1 ++ (inside.1 ++ '\x7d' :: rest)) = .ok none := by
  rw [nextKey_append, nextKey_append, nextKey_brace]

theorem closeObject_close (b inside : Blanks) (rest : List Char) :
    closeObject (b.1 ++ (inside.1 ++ '\x7d' :: rest)) = .ok rest := by
  rw [closeObject_append, closeObject_append, closeObject_brace]

theorem colon_eq_ok (h : colon cs = .ok rest) : ∃ b : Blanks, cs = b.1 ++ ':' :: rest := by
  unfold colon at h
  split at h
  · cases h
  · next heq =>
    cases h
    exact exists_of_skipBlanks_eq heq
  · cases h

theorem colon_append (b : Blanks) (rest : List Char) : colon (b.1 ++ ':' :: rest) = .ok rest := by
  rw [colon, skipBlanks_append]
  rfl

end Separators

end Switchyard.Json
