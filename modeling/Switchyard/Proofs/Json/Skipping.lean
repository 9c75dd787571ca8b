import Switchyard.Json.Reader.Skip
import Switchyard.Proofs.Json.Locality

/-! Skipping a value passes over exactly one value of the grammar. So where a text is cut
into values does not depend on who reads it. -/

namespace Switchyard.Json

open Reader

section Strings

variable {fuel : Nat} {cs rest : List Char}

theorem hexQuad_of_digits {a b c d : Char} (h : ∀ x ∈ [a, b, c, d], (hexDigit? x).isSome) :
    ∃ n, ∀ rest, hexQuad (a :: b :: c :: d :: rest) = .ok (n, rest) := by
  have hdigit {x : Char} (hx : x ∈ [a, b, c, d]) : ∃ n, hexDigit? x = some n :=
    Option.isSome_iff_exists.mp (h x hx)
  obtain ⟨na, ha⟩ := hdigit (x := a) (by simp)
  obtain ⟨nb, hb⟩ := hdigit (x := b) (by simp)
  obtain ⟨nc, hc⟩ := hdigit (x := c) (by simp)
  obtain ⟨nd, hd⟩ := hdigit (x := d) (by simp)
  exact ⟨_, fun rest => by simp only [hexQuad, ha, hb, hc, hd]; rfl⟩

theorem skipString_plain {c : Char} (hquote : c ≠ '"') (hslash : c ≠ '\\') (h : ¬ c.toNat < 0x20)
    (fuel : Nat) (rest : List Char) : skipString (fuel + 1) (c :: rest) = skipString fuel rest := by
  rw [skipString]
  · exact if_neg h
  · exact hquote
  · exact fun heq _ => hslash heq
  · exact fun _ heq _ => hslash heq
  · exact fun _ _ heq _ => hslash heq

theorem IsStringBody.skipString_append {body : List Char} (h : IsStringBody body)
    (hfuel : body.length < fuel) (rest : List Char) :
    skipString fuel (body ++ '"' :: rest) = .ok rest := by
  induction h generalizing fuel with
  | nil =>
    obtain ⟨fuel, rfl⟩ := Nat.exists_eq_add_of_le' hfuel
    rfl
  | plain hquote hslash hcontrol _ ih =>
    obtain ⟨fuel, rfl⟩ : ∃ g, fuel = g + 1 := Nat.exists_eq_add_of_le' (by omega)
    simp only [List.length_cons] at hfuel
    rw [List.cons_append, skipString_plain hquote hslash hcontrol]
    exact ih (by omega)
  | @escaped c body hescape _ ih =>
    obtain ⟨fuel, rfl⟩ : ∃ g, fuel = g + 1 := Nat.exists_eq_add_of_le' (by omega)
    simp only [List.length_cons] at hfuel
    have hletter : c ≠ 'u' := by
      rintro rfl
      cases hescape
    rw [List.cons_append, List.cons_append, skipString, if_pos hescape]
    · exact ih (by omega)
    · exact fun heq => hletter heq
  | unicode hdigits _ ih =>
    obtain ⟨fuel, rfl⟩ : ∃ g, fuel = g + 1 := Nat.exists_eq_add_of_le' (by omega)
    simp only [List.length_cons] at hfuel
    obtain ⟨n, hquad⟩ := hexQuad_of_digits hdigits
    simp only [List.cons_append, skipString, hquad]
    exact ih (by omega)

theorem isStringBody_of_skipString (h : skipString fuel cs = .ok rest) :
    ∃ body, IsStringBody body ∧ cs = body ++ '"' :: rest := by
  fun_induction skipString fuel cs with
  | case1 => cases h
  | case2 => cases h
  | case3 =>
    cases h
    exact ⟨[], .nil, rfl⟩
  | case4 => cases h
  | case5 => cases h
  | case6 fuel cs n after hquad ih =>
    obtain ⟨a, b, c, d, rfl, hdigits, -⟩ := hexQuad_eq_ok hquad
    obtain ⟨body, hbody, rfl⟩ := ih h
    exact ⟨_, .unicode hdigits hbody, rfl⟩
  | case7 fuel letter cs _ hescape ih =>
    obtain ⟨body, hbody, rfl⟩ := ih h
    exact ⟨_, .escaped hescape hbody, rfl⟩
  | case8 => cases h
  | case9 => cases h
  | case10 fuel c cs hquote hlast _ hslash hcontrol ih =>
    have hplain : c ≠ '\\' := fun heq => by
      cases cs with
      | nil => exact hlast heq rfl
      | cons d ds => exact hslash d ds heq rfl
    obtain ⟨body, hbody, rfl⟩ := ih h
    exact ⟨c :: body, .plain hquote hplain hcontrol hbody, rfl⟩

end Strings

section Numbers

open Digits Numeral

variable {cs rest : List Char}

theorem skipExponent_append {negative : Bool} {sign ds : List Char} (hsign : SpellsSign negative sign)
    (hne : ds ≠ []) (hds : All ds) (hrest : startsWithDigit rest = false) :
    skipExponent (sign ++ (ds ++ rest)) = .ok rest := by
  obtain ⟨c, cs, rfl⟩ := List.exists_cons_of_ne_nil hne
  obtain ⟨hplus, hminus⟩ := no_sign_of_isDigit hds.head
  have hskip : skipDigits (cs ++ rest) = rest := skipDigits_append hds.tail hrest
  cases hsign with
  | absent => simp [skipExponent, hplus, hminus, hds.head, hskip]
  | plus => simp [skipExponent, hds.head, hskip]
  | minus => simp [skipExponent, hds.head, hskip]

theorem exists_skipDigits (cs : List Char) : ∃ ds, All ds ∧ cs = ds ++ skipDigits cs :=
  ⟨cs.takeWhile isDigit, fun _ => List.mem_takeWhile_imp, List.takeWhile_append_dropWhile.symm⟩

theorem skipExponent_eq_ok (h : skipExponent cs = .ok rest) :
    ∃ negative sign ds, SpellsSign negative sign ∧ ds ≠ [] ∧ All ds ∧ cs = sign ++ (ds ++ rest) := by
  unfold skipExponent at h
  dsimp only at h
  split at h
  · cases h
  · next c after heq =>
    split at h
    · next hc =>
      cases h
      obtain ⟨ds, hds, hafter⟩ := exists_skipDigits after
      have hall : All (c :: ds) := List.forall_mem_cons.mpr ⟨hc, hds⟩
      have hcons : c :: after = c :: ds ++ skipDigits after := by rw [List.cons_append, ← hafter]
      have hne : c :: ds ≠ [] := List.cons_ne_nil c ds
      rw [hcons] at heq
      split at heq
      · exact ⟨true, ['-'], c :: ds, .minus, hne, hall, by rw [heq]; rfl⟩
      · exact ⟨false, ['+'], c :: ds, .plus, hne, hall, by rw [heq]; rfl⟩
      · exact ⟨false, [], c :: ds, .absent, hne, hall, heq⟩
    · cases h

def skipTail : List Char → Result (List Char)
  | 'e' :: rest | 'E' :: rest => skipExponent rest
  | rest => .ok rest

theorem skipTail_append {tail : List Char} {e : Int} (h : SpellsExponent e tail) (hrest : Ends rest) :
    skipTail (tail ++ rest) = .ok rest := by
  cases h with
  | absent =>
    rw [List.nil_append]
    unfold skipTail
    split
    · exact absurd (hrest 'e' rfl) (by decide)
    · exact absurd (hrest 'E' rfl) (by decide)
    · rfl
  | present hletter hsign hne hds =>
    rw [List.cons_append, List.append_assoc]
    rcases hletter with rfl | rfl <;> exact skipExponent_append hsign hne hds hrest.startsWithDigit

theorem skipTail_eq_ok (h : skipTail cs = .ok rest) :
    ∃ e tail, SpellsExponent e tail ∧ cs = tail ++ rest := by
  unfold skipTail at h
  split at h
  · obtain ⟨negative, sign, ds, hsign, hne, hds, rfl⟩ := skipExponent_eq_ok h
    exact ⟨_, _, .present (.inl rfl) hsign hne hds, by simp⟩
  · obtain ⟨negative, sign, ds, hsign, hne, hds, rfl⟩ := skipExponent_eq_ok h
    exact ⟨_, _, .present (.inr rfl) hsign hne hds, by simp⟩
  · cases h
    exact ⟨0, [], .absent, rfl⟩

theorem skipFraction_eq (cs : List Char) : skipFraction cs =
    if startsWithDigit cs then skipTail (skipDigits cs) else failAt cs .invalidNumber := rfl

theorem skipFraction_append {fs tail : List Char} {e : Int} (hne : fs ≠ []) (hfs : All fs)
    (htail : SpellsExponent e tail) (hrest : Ends rest) :
    skipFraction (fs ++ (tail ++ rest)) = .ok rest := by
  have hafter : startsWithDigit (tail ++ rest) = false := htail.exponentPart.startsWithDigit_append hrest
  have hstart : startsWithDigit (fs ++ (tail ++ rest)) = true := by
    rw [startsWithDigit_append hfs hafter]
    simpa using hne
  rw [skipFraction_eq, if_pos hstart, skipDigits_append hfs hafter]
  exact skipTail_append htail hrest

theorem skipFraction_eq_ok (h : skipFraction cs = .ok rest) :
    ∃ fs e tail, fs ≠ [] ∧ All fs ∧ SpellsExponent e tail ∧ cs = fs ++ (tail ++ rest) := by
  obtain ⟨fs, after, rfl, hfs, hafter⟩ := exists_digits cs
  rw [skipFraction_eq, startsWithDigit_append hfs hafter, skipDigits_append hfs hafter] at h
  cases fs with
  | nil => cases h
  | cons c fs =>
    obtain ⟨e, tail, htail, rfl⟩ := skipTail_eq_ok h
    exact ⟨c :: fs, e, tail, List.cons_ne_nil c fs, hfs, htail, rfl⟩

def skipAfter : List Char → Result (List Char)
  | '.' :: rest => skipFraction rest
  | rest => skipTail rest

theorem skipAfter_append {fs after : List Char} {e : Int} (h : SpellsAfter fs e after)
    (hrest : Ends rest) : skipAfter (after ++ rest) = .ok rest := by
  cases h with
  | whole htail =>
    rw [← skipTail_append htail hrest]
    unfold skipAfter
    split
    · next more heq =>
      cases htail with
      | absent =>
        rw [List.nil_append] at heq
        exact absurd (hrest '.' (by rw [heq]; rfl)) (by decide)
      | present hletter => rcases hletter with rfl | rfl <;> cases heq
    · rfl
  | fraction hne hfs htail =>
    rw [List.cons_append, List.append_assoc]
    exact skipFraction_append hne hfs htail hrest

theorem skipAfter_eq_ok (h : skipAfter cs = .ok rest) :
    ∃ fs e after, SpellsAfter fs e after ∧ cs = after ++ rest := by
  unfold skipAfter at h
  split at h
  · obtain ⟨fs, e, tail, hne, hfs, htail, rfl⟩ := skipFraction_eq_ok h
    exact ⟨fs, e, _, .fraction hne hfs htail, by simp⟩
  · obtain ⟨e, tail, htail, rfl⟩ := skipTail_eq_ok h
    exact ⟨[], e, tail, .whole htail, rfl⟩

theorem skipAfter_eq (cs : List Char) : skipAfter cs = match cs with
    | '.' :: rest => skipFraction rest
    | 'e' :: rest | 'E' :: rest => skipExponent rest
    | rest => .ok rest := by
  unfold skipAfter
  split
  · rfl
  · next hpoint =>
    unfold skipTail
    split
    · rfl
    · rfl
    · next he hE =>
      split
      · next heq => exact absurd rfl (hpoint _)
      · next heq => exact absurd rfl (he _)
      · next heq => exact absurd rfl (hE _)
      · rfl

theorem skipNumber_eq (c : Char) (cs : List Char) : skipNumber (c :: cs) =
    if c = '0' then if startsWithDigit cs then failAt cs .invalidNumber else skipAfter cs
    else if isDigit c then skipAfter (skipDigits cs) else failAt (c :: cs) .invalidNumber := by
  rw [skipAfter_eq, skipAfter_eq]
  unfold skipNumber
  dsimp only
  split
  · next heq => cases heq
  · next heq =>
    obtain ⟨rfl, rfl⟩ := List.cons.inj heq
    exact (if_pos rfl).symm
  · next hne heq =>
    obtain ⟨rfl, rfl⟩ := List.cons.inj heq
    exact (if_neg hne).symm

theorem skipNumber_append {ds after : List Char} {fs : List Char} {e : Int} (hne : ds ≠ [])
    (hds : All ds) (hzero : ds.head? = some '0' → ds = ['0']) (hafter : SpellsAfter fs e after)
    (hrest : Ends rest) : skipNumber (ds ++ (after ++ rest)) = .ok rest := by
  obtain ⟨c, cs, rfl⟩ := List.exists_cons_of_ne_nil hne
  have hstart : startsWithDigit (after ++ rest) = false := by
    cases hafter with
    | whole htail => exact htail.exponentPart.startsWithDigit_append hrest
    | fraction => rfl
  rw [List.cons_append, skipNumber_eq]
  split_ifs with hc hdigit
  · obtain rfl : cs = [] := (List.cons.inj (hzero (congrArg some hc))).2
    rw [List.nil_append, hstart] at hdigit
    cases hdigit
  · obtain rfl : cs = [] := (List.cons.inj (hzero (congrArg some hc))).2
    exact skipAfter_append hafter hrest
  · rw [skipDigits_append hds.tail hstart]
    exact skipAfter_append hafter hrest
  · exact absurd hds.head ‹_›

theorem skipNumber_eq_ok (negative : Bool) (h : skipNumber cs = .ok rest) :
    ∃ text, IsNumber (signed negative text) ∧ cs = text ++ rest := by
  cases cs with
  | nil => cases h
  | cons c cs =>
    rw [skipNumber_eq] at h
    split_ifs at h with hc hdigit hdigit
    · cases h
    · obtain ⟨fs, e, after, hafter, rfl⟩ := skipAfter_eq_ok h
      subst hc
      have hall : All ['0'] := by decide
      refine ⟨['0'] ++ after, ⟨⟨negative, ['0'], fs, e⟩, .intro nofun hall hafter, fun _ => rfl⟩, ?_⟩
      rw [List.append_assoc, List.singleton_append]
    · obtain ⟨ds, hds, hcs⟩ := exists_skipDigits cs
      obtain ⟨fs, e, after, hafter, hskip⟩ := skipAfter_eq_ok h
      have hall : All (c :: ds) := List.forall_mem_cons.mpr ⟨hdigit, hds⟩
      refine ⟨c :: ds ++ after, ⟨⟨negative, c :: ds, fs, e⟩, .intro nofun hall hafter, ?_⟩, ?_⟩
      · exact fun hzero => absurd (Option.some.inj hzero) hc
      · rw [hcs, hskip, List.append_assoc, List.cons_append]
    · cases h

end Numbers

structure Skips (text : List Char) : Prop where
  form : IsValue text
  skips : ∀ (fuel : Nat) (b : Blanks) (rest : List Char), 2 * text.length ≤ fuel → Ends rest →
    skipWith fuel (b.1 ++ (text ++ rest)) = .ok rest

section Forward

theorem Skips.intro {text : List Char} (form : IsValue text)
    (h : ∀ fuel rest, 2 * text.length ≤ fuel + 1 → Ends rest →
      skipWith (fuel + 1) (text ++ rest) = .ok rest) : Skips text where
  form := form
  skips fuel b rest hfuel hrest := by
    have hpos := form.length_pos
    obtain ⟨fuel, rfl⟩ : ∃ g, fuel = g + 1 := Nat.exists_eq_add_of_le' (by omega)
    have hskip := h fuel rest hfuel hrest
    unfold skipWith at hskip ⊢
    rwa [skipBlanks_append]

theorem skipWith_digit {c : Char} (hc : Digits.isDigit c = true) (fuel : Nat) (cs : List Char) :
    skipWith (fuel + 1) (c :: cs) = skipNumber (c :: cs) := by
  have hne {d : Char} (hd : Digits.isDigit d = false) : c ≠ d := Digits.ne_of_isDigit hc hd
  rw [skipWith, skipBlanks_of_opens (opens_of_isDigit hc)]
  split
  · next heq => cases heq
  · next heq => exact absurd (List.cons.inj heq).1 (hne (by decide))
  · next heq => exact absurd (List.cons.inj heq).1 (hne (by decide))
  · next heq => exact absurd (List.cons.inj heq).1 (hne (by decide))
  · next heq => exact absurd (List.cons.inj heq).1 (hne (by decide))
  · next heq => exact absurd (List.cons.inj heq).1 (hne (by decide))
  · next heq => exact absurd (List.cons.inj heq).1 (hne (by decide))
  · next heq => exact absurd (List.cons.inj heq).1 (hne (by decide))
  · next heq =>
    obtain ⟨rfl, rfl⟩ := List.cons.inj heq
    exact if_pos hc

theorem skips_number {text : List Char} (h : IsNumber text) : Skips text := by
  refine .intro (.number h) fun fuel rest _ hrest => ?_
  obtain ⟨⟨negative, ds, fs, e⟩, @⟨after, hne, hds, hafter⟩, hzero⟩ := h
  dsimp only at hne hds hafter hzero ⊢
  have hskip := skipNumber_append hne hds hzero hafter hrest
  rw [← List.append_assoc] at hskip
  cases negative with
  | true => exact hskip
  | false =>
    obtain ⟨c, cs, rfl⟩ := List.exists_cons_of_ne_nil hne
    simp only [signed, Bool.false_eq_true, if_false, List.cons_append] at hskip ⊢
    rw [skipWith_digit hds.head]
    exact hskip

theorem skips_word {w : String} (h : w ∈ ["null", "true", "false"]) : Skips w.toList := by
  refine .intro (.word h) fun fuel rest _ _ => ?_
  simp only [List.mem_cons, List.not_mem_nil, or_false] at h
  rcases h with rfl | rfl | rfl
  · rfl
  · rfl
  · rfl

theorem skips_string {body : List Char} (h : IsStringBody body) : Skips ('"' :: (body ++ ['"'])) := by
  refine .intro (.string h) fun fuel rest _ _ => ?_
  rw [List.cons_append, List.append_assoc]
  refine h.skipString_append ?_ rest
  rw [List.length_append]
  omega

theorem skipItems_value {text : List Char} (h : Skips text) {fuel : Nat}
    (hfuel : 2 * text.length ≤ fuel) (before after : Blanks) {rest : List Char} (hrest : Ends rest) :
    skipItems (fuel + 1) (before.1 ++ (text ++ (after.1 ++ rest))) =
      match skipBlanks rest with
      | [] => fail [] .endInList
      | ']' :: rest => .ok rest
      | ',' :: rest => skipItems fuel rest
      | rest => failAt rest .expectedListComma := by
  rewrite [skipItems, h.skips fuel before _ hfuel (ends_append after hrest),
    ← skipBlanks_append after]
  rfl

theorem skipItems_append {text : List Char} (h : Skips text) {ps : List Padded}
    (hps : ∀ p ∈ ps, Skips p.value) (before after inside : Blanks) (rest : List Char) {fuel : Nat}
    (hfuel : 2 * (text.length + (itemsOnto false ps (inside.1 ++ [']'])).length) ≤ fuel) :
    skipItems fuel (before.1 ++ (text ++ (after.1 ++ itemsOnto false ps (inside.1 ++ ']' :: rest)))) =
      .ok rest := by
  induction ps generalizing text before after fuel with
  | nil =>
    simp only [itemsOnto, List.length_append, List.length_singleton] at hfuel
    obtain ⟨fuel, rfl⟩ : ∃ g, fuel = g + 1 := Nat.exists_eq_add_of_le' (by omega)
    rw [skipItems_value h (by omega) _ _ (ends_itemsOnto _ _ _), itemsOnto, skipBlanks_append]
    rfl
  | cons q qs ih =>
    obtain ⟨hq, hqs⟩ := List.forall_mem_cons.mp hps
    have hcomma : (comma false).length = 1 := rfl
    have hpos := h.form.length_pos
    simp only [itemsOnto, Padded.onto, List.length_append] at hfuel
    obtain ⟨fuel, rfl⟩ : ∃ g, fuel = g + 1 := Nat.exists_eq_add_of_le' (by omega)
    rw [skipItems_value h (by omega) _ _ (ends_itemsOnto _ _ _)]
    exact ih hq hqs q.before q.after (by omega)

theorem skipWith_list (fuel : Nat) (cs : List Char) : skipWith (fuel + 1) ('[' :: cs) =
    match skipBlanks cs with
    | [] => fail [] .endInList
    | ']' :: rest => .ok rest
    | rest => skipItems fuel rest := rfl

theorem skipWith_bracket {text : List Char} (h : IsValue text) (fuel : Nat) (b : Blanks)
    (rest : List Char) :
    skipWith (fuel + 1) ('[' :: (b.1 ++ (text ++ rest))) = skipItems fuel (text ++ rest) := by
  have hskip := h.skipBlanks_append b rest
  obtain ⟨c, cs, rfl, hopens⟩ := h.exists_head
  have hbracket : c ≠ ']' := by
    rintro rfl
    cases hopens
  rw [skipWith_list, hskip, List.cons_append]
  split
  · next heq => cases heq
  · next heq => exact absurd (List.cons.inj heq).1 hbracket
  · rfl

theorem skips_list {items : List Padded} (h : ∀ p ∈ items, Skips p.value) (inside : Blanks) :
    Skips (listText items inside) := by
  refine .intro (.list fun p hp => (h p hp).form) fun fuel rest hfuel _ => ?_
  rw [listText_append]
  cases items with
  | nil =>
    rewrite [itemsOnto, skipWith_list, skipBlanks_append]
    rfl
  | cons p ps =>
    obtain ⟨hp, hps⟩ := List.forall_mem_cons.mp h
    simp only [listText, itemsOnto, Padded.onto, List.length_cons, List.length_append] at hfuel
    rw [itemsOnto, Padded.onto]
    refine (skipWith_bracket hp.form fuel p.before _).trans ?_
    exact skipItems_append hp hps .none p.after inside rest (by omega)

theorem skipMembers_quote (fuel : Nat) (b : Blanks) (cs : List Char) :
    skipMembers (fuel + 1) (b.1 ++ '"' :: cs) =
      match skipString (cs.length + 1) cs with
      | .error e => .error e
      | .ok rest =>
        match colon rest with
        | .error e => .error e
        | .ok rest =>
          match skipWith fuel rest with
          | .error e => .error e
          | .ok rest =>
            match skipBlanks rest with
            | [] => fail [] .endInObject
            | '\x7d' :: rest => .ok rest
            | ',' :: rest => skipMembers fuel rest
            | rest => failAt rest .expectedObjectComma := by
  rw [skipMembers, skipBlanks_append]
  rfl

theorem skipMembers_entry {e : Entry} (hkey : IsStringBody e.key) (h : Skips e.value.value)
    {fuel : Nat} (hfuel : 2 * e.value.value.length ≤ fuel) {rest : List Char} (hrest : Ends rest) :
    skipMembers (fuel + 1) (e.onto rest) =
      match skipBlanks rest with
      | [] => fail [] .endInObject
      | '\x7d' :: rest => .ok rest
      | ',' :: rest => skipMembers fuel rest
      | rest => failAt rest .expectedObjectComma := by
  have hlength (cs : List Char) : e.key.length < (e.key ++ '"' :: cs).length + 1 := by
    rw [List.length_append]
    omega
  rw [Entry.onto, skipMembers_quote, hkey.skipString_append (hlength _)]
  dsimp only
  rw [colon_append]
  dsimp only
  rw [Padded.onto, h.skips fuel e.value.before _ hfuel (ends_append e.value.after hrest)]
  dsimp only
  rw [skipBlanks_append]

theorem skipMembers_append {e : Entry} {es : List Entry} (hkeys : ∀ d ∈ e :: es, IsStringBody d.key)
    (hvalues : ∀ d ∈ e :: es, Skips d.value.value) (inside : Blanks) (rest : List Char) {fuel : Nat}
    (hfuel : 2 * (e.value.value.length + (entriesOnto false es (inside.1 ++ ['\x7d'])).length) ≤ fuel) :
    skipMembers fuel (e.onto (entriesOnto false es (inside.1 ++ '\x7d' :: rest))) = .ok rest := by
  induction es generalizing e fuel with
  | nil =>
    obtain ⟨hkey, -⟩ := List.forall_mem_cons.mp hkeys
    obtain ⟨hvalue, -⟩ := List.forall_mem_cons.mp hvalues
    simp only [entriesOnto, List.length_append, List.length_singleton] at hfuel
    obtain ⟨fuel, rfl⟩ : ∃ g, fuel = g + 1 := Nat.exists_eq_add_of_le' (by omega)
    rw [skipMembers_entry hkey hvalue (by omega) (ends_entriesOnto _ _ _), entriesOnto,
      skipBlanks_append]
    rfl
  | cons d ds ih =>
    obtain ⟨hkey, hkeys⟩ := List.forall_mem_cons.mp hkeys
    obtain ⟨hvalue, hvalues⟩ := List.forall_mem_cons.mp hvalues
    have hpos := hvalue.form.length_pos
    simp only [entriesOnto, Entry.onto, Padded.onto, List.length_append, List.length_cons] at hfuel
    obtain ⟨fuel, rfl⟩ : ∃ g, fuel = g + 1 := Nat.exists_eq_add_of_le' (by omega)
    rw [skipMembers_entry hkey hvalue (by omega) (ends_entriesOnto _ _ _)]
    exact ih hkeys hvalues (by omega)

theorem skipWith_object (fuel : Nat) (cs : List Char) : skipWith (fuel + 1) ('\x7b' :: cs) =
    match skipBlanks cs with
    | [] => fail [] .endInObject
    | '\x7d' :: rest => .ok rest
    | rest => skipMembers fuel rest := rfl

theorem skipWith_brace (fuel : Nat) (b : Blanks) (rest : List Char) :
    skipWith (fuel + 1) ('\x7b' :: (b.1 ++ '"' :: rest)) = skipMembers fuel ('"' :: rest) := by
  rewrite [skipWith_object, skipBlanks_append]
  rfl

theorem skips_object {entries : List Entry} (hkeys : ∀ e ∈ entries, IsStringBody e.key)
    (h : ∀ e ∈ entries, Skips e.value.value) (inside : Blanks) :
    Skips (objectText entries inside) := by
  refine .intro (.object hkeys fun e he => (h e he).form) fun fuel rest hfuel _ => ?_
  rw [objectText_append]
  cases entries with
  | nil =>
    rewrite [entriesOnto, skipWith_object, skipBlanks_append]
    rfl
  | cons e es =>
    simp only [objectText, entriesOnto, Entry.onto, Padded.onto, List.length_cons,
      List.length_append] at hfuel
    refine (skipWith_brace fuel e.before _).trans ?_
    exact @skipMembers_append ⟨.none, e.key, e.between, e.value⟩ es
      (List.forall_mem_cons.mpr (List.forall_mem_cons.mp hkeys))
      (List.forall_mem_cons.mpr (List.forall_mem_cons.mp h)) inside rest fuel
      (by dsimp only; omega)

end Forward

theorem IsValue.skips {text : List Char} (h : IsValue text) : Skips text := by
  induction h with
  | word hw => exact skips_word hw
  | number hnumber => exact skips_number hnumber
  | string hbody => exact skips_string hbody
  | list _ ih => exact skips_list ih _
  | object hkeys _ ih => exact skips_object hkeys ih _

theorem IsValue.skip_append {text : List Char} (h : IsValue text) (b : Blanks) {rest : List Char}
    (hrest : Ends rest) : skip (b.1 ++ (text ++ rest)) = .ok rest := by
  refine h.skips.skips _ b rest ?_ hrest
  simp only [fuelFor, List.length_append]
  omega

theorem IsValue.append_inj {text text' rest rest' : List Char} (h : IsValue text)
    (h' : IsValue text') (hrest : Ends rest) (hrest' : Ends rest') {b b' : Blanks}
    (heq : b.1 ++ (text ++ rest) = b'.1 ++ (text' ++ rest')) : text = text' ∧ rest = rest' := by
  have hskip := h.skip_append b hrest
  rw [heq, h'.skip_append b' hrest'] at hskip
  obtain rfl := Except.ok.inj hskip
  have htrim := congrArg skipBlanks heq
  rw [h.skipBlanks_append, h'.skipBlanks_append] at htrim
  exact ⟨List.append_cancel_right htrim, rfl⟩

theorem IsStringBody.append_inj {body body' rest rest' : List Char} (h : IsStringBody body)
    (h' : IsStringBody body') (heq : body ++ '"' :: rest = body' ++ '"' :: rest') :
    body = body' ∧ rest = rest' := by
  have hskip := h.skipString_append (Nat.lt_succ_of_le (Nat.le_max_left _ body'.length)) rest
  rw [heq, h'.skipString_append (Nat.lt_succ_of_le (Nat.le_max_right _ _))] at hskip
  obtain rfl := Except.ok.inj hskip
  exact ⟨List.append_cancel_right heq, rfl⟩

theorem itemsOnto_inj {items items' : List Padded} (h : ∀ p ∈ items, IsValue p.value)
    (h' : ∀ p ∈ items', IsValue p.value) {first : Bool} {b b' inside inside' : Blanks}
    {rest rest' : List Char} (heq : b.1 ++ itemsOnto first items (inside.1 ++ ']' :: rest) =
      b'.1 ++ itemsOnto first items' (inside'.1 ++ ']' :: rest')) :
    items.map Padded.value = items'.map Padded.value := by
  induction items generalizing items' first b b' with
  | nil =>
    have hnext := congrArg (nextItem first) heq
    cases items' with
    | nil => rfl
    | cons p' ps' =>
      rw [nextItem_itemsOnto (h' p' List.mem_cons_self), itemsOnto, nextItem_close] at hnext
      cases hnext
  | cons p ps ih =>
    obtain ⟨hp, hps⟩ := List.forall_mem_cons.mp h
    have hnext := congrArg (nextItem first) heq
    cases items' with
    | nil =>
      rw [nextItem_itemsOnto hp, itemsOnto, nextItem_close] at hnext
      cases hnext
    | cons p' ps' =>
      obtain ⟨hp', hps'⟩ := List.forall_mem_cons.mp h'
      rw [nextItem_itemsOnto hp, nextItem_itemsOnto hp'] at hnext
      obtain ⟨hvalue, hrest⟩ := @IsValue.append_inj _ _ _ _ hp hp'
        (ends_append p.after (ends_itemsOnto ps inside rest))
        (ends_append p'.after (ends_itemsOnto ps' inside' rest')) .none .none
        (Option.some.inj (Except.ok.inj hnext))
      rw [List.map_cons, List.map_cons, hvalue, ih hps hps' hrest]

theorem entriesOnto_inj {entries entries' : List Entry} (h : ∀ e ∈ entries, e.IsMember)
    (h' : ∀ e ∈ entries', e.IsMember) {first : Bool} {b b' inside inside' : Blanks}
    {rest rest' : List Char} (heq : b.1 ++ entriesOnto first entries (inside.1 ++ '\x7d' :: rest) =
      b'.1 ++ entriesOnto first entries' (inside'.1 ++ '\x7d' :: rest')) :
    entries.map Entry.bare = entries'.map Entry.bare := by
  induction entries generalizing entries' first b b' with
  | nil =>
    have hnext := congrArg (nextKey first) heq
    cases entries' with
    | nil => rfl
    | cons e' es' =>
      rw [nextKey_entriesOnto, entriesOnto, nextKey_close] at hnext
      cases hnext
  | cons e es ih =>
    have hnext := congrArg (nextKey first) heq
    cases entries' with
    | nil =>
      rw [nextKey_entriesOnto, entriesOnto, nextKey_close] at hnext
      cases hnext
    | cons e' es' =>
      obtain ⟨he, hes⟩ := List.forall_mem_cons.mp h
      obtain ⟨he', hes'⟩ := List.forall_mem_cons.mp h'
      rw [nextKey_entriesOnto, nextKey_entriesOnto] at hnext
      obtain ⟨hname, hbetween⟩ := he.key.append_inj he'.key (Option.some.inj (Except.ok.inj hnext))
      have hcolon := congrArg colon hbetween
      rw [colon_append, colon_append, Padded.onto, Padded.onto] at hcolon
      obtain ⟨hvalue, hrest⟩ := he.value.append_inj he'.value
        (ends_append e.value.after (ends_entriesOnto es inside rest))
        (ends_append e'.value.after (ends_entriesOnto es' inside' rest')) (Except.ok.inj hcolon)
      rw [List.map_cons, List.map_cons, ih hes hes' hrest, Entry.bare, Entry.bare, hname,
        hvalue]

structure SkipsTexts (fuel : Nat) : Prop where
  value : ∀ {cs rest : List Char}, skipWith fuel cs = .ok rest →
    ∃ (b : Blanks) (text : List Char), cs = b.1 ++ (text ++ rest) ∧ IsValue text
  items : ∀ {cs rest : List Char}, skipItems fuel cs = .ok rest →
    ∃ (p : Padded) (ps : List Padded) (inside : Blanks),
      cs = p.onto (itemsOnto false ps (inside.1 ++ ']' :: rest)) ∧ ∀ q ∈ p :: ps, IsValue q.value
  members : ∀ {cs rest : List Char}, skipMembers fuel cs = .ok rest →
    ∃ (e : Entry) (es : List Entry) (inside : Blanks),
      cs = e.onto (entriesOnto false es (inside.1 ++ '\x7d' :: rest)) ∧
      (∀ d ∈ e :: es, IsStringBody d.key) ∧ ∀ d ∈ e :: es, IsValue d.value.value

namespace SkipsTexts

variable {fuel : Nat} {cs rest : List Char}

theorem value_succ (h : SkipsTexts fuel) (hok : skipWith (fuel + 1) cs = .ok rest) :
    ∃ (b : Blanks) (text : List Char), cs = b.1 ++ (text ++ rest) ∧ IsValue text := by
  suffices ∃ text, skipBlanks cs = text ++ rest ∧ IsValue text by
    obtain ⟨text, htext, hv⟩ := this
    obtain ⟨b, rfl⟩ := exists_of_skipBlanks_eq htext
    exact ⟨b, text, rfl, hv⟩
  have hword {w : String} (hw : w ∈ ["null", "true", "false"]) {c : Char} {es after : List Char}
      (hlist : w.toList = c :: es) (heq : skipBlanks cs = c :: after) (hafter : word es after = .ok rest) :
      ∃ text, skipBlanks cs = text ++ rest ∧ IsValue text := by
    refine ⟨w.toList, ?_, .word hw⟩
    rw [heq, hlist, word_eq_ok hafter, List.cons_append]
  unfold skipWith at hok
  split at hok
  · cases hok
  · next heq => exact hword (w := "null") (by simp) rfl heq hok
  · next heq => exact hword (w := "true") (by simp) rfl heq hok
  · next heq => exact hword (w := "false") (by simp) rfl heq hok
  · next heq =>
    obtain ⟨text, htext, rfl⟩ := skipNumber_eq_ok true hok
    exact ⟨signed true text, heq, .number htext⟩
  · next heq =>
    obtain ⟨body, hbody, rfl⟩ := isStringBody_of_skipString hok
    exact ⟨'"' :: (body ++ ['"']), by rw [heq]; simp, .string hbody⟩
  · next after heq =>
    obtain ⟨inside, hafter⟩ := exists_skipBlanks after
    split at hok
    · cases hok
    · next hbracket =>
      cases hok
      refine ⟨listText [] inside, ?_, .list (List.forall_mem_nil _)⟩
      rw [heq, listText_append, itemsOnto, hafter, hbracket]
    · obtain ⟨p, ps, inside', hitems, hforms⟩ := h.items hok
      refine ⟨listText (⟨inside.append p.before, p.value, p.after⟩ :: ps) inside', ?_, .list ?_⟩
      · rw [heq, listText_append, hafter, hitems]
        simp [itemsOnto, Padded.onto, Blanks.append, comma]
      · exact List.forall_mem_cons.mpr (List.forall_mem_cons.mp hforms)
  · next after heq =>
    obtain ⟨inside, hafter⟩ := exists_skipBlanks after
    split at hok
    · cases hok
    · next hbrace =>
      cases hok
      refine ⟨objectText [] inside, ?_, .object (List.forall_mem_nil _) (List.forall_mem_nil _)⟩
      rw [heq, objectText_append, entriesOnto, hafter, hbrace]
    · obtain ⟨e, es, inside', hentries, hkeys, hforms⟩ := h.members hok
      refine ⟨objectText (⟨inside.append e.before, e.key, e.between, e.value⟩ :: es) inside', ?_,
        .object ?_ ?_⟩
      · rw [heq, objectText_append, hafter, hentries]
        simp [entriesOnto, Entry.onto, Blanks.append, comma]
      · exact List.forall_mem_cons.mpr (List.forall_mem_cons.mp hkeys)
      · exact List.forall_mem_cons.mpr (List.forall_mem_cons.mp hforms)
  · next heq =>
    split at hok
    · obtain ⟨text, htext, hcs⟩ := skipNumber_eq_ok false hok
      exact ⟨signed false text, heq.trans hcs, .number htext⟩
    · cases hok

theorem items_succ (h : SkipsTexts fuel) (hok : skipItems (fuel + 1) cs = .ok rest) :
    ∃ (p : Padded) (ps : List Padded) (inside : Blanks),
      cs = p.onto (itemsOnto false ps (inside.1 ++ ']' :: rest)) ∧
      ∀ q ∈ p :: ps, IsValue q.value := by
  unfold skipItems at hok
  split at hok
  · cases hok
  · next more hvalue =>
    obtain ⟨before, text, rfl, htext⟩ := h.value hvalue
    split at hok
    · cases hok
    · next hbracket =>
      cases hok
      obtain ⟨after, rfl⟩ := exists_of_skipBlanks_eq hbracket
      exact ⟨⟨before, text, .none⟩, [], after, rfl, List.forall_mem_singleton.mpr htext⟩
    · next hcomma =>
      obtain ⟨q, qs, inside, rfl, hforms⟩ := h.items hok
      obtain ⟨after, rfl⟩ := exists_of_skipBlanks_eq hcomma
      exact ⟨⟨before, text, after⟩, q :: qs, inside, rfl, List.forall_mem_cons.mpr ⟨htext, hforms⟩⟩
    · cases hok

theorem members_succ (h : SkipsTexts fuel) (hok : skipMembers (fuel + 1) cs = .ok rest) :
    ∃ (e : Entry) (es : List Entry) (inside : Blanks),
      cs = e.onto (entriesOnto false es (inside.1 ++ '\x7d' :: rest)) ∧
      (∀ d ∈ e :: es, IsStringBody d.key) ∧ ∀ d ∈ e :: es, IsValue d.value.value := by
  unfold skipMembers at hok
  split at hok
  · cases hok
  · next hquote =>
    obtain ⟨before, rfl⟩ := exists_of_skipBlanks_eq hquote
    split at hok
    · cases hok
    · next hstring =>
      obtain ⟨key, hkey, rfl⟩ := isStringBody_of_skipString hstring
      split at hok
      · cases hok
      · next hcolon =>
        obtain ⟨between, rfl⟩ := colon_eq_ok hcolon
        split at hok
        · cases hok
        · next more hvalue =>
          obtain ⟨before', text, rfl, htext⟩ := h.value hvalue
          split at hok
          · cases hok
          · next hbrace =>
            cases hok
            obtain ⟨after, rfl⟩ := exists_of_skipBlanks_eq hbrace
            exact ⟨⟨before, key, between, ⟨before', text, .none⟩⟩, [], after, rfl,
              List.forall_mem_singleton.mpr hkey, List.forall_mem_singleton.mpr htext⟩
          · next hcomma =>
            obtain ⟨d, ds, inside, rfl, hkeys, hforms⟩ := h.members hok
            obtain ⟨after, rfl⟩ := exists_of_skipBlanks_eq hcomma
            exact ⟨⟨before, key, between, ⟨before', text, after⟩⟩, d :: ds, inside, rfl,
              List.forall_mem_cons.mpr ⟨hkey, hkeys⟩, List.forall_mem_cons.mpr ⟨htext, hforms⟩⟩
          · cases hok
  · cases hok

end SkipsTexts

theorem skipsTexts (fuel : Nat) : SkipsTexts fuel := by
  induction fuel with
  | zero =>
    constructor
    · nofun
    · nofun
    · nofun
  | succ fuel ih =>
    constructor
    · exact ih.value_succ
    · exact ih.items_succ
    · exact ih.members_succ

theorem exists_of_skip {cs rest : List Char} (h : skip cs = .ok rest) :
    ∃ (b : Blanks) (text : List Char), cs = b.1 ++ (text ++ rest) ∧ IsValue text :=
  (skipsTexts _).value h

end Switchyard.Json
