import Switchyard.Numeral
import Switchyard.Proofs.Json.Literal
import Switchyard.Proofs.Trimming

/-! Decimal literals by their parts, and that a string which spells one stands for
the double nearest to its value. -/

namespace Switchyard

open Binary64 Digits

namespace Numeral

inductive SpellsSign : Bool → List Char → Prop
  | absent : SpellsSign false []
  | plus : SpellsSign false ['+']
  | minus : SpellsSign true ['-']

def withMinus (negative : Bool) (n : Nat) : Int := if negative then -n else n

inductive SpellsExponent : Int → List Char → Prop
  | absent : SpellsExponent 0 []
  | present {letter : Char} {negative : Bool} {sign ds : List Char} :
    letter = 'e' ∨ letter = 'E' → SpellsSign negative sign → ds ≠ [] → All ds →
    SpellsExponent (withMinus negative (value ds)) (letter :: (sign ++ ds))

inductive SpellsAfter : List Char → Int → List Char → Prop
  | whole {exponent : Int} {tail : List Char} :
    SpellsExponent exponent tail → SpellsAfter [] exponent tail
  | fraction {exponent : Int} {fs tail : List Char} : fs ≠ [] → All fs →
    SpellsExponent exponent tail → SpellsAfter fs exponent ('.' :: (fs ++ tail))

/-- The fraction and the exponent where a point needs no digits behind it. -/
inductive SpellsPlaces : List Char → Int → List Char → Prop
  | whole {exponent : Int} {tail : List Char} :
    SpellsExponent exponent tail → SpellsPlaces [] exponent tail
  | point {exponent : Int} {fs tail : List Char} : All fs →
    SpellsExponent exponent tail → SpellsPlaces fs exponent ('.' :: (fs ++ tail))

structure Parts where
  negative : Bool
  whole : List Char
  fraction : List Char
  exponent : Int

namespace Parts

variable (p : Parts)

/-- The literals with these parts: either sign or none, digits with a point anywhere
among them or none, and an exponent or none. -/
inductive Literal : List Char → Prop
  | intro {sign after : List Char} : SpellsSign p.negative sign → All p.whole →
    SpellsPlaces p.fraction p.exponent after → p.whole ++ p.fraction ≠ [] →
      Literal (sign ++ (p.whole ++ after))

/-- The literals with these parts in a document: no plus, and digits on both sides of a
point. -/
inductive Spells : List Char → Prop
  | intro {after : List Char} : p.whole ≠ [] → All p.whole →
    SpellsAfter p.fraction p.exponent after → Spells (signed p.negative (p.whole ++ after))

def digits : Nat := value (p.whole ++ p.fraction)

def power : Int := p.exponent - p.fraction.length

def nearest : Binary64 := ofDecimal p.negative p.digits p.power

end Parts

theorem SpellsSign.splitSign_append {negative : Bool} {sign rest : List Char}
    (h : SpellsSign negative sign) (hrest : ∀ c ∈ rest.head?, c ≠ '+' ∧ c ≠ '-') :
    splitSign (sign ++ rest) = (negative, rest) := by
  cases h with
  | plus => rfl
  | minus => rfl
  | absent =>
    cases rest with
    | nil => rfl
    | cons c cs =>
      obtain ⟨hplus, hminus⟩ := hrest c rfl
      simp [splitSign, hplus, hminus]

theorem exists_splitSign (cs : List Char) :
    ∃ sign, SpellsSign (splitSign cs).1 sign ∧ cs = sign ++ (splitSign cs).2 := by
  unfold splitSign
  split
  · exact ⟨_, .minus, rfl⟩
  · exact ⟨_, .plus, rfl⟩
  · exact ⟨_, .absent, rfl⟩

theorem no_sign_of_isDigit {c : Char} (hc : isDigit c = true) : c ≠ '+' ∧ c ≠ '-' :=
  ⟨ne_of_isDigit hc (by decide), ne_of_isDigit hc (by decide)⟩

theorem no_sign_head {ds rest : List Char} (hne : ds ≠ []) (hds : All ds) :
    ∀ c ∈ (ds ++ rest).head?, c ≠ '+' ∧ c ≠ '-' := by
  obtain ⟨d, ds, rfl⟩ := List.exists_cons_of_ne_nil hne
  intro c hc
  obtain rfl : d = c := Option.some.inj hc
  exact no_sign_of_isDigit hds.head

theorem spellsSign_signed (negative : Bool) (ds : List Char) :
    ∃ sign, SpellsSign negative sign ∧ signed negative ds = sign ++ ds := by
  cases negative with
  | false => exact ⟨[], .absent, rfl⟩
  | true => exact ⟨['-'], .minus, rfl⟩

theorem SpellsExponent.exponent?_eq {e : Int} {tail : List Char} (h : SpellsExponent e tail) :
    exponent? tail = some e := by
  cases h with
  | absent => rfl
  | @present letter negative sign ds hletter hsign hne hds =>
    have hsplit : splitSign (sign ++ ds) = (negative, ds) := by
      rw [← List.append_nil ds]
      exact hsign.splitSign_append (no_sign_head hne hds)
    have hall : (ds.isEmpty || !ds.all isDigit) = false := by
      rw [List.all_eq_true.mpr hds, List.isEmpty_eq_false_iff.mpr hne]
      rfl
    unfold exponent?
    dsimp only
    rw [if_pos hletter, hsplit]
    dsimp only
    rw [hall]
    rfl

theorem SpellsExponent.of_exponent? {e : Int} {tail : List Char} (h : exponent? tail = some e) :
    SpellsExponent e tail := by
  cases tail with
  | nil =>
    cases h
    exact .absent
  | cons letter cs =>
    obtain ⟨sign, hsign, hcs⟩ := exists_splitSign cs
    unfold exponent? at h
    dsimp only at h
    split at h
    · next hletter =>
      split at h
      · cases h
      · next hdigits =>
        simp only [Bool.or_eq_true, Bool.not_eq_true', not_or, List.isEmpty_iff,
          Bool.not_eq_false, List.all_eq_true] at hdigits
        have hspelled := SpellsExponent.present hletter hsign hdigits.1 hdigits.2
        rw [← hcs] at hspelled
        obtain rfl := Option.some.inj h
        exact hspelled
    · cases h

theorem SpellsExponent.startsWithDigit {e : Int} {tail : List Char} (h : SpellsExponent e tail) :
    Json.Reader.startsWithDigit tail = false := by
  rcases h with _ | ⟨rfl | rfl, -, -, -⟩ <;> rfl

theorem SpellsPlaces.startsWithDigit {fs after : List Char} {e : Int}
    (h : SpellsPlaces fs e after) : Json.Reader.startsWithDigit after = false := by
  cases h with
  | whole htail => exact htail.startsWithDigit
  | point => rfl

theorem SpellsAfter.places {fs after : List Char} {e : Int} (h : SpellsAfter fs e after) :
    SpellsPlaces fs e after := by
  cases h with
  | whole htail => exact .whole htail
  | fraction _ hfs htail => exact .point hfs htail

theorem takeWhile_digits {ds rest : List Char} (hds : All ds)
    (hrest : Json.Reader.startsWithDigit rest = false) : (ds ++ rest).takeWhile isDigit = ds := by
  have hsplit := List.takeWhile_append_dropWhile (p := isDigit) (l := ds ++ rest)
  rw [show (ds ++ rest).dropWhile isDigit = rest from Json.Reader.skipDigits_append hds hrest] at hsplit
  exact List.append_cancel_right hsplit

theorem spellsPlaces_iff {fs after : List Char} {e : Int} :
    SpellsPlaces fs e after ↔
      fs = (splitFraction after).1 ∧ SpellsExponent e (splitFraction after).2 := by
  constructor
  · intro h
    cases h with
    | whole htail =>
      have hsplit : splitFraction after = ([], after) := by
        rcases htail with _ | ⟨rfl | rfl, -, -, -⟩ <;> rfl
      rw [hsplit]
      exact ⟨rfl, htail⟩
    | @point _ _ tail hfs htail =>
      have hdrop : (fs ++ tail).dropWhile isDigit = tail :=
        Json.Reader.skipDigits_append hfs htail.startsWithDigit
      rw [splitFraction, takeWhile_digits hfs htail.startsWithDigit, hdrop]
      exact ⟨rfl, htail⟩
  · rintro ⟨rfl, h⟩
    unfold splitFraction at h ⊢
    split at h
    · next cs =>
      obtain ⟨fs, tail, rfl, hfs, htail⟩ := Json.Reader.exists_digits cs
      have hdrop : (fs ++ tail).dropWhile isDigit = tail := Json.Reader.skipDigits_append hfs htail
      rw [hdrop] at h
      rw [takeWhile_digits hfs htail]
      exact .point hfs h
    · exact .whole h

theorem digits_append_inj {ds ds' rest rest' : List Char} (hds : All ds) (hds' : All ds')
    (hrest : Json.Reader.startsWithDigit rest = false)
    (hrest' : Json.Reader.startsWithDigit rest' = false) (h : ds ++ rest = ds' ++ rest') :
    ds = ds' ∧ rest = rest' := by
  obtain rfl : ds = ds' := by rw [← takeWhile_digits hds hrest, h, takeWhile_digits hds' hrest']
  exact ⟨rfl, List.append_cancel_left h⟩

theorem inLiteral_of_all {ds : List Char} (hds : All ds) : ∀ c ∈ ds, inLiteral c = true := by
  intro c hc
  rw [inLiteral, hds c hc, Bool.true_or]

theorem SpellsSign.characters {negative : Bool} {sign : List Char} (h : SpellsSign negative sign) :
    ∀ c ∈ sign, inLiteral c = true := by
  cases h with
  | absent => nofun
  | plus => exact List.forall_mem_singleton.mpr (by decide)
  | minus => exact List.forall_mem_singleton.mpr (by decide)

theorem SpellsExponent.characters {e : Int} {tail : List Char} (h : SpellsExponent e tail) :
    ∀ c ∈ tail, inLiteral c = true := by
  cases h with
  | absent => nofun
  | present hletter hsign _ hds =>
    refine List.forall_mem_cons.mpr ⟨?_, List.forall_mem_append.mpr ⟨?_, inLiteral_of_all hds⟩⟩
    · rcases hletter with rfl | rfl <;> decide
    · exact hsign.characters

theorem SpellsPlaces.characters {fs after : List Char} {e : Int} (h : SpellsPlaces fs e after) :
    ∀ c ∈ after, inLiteral c = true := by
  cases h with
  | whole htail => exact htail.characters
  | point hfs htail =>
    refine List.forall_mem_cons.mpr ⟨by decide, ?_⟩
    exact List.forall_mem_append.mpr ⟨inLiteral_of_all hfs, htail.characters⟩

theorem toLower_ne_of_inLiteral {c : Char} (h : inLiteral c = true) : c.toLower ≠ 'n' := by
  rw [inLiteral, Bool.or_eq_true, List.contains_iff_mem] at h
  rcases h with hdigit | hother
  · have hrange := toNat_of_isDigit hdigit
    have hlower : c.toLower = c := by
      unfold Char.toLower
      rw [dif_neg]
      rintro ⟨hge, -⟩
      have hge' : 65 ≤ c.toNat := hge
      omega
    rw [hlower]
    exact ne_of_isDigit hdigit (by decide)
  · simp only [List.mem_cons, List.not_mem_nil, or_false] at hother
    rcases hother with rfl | rfl | rfl | rfl | rfl <;> decide

/-- There is an `n` in every word. -/
theorem word?_eq_none {text : List Char} (h : ∀ c ∈ text, inLiteral c = true) :
    word? text = none := by
  have hno {word : List Char} (hn : 'n' ∈ word) : text.map Char.toLower ≠ word := by
    rintro rfl
    obtain ⟨c, hc, hlower⟩ := List.mem_map.mp hn
    exact toLower_ne_of_inLiteral (h c hc) hlower
  unfold word?
  dsimp only
  rw [if_neg (not_or.mpr ⟨hno (by decide), hno (by decide)⟩), if_neg (hno (by decide))]

theorem double?_eq {text : List Char} (h : ∀ c ∈ text, inLiteral c = true) :
    double? text = decimal? text := by
  obtain ⟨sign, -, htext⟩ := exists_splitSign text
  have hword : word? (splitSign text).2 = none := by
    refine word?_eq_none fun c hc => h c ?_
    rw [htext]
    exact List.mem_append_right _ hc
  unfold double?
  dsimp only
  rw [hword, Option.map_none, Option.or_none]

def radixLetters : List (Nat × Char) :=
  [(16, 'x'), (16, 'X'), (8, 'o'), (8, 'O'), (2, 'b'), (2, 'B')]

theorem ofTrimmed_radix {radix : Nat} {letter : Char} {ds : List Char}
    (h : (radix, letter) ∈ radixLetters) :
    ofTrimmed ('0' :: letter :: ds) = ofRadix radix ds := by
  simp only [radixLetters, List.mem_cons, Prod.mk.injEq, List.not_mem_nil, or_false] at h
  rcases h with ⟨rfl, rfl⟩ | ⟨rfl, rfl⟩ | ⟨rfl, rfl⟩ | ⟨rfl, rfl⟩ | ⟨rfl, rfl⟩ | ⟨rfl, rfl⟩ <;> rfl

theorem ofTrimmed_cases (text : List Char) :
    text = [] ∨ (∃ radix letter ds, (radix, letter) ∈ radixLetters ∧ text = '0' :: letter :: ds) ∨
      ofTrimmed text =
        if text = "Infinity".toList ∨ text = "+Infinity".toList then .infinity
        else if text = "-Infinity".toList then .neg .infinity
        else if text.all inLiteral then (double? text).getD .nan
        else .nan := by
  unfold ofTrimmed
  split
  · exact .inl rfl
  · exact .inr (.inl ⟨16, 'x', _, by decide, rfl⟩)
  · exact .inr (.inl ⟨16, 'X', _, by decide, rfl⟩)
  · exact .inr (.inl ⟨8, 'o', _, by decide, rfl⟩)
  · exact .inr (.inl ⟨8, 'O', _, by decide, rfl⟩)
  · exact .inr (.inl ⟨2, 'b', _, by decide, rfl⟩)
  · exact .inr (.inl ⟨2, 'B', _, by decide, rfl⟩)
  · exact .inr (.inr rfl)

theorem ofTrimmed_of_inLiteral {text : List Char} (hne : text ≠ [])
    (h : ∀ c ∈ text, inLiteral c = true) : ofTrimmed text = (decimal? text).getD .nan := by
  have hno {c : Char} (hc : inLiteral c = false) : c ∉ text := fun hmem =>
    Bool.noConfusion (hc.symm.trans (h c hmem))
  have hword {word : List Char} (hI : 'I' ∈ word) : text ≠ word := by
    rintro rfl
    exact hno (by decide) hI
  rcases ofTrimmed_cases text with hnil | ⟨radix, letter, ds, hradix, htext⟩ | heq
  · exact absurd hnil hne
  · have hletters : ∀ r ∈ radixLetters, inLiteral r.2 = false := by decide
    have hmem : letter ∈ text := by
      rw [htext]
      exact List.mem_cons_of_mem _ List.mem_cons_self
    exact absurd hmem (hno (hletters _ hradix))
  · rw [heq, if_neg (not_or.mpr ⟨hword (by decide), hword (by decide)⟩), if_neg (hword (by decide)),
      if_pos (List.all_eq_true.mpr h), double?_eq h]

namespace Parts

variable {p : Parts} {text : List Char}

theorem Literal.split (h : p.Literal text) :
    ∃ after, splitSign text = (p.negative, p.whole ++ after) ∧ All p.whole ∧
      SpellsPlaces p.fraction p.exponent after ∧ p.whole ++ p.fraction ≠ [] := by
  obtain ⟨negative, whole, fraction, e⟩ := p
  obtain @⟨sign, after, hsign, hwhole, hafter, hne⟩ := h
  dsimp only at hsign hwhole hafter hne ⊢
  refine ⟨after, hsign.splitSign_append ?_, hwhole, hafter, hne⟩
  cases whole with
  | cons d ds => exact no_sign_head (List.cons_ne_nil d ds) hwhole
  | nil =>
    cases hafter with
    | whole => exact absurd rfl hne
    | point =>
      intro c hc
      obtain rfl : '.' = c := Option.some.inj hc
      decide

theorem Literal.decimal?_eq (h : p.Literal text) : decimal? text = some p.nearest := by
  obtain ⟨after, hsplit, hwhole, hafter, hne⟩ := h.split
  have hdigits : (p.whole.isEmpty && p.fraction.isEmpty) = false := by
    rw [Bool.eq_false_iff]
    simpa using hne
  have hskip : (p.whole ++ after).dropWhile isDigit = after :=
    Json.Reader.skipDigits_append hwhole hafter.startsWithDigit
  obtain ⟨hfraction, hexponent⟩ := spellsPlaces_iff.mp hafter
  unfold decimal?
  rw [hsplit]
  dsimp only
  rw [takeWhile_digits hwhole hafter.startsWithDigit, hskip, ← hfraction, hdigits,
    if_neg Bool.false_ne_true, hexponent.exponent?_eq]
  rfl

theorem Literal.unique {q : Parts} (hp : p.Literal text) (hq : q.Literal text) : p = q := by
  obtain ⟨negative, whole, fraction, e⟩ := p
  obtain ⟨negative', whole', fraction', e'⟩ := q
  obtain ⟨after, hsplit, hwhole, hafter, -⟩ := hp.split
  obtain ⟨after', hsplit', hwhole', hafter', -⟩ := hq.split
  obtain ⟨rfl, htext⟩ := Prod.mk.inj (hsplit.symm.trans hsplit')
  obtain ⟨rfl, rfl⟩ := digits_append_inj hwhole hwhole' hafter.startsWithDigit
    hafter'.startsWithDigit htext
  obtain ⟨rfl, hexponent⟩ := spellsPlaces_iff.mp hafter
  obtain ⟨rfl, hexponent'⟩ := spellsPlaces_iff.mp hafter'
  have heq : some e = some e' := hexponent.exponent?_eq.symm.trans hexponent'.exponent?_eq
  obtain rfl := Option.some.inj heq
  rfl

theorem Literal.of_decimal? {x : Binary64} (h : decimal? text = some x) :
    ∃ p : Parts, p.Literal text ∧ x = p.nearest := by
  obtain ⟨sign, hsign, htext⟩ := exists_splitSign text
  obtain ⟨ds, after, hrest, hds, hafter⟩ := Json.Reader.exists_digits (splitSign text).2
  have hskip : (ds ++ after).dropWhile isDigit = after := Json.Reader.skipDigits_append hds hafter
  unfold decimal? at h
  dsimp only at h
  rw [hrest, takeWhile_digits hds hafter, hskip] at h
  split at h
  · cases h
  · next hdigits =>
    obtain ⟨e, he, hx⟩ := Option.map_eq_some_iff.mp h
    have hne : ds ++ (splitFraction after).1 ≠ [] := by
      simpa using hdigits
    have hplaces := spellsPlaces_iff.mpr ⟨rfl, SpellsExponent.of_exponent? he⟩
    let p : Parts := ⟨(splitSign text).1, ds, (splitFraction after).1, e⟩
    have hliteral : p.Literal (sign ++ (ds ++ after)) := .intro hsign hds hplaces hne
    rw [← hrest, ← htext] at hliteral
    exact ⟨p, hliteral, hx.symm⟩

theorem Literal.characters (h : p.Literal text) : ∀ c ∈ text, inLiteral c = true := by
  obtain ⟨hsign, hwhole, hafter, -⟩ := h
  refine List.forall_mem_append.mpr ⟨hsign.characters, ?_⟩
  exact List.forall_mem_append.mpr ⟨inLiteral_of_all hwhole, hafter.characters⟩

theorem Literal.ne_nil (h : p.Literal text) : text ≠ [] := by
  obtain @⟨sign, after, -, -, hafter, hne⟩ := h
  intro hnil
  obtain ⟨-, hrest⟩ := List.append_eq_nil_iff.mp hnil
  obtain ⟨hwhole, rfl⟩ := List.append_eq_nil_iff.mp hrest
  obtain ⟨hfraction, -⟩ := spellsPlaces_iff.mp hafter
  rw [hwhole, hfraction] at hne
  exact hne rfl

theorem Spells.literal (h : p.Spells text) : p.Literal text := by
  obtain @⟨after, hne, hwhole, hafter⟩ := h
  obtain ⟨sign, hsign, htext⟩ := spellsSign_signed p.negative (p.whole ++ after)
  rw [htext]
  exact .intro hsign hwhole hafter.places (List.append_ne_nil_of_left_ne_nil hne _)

theorem Literal.ofTrimmed_eq (h : p.Literal text) : ofTrimmed text = p.nearest := by
  rw [ofTrimmed_of_inLiteral h.ne_nil h.characters, h.decimal?_eq]
  rfl

theorem isPadding_of_inLiteral {c : Char} (h : inLiteral c = true) : isPadding c = false := by
  rw [inLiteral, Bool.or_eq_true, List.contains_iff_mem] at h
  rcases h with hdigit | hother
  · have hmark : (c == '\uFEFF') = false := beq_eq_false_iff_ne.mpr (ne_of_isDigit hdigit (by decide))
    rw [isPadding, hmark, Bool.or_false, Text.isBlank_of_isDigit hdigit]
  · simp only [List.mem_cons, List.not_mem_nil, or_false] at hother
    rcases hother with rfl | rfl | rfl | rfl | rfl <;> decide

end Parts

theorem isPadding_of_isBlank {c : Char} (h : Json.Reader.isBlank c = true) :
    isPadding c = true := by
  simp only [Json.Reader.isBlank, Bool.or_eq_true, beq_iff_eq] at h
  rcases h with ((rfl | rfl) | rfl) | rfl <;> decide

namespace Parts

def SpellsText (p : Parts) (text : String) : Prop :=
  ∃ before literal after, text.toList = before ++ literal ++ after ∧ p.Spells literal ∧
    ∀ c ∈ before ++ after, Json.Reader.isBlank c = true

variable {p q : Parts} {text : String}

theorem SpellsText.spells_trimmed (h : p.SpellsText text) :
    p.Spells (Text.trimWhere isPadding text.toList) := by
  obtain ⟨before, literal, after, htext, hp, hblank⟩ := h
  obtain ⟨hbefore, hafter⟩ := List.forall_mem_append.mp hblank
  have hclean : ∀ c ∈ literal, isPadding c = false := fun c hc =>
    isPadding_of_inLiteral (hp.literal.characters c hc)
  rw [htext, Text.trimWhere_append (fun c hc => isPadding_of_isBlank (hbefore c hc))
    (fun c hc => isPadding_of_isBlank (hafter c hc)) (fun c hc => hclean c (List.mem_of_head? hc))
    fun c hc => hclean c (List.mem_of_getLast? hc)]
  exact hp

theorem SpellsText.unique (hp : p.SpellsText text) (hq : q.SpellsText text) : p = q :=
  hp.spells_trimmed.literal.unique hq.spells_trimmed.literal

theorem SpellsText.ofString_eq (h : p.SpellsText text) : ofString text = p.nearest := by
  rw [ofString, h.spells_trimmed.literal.ofTrimmed_eq]

end Parts

end Numeral

end Switchyard
