import Mathlib.Tactic.SplitIfs
import Switchyard.Json.Coercion
import Switchyard.Proofs.Numeral

/-! Which strings have a numeric reading. Between padding there has to be nothing, a
decimal literal, infinity with or without a sign, or digits of a radix behind its letter.
Other spellings that readers of numbers know, such as words for infinity or a sign in front
of a radix, have none. -/

namespace Switchyard

namespace Binary64

def IsMagnitude (x : Binary64) : Prop := ∃ rank, x = .ranked false rank

theorem IsMagnitude.ne_nan {x : Binary64} (h : x.IsMagnitude) : x ≠ .nan := by
  obtain ⟨rank, rfl⟩ := h
  nofun

theorem isMagnitude_ofNat (n : Nat) : (ofNat n).IsMagnitude := ⟨_, rfl⟩

theorem IsMagnitude.mul {x y : Binary64} (hx : x.IsMagnitude) (hy : y.IsMagnitude)
    (hfinite : y.isFinite = true) (hzero : y.isZero = false) : (x.mul y).IsMagnitude := by
  obtain ⟨a, rfl⟩ := hx
  obtain ⟨b, rfl⟩ := hy
  have hb : b.val ≠ topRank := Nat.ne_of_lt (of_decide_eq_true hfinite)
  have hb0 : b.val ≠ 0 := beq_eq_false_iff_ne.mp hzero
  unfold Binary64.mul
  dsimp only
  split_ifs with htop hnull
  · have ha : a.val = topRank := htop.resolve_right hb
    have ha0 : a.val = 0 := hnull.resolve_right hb0
    rw [ha] at ha0
    exact absurd ha0 (by decide)
  · exact ⟨_, rfl⟩
  · exact ⟨_, rfl⟩

theorem IsMagnitude.add {x y : Binary64} (hx : x.IsMagnitude) (hy : y.IsMagnitude) :
    (x.add y).IsMagnitude := by
  obtain ⟨a, rfl⟩ := hx
  obtain ⟨b, rfl⟩ := hy
  have hsum : ¬ signedUnits false a.val + signedUnits false b.val < 0 := by
    have ha : signedUnits false a.val = (unitsOfRank a.val : Int) := rfl
    have hb : signedUnits false b.val = (unitsOfRank b.val : Int) := rfl
    omega
  unfold Binary64.add
  dsimp only
  split_ifs with htop hsigns
  · exact ⟨_, rfl⟩
  · exact absurd rfl hsigns
  · exact ⟨_, rfl⟩
  · exact ⟨_, rfl⟩
  · exact ⟨_, rfl⟩
  · exact ⟨_, congrArg (ranked · _) (decide_eq_false hsum)⟩

theorem ofDecimal_ne_nan (negative : Bool) (digits : Nat) (exponent : Int) :
    ofDecimal negative digits exponent ≠ .nan := by
  unfold ofDecimal
  split_ifs <;> nofun

end Binary64

namespace Numeral

open Binary64

def alphabet (radix : Nat) : List Char :=
  "0123456789".toList.take radix ++ "abcdef".toList.take (radix - 10) ++
    "ABCDEF".toList.take (radix - 10)

inductive Numeric : List Char → Prop
  | empty : Numeric []
  | infinity {negative : Bool} {sign : List Char} :
    SpellsSign negative sign → Numeric (sign ++ "Infinity".toList)
  | radix {radix : Nat} {letter : Char} {ds : List Char} : (radix, letter) ∈ radixLetters → ds ≠ [] →
    (∀ c ∈ ds, c ∈ alphabet radix) → Numeric ('0' :: letter :: ds)
  | decimal {p : Parts} {text : List Char} : p.Literal text → Numeric text

def inNumber (c : Char) : Bool := c.isAlphanum || ['+', '-', '.'].contains c

/-- Spellings that some readers of numbers accept: words for infinity and for no number, a
sign in front of a radix, and other characters than numbers have, such as separators of
digits or digits of other scripts. -/
inductive Foreign : List Char → Prop
  | word {negative : Bool} {sign word : List Char} : SpellsSign negative sign →
    word.map Char.toLower ∈ ["inf".toList, "infinity".toList, "nan".toList] →
      word ≠ "Infinity".toList → Foreign (sign ++ word)
  | signedRadix {negative : Bool} {sign : List Char} {radix : Nat} {letter : Char}
    {rest : List Char} : SpellsSign negative sign → sign ≠ [] → (radix, letter) ∈ radixLetters →
      Foreign (sign ++ '0' :: letter :: rest)
  | character {text : List Char} {c : Char} : c ∈ text → inNumber c = false → Foreign text

section Radix

variable {radix : Nat} {letter : Char} {ds : List Char}

theorem radix_mem_of_letter (h : (radix, letter) ∈ radixLetters) : radix ∈ [16, 8, 2] := by
  have hall : ∀ r ∈ radixLetters, r.1 ∈ [16, 8, 2] := by decide
  exact hall _ h

theorem toNat_lt_of_digit? {c : Char} (h : digit? radix c ≠ none) : c.toNat < 128 := by
  by_contra hlarge
  have hle {d : Char} (hd : d.toNat < 128) : ¬ c ≤ d := by
    intro hcd
    have hcd' : c.toNat ≤ d.toNat := hcd
    omega
  apply h
  unfold digit?
  dsimp only
  rw [if_neg fun hr => hle (by decide) hr.2, if_neg fun hr => hle (by decide) hr.2,
    if_neg fun hr => hle (by decide) hr.2]
  rfl

theorem digit?_ne_none_iff (h : radix ∈ [16, 8, 2]) (c : Char) :
    digit? radix c ≠ none ↔ c ∈ alphabet radix := by
  constructor
  · intro hsome
    have hascii : ∀ r ∈ [16, 8, 2], ∀ n < 128,
        digit? r (Char.ofNat n) ≠ none → Char.ofNat n ∈ alphabet r := by decide +kernel
    have hmem := hascii radix h c.toNat (toNat_lt_of_digit? hsome)
    rw [Char.ofNat_toNat] at hmem
    exact hmem hsome
  · intro hmem hnone
    have hdigits : ∀ r ∈ [16, 8, 2], (alphabet r).all (fun c => (digit? r c).isSome) = true := by
      decide
    have hsome := List.all_eq_true.mp (hdigits radix h) c hmem
    rw [hnone] at hsome
    cases hsome

theorem foldRadix_ne_nan_iff (hfinite : (ofNat radix).isFinite = true)
    (hzero : (ofNat radix).isZero = false) {start : Binary64} (hstart : start.IsMagnitude) :
    foldRadix radix start ds ≠ .nan ↔ ∀ c ∈ ds, digit? radix c ≠ none := by
  induction ds generalizing start with
  | nil => simpa [foldRadix] using hstart.ne_nan
  | cons c rest ih =>
    rw [foldRadix, List.forall_mem_cons]
    cases hdigit : digit? radix c with
    | none => simp
    | some d =>
      have hnext : ((start.mul (ofNat radix)).add (ofNat d)).IsMagnitude :=
        (hstart.mul (isMagnitude_ofNat radix) hfinite hzero).add (isMagnitude_ofNat d)
      simpa using ih hnext

theorem ofRadix_ne_nan_iff (h : radix ∈ [16, 8, 2]) :
    ofRadix radix ds ≠ .nan ↔ ds ≠ [] ∧ ∀ c ∈ ds, c ∈ alphabet radix := by
  have hradix : ∀ r ∈ [16, 8, 2], (ofNat r).isFinite = true ∧ (ofNat r).isZero = false := by
    decide +kernel
  obtain ⟨hfinite, hzero⟩ := hradix radix h
  have hstart : zero.IsMagnitude := ⟨0, rfl⟩
  unfold ofRadix
  split_ifs with hnil
  · simp [List.isEmpty_iff.mp hnil]
  · rw [foldRadix_ne_nan_iff hfinite hzero hstart]
    simp only [digit?_ne_none_iff h]
    exact (and_iff_right (by simpa using hnil)).symm

end Radix

variable {text : List Char}

theorem Numeric.ofTrimmed_ne_nan (h : Numeric text) : ofTrimmed text ≠ .nan := by
  cases h with
  | empty => decide
  | infinity hsign => cases hsign <;> decide
  | radix hradix hne hds =>
    rw [ofTrimmed_radix hradix]
    exact (ofRadix_ne_nan_iff (radix_mem_of_letter hradix)).mpr ⟨hne, hds⟩
  | decimal hliteral =>
    rw [hliteral.ofTrimmed_eq]
    exact ofDecimal_ne_nan _ _ _

theorem numeric_of_ofTrimmed (h : ofTrimmed text ≠ .nan) : Numeric text := by
  rcases ofTrimmed_cases text with rfl | ⟨radix, letter, ds, hradix, rfl⟩ | heq
  · exact .empty
  · rw [ofTrimmed_radix hradix, ofRadix_ne_nan_iff (radix_mem_of_letter hradix)] at h
    exact .radix hradix h.1 h.2
  · rw [heq] at h
    split_ifs at h with hpositive hnegative hcharacters
    · rcases hpositive with rfl | rfl
      · exact .infinity .absent
      · exact .infinity .plus
    · subst hnegative
      exact .infinity .minus
    · rw [double?_eq (List.all_eq_true.mp hcharacters)] at h
      cases hdecimal : decimal? text with
      | none =>
        rw [hdecimal] at h
        exact absurd rfl h
      | some x =>
        obtain ⟨p, hliteral, -⟩ := Parts.Literal.of_decimal? hdecimal
        exact .decimal hliteral
    · exact absurd rfl h

theorem ofTrimmed_ne_nan_iff : ofTrimmed text ≠ .nan ↔ Numeric text :=
  ⟨numeric_of_ofTrimmed, Numeric.ofTrimmed_ne_nan⟩

theorem inNumber_of_mem_alphabet {radix : Nat} (h : radix ∈ [16, 8, 2]) {c : Char}
    (hc : c ∈ alphabet radix) : inNumber c = true := by
  have hall : ∀ r ∈ [16, 8, 2], (alphabet r).all inNumber = true := by decide
  exact List.all_eq_true.mp (hall radix h) c hc

theorem inNumber_of_inLiteral {c : Char} (h : inLiteral c = true) : inNumber c = true := by
  rw [inLiteral, Bool.or_eq_true, List.contains_iff_mem] at h
  rcases h with hdigit | hother
  · rw [Digits.isDigit_eq] at hdigit
    rw [inNumber, Char.isAlphanum, hdigit, Bool.or_true, Bool.true_or]
  · have hall : ['+', '-', '.', 'e', 'E'].all inNumber = true := by decide
    exact List.all_eq_true.mp hall c hother

theorem Numeric.characters (h : Numeric text) : ∀ c ∈ text, inNumber c = true := by
  cases h with
  | empty => nofun
  | infinity hsign =>
    have hword : "Infinity".toList.all inNumber = true := by decide
    refine List.forall_mem_append.mpr ⟨?_, List.all_eq_true.mp hword⟩
    exact fun c hc => inNumber_of_inLiteral (hsign.characters c hc)
  | radix hradix _ hds =>
    have hletters : ∀ r ∈ radixLetters, inNumber r.2 = true := by decide
    refine List.forall_mem_cons.mpr ⟨by decide, List.forall_mem_cons.mpr ⟨hletters _ hradix, ?_⟩⟩
    exact fun c hc => inNumber_of_mem_alphabet (radix_mem_of_letter hradix) (hds c hc)
  | decimal hliteral => exact fun c hc => inNumber_of_inLiteral (hliteral.characters c hc)

theorem SpellsSign.eq_nil_of_zero {negative : Bool} {sign rest : List Char}
    (h : SpellsSign negative sign) (hzero : (sign ++ rest).head? = some '0') : sign = [] := by
  cases h with
  | absent => rfl
  | plus => exact absurd (Option.some.inj hzero) (by decide)
  | minus => exact absurd (Option.some.inj hzero) (by decide)

theorem Numeric.unsigned (h : Numeric text) :
    (splitSign text).2 = "Infinity".toList ∨ (∀ c ∈ text, inLiteral c = true) ∨
      text.head? = some '0' := by
  cases h with
  | empty => exact .inr (.inl nofun)
  | infinity hsign =>
    left
    cases hsign <;> rfl
  | radix => exact .inr (.inr rfl)
  | decimal hliteral => exact .inr (.inl hliteral.characters)

theorem Foreign.not_numeric (h : Foreign text) : ¬ Numeric text := by
  intro hnumeric
  cases h with
  | @word negative sign word hsign hword hne =>
    have hn : 'n' ∈ word.map Char.toLower := by
      have hall : ∀ w ∈ ["inf".toList, "infinity".toList, "nan".toList], 'n' ∈ w := by decide
      exact hall _ hword
    have hhead : ∀ c ∈ word.head?, c ∉ ['+', '-', '0'] := by
      intro c hc hmem
      obtain ⟨rest, rfl⟩ := List.head?_eq_some_iff.mp hc
      have hall : ∀ w ∈ ["inf".toList, "infinity".toList, "nan".toList],
          ['+', '-', '0'].all (fun d => w.head? != some d.toLower) = true := by decide
      have hne := List.all_eq_true.mp (hall _ hword) c hmem
      exact absurd rfl (bne_iff_ne.mp hne)
    have hsplit : splitSign (sign ++ word) = (negative, word) := by
      refine hsign.splitSign_append fun c hc => ⟨?_, ?_⟩
      · rintro rfl
        exact hhead _ hc (by decide)
      · rintro rfl
        exact hhead _ hc (by decide)
    rcases hnumeric.unsigned with hinfinity | hcharacters | hzero
    · rw [hsplit] at hinfinity
      exact hne hinfinity
    · obtain ⟨c, hc, hlower⟩ := List.mem_map.mp hn
      exact toLower_ne_of_inLiteral (hcharacters c (List.mem_append_right _ hc)) hlower
    · obtain rfl := hsign.eq_nil_of_zero hzero
      exact hhead '0' hzero (by decide)
  | @signedRadix negative sign radix letter rest hsign hne hradix =>
    have hletter : inLiteral letter = false := by
      have hall : ∀ r ∈ radixLetters, inLiteral r.2 = false := by decide
      exact hall _ hradix
    rcases hnumeric.unsigned with hinfinity | hcharacters | hzero
    · rw [hsign.splitSign_append (by simp)] at hinfinity
      exact absurd (List.cons.inj hinfinity).1 (by decide)
    · rw [hcharacters letter (by simp)] at hletter
      cases hletter
    · exact hne (hsign.eq_nil_of_zero hzero)
  | @character _ c hmem hother =>
    rw [hnumeric.characters c hmem] at hother
    cases hother

structure Trims (s : String) (text : List Char) : Prop where
  around : ∃ before after, s.toList = before ++ text ++ after ∧
    ∀ c ∈ before ++ after, isPadding c = true
  head : ∀ c ∈ text.head?, isPadding c = false
  last : ∀ c ∈ text.getLast?, isPadding c = false

theorem trims_iff {s : String} : Trims s text ↔ text = Text.trimWhere isPadding s.toList := by
  constructor
  · rintro ⟨⟨before, after, hs, hpadding⟩, hhead, hlast⟩
    obtain ⟨hbefore, hafter⟩ := List.forall_mem_append.mp hpadding
    rw [hs, Text.trimWhere_append hbefore hafter hhead hlast]
  · rintro rfl
    obtain ⟨before, after, hs, hbefore, hafter⟩ := Text.exists_eq_trimWhere isPadding s.toList
    exact ⟨⟨before, after, hs, List.forall_mem_append.mpr ⟨hbefore, hafter⟩⟩,
      fun c => Text.head?_trimWhere, fun c => Text.getLast?_trimWhere⟩

end Numeral

open Numeral

/-- A string has a numeric reading exactly if a number is left of it when it is trimmed,
and thus no spelling counts that only other readers of numbers know. -/
theorem Json.toBinary64_str_ne_nan_iff (s : String) :
    ((Json.str s).toBinary64 ≠ .nan ↔ ∃ text, Trims s text ∧ Numeric text) ∧
      ∀ text, Trims s text → Foreign text → (Json.str s).toBinary64 = .nan := by
  have hiff : (Json.str s).toBinary64 ≠ .nan ↔ Numeric (Text.trimWhere isPadding s.toList) :=
    ofTrimmed_ne_nan_iff
  constructor
  · rw [hiff]
    simp only [trims_iff, exists_eq_left]
  · intro text htext hforeign
    rw [trims_iff] at htext
    rw [htext] at hforeign
    by_contra hnumber
    exact hforeign.not_numeric (hiff.mp hnumber)

theorem Json.toBinary64_str_of_spellings :
    (Json.str "\u2003+.5E-7\uFEFF").toBinary64 ≠ .nan ∧ (Json.str "\n-infinity").toBinary64 = .nan := by
  let p : Parts := ⟨false, [], ['5'], -7⟩
  have hexponent : SpellsExponent p.exponent ['E', '-', '7'] :=
    .present (.inr rfl) .minus (List.cons_ne_nil _ _) (by decide : Digits.All ['7'])
  have hfraction : Digits.All p.fraction := by decide
  have hwhole : Digits.All p.whole := by decide
  have hne : p.whole ++ p.fraction ≠ [] := by decide
  have hliteral : p.Literal "+.5E-7".toList := .intro .plus hwhole (.point hfraction hexponent) hne
  have hforeign : Foreign "-infinity".toList := .word .minus (by decide) (by decide)
  have htrims : Trims "\u2003+.5E-7\uFEFF" "+.5E-7".toList := trims_iff.mpr (by decide)
  have htrims' : Trims "\n-infinity" "-infinity".toList := trims_iff.mpr (by decide)
  constructor
  · exact (toBinary64_str_ne_nan_iff _).1.mpr ⟨_, htrims, .decimal hliteral⟩
  · exact (toBinary64_str_ne_nan_iff _).2 _ htrims' hforeign

end Switchyard
