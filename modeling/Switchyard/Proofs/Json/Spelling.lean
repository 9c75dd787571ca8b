import Mathlib.Data.List.TakeWhile
import Switchyard.Proofs.Json.Reading
import Switchyard.Proofs.Json.RoundTrip
import Switchyard.Proofs.Numeral
import Switchyard.Proofs.Scaling

/-! The parts of a number literal, and the double that the reader makes of them. Of
the digits it keeps those that fit 64 bits, and scales them by a power of ten. -/

namespace Switchyard

open Binary64 Digits

namespace Json.Reader

open Numeral

/-- The digits that are kept, as a number, and the power of ten that they stand for:
gathering stops where 64 bits do not suffice, and goes on after the point. -/
def kept (whole fraction : List Char) : Nat × Int :=
  let (first, passed) := gather 0 whole
  let (significand, ignored) := gather first fraction
  (significand, passed.length - (fraction.length - ignored.length))

def scaled (negative : Bool) (significand : Nat) (start exponent : Int) : Binary64 :=
  withSign negative
    (if exponent ≤ -exponentLimit then .zero else scale significand (start + exponent))

theorem scaled_of_lt {negative : Bool} {significand : Nat} {start exponent : Int}
    (h : -exponentLimit < exponent) : scaled negative significand start exponent =
      withSign negative (scale significand (start + exponent)) := by
  rw [scaled, if_neg (Int.not_le.mpr h)]

theorem scaled_of_le {negative : Bool} {significand : Nat} {start exponent : Int}
    (h : significand = 0 ∨ exponent ≤ -exponentLimit) :
    scaled negative significand start exponent = withSign negative .zero := by
  unfold scaled
  rcases h with rfl | h
  · rw [scale_zero, ite_self]
  · rw [if_pos h]

theorem isNegative_scaled {negative : Bool} {significand : Nat} {start exponent : Int}
    (h : (scaled negative significand start exponent).isNaN = false) :
    (scaled negative significand start exponent).isNegative = negative := by
  refine isNegative_withSign ?_ h
  split
  · rfl
  · exact isNegative_scale _ _

end Json.Reader

def Numeral.Parts.converted (p : Numeral.Parts) : Binary64 :=
  let (significand, start) := Json.Reader.kept p.whole p.fraction
  Json.Reader.scaled p.negative significand start p.exponent

theorem Number.toBinary64_of_ofBinary64? {x : Binary64} {n : Number}
    (h : ofBinary64? x = some n) : n.toBinary64 = x := by
  unfold ofBinary64? at h
  split at h
  · cases h
    rfl
  · cases h

theorem Number.toBinary64_of_ofInt? {i : Int} {n : Number} (h : ofInt? i = some n) :
    n.toBinary64 = .ofInt i := by
  unfold ofInt? at h
  split at h
  · cases h
    rfl
  · cases h

namespace Json.Reader

open Numeral

section Stages

variable {negative : Bool} {significand : Nat} {start : Int} {cs rest : List Char} {n : Number}

theorem gather_lt {ds : List Char} (hds : significand < 0x10000000000000000) :
    (gather significand ds).1 < 0x10000000000000000 := by
  induction ds generalizing significand with
  | nil => exact hds
  | cons c cs ih =>
    unfold gather
    dsimp only
    split
    · next h =>
      simp only [Bool.and_eq_true, decide_eq_true_eq] at h
      exact ih h.2
    · exact hds

theorem gather_digits (significand : Nat) {ds rest : List Char} (hds : All ds)
    (hrest : startsWithDigit rest = false) :
    gather significand (ds ++ rest) =
        ((gather significand ds).1, (gather significand ds).2 ++ rest) ∧
      All (gather significand ds).2 ∧
      (gather significand ds).2.length ≤ ds.length := by
  obtain ⟨ds₁, ds₂, rfl, hgather⟩ := gather_append significand hds
  have hself := hgather [] rfl
  rw [List.append_nil, List.append_nil] at hself
  rw [hgather rest hrest, hself]
  refine ⟨rfl, fun c hc => hds c (List.mem_append_right _ hc), ?_⟩
  simp

theorem finishReal_eq_ok {exponent : Int}
    (h : finishReal negative significand exponent cs = .ok (n, rest)) :
    cs = rest ∧ n.toBinary64 = withSign negative (scale significand exponent) := by
  unfold finishReal at h
  dsimp only at h
  split at h
  · next heq =>
    cases h
    exact ⟨rfl, Number.toBinary64_of_ofBinary64? heq⟩
  · cases h

theorem ofInt_withMinus (h : negative = true → 0 < significand) :
    ofInt (withMinus negative significand) = withSign negative (.ofNat significand) := by
  cases negative with
  | false =>
    have hsign : decide ((significand : Int) < 0) = false := decide_eq_false (by omega)
    simp only [withMinus, withSign, ofInt, hsign, Int.natAbs_natCast, Bool.false_eq_true, if_false]
    rfl
  | true =>
    have hpos := h rfl
    have hsign : decide (-(significand : Int) < 0) = true := decide_eq_true (by omega)
    simp only [withMinus, withSign, ofInt, hsign, Int.natAbs_neg, Int.natAbs_natCast, if_true]
    rfl

theorem finishInteger_eq_ok (hword : significand < 0x10000000000000000)
    (h : finishInteger negative significand cs = .ok (n, rest)) :
    cs = rest ∧ n.toBinary64 = withSign negative (scale significand 0) := by
  unfold finishInteger at h
  dsimp only at h
  split at h
  · next m heq =>
    by_cases hexact : if negative = true then 0 < significand ∧ significand ≤ 0x8000000000000000
        else significand < 0x10000000000000000
    · rw [if_pos hexact] at h
      cases h
      refine ⟨rfl, ?_⟩
      rw [Number.toBinary64_of_ofInt? heq, scale_exponent_zero hword]
      refine ofInt_withMinus fun hneg => ?_
      rw [if_pos hneg] at hexact
      exact hexact.1
    · rw [if_neg hexact] at h
      exact finishReal_eq_ok h
  · exact finishReal_eq_ok h

theorem finishExponent_eq_ok {negativeExponent : Bool} {exponent : Nat}
    (hlimit : exponent < exponentLimit)
    (h : exponentDigits.finish negative significand start negativeExponent exponent cs =
      .ok (n, rest)) :
    cs = rest ∧
      n.toBinary64 = scaled negative significand start (withMinus negativeExponent exponent) := by
  obtain ⟨hrest, hn⟩ := finishReal_eq_ok h
  refine ⟨hrest, ?_⟩
  cases negativeExponent with
  | true =>
    rw [withMinus, if_pos rfl, scaled_of_lt (by omega), ← Int.sub_eq_add_neg]
    exact hn
  | false =>
    rw [withMinus, if_neg Bool.false_ne_true, scaled_of_lt (by omega)]
    exact hn

theorem finishOverflow_eq_ok {negativeExponent : Bool} {exponent : Nat}
    (hlimit : exponentLimit ≤ exponent)
    (hzero : ¬ (decide (significand ≠ 0) && !negativeExponent) = true)
    (h : finishReal negative 0 0 (skipDigits cs) = .ok (n, rest)) :
    ∃ ds, All ds ∧ startsWithDigit rest = false ∧ cs = ds ++ rest ∧ n.toBinary64 =
      scaled negative significand start (withMinus negativeExponent (valueFrom exponent ds)) := by
  obtain ⟨ds, after, rfl, hds, hafter⟩ := exists_digits cs
  rw [skipDigits_append hds hafter] at h
  obtain ⟨rfl, hn⟩ := finishReal_eq_ok h
  refine ⟨ds, hds, hafter, rfl, ?_⟩
  rw [hn, scale_zero, scaled_of_le]
  have hlarge : exponentLimit ≤ valueFrom exponent ds := hlimit.trans (le_valueFrom _ ds)
  by_cases hs : significand = 0
  · exact .inl hs
  · have hminus : negativeExponent = true := by simpa [hs] using hzero
    right
    rw [hminus, withMinus, if_pos rfl]
    omega

theorem exponentDigits_eq_ok {negativeExponent : Bool} {exponent : Nat}
    (hlimit : exponent < exponentLimit)
    (h : exponentDigits negative significand start negativeExponent exponent cs = .ok (n, rest)) :
    ∃ ds, All ds ∧ startsWithDigit rest = false ∧ cs = ds ++ rest ∧ n.toBinary64 =
      scaled negative significand start (withMinus negativeExponent (valueFrom exponent ds)) := by
  induction cs generalizing exponent with
  | nil =>
    obtain ⟨rfl, hn⟩ := finishExponent_eq_ok hlimit h
    exact ⟨[], nofun, rfl, rfl, hn⟩
  | cons c cs ih =>
    unfold exponentDigits at h
    by_cases hdigit : isDigit c = true
    · rw [if_pos hdigit] at h
      dsimp only at h
      by_cases hnext : 10 * exponent + (c.toNat - '0'.toNat) < exponentLimit
      · rw [if_pos hnext] at h
        obtain ⟨ds, hds, hrest, rfl, hn⟩ := ih hnext h
        exact ⟨c :: ds, List.forall_mem_cons.mpr ⟨hdigit, hds⟩, hrest, rfl, hn⟩
      · rw [if_neg hnext] at h
        split at h
        · cases h
        · next hzero =>
          obtain ⟨ds, hds, hrest, rfl, hn⟩ := finishOverflow_eq_ok (Nat.not_lt.mp hnext) hzero h
          exact ⟨c :: ds, List.forall_mem_cons.mpr ⟨hdigit, hds⟩, hrest, rfl, hn⟩
    · rw [if_neg hdigit] at h
      obtain ⟨rfl, hn⟩ := finishExponent_eq_ok hlimit h
      exact ⟨[], nofun, by simpa [startsWithDigit] using hdigit, rfl, hn⟩

theorem exponent_eq (cs : List Char) :
    exponent negative significand start cs =
      match (splitSign cs).2 with
      | [] => fail [] .endInValue
      | c :: rest =>
        if isDigit c then
          exponentDigits negative significand start (splitSign cs).1 0 (c :: rest)
        else failAt (c :: rest) .invalidNumber := rfl

theorem exponent_eq_ok {letter : Char} (hletter : letter = 'e' ∨ letter = 'E')
    (h : exponent negative significand start cs = .ok (n, rest)) :
    ∃ e tail, SpellsExponent e tail ∧ letter :: cs = tail ++ rest ∧
      n.toBinary64 = scaled negative significand start e := by
  obtain ⟨sign, hsign, hcs⟩ := exists_splitSign cs
  rw [exponent_eq] at h
  split at h
  · cases h
  · next c more hunsigned =>
    split at h
    · next hdigit =>
      obtain ⟨ds, hds, hrest, heq, hn⟩ := exponentDigits_eq_ok (by decide) h
      have hne : ds ≠ [] := by
        rintro rfl
        rw [← List.nil_append rest, ← heq] at hrest
        exact Bool.noConfusion (hrest.symm.trans hdigit)
      refine ⟨_, _, .present hletter hsign hne hds, ?_, hn⟩
      rw [hcs, hunsigned, heq, List.cons_append, List.append_assoc]
    · cases h

theorem afterDigits_eq_ok (h : afterDigits negative significand start cs = .ok (n, rest)) :
    ∃ e tail, SpellsExponent e tail ∧ cs = tail ++ rest ∧
      n.toBinary64 = scaled negative significand start e := by
  unfold afterDigits at h
  split at h
  · exact exponent_eq_ok (.inl rfl) h
  · exact exponent_eq_ok (.inr rfl) h
  · obtain ⟨rfl, hn⟩ := finishReal_eq_ok h
    refine ⟨0, [], .absent, rfl, ?_⟩
    rw [hn, scaled_of_lt (by decide), Int.add_zero]

theorem fraction_append_eq_ok {fs after : List Char} (hfs : All fs)
    (hafter : startsWithDigit after = false)
    (h : fraction negative significand start (fs ++ after) = .ok (n, rest)) :
    fs ≠ [] ∧ afterDigits negative (gather significand fs).1
      (start - (fs.length - (gather significand fs).2.length)) after = .ok (n, rest) := by
  obtain ⟨hgather, hignored, hlength⟩ := gather_digits significand hfs hafter
  have hplaces : (((fs ++ after).length : Int) - ((gather significand fs).2 ++ after).length) =
      fs.length - (gather significand fs).2.length := by
    simp only [List.length_append]
    omega
  rw [fraction, hgather] at h
  dsimp only at h
  rw [hplaces, startsWithDigit_append hignored hafter, skipDigits_append hignored hafter] at h
  generalize (gather significand fs).2 = ignored at h hlength ⊢
  cases ignored with
  | cons c ignored =>
    refine ⟨?_, h⟩
    rintro rfl
    exact absurd hlength (by simp)
  | nil =>
    rw [List.isEmpty_nil, if_neg (by decide)] at h
    split at h
    · split at h <;> cases h
    · next hsome =>
      refine ⟨?_, h⟩
      rintro rfl
      exact hsome rfl

theorem fraction_eq_ok (h : fraction negative significand start cs = .ok (n, rest)) :
    ∃ fs e tail, fs ≠ [] ∧ All fs ∧ SpellsExponent e tail ∧ cs = fs ++ tail ++ rest ∧
      n.toBinary64 = scaled negative (gather significand fs).1
        (start - (fs.length - (gather significand fs).2.length)) e := by
  obtain ⟨fs, after, rfl, hfs, hafter⟩ := exists_digits cs
  obtain ⟨hne, hok⟩ := fraction_append_eq_ok hfs hafter h
  obtain ⟨e, tail, htail, rfl, hn⟩ := afterDigits_eq_ok hok
  exact ⟨fs, e, tail, hne, hfs, htail, (List.append_assoc ..).symm, hn⟩

/-- A number was read from what comes after the digits in front of the point, of
which some were passed over. -/
def TakesAfter (negative : Bool) (significand passed : Nat) (after : List Char)
    (result : Number × List Char) : Prop :=
  ∃ fs e tail, SpellsAfter fs e tail ∧ after = tail ++ result.2 ∧
    result.1.toBinary64 = scaled negative (gather significand fs).1
      (passed - (fs.length - (gather significand fs).2.length)) e

theorem takesAfter_whole {passed : Nat} {e : Int} {tail : List Char} (htail : SpellsExponent e tail)
    (heq : cs = tail ++ rest) (hn : n.toBinary64 = scaled negative significand passed e) :
    TakesAfter negative significand passed cs (n, rest) :=
  ⟨[], e, tail, .whole htail, heq, by simpa [gather] using hn⟩

theorem takesAfter_fraction {passed : Nat}
    (h : fraction negative significand passed cs = .ok (n, rest)) :
    TakesAfter negative significand passed ('.' :: cs) (n, rest) := by
  obtain ⟨fs, e, tail, hne, hfs, htail, rfl, hn⟩ := fraction_eq_ok h
  exact ⟨fs, e, _, .fraction hne hfs htail, rfl, hn⟩

theorem afterInteger_eq_ok {ds after : List Char} (hds : All ds)
    (hafter : startsWithDigit after = false) (hword : significand < 0x10000000000000000)
    (h : afterInteger negative significand (ds ++ after) = .ok (n, rest)) :
    TakesAfter negative significand ds.length after (n, rest) := by
  unfold afterInteger at h
  rw [startsWithDigit_append hds hafter] at h
  cases ds with
  | cons c ds =>
    have hplaces : (((c :: ds ++ after).length : Int) - after.length) = (c :: ds).length := by
      simp only [List.length_append]
      omega
    rw [List.isEmpty_cons, Bool.not_false, if_pos rfl] at h
    dsimp only at h
    rw [skipDigits_append hds hafter, hplaces] at h
    split at h
    · exact takesAfter_fraction h
    · obtain ⟨e, tail, htail, heq, hn⟩ := afterDigits_eq_ok h
      exact takesAfter_whole htail heq hn
  | nil =>
    rw [List.isEmpty_nil, Bool.not_true, if_neg Bool.false_ne_true] at h
    split at h
    · next heq =>
      obtain rfl : after = _ := heq
      exact takesAfter_fraction h
    · next heq =>
      obtain ⟨e, tail, htail, hcs, hn⟩ := exponent_eq_ok (.inl rfl) h
      exact takesAfter_whole htail (heq.trans hcs) hn
    · next heq =>
      obtain ⟨e, tail, htail, hcs, hn⟩ := exponent_eq_ok (.inr rfl) h
      exact takesAfter_whole htail (heq.trans hcs) hn
    · obtain ⟨hrest, hn⟩ := finishInteger_eq_ok hword h
      refine takesAfter_whole .absent hrest (hn.trans ?_)
      rw [scaled_of_lt (by decide)]
      rfl

theorem number_append_eq_ok {ds after : List Char} (hds : All ds)
    (hafter : startsWithDigit after = false) (h : number negative (ds ++ after) = .ok (n, rest)) :
    ds ≠ [] ∧ afterInteger negative (gather 0 ds).1 ((gather 0 ds).2 ++ after) = .ok (n, rest) := by
  have hgather := (gather_digits 0 hds hafter).1
  cases ds with
  | nil =>
    rw [List.nil_append] at h
    unfold number at h
    split at h
    · cases h
    · cases hafter
    · next c cs _ =>
      have hc : isDigit c = false := hafter
      rw [hc, if_neg Bool.false_ne_true] at h
      cases h
  | cons c ds =>
    refine ⟨List.cons_ne_nil c ds, ?_⟩
    rw [List.cons_append] at h hgather
    unfold number at h
    split at h
    · next heq => cases heq
    · next heq =>
      -- a zero in front stands alone
      cases heq
      rw [startsWithDigit_append hds.tail hafter] at h
      cases ds with
      | nil => exact h
      | cons d ds => cases h
    · next heq =>
      cases heq
      rw [if_pos hds.head, hgather] at h
      exact h

theorem number_eq_ok (h : number negative cs = .ok (n, rest)) :
    ∃ (p : Parts) (text : List Char), p.Spells (signed negative text) ∧ cs = text ++ rest ∧
      n.toBinary64 = p.converted := by
  obtain ⟨ds, after, rfl, hds, hafter⟩ := exists_digits cs
  obtain ⟨hne, hok⟩ := number_append_eq_ok hds hafter h
  have hignored := (gather_digits 0 hds hafter).2.1
  obtain ⟨fs, e, tail, htail, rfl, hn⟩ := afterInteger_eq_ok hignored hafter (gather_lt (by decide)) hok
  exact ⟨⟨negative, ds, fs, e⟩, ds ++ tail, .intro hne hds htail, (List.append_assoc ..).symm, hn⟩

end Stages

theorem mapValue_eq_ok {α β : Type} {f : α → β} {r : Result (α × List Char)} {b : β}
    {rest : List Char} (h : mapValue f r = .ok (b, rest)) : ∃ a, r = .ok (a, rest) ∧ f a = b := by
  unfold mapValue at h
  split at h
  · cases h
  · cases h
    exact ⟨_, rfl, rfl⟩

section Composites

variable {fuel depth : Nat} {first : Bool} {cs : List Char}

theorem yields_arr {acc : List Json} :
    Yields (fun v => ∃ items, v = .arr items) (itemsWith fuel depth first acc cs) := by
  induction fuel generalizing first acc cs with
  | zero => exact yields_fail
  | succ fuel ih =>
    unfold itemsWith
    split
    · exact yields_error
    · exact yields_constant ⟨_, rfl⟩ _
    · split
      · exact yields_error
      · exact ih

theorem yields_obj {acc : List (String × Json)} :
    Yields (fun v => ∃ members, v = .obj members) (membersWith fuel depth first acc cs) := by
  induction fuel generalizing first acc cs with
  | zero => exact yields_fail
  | succ fuel ih =>
    unfold membersWith
    split
    · exact yields_error
    · exact yields_constant ⟨_, rfl⟩ _
    · split
      · exact yields_error
      · split
        · exact yields_error
        · split
          · exact yields_error
          · exact ih

theorem valueWith_eq_ok_num {n : Number} {rest : List Char}
    (h : valueWith fuel depth cs = .ok (.num n, rest)) :
    ∃ (p : Parts) (text : List Char), p.Spells text ∧ skipBlanks cs = text ++ rest ∧
      n.toBinary64 = p.converted := by
  have hconstant {v : Json} {r : Result (List Char)} (hv : v ≠ .num n)
      (hok : constant v r = .ok (.num n, rest)) : False :=
    hv (yields_constant (p := fun w => v = w) rfl r _ _ hok)
  cases fuel with
  | zero => cases h
  | succ fuel =>
    unfold valueWith at h
    split at h
    · cases h
    · exact (hconstant (fun heq => by cases heq) h).elim
    · exact (hconstant (fun heq => by cases heq) h).elim
    · exact (hconstant (fun heq => by cases heq) h).elim
    · next heq =>
      obtain ⟨m, hm, ⟨⟩⟩ := mapValue_eq_ok h
      obtain ⟨p, text, hp, rfl, hn⟩ := number_eq_ok hm
      exact ⟨p, _, hp, heq, hn⟩
    · obtain ⟨s, -, hs⟩ := mapValue_eq_ok h
      cases hs
    · split at h
      · cases h
      · obtain ⟨items, hitems⟩ := yields_arr _ _ h
        cases hitems
    · split at h
      · cases h
      · obtain ⟨members, hmembers⟩ := yields_obj _ _ h
        cases hmembers
    · next heq =>
      split at h
      · obtain ⟨m, hm, ⟨⟩⟩ := mapValue_eq_ok h
        obtain ⟨p, text, hp, hcs, hn⟩ := number_eq_ok hm
        exact ⟨p, _, hp, heq.trans hcs, hn⟩
      · cases h

end Composites

end Json.Reader

namespace Numeral

theorem SpellsAfter.all_fraction {fs after : List Char} {e : Int} (h : SpellsAfter fs e after) :
    All fs := by
  cases h with
  | whole => nofun
  | fraction _ hfs _ => exact hfs

theorem kept_of_lt {whole fraction : List Char} (hwhole : All whole) (hfraction : All fraction)
    (h : value (whole ++ fraction) < 0x10000000000000000) :
    Json.Reader.kept whole fraction = (value (whole ++ fraction), -(fraction.length : Int)) := by
  have hsplit : value (whole ++ fraction) = valueFrom (value whole) fraction :=
    valueFrom_append 0 whole fraction
  rw [hsplit] at h ⊢
  have hfirst : valueFrom 0 whole < 0x10000000000000000 := (le_valueFrom _ fraction).trans_lt h
  rw [Json.Reader.kept, Json.Reader.gather_of_lt hwhole hfirst]
  dsimp only
  rw [show valueFrom 0 whole = value whole from rfl, Json.Reader.gather_of_lt hfraction h]
  simp

theorem Parts.Spells.converted_eq_nearest {p : Parts} {text : List Char} (h : p.Spells text)
    (hscalable : Json.Reader.Scalable p.digits p.power) : p.converted = p.nearest := by
  obtain ⟨-, hwhole, hafter⟩ := h
  have hlt : p.digits < 0x10000000000000000 := by
    rcases hscalable with h | ⟨-, h⟩ | ⟨h, -⟩ <;> omega
  rw [converted, kept_of_lt hwhole hafter.all_fraction hlt]
  dsimp only
  rw [show value (p.whole ++ p.fraction) = p.digits from rfl, nearest, ← withSign_ofDecimal]
  by_cases hlimit : p.exponent ≤ -Json.Reader.exponentLimit
  · -- only a value of zero is left, since the power of ten is no greater than the exponent
    have hpower : p.power ≤ p.exponent := Int.sub_le_self _ (Int.natCast_nonneg _)
    have hfar : Json.Reader.exponentLimit = 0x80000000 := rfl
    have hzero : p.digits = 0 := by
      rcases hscalable with h | ⟨h, -⟩ | ⟨-, h⟩ <;> omega
    rw [Json.Reader.scaled_of_le (.inl hzero), hzero]
    rfl
  · rw [Json.Reader.scaled_of_lt (Int.not_le.mp hlimit), Int.add_comm, ← Int.sub_eq_add_neg]
    exact congrArg _ (Json.Reader.scale_eq_ofDecimal hscalable)

end Numeral

theorem Json.spellsText_of_read {text : String} {n : Number} (h : read text = .ok (.num n)) :
    ∃ p : Numeral.Parts, p.SpellsText text ∧ n.toBinary64 = p.converted := by
  obtain ⟨rest, hvalue, hblank⟩ := Reader.exists_of_run_eq_ok h
  obtain ⟨p, literal, hp, hskip, hn⟩ := Reader.valueWith_eq_ok_num hvalue
  refine ⟨p, ⟨text.toList.takeWhile Reader.isBlank, literal, rest, ?_, hp, ?_⟩, hn⟩
  · rw [List.append_assoc, ← hskip]
    exact List.takeWhile_append_dropWhile.symm
  · intro c hc
    rcases List.mem_append.mp hc with hbefore | hafter
    · exact List.all_eq_true.mp List.all_takeWhile c hbefore
    · exact List.dropWhile_eq_nil_iff.mp hblank c hafter

end Switchyard
