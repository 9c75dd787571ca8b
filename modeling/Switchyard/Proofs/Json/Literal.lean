import Switchyard.Json.Fault
import Switchyard.Json.Reader.Literal
import Switchyard.Proofs.Digits

/-! Number literals without their sign, and how far the reader goes in them: it takes
such a literal as a whole or not at all, whatever comes after it. -/

namespace Switchyard

namespace Json.Reader

open Digits

inductive ExponentPart : List Char → Prop
  | absent : ExponentPart []
  | present {letter : Char} {sign ds : List Char} : letter = 'e' ∨ letter = 'E' →
    sign = [] ∨ sign = ['+'] ∨ sign = ['-'] → ds ≠ [] → All ds →
    ExponentPart (letter :: (sign ++ ds))

inductive PlainLiteral : List Char → Prop
  | whole {ds tail : List Char} : ds ≠ [] → All ds → ExponentPart tail → PlainLiteral (ds ++ tail)
  | fraction {ds fs tail : List Char} : ds ≠ [] → All ds → fs ≠ [] → All fs → ExponentPart tail →
    PlainLiteral (ds ++ '.' :: (fs ++ tail))

def continues (c : Char) : Bool := isDigit c || c == '.' || c == 'e' || c == 'E'

def Ends (rest : List Char) : Prop := ∀ c ∈ rest.head?, continues c = false

theorem Ends.nil : Ends [] := nofun

theorem Ends.cons {c : Char} (rest : List Char) (h : continues c = false) : Ends (c :: rest) := by
  intro d hd
  obtain rfl : c = d := Option.some.inj hd
  exact h

theorem Ends.startsWithDigit {rest : List Char} (h : Ends rest) : startsWithDigit rest = false := by
  cases rest with
  | nil => rfl
  | cons c cs =>
    have hc := h c rfl
    unfold continues at hc
    simp only [Bool.or_eq_false_iff] at hc
    exact hc.1.1.1

theorem ExponentPart.startsWithDigit_append {tail rest : List Char} (h : ExponentPart tail)
    (hrest : Ends rest) : startsWithDigit (tail ++ rest) = false := by
  cases h with
  | absent => exact hrest.startsWithDigit
  | present hletter => rcases hletter with rfl | rfl <;> rfl

/-- A reader does the same to a text whatever follows it: it fails, or takes
exactly the text and gives the same value. -/
def Whole {α : Type} (f : List Char → Result (α × List Char)) (text : List Char) (a : Option α) :
    Prop := ∀ rest, Ends rest → (f (text ++ rest)).toOption = a.map (·, rest)

theorem startsWithDigit_append {ds rest : List Char} (hds : All ds)
    (hrest : startsWithDigit rest = false) : startsWithDigit (ds ++ rest) = !ds.isEmpty := by
  cases ds with
  | nil => simpa using hrest
  | cons c cs => simpa [startsWithDigit] using hds.head

theorem skipDigits_append {ds rest : List Char} (hds : All ds)
    (hrest : startsWithDigit rest = false) : skipDigits (ds ++ rest) = rest := by
  unfold skipDigits
  rw [List.dropWhile_append_of_pos hds]
  cases rest with
  | nil => rfl
  | cons c cs => exact List.dropWhile_cons_of_neg (by simpa [startsWithDigit] using hrest)

theorem exists_digits (cs : List Char) :
    ∃ ds after, cs = ds ++ after ∧ All ds ∧ startsWithDigit after = false := by
  induction cs with
  | nil => exact ⟨[], [], rfl, nofun, rfl⟩
  | cons c cs ih =>
    by_cases hdigit : isDigit c = true
    · obtain ⟨ds, after, rfl, hds, hafter⟩ := ih
      exact ⟨c :: ds, after, rfl, List.forall_mem_cons.mpr ⟨hdigit, hds⟩, hafter⟩
    · exact ⟨[], c :: cs, rfl, nofun, by simpa [startsWithDigit] using hdigit⟩

/-- Gathering stops inside the digits at a place that depends on them alone. -/
theorem gather_append (significand : Nat) {ds : List Char} (hds : All ds) :
    ∃ ds₁ ds₂, ds = ds₁ ++ ds₂ ∧ ∀ rest, startsWithDigit rest = false →
      gather significand (ds ++ rest) = (valueFrom significand ds₁, ds₂ ++ rest) := by
  induction ds generalizing significand with
  | nil =>
    refine ⟨[], [], rfl, fun rest hrest => ?_⟩
    cases rest with
    | nil => rfl
    | cons c cs =>
      have hc : isDigit c = false := hrest
      simp [gather, hc, valueFrom]
  | cons c cs ih =>
    obtain ⟨ds₁, ds₂, rfl, hgather⟩ := ih (10 * significand + (c.toNat - '0'.toNat)) hds.tail
    -- gathering stops at the first digit that does not fit, which depends on no later one
    by_cases hfits : 10 * significand + (c.toNat - '0'.toNat) < 0x10000000000000000
    · refine ⟨c :: ds₁, ds₂, rfl, fun rest hrest => ?_⟩
      simp only [List.cons_append, gather, hds.head, hfits, decide_true, Bool.and_self, if_true]
      exact hgather rest hrest
    · refine ⟨[], c :: (ds₁ ++ ds₂), rfl, fun rest _ => ?_⟩
      simp only [List.cons_append, gather, hfits, decide_false, Bool.and_false,
        Bool.false_eq_true, if_false]
      rfl

theorem Whole.of_eq {α : Type} {f g : List Char → Result (α × List Char)} {text text' : List Char}
    {a : Option α} (hg : Whole g text' a)
    (h : ∀ rest, Ends rest → f (text ++ rest) = g (text' ++ rest)) : Whole f text a := by
  intro rest hrest
  rw [h rest hrest]
  exact hg rest hrest

section Parts

variable (negative : Bool) (significand : Nat)

theorem whole_finishReal (exponent : Int) :
    ∃ a, Whole (finishReal negative significand exponent) [] a := by
  refine ⟨Number.ofBinary64? (if negative then (scale significand exponent).neg
    else scale significand exponent), fun rest _ => ?_⟩
  unfold finishReal
  dsimp only
  split <;> simp_all [Except.toOption, fail]

theorem whole_finishInteger : ∃ a, Whole (finishInteger negative significand) [] a := by
  obtain ⟨a, ha⟩ := whole_finishReal negative significand 0
  unfold finishInteger
  dsimp only
  split
  · next n _ =>
    split_ifs
    · exact ⟨some n, fun rest _ => rfl⟩
    · exact ⟨a, ha⟩
    · exact ⟨some n, fun rest _ => rfl⟩
    · exact ⟨a, ha⟩
  · exact ⟨a, ha⟩

theorem whole_exponentDigits (start : Int) (negativeExponent : Bool) {ds : List Char} (hds : All ds)
    (exponent : Nat) :
    ∃ a, Whole (exponentDigits negative significand start negativeExponent exponent) ds a := by
  induction ds generalizing exponent with
  | nil =>
    obtain ⟨a, ha⟩ := whole_finishReal negative significand
      (if negativeExponent then start - exponent else start + exponent)
    refine ⟨a, ha.of_eq fun rest hrest => ?_⟩
    cases rest with
    | nil => rfl
    | cons c cs =>
      have hc : isDigit c = false := hrest.startsWithDigit
      simp only [List.nil_append, exponentDigits, hc, Bool.false_eq_true, if_false]
      rfl
  | cons c cs ih =>
    obtain ⟨a, ha⟩ := ih hds.tail (10 * exponent + (c.toNat - '0'.toNat))
    obtain ⟨b, hb⟩ := whole_finishReal negative 0 0
    by_cases hfits : 10 * exponent + (c.toNat - '0'.toNat) < exponentLimit
    · refine ⟨a, ha.of_eq fun rest _ => ?_⟩
      simp only [List.cons_append, exponentDigits, hds.head, hfits, if_true]
    · by_cases hover : (decide (significand ≠ 0) && !negativeExponent) = true
      · refine ⟨none, fun rest _ => ?_⟩
        simp only [List.cons_append, exponentDigits, hds.head, hfits, hover, if_true, if_false]
        rfl
      · refine ⟨b, hb.of_eq fun rest hrest => ?_⟩
        simp only [List.cons_append, exponentDigits, hds.head, hfits, hover, if_true, if_false,
          skipDigits_append hds.tail hrest.startsWithDigit, List.nil_append, Bool.false_eq_true]

theorem whole_exponent (start : Int) {sign ds : List Char}
    (hsign : sign = [] ∨ sign = ['+'] ∨ sign = ['-']) (hne : ds ≠ []) (hds : All ds) :
    ∃ a, Whole (exponent negative significand start) (sign ++ ds) a := by
  obtain ⟨a, ha⟩ := whole_exponentDigits negative significand start (sign == ['-']) hds 0
  refine ⟨a, ha.of_eq fun rest _ => ?_⟩
  obtain ⟨c, cs, rfl⟩ := List.exists_cons_of_ne_nil hne
  have hplus : c ≠ '+' := ne_of_isDigit hds.head (by decide)
  have hminus : c ≠ '-' := ne_of_isDigit hds.head (by decide)
  rcases hsign with rfl | rfl | rfl <;>
    simp [exponent, hds.head, hplus, hminus]

theorem whole_afterDigits (start : Int) {tail : List Char} (htail : ExponentPart tail) :
    ∃ a, Whole (afterDigits negative significand start) tail a := by
  cases htail with
  | absent =>
    obtain ⟨a, ha⟩ := whole_finishReal negative significand start
    refine ⟨a, ha.of_eq fun rest hrest => ?_⟩
    rw [List.nil_append]
    unfold afterDigits
    split
    · next cs => exact absurd (hrest 'e' rfl) (by decide)
    · next cs => exact absurd (hrest 'E' rfl) (by decide)
    · rfl
  | present hletter hsign hne hds =>
    obtain ⟨a, ha⟩ := whole_exponent negative significand start hsign hne hds
    refine ⟨a, ha.of_eq fun rest _ => ?_⟩
    rcases hletter with rfl | rfl <;> rfl

theorem whole_fraction (start : Int) {fs tail : List Char} (hne : fs ≠ []) (hfs : All fs)
    (htail : ExponentPart tail) :
    ∃ a, Whole (fraction negative significand start) (fs ++ tail) a := by
  obtain ⟨fs₁, fs₂, rfl, hgather⟩ := gather_append significand hfs
  obtain ⟨a, ha⟩ := whole_afterDigits negative (valueFrom significand fs₁)
    (start - (fs₁.length : Int)) htail
  refine ⟨a, ha.of_eq fun rest hrest => ?_⟩
  have hnodigit : startsWithDigit (tail ++ rest) = false := htail.startsWithDigit_append hrest
  have hfs₂ : All fs₂ := fun c hc => hfs c (List.mem_append_right _ hc)
  have hplaces : (((fs₁ ++ fs₂ ++ (tail ++ rest)).length : Int) -
      (fs₂ ++ (tail ++ rest)).length) = fs₁.length := by
    simp only [List.length_append]
    omega
  rw [List.append_assoc, fraction, hgather _ hnodigit]
  dsimp only
  rw [hplaces, startsWithDigit_append hfs₂ hnodigit, skipDigits_append hfs₂ hnodigit]
  cases fs₂ with
  | cons c cs => rfl
  | nil =>
    have hlong : ¬ (fs₁.length : Int) = 0 := by simpa using hne
    simp only [List.isEmpty_nil, Bool.not_true, Bool.false_eq_true, if_false, hlong,
      List.nil_append]

theorem whole_afterInteger_whole {ds tail : List Char} (hds : All ds) (htail : ExponentPart tail) :
    ∃ a, Whole (afterInteger negative significand) (ds ++ tail) a := by
  have hnopoint {rest : List Char} (hrest : Ends rest) (cs : List Char) : tail ++ rest ≠ '.' :: cs := by
    cases htail with
    | absent =>
      rintro rfl
      exact absurd (hrest '.' rfl) (by decide)
    | present hletter => rcases hletter with rfl | rfl <;> simp
  cases ds with
  | cons c cs =>
    obtain ⟨a, ha⟩ := whole_afterDigits negative significand (cs.length + 1 : Nat) htail
    refine ⟨a, ha.of_eq fun rest hrest => ?_⟩
    have hnodigit := htail.startsWithDigit_append hrest
    have hplaces : (((c :: cs ++ (tail ++ rest)).length : Int) - (tail ++ rest).length) =
        (cs.length + 1 : Nat) := by
      simp only [List.length_append, List.length_cons]
      omega
    have hdigit : startsWithDigit (c :: cs ++ (tail ++ rest)) = true := hds.head
    rw [List.append_assoc]
    unfold afterInteger
    rw [if_pos hdigit]
    dsimp only
    rw [skipDigits_append hds hnodigit, hplaces]
    split
    · next heq => exact absurd heq (hnopoint hrest _)
    · rfl
  | nil =>
    cases htail with
    | absent =>
      obtain ⟨a, ha⟩ := whole_finishInteger negative significand
      refine ⟨a, ha.of_eq fun rest hrest => ?_⟩
      rw [List.nil_append, List.nil_append]
      unfold afterInteger
      rw [hrest.startsWithDigit, if_neg Bool.false_ne_true]
      split
      · exact absurd (hrest '.' rfl) (by decide)
      · exact absurd (hrest 'e' rfl) (by decide)
      · exact absurd (hrest 'E' rfl) (by decide)
      · rfl
    | present hletter hsign hne hds =>
      obtain ⟨a, ha⟩ := whole_exponent negative significand 0 hsign hne hds
      refine ⟨a, ha.of_eq fun rest _ => ?_⟩
      rcases hletter with rfl | rfl <;> rfl

theorem whole_afterInteger_fraction {ds fs tail : List Char} (hds : All ds) (hne : fs ≠ [])
    (hfs : All fs) (htail : ExponentPart tail) :
    ∃ a, Whole (afterInteger negative significand) (ds ++ '.' :: (fs ++ tail)) a := by
  obtain ⟨a, ha⟩ := whole_fraction negative significand ds.length hne hfs htail
  refine ⟨a, ha.of_eq fun rest hrest => ?_⟩
  rw [List.append_assoc, List.cons_append]
  generalize fs ++ tail ++ rest = after
  cases ds with
  | nil => rfl
  | cons c cs =>
    have hplaces : (((c :: cs ++ '.' :: after).length : Int) - ('.' :: after).length) =
        (c :: cs).length := by
      simp only [List.length_append]
      omega
    have hdigit : startsWithDigit (c :: cs ++ '.' :: after) = true := hds.head
    unfold afterInteger
    rw [if_pos hdigit]
    dsimp only
    rw [skipDigits_append hds rfl, hplaces]
    rfl

end Parts

/-- What comes after the first digits of a literal reads as a whole, together with
digits that are left of those. -/
structure Continuation (negative : Bool) (after : List Char) : Prop where
  notDigit : ∀ rest, Ends rest → startsWithDigit (after ++ rest) = false
  whole : ∀ significand ds, All ds → ∃ a, Whole (afterInteger negative significand) (ds ++ after) a

theorem PlainLiteral.split (negative : Bool) {text : List Char} (h : PlainLiteral text) :
    ∃ ds after, text = ds ++ after ∧ ds ≠ [] ∧ All ds ∧ Continuation negative after := by
  cases h with
  | whole hne hds htail =>
    refine ⟨_, _, rfl, hne, hds, ⟨fun rest hrest => htail.startsWithDigit_append hrest, ?_⟩⟩
    exact fun significand ds' hds' => whole_afterInteger_whole negative significand hds' htail
  | fraction hne hds hfne hfs htail =>
    refine ⟨_, _, rfl, hne, hds, ⟨fun rest _ => rfl, ?_⟩⟩
    exact fun significand ds' hds' =>
      whole_afterInteger_fraction negative significand hds' hfne hfs htail

theorem PlainLiteral.exists_digit {text : List Char} (h : PlainLiteral text) :
    ∃ c cs, text = c :: cs ∧ isDigit c = true := by
  obtain ⟨ds, after, rfl, hne, hds, -⟩ := h.split false
  obtain ⟨c, cs, rfl⟩ := List.exists_cons_of_ne_nil hne
  exact ⟨c, cs ++ after, rfl, hds.head⟩

theorem whole_number (negative : Bool) {text : List Char} (h : PlainLiteral text) :
    ∃ a, Whole (number negative) text a := by
  obtain ⟨ds, after, rfl, hne, hds, hafter⟩ := h.split negative
  obtain ⟨c, cs, rfl⟩ := List.exists_cons_of_ne_nil hne
  -- a leading zero has to be the only digit in front of the point
  by_cases hzero : c = '0'
  · subst hzero
    cases cs with
    | nil =>
      obtain ⟨a, ha⟩ := hafter.whole 0 [] nofun
      refine ⟨a, ha.of_eq fun rest hrest => ?_⟩
      simp only [List.cons_append, List.nil_append, number, hafter.notDigit rest hrest,
        Bool.false_eq_true, if_false]
    | cons d ds =>
      refine ⟨none, fun rest _ => ?_⟩
      have hdigit : startsWithDigit (d :: ds ++ (after ++ rest)) = true := hds.tail.head
      simp only [List.append_assoc, List.cons_append, number] at hdigit ⊢
      rw [if_pos hdigit]
      rfl
  · obtain ⟨ds₁, ds₂, hsplit, hgather⟩ := gather_append 0 hds
    have hds₂ : All ds₂ := fun d hd => hds d (hsplit ▸ List.mem_append_right _ hd)
    obtain ⟨a, ha⟩ := hafter.whole (valueFrom 0 ds₁) ds₂ hds₂
    refine ⟨a, ha.of_eq fun rest hrest => ?_⟩
    have hread := hgather _ (hafter.notDigit rest hrest)
    rw [List.append_assoc, List.append_assoc]
    simp only [List.cons_append] at hread ⊢
    unfold number
    split
    · next heq => cases heq
    · next heq =>
      cases heq
      exact absurd rfl hzero
    · next heq =>
      cases heq
      rw [if_pos hds.head, hread]

end Json.Reader

open Digits Json.Reader

theorem Digits.plainLiteral_point {ds fs : List Char} (hne : ds ≠ []) (hds : All ds)
    (hfne : fs ≠ []) (hfs : All fs) : PlainLiteral (ds ++ '.' :: fs) := by
  simpa using PlainLiteral.fraction hne hds hfne hfs .absent

theorem Digits.plainLiteral_zeroPoint {fs : List Char} (hfne : fs ≠ []) (hfs : All fs) :
    PlainLiteral ('0' :: '.' :: fs) := by
  have h : PlainLiteral (['0'] ++ '.' :: fs) :=
    plainLiteral_point (List.cons_ne_nil _ _) (all_replicate_zero 1) hfne hfs
  exact h

theorem Decimal.plainLiteral_positional (d : Decimal) : PlainLiteral d.positional := by
  have hall := all_ofNat d.digits
  have hne := ofNat_ne_nil d.digits
  have hzero : All ['0'] := all_replicate_zero 1
  unfold Decimal.positional
  dsimp only
  split_ifs with hexp hplaces
  · rw [show ['.', '0'] = '.' :: ['0'] from rfl]
    exact plainLiteral_point (by simp [hne]) (hall.append (all_replicate_zero _)) (by simp) hzero
  · -- the point stands between the digits
    refine plainLiteral_point ?_ (fun c hc => hall c (List.mem_of_mem_take hc)) ?_
      (fun c hc => hall c (List.mem_of_mem_drop hc))
    · rw [Ne, List.take_eq_nil_iff, not_or]
      exact ⟨by omega, hne⟩
    · rw [Ne, List.drop_eq_nil_iff]
      omega
  · exact plainLiteral_zeroPoint (by simp [hne]) ((all_replicate_zero _).append hall)

theorem Decimal.plainLiteral_scientific (d : Decimal) : PlainLiteral d.scientific := by
  have hall := all_ofNat d.digits
  have hpart : ExponentPart ('e' :: (if d.order < 0 then '-' else '+') ::
      Digits.ofNat d.order.natAbs) := by
    have hsign : [if d.order < 0 then '-' else '+'] = [] ∨
        [if d.order < 0 then '-' else '+'] = ['+'] ∨
        [if d.order < 0 then '-' else '+'] = ['-'] := by
      split_ifs
      · exact .inr (.inr rfl)
      · exact .inr (.inl rfl)
    exact .present (.inl rfl) hsign (ofNat_ne_nil _) (all_ofNat _)
  unfold Decimal.scientific
  dsimp only
  split
  · next heq => exact absurd heq (ofNat_ne_nil _)
  · next c heq =>
    rw [heq] at hall
    exact .whole (by simp) hall hpart
  · next c rest hne heq =>
    rw [heq] at hall
    have hrest : rest ≠ [] := fun h => hne h
    have hfirst : All [c] := fun x hx => hall x (by simp [List.mem_singleton.mp hx])
    have h : PlainLiteral ([c] ++ '.' :: (rest ++ _)) :=
      .fraction (List.cons_ne_nil _ _) hfirst hrest hall.tail hpart
    exact h

theorem Decimal.plainLiteral_write (layout : Decimal.Layout) (d : Decimal) :
    PlainLiteral (d.write layout) := by
  unfold Decimal.write
  split_ifs
  · exact d.plainLiteral_positional
  · exact d.plainLiteral_scientific

def signed (negative : Bool) (text : List Char) : List Char :=
  if negative then '-' :: text else text

def literal : List Char → Result (Number × List Char)
  | '-' :: cs => number true cs
  | cs => number false cs

theorem literal_signed {negative : Bool} {text : List Char} (h : PlainLiteral text)
    (rest : List Char) : literal (signed negative text ++ rest) = number negative (text ++ rest) := by
  obtain ⟨c, cs, rfl, hc⟩ := h.exists_digit
  have hne : c ≠ '-' := ne_of_isDigit hc (by decide)
  cases negative with
  | true => rfl
  | false => simp [signed, literal, hne]

theorem Number.exists_write_eq (n : Number) :
    ∃ negative text, PlainLiteral text ∧ n.write = signed negative text := by
  cases n with
  | integer i word =>
    refine ⟨decide (i < 0), Digits.ofNat i.natAbs, ?_, ?_⟩
    · simpa using PlainLiteral.whole (ofNat_ne_nil _) (all_ofNat i.natAbs) .absent
    · by_cases h : i < 0 <;> simp [Number.write, signed, h]
  | real x finite =>
    cases x with
    | nan => cases finite
    | ranked negative rank =>
      have htop : rank.val ≠ Binary64.topRank := Nat.ne_of_lt (by simpa [Binary64.isFinite] using finite)
      refine ⟨negative, _, ?_, rfl⟩
      split_ifs
      · exact plainLiteral_zeroPoint (List.cons_ne_nil _ _) (all_replicate_zero 1)
      · exact Decimal.plainLiteral_write _ _

theorem Number.whole_literal (n : Number) : ∃ a, Whole literal n.write a := by
  obtain ⟨negative, text, hplain, hwrite⟩ := n.exists_write_eq
  obtain ⟨a, ha⟩ := whole_number negative hplain
  refine ⟨a, fun rest hrest => ?_⟩
  rw [hwrite, literal_signed hplain]
  exact ha rest hrest

end Switchyard
