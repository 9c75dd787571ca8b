import Switchyard.Proofs.Json.RoundTrip
import Switchyard.Proofs.Numeral
import Switchyard.Proofs.Shortest

/-! Printed numbers as strings. Each literal has parts, and the number that it is printed
for is the one nearest to their value, so that a string with the literal coerces to it. -/

namespace Switchyard

open Binary64 Digits

theorem Digits.valueFrom_replicate_zero (start n : Nat) :
    valueFrom start (List.replicate n '0') = start * 10 ^ n := by
  induction n generalizing start with
  | zero => exact (Nat.mul_one start).symm
  | succ n ih =>
    have hstep : valueFrom start (List.replicate (n + 1) '0') =
        valueFrom (10 * start) (List.replicate n '0') := rfl
    rw [hstep, ih, Nat.pow_succ', Nat.mul_comm 10, Nat.mul_assoc]

theorem Digits.value_append_zeros (ds : List Char) (k : Nat) :
    value (ds ++ List.replicate k '0') = value ds * 10 ^ k := by
  rw [value, valueFrom_append, ← value, valueFrom_replicate_zero]

theorem Digits.value_zeros_append (k : Nat) (ds : List Char) :
    value (List.replicate k '0' ++ ds) = value ds := by
  rw [value, valueFrom_append, valueFrom_replicate_zero, Nat.zero_mul, value]

namespace Numeral

variable (negative : Bool) {x : Binary64} {text : List Char}

def Denotes (text : List Char) (x : Binary64) : Prop :=
  ∃ p : Parts, p.Spells text ∧ p.nearest = x

theorem Denotes.ofString_eq (h : Denotes text x) : ofString (String.ofList text) = x := by
  obtain ⟨p, hp, rfl⟩ := h
  have hspells : p.SpellsText (String.ofList text) := ⟨[], text, [], by simp, hp, nofun⟩
  exact hspells.ofString_eq

theorem denotes_whole {whole tail : List Char} {exponent : Int} (hne : whole ≠ [])
    (hwhole : All whole) (htail : SpellsExponent exponent tail) :
    Denotes (signed negative (whole ++ tail))
      (ofDecimal negative (Digits.value whole) exponent) := by
  refine ⟨⟨negative, whole, [], exponent⟩, .intro hne hwhole (.whole htail), ?_⟩
  rw [Parts.nearest, Parts.digits, Parts.power, List.append_nil, List.length_nil, Int.ofNat_zero,
    Int.sub_zero]

theorem denotes_digits {ds : List Char} (hne : ds ≠ []) (hds : All ds) :
    Denotes (signed negative ds) (ofRatio negative (Digits.value ds) 1) := by
  have h := denotes_whole negative hne hds .absent
  rwa [List.append_nil, ofDecimal_exponent_zero] at h

theorem denotes_fraction {whole fraction tail : List Char} {exponent : Int} (hne : whole ≠ [])
    (hwhole : All whole) (hfne : fraction ≠ []) (hfraction : All fraction)
    (htail : SpellsExponent exponent tail) :
    Denotes (signed negative (whole ++ '.' :: (fraction ++ tail)))
      (ofDecimal negative (Digits.value (whole ++ fraction)) (exponent - fraction.length)) :=
  ⟨⟨negative, whole, fraction, exponent⟩, .intro hne hwhole (.fraction hfne hfraction htail), rfl⟩

theorem denotes_point {whole fraction : List Char} (hne : whole ≠ []) (hwhole : All whole)
    (hfne : fraction ≠ []) (hfraction : All fraction) :
    Denotes (signed negative (whole ++ '.' :: fraction))
      (ofDecimal negative (Digits.value (whole ++ fraction)) (-fraction.length)) := by
  have h := denotes_fraction negative hne hwhole hfne hfraction .absent
  rwa [List.append_nil, Int.zero_sub] at h

end Numeral

open Numeral

theorem Decimal.denotes_positional (negative : Bool) (d : Decimal) :
    Denotes (signed negative d.positional) (ofDecimal negative d.digits d.exponent) := by
  have hne := ofNat_ne_nil d.digits
  have hall := all_ofNat d.digits
  have hvalue := value_ofNat d.digits
  have hzero : All ['0'] := all_replicate_zero 1
  unfold Decimal.positional
  dsimp only
  generalize Digits.ofNat d.digits = ds at hne hall hvalue ⊢
  split_ifs with hexponent hplaces
  · -- zeros up to the point, and one behind it
    have hdigits : Digits.value (ds ++ List.replicate d.exponent.toNat '0' ++ ['0']) =
        d.digits * 10 ^ (d.exponent.toNat + 1) := by
      rw [List.append_assoc, ← List.replicate_succ', value_append_zeros, hvalue]
    have hpower : (-(['0'].length : Nat) : Int) = d.exponent - (d.exponent.toNat + 1 : Nat) := by
      rw [List.length_singleton]
      omega
    have h := denotes_point negative (List.append_ne_nil_of_left_ne_nil hne _)
      (hall.append (all_replicate_zero d.exponent.toNat)) (List.cons_ne_nil '0' []) hzero
    rwa [hdigits, hpower, ofDecimal_mul_pow] at h
  · -- the point stands between the digits
    have hpower : (-((ds.drop (ds.length - (-d.exponent).toNat)).length : Nat) : Int) =
        d.exponent := by
      rw [List.length_drop]
      omega
    have htake : ds.take (ds.length - (-d.exponent).toNat) ≠ [] := by
      rw [Ne, List.take_eq_nil_iff, not_or]
      exact ⟨by omega, hne⟩
    have hdrop : ds.drop (ds.length - (-d.exponent).toNat) ≠ [] := by
      rw [Ne, List.drop_eq_nil_iff]
      omega
    have h := denotes_point negative htake
      (fun c hc => hall c (List.mem_of_mem_take hc)) hdrop
      fun c hc => hall c (List.mem_of_mem_drop hc)
    rwa [List.take_append_drop, hvalue, hpower] at h
  · -- zeros behind the point, up to the digits
    obtain ⟨k, hk⟩ : ∃ k, (-d.exponent).toNat - ds.length = k := ⟨_, rfl⟩
    have hdigits : Digits.value (['0'] ++ (List.replicate k '0' ++ ds)) = d.digits := by
      rw [← List.append_assoc, ← List.replicate_one, List.replicate_append_replicate,
        value_zeros_append, hvalue]
    have hpower : (-((List.replicate k '0' ++ ds).length : Nat) : Int) = d.exponent := by
      rw [List.length_append, List.length_replicate]
      omega
    have h := denotes_point negative (List.cons_ne_nil '0' []) hzero
      (List.append_ne_nil_of_right_ne_nil _ hne) ((all_replicate_zero k).append hall)
    rw [hk]
    rwa [hdigits, hpower] at h

theorem Decimal.spellsExponent_order (d : Decimal) :
    SpellsExponent d.order ('e' :: (if d.order < 0 then '-' else '+') ::
      Digits.ofNat d.order.natAbs) := by
  have hsign : SpellsSign (decide (d.order < 0)) [if d.order < 0 then '-' else '+'] := by
    by_cases h : d.order < 0
    · rw [if_pos h, decide_eq_true h]
      exact .minus
    · rw [if_neg h, decide_eq_false h]
      exact .plus
  have horder : withMinus (decide (d.order < 0)) (Digits.value (Digits.ofNat d.order.natAbs)) =
      d.order := by
    rw [value_ofNat, withMinus]
    split
    · next h => have := of_decide_eq_true h; omega
    · next h => have := of_decide_eq_false (Bool.eq_false_iff.mpr h); omega
  have hpresent := SpellsExponent.present (.inl rfl) hsign (ofNat_ne_nil d.order.natAbs)
    (all_ofNat _)
  rwa [horder] at hpresent

theorem Decimal.denotes_scientific (negative : Bool) (d : Decimal) :
    Denotes (signed negative d.scientific) (ofDecimal negative d.digits d.exponent) := by
  have hne := ofNat_ne_nil d.digits
  have hall := all_ofNat d.digits
  have hvalue := value_ofNat d.digits
  have htail := d.spellsExponent_order
  have horder : d.order = d.exponent + ((Digits.ofNat d.digits).length - 1 : Nat) := rfl
  unfold Decimal.scientific
  dsimp only
  generalize 'e' :: (if d.order < 0 then '-' else '+') :: Digits.ofNat d.order.natAbs = tail
    at htail ⊢
  generalize Digits.ofNat d.digits = ds at hne hall hvalue horder ⊢
  rcases ds with _ | ⟨c, _ | ⟨c', rest⟩⟩
  · exact absurd rfl hne
  · have hpower : d.order = d.exponent := horder.trans (Int.add_zero _)
    have h := denotes_whole negative hne hall htail
    rwa [hvalue, hpower] at h
  · have hpower : d.order - (c' :: rest).length = d.exponent := by
      rw [horder, List.length_cons, Nat.add_sub_cancel]
      exact Int.add_sub_cancel _ _
    have hfirst : All [c] := fun x hx => hall x (by simp [List.mem_singleton.mp hx])
    have h := denotes_fraction negative (List.cons_ne_nil c []) hfirst
      (List.cons_ne_nil c' rest) hall.tail htail
    have hdigits : Digits.value ([c] ++ c' :: rest) = d.digits := hvalue
    rwa [hdigits, hpower] at h

theorem Decimal.denotes_write (negative : Bool) (layout : Decimal.Layout) (d : Decimal) :
    Denotes (signed negative (d.write layout)) (ofDecimal negative d.digits d.exponent) := by
  unfold Decimal.write
  split
  · exact d.denotes_positional negative
  · exact d.denotes_scientific negative

theorem Number.denotes_write (n : Number) : Denotes n.write n.toBinary64 := by
  cases n with
  | integer i word =>
    have h := denotes_digits (decide (i < 0)) (ofNat_ne_nil i.natAbs) (all_ofNat i.natAbs)
    rw [value_ofNat] at h
    rw [Number.write_integer]
    exact h
  | real x finite =>
    cases x with
    | nan => cases finite
    | ranked negative rank =>
      have htop : rank.val < topRank := by simpa [isFinite] using finite
      show Denotes (signed negative _) (ranked negative rank)
      split
      · next hzero =>
        have h := denotes_point negative (List.cons_ne_nil '0' [])
          (all_replicate_zero 1) (List.cons_ne_nil '0' []) (all_replicate_zero 1)
        have hrank : ofDecimal negative (Digits.value (['0'] ++ ['0'])) (-(['0'].length : Nat)) =
            ranked negative rank := congrArg (ranked negative) (Fin.ext hzero.symm)
        rwa [hrank] at h
      · rw [if_neg htop.ne, ← ofDecimal_shortestOfRank htop]
        exact (shortestOfRank rank).denotes_write negative Json.numberLayout

theorem Numeral.ofString_digits {ds : List Char} (hne : ds ≠ []) (hds : All ds) :
    ofString (String.ofList ds) = Binary64.ofNat (Digits.value ds) :=
  (denotes_digits false hne hds).ofString_eq

theorem Number.ofString_write (n : Number) : ofString (String.ofList n.write) = n.toBinary64 :=
  n.denotes_write.ofString_eq

end Switchyard
