import Switchyard.Binary64.Shortest
import Switchyard.Proofs.Appending

/-! Decimals of one value stand for one double: what `ofDecimal` answers without a power of
ten is what rounding gives there. So the shortest decimal of a double, with its zeros dropped,
stands for that double. -/

namespace Switchyard.Binary64

def ofScaled (negative : Bool) (digits : Nat) (exponent : Int) : Binary64 :=
  if 0 ≤ exponent then ofRatio negative (digits * 10 ^ exponent.toNat) 1
  else ofRatio negative digits (10 ^ (-exponent).toNat)

variable {negative : Bool} {digits : Nat} {exponent : Int}

theorem nearestRank_eq_top {n : Nat} (h : 2 ^ 1024 ≤ n) :
    (nearestRank (n * unitsPerOne) 1).val = topRank := by
  have hleast : (nearestRank (2 ^ 1024 * unitsPerOne) 1).val = topRank := by decide +kernel
  have hmono := nearestRank_mono 1 (Nat.mul_le_mul_right unitsPerOne h)
  rw [hleast] at hmono
  exact Nat.le_antisymm (Nat.le_of_lt_succ (nearestRank (n * unitsPerOne) 1).isLt) hmono

theorem nearestRank_eq_zero {num den : Nat} (h : 2 * num < den) :
    (nearestRank num den).val = 0 := by
  have hquot : num / den = 0 := Nat.div_eq_of_lt (by omega)
  have hblock : blockOf num den = 0 := by
    rw [blockOf, hquot]
    rfl
  have hround : divideEven num den = 0 := by
    unfold divideEven
    dsimp only
    rw [hquot, Nat.mod_eq_of_lt (by omega), if_pos (.inl h)]
  rw [nearestRank_val, hblock, Nat.pow_zero, Nat.mul_one, hround]
  rfl

theorem ofRatio_eq_signedZero {num den : Nat} (h : 2 * (num * unitsPerOne) < den) :
    ofRatio negative num den = signedZero negative :=
  congrArg (ranked negative) (Fin.ext (nearestRank_eq_zero h))

theorem ofRatio_zero {den : Nat} (h : 0 < den) : ofRatio negative 0 den = signedZero negative :=
  ofRatio_eq_signedZero (by rwa [Nat.zero_mul])

theorem ofScaled_of_high (hpos : 0 < digits) (h : 310 < exponent) :
    ofScaled negative digits exponent = .ranked negative (Fin.last topRank) := by
  have hten : 2 ^ 1024 ≤ digits * 10 ^ exponent.toNat := by
    calc 2 ^ 1024 ≤ 10 ^ 311 := by decide +kernel
      _ ≤ 10 ^ exponent.toNat := Nat.pow_le_pow_right (by decide) (by omega)
      _ ≤ digits * 10 ^ exponent.toNat := Nat.le_mul_of_pos_left _ hpos
  rw [ofScaled, if_pos (by omega)]
  exact congrArg (ranked negative) (Fin.ext (nearestRank_eq_top hten))

theorem ofScaled_of_low (h : exponent < -(Nat.log2 digits + 400)) :
    ofScaled negative digits exponent = signedZero negative := by
  obtain ⟨e, he, hone⟩ := exists_unitsPerOne
  obtain ⟨k, hk⟩ : ∃ k, (-exponent).toNat = Nat.log2 digits + 401 + k :=
    ⟨(-exponent).toNat - (Nat.log2 digits + 401), by omega⟩
  rw [ofScaled, if_neg (by omega), hk]
  refine ofRatio_eq_signedZero ?_
  -- ten has more than three binary digits, and the logarithm of the digits is in the exponent
  have hdigits : digits < 2 ^ (Nat.log2 digits + 1) := Nat.lt_log2_self
  generalize Nat.log2 digits = l at hdigits
  calc 2 * (digits * unitsPerOne) < 2 * (2 ^ (l + 1) * unitsPerOne) := by
        refine Nat.mul_lt_mul_of_pos_left (Nat.mul_lt_mul_of_pos_right hdigits unitsPerOne_pos) ?_
        decide
    _ = 2 ^ (l + e + 2) := by rw [hone, ← Nat.pow_add, ← Nat.pow_succ', Nat.add_right_comm]
    _ ≤ 2 ^ (3 * (l + 401 + k)) := Nat.pow_le_pow_right (by decide) (by omega)
    _ = 8 ^ (l + 401 + k) := Nat.pow_mul 2 3 _
    _ ≤ 10 ^ (l + 401 + k) := Nat.pow_le_pow_left (by decide) _

theorem ofDecimal_eq_ofScaled (negative : Bool) (digits : Nat) (exponent : Int) :
    ofDecimal negative digits exponent = ofScaled negative digits exponent := by
  unfold ofDecimal
  by_cases hzero : digits = 0
  · rw [if_pos hzero, hzero, ofScaled, Nat.zero_mul]
    split
    · exact (ofRatio_zero Nat.one_pos).symm
    · exact (ofRatio_zero (Nat.pow_pos (by decide))).symm
  rw [if_neg hzero]
  split
  · next hhigh => exact (ofScaled_of_high (Nat.pos_of_ne_zero hzero) hhigh).symm
  · split
    · next hlow => exact (ofScaled_of_low hlow).symm
    · rfl

theorem ofDecimal_exponent_zero (negative : Bool) (digits : Nat) :
    ofDecimal negative digits 0 = ofRatio negative digits 1 := by
  rw [ofDecimal_eq_ofScaled, ofScaled, if_pos (Int.le_refl 0), Int.toNat_zero, Nat.pow_zero,
    Nat.mul_one]

theorem ofRatio_mul_right (num den : Nat) {m : Nat} (hm : 0 < m) :
    ofRatio negative (num * m) (den * m) = ofRatio negative num den := by
  rw [ofRatio, ofRatio, Nat.mul_right_comm, nearestRank_mul_right _ _ hm]

theorem ofDecimal_mul_ten (negative : Bool) (digits : Nat) (exponent : Int) :
    ofDecimal negative (digits * 10) exponent = ofDecimal negative digits (exponent + 1) := by
  rw [ofDecimal_eq_ofScaled, ofDecimal_eq_ofScaled]
  by_cases hpos : 0 ≤ exponent
  · have hnext : (exponent + 1).toNat = exponent.toNat + 1 := by omega
    rw [ofScaled, ofScaled, if_pos hpos, if_pos (by omega), hnext, Nat.pow_succ', Nat.mul_assoc]
  · have hstep : (-exponent).toNat = (-(exponent + 1)).toNat + 1 := by omega
    rw [ofScaled, if_neg hpos, hstep, Nat.pow_succ, ofRatio_mul_right _ _ (by decide), ofScaled]
    split
    · -- the exponent is `-1`
      have hlast : exponent + 1 = 0 := by omega
      rw [hlast, Int.neg_zero, Int.toNat_zero, Nat.pow_zero, Nat.mul_one]
    · rfl

theorem ofDecimal_mul_pow (negative : Bool) (digits k : Nat) (exponent : Int) :
    ofDecimal negative (digits * 10 ^ k) (exponent - k) = ofDecimal negative digits exponent := by
  induction k with
  | zero => rw [Nat.pow_zero, Nat.mul_one, Int.ofNat_zero, Int.sub_zero]
  | succ k ih =>
    have hstep : exponent - ((k + 1 : Nat) : Int) + 1 = exponent - k := by omega
    rw [Nat.pow_succ, ← Nat.mul_assoc, ofDecimal_mul_ten, hstep, ih]

theorem ofDecimal_dropZeros (negative : Bool) (fuel : Nat) (d : Decimal) :
    ofDecimal negative (d.dropZeros fuel).digits (d.dropZeros fuel).exponent =
      ofDecimal negative d.digits d.exponent := by
  induction fuel generalizing d with
  | zero => rfl
  | succ fuel ih =>
    rw [Decimal.dropZeros]
    split
    · next hzero =>
      rw [ih, ← ofDecimal_mul_ten, Nat.div_mul_cancel (Nat.dvd_of_mod_eq_zero hzero.2)]
    · rfl

/-- Units are multiples of a power of ten, since that is a multiple of how many make one. -/
theorem ofDecimal_units {rank : Fin (topRank + 1)} (h : rank.val < topRank) :
    ofDecimal false (unitsOfRank rank * Nat.pow 5 1074) (-1074) = .ranked false rank := by
  obtain ⟨e, he, hone⟩ := exists_unitsPerOne
  have hexponent : (-1074 : Int) = -(e : Int) := by omega
  rw [ofDecimal_eq_ofScaled, hexponent, ← he, ofScaled, if_neg (by omega), Int.neg_neg,
    Int.toNat_natCast, ofRatio, hone]
  have hten : 5 ^ e * 2 ^ e = 10 ^ e := (Nat.mul_pow 5 2 e).symm
  refine congrArg (ranked false) ?_
  calc nearestRank (unitsOfRank rank * 5 ^ e * 2 ^ e) (10 ^ e)
      = nearestRank (unitsOfRank rank * 10 ^ e) (10 ^ e) := by rw [Nat.mul_assoc, hten]
    _ = rank := nearestRank_unitsOfRank h (Nat.pow_pos (by decide))

theorem ofDecimal_shortestOfRank {rank : Fin (topRank + 1)} (h : rank.val < topRank) :
    ofDecimal negative (shortestOfRank rank).digits (shortestOfRank rank).exponent =
      .ranked negative rank := by
  have hfalse : ofDecimal false (shortestOfRank rank).digits (shortestOfRank rank).exponent =
      .ranked false rank := by
    unfold shortestOfRank
    dsimp only
    split
    · -- a candidate is found only if it rounds to the rank
      next d hfind =>
      rw [ofDecimal_dropZeros]
      have hfound := List.find?_some hfind
      exact of_decide_eq_true hfound
    · exact ofDecimal_units h
  rw [← withSign_ofDecimal, hfalse]
  cases negative <;> rfl

end Switchyard.Binary64
