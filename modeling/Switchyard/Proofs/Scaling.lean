import Switchyard.Json.Reader.Literal
import Switchyard.Proofs.Rounding

/-! When scaling a significand by a power of ten rounds only once, so that it gives
the double nearest to the decimal number: both factors must be doubles, as they are
up to `2 ^ 53` and up to the power 22. -/

namespace Switchyard

namespace Binary64

theorem divideEven_mul_right (num den : Nat) {m : Nat} (hm : 0 < m) :
    divideEven (num * m) (den * m) = divideEven num den := by
  have htwice : 2 * (num * m % (den * m)) = 2 * (num % den) * m := by
    rw [Nat.mul_mod_mul_right, Nat.mul_assoc]
  unfold divideEven
  simp only [htwice, Nat.mul_div_mul_right _ _ hm, Nat.mul_lt_mul_right hm,
    Nat.mul_left_inj hm.ne']

theorem nearestRank_mul_right (num den : Nat) {m : Nat} (hm : 0 < m) :
    nearestRank (num * m) (den * m) = nearestRank num den := by
  have hblock : blockOf (num * m) (den * m) = blockOf num den := by
    rw [blockOf, blockOf, Nat.mul_div_mul_right _ _ hm]
  apply Fin.ext
  rw [nearestRank_val, nearestRank_val, hblock, Nat.mul_right_comm den,
    divideEven_mul_right _ _ hm]

theorem exists_significand_of_rank {rank : Nat} (h : rank < topRank) :
    ∃ s k, IsSignificand s k ∧ k ≤ 2045 ∧ rank = k * 2 ^ 52 + s := by
  unfold topRank at h
  by_cases hlow : rank < 2 ^ 53
  · exact ⟨rank, 0, ⟨hlow, .inl rfl⟩, by decide, by omega⟩
  · refine ⟨2 ^ 52 + rank % 2 ^ 52, rank / 2 ^ 52 - 1, ⟨by omega, .inr (by omega)⟩, ?_, ?_⟩
    · omega
    · omega

theorem nearestRank_unitsOfRank {rank : Fin (topRank + 1)} (h : rank.val < topRank) {den : Nat}
    (hden : 0 < den) : nearestRank (unitsOfRank rank * den) den = rank := by
  obtain ⟨s, k, hs, hk, hrank⟩ := exists_significand_of_rank h
  apply Fin.ext
  rw [hrank, unitsOfRank_significand hs, nearestRank_significand hs hk hden]

def IsInteger (x : Binary64) (n : Nat) : Prop :=
  ∃ rank, x = .ranked false rank ∧ rank.val < topRank ∧ unitsOfRank rank = n * unitsPerOne

theorem unitsPerOne_pos : 0 < unitsPerOne := by decide

theorem isInteger_ofRatio {n s k : Nat} (hs : IsSignificand s k) (hk : k ≤ 2045)
    (h : n * unitsPerOne = s * 2 ^ k) : IsInteger (ofRatio false n 1) n := by
  refine ⟨nearestRank (n * unitsPerOne) 1, rfl, ?_, ?_⟩
  · have hrank := nearestRank_significand hs hk Nat.one_pos
    have hlow := hs.1
    rw [Nat.mul_one, ← h] at hrank
    rw [hrank]
    unfold topRank
    omega
  · have hunits := unitsOfRank_nearestRank hs hk Nat.one_pos
    rwa [Nat.mul_one, ← h] at hunits

theorem isInteger_ofNat {n : Nat} (h : n ≤ 2 ^ 53) : IsInteger (ofNat n) n := by
  obtain ⟨s, k, hs, hk, hunits⟩ := exists_significand h
  exact isInteger_ofRatio hs (hk.trans (by decide)) hunits

theorem isInteger_mul_two_pow {n j : Nat} (hpos : 0 < n) (h : n ≤ 2 ^ 53) (hj : j ≤ 970) :
    IsInteger (ofRatio false (n * 2 ^ j) 1) (n * 2 ^ j) := by
  obtain ⟨s, k, ⟨hs, hk⟩, hle, hunits⟩ := exists_significand h
  have hlow : 2 ^ 52 ≤ s := by
    refine hk.resolve_left ?_
    rintro rfl
    have hone := Nat.le_mul_of_pos_left unitsPerOne hpos
    rw [hunits, Nat.pow_zero, Nat.mul_one] at hone
    exact absurd (hone.trans hs.le) (by decide)
  refine isInteger_ofRatio (s := s) (k := k + j) ⟨hs, .inr hlow⟩ (by omega) ?_
  rw [Nat.mul_right_comm, hunits, Nat.mul_assoc, ← Nat.pow_add]

theorem powerOfTen_eq {k : Nat} (hk : k ≤ 22) : powerOfTen k = ofRatio false (10 ^ k) 1 := by
  have hlow : ¬ (310 : Int) < k := by omega
  have hhigh : ¬ (k : Int) < -(Nat.log2 1 + 400) := by omega
  rw [powerOfTen, ofDecimal, if_neg Nat.one_ne_zero, if_neg hlow, if_neg hhigh,
    if_pos (Int.natCast_nonneg k), Int.toNat_natCast, Nat.one_mul]
  rfl

theorem isInteger_powerOfTen {k : Nat} (hk : k ≤ 22) : IsInteger (powerOfTen k) (10 ^ k) := by
  have hfive : 5 ^ k ≤ 2 ^ 53 :=
    (Nat.pow_le_pow_right (by decide) hk).trans (by decide)
  rw [powerOfTen_eq hk, show 10 = 5 * 2 from rfl, Nat.mul_pow]
  exact isInteger_mul_two_pow (Nat.pow_pos (by decide)) hfive (by omega)

variable {x y : Binary64} {m n : Nat}

theorem IsInteger.mul (hx : IsInteger x m) (hy : IsInteger y n) :
    x.mul y = ofRatio false (m * n) 1 := by
  obtain ⟨a, rfl, ha, hm⟩ := hx
  obtain ⟨b, rfl, hb, hn⟩ := hy
  have hscale := nearestRank_mul_right (m * n * unitsPerOne) 1 unitsPerOne_pos
  rw [Nat.one_mul, Nat.mul_assoc] at hscale
  rw [Binary64.mul, if_neg (not_or.mpr ⟨ha.ne, hb.ne⟩), hm, hn, Nat.mul_mul_mul_comm, hscale]
  rfl

theorem IsInteger.div (hx : IsInteger x m) (hy : IsInteger y n) (hn : 0 < n) :
    x.div y = ofRatio false m n := by
  obtain ⟨a, rfl, ha, hm⟩ := hx
  obtain ⟨b, rfl, hb, hn'⟩ := hy
  have hb0 : b.val ≠ 0 := by
    intro h0
    rw [h0] at hn'
    exact absurd hn' (Nat.mul_pos hn unitsPerOne_pos).ne
  have hscale := nearestRank_mul_right (m * unitsPerOne) n unitsPerOne_pos
  rw [Binary64.div, if_neg (by simp [ha.ne, hb0]), if_neg (by simp [ha.ne, hb0]), if_neg hb.ne,
    hm, hn', hscale]
  rfl

theorem mul_one_of_lt {rank : Fin (topRank + 1)} (h : rank.val < topRank)
    (hx : IsInteger x 1) : (ranked false rank).mul x = ranked false rank := by
  obtain ⟨one, rfl, hone, hunits⟩ := hx
  rw [Nat.one_mul] at hunits
  rw [Binary64.mul, if_neg (not_or.mpr ⟨h.ne, hone.ne⟩), hunits,
    nearestRank_unitsOfRank h unitsPerOne_pos]
  rfl

theorem IsInteger.nearestRank_lt (h : IsInteger (ofRatio false n 1) n) :
    (nearestRank (n * unitsPerOne) 1).val < topRank := by
  obtain ⟨rank, heq, hrank, -⟩ := h
  cases heq
  exact hrank

theorem nearestRank_lt_topRank (h : n ≤ 2 ^ 64) :
    (nearestRank (n * unitsPerOne) 1).val < topRank := by
  have htop := isInteger_mul_two_pow Nat.one_pos (j := 64) (by decide) (by decide)
  rw [Nat.one_mul] at htop
  exact (nearestRank_mono 1 (Nat.mul_le_mul_right unitsPerOne h)).trans_lt htop.nearestRank_lt

def isNegative : Binary64 → Bool
  | .nan => false
  | .ranked negative _ => negative

theorem isNegative_mul (hx : x.isNegative = false) (hy : y.isNegative = false) :
    (x.mul y).isNegative = false := by
  cases x <;> cases y <;> try rfl
  cases hx
  cases hy
  dsimp only [Binary64.mul]
  split_ifs <;> rfl

theorem isNegative_div (hx : x.isNegative = false) (hy : y.isNegative = false) :
    (x.div y).isNegative = false := by
  cases x <;> cases y <;> try rfl
  cases hx
  cases hy
  dsimp only [Binary64.div]
  split_ifs <;> rfl

theorem isNegative_ofDecimal (negative : Bool) (digits : Nat) (exponent : Int) :
    (ofDecimal negative digits exponent).isNegative = negative := by
  unfold ofDecimal
  split_ifs <;> rfl

def withSign (negative : Bool) (x : Binary64) : Binary64 := if negative then x.neg else x

theorem withSign_ofDecimal (negative : Bool) (digits : Nat) (exponent : Int) :
    withSign negative (ofDecimal false digits exponent) = ofDecimal negative digits exponent := by
  cases negative with
  | false => rfl
  | true =>
    unfold withSign ofDecimal
    rw [if_pos rfl]
    split_ifs <;> rfl

theorem eq_of_key?_eq (hsign : x.isNegative = y.isNegative) (h : x.key? = y.key?) : x = y := by
  cases x with
  | nan => exact (key?_eq_none_iff.mp h.symm).symm
  | ranked p a =>
    cases y with
    | nan => exact key?_eq_none_iff.mp h
    | ranked q b =>
      obtain rfl : p = q := hsign
      have hrank : a.val = b.val := by
        cases p <;> simp only [key?, Option.some.injEq] at h <;> omega
      rw [Fin.ext hrank]

theorem isNegative_withSign {negative : Bool} (hx : x.isNegative = false)
    (hnum : (withSign negative x).isNaN = false) : (withSign negative x).isNegative = negative := by
  cases x with
  | nan => cases negative <;> cases hnum
  | ranked p a =>
    cases hx
    cases negative <;> rfl

end Binary64

namespace Json.Reader

open Binary64

/-- A significand and an exponent of ten that are scaled with one rounding at most. -/
def Scalable (significand : Nat) (exponent : Int) : Prop :=
  significand = 0 ∨ (exponent = 0 ∧ significand < 2 ^ 64) ∨
    (significand ≤ 2 ^ 53 ∧ exponent.natAbs ≤ 22)

theorem scale_zero (exponent : Int) : scale 0 exponent = .zero := rfl

theorem scale_exponent_zero {significand : Nat} (h : significand < 2 ^ 64) :
    scale significand 0 = .ofNat significand := by
  by_cases hzero : significand = 0
  · subst hzero
    decide
  · unfold scale
    dsimp only
    rw [if_neg hzero, if_neg (by decide), if_pos (by decide)]
    exact mul_one_of_lt (nearestRank_lt_topRank h.le) (isInteger_powerOfTen (k := 0) (by decide))

theorem scale_eq_ofDecimal {significand : Nat} {exponent : Int}
    (h : Scalable significand exponent) :
    scale significand exponent = ofDecimal false significand exponent := by
  by_cases hzero : significand = 0
  · subst hzero
    rfl
  rcases h.resolve_left hzero with ⟨rfl, hword⟩ | ⟨hs, he⟩
  · rw [scale_exponent_zero hword, ofDecimal, if_neg hzero, if_neg (by decide), if_neg (by omega),
      if_pos (by decide)]
    simp [Binary64.ofNat]
  · have hover : ¬ 308 < exponent := by omega
    have hover' : ¬ 310 < exponent := by omega
    have hunder : ¬ exponent < -(Nat.log2 significand + 400) := by omega
    unfold scale ofDecimal
    dsimp only
    rw [if_neg hzero, if_neg hzero, if_neg hover, if_neg hover', if_neg hunder]
    by_cases hneg : 0 ≤ exponent
    · rw [if_pos hneg, if_pos hneg]
      exact (isInteger_ofNat hs).mul (isInteger_powerOfTen (by omega))
    · rw [if_neg hneg, if_neg hneg, if_pos (by omega)]
      exact (isInteger_ofNat hs).div (isInteger_powerOfTen (by omega)) (Nat.pow_pos (by decide))

theorem isNegative_scale (significand : Nat) (exponent : Int) :
    (scale significand exponent).isNegative = false := by
  have hpower (k : Nat) : (powerOfTen k).isNegative = false := isNegative_ofDecimal false 1 k
  have hnat : (Binary64.ofNat significand).isNegative = false := rfl
  unfold scale
  dsimp only
  split_ifs
  · rfl
  · rfl
  · exact isNegative_mul hnat (hpower _)
  · exact isNegative_div hnat (hpower _)
  · exact isNegative_div (isNegative_div hnat (hpower _)) (hpower _)
  · rfl

end Json.Reader

end Switchyard
