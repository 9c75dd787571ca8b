import Mathlib.Algebra.Group.Nat.Defs
import Mathlib.Order.Lattice
import Mathlib.Tactic.SplitIfs
import Switchyard.Binary64.Rounding

/-! Rounding keeps order and doubles. The integers up to `2 ^ 53` are doubles, so
that rounding tells them apart. -/

namespace Switchyard.Binary64

theorem divideEven_bounds (num den : Nat) :
    num / den ≤ divideEven num den ∧ divideEven num den ≤ num / den + 1 := by
  unfold divideEven
  dsimp only
  split_ifs <;> omega

theorem divideEven_mono {m n : Nat} (den : Nat) (h : m ≤ n) :
    divideEven m den ≤ divideEven n den := by
  have hm := divideEven_bounds m den
  have hn := divideEven_bounds n den
  rcases Nat.lt_or_eq_of_le (Nat.div_le_div_right (c := den) h) with hlt | heq
  · omega
  · have hrest : m % den ≤ n % den := by
      have h₁ := Nat.div_add_mod m den
      have h₂ := Nat.div_add_mod n den
      rw [heq] at h₁
      omega
    unfold divideEven
    dsimp only
    rw [heq]
    split_ifs <;> omega

theorem divideEven_mul (s : Nat) {den : Nat} (hden : 0 < den) : divideEven (s * den) den = s := by
  simp [divideEven, Nat.mul_div_cancel _ hden, Nat.mul_mod_left, hden]

theorem blockSize_eq : blockSize = 2 ^ 52 := rfl

def blockOf (num den : Nat) : Nat := Nat.log2 (num / den) - 52

theorem nearestRank_val (num den : Nat) :
    (nearestRank num den).val =
      min (blockOf num den * 2 ^ 52 + divideEven num (den * 2 ^ blockOf num den)) topRank := by
  simp only [nearestRank, blockOf, blockSize_eq, Nat.shiftLeft_eq]

theorem blockOf_spec (num den : Nat) :
    num / (den * 2 ^ blockOf num den) < 2 ^ 53 ∧
      (blockOf num den = 0 ∨ 2 ^ 52 ≤ num / (den * 2 ^ blockOf num den)) := by
  rw [← Nat.div_div_eq_div_mul]
  have hpos : 0 < 2 ^ blockOf num den := Nat.two_pow_pos _
  constructor
  · rw [Nat.div_lt_iff_lt_mul hpos, ← Nat.pow_add]
    refine Nat.lt_log2_self.trans_le (Nat.pow_le_pow_right (by decide) ?_)
    unfold blockOf
    omega
  · by_cases hlow : Nat.log2 (num / den) ≤ 52
    · exact .inl (Nat.sub_eq_zero_of_le hlow)
    · have hne : num / den ≠ 0 := by
        intro h
        rw [h] at hlow
        exact hlow (by decide)
      right
      rw [Nat.le_div_iff_mul_le hpos, ← Nat.pow_add]
      refine (Nat.pow_le_pow_right (by decide) ?_).trans (Nat.log2_self_le hne)
      unfold blockOf
      omega

theorem blockOf_mono {m n : Nat} (den : Nat) (h : m ≤ n) : blockOf m den ≤ blockOf n den := by
  have hq : m / den ≤ n / den := Nat.div_le_div_right h
  unfold blockOf
  by_cases hm : m / den = 0
  · simp [hm]
  · have hn : n / den ≠ 0 := fun h => hm (Nat.eq_zero_of_le_zero (h ▸ hq))
    have hlog : Nat.log2 (m / den) ≤ Nat.log2 (n / den) :=
      (Nat.le_log2 hn).mpr ((Nat.log2_self_le hm).trans hq)
    exact Nat.sub_le_sub_right hlog 52

/-- Of two quotients the greater one has no lesser rank: in one block because of
`divideEven_mono`, and otherwise because the blocks follow each other. -/
theorem nearestRank_mono {m n : Nat} (den : Nat) (h : m ≤ n) :
    (nearestRank m den).val ≤ (nearestRank n den).val := by
  rw [nearestRank_val, nearestRank_val]
  rcases Nat.lt_or_eq_of_le (blockOf_mono den h) with hlt | heq
  · have hm := (blockOf_spec m den).1
    have hn := (blockOf_spec n den).2.resolve_left (by omega)
    have hlow := (divideEven_bounds n (den * 2 ^ blockOf n den)).1
    have hhigh := (divideEven_bounds m (den * 2 ^ blockOf m den)).2
    omega
  · have hround := divideEven_mono (den * 2 ^ blockOf n den) h
    rw [heq]
    omega

/-- A significand of 53 bits, which fills them unless its exponent is the least. -/
def IsSignificand (s k : Nat) : Prop := s < 2 ^ 53 ∧ (k = 0 ∨ 2 ^ 52 ≤ s)

theorem unitsOfRank_significand {s k : Nat} (h : IsSignificand s k) :
    unitsOfRank (k * 2 ^ 52 + s) = s * 2 ^ k := by
  obtain ⟨hs, hk⟩ := h
  rcases Nat.eq_zero_or_pos k with rfl | hpos
  · have hsmall : s < 2 * 2 ^ 52 := by omega
    rw [Nat.zero_mul, Nat.zero_add, unitsOfRank, blockSize_eq, if_pos hsmall, Nat.pow_zero,
      Nat.mul_one]
  · have hbig : ¬ k * 2 ^ 52 + s < 2 * 2 ^ 52 := by omega
    have hrest : 2 ^ 52 + (k * 2 ^ 52 + s) % 2 ^ 52 = s := by omega
    have hblock : (k * 2 ^ 52 + s) / 2 ^ 52 - 1 = k := by omega
    rw [unitsOfRank, blockSize_eq, if_neg hbig, hrest, hblock, Nat.shiftLeft_eq]

theorem blockOf_significand {s k den : Nat} (h : IsSignificand s k) (hden : 0 < den) :
    blockOf (s * 2 ^ k * den) den = k := by
  obtain ⟨hs, hk⟩ := h
  rw [blockOf, Nat.mul_div_cancel _ hden]
  by_cases hzero : s * 2 ^ k = 0
  · have hs0 : s = 0 := (Nat.mul_eq_zero.mp hzero).resolve_right (Nat.two_pow_pos k).ne'
    have hk0 : k = 0 := hk.resolve_right (by omega)
    rw [hzero, hk0]
    decide
  · rcases hk with rfl | hk
    · have hlog : Nat.log2 (s * 2 ^ 0) < 53 := (Nat.log2_lt hzero).mpr (by simpa using hs)
      omega
    · have hlog : Nat.log2 (s * 2 ^ k) = 52 + k := by
        rw [Nat.log2_eq_iff hzero]
        constructor
        · rw [Nat.pow_add]
          exact Nat.mul_le_mul_right _ hk
        · rw [show 52 + k + 1 = 53 + k by omega, Nat.pow_add]
          exact Nat.mul_lt_mul_of_pos_right hs (Nat.two_pow_pos k)
      omega

theorem nearestRank_significand {s k den : Nat} (h : IsSignificand s k) (hk : k ≤ 2045)
    (hden : 0 < den) : (nearestRank (s * 2 ^ k * den) den).val = k * 2 ^ 52 + s := by
  rw [nearestRank_val, blockOf_significand h hden, Nat.mul_assoc s, Nat.mul_comm (2 ^ k),
    divideEven_mul s (Nat.mul_pos hden (Nat.two_pow_pos k))]
  have hs := h.1
  apply Nat.min_eq_left
  unfold topRank
  omega

theorem unitsOfRank_nearestRank {s k den : Nat} (h : IsSignificand s k) (hk : k ≤ 2045)
    (hden : 0 < den) : unitsOfRank (nearestRank (s * 2 ^ k * den) den) = s * 2 ^ k := by
  rw [nearestRank_significand h hk hden, unitsOfRank_significand h]

theorem exists_significand {n : Nat} (h : n ≤ 2 ^ 53) :
    ∃ s k, IsSignificand s k ∧ k ≤ 1075 ∧ n * unitsPerOne = s * 2 ^ k := by
  obtain ⟨e, he⟩ : ∃ e, e = 1074 := ⟨_, rfl⟩
  have hunits : unitsPerOne = 2 ^ e := by rw [unitsPerOne, ← he, Nat.one_shiftLeft]
  rcases Nat.eq_zero_or_pos n with rfl | hpos
  · exact ⟨0, 0, ⟨by decide, .inl rfl⟩, by decide, by simp⟩
  rcases Nat.lt_or_eq_of_le h with hlt | rfl
  · have hne : n ≠ 0 := hpos.ne'
    have hlog : Nat.log2 n < 53 := (Nat.log2_lt hne).mpr hlt
    refine ⟨n * 2 ^ (52 - Nat.log2 n), e - 52 + Nat.log2 n, ⟨?_, .inr ?_⟩, by omega, ?_⟩
    · calc n * 2 ^ (52 - Nat.log2 n) < 2 ^ (Nat.log2 n + 1) * 2 ^ (52 - Nat.log2 n) :=
            Nat.mul_lt_mul_of_pos_right Nat.lt_log2_self (Nat.two_pow_pos _)
        _ = 2 ^ 53 := by rw [← Nat.pow_add, show Nat.log2 n + 1 + (52 - Nat.log2 n) = 53 by omega]
    · calc 2 ^ 52 = 2 ^ Nat.log2 n * 2 ^ (52 - Nat.log2 n) := by
            rw [← Nat.pow_add, show Nat.log2 n + (52 - Nat.log2 n) = 52 by omega]
        _ ≤ n * 2 ^ (52 - Nat.log2 n) := Nat.mul_le_mul_right _ (Nat.log2_self_le hne)
    · rw [hunits, Nat.mul_assoc, ← Nat.pow_add,
        show 52 - Nat.log2 n + (e - 52 + Nat.log2 n) = e by omega]
  · refine ⟨2 ^ 52, e + 1, ⟨by decide, .inr (Nat.le_refl _)⟩, by omega, ?_⟩
    rw [hunits, ← Nat.pow_add, ← Nat.pow_add, show 53 + e = 52 + (e + 1) by omega]

theorem unitsOfRank_integer {n : Nat} (h : n ≤ 2 ^ 53) :
    unitsOfRank (nearestRank (n * unitsPerOne) 1) = n * unitsPerOne := by
  obtain ⟨s, k, hs, hk, heq⟩ := exists_significand h
  have hself := unitsOfRank_nearestRank hs (hk.trans (by decide)) Nat.one_pos
  rwa [Nat.mul_one, ← heq] at hself

def keyOfInt (i : Int) : Int := i.sign * (nearestRank (i.natAbs * unitsPerOne) 1).val

theorem nearestRank_zero : (nearestRank (0 * unitsPerOne) 1).val = 0 := by
  rw [Nat.zero_mul]
  decide

theorem keyOfInt_natCast (n : Nat) : keyOfInt n = (nearestRank (n * unitsPerOne) 1).val := by
  rcases Nat.eq_zero_or_pos n with rfl | hpos
  · rw [nearestRank_zero]
    rfl
  · rw [keyOfInt, Int.sign_eq_one_of_pos (Int.natCast_pos.mpr hpos), Int.one_mul, Int.natAbs_natCast]

theorem keyOfInt_neg (i : Int) : keyOfInt (-i) = -keyOfInt i := by
  rw [keyOfInt, keyOfInt, Int.sign_neg, Int.natAbs_neg, Int.neg_mul]

theorem key?_ofInt (i : Int) : (ofInt i).key? = some (keyOfInt i) := by
  unfold ofInt ofRatio
  rcases Int.lt_or_le i 0 with hneg | hnonneg
  · rw [keyOfInt, Int.sign_eq_neg_one_of_neg hneg, Int.neg_one_mul, decide_eq_true hneg, key?]
  · obtain ⟨n, rfl⟩ := Int.eq_ofNat_of_zero_le hnonneg
    rw [keyOfInt_natCast, decide_eq_false (Int.not_lt.mpr hnonneg), key?, Int.natAbs_natCast]

theorem keyOfInt_mono {i j : Int} (h : i ≤ j) : keyOfInt i ≤ keyOfInt j := by
  obtain ⟨m, rfl | rfl⟩ := i.eq_nat_or_neg <;> obtain ⟨n, rfl | rfl⟩ := j.eq_nat_or_neg <;>
    simp only [keyOfInt_neg, keyOfInt_natCast]
  · have hrank := nearestRank_mono 1 (Nat.mul_le_mul_right unitsPerOne (show m ≤ n by omega))
    omega
  · have hm : m = 0 := by omega
    have hn : n = 0 := by omega
    rw [hm, hn, nearestRank_zero]
    decide
  · omega
  · have hrank := nearestRank_mono 1 (Nat.mul_le_mul_right unitsPerOne (show n ≤ m by omega))
    omega

theorem natAbs_keyOfInt (i : Int) :
    (keyOfInt i).natAbs = (nearestRank (i.natAbs * unitsPerOne) 1).val := by
  obtain ⟨n, rfl | rfl⟩ := i.eq_nat_or_neg
  · rw [keyOfInt_natCast, Int.natAbs_natCast, Int.natAbs_natCast]
  · rw [keyOfInt_neg, keyOfInt_natCast, Int.natAbs_neg, Int.natAbs_neg, Int.natAbs_natCast,
      Int.natAbs_natCast]

theorem natAbs_eq_of_keyOfInt {i j : Int} (hi : i.natAbs ≤ 2 ^ 53) (hj : j.natAbs ≤ 2 ^ 53)
    (h : (keyOfInt i).natAbs = (keyOfInt j).natAbs) : i.natAbs = j.natAbs := by
  rw [natAbs_keyOfInt, natAbs_keyOfInt] at h
  have hunits := congrArg unitsOfRank h
  rw [unitsOfRank_integer hi, unitsOfRank_integer hj] at hunits
  exact Nat.eq_of_mul_eq_mul_right (by decide) hunits

theorem keyOfInt_injOn {i j : Int} (hi : i.natAbs ≤ 2 ^ 53) (hj : j.natAbs ≤ 2 ^ 53)
    (h : keyOfInt i = keyOfInt j) : i = j := by
  rcases Int.natAbs_eq_natAbs_iff.mp (natAbs_eq_of_keyOfInt hi hj (congrArg Int.natAbs h)) with
    heq | hneg
  · exact heq
  · -- Opposite integers have opposite keys, so that both keys are zero.
    rw [hneg, keyOfInt_neg] at h
    have hzero : (keyOfInt j).natAbs = (keyOfInt 0).natAbs := by
      have h0 : keyOfInt 0 = 0 := by decide
      omega
    have hj0 := natAbs_eq_of_keyOfInt hj (by decide) hzero
    omega

theorem keyOfInt_lt {i j : Int} (h : i < j) (hsmall : i.natAbs < 2 ^ 53 ∨ j.natAbs < 2 ^ 53) :
    keyOfInt i < keyOfInt j := by
  have hstep {m : Int} (hm : m.natAbs ≤ 2 ^ 53) (hn : (m + 1).natAbs ≤ 2 ^ 53) :
      keyOfInt m < keyOfInt (m + 1) := by
    refine lt_of_le_of_ne (keyOfInt_mono (by omega)) fun heq => ?_
    have := keyOfInt_injOn hm hn heq
    omega
  rcases hsmall with hi | hj
  · exact (hstep (m := i) (by omega) (by omega)).trans_le (keyOfInt_mono (by omega))
  · have hpred := hstep (m := j - 1) (by omega) (by omega)
    rw [Int.sub_add_cancel] at hpred
    exact (keyOfInt_mono (by omega)).trans_lt hpred

theorem ofInt_eq_iff {i j : Int} : ofInt i = ofInt j ↔ keyOfInt i = keyOfInt j := by
  constructor
  · intro h
    have hkey := congrArg key? h
    rw [key?_ofInt, key?_ofInt] at hkey
    exact Option.some.inj hkey
  · intro h
    have hsign (m : Int) : m < 0 ↔ keyOfInt m < 0 := by
      have h0 : keyOfInt 0 = 0 := by decide
      rcases Int.lt_or_le m 0 with hm | hm
      · exact ⟨fun _ => h0 ▸ keyOfInt_lt hm (.inr (by decide)), fun _ => hm⟩
      · have hmono := keyOfInt_mono hm
        omega
    have hrank := congrArg Int.natAbs h
    rw [natAbs_keyOfInt, natAbs_keyOfInt] at hrank
    unfold ofInt ofRatio
    rw [Fin.ext hrank, decide_eq_decide.mpr (show i < 0 ↔ j < 0 by rw [hsign i, hsign j, h])]

end Switchyard.Binary64
