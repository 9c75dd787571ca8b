import Mathlib.Tactic.Ring
import Switchyard.Proofs.Scaling

/-! Integers with more digits than a significand has. Digits behind such an integer shift
its rank, and rounding them away one by one loses what they say about a tie. -/

namespace Switchyard

namespace Binary64

theorem divideEven_add (s : Nat) {r d : Nat} (hr : r < d) :
    divideEven (s * d + r) d = if 2 * r < d ∨ (2 * r = d ∧ s % 2 = 0) then s else s + 1 := by
  have hquot : (s * d + r) / d = s := by
    rw [Nat.add_comm, Nat.add_mul_div_right _ _ (by omega), Nat.div_eq_of_lt hr, Nat.zero_add]
  have hrest : (s * d + r) % d = r := by
    rw [Nat.add_comm, Nat.add_mul_mod_self_right, Nat.mod_eq_of_lt hr]
  unfold divideEven
  dsimp only
  rw [hquot, hrest]

/-- Further digits matter to rounding only if the number in front of them is halfway
between two multiples, of which it would go down to the even one. -/
theorem divideEven_mul_add {n d m r : Nat} (hd : d % 2 = 0) (hpos : 0 < d) (hr : r < m) :
    divideEven (n * m + r) (d * m) =
      divideEven n d + if 2 * (n % d) = d ∧ n / d % 2 = 0 ∧ 0 < r then 1 else 0 := by
  obtain ⟨s, hs⟩ : ∃ s, s = n / d := ⟨_, rfl⟩
  obtain ⟨a, ha⟩ : ∃ a, a = n % d := ⟨_, rfl⟩
  have had : a < d := ha ▸ Nat.mod_lt n hpos
  have hn : n = s * d + a := by rw [hs, ha, Nat.div_add_mod']
  have hlong : n * m + r = s * (d * m) + (a * m + r) := by rw [hn]; ring
  have hlt : a * m + r < d * m := by
    calc a * m + r < (a + 1) * m := by rw [Nat.succ_mul]; exact Nat.add_lt_add_left hr _
      _ ≤ d * m := Nat.mul_le_mul_right _ had
  rw [hlong, divideEven_add s hlt, hn, divideEven_add s had, ← hn, ← hs, ← ha]
  rcases Nat.lt_trichotomy (2 * a) d with hlow | hhalf | hhigh
  · have hdown : 2 * (a * m + r) < d * m := by
      have hstep : 2 * a + 2 ≤ d := by omega
      have hscaled := Nat.mul_le_mul_right m hstep
      rw [Nat.add_mul, Nat.mul_assoc] at hscaled
      omega
    rw [if_pos (.inl hdown), if_pos (.inl hlow), if_neg (fun h => hlow.ne h.1), Nat.add_zero]
  · have hdouble : 2 * (a * m + r) = d * m + 2 * r := by
      rw [Nat.mul_add, ← Nat.mul_assoc, hhalf]
    rw [hdouble, hhalf]
    clear hlong hlt hn
    split_ifs <;> omega
  · have hup : ¬ 2 * (a * m + r) ≤ d * m := by
      have hscaled := Nat.mul_lt_mul_of_pos_right hhigh (show 0 < m by omega)
      rw [Nat.mul_assoc] at hscaled
      omega
    rw [if_neg (by omega), if_neg (by omega), if_neg (fun h => hhigh.ne' h.1)]

theorem log2_mul_add {n k r : Nat} (hn : n ≠ 0) (hr : r < 2 ^ k) :
    Nat.log2 (n * 2 ^ k + r) = Nat.log2 n + k := by
  have hpos : 0 < 2 ^ k := Nat.two_pow_pos k
  have hne : n * 2 ^ k + r ≠ 0 := by
    have := Nat.mul_pos (Nat.pos_of_ne_zero hn) hpos
    omega
  rw [Nat.log2_eq_iff hne]
  constructor
  · rw [Nat.pow_add]
    exact (Nat.mul_le_mul_right _ (Nat.log2_self_le hn)).trans (Nat.le_add_right _ _)
  · calc n * 2 ^ k + r < (n + 1) * 2 ^ k := by rw [Nat.succ_mul]; exact Nat.add_lt_add_left hr _
      _ ≤ 2 ^ (Nat.log2 n + 1) * 2 ^ k := Nat.mul_le_mul_right _ Nat.lt_log2_self
      _ = 2 ^ (Nat.log2 n + k + 1) := by rw [← Nat.pow_add, Nat.add_right_comm]

theorem blockOf_mul_add {n k r : Nat} (hn : 2 ^ 52 ≤ n) (hr : r < 2 ^ k) :
    blockOf (n * 2 ^ k + r) 1 = blockOf n 1 + k := by
  have hne : n ≠ 0 := by omega
  have hlog : 52 ≤ Nat.log2 n := (Nat.le_log2 hne).mpr hn
  rw [blockOf, blockOf, Nat.div_one, Nat.div_one, log2_mul_add hne hr]
  omega

theorem nearestRank_mul_add {n k r : Nat} (hn : 2 ^ 52 ≤ n) (hr : r < 2 ^ k) :
    (nearestRank (n * 2 ^ k + r) 1).val =
      min ((blockOf n 1 + k) * 2 ^ 52 +
        divideEven (n * 2 ^ k + r) (2 ^ blockOf n 1 * 2 ^ k)) topRank := by
  rw [nearestRank_val, blockOf_mul_add hn hr, Nat.one_mul, Nat.pow_add]

/-- The exponent is kept behind a variable, so that nothing computes the power. -/
theorem exists_unitsPerOne : ∃ e, e = 1074 ∧ unitsPerOne = 2 ^ e := by
  obtain ⟨e, he⟩ : ∃ e, e = 1074 := ⟨_, rfl⟩
  exact ⟨e, he, by rw [unitsPerOne, ← he, Nat.one_shiftLeft]⟩

theorem nearestRank_integer {n : Nat} (hn : 2 ^ 52 ≤ n) :
    (nearestRank (n * unitsPerOne) 1).val =
      min ((blockOf n 1 + 1074) * 2 ^ 52 + divideEven n (2 ^ blockOf n 1)) topRank := by
  obtain ⟨e, he, hone⟩ := exists_unitsPerOne
  have hrank := nearestRank_mul_add (r := 0) hn (Nat.two_pow_pos e)
  rw [Nat.add_zero (n * 2 ^ e), divideEven_mul_right _ _ (Nat.two_pow_pos e)] at hrank
  rw [hone, hrank, he]

/-- An integer that is halfway between two doubles and rounded down to the even one. -/
def TiesDown (n : Nat) : Prop := ∃ m i, n = m * 2 ^ i ∧ m % 4 = 1 ∧ 2 ^ 53 < m ∧ m < 2 ^ 54

theorem tiesDown_iff {n : Nat} (hn : 2 ^ 53 ≤ n) :
    TiesDown n ↔
      2 * (n % 2 ^ blockOf n 1) = 2 ^ blockOf n 1 ∧ n / 2 ^ blockOf n 1 % 2 = 0 := by
  constructor
  · rintro ⟨m, i, rfl, hm, hlow, hhigh⟩
    have hblock : blockOf (m * 2 ^ i) 1 = i + 1 := by
      have hadd := blockOf_mul_add (r := 0) (show 2 ^ 52 ≤ m by omega) (Nat.two_pow_pos i)
      have hlog : Nat.log2 m = 53 := (Nat.log2_eq_iff (by omega)).mpr ⟨hlow.le, hhigh⟩
      rw [Nat.add_zero (m * 2 ^ i)] at hadd
      rw [hadd, blockOf, Nat.div_one, hlog]
      omega
    have hsplit : m * 2 ^ i = m / 2 * 2 ^ (i + 1) + 2 ^ i := by
      have hodd : m = m / 2 * 2 + 1 := by omega
      rw [Nat.pow_succ']
      nth_rewrite 1 [hodd]
      ring
    have hlt : 2 ^ i < 2 ^ (i + 1) := Nat.pow_lt_pow_right (by decide) (Nat.lt_succ_self i)
    rw [hblock, hsplit, Nat.add_comm, Nat.add_mul_mod_self_right, Nat.mod_eq_of_lt hlt,
      Nat.add_mul_div_right _ _ (Nat.two_pow_pos _), Nat.div_eq_of_lt hlt, Nat.pow_succ']
    omega
  · rintro ⟨hhalf, heven⟩
    obtain ⟨hquot, hlow⟩ := blockOf_spec n 1
    have hne : n ≠ 0 := by omega
    have hlog : 53 ≤ Nat.log2 n := (Nat.le_log2 hne).mpr hn
    obtain ⟨i, hi⟩ : ∃ i, blockOf n 1 = i + 1 := by
      refine ⟨Nat.log2 n - 53, ?_⟩
      rw [blockOf, Nat.div_one]
      omega
    rw [hi, Nat.one_mul] at hquot hlow
    rw [hi] at hhalf heven
    have hlow' := hlow.resolve_left (Nat.succ_ne_zero i)
    refine ⟨2 * (n / 2 ^ (i + 1)) + 1, i, ?_, by omega, by omega, by omega⟩
    have hsplit := Nat.div_add_mod' n (2 ^ (i + 1))
    rw [Nat.pow_succ'] at hhalf hsplit ⊢
    have hrest : n % (2 * 2 ^ i) = 2 ^ i := by omega
    rw [hrest] at hsplit
    calc n = n / (2 * 2 ^ i) * (2 * 2 ^ i) + 2 ^ i := hsplit.symm
      _ = (2 * (n / (2 * 2 ^ i)) + 1) * 2 ^ i := by ring

theorem add_of_lt {a b : Fin (topRank + 1)} (ha : a.val < topRank) (hb : b.val < topRank) :
    (ranked false a).add (ranked false b) =
      ranked false (nearestRank (unitsOfRank a + unitsOfRank b) 1) := by
  have hsum : signedUnits false a + signedUnits false b =
      ((unitsOfRank a + unitsOfRank b : Nat) : Int) := by
    rw [signedUnits, signedUnits, if_neg Bool.false_ne_true, if_neg Bool.false_ne_true,
      Int.natCast_add]
  unfold Binary64.add
  dsimp only
  rw [if_neg (fun h => ha.ne h.1), if_neg ha.ne, if_neg hb.ne, hsum, Int.natAbs_natCast]
  split_ifs with hzero
  · rw [Int.natCast_eq_zero.mp hzero]
    rfl
  · rw [decide_eq_false (Int.not_lt.mpr (Int.natCast_nonneg _))]

theorem IsInteger.add {x y : Binary64} {m n : Nat} (hx : IsInteger x m) (hy : IsInteger y n) :
    x.add y = ofNat (m + n) := by
  obtain ⟨a, rfl, ha, hm⟩ := hx
  obtain ⟨b, rfl, hb, hn⟩ := hy
  rw [add_of_lt ha hb, hm, hn, ← Nat.add_mul]
  rfl

abbrev evenRank : Nat := 1076 * 2 ^ 52

def shiftRank (rank : Fin (topRank + 1)) (j : Nat) : Fin (topRank + 1) :=
  ⟨min (rank.val + j * 2 ^ 52) topRank, Nat.lt_succ_of_le (Nat.min_le_right ..)⟩

variable {rank : Fin (topRank + 1)} {j : Nat}

theorem shiftRank_val : (shiftRank rank j).val = min (rank.val + j * 2 ^ 52) topRank := rfl

theorem shiftRank_zero : shiftRank rank 0 = rank := by
  apply Fin.ext
  rw [shiftRank_val, Nat.zero_mul]
  exact Nat.min_eq_left (Nat.le_of_lt_succ rank.isLt)

theorem shiftRank_shiftRank (i : Nat) :
    shiftRank (shiftRank rank i) j = shiftRank rank (i + j) := by
  apply Fin.ext
  rw [shiftRank_val, shiftRank_val, shiftRank_val]
  omega

theorem le_shiftRank (hrank : evenRank ≤ rank.val) (hj : j ≤ 4) :
    evenRank + j * 2 ^ 52 ≤ (shiftRank rank j).val := by
  rw [shiftRank_val]
  unfold evenRank topRank at *
  omega

section Append

variable {n k r : Nat}

theorem shiftRank_nearestRank (hn : 2 ^ 53 ≤ n) :
    (shiftRank (nearestRank (n * unitsPerOne) 1) k).val =
      min ((blockOf n 1 + k + 1074) * 2 ^ 52 + divideEven n (2 ^ blockOf n 1)) topRank := by
  rw [shiftRank_val, nearestRank_integer (by omega)]
  omega

theorem nearestRank_append (hn : 2 ^ 53 ≤ n) (hr : r < 2 ^ k) :
    (nearestRank ((n * 2 ^ k + r) * unitsPerOne) 1).val =
      min ((blockOf n 1 + k + 1074) * 2 ^ 52 +
        divideEven (n * 2 ^ k + r) (2 ^ blockOf n 1 * 2 ^ k)) topRank := by
  have hlarge : 2 ^ 52 ≤ n * 2 ^ k + r := by
    have := Nat.le_mul_of_pos_right n (Nat.two_pow_pos k)
    omega
  rw [nearestRank_integer hlarge, blockOf_mul_add (by omega) hr, Nat.pow_add]

theorem divideEven_append (hn : 2 ^ 53 ≤ n) (hr : r < 2 ^ k) :
    divideEven (n * 2 ^ k + r) (2 ^ blockOf n 1 * 2 ^ k) =
      divideEven n (2 ^ blockOf n 1) +
        if 2 * (n % 2 ^ blockOf n 1) = 2 ^ blockOf n 1 ∧ n / 2 ^ blockOf n 1 % 2 = 0 ∧ 0 < r then 1
        else 0 := by
  have hlog : 53 ≤ Nat.log2 n := (Nat.le_log2 (by omega)).mpr hn
  have heven : 2 ^ blockOf n 1 % 2 = 0 := by
    rw [blockOf, Nat.div_one, show Nat.log2 n - 52 = Nat.log2 n - 53 + 1 by omega, Nat.pow_succ,
      Nat.mul_mod_left]
  exact divideEven_mul_add heven (Nat.two_pow_pos _) hr

theorem nearestRank_append_of_not (hn : 2 ^ 53 ≤ n) (hr : r < 2 ^ k)
    (h : ¬ (TiesDown n ∧ 0 < r)) :
    nearestRank ((n * 2 ^ k + r) * unitsPerOne) 1 =
      shiftRank (nearestRank (n * unitsPerOne) 1) k := by
  apply Fin.ext
  rw [tiesDown_iff hn, and_assoc] at h
  rw [nearestRank_append hn hr, shiftRank_nearestRank hn, divideEven_append hn hr, if_neg h]
  rfl

theorem significand_lt_topRank_iff {s k : Nat} (hs : 2 ^ 52 ≤ s) (hs' : s < 2 ^ 53) :
    k * 2 ^ 52 + s < topRank ↔ k < 2046 := by
  unfold topRank
  omega

theorem min_succ_topRank (rank : Nat) :
    min (rank + 1) topRank = min (min rank topRank + 1) topRank := by omega

theorem nearestRank_append_of_tiesDown (hn : 2 ^ 53 ≤ n) (hr : r < 2 ^ k) (htie : TiesDown n)
    (hpos : 0 < r) :
    (nearestRank ((n * 2 ^ k + r) * unitsPerOne) 1).val =
      min ((shiftRank (nearestRank (n * unitsPerOne) 1) k).val + 1) topRank ∧
    ((shiftRank (nearestRank (n * unitsPerOne) 1) k).val < topRank ↔ n * 2 ^ k + r < 2 ^ 1024) := by
  obtain ⟨hhalf, heven⟩ := (tiesDown_iff hn).mp htie
  have hdown : divideEven n (2 ^ blockOf n 1) = n / 2 ^ blockOf n 1 := by
    unfold divideEven
    dsimp only
    rw [if_pos (.inr ⟨hhalf, heven⟩)]
  rw [nearestRank_append hn hr, shiftRank_nearestRank hn, divideEven_append hn hr,
    if_pos ⟨hhalf, heven, hpos⟩, hdown, ← Nat.add_assoc]
  refine ⟨min_succ_topRank _, ?_⟩
  have hlong : n * 2 ^ k + r ≠ 0 := (hpos.trans_le (Nat.le_add_left _ _)).ne'
  have hlog : 53 ≤ Nat.log2 n := (Nat.le_log2 (by omega)).mpr hn
  have hblock : blockOf n 1 + 52 = Nat.log2 n := by
    rw [blockOf, Nat.div_one]
    exact Nat.sub_add_cancel (by omega)
  obtain ⟨hquot, hlow⟩ := blockOf_spec n 1
  have hlow' := hlow.resolve_left (by omega)
  rw [Nat.one_mul] at hquot hlow'
  rw [min_lt_iff, or_iff_left (lt_irrefl _), significand_lt_topRank_iff hlow' hquot,
    ← Nat.log2_lt hlong, log2_mul_add (by omega) hr, ← hblock]
  generalize blockOf n 1 = b
  constructor <;> intro h <;> omega

end Append

theorem exists_significand_of_evenRank (hrank : evenRank + j * 2 ^ 52 ≤ rank.val)
    (hfinite : rank.val < topRank) :
    ∃ s k, 2 ^ 52 ≤ s ∧ s < 2 ^ 53 ∧ 1075 + j ≤ k ∧ rank.val = k * 2 ^ 52 + s ∧
      unitsOfRank rank = s * 2 ^ k := by
  obtain ⟨s, k, ⟨hs, hk⟩, -, hsk⟩ := exists_significand_of_rank hfinite
  unfold evenRank at hrank
  have hk' : 1075 + j ≤ k := by omega
  have hs' : 2 ^ 52 ≤ s := by omega
  exact ⟨s, k, hs', hs, hk', hsk, hsk ▸ unitsOfRank_significand ⟨hs, .inr hs'⟩⟩

theorem nearestRank_significand_add {s k r : Nat} (hs : 2 ^ 52 ≤ s) (hs' : s < 2 ^ 53)
    (hr : 2 * r < 2 ^ k) : (nearestRank (s * 2 ^ k + r) 1).val = min (k * 2 ^ 52 + s) topRank := by
  have hblock : blockOf s 1 = 0 := by
    have hlog : Nat.log2 s < 53 := (Nat.log2_lt (by omega)).mpr hs'
    rw [blockOf, Nat.div_one]
    omega
  rw [nearestRank_mul_add hs (by omega), hblock, Nat.zero_add, Nat.pow_zero, Nat.one_mul,
    divideEven_add s (by omega), if_pos (.inl hr)]

theorem mul_two_pow (hrank : evenRank ≤ rank.val) (hj : j ≤ 4) :
    (ranked false rank).mul (ofNat (2 ^ j)) = ranked false (shiftRank rank j) := by
  have hpow : 2 ^ j ≤ 2 ^ 4 := Nat.pow_le_pow_right (by decide) hj
  obtain ⟨p, hp, hpfin, hpunits⟩ := isInteger_ofNat (n := 2 ^ j) (by omega)
  have hp0 : p.val ≠ 0 := by
    intro h0
    rw [h0] at hpunits
    exact (Nat.mul_pos (Nat.two_pow_pos j) unitsPerOne_pos).ne hpunits
  rw [hp, Binary64.mul]
  rcases Nat.lt_or_eq_of_le (Nat.le_of_lt_succ rank.isLt) with hfin | htop
  · obtain ⟨s, k, hs, hs', -, hsk, hunits⟩ := exists_significand_of_evenRank (j := 0) hrank hfin
    have hscale := nearestRank_mul_right (s * 2 ^ (k + j)) 1 unitsPerOne_pos
    have hlarge := nearestRank_significand_add hs hs' (r := 0) (Nat.two_pow_pos (k + j))
    rw [Nat.one_mul] at hscale
    rw [Nat.add_zero (s * 2 ^ (k + j)), Nat.add_mul, Nat.add_right_comm, ← hsk] at hlarge
    rw [if_neg (not_or.mpr ⟨hfin.ne, hpfin.ne⟩), hunits, hpunits, ← Nat.mul_assoc, Nat.mul_assoc s,
      ← Nat.pow_add, hscale]
    exact congrArg _ (Fin.ext hlarge)
  · rw [if_pos (.inl htop), if_neg (not_or.mpr ⟨by rw [htop]; decide, hp0⟩)]
    refine congrArg _ (Fin.ext (Nat.min_eq_right ?_).symm)
    rw [htop]
    exact Nat.le_add_right _ _

theorem add_of_small {d : Nat} (hrank : evenRank + j * 2 ^ 52 ≤ rank.val) (hj : j ≤ 4)
    (hd : d < 2 ^ j) : (ranked false rank).add (ofNat d) = ranked false rank := by
  have hpow : 2 ^ j ≤ 2 ^ 4 := Nat.pow_le_pow_right (by decide) hj
  obtain ⟨q, hq, hqfin, hqunits⟩ := isInteger_ofNat (n := d) (by omega)
  rw [hq]
  rcases Nat.lt_or_eq_of_le (Nat.le_of_lt_succ rank.isLt) with hfin | htop
  · obtain ⟨s, k, hs, hs', hk, hsk, hunits⟩ := exists_significand_of_evenRank hrank hfin
    have hsmall : 2 * (d * unitsPerOne) < 2 ^ k := by
      obtain ⟨e, he, hone⟩ := exists_unitsPerOne
      calc 2 * (d * unitsPerOne) = d * 2 ^ (e + 1) := by
            rw [hone, Nat.pow_succ', Nat.mul_left_comm]
        _ < 2 ^ j * 2 ^ (e + 1) := Nat.mul_lt_mul_of_pos_right hd (Nat.two_pow_pos _)
        _ ≤ 2 ^ k := by
            rw [← Nat.pow_add]
            exact Nat.pow_le_pow_right (by decide) (by omega)
    rw [add_of_lt hfin hqfin, hunits, hqunits]
    refine congrArg _ (Fin.ext ((nearestRank_significand_add hs hs' hsmall).trans ?_))
    rw [← hsk]
    exact Nat.min_eq_left hfin.le
  · unfold Binary64.add
    dsimp only
    rw [if_neg (fun h => hqfin.ne h.2), if_pos htop]

theorem mul_add_of_lt {n d : Nat} (hn : n < 2 ^ 53) (hj : j ≤ 4) (hd : d < 2 ^ j) :
    ((ofNat n).mul (ofNat (2 ^ j))).add (ofNat d) = ofNat (n * 2 ^ j + d) := by
  have hpow : 2 ^ j ≤ 2 ^ 4 := Nat.pow_le_pow_right (by decide) hj
  have hproduct : IsInteger ((ofNat n).mul (ofNat (2 ^ j))) (n * 2 ^ j) := by
    rw [(isInteger_ofNat hn.le).mul (isInteger_ofNat (by omega))]
    rcases Nat.eq_zero_or_pos n with rfl | hpos
    · rw [Nat.zero_mul]
      exact isInteger_ofNat (Nat.zero_le _)
    · exact isInteger_mul_two_pow hpos hn.le (by omega)
  exact hproduct.add (isInteger_ofNat (by omega))

end Binary64

end Switchyard
