import Mathlib.Data.Nat.Digits.Defs
import Switchyard.Json.Coercion
import Switchyard.Proofs.Appending
import Switchyard.Proofs.Numeral.Printed
import Switchyard.Proofs.Numeral.Recognition

/-! Digits of a radix, which are rounded after each step. They stand for the double nearest
to the number that they spell, unless the number is cut off at a tie on the way. -/

namespace Switchyard

namespace Numeral

open Binary64

def value (radix : Nat) (cs : List Char) : Nat :=
  Nat.ofDigits radix (cs.map fun c => (digit? radix c).getD 0).reverse

section Digits

variable {radix j : Nat} {cs ds first rest : List Char}

def AllIn (radix : Nat) (cs : List Char) : Prop := ∀ c ∈ cs, ∃ d < radix, digit? radix c = some d

theorem foldRadix_append (x : Binary64) (hcs : AllIn radix cs) :
    foldRadix radix x (cs ++ ds) = foldRadix radix (foldRadix radix x cs) ds := by
  induction cs generalizing x with
  | nil => rfl
  | cons c cs ih =>
    obtain ⟨⟨d, -, hd⟩, hcs⟩ := List.forall_mem_cons.mp hcs
    rw [List.cons_append, foldRadix, foldRadix, hd]
    exact ih _ hcs

theorem value_append (cs ds : List Char) :
    value radix (cs ++ ds) = value radix cs * radix ^ ds.length + value radix ds := by
  rw [value, List.map_append, List.reverse_append, Nat.ofDigits_append, List.length_reverse,
    List.length_map, Nat.add_comm, Nat.mul_comm]
  rfl

theorem value_append_singleton (cs : List Char) (c : Char) :
    value radix (cs ++ [c]) = value radix cs * radix + (digit? radix c).getD 0 := by
  rw [value_append, List.length_singleton, Nat.pow_one]
  simp only [value, List.map_singleton, List.reverse_singleton, Nat.ofDigits_singleton]

theorem value_lt (hradix : 1 < radix) (hcs : AllIn radix cs) :
    value radix cs < radix ^ cs.length := by
  have hdigits : ∀ n ∈ (cs.map fun c => (digit? radix c).getD 0).reverse, n < radix := by
    intro n hn
    obtain ⟨c, hc, rfl⟩ := List.mem_map.mp (List.mem_reverse.mp hn)
    obtain ⟨d, hd, hdigit⟩ := hcs c hc
    rwa [hdigit]
  have hlt := Nat.ofDigits_lt_base_pow_length hradix hdigits
  rwa [List.length_reverse, List.length_map] at hlt

theorem value_dropLast_le (hradix : 0 < radix) (cs : List Char) :
    value radix cs.dropLast ≤ value radix cs := by
  induction cs using List.reverseRecOn with
  | nil => exact Nat.le_refl _
  | append_singleton cs c _ =>
    rw [List.dropLast_concat, value_append_singleton]
    exact (Nat.le_mul_of_pos_right _ hradix).trans (Nat.le_add_right _ _)

theorem foldRadix_of_dropLast_lt (hj : j ≤ 4) (hds : AllIn (2 ^ j) ds)
    (h : value (2 ^ j) ds.dropLast < 2 ^ 53) :
    foldRadix (2 ^ j) zero ds = ofNat (value (2 ^ j) ds) := by
  induction ds using List.reverseRecOn with
  | nil =>
    show zero = ofNat 0
    decide
  | append_singleton ds c ih =>
    obtain ⟨hds, hc⟩ := List.forall_mem_append.mp hds
    obtain ⟨d, hd, hdigit⟩ := List.forall_mem_singleton.mp hc
    rw [List.dropLast_concat] at h
    have hinit := ih hds ((value_dropLast_le (Nat.two_pow_pos j) ds).trans_lt h)
    rw [foldRadix_append _ hds, hinit, value_append_singleton, foldRadix, hdigit]
    exact mul_add_of_lt h hj hd

theorem foldRadix_of_evenRank (hj : j ≤ 4) (hrest : AllIn (2 ^ j) rest)
    {rank : Fin (topRank + 1)} (hrank : evenRank ≤ rank.val) :
    foldRadix (2 ^ j) (.ranked false rank) rest =
      .ranked false (shiftRank rank (j * rest.length)) := by
  induction rest generalizing rank with
  | nil => rw [foldRadix, List.length_nil, Nat.mul_zero, shiftRank_zero]
  | cons c rest ih =>
    obtain ⟨⟨d, hd, hdigit⟩, hrest⟩ := List.forall_mem_cons.mp hrest
    have hnext := le_shiftRank hrank hj
    rw [foldRadix, hdigit]
    dsimp only
    rw [mul_two_pow hrank hj, add_of_small hnext hj hd,
      ih hrest ((Nat.le_add_right _ _).trans hnext), shiftRank_shiftRank, List.length_cons,
      Nat.mul_succ, Nat.add_comm j]

/-- The digits up to the first one with which they spell `2 ^ 53` or more. -/
structure Leads (radix : Nat) (first : List Char) : Prop where
  before : value radix first.dropLast < 2 ^ 53
  filled : 2 ^ 53 ≤ value radix first

theorem exists_leads (h : 2 ^ 53 ≤ value radix ds) :
    ∃ first rest, ds = first ++ rest ∧ Leads radix first := by
  induction ds using List.reverseRecOn with
  | nil => exact absurd h (show ¬ 2 ^ 53 ≤ 0 by decide)
  | append_singleton ds c ih =>
    by_cases hinit : 2 ^ 53 ≤ value radix ds
    · obtain ⟨first, rest, rfl, hfirst⟩ := ih hinit
      exact ⟨first, rest ++ [c], List.append_assoc .., hfirst⟩
    · refine ⟨ds ++ [c], [], (List.append_nil _).symm, ?_, h⟩
      rw [List.dropLast_concat]
      exact Nat.lt_of_not_le hinit

theorem exists_digit (h : radix ∈ [16, 8, 2]) {c : Char} (hc : c ∈ alphabet radix) :
    ∃ d < radix, digit? radix c = some d := by
  obtain ⟨d, hd⟩ := Option.ne_none_iff_exists'.mp ((digit?_ne_none_iff h c).mpr hc)
  have hfiltered := hd
  unfold digit? at hfiltered
  exact ⟨d, of_decide_eq_true (Option.filter_eq_some_iff.mp hfiltered).2, hd⟩

theorem evenRank_le_nearestRank {n : Nat} (hn : 2 ^ 53 ≤ n) :
    evenRank ≤ (nearestRank (n * unitsPerOne) 1).val := by
  have hrank : (nearestRank (2 ^ 53 * unitsPerOne) 1).val = evenRank := by decide +kernel
  rw [← hrank]
  exact nearestRank_mono 1 (Nat.mul_le_mul_right _ hn)

/-- The digits up to `2 ^ 53` are rounded once, and those behind them scale the result. -/
theorem Leads.foldRadix_eq (h : Leads (2 ^ j) first) (hj : j ≤ 4) (hfirst : AllIn (2 ^ j) first)
    (hrest : AllIn (2 ^ j) rest) :
    foldRadix (2 ^ j) zero (first ++ rest) =
      .ranked false (shiftRank (nearestRank (value (2 ^ j) first * unitsPerOne) 1)
        (j * rest.length)) := by
  rw [foldRadix_append _ hfirst, foldRadix_of_dropLast_lt hj hfirst h.before]
  exact foldRadix_of_evenRank hj hrest (evenRank_le_nearestRank h.filled)

/-- The digits up to `2 ^ 53` end at a tie between two doubles, and they go down to the even
one, while the number is above the tie by the digits behind them. -/
def RoundsLow (radix : Nat) (ds : List Char) : Prop :=
  ∃ first rest, ds = first ++ rest ∧ Leads radix first ∧ TiesDown (value radix first) ∧
    0 < value radix rest ∧ value radix ds < 2 ^ 1024

theorem value_append_two_pow (first rest : List Char) :
    value (2 ^ j) (first ++ rest) =
      value (2 ^ j) first * 2 ^ (j * rest.length) + value (2 ^ j) rest := by
  rw [value_append, Nat.pow_mul]

theorem value_lt_two_pow (hj : 0 < j) (hcs : AllIn (2 ^ j) cs) :
    value (2 ^ j) cs < 2 ^ (j * cs.length) := by
  rw [Nat.pow_mul]
  exact value_lt (Nat.one_lt_two_pow hj.ne') hcs

theorem foldRadix_of_not_roundsLow (hj0 : 0 < j) (hj : j ≤ 4) (hds : AllIn (2 ^ j) ds)
    (h : ¬ RoundsLow (2 ^ j) ds) : foldRadix (2 ^ j) zero ds = ofNat (value (2 ^ j) ds) := by
  by_cases hsmall : value (2 ^ j) ds < 2 ^ 53
  · exact foldRadix_of_dropLast_lt hj hds
      ((value_dropLast_le (Nat.two_pow_pos j) ds).trans_lt hsmall)
  · obtain ⟨first, rest, rfl, hlead⟩ := exists_leads (Nat.le_of_not_lt hsmall)
    obtain ⟨hfirst, hrest⟩ := List.forall_mem_append.mp hds
    have hlt := value_lt_two_pow hj0 hrest
    rw [hlead.foldRadix_eq hj hfirst hrest, value_append_two_pow]
    refine congrArg _ ?_
    by_cases htie : TiesDown (value (2 ^ j) first) ∧ 0 < value (2 ^ j) rest
    · -- only infinity is left then, on both sides
      obtain ⟨hnext, hfinite⟩ := nearestRank_append_of_tiesDown hlead.filled hlt htie.1 htie.2
      rw [← value_append_two_pow] at hnext hfinite ⊢
      have hlarge := mt hfinite.mp fun hlt => h ⟨first, rest, rfl, hlead, htie.1, htie.2, hlt⟩
      apply Fin.ext
      rw [hnext, min_eq_right (Nat.le_succ_of_le (Nat.le_of_not_lt hlarge))]
      exact Nat.le_antisymm (Nat.le_of_lt_succ (Fin.isLt _)) (Nat.le_of_not_lt hlarge)
    · exact (nearestRank_append_of_not hlead.filled hlt htie).symm

theorem RoundsLow.key?_foldRadix (hj0 : 0 < j) (hj : j ≤ 4) (hds : AllIn (2 ^ j) ds)
    (h : RoundsLow (2 ^ j) ds) :
    ∃ rank : Int, (foldRadix (2 ^ j) zero ds).key? = some rank ∧
      (ofNat (value (2 ^ j) ds)).key? = some (rank + 1) := by
  obtain ⟨first, rest, rfl, hlead, htie, hpos, hfinite⟩ := h
  obtain ⟨hfirst, hrest⟩ := List.forall_mem_append.mp hds
  obtain ⟨hnext, htop⟩ :=
    nearestRank_append_of_tiesDown hlead.filled (value_lt_two_pow hj0 hrest) htie hpos
  rw [← value_append_two_pow] at hnext htop
  rw [hlead.foldRadix_eq hj hfirst hrest]
  refine ⟨_, rfl, ?_⟩
  show some _ = some _
  rw [hnext, Nat.min_eq_left (htop.mpr hfinite)]
  rfl

end Digits

theorem exists_two_pow {radix : Nat} (h : radix ∈ [16, 8, 2]) :
    ∃ j, 0 < j ∧ j ≤ 4 ∧ radix = 2 ^ j := by
  simp only [List.mem_cons, List.not_mem_nil, or_false] at h
  rcases h with rfl | rfl | rfl
  · exact ⟨4, by decide, by decide, rfl⟩
  · exact ⟨3, by decide, by decide, rfl⟩
  · exact ⟨1, by decide, by decide, rfl⟩

theorem isPadding_of_mem_alphabet {radix : Nat} (h : radix ∈ [16, 8, 2]) {c : Char}
    (hc : c ∈ alphabet radix) : isPadding c = false := by
  have hall : ∀ r ∈ [16, 8, 2], (alphabet r).all (fun c => !isPadding c) = true := by decide
  simpa using List.all_eq_true.mp (hall radix h) c hc

theorem ofString_radix {radix : Nat} {letter : Char} {ds : List Char}
    (h : (radix, letter) ∈ radixLetters) (hne : ds ≠ []) (hds : ∀ c ∈ ds, c ∈ alphabet radix) :
    ofString (String.ofList ('0' :: letter :: ds)) = foldRadix radix .zero ds := by
  have htrimmed : Trims (String.ofList ('0' :: letter :: ds)) ('0' :: letter :: ds) := by
    refine ⟨⟨[], [], ?_, nofun⟩, ?_, ?_⟩
    · simp
    · rintro c ⟨⟩
      decide
    · intro c hc
      rw [List.getLast?_cons_cons, List.getLast?_cons_of_ne_nil hne] at hc
      exact isPadding_of_mem_alphabet (radix_mem_of_letter h) (hds c (List.mem_of_getLast? hc))
  rw [ofString, ← trims_iff.mp htrimmed, ofTrimmed_radix h, ofRadix, if_neg (by simpa using hne)]

theorem mem_alphabet_of_all {radix : Nat} {ds : List Char}
    (h : ds.all (alphabet radix).contains = true) : ∀ c ∈ ds, c ∈ alphabet radix := fun c hc =>
  List.contains_iff_mem.mp (List.all_eq_true.mp h c hc)

end Numeral

open Numeral

/-- Digits of a radix stand for the double nearest to their number, as decimal digits of that
number do, exactly if they do not lose a tie on the way. Otherwise they stand for the double
in front of it. -/
theorem Json.toBinary64_radix_eq_ofNat_iff {radix : Nat} {letter : Char} {ds : List Char}
    (h : (radix, letter) ∈ radixLetters) (hne : ds ≠ []) (hds : ∀ c ∈ ds, c ∈ alphabet radix) :
    let x := (Json.str (String.ofList ('0' :: letter :: ds))).toBinary64
    let nearest := Binary64.ofNat (Numeral.value radix ds)
    (x = nearest ↔ ¬ RoundsLow radix ds) ∧
      (RoundsLow radix ds → ∃ rank : Int, x.key? = some rank ∧ nearest.key? = some (rank + 1)) ∧
      ∀ decimal : List Char, decimal ≠ [] → Digits.All decimal →
        Digits.value decimal = Numeral.value radix ds →
          (Json.str (String.ofList decimal)).toBinary64 = nearest := by
  intro x nearest
  have hx : x = foldRadix radix .zero ds := ofString_radix h hne hds
  have hradix := radix_mem_of_letter h
  have hall : AllIn radix ds := fun c hc => exists_digit hradix (hds c hc)
  obtain ⟨j, hj0, hj, rfl⟩ := exists_two_pow hradix
  have hlow : RoundsLow (2 ^ j) ds →
      ∃ rank : Int, x.key? = some rank ∧ nearest.key? = some (rank + 1) := by
    rw [hx]
    exact RoundsLow.key?_foldRadix hj0 hj hall
  refine ⟨⟨fun heq hround => ?_, fun hround => ?_⟩, hlow, fun decimal hd hd' hvalue => ?_⟩
  · obtain ⟨rank, hrank, hnext⟩ := hlow hround
    rw [heq, hnext] at hrank
    have := Option.some.inj hrank
    omega
  · rw [hx]
    exact foldRadix_of_not_roundsLow hj0 hj hall hround
  · show ofString (String.ofList decimal) = _
    rw [ofString_digits hd hd', hvalue]

/-- Fourteen digits end at a tie, and the last of nine more says that the number is above it. -/
theorem Json.toBinary64_radix_below_nearest :
    let ds := "20000000000001000000001".toList
    let x := (Json.str "0x20000000000001000000001").toBinary64
    let nearest := Binary64.ofNat (Numeral.value 16 ds)
    RoundsLow 16 ds ∧ (∃ rank : Int, x.key? = some rank ∧ nearest.key? = some (rank + 1)) ∧
      (Json.str "618970019642690206169038849").toBinary64 = nearest := by
  intro ds x nearest
  have hlow : RoundsLow 16 ds := by
    refine ⟨"20000000000001".toList, "000000001".toList, rfl, ⟨?_, ?_⟩, ?_, ?_, ?_⟩
    · decide +kernel
    · decide +kernel
    · exact ⟨2 ^ 53 + 1, 0, by decide +kernel, by decide, by decide, by decide⟩
    · decide +kernel
    · decide +kernel
  have hdigits : ∀ c ∈ ds, c ∈ alphabet 16 := mem_alphabet_of_all (by decide)
  have hletter : (16, 'x') ∈ radixLetters := by decide
  obtain ⟨-, hbelow, hdecimal⟩ := toBinary64_radix_eq_ofNat_iff hletter (by decide) hdigits
  refine ⟨hlow, hbelow hlow, ?_⟩
  exact hdecimal "618970019642690206169038849".toList (by decide) (by decide) (by decide +kernel)

theorem Json.not_toBinary64_radix_eq_ofNat :
    ¬ ∀ (radix : Nat) (letter : Char) (ds : List Char), (radix, letter) ∈ radixLetters → ds ≠ [] →
      (∀ c ∈ ds, c ∈ alphabet radix) →
        (Json.str (String.ofList ('0' :: letter :: ds))).toBinary64 =
          .ofNat (Numeral.value radix ds) := by
  intro h
  have hdigits : ∀ c ∈ "200000000000011".toList, c ∈ alphabet 16 := mem_alphabet_of_all (by decide)
  have heq := h 16 'x' "200000000000011".toList (by decide) (by decide) hdigits
  have hkey : (Json.str "0x200000000000011").toBinary64.key? ≠
      (Binary64.ofNat (Numeral.value 16 "200000000000011".toList)).key? := by decide +kernel
  exact hkey (congrArg _ heq)

end Switchyard
