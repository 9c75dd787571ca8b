import Mathlib.Data.List.Basic
import Switchyard.Digits

/-! Digits and the numbers they spell: a number has one spelling without a zero in
front of it, and further digits continue it. -/

namespace Switchyard.Digits

def All (cs : List Char) : Prop := ∀ c ∈ cs, isDigit c = true

instance (cs : List Char) : Decidable (All cs) := List.decidableBAll _ cs

theorem isDigit_eq (c : Char) : isDigit c = c.isDigit := by
  simp only [isDigit, Char.isDigit, Char.le_def, Char.reduceVal, ge_iff_le]

theorem all_ofNat (n : Nat) : All (ofNat n) := by
  intro c hc
  rw [isDigit_eq]
  exact Nat.isDigit_of_mem_toDigits (by decide) (by decide) hc

theorem ofNat_ne_nil (n : Nat) : ofNat n ≠ [] := Nat.toDigits_ne_nil

theorem value_ofNat (n : Nat) : value (ofNat n) = n := Nat.ofDigitChars_toDigits (by decide) (by decide)

theorem toString_inj {m n : Nat} (h : toString m = toString n) : m = n := by
  have hdigits : ofNat m = ofNat n := by
    rw [ofNat, ofNat, ← Nat.toList_repr, ← Nat.toList_repr]
    exact congrArg String.toList h
  rw [← value_ofNat m, hdigits, value_ofNat]

theorem All.append {cs ds : List Char} (hc : All cs) (hd : All ds) : All (cs ++ ds) := by
  intro c h
  rcases List.mem_append.mp h with h | h
  · exact hc c h
  · exact hd c h

theorem all_replicate_zero (n : Nat) : All (List.replicate n '0') := by
  intro c h
  rw [(List.mem_replicate.mp h).2]
  decide

theorem ne_of_isDigit {c d : Char} (hc : isDigit c = true) (hd : isDigit d = false) : c ≠ d := by
  rintro rfl
  rw [hd] at hc
  cases hc

theorem All.head {c : Char} {cs : List Char} (h : All (c :: cs)) : isDigit c = true :=
  h c List.mem_cons_self

theorem All.tail {c : Char} {cs : List Char} (h : All (c :: cs)) : All cs :=
  fun d hd => h d (List.mem_cons_of_mem c hd)

theorem head?_ofNat_ne_zero {n : Nat} (h : n ≠ 0) : (ofNat n).head? ≠ some '0' := by
  induction n using Nat.strongRecOn with
  | ind n ih =>
    unfold ofNat
    by_cases hsmall : n < 10
    · rw [Nat.toDigits_of_lt_base hsmall]
      have hall : ∀ m < 10, m ≠ 0 → [Nat.digitChar m].head? ≠ some '0' := by decide
      exact hall n hsmall h
    · rw [Nat.toDigits_of_base_le (by decide) (by omega)]
      obtain ⟨c, cs, hcs⟩ := List.exists_cons_of_ne_nil (ofNat_ne_nil (n / 10))
      have hhead := ih (n / 10) (by omega) (by omega)
      unfold ofNat at hcs hhead
      rw [hcs] at hhead ⊢
      exact hhead

theorem le_valueFrom (start : Nat) (cs : List Char) : start ≤ valueFrom start cs := by
  induction cs generalizing start with
  | nil => exact Nat.le_refl start
  | cons c cs ih =>
    have hnext := ih (10 * start + (c.toNat - '0'.toNat))
    change start ≤ valueFrom (10 * start + (c.toNat - '0'.toNat)) cs
    omega

theorem toNat_of_isDigit {c : Char} (h : isDigit c = true) : 48 ≤ c.toNat ∧ c.toNat ≤ 57 := by
  simpa [isDigit, Char.le_def, UInt32.le_iff_toNat_le] using h

theorem digitChar_of_isDigit {c : Char} (h : isDigit c = true) :
    c.toNat - '0'.toNat < 10 ∧ Nat.digitChar (c.toNat - '0'.toNat) = c := by
  have hrange := toNat_of_isDigit h
  have hlt : c.toNat - '0'.toNat < 10 := by show c.toNat - 48 < 10; omega
  refine ⟨hlt, ?_⟩
  apply Char.toNat_inj.mp
  rw [Nat.toNat_digitChar_of_lt_ten hlt]
  show 48 + (c.toNat - 48) = c.toNat
  omega

theorem ofNat_append {start : Nat} {cs : List Char} (hpos : 0 < start) (hcs : All cs) :
    ofNat start ++ cs = ofNat (valueFrom start cs) := by
  induction cs generalizing start with
  | nil => exact List.append_nil _
  | cons c cs ih =>
    obtain ⟨hlt, hchar⟩ := digitChar_of_isDigit hcs.head
    have hstep : ofNat start ++ [c] = ofNat (10 * start + (c.toNat - '0'.toNat)) := by
      have hdigit := Nat.toDigits_append_toDigits (b := 10) (by decide) hpos hlt
      rwa [Nat.toDigits_of_lt_base hlt, hchar] at hdigit
    calc ofNat start ++ c :: cs
        = (ofNat start ++ [c]) ++ cs := List.append_cons ..
      _ = ofNat (10 * start + (c.toNat - '0'.toNat)) ++ cs := by rw [hstep]
      _ = ofNat (valueFrom start (c :: cs)) := ih (by omega) hcs.tail

def Padded (ds : List Char) : Prop := ∃ rest, rest ≠ [] ∧ ds = '0' :: rest

theorem ofNat_value_eq_self_iff {ds : List Char} (hne : ds ≠ []) (hds : All ds) :
    ofNat (value ds) = ds ↔ ¬ Padded ds := by
  constructor
  · rintro h ⟨rest, hrest, rfl⟩
    by_cases hzero : value ('0' :: rest) = 0
    · rw [hzero] at h
      exact hrest (List.cons.inj h).2.symm
    · exact head?_ofNat_ne_zero hzero (by rw [h]; rfl)
  · intro h
    obtain ⟨c, cs, rfl⟩ := List.exists_cons_of_ne_nil hne
    obtain ⟨hlt, hchar⟩ := digitChar_of_isDigit hds.head
    by_cases hc : c = '0'
    · subst hc
      obtain rfl : cs = [] := not_not.mp fun hcs => h ⟨cs, hcs, rfl⟩
      rfl
    · have hpos : 0 < c.toNat - '0'.toNat := by
        refine Nat.pos_of_ne_zero fun hzero => hc ?_
        rw [← hchar, hzero]
        rfl
      have hfirst : ofNat (c.toNat - '0'.toNat) = [c] := by
        rw [ofNat, Nat.toDigits_of_lt_base hlt, hchar]
      have happend := ofNat_append hpos hds.tail
      rw [hfirst] at happend
      have hvalue : value (c :: cs) = valueFrom (c.toNat - '0'.toNat) cs := by
        simp only [value, valueFrom, List.foldl_cons, Nat.mul_zero, Nat.zero_add]
      rw [hvalue, ← happend]
      rfl

end Switchyard.Digits
