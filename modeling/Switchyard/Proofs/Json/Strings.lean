import Mathlib.Data.List.Basic
import Switchyard.Json.Printer
import Switchyard.Json.Reader.Basic

/-! Printed strings: every character is escaped so that the reader gets it back,
and nothing below a blank remains in the text. -/

namespace Switchyard.Json

open Reader

theorem hexDigit?_lowerHex {n : Nat} (h : n < 16) : hexDigit? (lowerHex n) = some n := by
  have hall : ∀ m < 16, hexDigit? (lowerHex m) = some m := by decide
  exact hall n h

theorem lowerHex_mod (n : Nat) : lowerHex (n % 16) = lowerHex n := by
  unfold lowerHex
  rw [Nat.mod_mod]

theorem unicodeEscape_control {c : Char} (h : c.toNat < 0x20) (rest : List Char) :
    unicodeEscape ('0' :: '0' :: lowerHex (c.toNat / 16) :: lowerHex c.toNat :: rest) =
      .ok (c, rest) := by
  have hzero : hexDigit? '0' = some 0 := by decide
  have hhigh : hexDigit? (lowerHex (c.toNat / 16)) = some (c.toNat / 16) :=
    hexDigit?_lowerHex (by omega)
  have hlow : hexDigit? (lowerHex c.toNat) = some (c.toNat % 16) := by
    rw [← lowerHex_mod]
    exact hexDigit?_lowerHex (Nat.mod_lt _ (by decide))
  have hquad : hexQuad ('0' :: '0' :: lowerHex (c.toNat / 16) :: lowerHex c.toNat :: rest) =
      .ok (c.toNat, rest) := by
    simp only [hexQuad, hzero, hhigh, hlow]
    congr 2
    omega
  simp only [unicodeEscape, hquad]
  rw [if_neg (by omega), if_neg (by omega), Char.ofNat_toNat]

theorem stringTail_plain {c : Char} (hquote : c ≠ '"') (hslash : c ≠ '\\') (h : ¬ c.toNat < 0x20)
    (fuel : Nat) (acc rest : List Char) :
    stringTail (fuel + 1) acc (c :: rest) = stringTail fuel (c :: acc) rest := by
  rw [stringTail]
  · exact if_neg h
  · exact hquote
  · exact fun heq _ => hslash heq
  · exact fun _ heq _ => hslash heq
  · exact fun _ _ heq _ => hslash heq

theorem stringTail_escape (fuel : Nat) (acc : List Char) (c : Char) (rest : List Char) :
    stringTail (fuel + 1) acc (escape c ++ rest) = stringTail fuel (c :: acc) rest := by
  unfold escape
  split_ifs with h1 h2 h3 h4 h5 h6 h7 h8
  · rw [h1]; rfl
  · rw [h2]; rfl
  · rw [h3]; rfl
  · rw [h4]; rfl
  · rw [h5]; rfl
  · rw [h6]; rfl
  · rw [h7]; rfl
  · simp only [List.cons_append, List.nil_append, stringTail, unicodeEscape_control h8]
  · exact stringTail_plain h1 h2 h8 fuel acc rest

theorem length_flatMap_escape (cs : List Char) : cs.length ≤ (cs.flatMap escape).length := by
  induction cs with
  | nil => exact Nat.le_refl 0
  | cons c rest ih =>
    have hone : 1 ≤ (escape c).length := by
      unfold escape
      split_ifs <;> simp
    rw [List.flatMap_cons, List.length_append, List.length_cons]
    omega

theorem stringTail_flatMap_escape {fuel : Nat} {cs : List Char} (hfuel : cs.length < fuel)
    (acc rest : List Char) :
    stringTail fuel acc (cs.flatMap escape ++ '"' :: rest) =
      .ok (String.ofList (acc.reverse ++ cs), rest) := by
  induction cs generalizing fuel acc with
  | nil =>
    obtain ⟨fuel, rfl⟩ := Nat.exists_eq_succ_of_ne_zero (Nat.ne_of_gt hfuel)
    simp [stringTail]
  | cons c cs ih =>
    obtain ⟨fuel, rfl⟩ := Nat.exists_eq_succ_of_ne_zero (Nat.ne_of_gt (Nat.zero_lt_of_lt hfuel))
    have hless : cs.length < fuel := by
      rw [List.length_cons] at hfuel
      omega
    rw [List.flatMap_cons, List.append_assoc, stringTail_escape, ih hless]
    simp

theorem string_flatMap_escape (s : String) (rest : List Char) :
    Reader.string (s.toList.flatMap escape ++ '"' :: rest) = .ok (s, rest) := by
  have hfuel : s.toList.length < (s.toList.flatMap escape ++ '"' :: rest).length + 1 := by
    have hlength := length_flatMap_escape s.toList
    rw [List.length_append]
    omega
  unfold Reader.string
  rw [stringTail_flatMap_escape hfuel]
  simp

def Printing (cs : List Char) : Prop := ∀ c ∈ cs, 0x20 ≤ c.toNat

instance (cs : List Char) : Decidable (Printing cs) := List.decidableBAll _ cs

theorem Printing.nil : Printing [] := nofun

theorem Printing.cons {c : Char} {cs : List Char} (hc : 0x20 ≤ c.toNat) (hcs : Printing cs) :
    Printing (c :: cs) := List.forall_mem_cons.mpr ⟨hc, hcs⟩

theorem Printing.append {cs ds : List Char} (hcs : Printing cs) (hds : Printing ds) :
    Printing (cs ++ ds) := List.forall_mem_append.mpr ⟨hcs, hds⟩

theorem printing_lowerHex (n : Nat) : 0x20 ≤ (lowerHex n).toNat := by
  have hall : ∀ m < 16, 0x20 ≤ (lowerHex m).toNat := by decide
  rw [← lowerHex_mod]
  exact hall _ (Nat.mod_lt _ (by decide))

theorem printing_escape (c : Char) : Printing (escape c) := by
  unfold escape
  split_ifs with h1 h2 h3 h4 h5 h6 h7 h8
  iterate 7
    · exact .cons (by decide) (.cons (by decide) .nil)
  · exact .cons (by decide) (.cons (by decide) (.cons (by decide) (.cons (by decide)
      (.cons (printing_lowerHex _) (.cons (printing_lowerHex _) .nil)))))
  · exact .cons (by omega) .nil

theorem printing_writeString (s : String) : Printing (writeString s) := by
  refine .cons (by decide) (.append ?_ (.cons (by decide) .nil))
  intro d hd
  obtain ⟨c, -, hc⟩ := List.mem_flatMap.mp hd
  exact printing_escape c d hc

end Switchyard.Json
