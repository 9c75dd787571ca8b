import Mathlib.Data.List.DropRight
import Switchyard.Proofs.Digits
import Switchyard.Text.Blank

/-! Trimming: what is dropped at the ends of a text, and that what is left has nothing
to drop at either end. -/

namespace Switchyard.Text

structure Trimmed (s : String) : Prop where
  head : ∀ c ∈ s.toList.head?, isBlank c = false
  last : ∀ c ∈ s.toList.getLast?, isBlank c = false

def Blank (s : String) : Prop := ∀ c ∈ s.toList, isBlank c = true

variable {drop : Char → Bool} {cs : List Char} {c : Char}

theorem trimWhere_eq (drop : Char → Bool) (cs : List Char) :
    trimWhere drop cs = (cs.dropWhile drop).rdropWhile drop := rfl

theorem exists_eq_trimWhere (drop : Char → Bool) (cs : List Char) :
    ∃ before after, cs = before ++ trimWhere drop cs ++ after ∧
      (∀ c ∈ before, drop c = true) ∧ ∀ c ∈ after, drop c = true := by
  refine ⟨cs.takeWhile drop, (cs.dropWhile drop).rtakeWhile drop, ?_,
    fun c => List.mem_takeWhile_imp, fun c => List.mem_rtakeWhile_imp⟩
  rw [trimWhere_eq, List.append_assoc, List.rdropWhile_append_rtakeWhile,
    List.takeWhile_append_dropWhile]

theorem head?_trimWhere (h : c ∈ (trimWhere drop cs).head?) : drop c = false := by
  obtain ⟨rest, hrest⟩ := List.head?_eq_some_iff.mp h
  -- what is dropped at the end leaves the first character where it was
  obtain ⟨after, hafter⟩ := List.rdropWhile_prefix drop (l := cs.dropWhile drop)
  rw [← trimWhere_eq, hrest, List.cons_append] at hafter
  have hhead := List.dropWhile_get_zero_not drop cs (by rw [← hafter]; exact Nat.zero_lt_succ _)
  simpa [← hafter] using hhead

theorem getLast?_trimWhere (h : c ∈ (trimWhere drop cs).getLast?) : drop c = false := by
  obtain ⟨hne, rfl⟩ := List.mem_getLast?_eq_getLast h
  exact Bool.eq_false_iff.mpr (List.rdropWhile_last_not drop (cs.dropWhile drop) hne)

theorem dropWhile_append_eq {before text : List Char} (rest : List Char)
    (hbefore : ∀ c ∈ before, drop c = true) (hne : text ≠ [])
    (htext : ∀ c ∈ text.head?, drop c = false) :
    (before ++ (text ++ rest)).dropWhile drop = text ++ rest := by
  obtain ⟨c, cs, rfl⟩ := List.exists_cons_of_ne_nil hne
  rw [List.dropWhile_append_of_pos hbefore]
  exact List.dropWhile_cons_of_neg (Bool.eq_false_iff.mp (htext c rfl))

theorem trimWhere_append {before text after : List Char}
    (hbefore : ∀ c ∈ before, drop c = true) (hafter : ∀ c ∈ after, drop c = true)
    (hhead : ∀ c ∈ text.head?, drop c = false) (hlast : ∀ c ∈ text.getLast?, drop c = false) :
    trimWhere drop (before ++ text ++ after) = text := by
  by_cases hne : text = []
  · subst hne
    have hall : ∀ c ∈ before ++ after, drop c = true := List.forall_mem_append.mpr ⟨hbefore, hafter⟩
    have hdrop : (before ++ after).dropWhile drop = [] := List.dropWhile_eq_nil_iff.mpr hall
    rw [trimWhere, List.append_nil, hdrop]
    rfl
  · have hback : (after.reverse ++ (text.reverse ++ [])).dropWhile drop = text.reverse ++ [] :=
      dropWhile_append_eq [] (by simpa using hafter) (by simpa using hne) (by simpa using hlast)
    rw [List.append_nil] at hback
    rw [trimWhere, List.append_assoc, dropWhile_append_eq after hbefore hne hhead,
      List.reverse_append, hback, List.reverse_reverse]

theorem trimmed_trim (s : String) : Trimmed (trim s) := by
  constructor <;> rw [trim, String.toList_ofList]
  · exact fun c => head?_trimWhere
  · exact fun c => getLast?_trimWhere

theorem exists_eq_trim (s : String) :
    ∃ before after, s = before ++ trim s ++ after ∧ Blank before ∧ Blank after := by
  obtain ⟨before, after, hs, hbefore, hafter⟩ := exists_eq_trimWhere isBlank s.toList
  refine ⟨String.ofList before, String.ofList after, ?_, ?_, ?_⟩
  · rw [trim, ← String.ofList_append, ← String.ofList_append, ← hs, String.ofList_toList]
  · rwa [Blank, String.toList_ofList]
  · rwa [Blank, String.toList_ofList]

theorem blank_of_trim_eq_empty {s : String} (h : trim s = "") : Blank s := by
  obtain ⟨before, after, hs, hbefore, hafter⟩ := exists_eq_trim s
  rw [h, String.append_empty] at hs
  rw [hs, Blank, String.toList_append]
  exact List.forall_mem_append.mpr ⟨hbefore, hafter⟩

theorem isBlank_of_isDigit (h : Digits.isDigit c = true) : isBlank c = false := by
  have hrange := Digits.toNat_of_isDigit h
  rw [isBlank]
  simp only [Bool.or_eq_false_iff, Bool.and_eq_false_iff, decide_eq_false_iff_not,
    beq_eq_false_iff_ne]
  omega

end Switchyard.Text
