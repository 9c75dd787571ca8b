import Mathlib.Data.List.Forall2
import Switchyard.Path
import Switchyard.Proofs.Digits

/-! Paths and their display. Of all texts only `word[digits]` is read as a key with a
position. Display writes the position without superfluous zeros and everything else as
it was read, so what it writes is the normal form of a path. -/

namespace Switchyard

namespace Segment

/-- The text `word[digits]`: a word of letters, digits and underscores, and the digits
of a number of 64 bits. -/
structure Indexes (cs word ds : List Char) : Prop where
  text : cs = word ++ '[' :: (ds ++ [']'])
  word_ne_nil : word ≠ []
  wordChars : ∀ c ∈ word, isWordChar c = true
  digits_ne_nil : ds ≠ []
  digits : Digits.All ds
  fits : Digits.value ds < 0x10000000000000000

variable {cs word ds : List Char}

theorem position?_eq_some_iff {i : UInt64} :
    position? ds = some i ↔
      (ds ≠ [] ∧ Digits.All ds ∧ Digits.value ds < 0x10000000000000000) ∧
        i = .ofNat (Digits.value ds) := by
  unfold position?
  rw [Option.ite_none_right_eq_some, Option.some.injEq, eq_comm (a := i)]
  simp [Digits.All, and_assoc]

theorem exists_eq_of_brackets {inner : List Char} (hopen : cs.dropWhile (· != '[') = '[' :: inner)
    (hclose : cs.getLast? = some ']') :
    cs = cs.takeWhile (· != '[') ++ '[' :: (inner.dropLast ++ [']']) := by
  have hsplit : cs = cs.takeWhile (· != '[') ++ '[' :: inner := by
    rw [← hopen, List.takeWhile_append_dropWhile]
  have hlast : ('[' :: inner).getLast? = some ']' := by
    rw [hsplit, List.getLast?_append_of_ne_nil _ (List.cons_ne_nil _ _)] at hclose
    exact hclose
  have hinner : inner.getLast? = some ']' := by
    cases inner with
    | nil => cases hlast
    | cons c rest => exact hlast
  rw [List.dropLast_append_getLast? ']' hinner, ← hsplit]

theorem splitIndex?_eq_some_iff {name : String} {i : UInt64} :
    splitIndex? cs = some (name, i) ↔
      ∃ ds, Indexes cs name.toList ds ∧ i = .ofNat (Digits.value ds) := by
  unfold splitIndex?
  constructor
  · intro h
    split at h
    · next hopen hclose =>
      rw [Option.ite_none_right_eq_some, Option.map_eq_some_iff] at h
      obtain ⟨hword, j, hposition, heq⟩ := h
      obtain ⟨rfl, rfl⟩ := Prod.mk.inj heq
      obtain ⟨⟨hne, hdigits, hfits⟩, rfl⟩ := position?_eq_some_iff.mp hposition
      simp only [Bool.and_eq_true, Bool.not_eq_true', List.isEmpty_eq_false_iff,
        List.all_eq_true] at hword
      refine ⟨_, ⟨?_, ?_, ?_, hne, hdigits, hfits⟩, rfl⟩
      · rw [String.toList_ofList]
        exact exists_eq_of_brackets hopen hclose
      · rw [String.toList_ofList]
        exact hword.1
      · rw [String.toList_ofList]
        exact hword.2
    · cases h
  · rintro ⟨ds, h, rfl⟩
    have hbefore : ∀ c ∈ name.toList, (c != '[') = true := fun c hc =>
      bne_iff_ne.mpr (ne_of_apply_ne isWordChar (by rw [h.wordChars c hc]; decide))
    have htake : cs.takeWhile (· != '[') = name.toList := by
      rw [h.text, List.takeWhile_append_of_pos hbefore]
      simp
    have hdrop : cs.dropWhile (· != '[') = '[' :: (ds ++ [']']) := by
      rw [h.text, List.dropWhile_append_of_pos hbefore]
      simp
    have hlast : cs.getLast? = some ']' := by
      rw [h.text, ← List.cons_append, ← List.append_assoc, List.getLast?_concat]
    have hposition : position? ds = some (.ofNat (Digits.value ds)) :=
      position?_eq_some_iff.mpr ⟨⟨h.digits_ne_nil, h.digits, h.fits⟩, rfl⟩
    have hword : (!name.toList.isEmpty && name.toList.all isWordChar) = true := by
      simpa [h.word_ne_nil] using h.wordChars
    rw [htake, hdrop, hlast]
    change (if (!name.toList.isEmpty && name.toList.all isWordChar) = true then
      (position? (ds ++ [']']).dropLast).map (String.ofList name.toList, ·) else none) = _
    rw [if_pos hword, List.dropLast_concat, hposition, Option.map_some, String.ofList_toList]

theorem Indexes.parse_eq (h : Indexes cs word ds) :
    parse cs = indexed (String.ofList word) (.ofNat (Digits.value ds)) := by
  have hsplit : splitIndex? cs = some (String.ofList word, .ofNat (Digits.value ds)) :=
    splitIndex?_eq_some_iff.mpr ⟨ds, by rwa [String.toList_ofList], rfl⟩
  rw [parse, hsplit]

theorem parse_of_not_indexes (h : ¬ ∃ word ds, Indexes cs word ds) :
    parse cs = key (String.ofList cs) := by
  have hsplit : splitIndex? cs = none := by
    refine Option.eq_none_iff_forall_ne_some.mpr fun ⟨name, i⟩ hsome => ?_
    obtain ⟨ds, hds, -⟩ := splitIndex?_eq_some_iff.mp hsome
    exact h ⟨_, ds, hds⟩
  rw [parse, hsplit]

theorem parse_eq_indexed_iff {name : String} {i : UInt64} :
    parse cs = indexed name i ↔ ∃ ds, Indexes cs name.toList ds ∧ i = .ofNat (Digits.value ds) := by
  rw [← splitIndex?_eq_some_iff]
  unfold parse
  cases splitIndex? cs <;> simp [Prod.ext_iff]

theorem Indexes.display_eq (h : Indexes cs word ds) :
    (parse cs).display = word ++ '[' :: (Digits.ofNat (Digits.value ds) ++ [']']) := by
  rw [h.parse_eq, display, String.toList_ofList, UInt64.toNat_ofNat_of_lt' h.fits]

theorem display_of_not_indexes (h : ¬ ∃ word ds, Indexes cs word ds) : (parse cs).display = cs := by
  rw [parse_of_not_indexes h, display, String.toList_ofList]

theorem Indexes.normal (h : Indexes cs word ds) :
    Indexes (word ++ '[' :: (Digits.ofNat (Digits.value ds) ++ [']'])) word
      (Digits.ofNat (Digits.value ds)) where
  text := rfl
  word_ne_nil := h.word_ne_nil
  wordChars := h.wordChars
  digits_ne_nil := Digits.ofNat_ne_nil _
  digits := Digits.all_ofNat _
  fits := by rw [Digits.value_ofNat]; exact h.fits

theorem parse_display_parse (cs : List Char) : parse (parse cs).display = parse cs := by
  by_cases h : ∃ word ds, Indexes cs word ds
  · obtain ⟨word, ds, h⟩ := h
    rw [h.display_eq, h.normal.parse_eq, h.parse_eq, Digits.value_ofNat]
  · rw [display_of_not_indexes h]

def PaddedIndex (cs : List Char) : Prop :=
  ∃ name i ds, parse cs = indexed name i ∧ cs = name.toList ++ '[' :: (ds ++ [']']) ∧
    Digits.Padded ds

theorem Indexes.paddedIndex_iff (h : Indexes cs word ds) : PaddedIndex cs ↔ Digits.Padded ds := by
  constructor
  · rintro ⟨name, i, ds', hparse, htext, hpadded⟩
    obtain ⟨rfl, -⟩ := Segment.indexed.inj (h.parse_eq.symm.trans hparse)
    rw [h.text, String.toList_ofList, List.append_cancel_left_eq, List.cons.injEq,
      List.append_cancel_right_eq] at htext
    rwa [htext.2]
  · intro hpadded
    refine ⟨_, _, ds, h.parse_eq, ?_, hpadded⟩
    rw [String.toList_ofList]
    exact h.text

theorem display_parse_eq_self_iff (cs : List Char) :
    (parse cs).display = cs ↔ ¬ PaddedIndex cs := by
  by_cases h : ∃ word ds, Indexes cs word ds
  · obtain ⟨word, ds, h⟩ := h
    rw [h.paddedIndex_iff, ← Digits.ofNat_value_eq_self_iff h.digits_ne_nil h.digits, h.display_eq]
    conv_lhs => rhs; rw [h.text]
    simp
  · refine iff_of_true (display_of_not_indexes h) ?_
    rintro ⟨name, i, ds, hparse, -⟩
    obtain ⟨ds, hds, -⟩ := parse_eq_indexed_iff.mp hparse
    exact h ⟨_, ds, hds⟩

theorem dot_not_mem_brackets (hword : ∀ c ∈ word, isWordChar c = true) (hds : Digits.All ds) :
    '.' ∉ word ++ '[' :: (ds ++ [']']) := by
  intro hdot
  simp only [List.mem_append, List.mem_cons, List.not_mem_nil] at hdot
  rcases hdot with hmem | hopen | hdigit | hclose | hnone
  · exact absurd (hword _ hmem) (by decide)
  · cases hopen
  · exact absurd (hds _ hdigit) (by decide)
  · cases hclose
  · exact hnone

theorem dot_not_mem_display (h : '.' ∉ cs) : '.' ∉ (parse cs).display := by
  by_cases hindexes : ∃ word ds, Indexes cs word ds
  · obtain ⟨word, ds, hindexes⟩ := hindexes
    rw [hindexes.display_eq]
    exact dot_not_mem_brackets hindexes.wordChars (Digits.all_ofNat _)
  · rwa [display_of_not_indexes hindexes]

theorem eq_nil_of_display_eq_nil (h : (parse cs).display = []) : cs = [] := by
  by_cases hindexes : ∃ word ds, Indexes cs word ds
  · obtain ⟨word, ds, hindexes⟩ := hindexes
    rw [hindexes.display_eq, List.append_eq_nil_iff] at h
    exact absurd h.1 hindexes.word_ne_nil
  · rwa [display_of_not_indexes hindexes] at h

/-- How a segment of a path is shown: a position in as few digits as it takes, and
whatever is no position as it was written. -/
structure ShownAs (cs shown : List Char) : Prop where
  position : ∀ word ds, Indexes cs word ds →
    shown = word ++ '[' :: (Digits.ofNat (Digits.value ds) ++ [']'])
  plain : (¬ ∃ word ds, Indexes cs word ds) → shown = cs

theorem shownAs_display (cs : List Char) : ShownAs cs (parse cs).display :=
  ⟨fun _ _ h => h.display_eq, display_of_not_indexes⟩

end Segment

namespace Path

theorem dot_not_mem_of_mem_splitDots {cs text : List Char} (h : cs ∈ splitDots text) : '.' ∉ cs := by
  induction text generalizing cs with
  | nil =>
    obtain rfl := List.mem_singleton.mp h
    exact List.not_mem_nil
  | cons c rest ih =>
    obtain ⟨first, others, hrest⟩ := List.exists_cons_of_ne_nil (List.splitOn_ne_nil '.' rest)
    have ih' {part : List Char} (hpart : part ∈ first :: others) : '.' ∉ part :=
      ih (by rwa [splitDots, hrest])
    rw [splitDots, List.splitOn_cons_eq_if_modifyHead, hrest] at h
    split_ifs at h with hdot
    · rcases List.mem_cons.mp h with rfl | hmem
      · exact List.not_mem_nil
      · exact ih' hmem
    · rcases List.mem_cons.mp h with rfl | hmem
      · have hne : '.' ≠ c := fun heq => hdot (beq_iff_eq.mpr heq.symm)
        exact List.not_mem_cons_of_ne_of_not_mem hne (ih' List.mem_cons_self)
      · exact ih' (List.mem_cons_of_mem _ hmem)

def shown (text : String) : List (List Char) :=
  (splitDots text.toList).map fun cs => (Segment.parse cs).display

theorem display_parse (text : String) :
    (parse text).display = String.ofList (['.'].intercalate (shown text)) := by
  unfold parse
  split_ifs with hempty
  · subst hempty
    rfl
  · rw [display, List.map_map]
    rfl

theorem splitDots_display (text : String) : splitDots (parse text).display.toList = shown text := by
  rw [display_parse, String.toList_ofList]
  refine List.splitOn_intercalate '.' (fun cs hcs => ?_) ?_
  · obtain ⟨part, hpart, rfl⟩ := List.mem_map.mp hcs
    exact Segment.dot_not_mem_display (dot_not_mem_of_mem_splitDots hpart)
  · rw [shown, Ne, List.map_eq_nil_iff]
    exact List.splitOn_ne_nil '.' _

theorem intercalate_splitDots (text : List Char) : ['.'].intercalate (splitDots text) = text :=
  List.intercalate_splitOn '.'

theorem display_eq_empty_iff (text : String) : (parse text).display = "" ↔ text = "" := by
  constructor
  · intro h
    have hshown : shown text = [[]] := by
      rw [← splitDots_display, h]
      rfl
    obtain ⟨cs, hsplit, hcs⟩ := List.map_eq_singleton_iff.mp hshown
    obtain rfl := Segment.eq_nil_of_display_eq_nil hcs
    have htext := intercalate_splitDots text.toList
    rw [hsplit] at htext
    exact String.toList_injective htext.symm
  · rintro rfl
    rfl

theorem parse_display (text : String) : parse (parse text).display = parse text := by
  by_cases hempty : text = ""
  · subst hempty
    rfl
  · have hdisplay : (parse text).display ≠ "" := mt (display_eq_empty_iff text).mp hempty
    rw [parse, if_neg hdisplay, splitDots_display, parse, if_neg hempty, shown, List.map_map]
    congr 1
    exact List.map_congr_left fun cs _ => Segment.parse_display_parse cs

theorem display_parse_eq_self_iff (text : String) :
    (parse text).display = text ↔ shown text = splitDots text.toList := by
  constructor
  · intro h
    rw [← splitDots_display, h]
  · intro h
    rw [display_parse, h, intercalate_splitDots, String.ofList_toList]

/-- Display is a normal form of paths: it is read as the same path, it is the text itself
unless a position in it has superfluous zeros, and it changes nothing but these zeros. -/
theorem display_normal_form (text : String) :
    parse (parse text).display = parse text ∧
      ((parse text).display = text ↔ ∀ cs ∈ splitDots text.toList, ¬ Segment.PaddedIndex cs) ∧
      List.Forall₂ Segment.ShownAs (splitDots text.toList)
        (splitDots (parse text).display.toList) := by
  refine ⟨parse_display text, ?_, ?_⟩
  · have hself : shown text = splitDots text.toList ↔
        ∀ cs ∈ splitDots text.toList, (Segment.parse cs).display = cs := by
      rw [shown]
      conv_lhs => rhs; rw [← List.map_id (splitDots text.toList)]
      exact List.map_inj_left
    rw [display_parse_eq_self_iff, hself]
    exact forall₂_congr fun cs _ => Segment.display_parse_eq_self_iff cs
  · rw [splitDots_display, shown, List.forall₂_map_right_iff, List.forall₂_same]
    exact fun cs _ => Segment.shownAs_display cs

example :
    (parse "a..b[007].é[1].c[18446744073709551616].d[x]]..").display =
      "a..b[7].é[1].c[18446744073709551616].d[x]].." := by
  decide +kernel

end Path

end Switchyard
