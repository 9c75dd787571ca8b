import Mathlib.Data.List.Forall2
import Switchyard.Command.Documents

/-! Which documents a text holds: the text as a whole, or each of its lines
that is not blank, has to be one document. -/

namespace Switchyard.Documents

def Spells (line : List Char) (document : Json) : Prop := Json.read (String.ofList line) = .ok document

def Holds (text : String) (byLine : Bool) (documents : List Json) : Prop :=
  if byLine then
    List.Forall₂ Spells ((lines text.toList).filter fun line => !isBlank line) documents
  else ∃ document, Json.read text = .ok document ∧ documents = [document]

theorem readLines_cons_of_blank {number : Nat} {line : List Char} {rest : List (List Char)}
    (h : isBlank line = true) : readLines number (line :: rest) = readLines (number + 1) rest := by
  rw [readLines, if_pos h]

theorem readLines_cons_eq_ok_iff {number : Nat} {line : List Char} {rest : List (List Char)}
    {documents : List Json} (h : ¬ isBlank line = true) :
    readLines number (line :: rest) = .ok documents ↔
      ∃ first others, Spells line first ∧ readLines (number + 1) rest = .ok others ∧
        documents = first :: others := by
  rw [readLines, if_neg h]
  unfold Spells
  cases Json.read (String.ofList line) with
  | error fault => simp
  | ok first =>
    cases readLines (number + 1) rest with
    | error fault => simp [Except.map]
    | ok others => simp [Except.map, eq_comm]

theorem readLines_eq_ok_iff {number : Nat} {ls : List (List Char)} {documents : List Json} :
    readLines number ls = .ok documents ↔
      List.Forall₂ Spells (ls.filter fun line => !isBlank line) documents := by
  induction ls generalizing number documents with
  | nil => rw [readLines, List.filter_nil, List.forall₂_nil_left_iff, Except.ok.injEq, eq_comm]
  | cons line rest ih =>
    by_cases hblank : isBlank line = true
    · rw [readLines_cons_of_blank hblank, ih, List.filter_cons_of_neg (by simp [hblank])]
    · rw [readLines_cons_eq_ok_iff hblank, List.filter_cons_of_pos (by simpa using hblank),
        List.forall₂_cons_left_iff]
      simp only [ih, exists_and_left]

theorem read_eq_ok_iff {text : String} {byLine : Bool} {documents : List Json} :
    read text byLine = .ok documents ↔ Holds text byLine documents := by
  unfold read Holds
  cases byLine with
  | true => exact readLines_eq_ok_iff
  | false =>
    cases hread : Json.read text with
    | error fault => simp
    | ok document => simp [eq_comm]

theorem exists_read_of_mem {text : String} {byLine : Bool} {documents : List Json}
    (h : read text byLine = .ok documents) {document : Json} (hmem : document ∈ documents) :
    ∃ part, Json.read part = .ok document := by
  rw [read_eq_ok_iff] at h
  unfold Holds at h
  split_ifs at h with hlines
  · obtain ⟨n, hn, hget⟩ := List.mem_iff_getElem.mp hmem
    have hline := h.get (i := n) (by rw [h.length_eq]; exact hn) hn
    rw [List.get_eq_getElem, List.get_eq_getElem, hget] at hline
    exact ⟨_, hline⟩
  · obtain ⟨v, hread, rfl⟩ := h
    obtain rfl := List.mem_singleton.mp hmem
    exact ⟨text, hread⟩

theorem beq_newline_of_not_mem {line : List Char} (h : '\n' ∉ line) :
    ∀ c ∈ line, (c == '\n') = false := by
  intro c hc
  rw [beq_eq_false_iff_ne]
  rintro rfl
  exact h hc

theorem splitOn_append {line : List Char} (h : '\n' ∉ line) (rest : List Char) :
    (line ++ '\n' :: rest).splitOn '\n' = line :: rest.splitOn '\n' :=
  List.splitOnP_append_cons_of_forall_mem (beq_newline_of_not_mem h) '\n' rfl rest

theorem lines_append {line : List Char} (h : '\n' ∉ line) (rest : List Char) :
    lines (line ++ '\n' :: rest) = dropReturn line :: lines rest := by
  -- splitting takes the line off, and the last part of the rest stays the last part
  have hne : rest.splitOn '\n' ≠ [] := List.splitOnP_ne_nil _ _
  unfold lines
  dsimp only
  rw [splitOn_append h, List.dropLast_cons_of_ne_nil hne, List.getLast?_cons, List.map_cons,
    List.cons_append]
  rw [List.getLast?_eq_some_getLast hne]
  rfl

theorem dropReturn_of_not_mem {line : List Char} (h : '\r' ∉ line) : dropReturn line = line := by
  unfold dropReturn
  rw [if_neg]
  exact fun hlast => h (List.mem_of_getLast? hlast)

end Switchyard.Documents
