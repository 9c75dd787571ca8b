import Switchyard.Proofs.Command.Run
import Switchyard.Proofs.Json.Printing

/-! The framing of outcomes: routing documents writes one line for each, in their
order, and what stands in a line depends on its own document alone. -/

namespace Switchyard

theorem Json.Printing.not_mem {cs : List Char} (h : Printing cs) {c : Char} (hc : c.toNat < 0x20) :
    c ∉ cs := fun hmem => Nat.not_le_of_lt hc (h c hmem)

namespace Documents

def unlines (ls : List (List Char)) : List Char := ls.flatMap (· ++ ['\n'])

theorem unlines_cons (l : List Char) (ls : List (List Char)) :
    unlines (l :: ls) = l ++ '\n' :: unlines ls := by
  simp [unlines]

theorem splitOn_unlines {ls : List (List Char)} (h : ∀ l ∈ ls, Json.Printing l) :
    (unlines ls).splitOn '\n' = ls ++ [[]] := by
  induction ls with
  | nil => rfl
  | cons l rest ih =>
    obtain ⟨hl, hrest⟩ := List.forall_mem_cons.mp h
    rw [unlines_cons, splitOn_append (hl.not_mem (by decide)), ih hrest, List.cons_append]

theorem lines_unlines {ls : List (List Char)} (h : ∀ l ∈ ls, Json.Printing l) :
    lines (unlines ls) = ls := by
  induction ls with
  | nil => rfl
  | cons l rest ih =>
    obtain ⟨hl, hrest⟩ := List.forall_mem_cons.mp h
    rw [unlines_cons, lines_append (hl.not_mem (by decide)),
      dropReturn_of_not_mem (hl.not_mem (by decide)), ih hrest]

theorem unlines_eq_nil_iff {ls : List (List Char)} : unlines ls = [] ↔ ls = [] := by
  cases ls with
  | nil => exact iff_of_true rfl rfl
  | cons l rest => simp [unlines_cons]

theorem getLast?_unlines {ls : List (List Char)} (h : ls ≠ []) :
    (unlines ls).getLast? = some '\n' := by
  obtain ⟨before, last, rfl⟩ := (List.eq_nil_or_concat' ls).resolve_left h
  simp [unlines]

end Documents

/-- A text made of lines: a line break follows each of them and none is inside,
nor is any other character that comes before the blank. -/
structure Framed (text : String) (lines : List (List Char)) : Prop where
  parts : text.toList.splitOn '\n' = lines ++ [[]]
  lines_eq : Documents.lines text.toList = lines
  empty_iff : text = "" ↔ lines = []
  ends : lines ≠ [] → text.toList.getLast? = some '\n'
  printing : ∀ line ∈ lines, Json.Printing line

theorem framed_unlines {lines : List (List Char)} (h : ∀ line ∈ lines, Json.Printing line) :
    Framed (String.ofList (Documents.unlines lines)) lines where
  parts := by rw [String.toList_ofList, Documents.splitOn_unlines h]
  lines_eq := by rw [String.toList_ofList, Documents.lines_unlines h]
  empty_iff := by rw [String.ofList_eq_empty_iff, Documents.unlines_eq_nil_iff]
  ends hne := by rw [String.toList_ofList, Documents.getLast?_unlines hne]
  printing := h

theorem Configuration.routedText_eq_unlines (c : Configuration) (documents : List Json) :
    c.routedText documents =
      String.ofList (Documents.unlines (documents.map fun d =>
        (Json.obj [("matchedOutputs", .arr ((c.route d).map .ofUInt64)), ("data", d)]).write)) := by
  rw [routedText, Documents.unlines, List.flatMap_map]
  rfl

/-- Routing documents writes exactly one line for each: an object of the outputs that the
document goes to by itself and of the document, printed without a line break. -/
theorem Run.framed_routeDocuments (c : Configuration) (documents : List Json) :
    ∃ text, Job.Writes (routeDocuments (m := Id) c documents) () text ∧
      Framed text (documents.map fun d =>
        (Json.obj [("matchedOutputs", .arr ((c.route d).map .ofUInt64)), ("data", d)]).write) ∧
      text = String.join (documents.map fun d => outcomeLine (c.route d) d) := by
  refine ⟨_, routeDocuments_writes c documents, ?_, c.routedText_eq_join documents⟩
  rw [Configuration.routedText_eq_unlines]
  refine framed_unlines fun line hline => ?_
  obtain ⟨d, -, rfl⟩ := List.mem_map.mp hline
  exact Json.printing_write _

end Switchyard
