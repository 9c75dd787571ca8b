import Mathlib.Logic.Relation
import Switchyard.Proofs.Command.Documents
import Switchyard.Proofs.Decoding.Locality
import Switchyard.Proofs.Trimming

/-! Reading by lines. The documents of two texts with a newline between them are those of the
one and then those of the other; so neither blank lines nor returns at the ends of lines matter. -/

namespace Switchyard

namespace Json

theorem read_concat_eq_ok_iff {line : List Char} {c : Char} (hc : Reader.isBlank c = true) {v : Json} :
    read (String.ofList (line ++ [c])) = .ok v ↔ read (String.ofList line) = .ok v := by
  have hread (t : String) : read t = Decoder.json.ofText t := rfl
  rw [hread, hread, Decoder.ofText_eq_ok_iff Decoder.local_json,
    Decoder.ofText_eq_ok_iff Decoder.local_json, String.toList_ofList, String.toList_ofList]
  constructor
  · rintro ⟨⟨before, text, after, hafter⟩, htext, hdecodes⟩
    rw [Padded.onto, List.append_nil] at htext
    rcases List.eq_nil_or_concat' after with rfl | ⟨others, last, rfl⟩
    · -- the value would end in a blank
      have hlast := congrArg List.getLast? htext
      rw [List.append_nil, List.getLast?_concat,
        List.getLast?_append_of_ne_nil _ (List.ne_nil_of_length_pos hdecodes.form.length_pos)] at hlast
      have hnot := hdecodes.form.isBlank_getLast? c hlast.symm
      rw [hc] at hnot
      cases hnot
    · simp only [← List.append_assoc] at htext
      obtain ⟨hline, -⟩ := List.append_inj' htext rfl
      refine ⟨⟨before, text, others, (List.forall_mem_append.mp hafter).1⟩, ?_, hdecodes⟩
      rw [hline, Padded.onto, List.append_nil, List.append_assoc]
  · rintro ⟨p, htext, hdecodes⟩
    refine ⟨⟨p.before, p.value, p.after.append ⟨[c], List.forall_mem_singleton.mpr hc⟩⟩, ?_, hdecodes⟩
    rw [htext, Padded.onto_append]
    simp only [Padded.onto, Blanks.append, List.nil_append, List.append_nil]

end Json

namespace Documents

theorem lines_of_not_mem {line : List Char} (h : '\n' ∉ line) :
    lines line = if line = [] then [] else [line] := by
  have hsplit : line.splitOn '\n' = [line] :=
    List.splitOnP_eq_singleton (beq_newline_of_not_mem h)
  rw [lines, hsplit]
  by_cases hempty : line = []
  · rw [if_pos hempty, hempty]
    rfl
  · rw [if_neg hempty]
    simp [hempty]

@[elab_as_elim]
theorem lines_induction {motive : List Char → Prop} (text : List Char)
    (last : ∀ line, '\n' ∉ line → motive line)
    (ended : ∀ line rest, '\n' ∉ line → motive rest → motive (line ++ '\n' :: rest)) :
    motive text := by
  by_cases hmem : '\n' ∈ text
  · obtain ⟨line, rest, htext, hline⟩ := List.eq_append_cons_of_mem hmem
    have hshorter : rest.length < text.length := by
      rw [htext, List.length_append, List.length_cons]
      omega
    rw [htext]
    exact ended line rest hline (lines_induction rest last ended)
  · exact last text hmem
termination_by text.length

/-- A text and its lines. A newline ends a line, with the carriage return before it if there is
one; what is left after the last newline is a line if it is anything. -/
inductive HasLines : List Char → List (List Char) → Prop
  | empty : HasLines [] []
  | last {line : List Char} : line ≠ [] → '\n' ∉ line → HasLines line [line]
  | ended {line rest : List Char} {others : List (List Char)} : '\n' ∉ line →
    line.getLast? ≠ some '\r' → HasLines rest others →
    HasLines (line ++ '\n' :: rest) (line :: others)
  | returned {line rest : List Char} {others : List (List Char)} : '\n' ∉ line →
    HasLines rest others → HasLines (line ++ '\r' :: '\n' :: rest) (line :: others)

theorem hasLines_lines (text : List Char) : HasLines text (lines text) := by
  induction text using lines_induction with
  | last line h =>
    rw [lines_of_not_mem h]
    split_ifs with hempty
    · rw [hempty]
      exact .empty
    · exact .last hempty h
  | ended line rest h ih =>
    rw [lines_append h]
    unfold dropReturn
    split_ifs with hreturn
    · obtain ⟨front, rfl⟩ := List.getLast?_eq_some_iff.mp hreturn
      rw [List.dropLast_concat, List.append_assoc]
      exact .returned (fun hmem => h (List.mem_append_left _ hmem)) ih
    · exact .ended h hreturn ih

def Gives (ls : List (List Char)) (documents : List Json) : Prop :=
  List.Forall₂ Spells (ls.filter fun line => !isBlank line) documents

theorem gives_nil {documents : List Json} : Gives [] documents ↔ documents = [] :=
  List.forall₂_nil_left_iff

theorem gives_append {ls ls' : List (List Char)} {documents : List Json} :
    Gives (ls ++ ls') documents ↔
      ∃ left right, Gives ls left ∧ Gives ls' right ∧ documents = left ++ right := by
  unfold Gives
  rw [List.filter_append]
  constructor
  · intro h
    have hflip := @List.Forall₂.flip _ _ (flip Spells) _ _ h
    exact ⟨_, _, (List.forall₂_take_append _ _ _ hflip).flip,
      (List.forall₂_drop_append _ _ _ hflip).flip, (List.take_append_drop _ _).symm⟩
  · rintro ⟨left, right, hleft, hright, rfl⟩
    exact List.rel_append hleft hright

theorem isBlank_concat {line : List Char} {c : Char} (hc : Text.isBlank c = true) :
    isBlank (line ++ [c]) = isBlank line := by
  rw [isBlank, isBlank, List.all_append, List.all_cons, hc, List.all_nil, Bool.and_self,
    Bool.and_true]

def Alike (ls ls' : List (List Char)) : Prop := ∀ documents, Gives ls documents ↔ Gives ls' documents

theorem Alike.refl (ls : List (List Char)) : Alike ls ls := fun _ => Iff.rfl

section Alike

variable {ls ls' ls'' ks ks' : List (List Char)}

theorem Alike.symm (h : Alike ls ls') : Alike ls' ls := fun documents => (h documents).symm

theorem Alike.trans (h : Alike ls ls') (h' : Alike ls' ls'') : Alike ls ls'' :=
  fun documents => (h documents).trans (h' documents)

theorem Alike.append (h : Alike ls ls') (hk : Alike ks ks') : Alike (ls ++ ks) (ls' ++ ks') := by
  intro documents
  rw [gives_append, gives_append]
  simp only [h _, hk _]

end Alike

theorem alike_concat {line : List Char} {c : Char} (hblank : Text.isBlank c = true)
    (hspace : Json.Reader.isBlank c = true) : Alike [line ++ [c]] [line] := by
  intro documents
  unfold Gives
  rw [List.filter_singleton, List.filter_singleton, isBlank_concat hblank]
  cases isBlank line with
  | true => rfl
  | false =>
    have hspells (document : Json) : Spells (line ++ [c]) document ↔ Spells line document :=
      Json.read_concat_eq_ok_iff hspace
    simp [List.forall₂_cons_left_iff, hspells]

theorem alike_return (line : List Char) : Alike [line ++ ['\r']] [line] :=
  alike_concat (by decide) (by decide)

theorem alike_dropReturn (line : List Char) : Alike [dropReturn line] [line] := by
  unfold dropReturn
  split_ifs with hreturn
  · obtain ⟨front, rfl⟩ := List.getLast?_eq_some_iff.mp hreturn
    rw [List.dropLast_concat]
    exact (alike_return front).symm
  · exact .refl _

theorem alike_of_isBlank {line : List Char} (h : isBlank line = true) : Alike [line] [] := by
  intro documents
  rw [Gives, List.filter_cons_of_neg (by simp [h])]
  rfl

theorem alike_lines {line : List Char} (h : '\n' ∉ line) : Alike (lines line) [line] := by
  rw [lines_of_not_mem h]
  split_ifs with hempty
  · rw [hempty]
    exact (alike_of_isBlank rfl).symm
  · exact .refl _

theorem alike_lines_append (before after : List Char) :
    Alike (lines (before ++ '\n' :: after)) (lines before ++ lines after) := by
  induction before using lines_induction with
  | last line h =>
    rw [lines_append h]
    exact ((alike_dropReturn line).trans (alike_lines h).symm).append (.refl (lines after))
  | ended line rest h ih =>
    rw [List.append_assoc, List.cons_append, lines_append h, lines_append h]
    exact (Alike.refl [dropReturn line]).append ih

theorem alike_lines_return (text : List Char) : Alike (lines (text ++ ['\r'])) (lines text) := by
  induction text using lines_induction with
  | last line h =>
    have hreturn : '\n' ∉ line ++ ['\r'] := by simpa using h
    exact ((alike_lines hreturn).trans (alike_return line)).trans (alike_lines h).symm
  | ended line rest h ih =>
    rw [List.append_assoc, List.cons_append, lines_append h, lines_append h]
    exact (Alike.refl [dropReturn line]).append ih

theorem alike_lines_blank {text : List Char} (hblank : isBlank text = true) :
    Alike (lines text) [] := by
  induction text using lines_induction with
  | last line h => exact (alike_lines h).trans (alike_of_isBlank hblank)
  | ended line rest h ih =>
    rw [isBlank, List.all_append, List.all_cons, Bool.and_eq_true, Bool.and_eq_true] at hblank
    obtain ⟨hline, -, hrest⟩ := hblank
    rw [lines_append h]
    exact ((alike_dropReturn line).trans (alike_of_isBlank hline)).append (ih hrest)

theorem gives_singleton {line : List Char} {documents : List Json} (h : ¬ isBlank line = true) :
    Gives [line] documents ↔ ∃ document, Spells line document ∧ documents = [document] := by
  rw [Gives, List.filter_cons_of_pos (by simpa using h), List.forall₂_cons_left_iff]
  simp only [List.filter_nil, List.forall₂_nil_left_iff, exists_and_left, ↓existsAndEq, true_and]

def Passes (line : List Char) : Prop := isBlank line = true ∨ ∃ document, Spells line document

theorem passes_iff {line : List Char} : Passes line ↔ ∃ documents, Gives [line] documents := by
  by_cases hblank : isBlank line = true
  · exact iff_of_true (.inl hblank) ⟨[], (alike_of_isBlank hblank []).mpr (gives_nil.mpr rfl)⟩
  · rw [Passes, or_iff_right hblank]
    simp only [gives_singleton hblank]
    constructor
    · rintro ⟨document, hread⟩
      exact ⟨[document], document, hread, rfl⟩
    · rintro ⟨-, document, hread, -⟩
      exact ⟨document, hread⟩

theorem exists_gives_iff {ls : List (List Char)} :
    (∃ documents, Gives ls documents) ↔ ∀ line ∈ ls, Passes line := by
  induction ls with
  | nil => exact iff_of_true ⟨[], gives_nil.mpr rfl⟩ (List.forall_mem_nil _)
  | cons line rest ih =>
    rw [List.forall_mem_cons, ← ih, passes_iff]
    constructor
    · rintro ⟨documents, h⟩
      obtain ⟨left, right, hleft, hright, -⟩ := (@gives_append [line] rest _).mp h
      exact ⟨⟨left, hleft⟩, right, hright⟩
    · rintro ⟨⟨left, hleft⟩, right, hright⟩
      exact ⟨_, (@gives_append [line] rest _).mpr ⟨left, right, hleft, hright, rfl⟩⟩

/-- The first line that does not pass: how many lines stand before it, blank ones included, and
what is wrong with it. -/
inductive FailsAfter : Nat → Json.TextFault → List (List Char) → Prop
  | here {fault : Json.TextFault} {line : List Char} {rest : List (List Char)} :
    isBlank line = false → Json.read (String.ofList line) = .error fault →
    FailsAfter 0 fault (line :: rest)
  | later {before : Nat} {fault : Json.TextFault} {line : List Char} {rest : List (List Char)} :
    Passes line → FailsAfter before fault rest → FailsAfter (before + 1) fault (line :: rest)

theorem readLines_cons_eq_error_iff {number : Nat} {line : List Char} {rest : List (List Char)}
    {fault : DocumentFault} (h : Passes line) :
    readLines number (line :: rest) = .error fault ↔ readLines (number + 1) rest = .error fault := by
  by_cases hblank : isBlank line = true
  · rw [readLines_cons_of_blank hblank]
  · obtain ⟨document, hread⟩ := h.resolve_left hblank
    unfold Spells at hread
    rw [readLines, if_neg hblank, hread]
    cases readLines (number + 1) rest <;> simp [Except.map]

theorem not_failsAfter_of_passes {fault : Json.TextFault} {line : List Char}
    {rest : List (List Char)} (h : Passes line) : ¬ FailsAfter 0 fault (line :: rest) := by
  rintro (⟨hblank, hfault⟩ | _)
  rcases h with hline | ⟨document, hread⟩
  · exact Bool.eq_false_iff.mp hblank hline
  · cases hfault.symm.trans hread

theorem readLines_eq_error_iff {number : Nat} {ls : List (List Char)} {fault : DocumentFault} :
    readLines number ls = .error fault ↔
      ∃ before f, FailsAfter before f ls ∧ fault = .line (number + before) f := by
  induction ls generalizing number with
  | nil =>
    rw [readLines]
    exact iff_of_false (fun h => by cases h) (by rintro ⟨_, _, ⟨⟩, _⟩)
  | cons line rest ih =>
    by_cases hpasses : Passes line
    · rw [readLines_cons_eq_error_iff hpasses, ih]
      constructor
      · rintro ⟨before, f, hfails, rfl⟩
        exact ⟨before + 1, f, .later hpasses hfails, by rw [Nat.add_right_comm, Nat.add_assoc]⟩
      · rintro ⟨_ | before, f, hfails, rfl⟩
        · exact absurd hfails (not_failsAfter_of_passes hpasses)
        · obtain _ | ⟨-, hrest⟩ := hfails
          exact ⟨before, f, hrest, by rw [Nat.add_right_comm, Nat.add_assoc]⟩
    · obtain ⟨hblank, hnone⟩ := not_or.mp hpasses
      cases hread : Json.read (String.ofList line) with
      | ok document => exact absurd ⟨document, hread⟩ hnone
      | error f =>
        rw [readLines, if_neg hblank, hread]
        constructor
        · intro h
          exact ⟨0, f, .here (Bool.eq_false_iff.mpr hblank) hread, (Except.error.inj h).symm⟩
        · rintro ⟨before, f', hfails, rfl⟩
          cases hfails with
          | here _ hread' =>
            obtain rfl := Except.error.inj (hread.symm.trans hread')
            rfl
          | later h => exact absurd h hpasses

inductive Relined : String → String → Prop
  | blank {before blank after : String} : Text.Blank blank →
    Relined (before ++ "\n" ++ after) (before ++ "\n" ++ blank ++ "\n" ++ after)
  | blankFirst {blank text : String} : Text.Blank blank → Relined text (blank ++ "\n" ++ text)
  | blankLast {blank text : String} : Text.Blank blank → Relined text (text ++ "\n" ++ blank)
  | returned {before after : String} :
    Relined (before ++ "\n" ++ after) (before ++ "\r\n" ++ after)

theorem isBlank_toList {text : String} : isBlank text.toList = true ↔ Text.Blank text :=
  List.all_eq_true

theorem toList_append_newline (before after : String) :
    (before ++ "\n" ++ after).toList = before.toList ++ '\n' :: after.toList := by
  rw [String.toList_append, String.toList_append, List.append_assoc]
  rfl

theorem alike_append_newline (before after : String) :
    Alike (lines (before ++ "\n" ++ after).toList) (lines before.toList ++ lines after.toList) := by
  rw [toList_append_newline]
  exact alike_lines_append _ _

theorem alike_joined {before before' after after' : String}
    (h : Alike (lines before.toList) (lines before'.toList))
    (h' : Alike (lines after.toList) (lines after'.toList)) :
    Alike (lines (before ++ "\n" ++ after).toList) (lines (before' ++ "\n" ++ after').toList) :=
  ((alike_append_newline _ _).trans (h.append h')).trans (alike_append_newline _ _).symm

theorem alike_append_blank (text : String) {blank : String} (h : Text.Blank blank) :
    Alike (lines text.toList) (lines (text ++ "\n" ++ blank).toList) := by
  have hnone := alike_lines_blank (isBlank_toList.mpr h)
  have hboth := (Alike.refl (lines text.toList)).append hnone.symm
  rw [List.append_nil] at hboth
  exact hboth.trans (alike_append_newline _ _).symm

theorem Relined.alike {text text' : String} (h : Relined text text') :
    Alike (lines text.toList) (lines text'.toList) := by
  cases h with
  | @blank before blank after hblank => exact alike_joined (alike_append_blank before hblank) (.refl _)
  | @blankFirst blank text hblank =>
    have hnone := alike_lines_blank (isBlank_toList.mpr hblank)
    exact (hnone.symm.append (.refl (lines text.toList))).trans (alike_append_newline _ _).symm
  | @blankLast blank text hblank => exact alike_append_blank text hblank
  | @returned before after =>
    have hsplit : before ++ "\r\n" ++ after = before ++ "\r" ++ "\n" ++ after := by
      rw [@String.append_assoc before "\r" "\n"]
      rfl
    rw [hsplit]
    refine alike_joined ?_ (.refl _)
    rw [String.toList_append]
    exact (alike_lines_return _).symm

theorem alike_of_eqvGen {text text' : String} (h : Relation.EqvGen Relined text text') :
    Alike (lines text.toList) (lines text'.toList) := by
  induction h with
  | rel _ _ h => exact h.alike
  | refl => exact .refl _
  | symm _ _ _ ih => exact ih.symm
  | trans _ _ _ _ _ ih ih' => exact ih.trans ih'

theorem read_true_eq_ok_iff {text : String} {documents : List Json} :
    read text true = .ok documents ↔ Gives (lines text.toList) documents := readLines_eq_ok_iff

/-- A text is read line by line. Its documents are those of its lines that are not blank, and the
first line that is neither blank nor a document is named by its number. -/
theorem read_byLine (text : String) :
    HasLines text.toList (lines text.toList) ∧
      ((∃ documents, read text true = .ok documents) ↔ ∀ line ∈ lines text.toList, Passes line) ∧
      (∀ documents, read text true = .ok documents ↔
        List.Forall₂ Spells ((lines text.toList).filter fun line => !isBlank line) documents) ∧
      (∀ fault, read text true = .error fault ↔
        ∃ before f, FailsAfter before f (lines text.toList) ∧ fault = .line (before + 1) f ∧
          fault.message =
            "invalid JSON on line " ++ toString (before + 1) ++ ": " ++ f.message) ∧
      (∀ rest documents, read (text ++ "\n" ++ rest) true = .ok documents ↔
        ∃ left right, read text true = .ok left ∧ read rest true = .ok right ∧
          documents = left ++ right) ∧
      (∀ text', Relation.EqvGen Relined text text' →
        ∀ documents, read text true = .ok documents ↔ read text' true = .ok documents) ∧
      ('\n' ∉ text.toList → ¬ Text.Blank text →
        ∀ documents, read text true = .ok documents ↔ read text false = .ok documents) := by
  refine ⟨hasLines_lines _, ?_, fun _ => read_true_eq_ok_iff, fun fault => ?_, fun rest documents => ?_,
    fun text' hrelined documents => ?_, fun hline hblank documents => ?_⟩
  · simp only [read_true_eq_ok_iff]
    exact exists_gives_iff
  · have hread : read text true = readLines 1 (lines text.toList) := rfl
    rw [hread, readLines_eq_error_iff]
    constructor
    · rintro ⟨before, f, hfails, rfl⟩
      rw [Nat.add_comm]
      exact ⟨before, f, hfails, rfl, rfl⟩
    · rintro ⟨before, f, hfails, rfl, -⟩
      exact ⟨before, f, hfails, by rw [Nat.add_comm]⟩
  · simp only [read_true_eq_ok_iff]
    rw [alike_append_newline text rest documents, gives_append]
  · rw [read_true_eq_ok_iff, read_true_eq_ok_iff, alike_of_eqvGen hrelined documents]
  · have hsingle : read text false = .ok documents ↔ Holds text false documents := read_eq_ok_iff
    rw [read_true_eq_ok_iff, alike_lines hline documents, hsingle,
      gives_singleton (mt isBlank_toList.mp hblank)]
    unfold Spells
    rw [String.ofList_toList]
    rfl

theorem read_byLine_two :
    read "null\ntrue" true = .ok [.null, .bool true] ∧
      read "\nnull\r\ntrue" true = .ok [.null, .bool true] := by
  have hnull : read "null" false = .ok [.null] := by decide +kernel
  have htrue : read "true" false = .ok [.bool true] := by decide +kernel
  have hblank {text : String} (h : isBlank text.toList = false) : ¬ Text.Blank text :=
    mt isBlank_toList.mpr (Bool.eq_false_iff.mp h)
  obtain ⟨-, -, -, -, happend, -, hfirst⟩ := read_byLine "null"
  obtain ⟨-, -, -, -, -, -, hsecond⟩ := read_byLine "true"
  obtain ⟨-, -, -, -, -, hrelined, -⟩ := read_byLine "null\ntrue"
  have hlines : read "null\ntrue" true = .ok [.null, .bool true] :=
    (happend "true" _).mpr ⟨_, _, (hfirst (by decide) (hblank rfl) _).mpr hnull,
      (hsecond (by decide) (hblank rfl) _).mpr htrue, rfl⟩
  have hreturned : Relined "null\ntrue" "null\r\ntrue" := @Relined.returned "null" "true"
  have hfront : Relined "null\r\ntrue" "\nnull\r\ntrue" :=
    @Relined.blankFirst "" "null\r\ntrue" nofun
  have hboth := Relation.EqvGen.trans _ _ _ (.rel _ _ hreturned) (.rel _ _ hfront)
  exact ⟨hlines, (hrelined _ hboth _).mp hlines⟩

end Documents

end Switchyard
