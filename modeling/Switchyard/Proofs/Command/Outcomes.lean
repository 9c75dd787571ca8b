import Switchyard.Command.Output
import Switchyard.Proofs.Command.Framing
import Switchyard.Proofs.Json.RoundTrip

/-! Outcome lines read as documents. The line of a document nests one level
deeper than the document, and reads back what is printed of it. -/

namespace Switchyard

open Json.Reader

/-- The document that an outcome line is read as: an object of the outputs and
the data, with its keys in order. -/
def Outcome.document (o : Outcome) : Json :=
  .obj [("data", o.data), ("matchedOutputs", .arr (o.matchedOutputs.map .ofUInt64))]

namespace Outcome

theorem reread_outputs (outputs : List UInt64) (depth : Nat) :
    Json.reread (depth + 1) (.arr (outputs.map .ofUInt64)) =
      some (.arr (outputs.map .ofUInt64)) := by
  have hself : ∀ v ∈ outputs.map Json.ofUInt64, Json.reread depth v = some v := by
    intro v hv
    obtain ⟨n, -, rfl⟩ := List.mem_map.mp hv
    rw [Json.ofUInt64, Number.ofUInt64, Json.reread, Number.reread_integer]
    rfl
  rw [Json.reread, Json.rereadItems_eq_self_iff.mpr hself]
  rfl

theorem reread_toJson (o : Outcome) (depth : Nat) :
    Json.reread (depth + 2) o.toJson =
      (Json.reread (depth + 1) o.data).map fun data => Outcome.document ⟨o.matchedOutputs, data⟩ := by
  rw [toJson_eq, Json.reread]
  simp only [Json.rereadMembers, reread_outputs, Option.bind_some, Option.map_some]
  cases Json.reread (depth + 1) o.data with
  | none => rfl
  | some data => rfl

end Outcome

namespace Router

theorem lines_flatMap_line (r : Router) (documents : List Json) :
    Documents.lines (documents.flatMap r.line) =
      documents.map fun d => (r.outcome d).toJson.write := by
  have htext : documents.flatMap r.line =
      Documents.unlines (documents.map fun d => (r.outcome d).toJson.write) := by
    rw [Documents.unlines, List.flatMap_map]
    rfl
  rw [htext, Documents.lines_unlines]
  intro line hline
  obtain ⟨d, -, rfl⟩ := List.mem_map.mp hline
  exact Json.printing_write _

theorem not_isBlank_outcome (o : Outcome) : Documents.isBlank o.toJson.write = false := by
  rfl

end Router

theorem Outcome.read_print_iff (o : Outcome) :
    Json.read o.toJson.print = .ok o.document ↔ Json.reread (depthLimit - 1) o.data = some o.data := by
  rw [Json.read_print_eq_ok_iff, show depthLimit = 125 + 2 from rfl, reread_toJson,
    Option.map_eq_some_iff]
  constructor
  · rintro ⟨data, hdata, heq⟩
    obtain rfl : data = o.data := by simpa [Outcome.document] using heq
    exact hdata
  · exact fun hdata => ⟨o.data, hdata, rfl⟩

namespace Configuration

theorem read_routedText_eq_ok_iff {c : Configuration} {documents read : List Json} :
    Documents.read (c.routedText documents) true = .ok read ↔
      List.Forall₂ (fun d v => Json.read ((Router.ofConfiguration c).outcome d).toJson.print = .ok v)
        documents read := by
  rw [Documents.read_eq_ok_iff, Documents.Holds, if_pos rfl, routedText, String.toList_ofList,
    Router.lines_flatMap_line, List.filter_eq_self.mpr, List.forall₂_map_left_iff]
  · rfl
  · intro line hline
    obtain ⟨d, -, rfl⟩ := List.mem_map.mp hline
    rw [Router.not_isBlank_outcome, Bool.not_false]

theorem read_routedText_iff_reread {c : Configuration} {documents : List Json} :
    Documents.read (c.routedText documents) true =
        .ok (documents.map fun d => ((Router.ofConfiguration c).outcome d).document) ↔
      ∀ d ∈ documents, Json.reread (depthLimit - 1) d = some d := by
  rw [read_routedText_eq_ok_iff, List.forall₂_map_right_iff, List.forall₂_same]
  exact forall₂_congr fun d _ => Outcome.read_print_iff _

/-- The outcomes written for the documents of a text are read back, line by line,
exactly if each document leaves a level of nesting to the line around it and its
real numbers survive. -/
theorem read_routedText_iff (c : Configuration) {text : String} {byLine : Bool}
    {documents : List Json} (h : Documents.read text byLine = .ok documents) :
    Documents.read (c.routedText documents) true =
        .ok (documents.map fun d => ((Router.ofConfiguration c).outcome d).document) ↔
      ∀ d ∈ documents, d.depth < depthLimit ∧ d.RealsSurvive := by
  rw [read_routedText_iff_reread]
  -- documents that were read have their keys in order, so objects come back as they are
  refine forall₂_congr fun d hd => ?_
  obtain ⟨part, hpart⟩ := Documents.exists_read_of_mem h hd
  have hlevel : d.depth < depthLimit ↔ d.depth ≤ depthLimit - 1 := Nat.lt_iff_le_pred (by decide)
  rw [hlevel]
  exact Json.reread_eq_self_iff (Json.ordered_of_read hpart)

def halved : Json := .obj [("one\nhalf", .num Json.half)]

theorem realsSurvive_halved : halved.RealsSurvive := by
  unfold Json.RealsSurvive halved
  rw [Json.every_obj_iff, List.forall_mem_singleton, Json.every_num]
  exact ⟨trivial, Json.survives_half⟩

theorem read_routedText_halved :
    Documents.read "\x7b\"one\\nhalf\": 5e-1\x7d" false = .ok [halved] ∧
      Documents.read ((ofRules [⟨[], .all, 3, none⟩]).routedText [halved]) true =
        .ok [.obj [("data", halved), ("matchedOutputs", .arr [.ofUInt64 3])]] := by
  have hread : Documents.read "\x7b\"one\\nhalf\": 5e-1\x7d" false = .ok [halved] := by
    decide +kernel
  refine ⟨hread, (read_routedText_iff _ hread).mpr fun d hd => ?_⟩
  obtain rfl := List.mem_singleton.mp hd
  exact ⟨by decide, realsSurvive_halved⟩

def nested : Nat → Json
  | 0 => .arr []
  | n + 1 => .arr [nested n]

/-- A number whose literal is read as the next larger double. -/
def drifting : Number := .real (.ranked false ⟨4621665024473920304, by decide⟩) (by decide)

theorem not_read_routedText_at_limits :
    let c := ofRules []
    let documentOf := fun d => ((Router.ofConfiguration c).outcome d).document
    (Documents.read (nested 126).print false = .ok [nested 126] ∧
      Documents.read (c.routedText [nested 126]) true ≠ .ok [documentOf (nested 126)]) ∧
    (Documents.read "9.726275641174282" false = .ok [.num drifting] ∧
      Documents.read (c.routedText [.num drifting]) true ≠ .ok [documentOf (.num drifting)]) := by
  intro c documentOf
  have hback {d : Json} (h : Documents.read (c.routedText [d]) true = .ok [documentOf d]) :
      Json.reread (depthLimit - 1) d = some d :=
    read_routedText_iff_reread.mp h d (List.mem_singleton_self d)
  refine ⟨⟨?_, fun h => ?_⟩, ?_, fun h => ?_⟩
  · refine Documents.read_eq_ok_iff.mpr ⟨nested 126, ?_, rfl⟩
    rw [Json.read_print_eq_ok_iff]
    decide +kernel
  · exact absurd (hback h) (by decide +kernel)
  · decide +kernel
  · exact absurd (hback h) (by decide +kernel)

end Configuration

end Switchyard
