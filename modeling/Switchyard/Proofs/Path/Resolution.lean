import Mathlib.Data.List.Basic
import Switchyard.Path
import Switchyard.Proofs.Json.Structure

/-! Resolution of paths: what a path addresses occurs in the value, and a path that a
dot joins from two others is followed in the value that the first one addresses. -/

namespace Switchyard

open Json (OccursIn)

variable {v w : Json}

namespace Segment

theorem occursIn_of_member {name : String} (h : member name v = some w) : OccursIn w v := by
  cases v with
  | obj members => exact .member (Json.mem_of_lookup h) .whole
  | arr items =>
    obtain ⟨i, -, hitem⟩ := Option.bind_eq_some_iff.mp h
    exact .item (List.mem_of_getElem? hitem) .whole
  | _ => cases h

theorem occursIn_of_step {s : Segment} (h : s.step v = some w) : OccursIn w v := by
  cases s with
  | key name => exact occursIn_of_member h
  | indexed name index =>
    cases v with
    | obj members =>
      simp only [step] at h
      split at h
      · next items hlookup =>
        exact .member (Json.mem_of_lookup hlookup) (.item (List.mem_of_getElem? h) .whole)
      · exact .member (Json.mem_of_lookup h) .whole
    | _ => cases h

theorem step_null (s : Segment) : s.step .null = none := by
  cases s <;> rfl

end Segment

namespace Path

theorem occursIn_of_follow {segments : List Segment} (h : follow segments v = some w) :
    OccursIn w v := by
  induction segments generalizing v with
  | nil =>
    cases h
    exact .whole
  | cons s rest ih =>
    obtain ⟨u, hstep, hrest⟩ := Option.bind_eq_some_iff.mp h
    exact (ih hrest).trans (Segment.occursIn_of_step hstep)

theorem follow_null {segments : List Segment} (h : segments ≠ []) : follow segments .null = none := by
  obtain ⟨s, rest, rfl⟩ := List.exists_cons_of_ne_nil h
  rw [follow, Segment.step_null, Option.bind_none]

theorem splitDots_append (cs ds : List Char) :
    splitDots (cs ++ '.' :: ds) = splitDots cs ++ splitDots ds :=
  List.splitOnP_append_cons cs ds (beq_self_eq_true '.')

theorem segments_parse {text : String} (h : text ≠ "") :
    (parse text).segments = (splitDots text.toList).map Segment.parse := by
  rw [parse, if_neg h]

theorem segments_parse_ne_nil {text : String} (h : text ≠ "") : (parse text).segments ≠ [] := by
  rw [segments_parse h, Ne, List.map_eq_nil_iff]
  exact List.splitOn_ne_nil '.' text.toList

theorem segments_parse_of_dot_not_mem {text : String} (h : text ≠ "") (hdot : '.' ∉ text.toList) :
    (parse text).segments = [Segment.parse text.toList] := by
  rw [segments_parse h, splitDots, List.splitOn_eq_singleton hdot, List.map_singleton]

theorem segments_parse_append {p q : String} (hp : p ≠ "") (hq : q ≠ "") :
    (parse (p ++ "." ++ q)).segments = (parse p).segments ++ (parse q).segments := by
  have htext : (p ++ "." ++ q).toList = p.toList ++ '.' :: q.toList := by
    rw [String.toList_append, String.toList_append, List.append_assoc]
    rfl
  have hne : p ++ "." ++ q ≠ "" := by
    rw [Ne, ← String.toList_eq_nil_iff, htext]
    exact List.append_ne_nil_of_right_ne_nil _ (List.cons_ne_nil _ _)
  rw [segments_parse hne, segments_parse hp, segments_parse hq, htext, splitDots_append,
    List.map_append]

end Path

namespace Json

theorem occursIn_of_resolve {path : String} (h : v.resolve path = some w) : OccursIn w v :=
  Path.occursIn_of_follow h

theorem resolve_of_dot_not_mem (v : Json) {text : String} (h : text ≠ "")
    (hdot : '.' ∉ text.toList) : v.resolve text = (Segment.parse text.toList).step v := by
  unfold resolve Path.resolve
  rw [Path.segments_parse_of_dot_not_mem h hdot, Path.follow]
  exact Option.bind_fun_some _

/-- A joined path addresses what its second part addresses in the value of the first
part. It addresses nothing if the first part addresses nothing or a null. -/
theorem resolve_append (v : Json) {p q : String} (hp : p ≠ "") (hq : q ≠ "") :
    v.resolve (p ++ "." ++ q) = (v.resolve p).bind (fun w => w.resolve q) ∧
      (v.resolve p = some .null → v.resolve (p ++ "." ++ q) = none) := by
  have hjoin : v.resolve (p ++ "." ++ q) = (v.resolve p).bind (fun w => w.resolve q) := by
    unfold resolve Path.resolve
    rw [Path.segments_parse_append hp hq, Path.follow_append]
  refine ⟨hjoin, ?_⟩
  intro hnull
  rw [hjoin, hnull]
  exact Path.follow_null (Path.segments_parse_ne_nil hq)

theorem resolve_append_brackets :
    let v : Json := .obj [("", .obj [("a[0", .obj [("]", .arr [.bool true, .null])])])]
    (".a[0" ≠ "" ∧ "].1" ≠ "" ∧ "." ≠ "") ∧ v.resolve (".a[0" ++ "." ++ "].1") = some .null ∧
      v.resolve (".a[0.].1" ++ "." ++ ".") = none := by
  intro v
  have hp : ".a[0" ≠ "" := by decide
  have hq : "].1" ≠ "" := by decide
  have hjoined : ".a[0.].1" ≠ "" := by decide
  have hdot : "." ≠ "" := by decide
  have hnull : v.resolve ".a[0.].1" = some .null := by decide +kernel
  refine ⟨⟨hp, hq, hdot⟩, ?_, (resolve_append v hjoined hdot).2 hnull⟩
  rw [(resolve_append v hp hq).1]
  decide +kernel

end Json

end Switchyard
