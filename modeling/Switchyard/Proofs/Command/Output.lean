import Switchyard.Command.Output
import Switchyard.Proofs.Digits

/-! The texts of what is written, character by character: the line of a document and
the list of ports. -/

namespace Switchyard

namespace Json

theorem toList_print (v : Json) : v.print.toList = v.write := String.toList_ofList

theorem write_ofUInt64 (n : UInt64) : (Json.ofUInt64 n).write = (toString n.toNat).toList := by
  have hsign : ¬ (n.toNat : Int) < 0 := Int.not_lt.mpr (Int.natCast_nonneg _)
  rw [Json.ofUInt64, Number.ofUInt64, write, Number.write, if_neg hsign, Int.natAbs_natCast]
  exact Nat.toList_repr.symm

theorem eq_intercalate {text : List Json → List Char} {one : Json → List Char}
    (hnil : text [] = [])
    (hcons : ∀ v rest, text (v :: rest) = one v ++ if rest.isEmpty then [] else ',' :: text rest)
    (items : List Json) : text items = [','].intercalate (items.map one) := by
  induction items with
  | nil => exact hnil
  | cons v rest ih =>
    rw [hcons, ih]
    cases rest with
    | nil => simp
    | cons w rest => simp

theorem writeItems_eq_intercalate (items : List Json) :
    writeItems items = [','].intercalate (items.map write) :=
  eq_intercalate rfl (fun _ _ => rfl) items

theorem writeIndentedItems_eq_intercalate (level : Nat) (items : List Json) :
    writeIndentedItems level items =
      [','].intercalate (items.map fun v => breakLine level ++ writeIndented level v) :=
  eq_intercalate rfl (fun _ _ => rfl) items

end Json

theorem toList_intercalate_map {α : Type} (f : α → String) (as : List α) :
    (",".intercalate (as.map f)).toList = [','].intercalate (as.map fun a => (f a).toList) := by
  rw [String.toList_intercalate, List.map_map]
  rfl

/-- The line of a document: `{"matchedOutputs":[0,1],"data":...}` and a line break. -/
def outcomeLine (outputs : List UInt64) (data : Json) : String :=
  "\x7b\"matchedOutputs\":[" ++ ",".intercalate (outputs.map fun n => toString n.toNat) ++
    "],\"data\":" ++ data.print ++ "\x7d\n"

def portEntry (p : Port) : String :=
  "\n  \x7b\n    \"id\": " ++ (Json.str p.id).print ++ ",\n    \"label\": " ++
    (Json.str p.label).print ++ "\n  \x7d"

def portList (ports : List Port) : String :=
  if ports = [] then "[]\n" else "[" ++ ",".intercalate (ports.map portEntry) ++ "\n]\n"

theorem Outcome.toJson_eq (o : Outcome) :
    o.toJson = .obj [("matchedOutputs", .arr (o.matchedOutputs.map .ofUInt64)), ("data", o.data)] :=
  rfl

theorem toList_outcomeLine (outputs : List UInt64) (data : Json) :
    (outcomeLine outputs data).toList = (Outcome.mk outputs data).toJson.write ++ ['\n'] := by
  have hopen : "\x7b\"matchedOutputs\":[".toList =
      '\x7b' :: (Json.writeString "matchedOutputs" ++ [':', '[']) := by decide
  have hitems : (",".intercalate (outputs.map fun n => toString n.toNat)).toList =
      Json.writeItems (outputs.map .ofUInt64) := by
    rw [Json.writeItems_eq_intercalate, toList_intercalate_map, List.map_map]
    simp only [Function.comp_def, Json.write_ofUInt64]
  have hdata : "],\"data\":".toList = ']' :: ',' :: (Json.writeString "data" ++ [':']) := by decide
  have hclose : "\x7d\n".toList = ['\x7d', '\n'] := by decide
  rw [Outcome.toJson_eq]
  unfold outcomeLine
  simp only [String.toList_append, hopen, hitems, hdata, hclose, Json.toList_print, Json.write,
    Json.writeMembers]
  simp

theorem toList_portEntry (p : Port) :
    (portEntry p).toList = Json.breakLine 1 ++ Json.writeIndented 1 p.toJson := by
  have hjson : p.toJson = .obj [("id", .str p.id), ("label", .str p.label)] := rfl
  have hid : "\n  \x7b\n    \"id\": ".toList =
      Json.breakLine 1 ++ '\x7b' :: (Json.breakLine 2 ++ Json.writeString "id" ++ ": ".toList) := by
    decide
  have hlabel : ",\n    \"label\": ".toList =
      ',' :: (Json.breakLine 2 ++ Json.writeString "label" ++ ": ".toList) := by decide
  have hclose : "\n  \x7d".toList = Json.breakLine 1 ++ ['\x7d'] := by decide
  rw [hjson]
  unfold portEntry
  simp only [String.toList_append, hid, hlabel, hclose, Json.toList_print, Json.writeIndented,
    Json.writeIndentedMembers]
  simp

theorem toList_portList (ports : List Port) :
    (portList ports).toList = Json.writeIndented 0 (.arr (ports.map Port.toJson)) ++ ['\n'] := by
  cases ports with
  | nil => rfl
  | cons p rest =>
    have hentries : (",".intercalate ((p :: rest).map portEntry)).toList =
        Json.writeIndentedItems 1 ((p :: rest).map Port.toJson) := by
      rw [Json.writeIndentedItems_eq_intercalate, toList_intercalate_map, List.map_map]
      simp only [Function.comp_def, toList_portEntry]
    have hclose : "\n]\n".toList = Json.breakLine 0 ++ [']', '\n'] := by decide
    rw [portList, if_neg (List.cons_ne_nil p rest), String.toList_append, String.toList_append,
      hentries, hclose, List.map_cons, Json.writeIndented]
    simp

namespace Configuration

theorem routedText_eq_join (c : Configuration) (documents : List Json) :
    c.routedText documents = String.join (documents.map fun d => outcomeLine (c.route d) d) := by
  rw [← String.toList_inj, routedText, String.toList_ofList, String.toList_join, List.flatMap_map]
  simp only [toList_outcomeLine]
  rfl

theorem portsText_eq_portList (c : Configuration) : c.portsText = portList c.ports := by
  rw [← String.toList_inj, toList_portList, portsText, String.toList_append, Json.printIndented,
    String.toList_ofList]
  rfl

end Configuration

end Switchyard
