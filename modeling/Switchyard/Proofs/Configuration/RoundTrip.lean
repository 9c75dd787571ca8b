import Switchyard.Configuration.Basic
import Switchyard.Proofs.Decoding.Printed
import Switchyard.Proofs.Decoding.Yields

/-! Configurations that were read from a text are read back from what is printed
of them. The values in a configuration lie some levels below it, and were read
there, so they have room enough in the printed text. -/

namespace Switchyard

open Decoder

theorem takes_fitting {depth : Nat} {v : Json} (h : v.Fits depth) (hreals : v.RealsSurvive) :
    json.Takes depth v.write v :=
  takes_json ((Json.reread_eq_self_iff h.ordered).mpr ⟨h.depth_le, hreals⟩)

theorem Operator.lookup_name (op : Operator) :
    (Operator.all.map fun op => (op.name, op)).lookup op.name = some op := by
  cases op <;> rfl

namespace Condition

def draft (c : Condition) : Draft := ⟨c.field, some c.operator, c.value⟩

theorem Draft.finish_eq_ok_iff {d : Draft} {c : Condition} : d.finish = .ok c ↔ d = c.draft := by
  obtain ⟨field, operator, value⟩ := d
  obtain ⟨field', operator', value'⟩ := c
  cases operator <;> simp [Draft.finish, draft]

def Fits (depth : Nat) (c : Condition) : Prop := ∀ v ∈ c.value, v.Fits (depth - 1)

theorem gives_decoder : decoder.Gives Fits := by
  have hfields : ∀ field ∈ shape.fields,
      field.Preserves fun depth (d : Draft) => ∀ v ∈ d.value, v.Fits depth := by
    intro field hfield
    simp only [shape, List.mem_cons, List.not_mem_nil, or_false] at hfield
    rcases hfield with rfl | rfl | rfl
    · exact Field.preserves_of_untouched fun _ _ _ h => h
    · exact Field.preserves_of_untouched fun _ _ _ h => h
    · exact Field.preserves_of gives_json fun _ v _ hv _ w hw => Option.some.inj hw ▸ hv
  refine (Shape.gives_decoder (fun _ => nofun) hfields).imp ?_
  rintro depth c ⟨draft, hdraft, hfinish⟩
  obtain rfl := Draft.finish_eq_ok_iff.mp hfinish
  exact hdraft

theorem takes_toJson {depth : Nat} {c : Condition} (h : c.Fits (depth + 1))
    (hreals : c.toJson.RealsSurvive) : decoder.Takes (depth + 1) c.toJson.write c := by
  refine Shape.takes_object (s := c.draft) ?_
    (show ["field", "operator", "value"].Nodup by decide) rfl
  refine .present rfl (Field.takes_of (takes_string c.field)) ?_
  refine .present rfl (Field.takes_of (takes_variant c.operator.lookup_name)) ?_
  refine .optional rfl (fun hnone => by rw [draft, hnone]; rfl) (fun v hv => ?_) .nil
  have hvalue : v.RealsSurvive := Json.Every.field hreals (k := "value") (by simp [hv])
  exact ⟨v, takes_fitting (h v hv) hvalue, by rw [draft, hv]⟩

theorem depth_toJson_le {depth : Nat} {c : Condition} (h : c.Fits (depth + 1)) :
    c.toJson.depth ≤ depth + 1 := by
  refine Json.depth_object_le fun field hfield v hv => ?_
  simp only [List.mem_cons, List.not_mem_nil, or_false] at hfield
  rcases hfield with rfl | rfl | rfl
  · cases hv
    exact Nat.zero_le _
  · cases hv
    exact Nat.zero_le _
  · exact (h v hv).depth_le

end Condition

namespace Rule

def draft (r : Rule) : Draft := ⟨r.conditions, r.combination, some r.outputIndex, r.name⟩

theorem Draft.finish_eq_ok_iff {d : Draft} {r : Rule} : d.finish = .ok r ↔ d = r.draft := by
  obtain ⟨conditions, combination, outputIndex, name⟩ := d
  obtain ⟨conditions', combination', outputIndex', name'⟩ := r
  cases outputIndex <;> simp [Draft.finish, draft]

def Fits (depth : Nat) (r : Rule) : Prop := ∀ c ∈ r.conditions, c.Fits (depth - 2)

theorem gives_decoder : decoder.Gives Fits := by
  have hfields : ∀ field ∈ shape.fields,
      field.Preserves fun depth (d : Draft) => ∀ c ∈ d.conditions, c.Fits (depth - 1) := by
    intro field hfield
    simp only [shape, List.mem_cons, List.not_mem_nil, or_false] at hfield
    rcases hfield with rfl | rfl | rfl | rfl
    · exact Field.preserves_of Condition.gives_decoder.list fun _ _ _ hconditions _ => hconditions
    · exact Field.preserves_of_untouched fun _ _ _ h => h
    · exact Field.preserves_of_untouched fun _ _ _ h => h
    · exact Field.preserves_of_untouched fun _ _ _ h => h
  refine (Shape.gives_decoder (fun _ => nofun) hfields).imp ?_
  rintro depth r ⟨draft, hdraft, hfinish⟩
  obtain rfl := Draft.finish_eq_ok_iff.mp hfinish
  exact hdraft

theorem takes_toJson {depth : Nat} {r : Rule} (h : r.Fits (depth + 3))
    (hreals : r.toJson.RealsSurvive) : decoder.Takes (depth + 3) r.toJson.write r := by
  refine Shape.takes_object (s := r.draft) ?_
    (show ["conditions", "combineWith", "outputIndex", "name"].Nodup by decide) rfl
  have hconditions : (Json.arr (r.conditions.map Condition.toJson)).RealsSurvive :=
    Json.Every.field hreals (k := "conditions") List.mem_cons_self
  have hcondition : ∀ c ∈ r.conditions,
      Condition.decoder.Takes (depth + 1) c.toJson.write c := fun c hc =>
    Condition.takes_toJson (h c hc) (hconditions.item (List.mem_map_of_mem hc))
  have hcombination : [("AND", Combination.all), ("and", .all), ("OR", .any), ("or", .any)].lookup
      r.combination.name = some r.combination := by
    cases r.combination <;> rfl
  refine .present rfl (Field.takes_of (takes_list hcondition)) ?_
  refine .present rfl (Field.takes_of (takes_variant hcombination)) ?_
  refine .present rfl (Field.takes_of (takes_index r.outputIndex)) ?_
  exact .optional_map rfl rfl (fun name _ => takes_optional_string name) .nil

theorem depth_toJson_le {depth : Nat} {r : Rule} (h : r.Fits (depth + 3)) :
    r.toJson.depth ≤ depth + 3 := by
  refine Json.depth_object_le fun field hfield v hv => ?_
  simp only [List.mem_cons, List.not_mem_nil, or_false] at hfield
  rcases hfield with rfl | rfl | rfl | rfl
  · cases hv
    refine Json.depth_arr_le_iff.mpr (List.forall_mem_map.mpr fun c hc => ?_)
    exact Condition.depth_toJson_le (h c hc)
  · cases hv
    exact Nat.zero_le _
  · cases hv
    exact Nat.zero_le _
  · obtain ⟨name, -, rfl⟩ := Option.map_eq_some_iff.mp hv
    exact Nat.zero_le _

end Rule

namespace Route

def draft (r : Route) : Draft := ⟨some r.value, some r.outputIndex, r.name⟩

theorem Draft.finish_eq_ok_iff {d : Draft} {r : Route} : d.finish = .ok r ↔ d = r.draft := by
  obtain ⟨value, outputIndex, name⟩ := d
  obtain ⟨value', outputIndex', name'⟩ := r
  cases value <;> cases outputIndex <;> simp [Draft.finish, draft]

def Fits (depth : Nat) (r : Route) : Prop := r.value.Fits (depth - 1)

theorem gives_decoder : decoder.Gives Fits := by
  have hfields : ∀ field ∈ shape.fields,
      field.Preserves fun depth (d : Draft) => ∀ v ∈ d.value, v.Fits depth := by
    intro field hfield
    simp only [shape, List.mem_cons, List.not_mem_nil, or_false] at hfield
    rcases hfield with rfl | rfl | rfl
    · exact Field.preserves_of gives_json fun _ v _ hv _ w hw => Option.some.inj hw ▸ hv
    · exact Field.preserves_of_untouched fun _ _ _ h => h
    · exact Field.preserves_of_untouched fun _ _ _ h => h
  refine (Shape.gives_decoder (fun _ => nofun) hfields).imp ?_
  rintro depth r ⟨draft, hdraft, hfinish⟩
  obtain rfl := Draft.finish_eq_ok_iff.mp hfinish
  exact hdraft r.value rfl

theorem takes_toJson {depth : Nat} {r : Route} (h : r.Fits (depth + 1))
    (hreals : r.toJson.RealsSurvive) : decoder.Takes (depth + 1) r.toJson.write r := by
  refine Shape.takes_object (s := r.draft) ?_
    (show ["value", "outputIndex", "name"].Nodup by decide) rfl
  have hvalue : r.value.RealsSurvive := Json.Every.field hreals (k := "value") List.mem_cons_self
  refine .present rfl (Field.takes_of (takes_fitting h hvalue)) ?_
  refine .present rfl (Field.takes_of (takes_index r.outputIndex)) ?_
  exact .optional_map rfl rfl (fun name _ => takes_optional_string name) .nil

theorem depth_toJson_le {depth : Nat} {r : Route} (h : r.Fits (depth + 1)) :
    r.toJson.depth ≤ depth + 1 := by
  refine Json.depth_object_le fun field hfield v hv => ?_
  simp only [List.mem_cons, List.not_mem_nil, or_false] at hfield
  rcases hfield with rfl | rfl | rfl
  · cases hv
    exact h.depth_le
  · cases hv
    exact Nat.zero_le _
  · obtain ⟨name, -, rfl⟩ := Option.map_eq_some_iff.mp hv
    exact Nat.zero_le _

end Route

namespace Configuration

def draft (c : Configuration) : Draft :=
  ⟨some c.mode, c.valueToMatch, c.rules, c.routes, c.fallbackOutput, c.allowMultipleMatches⟩

theorem Draft.finish_eq_ok_iff {d : Draft} {c : Configuration} : d.finish = .ok c ↔ d = c.draft := by
  obtain ⟨mode, value, rules, routes, fallback, multiple⟩ := d
  obtain ⟨mode', value', rules', routes', fallback', multiple'⟩ := c
  cases mode <;> simp [Draft.finish, draft]

structure Draft.Fits (depth : Nat) (d : Draft) : Prop where
  valueToMatch : ∀ v ∈ d.valueToMatch, v.Fits depth
  rules : ∀ rules ∈ d.rules, ∀ r ∈ rules, r.Fits (depth - 1)
  routes : ∀ routes ∈ d.routes, ∀ r ∈ routes, r.Fits (depth - 1)

def Fits (depth : Nat) (c : Configuration) : Prop := c.draft.Fits (depth - 1)

theorem gives_decoder : decoder.Gives Fits := by
  have hfields : ∀ field ∈ shape.fields, field.Preserves Draft.Fits := by
    intro field hfield
    simp only [shape, List.mem_cons, List.not_mem_nil, or_false] at hfield
    rcases hfield with rfl | rfl | rfl | rfl | rfl | rfl
    · exact Field.preserves_of_untouched fun _ _ _ h => { h with }
    · exact Field.preserves_of gives_json fun _ v _ hv h =>
        { h with valueToMatch := fun w hw => Option.some.inj hw ▸ hv }
    · exact Field.preserves_of Rule.gives_decoder.list.optional fun _ _ _ hrules h =>
        { h with rules := hrules }
    · exact Field.preserves_of Route.gives_decoder.list.optional fun _ _ _ hroutes h =>
        { h with routes := hroutes }
    · exact Field.preserves_of_untouched fun _ _ _ h => { h with }
    · exact Field.preserves_of_untouched fun _ _ _ h => { h with }
  refine (Shape.gives_decoder (fun _ => ⟨nofun, nofun, nofun⟩) hfields).imp ?_
  rintro depth c ⟨draft, hdraft, hfinish⟩
  obtain rfl := Draft.finish_eq_ok_iff.mp hfinish
  exact hdraft

theorem takes_toJson {depth : Nat} {c : Configuration} (h : c.Fits (depth + 5))
    (hreals : c.toJson.RealsSurvive) : decoder.Takes (depth + 5) c.toJson.write c := by
  refine Shape.takes_object (s := c.draft) ?_
    (show ["mode", "valueToMatch", "rules", "routes", "fallbackOutput",
      "allowMultipleMatches"].Nodup by decide) rfl
  have hmode : [("rules", Mode.rules), ("expression", .expression)].lookup c.mode.name =
      some c.mode := by
    cases c.mode <;> rfl
  refine .present rfl (Field.takes_of (takes_variant hmode)) ?_
  -- a value that is absent leaves the draft as it is, and `null` is a value
  refine .optional (s := ⟨some c.mode, c.valueToMatch, none, none, noFallback, false⟩) rfl
    (fun hnone => by rw [hnone]; rfl) (fun v hv => ?_) ?_
  · have hvalue : v.RealsSurvive := Json.Every.field hreals (k := "valueToMatch") (by simp [hv])
    exact ⟨v, takes_fitting (h.valueToMatch v hv) hvalue, by rw [hv]; rfl⟩
  refine .optional_map rfl rfl (fun rules hrules => takes_optional_list fun r hr => ?_) ?_
  · have hall : (Json.arr (rules.map Rule.toJson)).RealsSurvive :=
      Json.Every.field hreals (k := "rules") (by simp [Option.mem_def.mp hrules])
    exact Rule.takes_toJson (h.rules rules hrules r hr) (hall.item (List.mem_map_of_mem hr))
  refine .optional_map rfl rfl (fun routes hroutes => takes_optional_list fun r hr => ?_) ?_
  · have hall : (Json.arr (routes.map Route.toJson)).RealsSurvive :=
      Json.Every.field hreals (k := "routes") (by simp [Option.mem_def.mp hroutes])
    exact Route.takes_toJson (h.routes routes hroutes r hr) (hall.item (List.mem_map_of_mem hr))
  refine .present rfl (Field.takes_of (takes_int64 c.fallbackOutput)) ?_
  exact .present rfl (Field.takes_of (takes_bool c.allowMultipleMatches)) .nil

theorem depth_toJson_le {depth : Nat} {c : Configuration} (h : c.Fits (depth + 5)) :
    c.toJson.depth ≤ depth + 5 := by
  refine Json.depth_object_le fun field hfield v hv => ?_
  simp only [List.mem_cons, List.not_mem_nil, or_false] at hfield
  rcases hfield with rfl | rfl | rfl | rfl | rfl | rfl
  · cases hv
    exact Nat.zero_le _
  · exact (h.valueToMatch v hv).depth_le
  · obtain ⟨rules, hrules, rfl⟩ := Option.map_eq_some_iff.mp hv
    refine Json.depth_arr_le_iff.mpr (List.forall_mem_map.mpr fun r hr => ?_)
    exact Rule.depth_toJson_le (h.rules rules hrules r hr)
  · obtain ⟨routes, hroutes, rfl⟩ := Option.map_eq_some_iff.mp hv
    refine Json.depth_arr_le_iff.mpr (List.forall_mem_map.mpr fun r hr => ?_)
    exact Route.depth_toJson_le (h.routes routes hroutes r hr)
  · cases hv
    exact Nat.zero_le _
  · cases hv
    exact Nat.zero_le _

theorem fits_of_ofText {text : String} {c : Configuration} (h : ofText text = .ok c) :
    c.Fits Json.Reader.depthLimit := by
  obtain ⟨rest, htext, -⟩ := Json.Reader.exists_of_run_eq_ok h
  exact gives_decoder _ _ _ _ htext

theorem ofText_print_of_fits {c : Configuration} (h : c.Fits Json.Reader.depthLimit)
    (hreals : c.toJson.RealsSurvive) : ofText c.toJson.print = .ok c :=
  ofText_print_of_takes (takes_toJson h hreals)

/-- Whatever spelling a configuration was read from, what is printed of it is
read as the same configuration, and nests no deeper than texts may. -/
theorem ofText_print_toJson {text : String} {c : Configuration} (h : ofText text = .ok c)
    (hreals : c.toJson.RealsSurvive) :
    ofText c.toJson.print = .ok c ∧ c.toJson.depth ≤ Json.Reader.depthLimit :=
  ⟨ofText_print_of_fits (fits_of_ofText h) hreals, depth_toJson_le (fits_of_ofText h)⟩

/-- A text with other spellings than those that are printed: enumerations as
objects, records as arrays, and a field that is not known. -/
def spelling : String :=
  "[\x7b\"expression\": null\x7d, null, [[[[\"a\\u000a\", \"equals\", null]], \"AND\", 2]]," ++
    " [[0.5, 3, \"\"], \x7b\"note\": 1e999, \"outputIndex\": 4, \"value\": []\x7d]]"

def spelled : Configuration where
  mode := .expression
  valueToMatch := some .null
  rules := some [⟨[⟨"a\n", .equals, some .null⟩], .all, 2, none⟩]
  routes := some [⟨.num Json.half, 3, some ""⟩, ⟨.arr [], 4, none⟩]
  fallbackOutput := -1
  allowMultipleMatches := false

deriving instance DecidableEq for Condition, Rule, Route, Configuration

theorem ofText_spelling : ofText spelling = .ok spelled := by decide +kernel

theorem realsSurvive_spelled : spelled.toJson.RealsSurvive := by
  simp [Json.RealsSurvive, toJson, Json.object, spelled, Rule.toJson, Route.toJson,
    Condition.toJson, Json.ofUInt64, Number.ofUInt64, Number.ofInt64, Json.survives_half]

theorem ofText_print_toJson_spelled :
    ofText spelling = .ok spelled ∧ ofText spelled.toJson.print = .ok spelled ∧
      spelled.toJson.depth ≤ Json.Reader.depthLimit :=
  ⟨ofText_spelling, ofText_print_toJson ofText_spelling realsSurvive_spelled⟩

end Configuration

end Switchyard
