import Switchyard.Proofs.Configuration.RoundTrip
import Switchyard.Proofs.Decoding.Rewording

/-! Configurations that are written differently. The order of fields, fields with undeclared
names, and `null` for rules, routes and names that are not there do not matter; `null` for a
value that is not there is a value. -/

namespace Switchyard

open Decoder

namespace Condition

theorem regular_shape : shape.Regular where
  locals := by
    simp only [shape, List.forall_mem_cons, List.not_mem_nil, false_imp_iff, implies_true, and_true]
    exact ⟨Field.local_of local_string, Field.local_of local_variant, Field.local_of local_json⟩
  independent := by
    simp only [shape, List.pairwise_cons, List.forall_mem_cons, List.not_mem_nil, false_imp_iff,
      implies_true, List.Pairwise.nil, and_true]
    and_intros <;> exact Field.independent_of fun _ _ _ => rfl

theorem local_decoder : decoder.Local := Shape.local_decoder regular_shape.locals

def Rewords : List Char → List Char → Prop := Json.Rewords ["field", "operator", "value"] [] []

theorem follows_rewords : decoder.Follows Rewords Eq :=
  Shape.follows_rewords regular_shape (List.forall_mem_nil _) (List.forall_mem_nil _)

def SpellsNull : List Char → List Char → Prop := Json.Inserts (Json.IsNull "value")

def withNull (c : Condition) : Condition := { c with value := some .null }

def Presents (c c' : Condition) : Prop := c.value = none ∧ c' = c.withNull

theorem follows_spellsNull : decoder.Follows SpellsNull Presents := by
  have hkeeps : ∀ field ∈ shape.fields, field.key ≠ "value" → field.Keeps Draft.value := by
    simp only [shape, List.forall_mem_cons, List.not_mem_nil, false_imp_iff, implies_true, and_true]
    exact ⟨fun _ => Field.keeps_of fun _ _ => rfl, fun _ => Field.keeps_of fun _ _ => rfl,
      fun h => absurd rfl h⟩
  refine Shape.follows_null regular_shape rfl local_json
    (fun depth => decodes_json Json.denotes_null) hkeeps fun draft c hblank hok => ?_
  obtain rfl := Draft.finish_eq_ok_iff.mp hok
  exact ⟨c.withNull, rfl, hblank, rfl⟩

end Condition

namespace Rule

theorem regular_shape : shape.Regular where
  locals := by
    simp only [shape, List.forall_mem_cons, List.not_mem_nil, false_imp_iff, implies_true, and_true]
    exact ⟨Field.local_of Condition.local_decoder.list, Field.local_of local_variant,
      Field.local_of local_integer, Field.local_of local_string.optional⟩
  independent := by
    simp only [shape, List.pairwise_cons, List.forall_mem_cons, List.not_mem_nil, false_imp_iff,
      implies_true, List.Pairwise.nil, and_true]
    and_intros <;> exact Field.independent_of fun _ _ _ => rfl

theorem local_decoder : decoder.Local := Shape.local_decoder regular_shape.locals

def Rewords : List Char → List Char → Prop :=
  Json.Rewords ["conditions", "combineWith", "outputIndex", "name"] ["name"]
    [("conditions", Json.Items Condition.Rewords)]

theorem follows_rewords : decoder.Follows Rewords Eq := by
  have hkeeps : ∀ field ∈ shape.fields, field.key ≠ "name" → field.Keeps Draft.name := by
    simp only [shape, List.forall_mem_cons, List.not_mem_nil, false_imp_iff, implies_true, and_true]
    exact ⟨fun _ => Field.keeps_of fun _ _ => rfl, fun _ => Field.keeps_of fun _ _ => rfl,
      fun _ => Field.keeps_of fun _ _ => rfl, fun h => absurd rfl h⟩
  refine Shape.follows_rewords regular_shape ?_ ?_
  · refine List.forall_mem_singleton.mpr (Shape.follows_null_eq regular_shape rfl local_string.optional
      (fun _ => decodes_optional_null) hkeeps fun draft hblank => ?_)
    obtain ⟨conditions, combination, outputIndex, name⟩ := draft
    obtain rfl : name = none := hblank
    rfl
  · refine List.forall_mem_singleton.mpr (Shape.follows_member_eq regular_shape rfl
      Condition.local_decoder.list ?_)
    exact Condition.follows_rewords.items Condition.local_decoder

def SpellsNull (position : Nat) : List Char → List Char → Prop :=
  Json.MemberAt "conditions" (Json.ItemAt position Condition.SpellsNull)

def valueAt (r : Rule) (position : Nat) : Option (Option Json) :=
  r.conditions[position]?.map Condition.value

def withNull (r : Rule) (position : Nat) : Rule :=
  { r with conditions := r.conditions.modify position Condition.withNull }

def Presents (position : Nat) (r r' : Rule) : Prop :=
  r.valueAt position = some none ∧ r' = r.withNull position

theorem follows_spellsNull (position : Nat) :
    decoder.Follows (SpellsNull position) (Presents position) := by
  refine Shape.follows_member regular_shape rfl Condition.local_decoder.list
    (Condition.follows_spellsNull.list Condition.local_decoder position)
    fun draft conditions conditions' r hchanged hok => ?_
  have hdraft := Draft.finish_eq_ok_iff.mp hok
  obtain rfl : conditions = r.conditions := congrArg Draft.conditions hdraft
  obtain ⟨c, c', hget, hvalue, -⟩ := hchanged.exists_getElem?
  refine ⟨r.withNull position, Draft.finish_eq_ok_iff.mpr ?_, ?_, rfl⟩
  · rw [hchanged.eq_modify fun _ _ hp => hp.2]
    exact congrArg (fun d : Draft => { d with conditions := (r.withNull position).conditions }) hdraft
  · rw [valueAt, hget, Option.map_some, hvalue]

end Rule

namespace Route

theorem regular_shape : shape.Regular where
  locals := by
    simp only [shape, List.forall_mem_cons, List.not_mem_nil, false_imp_iff, implies_true, and_true]
    exact ⟨Field.local_of local_json, Field.local_of local_integer,
      Field.local_of local_string.optional⟩
  independent := by
    simp only [shape, List.pairwise_cons, List.forall_mem_cons, List.not_mem_nil, false_imp_iff,
      implies_true, List.Pairwise.nil, and_true]
    and_intros <;> exact Field.independent_of fun _ _ _ => rfl

theorem local_decoder : decoder.Local := Shape.local_decoder regular_shape.locals

def Rewords : List Char → List Char → Prop :=
  Json.Rewords ["value", "outputIndex", "name"] ["name"] []

theorem follows_rewords : decoder.Follows Rewords Eq := by
  have hkeeps : ∀ field ∈ shape.fields, field.key ≠ "name" → field.Keeps Draft.name := by
    simp only [shape, List.forall_mem_cons, List.not_mem_nil, false_imp_iff, implies_true, and_true]
    exact ⟨fun _ => Field.keeps_of fun _ _ => rfl, fun _ => Field.keeps_of fun _ _ => rfl,
      fun h => absurd rfl h⟩
  refine Shape.follows_rewords regular_shape (List.forall_mem_singleton.mpr ?_)
    (List.forall_mem_nil _)
  refine Shape.follows_null_eq regular_shape rfl local_string.optional
    (fun _ => decodes_optional_null) hkeeps fun draft hblank => ?_
  obtain ⟨value, outputIndex, name⟩ := draft
  obtain rfl : name = none := hblank
  rfl

end Route

namespace Configuration

theorem regular_shape : shape.Regular where
  locals := by
    simp only [shape, List.forall_mem_cons, List.not_mem_nil, false_imp_iff, implies_true, and_true]
    exact ⟨Field.local_of local_variant, Field.local_of local_json,
      Field.local_of Rule.local_decoder.list.optional, Field.local_of Route.local_decoder.list.optional,
      Field.local_of local_integer, Field.local_of local_bool⟩
  independent := by
    simp only [shape, List.pairwise_cons, List.forall_mem_cons, List.not_mem_nil, false_imp_iff,
      implies_true, List.Pairwise.nil, and_true]
    and_intros <;> exact Field.independent_of fun _ _ _ => rfl

theorem local_decoder : decoder.Local := Shape.local_decoder regular_shape.locals

def RewordsValue : List Char → List Char → Prop :=
  Json.Rewords
    ["mode", "valueToMatch", "rules", "routes", "fallbackOutput", "allowMultipleMatches"]
    ["rules", "routes"]
    [("rules", Json.Items Rule.Rewords), ("routes", Json.Items Route.Rewords)]

theorem follows_rewordsValue : decoder.Follows RewordsValue Eq := by
  have hrules : ∀ field ∈ shape.fields, field.key ≠ "rules" → field.Keeps Draft.rules := by
    simp only [shape, List.forall_mem_cons, List.not_mem_nil, false_imp_iff, implies_true, and_true]
    refine ⟨?_, ?_, fun h => absurd rfl h, ?_, ?_, ?_⟩ <;> exact fun _ => Field.keeps_of fun _ _ => rfl
  have hroutes : ∀ field ∈ shape.fields, field.key ≠ "routes" → field.Keeps Draft.routes := by
    simp only [shape, List.forall_mem_cons, List.not_mem_nil, false_imp_iff, implies_true, and_true]
    refine ⟨?_, ?_, ?_, fun h => absurd rfl h, ?_, ?_⟩ <;> exact fun _ => Field.keeps_of fun _ _ => rfl
  refine Shape.follows_rewords regular_shape ?_ ?_
  · refine List.forall_mem_cons.mpr ⟨?_, List.forall_mem_singleton.mpr ?_⟩
    · refine Shape.follows_null_eq regular_shape rfl Rule.local_decoder.list.optional
        (fun _ => decodes_optional_null) hrules fun draft hblank => ?_
      obtain ⟨mode, valueToMatch, rules, routes, fallbackOutput, allow⟩ := draft
      obtain rfl : rules = none := hblank
      rfl
    · refine Shape.follows_null_eq regular_shape rfl Route.local_decoder.list.optional
        (fun _ => decodes_optional_null) hroutes fun draft hblank => ?_
      obtain ⟨mode, valueToMatch, rules, routes, fallbackOutput, allow⟩ := draft
      obtain rfl : routes = none := hblank
      rfl
  · refine List.forall_mem_cons.mpr ⟨?_, List.forall_mem_singleton.mpr ?_⟩
    · exact Shape.follows_member_eq regular_shape rfl Rule.local_decoder.list.optional
        (Rule.follows_rewords.optional_items Rule.local_decoder)
    · exact Shape.follows_member_eq regular_shape rfl Route.local_decoder.list.optional
        (Route.follows_rewords.optional_items Route.local_decoder)

def Rewords : String → String → Prop := Json.InText RewordsValue

inductive Site where
  | valueToMatch
  | condition (rule position : Nat)

def SpellsNullIn : Site → List Char → List Char → Prop
  | .valueToMatch => Json.Inserts (Json.IsNull "valueToMatch")
  | .condition rule position => Json.MemberAt "rules" (Json.ItemAt rule (Rule.SpellsNull position))

def SpellsNull (site : Site) : String → String → Prop := Json.InText (SpellsNullIn site)

def valueAt (c : Configuration) : Site → Option (Option Json)
  | .valueToMatch => some c.valueToMatch
  | .condition rule position => (c.rules.getD [])[rule]?.bind fun r => r.valueAt position

def withNull (c : Configuration) : Site → Configuration
  | .valueToMatch => { c with valueToMatch := some .null }
  | .condition rule position =>
    { c with rules := c.rules.map fun rs => rs.modify rule fun r => r.withNull position }

theorem follows_spellsNullIn (site : Site) :
    decoder.Follows (SpellsNullIn site)
      fun c c' => c.valueAt site = some none ∧ c' = c.withNull site := by
  cases site with
  | valueToMatch =>
    have hkeeps : ∀ field ∈ shape.fields, field.key ≠ "valueToMatch" →
        field.Keeps Draft.valueToMatch := by
      simp only [shape, List.forall_mem_cons, List.not_mem_nil, false_imp_iff, implies_true, and_true]
      refine ⟨?_, fun h => absurd rfl h, ?_, ?_, ?_, ?_⟩ <;> exact fun _ => Field.keeps_of fun _ _ => rfl
    refine Shape.follows_null regular_shape rfl local_json
      (fun depth => decodes_json Json.denotes_null) hkeeps fun draft c hblank hok => ?_
    obtain rfl := Draft.finish_eq_ok_iff.mp hok
    exact ⟨c.withNull .valueToMatch, rfl, congrArg some hblank, rfl⟩
  | condition rule position =>
    refine Shape.follows_member regular_shape rfl Rule.local_decoder.list.optional
      ((Rule.follows_spellsNull position).optional_list Rule.local_decoder rule)
      fun draft rules rules' c hchanged hok => ?_
    obtain @⟨rs, rs', hitems⟩ := hchanged
    have hdraft := Draft.finish_eq_ok_iff.mp hok
    have hrules : some rs = c.rules := congrArg Draft.rules hdraft
    obtain ⟨r, r', hget, hvalue, -⟩ := hitems.exists_getElem?
    refine ⟨c.withNull (.condition rule position), Draft.finish_eq_ok_iff.mpr ?_, ?_, rfl⟩
    · have hwith : (c.withNull (.condition rule position)).rules = some rs' := by
        rw [withNull, ← hrules, hitems.eq_modify fun _ _ hp => hp.2]
        rfl
      rw [Configuration.draft, hwith]
      exact congrArg (fun d : Draft => { d with rules := some rs' }) hdraft
    · rw [valueAt, ← hrules, Option.getD_some, hget, Option.bind_some, hvalue]

/-- Other ways to write a configuration change nothing, but `null` for a value that is not
there is a value. -/
theorem ofText_rewords {t : String} {c : Configuration} (h : ofText t = .ok c) :
    Json.IsText t.toList ∧ (∀ t', Relation.ReflTransGen Rewords t t' → ofText t' = .ok c) ∧
      ∀ site t', SpellsNull site t t' →
        c.valueAt site = some none ∧ ofText t' = .ok (c.withNull site) := by
  refine ⟨?_, ?_, ?_⟩
  · obtain ⟨p, hp, hdecodes⟩ := (ofText_eq_ok_iff local_decoder).mp h
    exact ⟨p, hdecodes.form, hp⟩
  · intro t' hwords
    induction hwords with
    | refl => exact h
    | tail _ hword ih =>
      obtain ⟨c', hc', rfl⟩ := follows_rewordsValue.ofText local_decoder hword ih
      exact hc'
  · intro site t' hnull
    obtain ⟨c', hc', hvalue, rfl⟩ := (follows_spellsNullIn site).ofText local_decoder hnull h
    exact ⟨hvalue, hc'⟩

def shortest : String := "\x7b\"mode\":\"rules\"\x7d"

theorem ofText_rewords_shortest : ∃ c, ofText shortest = .ok c ∧
    ofText "\x7b\"note\":1e999,\"mode\":\"rules\"\x7d" = .ok c ∧
    ofText "\x7b\"valueToMatch\":null,\"mode\":\"rules\"\x7d" = .ok (c.withNull .valueToMatch) := by
  let blank : Json.Blanks := .none
  let entry (key text : String) : Json.Entry :=
    ⟨blank, key.toList, blank, ⟨blank, text.toList, blank⟩⟩
  let mode := entry "mode" "\"rules\""
  have h : ofText shortest = .ok ⟨.rules, none, none, none, noFallback, false⟩ := by decide +kernel
  have hmode : ∀ e ∈ [mode], e.IsMember := List.forall_mem_singleton.mpr
    ⟨(Json.spellsName_escape "mode").form, .string (Json.spellsName_escape "rules").form⟩
  have hnumber : Json.IsValue "1e999".toList := by
    refine .number ⟨⟨false, ['1'], [], Numeral.withMinus false (Digits.value "999".toList)⟩, ?_, by decide⟩
    exact .intro (by decide) (by decide) (.whole (.present (.inl rfl) .absent (by decide) (by decide)))
  have homits : ∀ d ∈ [mode], ¬ Json.SpellsName d.key "valueToMatch" :=
    List.forall_mem_singleton.mpr fun hname =>
      absurd ((Json.spellsName_escape "mode").eq hname) (by decide)
  have hnote : RewordsValue (Json.objectText [mode] blank)
      (Json.objectText [entry "note" "1e999", mode] blank) :=
    .added (@Json.Inserts.intro _ [] [mode] (entry "note" "1e999") blank hmode
      ⟨hnumber, "note", Json.spellsName_escape "note", by decide⟩)
  have hvalue : SpellsNullIn .valueToMatch (Json.objectText [mode] blank)
      (Json.objectText [entry "valueToMatch" "null", mode] blank) :=
    @Json.Inserts.intro _ [] [mode] (entry "valueToMatch" "null") blank hmode
      ⟨rfl, Json.spellsName_escape "valueToMatch", homits⟩
  have hform : Json.IsValue (Json.objectText [mode] blank) := Json.isValue_objectText hmode
  obtain ⟨-, hwords, hnull⟩ := ofText_rewords h
  refine ⟨_, h, hwords _ (.single ?_), (hnull .valueToMatch _ ?_).2⟩
  · exact @Json.InText.intro _ _ _ ⟨blank, _, blank⟩ _ hform rfl hnote rfl
  · exact @Json.InText.intro _ _ _ ⟨blank, _, blank⟩ _ hform rfl hvalue rfl

end Configuration

end Switchyard
