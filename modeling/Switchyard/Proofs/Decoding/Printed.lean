import Switchyard.Decoding.Record
import Switchyard.Proofs.Json.RoundTrip

/-! Decoders on printed values: a decoder takes the text that is printed of a
value, whatever comes after it. A record is taken member by member. -/

namespace Switchyard

open Json.Reader

namespace Decoder

def Takes {α : Type} (d : Decoder α) (depth : Nat) (text : List Char) (a : α) : Prop :=
  ∀ rest, Ends rest → d.text depth (text ++ rest) = .ok (a, rest)

variable {α : Type} {depth : Nat}

theorem ofText_print_of_takes {d : Decoder α} {v : Json} {a : α}
    (h : d.Takes depthLimit v.write a) : d.ofText v.print = .ok a := by
  have htext := h [] .nil
  rw [List.append_nil] at htext
  refine Json.toOption_eq_some ?_
  rw [ofText, Json.toOption_run, Json.print, String.toList_ofList, htext]
  rfl

theorem takes_json {v : Json} (h : v.reread depth = some v) : json.Takes depth v.write v := by
  intro rest hrest
  have hfuel : 2 * v.write.length ≤ fuelFor (v.write ++ rest) := by
    rw [fuelFor, List.length_append]
    omega
  have hread := Json.readBack v _ depth hfuel rest hrest
  rw [h] at hread
  exact Json.toOption_eq_some hread

theorem takes_string (s : String) : string.Takes depth (Json.writeString s) s := by
  intro rest _
  rw [Json.writeString, List.cons_append, List.append_assoc]
  exact Json.string_flatMap_escape s rest

theorem takes_bool (b : Bool) : bool.Takes depth (Json.bool b).write b := by
  intro rest _
  cases b <;> rfl

theorem integer_text_signed {expected : String} {ofInt? : Int → Option α} {negative : Bool}
    {text : List Char} (h : PlainLiteral text) (rest : List Char) :
    (integer expected ofInt?).text depth (signed negative text ++ rest) =
      match literal (signed negative text ++ rest) with
      | .error e => .error e
      | .ok (n, rest) =>
        match integer.ofNumber expected ofInt? n with
        | .ok a => .ok (a, rest)
        | .error m => mismatch rest m := by
  -- a literal without a sign begins with a digit, so it is not taken for another value
  obtain ⟨c, cs, rfl, hc⟩ := h.exists_digit
  cases negative with
  | true => rfl
  | false =>
    have hminus : c ≠ '-' := Digits.ne_of_isDigit hc (by decide)
    rw [literal_signed h]
    simp only [signed, Bool.false_eq_true, if_false, List.cons_append, integer]
    rw [Json.skipBlanks_of_opens (Json.opens_of_isDigit hc)]
    split
    · next heq => cases heq
    · next heq => exact absurd (List.cons.inj heq).1 hminus
    · next heq =>
      obtain ⟨rfl, rfl⟩ := List.cons.inj heq
      exact if_pos hc

theorem takes_integer {expected : String} {ofInt? : Int → Option α} {i : Int} {word : IsWord i}
    {a : α} (h : ofInt? i = some a) :
    (integer expected ofInt?).Takes depth (Number.integer i word).write a := by
  intro rest hrest
  have hliteral := Json.whole_literal_reread (.integer i word) rest hrest
  rw [Number.reread_integer] at hliteral
  obtain ⟨negative, text, hplain, hwrite⟩ := (Number.integer i word).exists_write_eq
  rw [hwrite] at hliteral ⊢
  rw [integer_text_signed hplain, Json.toOption_eq_some hliteral]
  simp only [integer.ofNumber, h]

theorem takes_index (n : UInt64) : index.Takes depth (Number.ofUInt64 n).write n := by
  refine takes_integer ?_
  have hbound := n.toNat_lt
  rw [if_pos ⟨by omega, by omega⟩, Int.toNat_natCast, UInt64.ofNat_toNat]

theorem takes_int64 (n : Int64) : int64.Takes depth (Number.ofInt64 n).write n := by
  refine takes_integer ?_
  have hlow := Int64.le_toInt n
  have hhigh := Int64.toInt_lt n
  rw [if_pos ⟨hlow, hhigh⟩, Int64.ofInt_toInt]

theorem takes_optional {d : Decoder α} {c : Char} {text : List Char} {a : α}
    (hopens : Json.opens c = true) (hnull : c ≠ 'n') (h : d.Takes depth (c :: text) a) :
    (optional d).Takes depth (c :: text) (some a) := by
  intro rest hrest
  have htext := h rest hrest
  rw [List.cons_append] at htext ⊢
  rw [optional]
  dsimp only
  rw [Json.skipBlanks_of_opens hopens]
  split
  · next heq => exact absurd (List.cons.inj heq).1 hnull
  · rw [htext]
    rfl

theorem takes_optional_string (s : String) :
    (optional string).Takes depth (Json.str s).write (some s) := by
  have h := @takes_string depth s
  rw [Json.writeString] at h
  rw [Json.write, Json.writeString]
  exact takes_optional (by decide) (by decide) h

theorem variant_text_quote (names : List (String × α)) (cs : List Char) :
    (variant names).text depth ('"' :: cs) =
      match Json.Reader.string cs with
      | .error e => .error e
      | .ok (name, rest) =>
        match variant.ofName names name with
        | .ok a => .ok (a, rest)
        | .error m => mismatch rest m := rfl

theorem takes_variant {names : List (String × α)} {name : String} {a : α}
    (h : names.lookup name = some a) : (variant names).Takes depth (Json.writeString name) a := by
  intro rest _
  rw [Json.writeString, List.cons_append, List.append_assoc, variant_text_quote,
    List.cons_append, List.nil_append, Json.string_flatMap_escape]
  simp only [variant.ofName, h]

section Lists

variable {β : Type} {d : Decoder β} {write : β → Json}

theorem itemsWith_itemsText {items : List β} (h : ∀ b ∈ items, d.Takes depth (write b).write b)
    {fuel : Nat} (first : Bool) (acc : List β) (rest : List Char) (hfuel : items.length < fuel) :
    itemsWith d depth fuel first acc (Json.itemsText first (items.map write) ++ ']' :: rest) =
      .ok (acc.reverse ++ items, rest) := by
  induction items generalizing fuel first acc with
  | nil =>
    obtain ⟨fuel, rfl⟩ := Nat.exists_eq_add_of_le' hfuel
    simp [Json.itemsText, itemsWith, Json.nextItem_bracket, Json.closeList_bracket, constant]
  | cons b bs ih =>
    obtain ⟨hb, hbs⟩ := List.forall_mem_cons.mp h
    obtain ⟨fuel, rfl⟩ : ∃ g, fuel = g + 1 := Nat.exists_eq_add_of_le' (by omega)
    have htake := hb _ (Json.ends_itemsText (bs.map write) rest)
    rw [List.map_cons, Json.itemsText, List.append_assoc, itemsWith, Json.nextItem_write]
    dsimp only
    rw [htake]
    dsimp only
    rw [ih hbs false (b :: acc) (by simpa using hfuel)]
    simp

theorem takes_list {items : List β} (h : ∀ b ∈ items, d.Takes depth (write b).write b) :
    (list d).Takes (depth + 1) (Json.arr (items.map write)).write items := by
  intro rest _
  rw [Json.write_arr_append]
  change itemsWith d depth _ true [] _ = _
  rw [itemsWith_itemsText h]
  · rfl
  · have hlength := Json.length_le_itemsText true (items.map write)
    rw [List.length_map] at hlength
    rw [List.length_append]
    omega

theorem takes_optional_list {items : List β} (h : ∀ b ∈ items, d.Takes depth (write b).write b) :
    (optional (list d)).Takes (depth + 1) (Json.arr (items.map write)).write (some items) := by
  have hlist := takes_list h
  rw [Json.write] at hlist ⊢
  exact takes_optional (by decide) (by decide) hlist

end Lists

end Decoder

theorem Field.takes_of {σ β : Type} {depth : Nat} {key : String} {d : Decoder β} {set : β → σ → σ}
    {text : List Char} {b : β} (h : d.Takes depth text b) :
    (Field.of key d set).update.Takes depth text (set b) := by
  intro rest hrest
  change mapValue set (d.text depth (text ++ rest)) = _
  rw [h rest hrest]
  rfl

namespace Shape

variable {σ α : Type} {shape : Shape σ α} {depth : Nat}

inductive Reaches (shape : Shape σ α) (depth : Nat) : σ → List (String × Option Json) → σ → Prop
  | nil {draft : σ} : Reaches shape depth draft [] draft
  | absent {key : String} {draft last : σ} {rest : List (String × Option Json)} :
    Reaches shape depth draft rest last → Reaches shape depth draft ((key, none) :: rest) last
  | present {key : String} {v : Json} {field : Field σ} {update : σ → σ} {draft last : σ}
    {rest : List (String × Option Json)} :
    shape.field? key = some field → field.update.Takes depth v.write update →
    Reaches shape depth (update draft) rest last →
    Reaches shape depth draft ((key, some v) :: rest) last

theorem Reaches.optional {β : Type} {key : String} {d : Decoder β} {set : β → σ → σ}
    {v? : Option Json} {draft s last : σ} {rest : List (String × Option Json)}
    (hfield : shape.field? key = some (.of key d set)) (hnone : v? = none → s = draft)
    (hsome : ∀ v, v? = some v → ∃ b, d.Takes depth v.write b ∧ set b draft = s)
    (h : shape.Reaches depth s rest last) :
    shape.Reaches depth draft ((key, v?) :: rest) last := by
  cases v? with
  | none =>
    rw [← hnone rfl]
    exact .absent h
  | some v =>
    obtain ⟨b, htake, rfl⟩ := hsome v rfl
    exact .present hfield (Field.takes_of htake) h

theorem Reaches.optional_map {β : Type} {key : String} {d : Decoder (Option β)}
    {set : Option β → σ → σ} {o : Option β} {write : β → Json} {draft last : σ}
    {rest : List (String × Option Json)} (hfield : shape.field? key = some (.of key d set))
    (hnone : set none draft = draft) (hsome : ∀ b ∈ o, d.Takes depth (write b).write (some b))
    (h : shape.Reaches depth (set o draft) rest last) :
    shape.Reaches depth draft ((key, o.map write) :: rest) last := by
  refine .optional hfield (fun ho => ?_) (fun v hv => ?_) h
  · rw [Option.map_eq_none_iff.mp ho, hnone]
  · obtain ⟨b, rfl, rfl⟩ := Option.map_eq_some_iff.mp hv
    exact ⟨some b, hsome b rfl, rfl⟩

def present (fields : List (String × Option Json)) : List (String × Json) :=
  fields.filterMap fun (k, v) => v.map fun v => (k, v)

theorem membersWith_membersText {fields : List (String × Option Json)} {draft last : σ}
    (h : shape.Reaches depth draft fields last) (hnodup : (fields.map Prod.fst).Nodup)
    {seen : List String} (hseen : ∀ key ∈ fields.map Prod.fst, key ∉ seen)
    {fuel : Nat} (first : Bool) (rest : List Char) (hfuel : (present fields).length < fuel) :
    shape.membersWith depth fuel first seen draft
        (Json.membersText first (present fields) ++ '\x7d' :: rest) =
      .ok (last, '\x7d' :: rest) := by
  induction h generalizing seen fuel first with
  | nil =>
    obtain ⟨fuel, rfl⟩ := Nat.exists_eq_add_of_le' hfuel
    simp [present, Json.membersText, membersWith, Json.nextKey_brace]
  | absent _ ih =>
    exact ih (List.nodup_cons.mp hnodup).2 (fun k hk => hseen k (List.mem_cons_of_mem _ hk)) first hfuel
  | @present key v field update draft last others hfield htake _ ih =>
    obtain ⟨fuel, rfl⟩ : ∃ g, fuel = g + 1 := Nat.exists_eq_add_of_le' (by omega)
    obtain ⟨hfresh, hothers⟩ := List.nodup_cons.mp hnodup
    have hmembers : present ((key, some v) :: others) = (key, v) :: present others := rfl
    -- keys that are left must be new, also after this one was seen
    have hunseen : key ∉ seen := hseen key List.mem_cons_self
    have hnext : ∀ k ∈ others.map Prod.fst, k ∉ key :: seen := by
      intro k hk hmem
      rcases List.mem_cons.mp hmem with rfl | hold
      · exact hfresh hk
      · exact hseen k (List.mem_cons_of_mem _ hk) hold
    rw [hmembers, List.length_cons] at hfuel
    rw [hmembers, Json.membersText_cons_append, membersWith, Json.nextKey_quote]
    dsimp only
    rw [Json.string_flatMap_escape]
    dsimp only
    rw [hfield]
    dsimp only
    rw [if_neg hunseen, Json.colon_colon]
    dsimp only
    rw [htake _ (Json.ends_membersText (present others) rest)]
    exact ih hothers hnext false (by omega)

theorem decoder_text_brace (cs : List Char) :
    shape.decoder.text (depth + 1) ('\x7b' :: cs) =
      match shape.membersWith depth (cs.length + 1) true [] shape.blank cs with
      | .error e => .error e
      | .ok (draft, rest) => shape.finishText .missingField draft (closeObject rest) := rfl

theorem takes_object {fields : List (String × Option Json)} {s : σ} {a : α}
    (h : shape.Reaches depth shape.blank fields s) (hnodup : (fields.map Prod.fst).Nodup)
    (hfinish : shape.finish s = .ok a) :
    shape.decoder.Takes (depth + 1) (Json.object fields).write a := by
  intro rest _
  have hlength := Json.length_le_membersText true (present fields)
  have hmembers : shape.membersWith depth
      ((Json.membersText true (present fields) ++ '\x7d' :: rest).length + 1) true [] shape.blank
      (Json.membersText true (present fields) ++ '\x7d' :: rest) = .ok (s, '\x7d' :: rest) := by
    refine membersWith_membersText h hnodup (fun _ _ => List.not_mem_nil) true rest ?_
    rw [List.length_append]
    omega
  have hobject : Json.object fields = .obj (present fields) := rfl
  rw [hobject, Json.write_obj_append, decoder_text_brace, hmembers]
  dsimp only
  rw [Json.closeObject_brace, finishText, hfinish]

end Shape

end Switchyard
