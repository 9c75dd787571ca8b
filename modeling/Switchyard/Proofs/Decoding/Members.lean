import Mathlib.Data.List.Perm.Basic
import Mathlib.Data.List.ReduceOption
import Switchyard.Proofs.Decoding.Locality

/-! Records on the grammar of texts. Each member of an object changes the draft if its key is
known and does nothing otherwise, so the members of a record decide what it is decoded as,
and not how they are written. -/

namespace Switchyard

open Json.Reader

theorem Field.decodes_of_iff {σ β : Type} {depth : Nat} {key : String} {d : Decoder β}
    {set : β → σ → σ} {text : List Char} {update : σ → σ} (hd : d.Local) :
    (Field.of key d set).update.Decodes depth text update ↔
      ∃ b, d.Decodes depth text b ∧ set b = update := by
  constructor
  · intro h
    have hok : mapValue set (d.text depth text) = .ok (update, []) := h.text_eq
    obtain ⟨b, hb, hset⟩ := mapValue_eq_ok hok
    exact ⟨b, (hd.decodes_iff h.form).mpr hb, hset⟩
  · rintro ⟨b, hb, rfl⟩
    refine ⟨hb.form, fun before rest hrest => ?_⟩
    change mapValue set (d.text depth (before.1 ++ (text ++ rest))) = _
    rw [hb.takes before rest hrest]
    rfl

theorem Field.local_of {σ β : Type} {key : String} {d : Decoder β} {set : β → σ → σ}
    (hd : d.Local) : (Field.of key d set).update.Local := by
  intro depth cs update rest hok hrest
  obtain ⟨b, hb, rfl⟩ := mapValue_eq_ok hok
  obtain ⟨before, text, rfl, hdecodes⟩ := hd _ _ _ _ hb hrest
  exact ⟨before, text, rfl, (Field.decodes_of_iff hd).mpr ⟨b, hdecodes, rfl⟩⟩

namespace Shape

variable {σ α : Type} {shape : Shape σ α} {depth : Nat}

abbrev Change (σ : Type) := Option (String × (σ → σ))

inductive Means (shape : Shape σ α) (depth : Nat) :
    List Char × List Char → Change σ → Prop
  | unknown {key text : List Char} {name : String} : Json.SpellsName key name →
    shape.field? name = none → Json.IsValue text → Means shape depth (key, text) none
  | known {key text : List Char} {name : String} {field : Field σ} {update : σ → σ} :
    Json.SpellsName key name → shape.field? name = some field →
    field.update.Decodes depth text update → Means shape depth (key, text) (some (name, update))

def named (changes : List (Change σ)) : List String :=
  changes.reduceOption.map Prod.fst

def applyAll (changes : List (Change σ)) (draft : σ) : σ :=
  changes.reduceOption.foldl (fun s c => c.2 s) draft

/-- The members of an object make a draft, if no known key comes twice. -/
def Drafts (shape : Shape σ α) (depth : Nat) (members : List (List Char × List Char)) (draft : σ) :
    Prop :=
  ∃ changes, List.Forall₂ (shape.Means depth) members changes ∧ (named changes).Nodup ∧
    applyAll changes shape.blank = draft

theorem Means.isMember {e : Json.Entry} {change : Change σ} (h : shape.Means depth e.bare change) :
    e.IsMember := by
  cases h with
  | unknown hname _ hvalue => exact ⟨hname.form, hvalue⟩
  | known hname _ hvalue => exact ⟨hname.form, hvalue.form⟩

theorem Drafts.isMember {entries : List Json.Entry} {draft : σ}
    (h : shape.Drafts depth (entries.map Json.Entry.bare) draft) : ∀ e ∈ entries, e.IsMember := by
  obtain ⟨changes, hmeans, -⟩ := h
  exact Json.forall_of_forall₂ (List.forall₂_map_left_iff.mp hmeans) fun _ _ hm => hm.isMember

section Objects

variable {inside : Json.Blanks}

theorem membersWith_entriesOnto {entries : List Json.Entry}
    {changes : List (Change σ)}
    (h : List.Forall₂ (fun e c => shape.Means depth e.bare c) entries changes)
    (hnodup : (named changes).Nodup) {seen : List String}
    (hseen : ∀ name ∈ named changes, name ∉ seen) {fuel : Nat} (first : Bool) (draft : σ)
    (before : Json.Blanks) (rest : List Char) (hfuel : entries.length < fuel) :
    ∃ b : Json.Blanks, shape.membersWith depth fuel first seen draft
        (before.1 ++ Json.entriesOnto first entries (inside.1 ++ '\x7d' :: rest)) =
      .ok (applyAll changes draft, b.1 ++ (inside.1 ++ '\x7d' :: rest)) := by
  induction h generalizing seen fuel first draft before with
  | nil =>
    obtain ⟨fuel, rfl⟩ : ∃ g, fuel = g + 1 := Nat.exists_eq_add_of_le' (by omega)
    refine ⟨before, ?_⟩
    rw [Json.entriesOnto, membersWith, Json.nextKey_close]
    rfl
  | @cons e change es changes he _ ih =>
    obtain ⟨fuel, rfl⟩ : ∃ g, fuel = g + 1 := Nat.exists_eq_add_of_le' (by omega)
    have hends := Json.ends_append e.value.after (Json.ends_entriesOnto es inside rest)
    simp only [List.length_cons] at hfuel
    rw [membersWith, Json.nextKey_entriesOnto]
    obtain ⟨before', key, between, value⟩ := e
    cases he with
    | unknown hname hfield hvalue =>
      obtain ⟨b, hrest⟩ := @ih hnodup seen hseen fuel false draft value.after (by omega)
      refine ⟨b, ?_⟩
      dsimp only at hends ⊢
      rw [hname.reads]
      dsimp only
      rw [hfield]
      dsimp only
      rw [Json.colon_append, Json.Padded.onto]
      dsimp only
      rw [hvalue.skip_append _ hends]
      exact hrest
    | @known _ _ name field update hname hfield hvalue =>
      obtain ⟨hfresh, hnodup⟩ := List.nodup_cons.mp hnodup
      obtain ⟨hunseen, hothers⟩ := List.forall_mem_cons.mp hseen
      -- the names that are left are new also after this one was seen
      have hnext : ∀ n ∈ named changes, n ∉ name :: seen := by
        intro n hn hmem
        rcases List.mem_cons.mp hmem with rfl | hold
        · exact hfresh hn
        · exact hothers n hn hold
      obtain ⟨b, hrest⟩ := @ih hnodup (name :: seen) hnext fuel false (update draft) value.after (by omega)
      refine ⟨b, ?_⟩
      dsimp only at hends ⊢
      rw [hname.reads]
      dsimp only
      rw [hfield]
      dsimp only
      rw [if_neg hunseen, Json.colon_append, Json.Padded.onto]
      dsimp only
      rw [hvalue.takes _ _ hends]
      exact hrest

theorem membersWith_eq_ok (hlocal : ∀ field ∈ shape.fields, field.update.Local) {fuel : Nat}
    {first : Bool} {seen : List String} {draft last : σ} {cs more rest : List Char}
    (hok : shape.membersWith depth fuel first seen draft cs = .ok (last, more))
    (hclose : closeObject more = .ok rest) :
    ∃ (b : Json.Blanks) (entries : List Json.Entry) (inside : Json.Blanks)
      (changes : List (Change σ)), (first = true → b.1 = []) ∧
      cs = b.1 ++ Json.entriesOnto first entries (inside.1 ++ '\x7d' :: rest) ∧
      List.Forall₂ (fun e c => shape.Means depth e.bare c) entries changes ∧
      (named changes).Nodup ∧ (∀ name ∈ named changes, name ∉ seen) ∧
      applyAll changes draft = last := by
  induction fuel generalizing first seen draft cs with
  | zero => cases hok
  | succ fuel ih =>
    unfold membersWith at hok
    split at hok
    · cases hok
    · next hnext =>
      obtain ⟨inside, after, rfl⟩ := Json.nextKey_eq_none hnext
      cases hok
      rw [Json.closeObject_append, Json.closeObject_brace] at hclose
      cases hclose
      exact ⟨.none, [], inside, [], fun _ => rfl, rfl, .nil, .nil, nofun, rfl⟩
    · next hnext =>
      obtain ⟨b, before, hb, rfl⟩ := Json.nextKey_eq_some hnext
      split at hok
      · cases hok
      · next name _ hstring =>
        obtain ⟨key, rfl, hname⟩ := Json.string_eq_ok hstring
        split at hok
        · next hfield =>
          split at hok
          · cases hok
          · next hcolon =>
            obtain ⟨between, rfl⟩ := Json.colon_eq_ok hcolon
            split at hok
            · cases hok
            · next hskip =>
              obtain ⟨after, entries, inside, changes, -, rfl, hmeans, hnodup, hseen, hlast⟩ := ih hok
              obtain ⟨before', text, rfl, hvalue⟩ := Json.exists_of_skip hskip
              exact ⟨b, ⟨before, key, between, ⟨before', text, after⟩⟩ :: entries, inside,
                none :: changes, hb, rfl, .cons (.unknown hname hfield hvalue) hmeans, hnodup, hseen,
                hlast⟩
        · next field hfield =>
          split at hok
          · cases hok
          · next hunseen =>
            split at hok
            · cases hok
            · next hcolon =>
              obtain ⟨between, rfl⟩ := Json.colon_eq_ok hcolon
              split at hok
              · cases hok
              · next update _ hvalue =>
                obtain ⟨after, entries, inside, changes, -, rfl, hmeans, hnodup, hseen, hlast⟩ := ih hok
                have hmem : field ∈ shape.fields := List.mem_of_find?_eq_some hfield
                obtain ⟨before', text, rfl, hdecodes⟩ := hlocal field hmem _ _ _ _ hvalue
                  (Json.ends_append after (Json.ends_entriesOnto entries inside rest))
                have hfresh : name ∉ named changes := fun hn => hseen name hn List.mem_cons_self
                refine ⟨b, ⟨before, key, between, ⟨before', text, after⟩⟩ :: entries, inside,
                  some (name, update) :: changes, hb, rfl, .cons (.known hname hfield hdecodes) hmeans,
                  List.nodup_cons.mpr ⟨hfresh, hnodup⟩, List.forall_mem_cons.mpr ⟨hunseen, ?_⟩, hlast⟩
                exact fun n hn hold => hseen n hn (List.mem_cons_of_mem _ hold)

end Objects

section Arrays

/-- The items of an array set the fields in order, and the last ones may be missing. -/
inductive Fills (depth : Nat) : List (Field σ) → σ → List Json.Padded → σ → Prop
  | nil {fields : List (Field σ)} {draft : σ} : Fills depth fields draft [] draft
  | cons {field : Field σ} {fields : List (Field σ)} {p : Json.Padded} {ps : List Json.Padded}
    {update : σ → σ} {draft last : σ} : field.update.Decodes depth p.value update →
    Fills depth fields (update draft) ps last → Fills depth (field :: fields) draft (p :: ps) last

theorem Fills.forms {fields : List (Field σ)} {draft last : σ} {items : List Json.Padded}
    (h : Fills depth fields draft items last) : ∀ p ∈ items, Json.IsValue p.value := by
  induction h with
  | nil => nofun
  | cons hp _ ih => exact List.forall_mem_cons.mpr ⟨hp.form, ih⟩

variable {inside : Json.Blanks}

theorem itemsWith_itemsOnto {fields : List (Field σ)} {items : List Json.Padded} {draft last : σ}
    (h : Fills depth fields draft items last) (first : Bool) (before : Json.Blanks)
    (rest : List Char) :
    ∃ b : Json.Blanks, itemsWith depth fields first draft
        (before.1 ++ Json.itemsOnto first items (inside.1 ++ ']' :: rest)) =
      .ok (last, b.1 ++ (inside.1 ++ ']' :: rest)) := by
  induction h generalizing first before with
  | @nil fields draft =>
    refine ⟨before, ?_⟩
    cases fields with
    | nil => rfl
    | cons field fields =>
      rw [itemsWith, Json.itemsOnto, Json.nextItem_close]
  | @cons field fields p ps update draft last hp _ ih =>
    have hitem := hp.takes .none _ (Json.ends_append p.after (Json.ends_itemsOnto ps inside rest))
    rw [List.nil_append] at hitem
    obtain ⟨b, hrest⟩ := ih false p.after
    refine ⟨b, ?_⟩
    rw [itemsWith, Json.nextItem_itemsOnto hp.form]
    dsimp only
    rw [hitem]
    exact hrest

theorem itemsWith_eq_ok {fields : List (Field σ)} (hlocal : ∀ field ∈ fields, field.update.Local)
    {first : Bool} {draft last : σ} {cs more rest : List Char}
    (hok : itemsWith depth fields first draft cs = .ok (last, more))
    (hclose : closeList more = .ok rest) :
    ∃ (b : Json.Blanks) (items : List Json.Padded) (inside : Json.Blanks),
      (first = true → b.1 = []) ∧
      cs = b.1 ++ Json.itemsOnto first items (inside.1 ++ ']' :: rest) ∧
      Fills depth fields draft items last := by
  induction fields generalizing first draft cs with
  | nil =>
    cases hok
    obtain ⟨inside, rfl⟩ := Json.closeList_eq_ok hclose
    exact ⟨.none, [], inside, fun _ => rfl, rfl, .nil⟩
  | cons field fields ih =>
    obtain ⟨hfield, hfields⟩ := List.forall_mem_cons.mp hlocal
    unfold itemsWith at hok
    split at hok
    · cases hok
    · cases hok
      obtain ⟨inside, rfl⟩ := Json.closeList_eq_ok hclose
      exact ⟨.none, [], inside, fun _ => rfl, rfl, .nil⟩
    · next hnext =>
      obtain ⟨b, before, hb, rfl⟩ := Json.nextItem_eq_some hnext
      split at hok
      · cases hok
      · next hitem =>
        obtain ⟨after, items, inside, -, rfl, hfills⟩ := ih hfields hok
        obtain ⟨before', text, rfl, hdecodes⟩ :=
          hfield _ _ _ _ hitem (Json.ends_append after (Json.ends_itemsOnto items inside rest))
        refine ⟨b, ⟨before.append before', text, after⟩ :: items, inside, hb, ?_,
          .cons hdecodes hfills⟩
        simp only [Json.itemsOnto, Json.Padded.onto, Json.Blanks.append, List.append_assoc]

end Arrays

theorem trims_decoder : shape.decoder.Trims := fun depth b cs => by
  simp only [decoder, text, Json.skipBlanks_append]

theorem decodes_object {entries : List Json.Entry} {inside : Json.Blanks} {draft : σ} {a : α}
    (h : shape.Drafts depth (entries.map Json.Entry.bare) draft) (hfinish : shape.finish draft = .ok a) :
    shape.decoder.Decodes (depth + 1) (Json.objectText entries inside) a := by
  refine .intro trims_decoder (Json.isValue_objectText h.isMember) fun rest _ => ?_
  obtain ⟨changes, hmeans, hnodup, rfl⟩ := h
  rw [List.forall₂_map_left_iff] at hmeans
  have hlength := Json.length_le_entriesOnto entries true (inside.1 ++ '\x7d' :: rest)
  obtain ⟨b, hmembers⟩ := @membersWith_entriesOnto _ _ shape depth inside _ _ hmeans hnodup []
    (fun _ _ => List.not_mem_nil)
    ((Json.entriesOnto true entries (inside.1 ++ '\x7d' :: rest)).length + 1) true shape.blank
    .none rest (by omega)
  rw [List.nil_append] at hmembers
  rw [Json.objectText_append, decoder_text_brace, hmembers]
  dsimp only
  rw [Json.closeObject_close, finishText]
  simp only [hfinish]

theorem decoder_text_bracket (cs : List Char) :
    shape.decoder.text (depth + 1) ('[' :: cs) =
      match itemsWith depth shape.fields true shape.blank cs with
      | .error e => .error e
      | .ok (draft, rest) => shape.finishText shape.tooShort draft (closeList rest) := rfl

theorem decodes_array {items : List Json.Padded} {inside : Json.Blanks} {draft : σ} {a : α}
    (h : Fills depth shape.fields shape.blank items draft) (hfinish : shape.finish draft = .ok a) :
    shape.decoder.Decodes (depth + 1) (Json.listText items inside) a := by
  refine .intro trims_decoder (.list h.forms) fun rest _ => ?_
  obtain ⟨b, hitems⟩ := @itemsWith_itemsOnto _ depth inside _ _ _ _ h true .none rest
  rw [List.nil_append] at hitems
  rw [Json.listText_append, decoder_text_bracket, hitems]
  dsimp only
  rw [Json.closeList_close, finishText]
  simp only [hfinish]

theorem finishText_eq_ok {missing : String → Mismatch} {draft : σ} {closed : Result (List Char)}
    {a : α} {rest : List Char} (h : shape.finishText missing draft closed = .ok (a, rest)) :
    closed = .ok rest ∧ shape.finish draft = .ok a := by
  unfold finishText at h
  split at h
  · cases h
  · split at h
    · cases h
    · next hfinish =>
      cases h
      exact ⟨rfl, hfinish⟩

theorem object_text_eq_ok (hlocal : ∀ field ∈ shape.fields, field.update.Local) {cs rest : List Char}
    {a : α} (hok : shape.decoder.text depth ('\x7b' :: cs) = .ok (a, rest)) :
    ∃ (k : Nat) (entries : List Json.Entry) (inside : Json.Blanks) (draft : σ), depth = k + 1 ∧
      '\x7b' :: cs = Json.objectText entries inside ++ rest ∧
      shape.Drafts k (entries.map Json.Entry.bare) draft ∧ shape.finish draft = .ok a := by
  cases depth with
  | zero => cases hok
  | succ k =>
    rw [decoder_text_brace] at hok
    split at hok
    · cases hok
    · next draft more hmembers =>
      obtain ⟨hclose, hfinish⟩ := finishText_eq_ok hok
      obtain ⟨b, entries, inside, changes, hb, rfl, hmeans, hnodup, -, hdraft⟩ :=
        membersWith_eq_ok hlocal hmembers hclose
      refine ⟨k, entries, inside, draft, rfl, ?_,
        ⟨changes, List.forall₂_map_left_iff.mpr hmeans, hnodup, hdraft⟩, hfinish⟩
      rw [Json.objectText_append, hb rfl, List.nil_append]

theorem local_decoder (hlocal : ∀ field ∈ shape.fields, field.update.Local) :
    shape.decoder.Local := by
  refine .of_trimmed fun depth cs a rest hok _ => ?_
  obtain ⟨b, hcs⟩ := Json.exists_skipBlanks cs
  have htrimmed : shape.decoder.text depth (skipBlanks cs) = .ok (a, rest) := by
    rwa [hcs, trims_decoder] at hok
  change shape.text depth cs = _ at hok
  unfold text at hok
  split at hok
  · cases hok
  · next heq =>
    cases depth with
    | zero => cases hok
    | succ k =>
      dsimp only at hok
      split at hok
      · cases hok
      · next draft more hitems =>
        obtain ⟨hclose, hfinish⟩ := finishText_eq_ok hok
        obtain ⟨b, items, inside, hb, rfl, hfills⟩ := itemsWith_eq_ok hlocal hitems hclose
        refine ⟨Json.listText items inside, ?_, decodes_array hfills hfinish⟩
        rw [heq, Json.listText_append, hb rfl, List.nil_append]
  · next heq =>
    rw [heq] at htrimmed
    obtain ⟨k, entries, inside, draft, rfl, htext, hdraft, hfinish⟩ :=
      object_text_eq_ok hlocal htrimmed
    exact ⟨_, heq.trans htext, decodes_object hdraft hfinish⟩
  · exact absurd hok Decoder.refuse_ne_ok

theorem decodes_object_iff (hlocal : ∀ field ∈ shape.fields, field.update.Local)
    {entries : List Json.Entry} {inside : Json.Blanks} (hmembers : ∀ e ∈ entries, e.IsMember) {a : α} :
    shape.decoder.Decodes depth (Json.objectText entries inside) a ↔
      ∃ k draft, depth = k + 1 ∧ shape.Drafts k (entries.map Json.Entry.bare) draft ∧
        shape.finish draft = .ok a := by
  constructor
  · intro h
    obtain ⟨k, entries', inside', draft, rfl, htext, hdraft, hfinish⟩ :=
      object_text_eq_ok hlocal h.text_eq
    have hbare := Json.objectText_inj hmembers hdraft.isMember
      (htext.trans (List.append_nil _))
    exact ⟨k, draft, rfl, by rwa [hbare], hfinish⟩
  · rintro ⟨k, draft, rfl, hdraft, hfinish⟩
    exact decodes_object hdraft hfinish

end Shape

end Switchyard
