import Switchyard.Proofs.Decoding.Printed
import Switchyard.Proofs.Decoding.Yields
import Switchyard.Proofs.Json.Denotation
import Switchyard.Proofs.Json.Skipping

/-! Decoders on the grammar of texts. A decoder accepts only values of the grammar, and what
it makes of one does not depend on where it stands; so a list is decoded item by item, and a
text that is decoded may be looked at part by part. -/

namespace Switchyard

open Json.Reader

namespace Json

theorem IsValue.skipBlanks_eq {text : List Char} (h : IsValue text) :
    Reader.skipBlanks text = text := by
  have hskip := h.skipBlanks_append .none []
  rwa [List.append_nil] at hskip

theorem skipBlanks_skipBlanks (cs : List Char) : Reader.skipBlanks (Reader.skipBlanks cs) = Reader.skipBlanks cs :=
  List.dropWhile_idempotent _ _

theorem listText_inj {items items' : List Padded} {inside inside' : Blanks}
    (h : ∀ p ∈ items, IsValue p.value) (h' : ∀ p ∈ items', IsValue p.value)
    (heq : listText items inside = listText items' inside') :
    items.map Padded.value = items'.map Padded.value :=
  @itemsOnto_inj _ _ h h' true .none .none inside inside' [] [] (List.cons.inj heq).2

theorem objectText_inj {entries entries' : List Entry} {inside inside' : Blanks}
    (h : ∀ e ∈ entries, e.IsMember) (h' : ∀ e ∈ entries', e.IsMember)
    (heq : objectText entries inside = objectText entries' inside') :
    entries.map Entry.bare = entries'.map Entry.bare :=
  @entriesOnto_inj _ _ h h' true .none .none inside inside' [] [] (List.cons.inj heq).2

end Json

namespace Decoder

/-- A value as it is written, and what a decoder makes of it: whatever blanks come before it,
and whatever comes after it. -/
structure Decodes {α : Type} (d : Decoder α) (depth : Nat) (text : List Char) (a : α) : Prop where
  form : Json.IsValue text
  takes : ∀ (b : Json.Blanks) (rest : List Char), Ends rest →
    d.text depth (b.1 ++ (text ++ rest)) = .ok (a, rest)

/-- Whatever a decoder accepts is a value of the grammar, and it decodes it everywhere. -/
def Local {α : Type} (d : Decoder α) : Prop :=
  ∀ (depth : Nat) (cs : List Char) (a : α) (rest : List Char), d.text depth cs = .ok (a, rest) →
    Ends rest → ∃ (b : Json.Blanks) (text : List Char), cs = b.1 ++ (text ++ rest) ∧
      d.Decodes depth text a

section Texts

variable {α : Type} {d : Decoder α} {depth : Nat} {text : List Char} {a : α}

theorem Decodes.text_eq (h : d.Decodes depth text a) : d.text depth text = .ok (a, []) := by
  have hok := h.takes .none [] .nil
  rwa [List.append_nil] at hok

theorem Local.decodes (hd : d.Local) (htext : Json.IsValue text) {b : Json.Blanks}
    {rest rest' : List Char} (hrest : Ends rest) (hrest' : Ends rest')
    (hok : d.text depth (b.1 ++ (text ++ rest)) = .ok (a, rest')) :
    rest' = rest ∧ d.Decodes depth text a := by
  obtain ⟨b', text', heq, hdecodes⟩ := hd _ _ _ _ hok hrest'
  obtain ⟨rfl, rfl⟩ := htext.append_inj hdecodes.form hrest hrest' heq
  exact ⟨rfl, hdecodes⟩

theorem Local.decodes_iff (hd : d.Local) (htext : Json.IsValue text) :
    d.Decodes depth text a ↔ d.text depth text = .ok (a, []) := by
  constructor
  · exact Decodes.text_eq
  · intro hok
    have hplain : d.text depth ([] ++ (text ++ [])) = .ok (a, []) := by
      rwa [List.nil_append, List.append_nil]
    exact (hd.decodes htext (b := .none) .nil .nil hplain).2

theorem ofText_eq_ok_iff (hd : d.Local) {t : String} :
    d.ofText t = .ok a ↔
      ∃ p : Json.Padded, t.toList = p.onto [] ∧ d.Decodes depthLimit p.value a := by
  constructor
  · intro h
    obtain ⟨rest, hok, hblank⟩ := exists_of_run_eq_ok h
    obtain ⟨after, rfl⟩ := Json.skipBlanks_eq_nil_iff.mp hblank
    obtain ⟨before, text, htext, hdecodes⟩ := hd _ _ _ _ hok (Json.ends_blanks after)
    exact ⟨⟨before, text, after⟩, by rw [htext, Json.Padded.onto, List.append_nil], hdecodes⟩
  · rintro ⟨p, htext, hdecodes⟩
    have hblank : skipBlanks p.after.1 = [] := Json.skipBlanks_eq_nil_iff.mpr ⟨p.after, rfl⟩
    have hok := hdecodes.takes p.before p.after.1 (Json.ends_blanks p.after)
    rw [ofText, run, htext, Json.Padded.onto, List.append_nil, hok]
    simp only [atEnd, hblank]

end Texts

def Trims {α : Type} (d : Decoder α) : Prop :=
  ∀ (depth : Nat) (b : Json.Blanks) (cs : List Char), d.text depth (b.1 ++ cs) = d.text depth cs

theorem Decodes.intro {α : Type} {d : Decoder α} {depth : Nat} {text : List Char} {a : α}
    (hd : d.Trims) (form : Json.IsValue text)
    (h : ∀ rest, Ends rest → d.text depth (text ++ rest) = .ok (a, rest)) :
    d.Decodes depth text a :=
  ⟨form, fun b rest hrest => (hd depth b _).trans (h rest hrest)⟩

theorem Local.of_trimmed {α : Type} {d : Decoder α}
    (h : ∀ depth cs a rest, d.text depth cs = .ok (a, rest) → Ends rest →
      ∃ text, skipBlanks cs = text ++ rest ∧ d.Decodes depth text a) : d.Local := by
  intro depth cs a rest hok hrest
  obtain ⟨text, htext, hdecodes⟩ := h depth cs a rest hok hrest
  obtain ⟨b, rfl⟩ := Json.exists_of_skipBlanks_eq htext
  exact ⟨b, text, rfl, hdecodes⟩

theorem converted_eq_ok {α : Type} {r : Except Mismatch α} {more rest : List Char} {a : α}
    (h : (match r with
      | .ok a => .ok (a, more)
      | .error m => mismatch more m : Result (α × List Char)) = .ok (a, rest)) :
    r = .ok a ∧ more = rest := by
  split at h
  · cases h
    exact ⟨rfl, rfl⟩
  · cases h

theorem refuse_ne_ok {α : Type} {expected : String} {cs : List Char} {r : α × List Char} :
    refuse expected cs ≠ .ok r :=
  fun h => yields_refuse (q := fun _ => False) r.1 r.2 h

theorem decodes_json {depth : Nat} {text : List Char} {v : Json} (h : Json.Denotes depth text v) :
    json.Decodes depth text v := by
  refine ⟨h.form, fun b rest hrest => h.reads _ b rest ?_ hrest⟩
  simp only [fuelFor, List.length_append]
  omega

theorem local_json : json.Local := by
  intro depth cs v rest hok hrest
  obtain ⟨b, text, hcs, hdenotes⟩ := (Json.readsTexts _).value hok hrest
  exact ⟨b, text, hcs, decodes_json hdenotes⟩

section Scalars

variable {depth : Nat}

theorem trims_string : string.Trims := fun depth b cs => by
  simp only [string, Json.skipBlanks_append]

theorem decodes_string {key : List Char} {s : String} (h : Json.SpellsName key s) :
    string.Decodes depth ('"' :: (key ++ ['"'])) s := by
  refine .intro trims_string (.string h.form) fun rest _ => ?_
  rw [List.cons_append, List.append_assoc]
  exact h.reads rest

theorem local_string : string.Local := by
  refine .of_trimmed fun depth cs s rest hok _ => ?_
  unfold string at hok
  dsimp only at hok
  split at hok
  · cases hok
  · next heq =>
    obtain ⟨key, rfl, hkey⟩ := Json.string_eq_ok hok
    exact ⟨_, by rw [heq]; simp, decodes_string hkey⟩
  · exact absurd hok refuse_ne_ok

theorem trims_bool : bool.Trims := fun depth b cs => by
  simp only [bool, Json.skipBlanks_append]

theorem local_bool : bool.Local := by
  refine .of_trimmed fun depth cs b rest hok _ => ?_
  unfold bool at hok
  dsimp only at hok
  split at hok
  · cases hok
  · next heq =>
    obtain ⟨hword, rfl⟩ := Json.constant_eq_ok hok
    exact ⟨"true".toList, by rw [heq, Json.word_eq_ok hword]; rfl,
      .intro trims_bool (.word (by simp)) fun _ _ => rfl⟩
  · next heq =>
    obtain ⟨hword, rfl⟩ := Json.constant_eq_ok hok
    exact ⟨"false".toList, by rw [heq, Json.word_eq_ok hword]; rfl,
      .intro trims_bool (.word (by simp)) fun _ _ => rfl⟩
  · exact absurd hok refuse_ne_ok

theorem trims_unit : unit.Trims := fun depth b cs => by
  simp only [unit, Json.skipBlanks_append]

theorem decodes_unit : unit.Decodes depth "null".toList () :=
  .intro trims_unit (.word (by simp)) fun _ _ => rfl

theorem local_unit : unit.Local := by
  refine .of_trimmed fun depth cs u rest hok _ => ?_
  unfold unit at hok
  dsimp only at hok
  split at hok
  · cases hok
  · next heq =>
    obtain ⟨hword, rfl⟩ := Json.constant_eq_ok hok
    exact ⟨"null".toList, by rw [heq, Json.word_eq_ok hword]; rfl, decodes_unit⟩
  · exact absurd hok refuse_ne_ok

section Integers

variable {α : Type} {expected : String} {ofInt? : Int → Option α}

theorem trims_integer : (integer expected ofInt?).Trims := fun depth b cs => by
  simp only [integer, Json.skipBlanks_append]

theorem decodes_integer {negative : Bool} {plain : List Char} {n : Number} {a : α}
    (hplain : PlainLiteral plain) (hform : Json.IsNumber (signed negative plain))
    (h : ∀ rest, Ends rest → number negative (plain ++ rest) = .ok (n, rest))
    (ha : integer.ofNumber expected ofInt? n = .ok a) :
    (integer expected ofInt?).Decodes depth (signed negative plain) a := by
  refine .intro trims_integer (.number hform) fun rest hrest => ?_
  rw [integer_text_signed hplain, literal_signed hplain, h rest hrest]
  simp only [ha]

theorem integer_converted {r : Result (Number × List Char)} {a : α} {rest : List Char}
    (h : (match r with
      | .error e => .error e
      | .ok (n, rest) =>
        match integer.ofNumber expected ofInt? n with
        | .ok a => .ok (a, rest)
        | .error m => mismatch rest m : Result (α × List Char)) = .ok (a, rest)) :
    ∃ n, r = .ok (n, rest) ∧ integer.ofNumber expected ofInt? n = .ok a := by
  split at h
  · cases h
  · obtain ⟨ha, rfl⟩ := converted_eq_ok h
    exact ⟨_, rfl, ha⟩

theorem local_integer : (integer expected ofInt?).Local := by
  refine .of_trimmed fun depth cs a rest hok hrest => ?_
  -- a sign or a digit stands in front of a number, and of no other value
  obtain ⟨negative, more, n, hcs, hnumber, ha⟩ : ∃ negative more n,
      skipBlanks cs = signed negative more ∧ number negative more = .ok (n, rest) ∧
      integer.ofNumber expected ofInt? n = .ok a := by
    unfold integer at hok
    dsimp only at hok
    split at hok
    · cases hok
    · next heq =>
      obtain ⟨n, hn, ha⟩ := integer_converted hok
      exact ⟨true, _, n, heq, hn, ha⟩
    · next heq =>
      split at hok
      · obtain ⟨n, hn, ha⟩ := integer_converted hok
        exact ⟨false, _, n, heq, hn, ha⟩
      · exact absurd hok refuse_ne_ok
  obtain ⟨plain, hplain, hform, rfl, hread⟩ := Json.number_eq_ok_text hnumber hrest
  refine ⟨signed negative plain, ?_, decodes_integer hplain hform hread ha⟩
  rw [hcs]
  cases negative <;> rfl

end Integers

end Scalars

section Optional

variable {α : Type} {d : Decoder α} {depth : Nat}

theorem trims_optional : (optional d).Trims := fun depth b cs => by
  simp only [optional, Json.skipBlanks_append]

theorem decodes_optional_null : (optional d).Decodes depth "null".toList none :=
  .intro trims_optional (.word (by simp)) fun _ _ => rfl

theorem decodes_optional {text : List Char} {a : α} (h : d.Decodes depth text a)
    (hnull : text.head? ≠ some 'n') : (optional d).Decodes depth text (some a) := by
  refine .intro trims_optional h.form fun rest hrest => ?_
  have hskip := h.form.skipBlanks_append .none rest
  have htake := h.takes .none rest hrest
  rw [List.nil_append] at hskip htake
  rw [optional]
  dsimp only
  rw [hskip]
  split
  · next heq =>
    obtain ⟨c, cs, rfl, -⟩ := h.form.exists_head
    exact absurd (congrArg some (List.cons.inj heq).1) hnull
  · rw [htake]
    rfl

theorem Local.optional (hd : d.Local) : (optional d).Local := by
  refine .of_trimmed fun depth cs o rest hok hrest => ?_
  unfold Decoder.optional at hok
  dsimp only at hok
  split at hok
  · next heq =>
    obtain ⟨hword, rfl⟩ := Json.constant_eq_ok hok
    exact ⟨"null".toList, by rw [heq, Json.word_eq_ok hword]; rfl, decodes_optional_null⟩
  · next hnull =>
    obtain ⟨a, ha, rfl⟩ := mapValue_eq_ok hok
    obtain ⟨b, text, heq, hdecodes⟩ := hd _ _ _ _ ha hrest
    have htext : skipBlanks cs = text ++ rest := by
      rw [← Json.skipBlanks_skipBlanks, heq, hdecodes.form.skipBlanks_append]
    refine ⟨text, htext, decodes_optional hdecodes fun hhead => ?_⟩
    obtain ⟨c, cs', rfl, -⟩ := hdecodes.form.exists_head
    cases hhead
    exact hnull _ htext

theorem Local.decodes_optional_iff (hd : d.Local) {text : List Char}
    (hnull : text.head? ≠ some 'n') {o : Option α} :
    (Decoder.optional d).Decodes depth text o ↔ ∃ a, o = some a ∧ d.Decodes depth text a := by
  constructor
  · intro h
    have hok := h.text_eq
    unfold Decoder.optional at hok
    dsimp only at hok
    rw [h.form.skipBlanks_eq] at hok
    split at hok
    · exact absurd rfl hnull
    · obtain ⟨a, ha, rfl⟩ := mapValue_eq_ok hok
      exact ⟨a, rfl, (hd.decodes_iff h.form).mpr ha⟩
  · rintro ⟨a, rfl, ha⟩
    exact decodes_optional ha hnull

end Optional

section Lists

variable {α : Type} {d : Decoder α} {depth : Nat} {items : List Json.Padded} {inside : Json.Blanks}

theorem itemsWith_itemsOnto {as : List α}
    (h : List.Forall₂ (fun p a => d.Decodes depth p.value a) items as) {fuel : Nat} (first : Bool)
    (acc : List α) (before : Json.Blanks) (rest : List Char) (hfuel : items.length < fuel) :
    itemsWith d depth fuel first acc
        (before.1 ++ Json.itemsOnto first items (inside.1 ++ ']' :: rest)) =
      .ok (acc.reverse ++ as, rest) := by
  induction h generalizing fuel first acc before with
  | nil =>
    obtain ⟨fuel, rfl⟩ : ∃ g, fuel = g + 1 := Nat.exists_eq_add_of_le' (by omega)
    rw [Json.itemsOnto, itemsWith, Json.nextItem_close, Json.closeList_close, List.append_nil]
    rfl
  | @cons p a ps as hp _ ih =>
    obtain ⟨fuel, rfl⟩ : ∃ g, fuel = g + 1 := Nat.exists_eq_add_of_le' (by omega)
    have hitem := hp.takes .none (p.after.1 ++ Json.itemsOnto false ps (inside.1 ++ ']' :: rest))
      (Json.ends_append _ (Json.ends_itemsOnto ps inside rest))
    have hrest := @ih fuel false (a :: acc) p.after (Nat.lt_of_succ_lt_succ hfuel)
    rw [List.nil_append] at hitem
    rw [itemsWith, Json.nextItem_itemsOnto hp.form]
    dsimp only
    rw [hitem]
    dsimp only
    rw [hrest, List.reverse_cons, List.append_assoc, List.singleton_append]

theorem itemsWith_eq_ok (hd : d.Local) {fuel : Nat} {first : Bool} {acc as : List α}
    {cs rest : List Char} (hok : itemsWith d depth fuel first acc cs = .ok (as, rest)) :
    ∃ (b : Json.Blanks) (items : List Json.Padded) (inside : Json.Blanks) (bs : List α),
      (first = true → b.1 = []) ∧
      cs = b.1 ++ Json.itemsOnto first items (inside.1 ++ ']' :: rest) ∧ as = acc.reverse ++ bs ∧
      List.Forall₂ (fun p a => d.Decodes depth p.value a) items bs := by
  induction fuel generalizing first acc cs with
  | zero => cases hok
  | succ fuel ih =>
    unfold itemsWith at hok
    split at hok
    · cases hok
    · next hnext =>
      obtain ⟨inside, after, rfl⟩ := Json.nextItem_eq_none hnext
      rw [Json.closeList_append, Json.closeList_bracket] at hok
      cases hok
      exact ⟨.none, [], inside, [], fun _ => rfl, rfl, (List.append_nil _).symm, .nil⟩
    · next hnext =>
      obtain ⟨b, before, hb, rfl⟩ := Json.nextItem_eq_some hnext
      split at hok
      · cases hok
      · next a more hitem =>
        obtain ⟨after, items, inside, bs, -, rfl, rfl, hbs⟩ := ih hok
        obtain ⟨before', text, rfl, ha⟩ :=
          hd _ _ _ _ hitem (Json.ends_append _ (Json.ends_itemsOnto items inside rest))
        refine ⟨b, ⟨before.append before', text, after⟩ :: items, inside, a :: bs, hb, ?_, ?_,
          .cons ha hbs⟩
        · simp only [Json.itemsOnto, Json.Padded.onto, Json.Blanks.append, List.append_assoc]
        · rw [List.reverse_cons, List.append_assoc, List.singleton_append]

theorem trims_list : (list d).Trims := fun depth b cs => by
  simp only [list, Json.skipBlanks_append]

theorem decodes_list {as : List α} (h : List.Forall₂ (d.Decodes depth) (items.map Json.Padded.value) as) :
    (list d).Decodes (depth + 1) (Json.listText items inside) as := by
  rw [List.forall₂_map_left_iff] at h
  have hforms : ∀ p ∈ items, Json.IsValue p.value := Json.forall_of_forall₂ h fun _ _ ha => ha.form
  refine .intro trims_list (.list hforms) fun rest _ => ?_
  rw [Json.listText_append]
  refine itemsWith_itemsOnto h true [] .none rest ?_
  have hlength := Json.length_le_itemsOnto hforms true (inside.1 ++ ']' :: rest)
  omega

theorem list_text_eq_ok (hd : d.Local) {as : List α} {cs rest : List Char}
    (hok : (list d).text depth cs = .ok (as, rest)) :
    ∃ (k : Nat) (items : List Json.Padded) (inside : Json.Blanks), depth = k + 1 ∧
      skipBlanks cs = Json.listText items inside ++ rest ∧
      List.Forall₂ (d.Decodes k) (items.map Json.Padded.value) as := by
  unfold list at hok
  dsimp only at hok
  split at hok
  · cases hok
  · next heq =>
    cases depth with
    | zero => cases hok
    | succ k =>
      obtain ⟨b, items, inside, bs, hb, rfl, rfl, hbs⟩ := itemsWith_eq_ok hd hok
      refine ⟨k, items, inside, rfl, ?_, List.forall₂_map_left_iff.mpr hbs⟩
      rw [heq, Json.listText_append, hb rfl, List.nil_append]
  · exact absurd hok refuse_ne_ok

theorem Local.list (hd : d.Local) : (list d).Local := by
  refine .of_trimmed fun depth cs as rest hok _ => ?_
  obtain ⟨k, items, inside, rfl, htext, has⟩ := list_text_eq_ok hd hok
  exact ⟨_, htext, decodes_list has⟩

theorem Local.decodes_list_iff (hd : d.Local) (hforms : ∀ p ∈ items, Json.IsValue p.value)
    {as : List α} : (Decoder.list d).Decodes depth (Json.listText items inside) as ↔
      ∃ k, depth = k + 1 ∧ List.Forall₂ (d.Decodes k) (items.map Json.Padded.value) as := by
  constructor
  · intro h
    obtain ⟨k, items', inside', rfl, htext, has⟩ := list_text_eq_ok hd h.text_eq
    rw [h.form.skipBlanks_eq, List.append_nil] at htext
    have hforms' : ∀ p ∈ items', Json.IsValue p.value :=
      Json.forall_of_forall₂ (List.forall₂_map_left_iff.mp has) fun _ _ ha => ha.form
    exact ⟨k, rfl, by rwa [Json.listText_inj hforms hforms' htext]⟩
  · rintro ⟨k, rfl, has⟩
    exact decodes_list has

end Lists

section Variants

variable {α : Type} {names : List (String × α)} {depth : Nat}

theorem trims_variant : (variant names).Trims := fun depth b cs => by
  simp only [variant, Json.skipBlanks_append]

theorem decodes_variant {key : List Char} {name : String} {a : α} (hkey : Json.SpellsName key name)
    (hname : variant.ofName names name = .ok a) :
    (variant names).Decodes depth ('"' :: (key ++ ['"'])) a := by
  refine .intro trims_variant (.string hkey.form) fun rest _ => ?_
  rw [List.cons_append, List.append_assoc, variant_text_quote, List.singleton_append, hkey.reads]
  simp only [hname]

theorem variant_text_brace (cs : List Char) :
    (variant names).text (depth + 1) ('\x7b' :: cs) =
      match variant.key cs with
      | .error e => .error e
      | .ok (name, rest) =>
        match (match variant.ofName names name with
          | .ok a => .ok (a, rest)
          | .error m => mismatch rest m : Result (α × List Char)) with
        | .error e => .error e
        | .ok (a, rest) =>
          match colon rest with
          | .error e => .error e
          | .ok rest =>
            match unit.text depth rest with
            | .error e => .error e
            | .ok (_, rest) => constant a (variant.closeVariant rest) := rfl

theorem decodes_variant_object {e : Json.Entry} {inside : Json.Blanks} {name : String} {a : α}
    (hkey : Json.SpellsName e.key name) (hname : variant.ofName names name = .ok a)
    (hvalue : unit.Decodes depth e.value.value ()) :
    (variant names).Decodes (depth + 1) (Json.objectText [e] inside) a := by
  have hform : Json.IsValue (Json.objectText [e] inside) :=
    .object (List.forall_mem_singleton.mpr hkey.form) (List.forall_mem_singleton.mpr hvalue.form)
  refine .intro trims_variant hform fun rest _ => ?_
  have hquote (more : List Char) :
      variant.key (e.before.1 ++ '"' :: (e.key ++ '"' :: more)) = .ok (name, more) := by
    rw [variant.key, Json.skipBlanks_append]
    exact hkey.reads more
  have hunit := hvalue.takes e.value.before (e.value.after.1 ++ (inside.1 ++ '\x7d' :: rest))
    (Json.ends_append _ (Json.ends_append _ (Ends.cons _ (by decide))))
  have hclose : variant.closeVariant (e.value.after.1 ++ (inside.1 ++ '\x7d' :: rest)) = .ok rest := by
    rw [variant.closeVariant, Json.skipBlanks_append, Json.skipBlanks_append]
    rfl
  have hentry : Json.entriesOnto true [e] (inside.1 ++ '\x7d' :: rest) =
      e.before.1 ++ '"' :: (e.key ++ '"' :: (e.between.1 ++ ':' ::
        e.value.onto (inside.1 ++ '\x7d' :: rest))) := rfl
  rw [Json.objectText_append, variant_text_brace, hentry, hquote]
  simp only [hname, Json.colon_append, Json.Padded.onto, hunit, hclose, constant]

theorem key_eq_ok {cs rest : List Char} {name : String} (h : variant.key cs = .ok (name, rest)) :
    ∃ (b : Json.Blanks) (key : List Char), cs = b.1 ++ '"' :: (key ++ '"' :: rest) ∧
      Json.SpellsName key name := by
  unfold variant.key at h
  split at h
  · cases h
  · next heq =>
    obtain ⟨key, rfl, hkey⟩ := Json.string_eq_ok h
    obtain ⟨b, rfl⟩ := Json.exists_of_skipBlanks_eq heq
    exact ⟨b, key, rfl, hkey⟩
  · cases h
  · cases h

theorem closeVariant_eq_ok {cs rest : List Char} (h : variant.closeVariant cs = .ok rest) :
    ∃ b : Json.Blanks, cs = b.1 ++ '\x7d' :: rest := by
  unfold variant.closeVariant at h
  split at h
  · cases h
  · next heq =>
    cases h
    exact Json.exists_of_skipBlanks_eq heq
  · cases h

theorem local_variant : (variant names).Local := by
  refine .of_trimmed fun depth cs a rest hok _ => ?_
  unfold variant at hok
  dsimp only at hok
  split at hok
  · cases hok
  · next heq =>
    split at hok
    · cases hok
    · next hstring =>
      obtain ⟨key, rfl, hkey⟩ := Json.string_eq_ok hstring
      obtain ⟨hname, rfl⟩ := converted_eq_ok hok
      exact ⟨_, by rw [heq]; simp, decodes_variant hkey hname⟩
  · next heq =>
    split at hok
    · cases hok
    · split at hok
      · cases hok
      · next hquote =>
        obtain ⟨before, key, rfl, hkey⟩ := key_eq_ok hquote
        split at hok
        · cases hok
        · next hofName =>
          obtain ⟨hname, rfl⟩ := converted_eq_ok hofName
          split at hok
          · cases hok
          · next hcolon =>
            obtain ⟨between, rfl⟩ := Json.colon_eq_ok hcolon
            split at hok
            · cases hok
            · next hunit =>
              obtain ⟨hclose, rfl⟩ := Json.constant_eq_ok hok
              obtain ⟨inside, rfl⟩ := closeVariant_eq_ok hclose
              obtain ⟨before', text, rfl, hvalue⟩ := local_unit _ _ _ _ hunit
                (Json.ends_append inside (Ends.cons _ (by decide)))
              refine ⟨Json.objectText [⟨before, key, between, ⟨before', text, .none⟩⟩] inside,
                ?_, decodes_variant_object hkey hname hvalue⟩
              rw [heq, Json.objectText_append]
              rfl
  · cases hok

end Variants

end Decoder

end Switchyard
