import Switchyard.Proofs.Decoding.Drafts

/-! Changes of how a record is written, and what comes out of them: members in another order,
members with unknown names, and members that are there with `null` instead of not at all. A
change of an item or of a member carries over to the list or the record around it. -/

namespace Switchyard

open Json.Reader

namespace Json

inductive Permutes : List Char → List Char → Prop
  | intro {entries others : List Entry} {inside inside' : Blanks} : (∀ e ∈ entries, e.IsMember) →
    (entries.map Entry.bare).Perm (others.map Entry.bare) →
    Permutes (objectText entries inside) (objectText others inside')

inductive Inserts (p : List Entry → Entry → Prop) : List Char → List Char → Prop
  | intro {front back : List Entry} {e : Entry} {inside : Blanks} :
    (∀ d ∈ front ++ back, d.IsMember) → p (front ++ back) e →
    Inserts p (objectText (front ++ back) inside) (objectText (front ++ e :: back) inside)

def IsUndeclared (declared : List String) (_ : List Entry) (e : Entry) : Prop :=
  IsValue e.value.value ∧ ∃ name, SpellsName e.key name ∧ name ∉ declared

/-- Members that are `null`, in place of none with that name. -/
def IsNull (name : String) (entries : List Entry) (e : Entry) : Prop :=
  e.value.value = "null".toList ∧ SpellsName e.key name ∧ ∀ d ∈ entries, ¬ SpellsName d.key name

inductive MemberAt (name : String) (r : List Char → List Char → Prop) : List Char → List Char → Prop
  | intro {front back : List Entry} {e : Entry} {text : List Char} {inside : Blanks} :
    (∀ d ∈ front ++ e :: back, d.IsMember) → SpellsName e.key name → r e.value.value text →
    MemberAt name r (objectText (front ++ e :: back) inside)
      (objectText (front ++ ⟨e.before, e.key, e.between, ⟨e.value.before, text, e.value.after⟩⟩ :: back)
        inside)

inductive ItemAt (position : Nat) (r : List Char → List Char → Prop) : List Char → List Char → Prop
  | intro {front back : List Padded} {p : Padded} {text : List Char} {inside : Blanks} :
    front.length = position → (∀ q ∈ front ++ p :: back, IsValue q.value) → r p.value text →
    ItemAt position r (listText (front ++ p :: back) inside)
      (listText (front ++ ⟨p.before, text, p.after⟩ :: back) inside)

def Items (r : List Char → List Char → Prop) (text text' : List Char) : Prop :=
  ∃ position, ItemAt position r text text'

/-- Ways to write a record differently: its declared names are given, those that may be `null`
in place of nothing, and how the values of members may be written differently. -/
inductive Rewords (declared nullable : List String)
    (inner : List (String × (List Char → List Char → Prop))) : List Char → List Char → Prop
  | permuted {text text' : List Char} : Permutes text text' → Rewords declared nullable inner text text'
  | added {text text' : List Char} : Inserts (IsUndeclared declared) text text' →
    Rewords declared nullable inner text text'
  | nulled {name : String} {text text' : List Char} : name ∈ nullable →
    Inserts (IsNull name) text text' → Rewords declared nullable inner text text'
  | member {name : String} {r : List Char → List Char → Prop} {text text' : List Char} :
    (name, r) ∈ inner → MemberAt name r text text' → Rewords declared nullable inner text text'

inductive InText (r : List Char → List Char → Prop) (t t' : String) : Prop
  | intro {p : Padded} {text : List Char} : IsValue p.value → t.toList = p.onto [] →
    r p.value text → t'.toList = (Padded.mk p.before text p.after).onto [] → InText r t t'

end Json

namespace Decoder

/-- Where a text changes, what is decoded from it changes accordingly. -/
def Follows {α : Type} (d : Decoder α) (r : List Char → List Char → Prop) (q : α → α → Prop) : Prop :=
  ∀ (depth : Nat) (text text' : List Char) (a : α), r text text' → d.Decodes depth text a →
    ∃ a', d.Decodes depth text' a' ∧ q a a'

inductive ChangedAt {α : Type} (position : Nat) (q : α → α → Prop) : List α → List α → Prop
  | intro {front back : List α} {a a' : α} : front.length = position → q a a' →
    ChangedAt position q (front ++ a :: back) (front ++ a' :: back)

theorem changedAt_eq {α : Type} {position : Nat} {as bs : List α} (h : ChangedAt position Eq as bs) :
    as = bs := by
  obtain ⟨-, rfl⟩ := h
  rfl

section ChangedAt

variable {α : Type} {position : Nat} {q : α → α → Prop} {as bs : List α}

theorem ChangedAt.exists_getElem? (h : ChangedAt position q as bs) :
    ∃ a a', as[position]? = some a ∧ q a a' := by
  obtain @⟨front, back, a, a', rfl, hq⟩ := h
  exact ⟨a, a', by simp, hq⟩

theorem ChangedAt.eq_modify (h : ChangedAt position q as bs) {f : α → α}
    (hf : ∀ a a', q a a' → a' = f a) : bs = as.modify position f := by
  obtain @⟨front, back, a, a', rfl, hq⟩ := h
  rw [hf a a' hq]
  induction front with
  | nil => rfl
  | cons b front ih => simpa using ih

end ChangedAt

theorem exists_append_of_forall₂ {α β : Type} {r : α → β → Prop} {as cs : List α} {bs : List β}
    (h : List.Forall₂ r (as ++ cs) bs) :
    ∃ bs₁ bs₂, bs = bs₁ ++ bs₂ ∧ List.Forall₂ r as bs₁ ∧ List.Forall₂ r cs bs₂ := by
  induction as generalizing bs with
  | nil => exact ⟨[], bs, rfl, .nil, h⟩
  | cons a as ih =>
    obtain ⟨b, rest, hab, hrest, rfl⟩ := List.forall₂_cons_left_iff.mp h
    obtain ⟨bs₁, bs₂, rfl, h₁, h₂⟩ := ih hrest
    exact ⟨b :: bs₁, bs₂, rfl, .cons hab h₁, h₂⟩

variable {α : Type} {d : Decoder α} {r : List Char → List Char → Prop} {q : α → α → Prop}

theorem Follows.list (h : d.Follows r q) (hd : d.Local) (position : Nat) :
    (list d).Follows (Json.ItemAt position r) (ChangedAt position q) := by
  intro depth text text' as hr hdecodes
  obtain @⟨front, back, p, text, inside, rfl, hforms, hr⟩ := hr
  obtain ⟨k, rfl, has⟩ := (hd.decodes_list_iff hforms).mp hdecodes
  rw [List.map_append, List.map_cons] at has
  obtain ⟨as₁, rest, rfl, hfront, hrest⟩ := exists_append_of_forall₂ has
  obtain ⟨a, as₂, ha, hback, rfl⟩ := List.forall₂_cons_left_iff.mp hrest
  obtain ⟨a', ha', hq⟩ := h _ _ _ _ hr ha
  have hlength : as₁.length = front.length := by
    rw [← hfront.length_eq, List.length_map]
  refine ⟨as₁ ++ a' :: as₂, decodes_list ?_, hlength ▸ .intro rfl hq⟩
  rw [List.map_append, List.map_cons]
  exact List.rel_append hfront (.cons ha' hback)

theorem Follows.items (h : d.Follows r Eq) (hd : d.Local) :
    (Decoder.list d).Follows (Json.Items r) Eq := by
  rintro depth text text' as ⟨position, hr⟩ hdecodes
  obtain ⟨as', has', hchanged⟩ := h.list hd position _ _ _ _ hr hdecodes
  exact ⟨as', has', changedAt_eq hchanged⟩

theorem Follows.ofText (h : d.Follows r q) (hd : d.Local) {t t' : String} {a : α}
    (hr : Json.InText r t t') (hok : d.ofText t = .ok a) : ∃ a', d.ofText t' = .ok a' ∧ q a a' := by
  obtain @⟨p, text, hform, ht, hr, ht'⟩ := hr
  obtain ⟨p', hp', hdecodes⟩ := (ofText_eq_ok_iff hd).mp hok
  rw [ht, Json.Padded.onto, Json.Padded.onto, List.append_nil, List.append_nil] at hp'
  obtain ⟨hvalue, -⟩ := hform.append_inj hdecodes.form (Json.ends_blanks p.after)
    (Json.ends_blanks p'.after) hp'
  rw [← hvalue] at hdecodes
  obtain ⟨a', ha', hq⟩ := h _ _ _ _ hr hdecodes
  exact ⟨a', (ofText_eq_ok_iff hd).mpr ⟨_, ht', ha'⟩, hq⟩

inductive ChangedSome {α : Type} (q : α → α → Prop) : Option α → Option α → Prop
  | intro {a a' : α} : q a a' → ChangedSome q (some a) (some a')

theorem Follows.optional (h : d.Follows r q) (hd : d.Local)
    (hnull : ∀ text text', r text text' → text.head? ≠ some 'n' ∧ text'.head? ≠ some 'n') :
    (optional d).Follows r (ChangedSome q) := by
  intro depth text text' o hr hdecodes
  obtain ⟨a, rfl, ha⟩ := (hd.decodes_optional_iff (hnull _ _ hr).1).mp hdecodes
  obtain ⟨a', ha', hq⟩ := h _ _ _ _ hr ha
  exact ⟨some a', decodes_optional ha' (hnull _ _ hr).2, .intro hq⟩

theorem Follows.optional_list (h : d.Follows r q) (hd : d.Local) (position : Nat) :
    (Decoder.optional (Decoder.list d)).Follows (Json.ItemAt position r)
      (ChangedSome (ChangedAt position q)) := by
  refine (h.list hd position).optional hd.list ?_
  rintro text text' ⟨⟩
  exact ⟨nofun, nofun⟩

theorem Follows.optional_items (h : d.Follows r Eq) (hd : d.Local) :
    (Decoder.optional (Decoder.list d)).Follows (Json.Items r) Eq := by
  rintro depth text text' o ⟨position, hr⟩ hdecodes
  obtain ⟨o', ho', hchanged⟩ := h.optional_list hd position _ _ _ _ hr hdecodes
  obtain ⟨hitems⟩ := hchanged
  exact ⟨_, ho', congrArg some (changedAt_eq hitems)⟩

end Decoder

namespace Shape

variable {σ α : Type} {shape : Shape σ α}

theorem follows_permutes (hregular : shape.Regular) : shape.decoder.Follows Json.Permutes Eq := by
  intro depth text text' a hr hdecodes
  obtain @⟨entries, others, inside, inside', hmembers, hperm⟩ := hr
  obtain ⟨k, draft, rfl, hdraft, hfinish⟩ := (decodes_object_iff hregular.locals hmembers).mp hdecodes
  exact ⟨a, decodes_object (hdraft.perm hregular hperm) hfinish, rfl⟩

section Members

variable {front back : List Json.Entry} {e : Json.Entry} {draft : σ} {depth : Nat}

theorem drafts_middle_iff (hregular : shape.Regular) :
    shape.Drafts depth ((front ++ e :: back).map Json.Entry.bare) draft ↔
      shape.Drafts depth (e.bare :: (front ++ back).map Json.Entry.bare) draft :=
  drafts_perm_iff hregular (List.perm_middle.map Json.Entry.bare)

theorem omits_iff {entries : List Json.Entry} {name : String} :
    Omits (entries.map Json.Entry.bare) name ↔ ∀ d ∈ entries, ¬ Json.SpellsName d.key name :=
  List.forall_mem_map

end Members

theorem follows_undeclared (hregular : shape.Regular) :
    shape.decoder.Follows (Json.Inserts (Json.IsUndeclared (shape.fields.map Field.key))) Eq := by
  intro depth text text' a hr hdecodes
  obtain @⟨front, back, e, inside, hmembers, hvalue, name, hname, hnew⟩ := hr
  obtain ⟨k, draft, rfl, hdraft, hfinish⟩ := (decodes_object_iff hregular.locals hmembers).mp hdecodes
  refine ⟨a, decodes_object ((drafts_middle_iff hregular).mpr ?_) hfinish, rfl⟩
  exact (drafts_unknown_iff hname (field?_eq_none hnew) hvalue).mpr hdraft

section Fields

variable {β : Type} {name : String} {d : Decoder β} {set : β → σ → σ} {q : α → α → Prop}

theorem follows_null (hregular : shape.Regular) {γ : Type} {get : σ → γ} {b : β}
    (hfield : shape.field? name = some (.of name d set)) (hd : d.Local)
    (hnull : ∀ depth, d.Decodes depth "null".toList b)
    (hkeeps : ∀ field ∈ shape.fields, field.key ≠ name → field.Keeps get)
    (hfinish : ∀ draft a, get draft = get shape.blank → shape.finish draft = .ok a →
      ∃ a', shape.finish (set b draft) = .ok a' ∧ q a a') :
    shape.decoder.Follows (Json.Inserts (Json.IsNull name)) q := by
  intro depth text text' a hr hdecodes
  obtain @⟨front, back, e, inside, hmembers, hvalue, hname, homits⟩ := hr
  obtain ⟨k, draft, rfl, hdraft, hok⟩ := (decodes_object_iff hregular.locals hmembers).mp hdecodes
  have homits' := omits_iff.mpr homits
  obtain ⟨a', hok', hq⟩ := hfinish draft a (hdraft.get_eq_blank hkeeps homits') hok
  refine ⟨a', decodes_object ((drafts_middle_iff hregular).mpr ?_) hok', hq⟩
  refine (drafts_known_iff hregular hname hfield).mpr ⟨set b, draft, ?_, homits', hdraft, rfl⟩
  rw [Field.decodes_of_iff hd]
  exact ⟨b, by rw [hvalue]; exact hnull k, rfl⟩

theorem follows_null_eq (hregular : shape.Regular) {γ : Type} {get : σ → γ} {b : β}
    (hfield : shape.field? name = some (.of name d set)) (hd : d.Local)
    (hnull : ∀ depth, d.Decodes depth "null".toList b)
    (hkeeps : ∀ field ∈ shape.fields, field.key ≠ name → field.Keeps get)
    (hset : ∀ draft, get draft = get shape.blank → set b draft = draft) :
    shape.decoder.Follows (Json.Inserts (Json.IsNull name)) Eq :=
  follows_null hregular hfield hd hnull hkeeps fun draft a hblank hok =>
    ⟨a, by rwa [hset draft hblank], rfl⟩

theorem follows_member (hregular : shape.Regular) {r : List Char → List Char → Prop}
    {p : β → β → Prop} (hfield : shape.field? name = some (.of name d set)) (hd : d.Local)
    (h : d.Follows r p)
    (hfinish : ∀ draft b b' a, p b b' → shape.finish (set b draft) = .ok a →
      ∃ a', shape.finish (set b' draft) = .ok a' ∧ q a a') :
    shape.decoder.Follows (Json.MemberAt name r) q := by
  intro depth text text' a hr hdecodes
  obtain @⟨front, back, e, text, inside, hmembers, hname, hr⟩ := hr
  obtain ⟨k, draft, rfl, hdraft, hok⟩ := (decodes_object_iff hregular.locals hmembers).mp hdecodes
  obtain ⟨update, base, hupdate, homits, hbase, rfl⟩ :=
    (drafts_known_iff hregular hname hfield).mp ((drafts_middle_iff hregular).mp hdraft)
  obtain ⟨b, hb, rfl⟩ := (Field.decodes_of_iff hd).mp hupdate
  obtain ⟨b', hb', hp⟩ := h _ _ _ _ hr hb
  obtain ⟨a', hok', hq⟩ := hfinish base b b' a hp hok
  refine ⟨a', decodes_object ((drafts_middle_iff hregular).mpr ?_) hok', hq⟩
  exact (drafts_known_iff hregular hname hfield).mpr
    ⟨set b', base, (Field.decodes_of_iff hd).mpr ⟨b', hb', rfl⟩, homits, hbase, rfl⟩

theorem follows_member_eq (hregular : shape.Regular) {r : List Char → List Char → Prop}
    (hfield : shape.field? name = some (.of name d set)) (hd : d.Local) (h : d.Follows r Eq) :
    shape.decoder.Follows (Json.MemberAt name r) Eq :=
  follows_member hregular hfield hd h fun _ _ _ a hb hok => ⟨a, hb ▸ hok, rfl⟩

end Fields

theorem follows_rewords (hregular : shape.Regular) {nullable : List String}
    {inner : List (String × (List Char → List Char → Prop))}
    (hnull : ∀ name ∈ nullable, shape.decoder.Follows (Json.Inserts (Json.IsNull name)) Eq)
    (hinner : ∀ m ∈ inner, shape.decoder.Follows (Json.MemberAt m.1 m.2) Eq) :
    shape.decoder.Follows (Json.Rewords (shape.fields.map Field.key) nullable inner) Eq := by
  intro depth text text' a hr hdecodes
  cases hr with
  | permuted hr => exact follows_permutes hregular _ _ _ _ hr hdecodes
  | added hr => exact follows_undeclared hregular _ _ _ _ hr hdecodes
  | nulled hname hr => exact hnull _ hname _ _ _ _ hr hdecodes
  | member hmem hr => exact hinner _ hmem _ _ _ _ hr hdecodes

end Shape

end Switchyard
