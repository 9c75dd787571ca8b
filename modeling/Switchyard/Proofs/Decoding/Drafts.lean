import Mathlib.Data.List.Pairwise
import Switchyard.Proofs.Decoding.Members

/-! Drafts of records, as the members of an object make them. Where fields do not touch each
other, a draft does not depend on the order of its members, a member with an unknown key does
not change it, and one with a known key changes it after all the others. -/

namespace Switchyard

open Json.Reader

def Field.Independent {σ : Type} (f g : Field σ) : Prop :=
  ∀ (depth depth' : Nat) (text text' : List Char) (u v : σ → σ),
    f.update.Decodes depth text u → g.update.Decodes depth' text' v → ∀ s, u (v s) = v (u s)

def Field.Keeps {σ γ : Type} (f : Field σ) (get : σ → γ) : Prop :=
  ∀ (depth : Nat) (text : List Char) (u : σ → σ), f.update.Decodes depth text u →
    ∀ s, get (u s) = get s

instance Field.independent_symm {σ : Type} : Std.Symm (@Field.Independent σ) where
  symm _ _ h := fun _ _ _ _ _ _ hu hv s => (h _ _ _ _ _ _ hv hu s).symm

theorem Field.exists_set_eq {σ β : Type} {depth : Nat} {key : String} {d : Decoder β}
    {set : β → σ → σ} {text : List Char} {u : σ → σ}
    (h : (Field.of key d set).update.Decodes depth text u) : ∃ b, set b = u := by
  have hok : mapValue set (d.text depth text) = .ok (u, []) := h.text_eq
  obtain ⟨b, -, hset⟩ := mapValue_eq_ok hok
  exact ⟨b, hset⟩

theorem Field.independent_of {σ β γ : Type} {key key' : String} {d : Decoder β} {d' : Decoder γ}
    {set : β → σ → σ} {set' : γ → σ → σ} (h : ∀ b c s, set b (set' c s) = set' c (set b s)) :
    (Field.of key d set).Independent (Field.of key' d' set') := by
  intro depth depth' text text' u v hu hv s
  obtain ⟨b, rfl⟩ := Field.exists_set_eq hu
  obtain ⟨c, rfl⟩ := Field.exists_set_eq hv
  exact h b c s

theorem Field.keeps_of {σ β γ : Type} {key : String} {d : Decoder β} {set : β → σ → σ}
    {get : σ → γ} (h : ∀ b s, get (set b s) = get s) : (Field.of key d set).Keeps get := by
  intro depth text u hu s
  obtain ⟨b, rfl⟩ := Field.exists_set_eq hu
  exact h b s

namespace Shape

variable {σ α : Type} {shape : Shape σ α} {depth : Nat}

/-- What is decoded from a record does not depend on the order in which its fields are set, and
every field is decoded alike everywhere. -/
structure Regular (shape : Shape σ α) : Prop where
  locals : ∀ field ∈ shape.fields, field.update.Local
  independent : shape.fields.Pairwise Field.Independent

def Omits (members : List (List Char × List Char)) (name : String) : Prop :=
  ∀ m ∈ members, ¬ Json.SpellsName m.1 name

section Changes

variable {members : List (List Char × List Char)} {changes : List (Change σ)}

theorem mem_fields_of_field? {name : String} {field : Field σ}
    (h : shape.field? name = some field) : field ∈ shape.fields ∧ field.key = name :=
  ⟨List.mem_of_find?_eq_some h, by simpa using List.find?_some h⟩

theorem field?_eq_none {name : String} (h : name ∉ shape.fields.map Field.key) :
    shape.field? name = none := by
  refine List.find?_eq_none.mpr fun field hfield hkey => h ?_
  exact List.mem_map.mpr ⟨field, hfield, of_decide_eq_true hkey⟩

theorem exists_field_of_mem (h : List.Forall₂ (shape.Means depth) members changes)
    {name : String} {update : σ → σ} (hmem : (name, update) ∈ changes.reduceOption) :
    ∃ m ∈ members, ∃ field, Json.SpellsName m.1 name ∧ shape.field? name = some field ∧
      field.update.Decodes depth m.2 update := by
  induction h with
  | nil => exact absurd hmem List.not_mem_nil
  | @cons m change ms changes hm _ ih =>
    cases hm with
    | unknown =>
      obtain ⟨m', hm', hrest⟩ := ih hmem
      exact ⟨m', List.mem_cons_of_mem _ hm', hrest⟩
    | @known key text name' field update' hname hfield hupdate =>
      rw [List.reduceOption_cons_of_some] at hmem
      rcases List.mem_cons.mp hmem with heq | hmem
      · cases heq
        exact ⟨(key, text), List.mem_cons_self, field, hname, hfield, hupdate⟩
      · obtain ⟨m', hm', hrest⟩ := ih hmem
        exact ⟨m', List.mem_cons_of_mem _ hm', hrest⟩

theorem mem_named_of_mem (h : List.Forall₂ (shape.Means depth) members changes) {name : String}
    {field : Field σ} (hfield : shape.field? name = some field) {m : List Char × List Char}
    (hmem : m ∈ members) (hname : Json.SpellsName m.1 name) : name ∈ named changes := by
  induction h with
  | nil => cases hmem
  | @cons m' change ms changes hm _ ih =>
    rcases List.mem_cons.mp hmem with rfl | hmem
    · cases hm with
      | unknown hname' hnone =>
        rw [hname.eq hname', hnone] at hfield
        cases hfield
      | known hname' =>
        rw [hname.eq hname']
        exact List.mem_cons_self
    · have hrest := ih hmem
      cases hm with
      | unknown => exact hrest
      | known => exact List.mem_cons_of_mem _ hrest

theorem update_comm (hregular : shape.Regular)
    (h : List.Forall₂ (shape.Means depth) members changes) (hnodup : (named changes).Nodup)
    {x y : String × (σ → σ)} (hx : x ∈ changes.reduceOption) (hy : y ∈ changes.reduceOption)
    (s : σ) : y.2 (x.2 s) = x.2 (y.2 s) := by
  by_cases heq : x.1 = y.1
  · rw [List.inj_on_of_nodup_map hnodup hx hy heq]
  · obtain ⟨m, -, f, -, hf, hu⟩ := exists_field_of_mem h hx
    obtain ⟨m', -, g, -, hg, hv⟩ := exists_field_of_mem h hy
    obtain ⟨hfmem, hfkey⟩ := mem_fields_of_field? hf
    obtain ⟨hgmem, hgkey⟩ := mem_fields_of_field? hg
    have hne : f ≠ g := fun hfg => heq (by rw [← hfkey, ← hgkey, hfg])
    exact (hregular.independent.forall hfmem hgmem hne _ _ _ _ _ _ hu hv s).symm

theorem applyAll_perm (hregular : shape.Regular)
    (h : List.Forall₂ (shape.Means depth) members changes) (hnodup : (named changes).Nodup)
    {others : List (Change σ)} (hperm : changes.Perm others) (draft : σ) :
    applyAll changes draft = applyAll others draft :=
  (hperm.filterMap id).foldl_eq' (fun _ hx _ hy s => update_comm hregular h hnodup hx hy s) draft

theorem applyAll_cons (hregular : shape.Regular) {name : String} {update : σ → σ}
    (h : List.Forall₂ (shape.Means depth) members (some (name, update) :: changes))
    (hnodup : (named (some (name, update) :: changes)).Nodup) (draft : σ) :
    applyAll (some (name, update) :: changes) draft = update (applyAll changes draft) := by
  rw [applyAll_perm hregular h hnodup (List.perm_append_singleton _ changes).symm, applyAll,
    List.reduceOption_append, List.foldl_append]
  rfl

end Changes

section Members

variable {members : List (List Char × List Char)} {draft : σ}

theorem Drafts.perm (hregular : shape.Regular) {others : List (List Char × List Char)}
    (hperm : members.Perm others) (h : shape.Drafts depth members draft) :
    shape.Drafts depth others draft := by
  obtain ⟨changes, hmeans, hnodup, rfl⟩ := h
  obtain ⟨changes', hmeans', hchanges⟩ := List.perm_comp_forall₂ hperm.symm hmeans
  have hnames : (named changes').Perm (named changes) := (hchanges.filterMap id).map Prod.fst
  exact ⟨changes', hmeans', hnames.nodup_iff.mpr hnodup,
    (applyAll_perm hregular hmeans hnodup hchanges.symm _).symm⟩

theorem drafts_perm_iff (hregular : shape.Regular) {others : List (List Char × List Char)}
    (hperm : members.Perm others) : shape.Drafts depth members draft ↔ shape.Drafts depth others draft :=
  ⟨Drafts.perm hregular hperm, Drafts.perm hregular hperm.symm⟩

theorem drafts_unknown_iff {key text : List Char} {name : String} (hname : Json.SpellsName key name)
    (hfield : shape.field? name = none) (htext : Json.IsValue text) :
    shape.Drafts depth ((key, text) :: members) draft ↔ shape.Drafts depth members draft := by
  constructor
  · rintro ⟨changes, hmeans, hnodup, rfl⟩
    obtain ⟨change, others, hm, hothers, rfl⟩ := List.forall₂_cons_left_iff.mp hmeans
    cases hm with
    | unknown => exact ⟨others, hothers, hnodup, rfl⟩
    | known hname' hknown =>
      rw [hname'.eq hname, hfield] at hknown
      cases hknown
  · rintro ⟨changes, hmeans, hnodup, rfl⟩
    exact ⟨none :: changes, .cons (.unknown hname hfield htext) hmeans, hnodup, rfl⟩

theorem drafts_known_iff (hregular : shape.Regular) {key text : List Char} {name : String}
    {field : Field σ} (hname : Json.SpellsName key name) (hfield : shape.field? name = some field) :
    shape.Drafts depth ((key, text) :: members) draft ↔
      ∃ update base, field.update.Decodes depth text update ∧ Omits members name ∧
        shape.Drafts depth members base ∧ update base = draft := by
  constructor
  · rintro ⟨changes, hmeans, hnodup, rfl⟩
    obtain ⟨change, others, hm, hothers, rfl⟩ := List.forall₂_cons_left_iff.mp hmeans
    cases hm with
    | unknown hname' hnone =>
      rw [hname'.eq hname, hfield] at hnone
      cases hnone
    | @known _ _ name' field' update hname' hknown hupdate =>
      obtain rfl := hname'.eq hname
      obtain rfl : field' = field := Option.some.inj (hknown.symm.trans hfield)
      obtain ⟨hfresh, hnodup'⟩ := List.nodup_cons.mp hnodup
      refine ⟨update, applyAll others shape.blank, hupdate,
        fun m hm hspells => hfresh (mem_named_of_mem hothers hfield hm hspells),
        ⟨others, hothers, hnodup', rfl⟩, ?_⟩
      exact (applyAll_cons hregular hmeans hnodup _).symm
  · rintro ⟨update, base, hupdate, homits, ⟨changes, hmeans, hnodup, rfl⟩, rfl⟩
    have hfresh : name ∉ named changes := by
      intro hmem
      obtain ⟨⟨_, v⟩, hset, rfl⟩ := List.mem_map.mp hmem
      obtain ⟨m, hm, -, hspells, -⟩ := exists_field_of_mem hmeans hset
      exact homits m hm hspells
    have hnodup' : (named (some (name, update) :: changes)).Nodup := List.nodup_cons.mpr ⟨hfresh, hnodup⟩
    have hmeans' := hmeans.cons (.known hname hfield hupdate)
    exact ⟨_, hmeans', hnodup', applyAll_cons hregular hmeans' hnodup' _⟩

theorem Drafts.get_eq_blank {γ : Type} {get : σ → γ} {name : String}
    (hkeeps : ∀ field ∈ shape.fields, field.key ≠ name → field.Keeps get)
    (homits : Omits members name) (h : shape.Drafts depth members draft) :
    get draft = get shape.blank := by
  obtain ⟨changes, hmeans, -, rfl⟩ := h
  have hset : ∀ x ∈ changes.reduceOption, ∀ s, get (x.2 s) = get s := by
    rintro ⟨name', update⟩ hx s
    obtain ⟨m, hm, field, hspells, hfield, hupdate⟩ := exists_field_of_mem hmeans hx
    obtain ⟨hmem, hkey⟩ := mem_fields_of_field? hfield
    have hne : field.key ≠ name := by
      rintro rfl
      exact homits m hm (hkey ▸ hspells)
    exact hkeeps field hmem hne _ _ _ hupdate s
  exact List.foldlRecOn (motive := fun s => get s = get shape.blank) _ _ rfl
    fun s hs x hx => (hset x hx s).trans hs

end Members

end Shape

end Switchyard
