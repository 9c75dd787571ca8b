import Switchyard.Proofs.Path.Display
import Switchyard.Proofs.Path.Resolution

/-! Accesses to the parts of a value, by the key of a member or by the position of an
item. A chain of them that exists is addressed by its keys and positions joined by dots,
and a bracket with a position of 64 bits gives the item at that position of a list under a
key. A bracket with a greater number is a part of the key. -/

namespace Switchyard

inductive Access where
  | key (name : String)
  | position (index : Nat)

namespace Json

inductive Reaches : Json → List Access → Json → Prop
  | here {v : Json} : Reaches v [] v
  | member {members : List (String × Json)} {name : String} {w u : Json} {chain : List Access} :
    lookup name members = some w → Reaches w chain u →
      Reaches (.obj members) (.key name :: chain) u
  | item {items : List Json} {index : Nat} {w u : Json} {chain : List Access} :
    items[index]? = some w → Reaches w chain u → Reaches (.arr items) (.position index :: chain) u

def Indexable : Json → Prop :=
  Every fun
    | .arr items => items.length < 0x10000000000000000
    | _ => True

end Json

namespace Access

def text : Access → List Char
  | key name => name.toList
  | position index => Digits.ofNat index

def path (chain : List Access) : String := String.ofList (['.'].intercalate (chain.map text))

/-- A key is in one part, and that part is not read as a key with a position. -/
def Plain : Access → Prop
  | key name => '.' ∉ name.toList ∧ ¬ ∃ word ds, Segment.Indexes name.toList word ds
  | position _ => True

theorem plain_key {name : String} (hdot : '.' ∉ name.toList)
    (hsplit : Segment.splitIndex? name.toList = none) : (key name).Plain := by
  refine ⟨hdot, ?_⟩
  rintro ⟨word, ds, h⟩
  have hsome : Segment.splitIndex? name.toList = some (String.ofList word, _) :=
    Segment.splitIndex?_eq_some_iff.mpr ⟨ds, by rwa [String.toList_ofList], rfl⟩
  rw [hsplit] at hsome
  cases hsome

def segment (a : Access) : Segment := .key (String.ofList a.text)

theorem not_mem_digits {c : Char} (hc : Digits.isDigit c = false) (index : Nat) :
    c ∉ Digits.ofNat index := by
  intro h
  rw [Digits.all_ofNat index c h] at hc
  cases hc

theorem Plain.dot_not_mem {a : Access} (h : a.Plain) : '.' ∉ a.text := by
  cases a with
  | key name => exact h.1
  | position index => exact not_mem_digits (by decide) index

theorem Plain.parse_text {a : Access} (h : a.Plain) : Segment.parse a.text = a.segment := by
  apply Segment.parse_of_not_indexes
  cases a with
  | key name => exact h.2
  | position index =>
    rintro ⟨word, ds, hindexes⟩
    have hbracket : '[' ∈ Digits.ofNat index := by
      rw [show Digits.ofNat index = _ from hindexes.text]
      exact List.mem_append_right _ List.mem_cons_self
    exact not_mem_digits (by decide) index hbracket

theorem splitDots_path {chain : List Access} (hplain : ∀ a ∈ chain, a.Plain) (hne : chain ≠ []) :
    Path.splitDots (path chain).toList = chain.map text := by
  rw [path, String.toList_ofList]
  apply List.splitOn_intercalate
  · intro part hpart
    obtain ⟨a, ha, rfl⟩ := List.mem_map.mp hpart
    exact (hplain a ha).dot_not_mem
  · rwa [Ne, List.map_eq_nil_iff]

theorem path_ne_empty {chain : List Access} (hplain : ∀ a ∈ chain, a.Plain) (hne : chain ≠ [])
    (hroot : chain ≠ [.key ""]) : path chain ≠ "" := by
  intro h
  have hparts : chain.map text = [[]] := by
    rw [← splitDots_path hplain hne, h]
    rfl
  obtain ⟨a, rfl, ha⟩ := List.map_eq_singleton_iff.mp hparts
  cases a with
  | key name =>
    obtain rfl : name = "" := String.toList_injective ha
    exact hroot rfl
  | position index => exact Digits.ofNat_ne_nil index ha

theorem segments_path {chain : List Access} (hplain : ∀ a ∈ chain, a.Plain)
    (hroot : chain ≠ [.key ""]) : (Path.parse (path chain)).segments = chain.map segment := by
  by_cases hne : chain = []
  · subst hne
    rfl
  · rw [Path.segments_parse (path_ne_empty hplain hne hroot), splitDots_path hplain hne,
      List.map_map]
    exact List.map_congr_left fun a ha => (hplain a ha).parse_text

theorem member_position {items : List Json} {index : Nat} (h : index < 0x10000000000000000) :
    Segment.member (String.ofList (Digits.ofNat index)) (.arr items) = items[index]? := by
  have hposition : Segment.position? (Digits.ofNat index) = some (.ofNat index) := by
    rw [Segment.position?_eq_some_iff, Digits.value_ofNat]
    exact ⟨⟨Digits.ofNat_ne_nil index, Digits.all_ofNat index, h⟩, rfl⟩
  rw [Segment.member, String.toList_ofList, hposition, Option.bind_some,
    UInt64.toNat_ofNat_of_lt' h]

end Access

namespace Json

open Access

theorem Reaches.follow_segments {v u : Json} {chain : List Access} (h : v.Reaches chain u)
    (hv : v.Indexable) : Path.follow (chain.map Access.segment) v = some u := by
  induction h with
  | here => rfl
  | @member members name w u chain hlookup _ ih =>
    have hstep : (Access.key name).segment.step (.obj members) = some w := by
      rw [Access.segment, Access.text, String.ofList_toList]
      exact hlookup
    rw [List.map_cons, Path.follow, hstep]
    exact ih (hv.member (mem_of_lookup hlookup))
  | @item items index w u chain hitem _ ih =>
    have hlength : items.length < 0x10000000000000000 := hv.whole
    obtain ⟨hindex, -⟩ := List.getElem?_eq_some_iff.mp hitem
    have hstep : (Access.position index).segment.step (.arr items) = some w := by
      rw [← hitem]
      exact member_position (Nat.lt_trans hindex hlength)
    rw [List.map_cons, Path.follow, hstep]
    exact ih (hv.item (List.mem_of_getElem? hitem))

/-- Every value in a value has a path, made of the keys and the positions on the way to it. -/
theorem Reaches.resolve_path {v u : Json} {chain : List Access} (h : v.Reaches chain u)
    (hv : v.Indexable) (hplain : ∀ a ∈ chain, a.Plain) (hroot : chain ≠ [.key ""]) :
    v.resolve (path chain) = some u := by
  unfold resolve Path.resolve
  rw [segments_path hplain hroot]
  exact h.follow_segments hv

theorem Reaches.resolve_path_of_odd_keys :
    let v : Json := .obj [("", .obj [("1", .arr [.bool true, .obj [("a[x]]", .obj [("é[0]", .null)])]])])]
    let chain : List Access := [.key "", .key "1", .position 1, .key "a[x]]", .key "é[0]"]
    v.Reaches chain .null ∧ v.Indexable ∧ (∀ a ∈ chain, a.Plain) ∧ chain ≠ [.key ""] ∧
      v.resolve ".1.1.a[x]].é[0]" = some .null := by
  intro v chain
  have hreaches : v.Reaches chain .null :=
    .member rfl (.member rfl (.item rfl (.member rfl (.member rfl .here))))
  have hindexable : v.Indexable := by
    simp [Indexable, v]
  have hplain : ∀ a ∈ chain, a.Plain := by
    intro a ha
    simp only [chain, List.mem_cons, List.not_mem_nil, or_false] at ha
    rcases ha with rfl | rfl | rfl | rfl | rfl
    · exact plain_key (by decide) (by decide)
    · exact plain_key (by decide) (by decide)
    · trivial
    · exact plain_key (by decide) (by decide)
    · exact plain_key (by decide) (by decide)
  have hroot : chain ≠ [.key ""] := fun h => List.cons_ne_nil _ _ (List.cons.inj h).2
  refine ⟨hreaches, hindexable, hplain, hroot, ?_⟩
  exact hreaches.resolve_path hindexable hplain hroot

/-- What is found under a word with a position in brackets: nothing if there is no member
of that name, the item at the position if the member is a list, and the member itself if
it is anything else. -/
structure Bracketed (members : List (String × Json)) (word : String) (index : Nat)
    (found : Option Json) : Prop where
  absent : lookup word members = none → found = none
  item : ∀ items, lookup word members = some (.arr items) → found = items[index]?
  other : ∀ v, lookup word members = some v → (∀ items, v ≠ .arr items) → found = some v

theorem bracketed_step (members : List (String × Json)) (word : String) (index : UInt64) :
    Bracketed members word index.toNat ((Segment.indexed word index).step (.obj members)) where
  absent h := by
    rw [Segment.step, h]
  item items h := by
    rw [Segment.step, h]
  other v h hlist := by
    rw [Segment.step, h]
    cases v with
    | arr items => exact absurd rfl (hlist items)
    | _ => rfl

section Brackets

variable {word ds : List Char}

theorem not_indexes_of_large (hword : ∀ c ∈ word, Segment.isWordChar c = true)
    (hds : Digits.All ds) (hlarge : 0x10000000000000000 ≤ Digits.value ds) :
    ¬ ∃ word' ds', Segment.Indexes (word ++ '[' :: (ds ++ [']'])) word' ds' := by
  rintro ⟨word', ds', h⟩
  have hbefore : '[' ∉ word := fun hmem => absurd (hword _ hmem) (by decide)
  have hafter : '[' ∉ ds ++ [']'] := by
    intro hmem
    rcases List.mem_append.mp hmem with hdigit | hclose
    · exact absurd (hds _ hdigit) (by decide)
    · exact absurd hclose (by decide)
  have htext := (List.append_cons_inj_of_notMem hbefore hafter).mp h.text
  obtain rfl : ds = ds' := List.append_cancel_right htext.2.2
  exact Nat.not_lt.mpr hlarge h.fits

/-- A word with a number of 64 bits in brackets is resolved as brackets are, however many
zeros stand in front of the number. With a greater number the whole text is a key. -/
theorem resolve_brackets (members : List (String × Json)) (hne : word ≠ [])
    (hword : ∀ c ∈ word, Segment.isWordChar c = true) (hdigits : ds ≠ []) (hds : Digits.All ds) :
    let path := String.ofList (word ++ '[' :: (ds ++ [']']))
    (Digits.value ds < 0x10000000000000000 →
      Bracketed members (String.ofList word) (Digits.value ds) ((Json.obj members).resolve path)) ∧
    (0x10000000000000000 ≤ Digits.value ds →
      (Json.obj members).resolve path = lookup path members) := by
  intro path
  have hpath : path.toList = word ++ '[' :: (ds ++ [']']) := String.toList_ofList
  have hnonempty : path ≠ "" := by
    rw [Ne, ← String.toList_eq_nil_iff, hpath]
    exact List.append_ne_nil_of_left_ne_nil hne _
  have hdot : '.' ∉ path.toList := by
    rw [hpath]
    exact Segment.dot_not_mem_brackets hword hds
  have hstep := resolve_of_dot_not_mem (.obj members) hnonempty hdot
  rw [hpath] at hstep
  constructor
  · intro hfits
    have hindexes : Segment.Indexes (word ++ '[' :: (ds ++ [']'])) word ds :=
      ⟨rfl, hne, hword, hdigits, hds, hfits⟩
    have hbracketed := bracketed_step members (String.ofList word) (.ofNat (Digits.value ds))
    rw [hstep, hindexes.parse_eq]
    rwa [UInt64.toNat_ofNat_of_lt' hfits] at hbracketed
  · intro hlarge
    rw [hstep, Segment.parse_of_not_indexes (not_indexes_of_large hword hds hlarge)]
    rfl

theorem resolve_brackets_padded :
    let members : List (String × Json) :=
      [("a_1", .arr [.null, .bool true]), ("b", .null), ("b[18446744073709551616]", .bool false)]
    (∀ word ∈ [['a', '_', '1'], ['b']], word ≠ [] ∧ ∀ c ∈ word, Segment.isWordChar c = true) ∧
      (∀ ds ∈ ["0001".toList, "18446744073709551616".toList], ds ≠ [] ∧ Digits.All ds) ∧
      Bracketed members "a_1" 1 ((Json.obj members).resolve "a_1[0001]") ∧
      Bracketed members "b" 1 ((Json.obj members).resolve "b[0001]") ∧
      (Json.obj members).resolve "b[18446744073709551616]" = some (.bool false) := by
  intro members
  have hwords : ∀ word ∈ [['a', '_', '1'], ['b']],
      word ≠ [] ∧ ∀ c ∈ word, Segment.isWordChar c = true := by
    intro word hmem
    rcases List.mem_pair.mp hmem with rfl | rfl
    · exact ⟨List.cons_ne_nil _ _, List.all_eq_true.mp rfl⟩
    · exact ⟨List.cons_ne_nil _ _, List.all_eq_true.mp rfl⟩
  have hnumbers : ∀ ds ∈ ["0001".toList, "18446744073709551616".toList],
      ds ≠ [] ∧ Digits.All ds := by
    decide
  obtain ⟨hne, hword⟩ := hwords ['b'] (by simp)
  obtain ⟨hsmall, hsmall'⟩ := hnumbers "0001".toList (by simp)
  obtain ⟨hlarge, hlarge'⟩ := hnumbers "18446744073709551616".toList (by simp)
  refine ⟨hwords, hnumbers, ?_, ?_, ?_⟩
  · obtain ⟨hne, hword⟩ := hwords ['a', '_', '1'] (by simp)
    exact (resolve_brackets members hne hword hsmall hsmall').1 (by decide)
  · exact (resolve_brackets members hne hword hsmall hsmall').1 (by decide)
  · exact (resolve_brackets members hne hword hlarge hlarge').2 (by decide)

theorem not_bracketed_of_large :
    ¬ ∀ (members : List (String × Json)) (word ds : List Char), word ≠ [] →
      (∀ c ∈ word, Segment.isWordChar c = true) → ds ≠ [] → Digits.All ds →
        Bracketed members (String.ofList word) (Digits.value ds)
          ((Json.obj members).resolve (String.ofList (word ++ '[' :: (ds ++ [']'])))) := by
  intro h
  have hword : ∀ c ∈ ['w'], Segment.isWordChar c = true := List.all_eq_true.mp rfl
  have hfound := (h [("w", .ofUInt64 5)] ['w'] "18446744073709551616".toList (List.cons_ne_nil _ _)
    hword (by decide) (by decide)).other (.ofUInt64 5) rfl nofun
  have hnone : (Json.obj [("w", .ofUInt64 5)]).resolve "w[18446744073709551616]" = none := by
    decide +kernel
  have hsome : none = some (Json.ofUInt64 5) := hnone.symm.trans hfound
  cases hsome

end Brackets

end Json

end Switchyard
