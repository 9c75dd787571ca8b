import Mathlib.Data.List.Nodup
import Switchyard.Json.Basic

/-! The structure of values: induction over the values in a value, the values
that occur in it, the members of an object whose keys are all different, and the
depth of a value. -/

namespace Switchyard.Json

@[elab_as_elim, induction_eliminator]
theorem induct {motive : Json → Prop} (null : motive .null) (bool : ∀ b, motive (.bool b))
    (num : ∀ n, motive (.num n)) (str : ∀ s, motive (.str s))
    (arr : ∀ items, (∀ v ∈ items, motive v) → motive (.arr items))
    (obj : ∀ members, (∀ m ∈ members, motive m.2) → motive (.obj members)) : ∀ v, motive v
  | .null => null
  | .bool b => bool b
  | .num n => num n
  | .str s => str s
  | .arr items => arr items fun v _ => induct null bool num str arr obj v
  | .obj members => obj members fun m _ => induct null bool num str arr obj m.2
termination_by v => sizeOf v
decreasing_by
  · have hlt := List.sizeOf_lt_of_mem ‹v ∈ items›
    simp only [Json.arr.sizeOf_spec]
    omega
  · have hlt := List.sizeOf_lt_of_mem ‹m ∈ members›
    have hsnd : sizeOf m.2 < sizeOf m := by
      cases m
      simp only [Prod.mk.sizeOf_spec]
      omega
    simp only [Json.obj.sizeOf_spec]
    omega

inductive OccursIn (w : Json) : Json → Prop
  | whole : OccursIn w w
  | item {items : List Json} {v : Json} : v ∈ items → OccursIn w v → OccursIn w (.arr items)
  | member {members : List (String × Json)} {m : String × Json} :
    m ∈ members → OccursIn w m.2 → OccursIn w (.obj members)

theorem OccursIn.trans {u v w : Json} (huv : OccursIn u v) (hvw : OccursIn v w) :
    OccursIn u w := by
  induction hvw with
  | whole => exact huv
  | item hmem _ ih => exact .item hmem ih
  | member hmem _ ih => exact .member hmem ih

def Every (p : Json → Prop) (v : Json) : Prop := ∀ w, OccursIn w v → p w

section Every

variable {p : Json → Prop}

theorem Every.whole {v : Json} (h : Every p v) : p v := h v .whole

theorem Every.of_occursIn {v w : Json} (h : Every p v) (hw : OccursIn w v) : Every p w :=
  fun u hu => h u (hu.trans hw)

@[simp]
theorem every_arr_iff {items : List Json} :
    Every p (.arr items) ↔ p (.arr items) ∧ ∀ v ∈ items, Every p v := by
  constructor
  · exact fun h => ⟨h.whole, fun v hv w hw => h w (.item hv hw)⟩
  · rintro ⟨hwhole, hitems⟩ w (_ | ⟨hv, hw⟩)
    · exact hwhole
    · exact hitems _ hv w hw

@[simp]
theorem every_obj_iff {members : List (String × Json)} :
    Every p (.obj members) ↔ p (.obj members) ∧ ∀ m ∈ members, Every p m.2 := by
  constructor
  · exact fun h => ⟨h.whole, fun m hm w hw => h w (.member hm hw)⟩
  · rintro ⟨hwhole, hmembers⟩ w (_ | _ | ⟨hm, hw⟩)
    · exact hwhole
    · exact hmembers _ hm w hw

theorem Every.item {items : List Json} {v : Json} (h : Every p (.arr items)) (hv : v ∈ items) :
    Every p v := (every_arr_iff.mp h).2 v hv

theorem Every.member {members : List (String × Json)} {m : String × Json}
    (h : Every p (.obj members)) (hm : m ∈ members) : Every p m.2 := (every_obj_iff.mp h).2 m hm

theorem Every.field {fields : List (String × Option Json)} (h : Every p (object fields))
    {k : String} {v : Json} (hmem : (k, some v) ∈ fields) : Every p v :=
  h.member (m := (k, v)) (List.mem_filterMap.mpr ⟨(k, some v), hmem, rfl⟩)

@[simp]
theorem every_null : Every p .null ↔ p .null := ⟨Every.whole, fun h _ hw => by cases hw; exact h⟩

@[simp]
theorem every_bool {b : Bool} : Every p (.bool b) ↔ p (.bool b) :=
  ⟨Every.whole, fun h _ hw => by cases hw; exact h⟩

@[simp]
theorem every_num {n : Number} : Every p (.num n) ↔ p (.num n) :=
  ⟨Every.whole, fun h _ hw => by cases hw; exact h⟩

@[simp]
theorem every_str {s : String} : Every p (.str s) ↔ p (.str s) :=
  ⟨Every.whole, fun h _ hw => by cases hw; exact h⟩

end Every

def DistinctKeys : Json → Prop :=
  Every fun
    | .obj members => (members.map Prod.fst).Nodup
    | _ => True

theorem DistinctKeys.nodup {members : List (String × Json)} (h : DistinctKeys (.obj members)) :
    (members.map Prod.fst).Nodup := h.whole

theorem mem_of_lookup {key : String} {v : Json} {members : List (String × Json)}
    (h : lookup key members = some v) : (key, v) ∈ members := by
  induction members with
  | nil => cases h
  | cons m rest ih =>
    rw [lookup] at h
    split at h
    · next heq =>
      cases h
      rw [← heq]
      exact List.mem_cons_self
    · exact List.mem_cons_of_mem _ (ih h)

theorem lookup_of_mem {key : String} {v : Json} {members : List (String × Json)}
    (hnodup : (members.map Prod.fst).Nodup) (h : (key, v) ∈ members) :
    lookup key members = some v := by
  induction members with
  | nil => cases h
  | cons m rest ih =>
    obtain ⟨hfresh, hrest⟩ := List.nodup_cons.mp hnodup
    rw [lookup]
    rcases List.mem_cons.mp h with rfl | hmem
    · exact if_pos rfl
    · have hne : m.1 ≠ key := by
        rintro rfl
        exact hfresh (List.mem_map.mpr ⟨(m.1, v), hmem, rfl⟩)
      rw [if_neg hne, ih hrest hmem]

theorem lookup_eq_none_iff {key : String} {members : List (String × Json)} :
    lookup key members = none ↔ key ∉ members.map Prod.fst := by
  induction members with
  | nil => simp [lookup]
  | cons m rest ih =>
    rw [lookup, List.map_cons, List.mem_cons, not_or, ← ih]
    split
    · next heq => simp [heq]
    · next hne => simp [Ne.symm hne]

mutual

def identical : Json → Json → Bool
  | .null, .null => true
  | .bool a, .bool b => a == b
  | .num a, .num b => a == b
  | .str a, .str b => a == b
  | .arr as, .arr bs => identicalItems as bs
  | .obj as, .obj bs => identicalMembers as bs
  | _, _ => false
termination_by structural v => v

def identicalItems : List Json → List Json → Bool
  | [], [] => true
  | v :: vs, w :: ws => identical v w && identicalItems vs ws
  | _, _ => false
termination_by structural vs => vs

def identicalMembers : List (String × Json) → List (String × Json) → Bool
  | [], [] => true
  | (k, v) :: ms, (l, w) :: ns => k == l && identical v w && identicalMembers ms ns
  | _, _ => false
termination_by structural ms => ms

end

theorem identical_iff {v w : Json} : identical v w = true ↔ v = w := by
  induction v generalizing w with
  | null => cases w <;> simp [identical]
  | bool b => cases w <;> simp [identical]
  | num n => cases w <;> simp [identical]
  | str s => cases w <;> simp [identical]
  | arr items ih =>
    cases w with
    | arr others =>
      rw [identical, Json.arr.injEq]
      induction items generalizing others with
      | nil => cases others <;> simp [identicalItems]
      | cons v vs ihs =>
        obtain ⟨hv, hvs⟩ := List.forall_mem_cons.mp ih
        cases others with
        | nil => simp [identicalItems]
        | cons w ws => rw [identicalItems, Bool.and_eq_true, hv, ihs hvs, List.cons.injEq]
    | _ => simp [identical]
  | obj members ih =>
    cases w with
    | obj others =>
      rw [identical, Json.obj.injEq]
      induction members generalizing others with
      | nil => cases others <;> simp [identicalMembers]
      | cons m ms ihs =>
        obtain ⟨hm, hms⟩ := List.forall_mem_cons.mp ih
        cases others with
        | nil => simp [identicalMembers]
        | cons n ns =>
          rw [identicalMembers, Bool.and_eq_true, Bool.and_eq_true, beq_iff_eq, hm, ihs hms,
            List.cons.injEq, Prod.ext_iff]
    | _ => simp [identical]

instance : DecidableEq Json := fun _ _ => decidable_of_iff _ identical_iff

theorem orderedItems_iff {items : List Json} : OrderedItems items ↔ ∀ v ∈ items, Ordered v := by
  induction items with
  | nil => simp [OrderedItems]
  | cons v rest ih => rw [OrderedItems, ih, List.forall_mem_cons]

theorem orderedMembers_iff {members : List (String × Json)} :
    OrderedMembers members ↔ ∀ m ∈ members, Ordered m.2 := by
  induction members with
  | nil => simp [OrderedMembers]
  | cons m rest ih => rw [OrderedMembers, ih, List.forall_mem_cons]

theorem Ascending.nodup {members : List (String × Json)} (h : Ascending members) :
    (members.map Prod.fst).Nodup := by
  refine List.pairwise_map.mpr (h.imp fun {a b} hlt heq => ?_)
  rw [heq] at hlt
  exact String.lt_irrefl _ hlt

mutual

def depth : Json → Nat
  | .arr items => depthOfItems items + 1
  | .obj members => depthOfMembers members + 1
  | _ => 0
termination_by structural v => v

def depthOfItems : List Json → Nat
  | [] => 0
  | v :: vs => max (depth v) (depthOfItems vs)
termination_by structural vs => vs

def depthOfMembers : List (String × Json) → Nat
  | [] => 0
  | (_, v) :: ms => max (depth v) (depthOfMembers ms)
termination_by structural ms => ms

end

theorem depth_arr_le_iff {items : List Json} {d : Nat} :
    depth (.arr items) ≤ d + 1 ↔ ∀ v ∈ items, depth v ≤ d := by
  rw [depth, Nat.add_le_add_iff_right]
  induction items with
  | nil => simp [depthOfItems]
  | cons v rest ih => rw [depthOfItems, Nat.max_le, ih, List.forall_mem_cons]

theorem depth_obj_le_iff {members : List (String × Json)} {d : Nat} :
    depth (.obj members) ≤ d + 1 ↔ ∀ m ∈ members, depth m.2 ≤ d := by
  rw [depth, Nat.add_le_add_iff_right]
  induction members with
  | nil => simp [depthOfMembers]
  | cons m rest ih => rw [depthOfMembers, Nat.max_le, ih, List.forall_mem_cons]

theorem depth_object_le {fields : List (String × Option Json)} {d : Nat}
    (h : ∀ field ∈ fields, ∀ v ∈ field.2, v.depth ≤ d) : (object fields).depth ≤ d + 1 := by
  refine depth_obj_le_iff.mpr fun m hm => ?_
  obtain ⟨⟨key, v⟩, hfield, heq⟩ := List.mem_filterMap.mp hm
  obtain ⟨w, hw, rfl⟩ := Option.map_eq_some_iff.mp heq
  exact h _ hfield w hw

end Switchyard.Json
