import Mathlib.Data.String.Basic
import Switchyard.Json.Text
import Switchyard.Proofs.Json.Structure

/-! Values read from a text list the members of objects in the order of their
keys, each key once, and nest no deeper than the reader allows. -/

namespace Switchyard.Json

theorem eq_or_mem_of_mem_insert {key : String} {value : Json} {members : List (String × Json)}
    {m : String × Json} (h : m ∈ insert key value members) : m = (key, value) ∨ m ∈ members := by
  induction members with
  | nil => exact .inl (List.mem_singleton.mp h)
  | cons head rest ih =>
    obtain ⟨k, v⟩ := head
    rw [insert] at h
    split_ifs at h
    · exact List.mem_cons.mp h
    · rcases List.mem_cons.mp h with rfl | hrest
      · exact .inl rfl
      · exact .inr (List.mem_cons_of_mem _ hrest)
    · rcases List.mem_cons.mp h with rfl | hrest
      · exact .inr List.mem_cons_self
      · rcases ih hrest with heq | hold
        · exact .inl heq
        · exact .inr (List.mem_cons_of_mem _ hold)

theorem Ascending.insert {members : List (String × Json)} (h : Ascending members) (key : String)
    (value : Json) : Ascending (insert key value members) := by
  induction members with
  | nil => exact List.pairwise_singleton _ _
  | cons head rest ih =>
    obtain ⟨k, v⟩ := head
    obtain ⟨hhead, hrest⟩ := List.pairwise_cons.mp h
    rw [Json.insert]
    split_ifs with hlt heq
    · refine List.pairwise_cons.mpr ⟨fun m hm => ?_, h⟩
      rcases List.mem_cons.mp hm with rfl | hm
      · exact hlt
      · exact hlt.trans (hhead m hm)
    · subst heq
      exact List.pairwise_cons.mpr ⟨hhead, hrest⟩
    · have hgt : k < key := lt_of_le_of_ne (not_lt.mp hlt) (Ne.symm heq)
      refine List.pairwise_cons.mpr ⟨fun m hm => ?_, ih hrest⟩
      rcases eq_or_mem_of_mem_insert hm with rfl | hm
      · exact hgt
      · exact hhead m hm

theorem Ordered.insert {members : List (String × Json)} (h : Ordered (.obj members)) (key : String)
    {value : Json} (hvalue : Ordered value) : Ordered (.obj (insert key value members)) := by
  rw [Ordered, orderedMembers_iff] at h ⊢
  refine ⟨h.1.insert key value, fun m hm => ?_⟩
  rcases eq_or_mem_of_mem_insert hm with rfl | hm
  · exact hvalue
  · exact h.2 m hm

structure Fits (d : Nat) (v : Json) : Prop where
  ordered : Ordered v
  depth_le : v.depth ≤ d

theorem fits_arr_iff {d : Nat} {items : List Json} :
    Fits (d + 1) (.arr items) ↔ ∀ v ∈ items, Fits d v := by
  constructor
  · rintro ⟨hord, hdepth⟩ v hv
    rw [Ordered, orderedItems_iff] at hord
    exact ⟨hord v hv, depth_arr_le_iff.mp hdepth v hv⟩
  · intro h
    refine ⟨?_, depth_arr_le_iff.mpr fun v hv => (h v hv).depth_le⟩
    rw [Ordered, orderedItems_iff]
    exact fun v hv => (h v hv).ordered

theorem Fits.insert {d : Nat} {members : List (String × Json)} (h : Fits (d + 1) (.obj members))
    (key : String) {value : Json} (hvalue : Fits d value) :
    Fits (d + 1) (.obj (insert key value members)) := by
  refine ⟨h.ordered.insert key hvalue.ordered, depth_obj_le_iff.mpr fun m hm => ?_⟩
  rcases eq_or_mem_of_mem_insert hm with rfl | hold
  · exact hvalue.depth_le
  · exact depth_obj_le_iff.mp h.depth_le m hold

namespace Reader

def Yields {α : Type} (p : α → Prop) (r : Result (α × List Char)) : Prop :=
  ∀ a rest, r = .ok (a, rest) → p a

section Yields

variable {α β : Type} {p : β → Prop}

theorem yields_fail {cs : List Char} {m : Malformation} : Yields p (fail cs m) := nofun

theorem yields_failAt {cs : List Char} {m : Malformation} : Yields p (failAt cs m) := nofun

theorem yields_error {e : Located} : Yields p (.error e) := nofun

theorem Yields.mapValue {q : α → Prop} {r : Result (α × List Char)} (hr : Yields q r) {f : α → β}
    (h : ∀ a, q a → p (f a)) : Yields p (mapValue f r) := by
  rintro b rest heq
  unfold Reader.mapValue at heq
  split at heq
  · cases heq
  · cases heq
    exact h _ (hr _ _ rfl)

theorem yields_mapValue {f : α → β} (h : ∀ a, p (f a)) (r : Result (α × List Char)) :
    Yields p (mapValue f r) :=
  Yields.mapValue (q := fun _ => True) (fun _ _ _ => trivial) fun a _ => h a

theorem yields_constant {b : β} (h : p b) (r : Result (List Char)) :
    Yields p (constant b r) := by
  rintro b' rest heq
  unfold constant at heq
  split at heq
  · cases heq
  · cases heq
    exact h

end Yields

/-- With some fuel the readers give values that fit the depth left to them, as
long as what they have gathered does. -/
structure ReadsFitting (fuel : Nat) : Prop where
  value : ∀ depth cs, Yields (Fits depth) (valueWith fuel depth cs)
  items : ∀ depth first acc cs, (∀ v ∈ acc, Fits depth v) →
    Yields (Fits (depth + 1)) (itemsWith fuel depth first acc cs)
  members : ∀ depth first acc cs, Fits (depth + 1) (.obj acc) →
    Yields (Fits (depth + 1)) (membersWith fuel depth first acc cs)

namespace ReadsFitting

variable {fuel depth : Nat} {cs : List Char}

theorem value_succ (h : ReadsFitting fuel) :
    Yields (Fits depth) (valueWith (fuel + 1) depth cs) := by
  unfold valueWith
  split
  · exact yields_fail
  · exact yields_constant ⟨trivial, Nat.zero_le _⟩ _
  · exact yields_constant ⟨trivial, Nat.zero_le _⟩ _
  · exact yields_constant ⟨trivial, Nat.zero_le _⟩ _
  · exact yields_mapValue (fun _ => ⟨trivial, Nat.zero_le _⟩) _
  · exact yields_mapValue (fun _ => ⟨trivial, Nat.zero_le _⟩) _
  · split
    · exact yields_failAt
    · exact h.items _ _ _ _ nofun
  · split
    · exact yields_failAt
    · exact h.members _ _ _ _ ⟨⟨.nil, trivial⟩, depth_obj_le_iff.mpr nofun⟩
  · split_ifs
    · exact yields_mapValue (fun _ => ⟨trivial, Nat.zero_le _⟩) _
    · exact yields_failAt

theorem items_succ (h : ReadsFitting fuel) {first : Bool} {acc : List Json}
    (hacc : ∀ v ∈ acc, Fits depth v) :
    Yields (Fits (depth + 1)) (itemsWith (fuel + 1) depth first acc cs) := by
  unfold itemsWith
  split
  · exact yields_error
  · exact yields_constant (fits_arr_iff.mpr fun v hv => hacc v (List.mem_reverse.mp hv)) _
  · split
    · exact yields_error
    · next heq =>
      exact h.items _ _ _ _ (List.forall_mem_cons.mpr ⟨h.value _ _ _ _ heq, hacc⟩)

theorem members_succ (h : ReadsFitting fuel) {first : Bool} {acc : List (String × Json)}
    (hacc : Fits (depth + 1) (.obj acc)) :
    Yields (Fits (depth + 1)) (membersWith (fuel + 1) depth first acc cs) := by
  unfold membersWith
  split
  · exact yields_error
  · exact yields_constant hacc _
  · split
    · exact yields_error
    · split
      · exact yields_error
      · split
        · exact yields_error
        · next heq =>
          exact h.members _ _ _ _ (hacc.insert _ (h.value _ _ _ _ heq))

end ReadsFitting

theorem readsFitting (fuel : Nat) : ReadsFitting fuel := by
  induction fuel with
  | zero =>
    constructor
    · exact fun _ _ => yields_fail
    · exact fun _ _ _ _ _ => yields_fail
    · exact fun _ _ _ _ _ => yields_fail
  | succ fuel ih =>
    constructor
    · exact fun _ _ => ih.value_succ
    · exact fun _ _ _ _ hacc => ih.items_succ hacc
    · exact fun _ _ _ _ hacc => ih.members_succ hacc

theorem exists_of_run_eq_ok {α : Type} {reader : Nat → List Char → Result (α × List Char)}
    {text : String} {a : α} (h : run reader text = .ok a) :
    ∃ rest, reader depthLimit text.toList = .ok (a, rest) ∧ skipBlanks rest = [] := by
  unfold run at h
  split at h
  · cases h
  · next hend =>
    cases h
    unfold atEnd at hend
    split at hend
    · cases hend
    · next hvalue =>
      split at hend
      · next hblank =>
        cases hend
        exact ⟨_, hvalue, hblank⟩
      · cases hend

end Reader

theorem fits_of_read {text : String} {v : Json} (h : read text = .ok v) :
    Fits Reader.depthLimit v := by
  obtain ⟨rest, hvalue, -⟩ := Reader.exists_of_run_eq_ok h
  exact (Reader.readsFitting _).value _ _ _ _ hvalue

theorem ordered_of_read {text : String} {v : Json} (h : read text = .ok v) : Ordered v :=
  (fits_of_read h).ordered

end Switchyard.Json
