import Mathlib.Data.List.Perm.Subperm
import Switchyard.Json.Equality
import Switchyard.Proofs.Comparison
import Switchyard.Proofs.Json.Structure

/-! Deep equality as a relation. It goes through lists by position and through
objects by key, and is reflexive and symmetric. What keeps it from being
transitive is a real between two integers that rounding merges. -/

namespace Switchyard.Json

theorem deepEqual?_iff {a b : Option Json} :
    deepEqual? a b = true ↔
      (a = none ∧ b = none) ∨ ∃ v w, a = some v ∧ b = some w ∧ deepEqual v w = true := by
  cases a <;> cases b <;> simp [deepEqual?]

theorem deepEqual_arr_iff {as bs : List Json} :
    deepEqual (.arr as) (.arr bs) = true ↔ ∀ i : Nat, deepEqual? as[i]? bs[i]? = true := by
  rw [deepEqual]
  induction as generalizing bs with
  | nil =>
    cases bs with
    | nil => simp [deepEqualItems, deepEqual?]
    | cons b bs =>
      simp only [List.length_nil, List.length_cons, deepEqualItems, Bool.and_true, beq_iff_eq]
      exact ⟨fun h => by omega, fun h => by simpa [deepEqual?] using h 0⟩
  | cons a as ih =>
    cases bs with
    | nil =>
      simp only [List.length_nil, List.length_cons, deepEqualItems, Bool.and_true, beq_iff_eq]
      exact ⟨fun h => by omega, fun h => by simpa [deepEqual?] using h 0⟩
    | cons b bs =>
      have hsplit : (∀ i : Nat, deepEqual? (a :: as)[i]? (b :: bs)[i]? = true) ↔
          deepEqual a b = true ∧ ∀ i : Nat, deepEqual? as[i]? bs[i]? = true := by
        constructor
        · exact fun h => ⟨h 0, fun i => h (i + 1)⟩
        · rintro ⟨hhead, htail⟩ (_ | i)
          · exact hhead
          · exact htail i
      rw [hsplit, ← ih]
      simp only [List.length_cons, deepEqualItems, Bool.and_eq_true, beq_iff_eq,
        Nat.add_right_cancel_iff]
      exact and_left_comm

theorem deepEqualMembers_iff {as bs : List (String × Json)} :
    deepEqualMembers as bs = true ↔ ∀ m ∈ as, deepEqual? (some m.2) (lookup m.1 bs) = true := by
  induction as with
  | nil => simp [deepEqualMembers]
  | cons m rest ih =>
    rw [deepEqualMembers, Bool.and_eq_true, ih, List.forall_mem_cons]
    cases lookup m.1 bs <;> rfl

/-- Objects of distinct keys are equal when they agree at every key. From left to
right, equal lengths turn one inclusion of the keys into the other one. -/
theorem deepEqual_obj_iff {as bs : List (String × Json)} (ha : (as.map Prod.fst).Nodup)
    (hb : (bs.map Prod.fst).Nodup) :
    deepEqual (.obj as) (.obj bs) = true ↔
      ∀ key, deepEqual? (lookup key as) (lookup key bs) = true := by
  rw [deepEqual, Bool.and_eq_true, beq_iff_eq, deepEqualMembers_iff]
  constructor
  · rintro ⟨hlen, hmem⟩ key
    have hsub : as.map Prod.fst ⊆ bs.map Prod.fst := by
      intro k hk
      obtain ⟨m, hm, rfl⟩ := List.mem_map.mp hk
      by_contra hnot
      have hm' := hmem m hm
      rw [lookup_eq_none_iff.mpr hnot] at hm'
      cases hm'
    have hperm : (as.map Prod.fst).Perm (bs.map Prod.fst) :=
      (ha.subperm hsub).perm_of_length_le (by simp [hlen])
    cases hkey : lookup key as with
    | some v => exact hmem _ (mem_of_lookup hkey)
    | none =>
      have hnot := mt hperm.mem_iff.mpr (lookup_eq_none_iff.mp hkey)
      rw [lookup_eq_none_iff.mpr hnot]
      rfl
  · intro h
    have hkeys (key : String) : key ∈ as.map Prod.fst ↔ key ∈ bs.map Prod.fst := by
      rw [← not_iff_not, ← lookup_eq_none_iff, ← lookup_eq_none_iff]
      rcases deepEqual?_iff.mp (h key) with ⟨hl, hr⟩ | ⟨v, w, hl, hr, -⟩ <;> simp [hl, hr]
    have hperm := (List.perm_ext_iff_of_nodup ha hb).mpr hkeys
    refine ⟨by simpa using hperm.length_eq, fun m hm => ?_⟩
    have hm' := h m.1
    rwa [lookup_of_mem ha hm] at hm'

theorem deepEqual?_iff_forall {a b : Option Json} :
    deepEqual? a b = true ↔
      (a = none ↔ b = none) ∧ ∀ v w, a = some v → b = some w → deepEqual v w = true := by
  cases a <;> cases b <;> simp [deepEqual?]

theorem deepEqual_arr_iff_forall {as bs : List Json} :
    deepEqual (.arr as) (.arr bs) = true ↔
      as.length = bs.length ∧
        ∀ (i : Nat) (v w : Json), as[i]? = some v → bs[i]? = some w → deepEqual v w = true := by
  simp only [deepEqual_arr_iff, deepEqual?_iff_forall, forall_and, List.getElem?_eq_none_iff]
  refine and_congr_left fun _ => ⟨fun h => ?_, fun h i => by rw [h]⟩
  have hleft := h as.length
  have hright := h bs.length
  omega

theorem deepEqual_obj_iff_forall {as bs : List (String × Json)} (ha : DistinctKeys (.obj as))
    (hb : DistinctKeys (.obj bs)) :
    deepEqual (.obj as) (.obj bs) = true ↔
      (∀ key, key ∈ as.map Prod.fst ↔ key ∈ bs.map Prod.fst) ∧
        ∀ (key : String) (v w : Json),
          lookup key as = some v → lookup key bs = some w → deepEqual v w = true := by
  simp only [deepEqual_obj_iff ha.nodup hb.nodup, deepEqual?_iff_forall, forall_and,
    lookup_eq_none_iff, not_iff_not]

theorem deepEqual?_refl_of {a : Option Json} (h : ∀ v ∈ a, deepEqual v v = true) :
    deepEqual? a a = true := by
  cases a with
  | none => rfl
  | some v => exact h v rfl

theorem deepEqual_refl {v : Json} (h : DistinctKeys v) : deepEqual v v = true := by
  induction v with
  | null => rfl
  | bool b => exact beq_self_eq_true b
  | num n => exact n.equal_refl
  | str s => exact beq_self_eq_true s
  | arr items ih =>
    refine deepEqual_arr_iff.mpr fun i => deepEqual?_refl_of fun v hv => ?_
    have hmem := List.mem_of_getElem? hv
    exact ih v hmem (h.item hmem)
  | obj members ih =>
    refine (deepEqual_obj_iff h.nodup h.nodup).mpr fun key => deepEqual?_refl_of fun v hv => ?_
    have hmem := mem_of_lookup hv
    exact ih _ hmem (h.member hmem)

theorem deepEqual?_symm_of {a b : Option Json}
    (h : ∀ v ∈ a, ∀ w ∈ b, deepEqual v w = true → deepEqual w v = true)
    (hab : deepEqual? a b = true) : deepEqual? b a = true := by
  rcases deepEqual?_iff.mp hab with ⟨rfl, rfl⟩ | ⟨v, w, rfl, rfl, heq⟩
  · rfl
  · exact h v rfl w rfl heq

theorem deepEqual_symm {a b : Json} (ha : DistinctKeys a) (hb : DistinctKeys b)
    (h : deepEqual a b = true) : deepEqual b a = true := by
  induction a generalizing b with
  | null => cases b <;> first | rfl | cases h
  | bool => cases b <;> first | exact Bool.beq_comm.trans h | cases h
  | num m =>
    cases b with
    | num n => exact (n.equal_comm m).trans h
    | _ => cases h
  | str s => cases b <;> first | exact Bool.beq_comm.trans h | cases h
  | arr as ih =>
    cases b with
    | arr bs =>
      refine deepEqual_arr_iff.mpr fun i =>
        deepEqual?_symm_of (fun v hv w hw => ?_) (deepEqual_arr_iff.mp h i)
      have hv' := List.mem_of_getElem? hv
      exact ih v hv' (ha.item hv') (hb.item (List.mem_of_getElem? hw))
    | _ => cases h
  | obj as ih =>
    cases b with
    | obj bs =>
      refine (deepEqual_obj_iff hb.nodup ha.nodup).mpr fun key =>
        deepEqual?_symm_of (fun v hv w hw => ?_) ((deepEqual_obj_iff ha.nodup hb.nodup).mp h key)
      have hv' := mem_of_lookup hv
      exact ih _ hv' (ha.member hv') (hb.member (mem_of_lookup hw))
    | _ => cases h

theorem deepEqual?_comm {a b : Option Json} (ha : ∀ v ∈ a, DistinctKeys v)
    (hb : ∀ v ∈ b, DistinctKeys v) : deepEqual? a b = deepEqual? b a := by
  refine Bool.eq_iff_iff.mpr ⟨deepEqual?_symm_of ?_, deepEqual?_symm_of ?_⟩
  · exact fun v hv w hw => deepEqual_symm (ha v hv) (hb w hw)
  · exact fun v hv w hw => deepEqual_symm (hb v hv) (ha w hw)

/-- Somewhere in the second of three values a real stands where the first and
the third one have different integers. -/
inductive Bridged : Json → Json → Json → Prop
  | number {i j : Int} {hi : IsWord i} {hj : IsWord j} {x : Binary64} {hx : x.isFinite = true} :
    i ≠ j → Bridged (.num (.integer i hi)) (.num (.real x hx)) (.num (.integer j hj))
  | item {as bs cs : List Json} {a b c : Json} (i : Nat) :
    as[i]? = some a → bs[i]? = some b → cs[i]? = some c → Bridged a b c →
      Bridged (.arr as) (.arr bs) (.arr cs)
  | member {as bs cs : List (String × Json)} {a b c : Json} (key : String) :
    lookup key as = some a → lookup key bs = some b → lookup key cs = some c → Bridged a b c →
      Bridged (.obj as) (.obj bs) (.obj cs)

def Bridged? (a b c : Option Json) : Prop :=
  ∃ u v w, a = some u ∧ b = some v ∧ c = some w ∧ Bridged u v w

theorem bridged_arr_iff {as bs cs : List Json} :
    Bridged (.arr as) (.arr bs) (.arr cs) ↔ ∃ i : Nat, Bridged? as[i]? bs[i]? cs[i]? := by
  constructor
  · rintro (_ | ⟨i, ha, hb, hc, h⟩)
    exact ⟨i, _, _, _, ha, hb, hc, h⟩
  · rintro ⟨i, u, v, w, ha, hb, hc, h⟩
    exact .item i ha hb hc h

theorem bridged_obj_iff {as bs cs : List (String × Json)} :
    Bridged (.obj as) (.obj bs) (.obj cs) ↔
      ∃ key, Bridged? (lookup key as) (lookup key bs) (lookup key cs) := by
  constructor
  · rintro (_ | _ | ⟨key, ha, hb, hc, h⟩)
    exact ⟨key, _, _, _, ha, hb, hc, h⟩
  · rintro ⟨key, u, v, w, ha, hb, hc, h⟩
    exact .member key ha hb hc h

theorem bridged_num_iff {a b c : Number} (hab : a.equal b = true) (hbc : b.equal c = true) :
    Bridged (.num a) (.num b) (.num c) ↔ a.Merged c := by
  have hkey : a.key = c.key :=
    ((Number.equal_iff a b).mp hab).1.trans ((Number.equal_iff b c).mp hbc).1
  constructor
  · rintro ⟨hne⟩
    exact ⟨hne, Binary64.ofInt_eq_iff.mpr hkey⟩
  · intro hmerged
    cases a <;> cases c <;> simp only [Number.Merged] at hmerged
    case integer.integer i hi j hj =>
    cases b with
    | real x finite => exact .number hmerged.1
    | integer k hk =>
      have hik : i = k := Number.equal_integers_iff.mp hab
      have hkj : k = j := Number.equal_integers_iff.mp hbc
      exact absurd (hik.trans hkj) hmerged.1

theorem deepEqual?_trans_of {a b c : Option Json}
    (h : ∀ u ∈ a, ∀ v ∈ b, ∀ w ∈ c, deepEqual u v = true → deepEqual v w = true →
      (deepEqual u w = true ↔ ¬ Bridged u v w))
    (hab : deepEqual? a b = true) (hbc : deepEqual? b c = true) :
    deepEqual? a c = true ↔ ¬ Bridged? a b c := by
  rcases deepEqual?_iff.mp hab with ⟨rfl, rfl⟩ | ⟨u, v, rfl, rfl, huv⟩
  · obtain rfl : c = none := by cases c <;> first | rfl | cases hbc
    simp [Bridged?, deepEqual?]
  · obtain ⟨w, rfl⟩ : ∃ w, c = some w := by cases c <;> first | exact ⟨_, rfl⟩ | cases hbc
    simpa [Bridged?, deepEqual?] using h u rfl v rfl w rfl huv hbc

theorem deepEqual_trans_iff {a b c : Json} (ha : DistinctKeys a) (hb : DistinctKeys b)
    (hc : DistinctKeys c) (hab : deepEqual a b = true) (hbc : deepEqual b c = true) :
    deepEqual a c = true ↔ ¬ Bridged a b c := by
  induction a generalizing b c with
  | null =>
    cases b <;> try cases hab
    cases c <;> try cases hbc
    exact iff_of_true rfl fun h => by cases h
  | bool p =>
    cases b <;> try cases hab
    cases c <;> try cases hbc
    have hsame := (eq_of_beq hab).trans (eq_of_beq hbc)
    exact iff_of_true (beq_iff_eq.mpr hsame) fun h => by cases h
  | num m =>
    cases b <;> try cases hab
    cases c <;> try cases hbc
    case num.num n o =>
    have hkey := ((m.equal_iff n).mp hab).1.trans ((n.equal_iff o).mp hbc).1
    rw [bridged_num_iff hab hbc, deepEqual, Number.equal_iff, and_iff_right hkey]
  | str s =>
    cases b <;> try cases hab
    cases c <;> try cases hbc
    have hsame := (eq_of_beq hab).trans (eq_of_beq hbc)
    exact iff_of_true (beq_iff_eq.mpr hsame) fun h => by cases h
  | arr as ih =>
    cases b <;> try cases hab
    cases c <;> try cases hbc
    case arr.arr bs cs =>
    rw [deepEqual_arr_iff, bridged_arr_iff, not_exists]
    refine forall_congr' fun i => deepEqual?_trans_of (fun u hu v hv w hw => ?_)
      (deepEqual_arr_iff.mp hab i) (deepEqual_arr_iff.mp hbc i)
    have hu' := List.mem_of_getElem? hu
    have hv' := List.mem_of_getElem? hv
    have hw' := List.mem_of_getElem? hw
    exact ih u hu' (ha.item hu') (hb.item hv') (hc.item hw')
  | obj as ih =>
    cases b <;> try cases hab
    cases c <;> try cases hbc
    case obj.obj bs cs =>
    rw [deepEqual_obj_iff ha.nodup hc.nodup, bridged_obj_iff, not_exists]
    refine forall_congr' fun key => deepEqual?_trans_of (fun u hu v hv w hw => ?_)
      ((deepEqual_obj_iff ha.nodup hb.nodup).mp hab key)
      ((deepEqual_obj_iff hb.nodup hc.nodup).mp hbc key)
    have hu' := mem_of_lookup hu
    exact ih _ hu' (ha.member hu') (hb.member (mem_of_lookup hv)) (hc.member (mem_of_lookup hw))

/-- Deep equality of values that may be absent is reflexive and symmetric, and it
is transitive up to reals that stand between two different integers. -/
theorem deepEqual?_equivalence_iff_not_bridged {a b c : Option Json}
    (ha : ∀ v ∈ a, DistinctKeys v) (hb : ∀ v ∈ b, DistinctKeys v)
    (hc : ∀ v ∈ c, DistinctKeys v) :
    deepEqual? a a = true ∧ (deepEqual? a b = true → deepEqual? b a = true) ∧
      (deepEqual? a b = true → deepEqual? b c = true →
        (deepEqual? a c = true ↔ ¬ Bridged? a b c)) := by
  refine ⟨?_, ?_, ?_⟩
  · exact deepEqual?_refl_of fun v hv => deepEqual_refl (ha v hv)
  · exact deepEqual?_symm_of fun v hv w hw => deepEqual_symm (ha v hv) (hb w hw)
  · exact deepEqual?_trans_of fun u hu v hv w hw =>
      deepEqual_trans_iff (ha u hu) (hb v hv) (hc w hw)

theorem deepEqual?_of_identifiers :
    let x : Json := .num (.ofUInt64 9007199254740992)
    let y : Json := .num (.real (.ofNat 9007199254740992) (by decide +kernel))
    let z : Json := .num (.ofUInt64 9007199254740993)
    let a : Json := .obj [("id", x), ("tags", .arr [y])]
    let b : Json := .obj [("tags", .arr [x]), ("id", y)]
    let c : Json := .obj [("id", z), ("tags", .arr [y])]
    (DistinctKeys a ∧ DistinctKeys b ∧ DistinctKeys c) ∧ deepEqual? (some b) (some a) = true ∧
      deepEqual? (some b) (some c) = true ∧ ¬ deepEqual? (some a) (some c) = true := by
  intro x y z a b c
  have ha : DistinctKeys a := by simp [DistinctKeys, a, x, y]
  have hb : DistinctKeys b := by simp [DistinctKeys, b, x, y]
  have hc : DistinctKeys c := by simp [DistinctKeys, c, y, z]
  have hab : deepEqual? (some a) (some b) = true := by decide +kernel
  have hbc : deepEqual? (some b) (some c) = true := by decide +kernel
  have present {v : Json} (h : DistinctKeys v) : ∀ w ∈ some v, DistinctKeys w := by
    rintro _ ⟨⟩
    exact h
  obtain ⟨-, hsymm, htrans⟩ :=
    deepEqual?_equivalence_iff_not_bridged (present ha) (present hb) (present hc)
  refine ⟨⟨ha, hb, hc⟩, hsymm hab, hbc, fun hac => (htrans hab hbc).mp hac ?_⟩
  exact ⟨a, b, c, rfl, rfl, rfl, .member "id" rfl rfl rfl (.number (by decide))⟩

theorem not_deepEqual?_trans :
    let a : Json := .num (.ofUInt64 9007199254740992)
    let b : Json := .num (.real (.ofNat 9007199254740992) (by decide +kernel))
    let c : Json := .num (.ofUInt64 9007199254740993)
    deepEqual? (some a) (some b) = true ∧ deepEqual? (some b) (some c) = true ∧
      deepEqual? (some a) (some c) = false := by
  decide +kernel

end Switchyard.Json
