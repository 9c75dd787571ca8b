import Switchyard.Json.Coercion
import Switchyard.Path
import Switchyard.Proofs.Json.Equality

/-! Deeply equal values whose integers are exact as doubles. Among such values deep
equality is an equivalence, and neither paths nor coercions tell them apart. -/

namespace Switchyard.Json

structure Exact (v : Json) : Prop where
  distinctKeys : DistinctKeys v
  integers : Every (fun
    | .num (.integer i _) => i.natAbs ≤ 2 ^ 53
    | _ => True) v

theorem Exact.item {items : List Json} {v : Json} (h : Exact (.arr items)) (hv : v ∈ items) :
    Exact v := ⟨h.distinctKeys.item hv, h.integers.item hv⟩

theorem Exact.member {members : List (String × Json)} {m : String × Json}
    (h : Exact (.obj members)) (hm : m ∈ members) : Exact m.2 :=
  ⟨h.distinctKeys.member hm, h.integers.member hm⟩

theorem Exact.arr {items : List Json} (h : ∀ v ∈ items, Exact v) : Exact (.arr items) :=
  ⟨every_arr_iff.mpr ⟨trivial, fun v hv => (h v hv).distinctKeys⟩,
    every_arr_iff.mpr ⟨trivial, fun v hv => (h v hv).integers⟩⟩

theorem Exact.obj {members : List (String × Json)} (hkeys : (members.map Prod.fst).Nodup)
    (h : ∀ m ∈ members, Exact m.2) : Exact (.obj members) :=
  ⟨every_obj_iff.mpr ⟨hkeys, fun m hm => (h m hm).distinctKeys⟩,
    every_obj_iff.mpr ⟨trivial, fun m hm => (h m hm).integers⟩⟩

theorem Exact.ofUInt64 {n : UInt64} (h : n.toNat ≤ 2 ^ 53) : Exact (.ofUInt64 n) :=
  ⟨every_num.mpr trivial, every_num.mpr h⟩

theorem Bridged.not_exact {a b c : Json} (h : Bridged a b c) (ha : Exact a) (hb : Exact b)
    (hc : Exact c) (hab : deepEqual a b = true) (hbc : deepEqual b c = true) : False := by
  induction h with
  | number hne =>
    rw [deepEqual, Number.equal_iff] at hab hbc
    have hkey := hab.1.trans hbc.1
    exact hne (Binary64.keyOfInt_injOn ha.integers.whole hc.integers.whole hkey)
  | item i hu hv hw _ ih =>
    have huv := deepEqual_arr_iff.mp hab i
    have hvw := deepEqual_arr_iff.mp hbc i
    rw [hu, hv] at huv
    rw [hv, hw] at hvw
    exact ih (ha.item (List.mem_of_getElem? hu)) (hb.item (List.mem_of_getElem? hv))
      (hc.item (List.mem_of_getElem? hw)) huv hvw
  | member key hu hv hw _ ih =>
    have huv := (deepEqual_obj_iff ha.distinctKeys.nodup hb.distinctKeys.nodup).mp hab key
    have hvw := (deepEqual_obj_iff hb.distinctKeys.nodup hc.distinctKeys.nodup).mp hbc key
    rw [hu, hv] at huv
    rw [hv, hw] at hvw
    exact ih (ha.member (mem_of_lookup hu)) (hb.member (mem_of_lookup hv))
      (hc.member (mem_of_lookup hw)) huv hvw

structure Equivalent (v w : Json) : Prop where
  left : Exact v
  right : Exact w
  equal : deepEqual v w = true

abbrev Equivalent? : Option Json → Option Json → Prop := Option.Rel Equivalent

namespace Equivalent

variable {u v w : Json}

theorem refl (h : Exact v) : Equivalent v v := ⟨h, h, deepEqual_refl h.distinctKeys⟩

theorem symm (h : Equivalent v w) : Equivalent w v :=
  ⟨h.right, h.left, deepEqual_symm h.left.distinctKeys h.right.distinctKeys h.equal⟩

theorem trans (huv : Equivalent u v) (hvw : Equivalent v w) : Equivalent u w := by
  refine ⟨huv.left, hvw.right, ?_⟩
  refine (deepEqual_trans_iff huv.left.distinctKeys huv.right.distinctKeys
    hvw.right.distinctKeys huv.equal hvw.equal).mpr fun hbridged => ?_
  exact hbridged.not_exact huv.left huv.right hvw.right huv.equal hvw.equal

end Equivalent

inductive Alike : Json → Json → Prop
  | null : Alike .null .null
  | bool (b : Bool) : Alike (.bool b) (.bool b)
  | num {m n : Number} : m.equal n = true → Alike (.num m) (.num n)
  | str (s : String) : Alike (.str s) (.str s)
  | arr {as bs : List Json} :
    (∀ i : Nat, Equivalent? as[i]? bs[i]?) → Alike (.arr as) (.arr bs)
  | obj {as bs : List (String × Json)} :
    (∀ key, Equivalent? (lookup key as) (lookup key bs)) → Alike (.obj as) (.obj bs)

theorem equivalent?_of_deepEqual? {a b : Option Json} (ha : ∀ v ∈ a, Exact v)
    (hb : ∀ v ∈ b, Exact v) (h : deepEqual? a b = true) : Equivalent? a b := by
  rcases deepEqual?_iff.mp h with ⟨rfl, rfl⟩ | ⟨v, w, rfl, rfl, heq⟩
  · exact .none
  · exact .some ⟨ha v rfl, hb w rfl, heq⟩

theorem Equivalent?.deepEqual? {a b : Option Json} (h : Equivalent? a b) :
    deepEqual? a b = true := by
  cases h with
  | none => rfl
  | some h => exact h.equal

theorem deepEqual_iff_alike {v w : Json} (hv : Exact v) (hw : Exact w) :
    deepEqual v w = true ↔ Alike v w := by
  constructor
  · intro h
    cases v <;> cases w <;> try cases h
    case null.null.refl => exact .null
    case bool.bool a b => exact eq_of_beq h ▸ .bool a
    case num.num m n => exact .num h
    case str.str s t => exact eq_of_beq h ▸ .str s
    case arr.arr as bs =>
      refine .arr fun i => equivalent?_of_deepEqual? ?_ ?_ (deepEqual_arr_iff.mp h i)
      · exact fun u hu => hv.item (List.mem_of_getElem? hu)
      · exact fun u hu => hw.item (List.mem_of_getElem? hu)
    case obj.obj as bs =>
      refine .obj fun key => equivalent?_of_deepEqual? ?_ ?_
        ((deepEqual_obj_iff hv.distinctKeys.nodup hw.distinctKeys.nodup).mp h key)
      · exact fun u hu => hv.member (mem_of_lookup hu)
      · exact fun u hu => hw.member (mem_of_lookup hu)
  · rintro (_ | b | h | s | h | h)
    · rfl
    · exact beq_self_eq_true b
    · exact h
    · exact beq_self_eq_true s
    · exact deepEqual_arr_iff.mpr fun i => (h i).deepEqual?
    · exact (deepEqual_obj_iff hv.distinctKeys.nodup hw.distinctKeys.nodup).mpr
        fun key => (h key).deepEqual?

theorem Equivalent.alike {v w : Json} (h : Equivalent v w) : Alike v w :=
  (deepEqual_iff_alike h.left h.right).mp h.equal

theorem equivalent_integer_real {i : Int} {word : IsWord i} {x : Binary64}
    {finite : x.isFinite = true} (hsmall : i.natAbs ≤ 2 ^ 53)
    (hx : (Binary64.ofInt i).equal x = true) :
    Equivalent (.num (.integer i word)) (.num (.real x finite)) := by
  refine ⟨⟨every_num.mpr trivial, every_num.mpr hsmall⟩,
    ⟨every_num.mpr trivial, every_num.mpr trivial⟩, ?_⟩
  rwa [deepEqual, Number.equal_of_double (.inr rfl) (.inr rfl)]

theorem Equivalent?.symm {a b : Option Json} (h : Equivalent? a b) : Equivalent? b a := by
  cases h with
  | none => exact .none
  | some h => exact .some h.symm

theorem Equivalent?.exact {a b : Option Json} (h : Equivalent? a b) {v : Json} (ha : a = some v) :
    Exact v := by
  subst ha
  obtain ⟨hvw⟩ := h
  exact hvw.left

theorem Equivalent.arr {as bs : List Json} (h : ∀ i : Nat, Equivalent? as[i]? bs[i]?) :
    Equivalent (.arr as) (.arr bs) := by
  have hleft : Exact (.arr as) := .arr fun v hv => by
    obtain ⟨i, hi⟩ := List.mem_iff_getElem?.mp hv
    exact (h i).exact hi
  have hright : Exact (.arr bs) := .arr fun w hw => by
    obtain ⟨i, hi⟩ := List.mem_iff_getElem?.mp hw
    exact (h i).symm.exact hi
  exact ⟨hleft, hright, (deepEqual_iff_alike hleft hright).mpr (.arr h)⟩

/-- The members of an object may be listed in any order. -/
theorem Equivalent.obj {as bs : List (String × Json)} (ha : (as.map Prod.fst).Nodup)
    (hb : (bs.map Prod.fst).Nodup) (h : ∀ key, Equivalent? (lookup key as) (lookup key bs)) :
    Equivalent (.obj as) (.obj bs) := by
  have hleft : Exact (.obj as) := .obj ha fun m hm => (h m.1).exact (lookup_of_mem ha hm)
  have hright : Exact (.obj bs) := .obj hb fun m hm => (h m.1).symm.exact (lookup_of_mem hb hm)
  exact ⟨hleft, hright, (deepEqual_iff_alike hleft hright).mpr (.obj h)⟩

theorem Equivalent?.deepEqual?_congr {a a' b b' : Option Json} (ha : Equivalent? a a')
    (hb : Equivalent? b b') : Json.deepEqual? a b = Json.deepEqual? a' b' := by
  cases ha with
  | none => cases hb <;> rfl
  | some ha =>
    cases hb with
    | none => rfl
    | some hb =>
      refine Bool.eq_iff_iff.mpr ⟨fun h => ?_, fun h => ?_⟩
      · exact (ha.symm.trans (.trans ⟨ha.left, hb.left, h⟩ hb)).equal
      · exact (ha.trans (.trans ⟨ha.right, hb.right, h⟩ hb.symm)).equal

theorem Equivalent?.eq_none_iff {a b : Option Json} (h : Equivalent? a b) :
    a = none ↔ b = none := by
  cases h <;> simp

theorem Equivalent?.exists_right {a b : Option Json} (h : Equivalent? a b) {v : Json}
    (ha : a = some v) : ∃ w, b = some w ∧ Equivalent v w := by
  subst ha
  obtain ⟨hvw⟩ := h
  exact ⟨_, rfl, hvw⟩

theorem Equivalent?.eq_bool_iff {a b : Option Json} (h : Equivalent? a b) {p : Bool} :
    a = some (.bool p) ↔ b = some (.bool p) := by
  cases h with
  | none => exact Iff.rfl
  | some h => cases h.alike <;> simp

theorem Equivalent?.eq_str_iff {a b : Option Json} (h : Equivalent? a b) {s : String} :
    a = some (.str s) ↔ b = some (.str s) := by
  cases h with
  | none => exact Iff.rfl
  | some h => cases h.alike <;> simp

theorem Equivalent?.items {a b : Option Json} (h : Equivalent? a b) {items : List Json}
    (ha : a = some (.arr items)) :
    ∃ items', b = some (.arr items') ∧ ∀ v ∈ items, ∃ w ∈ items', Equivalent v w := by
  obtain ⟨w, rfl, hw⟩ := h.exists_right ha
  cases hw.alike with
  | arr hitems =>
    refine ⟨_, rfl, fun v hv => ?_⟩
    obtain ⟨i, hi⟩ := List.mem_iff_getElem?.mp hv
    obtain ⟨w, hw, hvw⟩ := (hitems i).exists_right hi
    exact ⟨w, List.mem_of_getElem? hw, hvw⟩

theorem members_eq_nil_iff {members : List (String × Json)} :
    members = [] ↔ ∀ key, lookup key members = none := by
  simp only [lookup_eq_none_iff, ← List.eq_nil_iff_forall_not_mem, List.map_eq_nil_iff]

theorem Equivalent?.isEmpty_eq {a b : Option Json} (h : Equivalent? a b) :
    isEmpty a = isEmpty b := by
  cases h with
  | none => rfl
  | some h =>
    cases h.alike with
    | arr hitems =>
      exact Bool.eq_iff_iff.mpr (by simpa [isEmpty] using (hitems 0).eq_none_iff)
    | obj hmembers =>
      rw [isEmpty, isEmpty, Bool.eq_iff_iff, List.isEmpty_iff, List.isEmpty_iff,
        members_eq_nil_iff, members_eq_nil_iff]
      exact forall_congr' fun key => (hmembers key).eq_none_iff
    | _ => rfl

theorem Equivalent.length_eq {as bs : List Json} (h : Equivalent (.arr as) (.arr bs)) :
    as.length = bs.length := (deepEqual_arr_iff_forall.mp h.equal).1

theorem Equivalent.key?_toBinary64 {v w : Json} (h : Equivalent v w) :
    v.toBinary64.key? = w.toBinary64.key? := by
  induction v generalizing w with
  | num m =>
    cases h.alike with
    | num hmn =>
      have hkey := ((Number.equal_iff m _).mp hmn).1
      rw [toBinary64, toBinary64, Number.key?_toBinary64, Number.key?_toBinary64, hkey]
  | arr as ih =>
    cases h.alike with
    | arr hitems =>
      rename_i bs
      rcases as with _ | ⟨v, _ | ⟨v', as⟩⟩ <;> rcases bs with _ | ⟨w, _ | ⟨w', bs⟩⟩ <;>
        try cases h.length_eq
      · rfl
      · obtain ⟨w', hw, hvw⟩ := (hitems 0).exists_right rfl
        cases hw
        have hread := ih v List.mem_cons_self hvw
        cases hvw.alike with
        | bool => rfl
        | _ => exact hread
      · cases v <;> cases w <;> rfl
  | _ => cases h.alike; rfl

theorem Equivalent?.key?_toBinary64? {a b : Option Json} (h : Equivalent? a b) :
    (toBinary64? a).key? = (toBinary64? b).key? := by
  cases h with
  | none => rfl
  | some h => exact h.key?_toBinary64

def IsScalar : Json → Prop
  | .arr _ => False
  | .obj _ => False
  | _ => True

theorem strictEqual_iff {v w : Json} :
    v.strictEqual w = true ↔ v.IsScalar ∧ deepEqual v w = true := by
  cases v <;> cases w <;> simp [strictEqual, deepEqual, IsScalar]

theorem Equivalent.strictEqual_congr {v v' w w' : Json} (hv : Equivalent v v')
    (hw : Equivalent w w') : v.strictEqual w = v'.strictEqual w' := by
  have hscalar : v.IsScalar ↔ v'.IsScalar := by cases hv.alike <;> exact Iff.rfl
  have hequal : deepEqual v w = deepEqual v' w' :=
    Equivalent?.deepEqual?_congr (.some hv) (.some hw)
  rw [Bool.eq_iff_iff, strictEqual_iff, strictEqual_iff, hscalar, hequal]

section Paths

variable {v w : Json}

theorem Equivalent.member (h : Equivalent v w) (name : String) :
    Equivalent? (Segment.member name v) (Segment.member name w) := by
  cases h.alike with
  | arr hitems =>
    unfold Segment.member
    cases Segment.position? name.toList with
    | none => exact .none
    | some i => exact hitems i.toNat
  | obj hmembers => exact hmembers name
  | _ => exact .none

theorem Equivalent.step (h : Equivalent v w) (s : Segment) : Equivalent? (s.step v) (s.step w) := by
  cases s with
  | key name => exact h.member name
  | indexed name index =>
    cases h.alike with
    | obj hmembers =>
      rename_i as bs
      have hentry := hmembers name
      simp only [Segment.step]
      generalize lookup name as = a, lookup name bs = b at hentry
      cases hentry with
      | none => exact .none
      | some huv =>
        -- A list behind the key is entered, and other values stand for themselves.
        cases huv.alike with
        | arr hitems => exact hitems index.toNat
        | _ => exact .some huv
    | _ => exact .none

theorem Equivalent.follow (h : Equivalent v w) (segments : List Segment) :
    Equivalent? (Path.follow segments v) (Path.follow segments w) := by
  induction segments generalizing v w with
  | nil => exact .some h
  | cons s rest ih =>
    have hstep := h.step s
    unfold Path.follow
    generalize s.step v = a, s.step w = b at hstep
    cases hstep with
    | none => exact .none
    | some hnext => exact ih hnext

theorem Equivalent.resolve (h : Equivalent v w) (path : String) :
    Equivalent? (v.resolve path) (w.resolve path) := h.follow _

end Paths

end Switchyard.Json
