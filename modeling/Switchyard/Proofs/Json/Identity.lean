import Switchyard.Proofs.Json.Equality

/-! Deep equality as identity. On values without reals it holds of nothing but the same
value, and where objects list their keys in order this is equality of the values. -/

namespace Switchyard.Json

def WithoutReals : Json → Prop :=
  Every fun
    | .num (.real ..) => False
    | _ => True

/-- The same value: lists of one length with the same items in order, objects of the
same keys with the same value under each, and scalars that are identical. -/
inductive Same : Json → Json → Prop
  | null : Same .null .null
  | bool (b : Bool) : Same (.bool b) (.bool b)
  | num (n : Number) : Same (.num n) (.num n)
  | str (s : String) : Same (.str s) (.str s)
  | arr {as bs : List Json} : as.length = bs.length →
    (∀ (i : Nat) (v w : Json), as[i]? = some v → bs[i]? = some w → Same v w) →
      Same (.arr as) (.arr bs)
  | obj {as bs : List (String × Json)} :
    (∀ key, key ∈ as.map Prod.fst ↔ key ∈ bs.map Prod.fst) →
    (∀ (key : String) (v w : Json), lookup key as = some v → lookup key bs = some w → Same v w) →
      Same (.obj as) (.obj bs)

theorem Same.deepEqual {a b : Json} (h : Same a b) (ha : DistinctKeys a) (hb : DistinctKeys b) :
    deepEqual a b = true := by
  induction h with
  | null => rfl
  | bool b => exact beq_self_eq_true b
  | num n => exact n.equal_refl
  | str s => exact beq_self_eq_true s
  | arr hlength _ ih =>
    refine deepEqual_arr_iff_forall.mpr ⟨hlength, fun i v w hv hw => ih i v w hv hw ?_ ?_⟩
    · exact ha.item (List.mem_of_getElem? hv)
    · exact hb.item (List.mem_of_getElem? hw)
  | obj hkeys _ ih =>
    refine (deepEqual_obj_iff_forall ha hb).mpr ⟨hkeys, fun key v w hv hw => ih key v w hv hw ?_ ?_⟩
    · exact ha.member (mem_of_lookup hv)
    · exact hb.member (mem_of_lookup hw)

theorem same_num_of_equal {m n : Number} (hm : WithoutReals (.num m)) (hn : WithoutReals (.num n))
    (h : m.equal n = true) : Same (.num m) (.num n) := by
  cases m with
  | real => exact hm.whole.elim
  | integer i hi =>
    cases n with
    | real => exact hn.whole.elim
    | integer j hj =>
      obtain rfl := Number.equal_integers_iff.mp h
      exact .num _

theorem same_of_deepEqual {a b : Json} (ha : DistinctKeys a) (hb : DistinctKeys b)
    (hra : WithoutReals a) (hrb : WithoutReals b) (h : deepEqual a b = true) : Same a b := by
  induction a generalizing b with
  | null => cases b <;> first | exact .null | cases h
  | bool p =>
    cases b with
    | bool q => exact eq_of_beq h ▸ .bool p
    | _ => cases h
  | num m =>
    cases b with
    | num n => exact same_num_of_equal hra hrb h
    | _ => cases h
  | str s =>
    cases b with
    | str t => exact eq_of_beq h ▸ .str s
    | _ => cases h
  | arr as ih =>
    cases b with
    | arr bs =>
      obtain ⟨hlength, hitems⟩ := deepEqual_arr_iff_forall.mp h
      refine .arr hlength fun i v w hv hw => ?_
      have hv' := List.mem_of_getElem? hv
      have hw' := List.mem_of_getElem? hw
      exact ih v hv' (ha.item hv') (hb.item hw') (hra.item hv') (hrb.item hw') (hitems i v w hv hw)
    | _ => cases h
  | obj as ih =>
    cases b with
    | obj bs =>
      obtain ⟨hkeys, hmembers⟩ := (deepEqual_obj_iff_forall ha hb).mp h
      refine .obj hkeys fun key v w hv hw => ?_
      have hv' := mem_of_lookup hv
      have hw' := mem_of_lookup hw
      exact ih _ hv' (ha.member hv') (hb.member hw') (hra.member hv') (hrb.member hw')
        (hmembers key v w hv hw)
    | _ => cases h

theorem Ascending.ext {as bs : List (String × Json)} (ha : Ascending as) (hb : Ascending bs)
    (h : ∀ key, lookup key as = lookup key bs) : as = bs := by
  have hmem (m : String × Json) : m ∈ as ↔ m ∈ bs := by
    constructor
    · exact fun hm => mem_of_lookup ((h m.1).symm.trans (lookup_of_mem ha.nodup hm))
    · exact fun hm => mem_of_lookup ((h m.1).trans (lookup_of_mem hb.nodup hm))
  have hperm : as.Perm bs :=
    (List.perm_ext_iff_of_nodup (.of_map _ ha.nodup) (.of_map _ hb.nodup)).mpr hmem
  exact hperm.eq_of_pairwise (fun a b _ _ hlt hgt => absurd hgt (String.lt_asymm hlt)) ha hb

theorem Same.eq_of_ordered {a b : Json} (h : Same a b) (ha : Ordered a) (hb : Ordered b) :
    a = b := by
  induction h with
  | null | bool | num | str => rfl
  | @arr as bs hlength _ ih =>
    rw [Ordered, orderedItems_iff] at ha hb
    refine congrArg Json.arr (List.ext_getElem hlength fun i hi hj => ?_)
    exact ih i _ _ (List.getElem?_eq_getElem hi) (List.getElem?_eq_getElem hj)
      (ha _ (List.getElem_mem hi)) (hb _ (List.getElem_mem hj))
  | @obj as bs hkeys _ ih =>
    rw [Ordered, orderedMembers_iff] at ha hb
    refine congrArg Json.obj (ha.1.ext hb.1 fun key => ?_)
    have hnone := not_congr (hkeys key)
    rw [← lookup_eq_none_iff, ← lookup_eq_none_iff] at hnone
    cases hv : lookup key as with
    | none => exact (hnone.mp hv).symm
    | some v =>
      have hsome : lookup key bs ≠ none := mt hnone.mpr (by rw [hv]; exact Option.some_ne_none v)
      obtain ⟨w, hw⟩ := Option.ne_none_iff_exists'.mp hsome
      rw [hw, ih key v w hv hw (ha.2 _ (mem_of_lookup hv)) (hb.2 _ (mem_of_lookup hw))]

/-- Among values without reals, deep equality holds exactly of the same value. -/
theorem deepEqual_iff_same {a b : Json} (ha : DistinctKeys a) (hb : DistinctKeys b)
    (hra : WithoutReals a) (hrb : WithoutReals b) :
    (deepEqual a b = true ↔ Same a b) ∧
      (Ordered a → Ordered b → (deepEqual a b = true ↔ a = b)) := by
  refine ⟨⟨same_of_deepEqual ha hb hra hrb, fun h => h.deepEqual ha hb⟩, fun hoa hob => ⟨?_, ?_⟩⟩
  · exact fun h => (same_of_deepEqual ha hb hra hrb h).eq_of_ordered hoa hob
  · rintro rfl
    exact deepEqual_refl ha

theorem deepEqual_iff_same_words :
    let top : Json := .num (.ofUInt64 18446744073709551615)
    let low : Json := .num (.ofInt64 (-9223372036854775808))
    let a : Json := .obj [("id", top), ("tags", .arr [low, .null])]
    let b : Json := .obj [("tags", .arr [low, .null]), ("id", top)]
    let c : Json := .obj [("id", low), ("tags", .arr [low, .null])]
    (∀ v ∈ [a, b, c], DistinctKeys v ∧ WithoutReals v) ∧ (Ordered a ∧ Ordered c) ∧
      Same a b ∧ ¬ Same a c ∧ a ≠ c := by
  intro top low a b c
  have hvalues : ∀ v ∈ [a, b, c], DistinctKeys v ∧ WithoutReals v := by
    simp [DistinctKeys, WithoutReals, a, b, c, top, low, Number.ofUInt64, Number.ofInt64]
  have ha := hvalues a (by simp)
  have hb := hvalues b (by simp)
  have hc := hvalues c (by simp)
  have hlt : "id" < "tags" := by decide
  have hascending (v w : Json) : Ascending [("id", v), ("tags", w)] := List.pairwise_pair.mpr hlt
  have hordered : Ordered a ∧ Ordered c :=
    ⟨⟨hascending .., trivial, ⟨trivial, trivial, trivial⟩, trivial⟩,
      ⟨hascending .., trivial, ⟨trivial, trivial, trivial⟩, trivial⟩⟩
  have hab : deepEqual a b = true := by decide +kernel
  have hac : ¬ deepEqual a c = true := by decide +kernel
  have hsame := deepEqual_iff_same ha.1 hc.1 ha.2 hc.2
  refine ⟨hvalues, hordered, ?_, mt hsame.1.mpr hac, mt (hsame.2 hordered.1 hordered.2).mpr hac⟩
  exact (deepEqual_iff_same ha.1 hb.1 ha.2 hb.2).1.mp hab

end Switchyard.Json
