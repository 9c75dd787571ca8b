import Switchyard.Proofs.Json.Rereading

/-! When a printed value is read back as itself: it must not nest too deep, and
its real numbers must survive. Integers always do. -/

namespace Switchyard

namespace Json.Reader

open Digits

theorem gather_of_lt {start : Nat} {ds : List Char} (hds : All ds)
    (h : valueFrom start ds < 0x10000000000000000) : gather start ds = (valueFrom start ds, []) := by
  induction ds generalizing start with
  | nil => rfl
  | cons c cs ih =>
    have hrest : valueFrom (10 * start + (c.toNat - '0'.toNat)) cs < 0x10000000000000000 := h
    have hfits := Nat.lt_of_le_of_lt (le_valueFrom _ cs) hrest
    simp only [gather, hds.head, hfits, decide_true, Bool.and_self, if_true]
    exact ih hds.tail hrest

theorem number_ofNat (negative : Bool) {n : Nat} (h : n < 0x10000000000000000) :
    number negative (Digits.ofNat n) = finishInteger negative n [] := by
  by_cases hzero : n = 0
  · subst hzero
    rfl
  · have hgather : gather 0 (Digits.ofNat n) = (n, []) := by
      have hvalue : valueFrom 0 (Digits.ofNat n) = n := value_ofNat n
      rw [gather_of_lt (all_ofNat n) (by rwa [hvalue]), hvalue]
    obtain ⟨c, cs, hcs⟩ := List.exists_cons_of_ne_nil (ofNat_ne_nil n)
    have hhead := head?_ofNat_ne_zero hzero
    have hdigit : isDigit c = true := all_ofNat n c (hcs ▸ List.mem_cons_self)
    rw [hcs] at hgather hhead ⊢
    unfold number
    split
    · next heq => cases heq
    · next heq =>
      cases heq
      exact absurd rfl hhead
    · next heq =>
      cases heq
      rw [if_pos hdigit, hgather]
      rfl

theorem finishInteger_natAbs {i : Int} (word : IsWord i) :
    finishInteger (decide (i < 0)) i.natAbs [] = .ok (.integer i word, []) := by
  have hsigned : (if decide (i < 0) = true then -(i.natAbs : Int) else i.natAbs) = i := by
    split_ifs with hneg
    · have := of_decide_eq_true hneg
      omega
    · have : ¬ i < 0 := fun h => hneg (decide_eq_true h)
      omega
  have hsome : Number.ofInt? i = some (.integer i word) := dif_pos word
  have hexact : if decide (i < 0) = true then 0 < i.natAbs ∧ i.natAbs ≤ 0x8000000000000000
      else i.natAbs < 0x10000000000000000 := by
    obtain ⟨hlow, hhigh⟩ := word
    split_ifs with hneg
    · have := of_decide_eq_true hneg
      omega
    · omega
  unfold finishInteger
  rw [hsigned, hsome]
  exact if_pos hexact

end Json.Reader

open Json.Reader

theorem Number.write_integer (i : Int) (word : IsWord i) :
    (Number.integer i word).write = signed (decide (i < 0)) (Digits.ofNat i.natAbs) := by
  by_cases h : i < 0 <;> simp [Number.write, signed, h]

theorem Number.reread_integer (i : Int) (word : IsWord i) :
    (Number.integer i word).reread = some (.integer i word) := by
  have hplain : PlainLiteral (Digits.ofNat i.natAbs) := by
    simpa using PlainLiteral.whole (Digits.ofNat_ne_nil _) (Digits.all_ofNat i.natAbs) .absent
  have hsmall : i.natAbs < 0x10000000000000000 := by
    obtain ⟨hlow, hhigh⟩ := word
    omega
  have hliteral := @literal_signed (decide (i < 0)) _ hplain []
  rw [List.append_nil, List.append_nil, number_ofNat _ hsmall, finishInteger_natAbs word] at hliteral
  rw [Json.reread_num_eq, Number.write_integer, hliteral]
  rfl

namespace Json

def Survives : Json → Prop
  | .num (.real x finite) =>
    read (print (.num (.real x finite))) = .ok (.num (.real x finite))
  | _ => True

@[simp]
theorem survives_null : Survives .null := trivial

@[simp]
theorem survives_bool (b : Bool) : Survives (.bool b) := trivial

@[simp]
theorem survives_str (s : String) : Survives (.str s) := trivial

@[simp]
theorem survives_arr (items : List Json) : Survives (.arr items) := trivial

@[simp]
theorem survives_obj (members : List (String × Json)) : Survives (.obj members) := trivial

@[simp]
theorem survives_integer (i : Int) (word : IsWord i) : Survives (.num (.integer i word)) := trivial

/-- Every real number in a value survives being printed and read. -/
def RealsSurvive : Json → Prop := Every Survives

theorem survives_num_iff {n : Number} : Survives (.num n) ↔ n.reread = some n := by
  cases n with
  | integer i word => simp [Number.reread_integer]
  | real x finite => rw [Survives, Number.reread_eq_some_iff]

/-- One half, which survives: its literal is `0.5`. -/
def half : Number := .real (.ranked false ⟨0x3FE0000000000000, by decide⟩) (by decide)

theorem survives_half : Survives (.num half) := by
  rw [survives_num_iff]
  decide +kernel

theorem insert_append {key : String} {value : Json} {members : List (String × Json)}
    (h : ∀ m ∈ members, m.1 < key) : insert key value members = members ++ [(key, value)] := by
  induction members with
  | nil => rfl
  | cons m rest ih =>
    obtain ⟨k, v⟩ := m
    obtain ⟨hfirst, hrest⟩ := List.forall_mem_cons.mp h
    have hnot : ¬ key < k := fun hlt => lt_asymm hlt hfirst
    have hne : key ≠ k := fun heq => (ne_of_lt hfirst) heq.symm
    rw [insert, if_neg hnot, if_neg hne, ih hrest, List.cons_append]

theorem insertAll_of_ascending {acc members : List (String × Json)}
    (h : Ascending (acc ++ members)) : insertAll acc members = acc ++ members := by
  induction members generalizing acc with
  | nil => simp [insertAll]
  | cons m rest ih =>
    obtain ⟨k, v⟩ := m
    have hbefore : ∀ n ∈ acc, n.1 < k := fun n hn =>
      (List.pairwise_append.mp h).2.2 n hn (k, v) List.mem_cons_self
    have hnext : insertAll acc ((k, v) :: rest) = insertAll (acc ++ [(k, v)]) rest := by
      rw [← insert_append hbefore]
      rfl
    rw [hnext, ih (by simpa using h)]
    simp

theorem ofMembers_of_ascending {members : List (String × Json)} (h : Ascending members) :
    ofMembers members = .obj members := by
  have hall : insertAll [] members = [] ++ members := insertAll_of_ascending h
  exact congrArg Json.obj hall

theorem rereadItems_eq_self_iff {depth : Nat} {items : List Json} :
    rereadItems depth items = some items ↔ ∀ v ∈ items, reread depth v = some v := by
  induction items with
  | nil => simp [rereadItems]
  | cons v vs ih =>
    rw [rereadItems, List.forall_mem_cons, ← ih]
    simp only [Option.bind_eq_some_iff, Option.map_eq_some_iff, List.cons.injEq]
    constructor
    · rintro ⟨w, hw, ws, hws, rfl, rfl⟩
      exact ⟨hw, hws⟩
    · rintro ⟨hv, hvs⟩
      exact ⟨v, hv, vs, hvs, rfl, rfl⟩

theorem rereadMembers_eq_self_iff {depth : Nat} {members : List (String × Json)} :
    rereadMembers depth members = some members ↔ ∀ m ∈ members, reread depth m.2 = some m.2 := by
  induction members with
  | nil => simp [rereadMembers]
  | cons m ms ih =>
    obtain ⟨k, v⟩ := m
    rw [rereadMembers, List.forall_mem_cons, ← ih]
    simp only [Option.bind_eq_some_iff, Option.map_eq_some_iff, List.cons.injEq, Prod.mk.injEq,
      true_and]
    constructor
    · rintro ⟨w, hw, ws, hws, rfl, rfl⟩
      exact ⟨hw, hws⟩
    · rintro ⟨hv, hms⟩
      exact ⟨v, hv, ms, hms, rfl, rfl⟩

theorem keys_rereadMembers {depth : Nat} {members others : List (String × Json)}
    (h : rereadMembers depth members = some others) :
    others.map Prod.fst = members.map Prod.fst := by
  induction members generalizing others with
  | nil =>
    rw [rereadMembers] at h
    cases h
    rfl
  | cons m ms ih =>
    obtain ⟨k, v⟩ := m
    rw [rereadMembers] at h
    obtain ⟨w, -, hrest⟩ := Option.bind_eq_some_iff.mp h
    obtain ⟨ws, hws, rfl⟩ := Option.map_eq_some_iff.mp hrest
    rw [List.map_cons, List.map_cons, ih hws]

theorem ascending_iff {members : List (String × Json)} :
    Ascending members ↔ (members.map Prod.fst).Pairwise (· < ·) := List.pairwise_map.symm

theorem reread_obj_eq_self_iff {depth : Nat} {members : List (String × Json)}
    (h : Ascending members) :
    reread (depth + 1) (.obj members) = some (.obj members) ↔
      ∀ m ∈ members, reread depth m.2 = some m.2 := by
  rw [reread, ← rereadMembers_eq_self_iff, Option.map_eq_some_iff]
  constructor
  · rintro ⟨others, hothers, heq⟩
    -- rereading keeps the keys, so setting the members one by one changes nothing
    have hasc : Ascending others := by
      rw [ascending_iff, keys_rereadMembers hothers]
      exact ascending_iff.mp h
    rw [ofMembers_of_ascending hasc] at heq
    cases heq
    exact hothers
  · exact fun hself => ⟨members, hself, ofMembers_of_ascending h⟩

theorem reread_eq_self_iff {v : Json} (h : Ordered v) {depth : Nat} :
    reread depth v = some v ↔ v.depth ≤ depth ∧ RealsSurvive v := by
  unfold RealsSurvive
  induction v generalizing depth with
  | null => simp [reread, Json.depth]
  | bool b => simp [reread, Json.depth]
  | str s => simp [reread, Json.depth]
  | num n =>
    rw [reread, every_num, survives_num_iff, Option.map_eq_some_iff]
    simp [Json.depth]
  | arr items ih =>
    rw [Ordered, orderedItems_iff] at h
    cases depth with
    | zero => simp [reread, Json.depth]
    | succ depth =>
      rw [reread, Option.map_eq_some_iff, depth_arr_le_iff, every_arr_iff]
      simp only [Json.arr.injEq, exists_eq_right, rereadItems_eq_self_iff]
      -- an item has one level less, and comes back if the whole array does
      have hitem : ∀ v ∈ items, reread depth v = some v ↔ v.depth ≤ depth ∧ Every Survives v :=
        fun v hv => ih v hv (h v hv)
      rw [forall₂_congr hitem]
      simp only [survives_arr, true_and, forall_and]
  | obj members ih =>
    rw [Ordered, orderedMembers_iff] at h
    cases depth with
    | zero => simp [reread, Json.depth]
    | succ depth =>
      rw [reread_obj_eq_self_iff h.1, depth_obj_le_iff, every_obj_iff]
      have hmember : ∀ m ∈ members,
          reread depth m.2 = some m.2 ↔ m.2.depth ≤ depth ∧ Every Survives m.2 :=
        fun m hm => ih m hm (h.2 m hm)
      rw [forall₂_congr hmember]
      simp only [survives_obj, true_and, forall_and]

end Json

end Switchyard
