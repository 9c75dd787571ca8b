import Switchyard.Configuration.Basic
import Switchyard.Proofs.Json.Spelling

/-! Names of operators, combinations and modes. They are parsed from strings that are given
by hand and decoded from strings in documents, and the two accept the same ones but for
combinations, whose names may be in any case by hand and not in documents. -/

namespace Switchyard

namespace Json.Reader

variable {fuel depth : Nat} {cs rest : List Char} {s : String}

theorem valueWith_eq_ok_str (h : valueWith fuel depth cs = .ok (.str s, rest)) :
    ∃ body, skipBlanks cs = '"' :: body ∧ string body = .ok (s, rest) := by
  have hconstant {v : Json} {r : Result (List Char)} (hv : v ≠ .str s)
      (hok : constant v r = .ok (.str s, rest)) : False :=
    hv (yields_constant (p := fun w => v = w) rfl r _ _ hok)
  have hnumber {r : Result (Number × List Char)}
      (hok : mapValue Json.num r = .ok (.str s, rest)) : False := by
    obtain ⟨n, -, hn⟩ := mapValue_eq_ok hok
    cases hn
  cases fuel with
  | zero => cases h
  | succ fuel =>
    unfold valueWith at h
    split at h
    · cases h
    · exact (hconstant (fun heq => by cases heq) h).elim
    · exact (hconstant (fun heq => by cases heq) h).elim
    · exact (hconstant (fun heq => by cases heq) h).elim
    · exact (hnumber h).elim
    · next body heq =>
      obtain ⟨s', hs', ⟨⟩⟩ := mapValue_eq_ok h
      exact ⟨body, heq, hs'⟩
    · split at h
      · cases h
      · obtain ⟨items, hitems⟩ := yields_arr _ _ h
        cases hitems
    · split at h
      · cases h
      · obtain ⟨members, hmembers⟩ := yields_obj _ _ h
        cases hmembers
    · split at h
      · exact (hnumber h).elim
      · cases h

end Json.Reader

namespace Decoder

open Json.Reader

variable {α : Type}

/-- The strings that a decoder accepts, as values and in texts, and what it gives for them. -/
structure TakesNames (d : Decoder α) (Named : String → α → Prop) : Prop where
  inline : ∀ s a, d.inline (.str s) = .ok a ↔ Named s a
  text : ∀ t s a, Json.read t = .ok (.str s) → (d.ofText t = .ok a ↔ Named s a)

variable {names : List (String × α)}

theorem ofName_eq_ok_iff {s : String} {a : α} :
    variant.ofName names s = .ok a ↔ names.lookup s = some a := by
  unfold variant.ofName
  split
  · next heq => rw [heq, Except.ok.injEq, Option.some.injEq]
  · next heq => rw [heq]; simp

theorem ofText_variant {t s : String} (h : Json.read t = .ok (.str s)) {a : α} :
    (variant names).ofText t = .ok a ↔ variant.ofName names s = .ok a := by
  obtain ⟨rest, hvalue, hblank⟩ := exists_of_run_eq_ok h
  obtain ⟨body, hquote, hstring⟩ := valueWith_eq_ok_str hvalue
  rw [ofText, run]
  simp only [variant, hquote, hstring]
  cases variant.ofName names s with
  | ok b => simp [atEnd, hblank]
  | error m => simp [atEnd, mismatch]

theorem takesNames_variant {Named : String → α → Prop}
    (h : ∀ s a, names.lookup s = some a ↔ Named s a) : (variant names).TakesNames Named where
  inline s a := ofName_eq_ok_iff.trans (h s a)
  text t s a hread := by rw [ofText_variant hread, ofName_eq_ok_iff, h]

end Decoder

theorem lookup_map_eq_find? {α : Type} (name : α → String) (s : String) (as : List α) :
    (as.map fun a => (name a, a)).lookup s = as.find? (name · = s) := by
  induction as with
  | nil => rfl
  | cons a rest ih =>
    rw [List.map_cons, List.lookup_cons, ih, List.find?_cons]
    by_cases h : name a = s
    · simp [h]
    · have hne : (s == name a) = false := beq_eq_false_iff_ne.mpr (Ne.symm h)
      simp [h, hne]

theorem Operator.takesNames :
    Operator.decoder.TakesNames fun s op => Operator.ofName? s = some op := by
  apply Decoder.takesNames_variant
  intro s op
  rw [lookup_map_eq_find?, Operator.ofName?]

theorem Mode.takesNames : Mode.decoder.TakesNames fun s mode => Mode.ofName? s = some mode := by
  apply Decoder.takesNames_variant
  intro s mode
  have hlookup : [("rules", Mode.rules), ("expression", Mode.expression)].lookup s = Mode.ofName? s := by
    rw [Mode.ofName?]
    by_cases hrules : s = "rules"
    · rw [hrules]
      rfl
    · have hother : (s == "rules") = false := beq_eq_false_iff_ne.mpr hrules
      by_cases hexpression : s = "expression"
      · rw [hexpression]
        rfl
      · have hlast : (s == "expression") = false := beq_eq_false_iff_ne.mpr hexpression
        simp [List.lookup_cons, hrules, hexpression, hother, hlast]
  rw [hlookup]

namespace Combination

def spellings : Combination → List String
  | all => ["and", "AND"]
  | any => ["or", "OR"]

theorem ofName?_eq_some_iff {s : String} {a : Combination} :
    ofName? s = some a ↔ s.toList.map Char.toLower = a.name.toList := by
  have hne : "and".toList ≠ "or".toList := by decide
  unfold ofName?
  dsimp only
  cases a with
  | all =>
    change _ ↔ s.toList.map Char.toLower = "and".toList
    split_ifs with hand hor
    · exact iff_of_true rfl hand
    · exact iff_of_false nofun hand
    · exact iff_of_false nofun hand
  | any =>
    change _ ↔ s.toList.map Char.toLower = "or".toList
    split_ifs with hand hor
    · exact iff_of_false nofun fun hor => hne (hand.symm.trans hor)
    · exact iff_of_true rfl hor
    · exact iff_of_false nofun hor

theorem takesNames :
    Combination.decoder.TakesNames fun s a => ofName? s = some a ∧ s ∈ a.spellings := by
  apply Decoder.takesNames_variant
  intro s a
  constructor
  · intro h
    obtain ⟨front, back, hnames, -⟩ := List.lookup_eq_some_iff.mp h
    have hmem : (s, a) ∈ [("AND", all), ("and", all), ("OR", any), ("or", any)] := by
      rw [hnames]
      exact List.mem_append_right front List.mem_cons_self
    simp only [List.mem_cons, Prod.mk.injEq, List.not_mem_nil, or_false] at hmem
    rcases hmem with ⟨rfl, rfl⟩ | ⟨rfl, rfl⟩ | ⟨rfl, rfl⟩ | ⟨rfl, rfl⟩ <;> decide
  · rintro ⟨-, hspelling⟩
    cases a with
    | all =>
      simp only [spellings, List.mem_cons, List.not_mem_nil, or_false] at hspelling
      rcases hspelling with rfl | rfl <;> rfl
    | any =>
      simp only [spellings, List.mem_cons, List.not_mem_nil, or_false] at hspelling
      rcases hspelling with rfl | rfl <;> rfl

end Combination

/-- A type whose displayed names are parsed and decoded as what they are displayed for. -/
structure Decoder.TakesDisplayed {α : Type} (d : Decoder α) (ofName? : String → Option α)
    (name : α → String) : Prop where
  parsed : ∀ a, ofName? (name a) = some a
  inline : ∀ a, d.inline (.str (name a)) = .ok a
  text : ∀ t a, Json.read t = .ok (.str (name a)) → d.ofText t = .ok a

theorem Decoder.TakesNames.takesDisplayed {α : Type} {d : Decoder α} {ofName? : String → Option α}
    {Named : String → α → Prop} (h : d.TakesNames Named) {name : α → String}
    (hparsed : ∀ a, ofName? (name a) = some a) (hnamed : ∀ a, Named (name a) a) :
    d.TakesDisplayed ofName? name where
  parsed := hparsed
  inline a := (h.inline _ _).mpr (hnamed a)
  text t a hread := (h.text t _ _ hread).mpr (hnamed a)

/-- Operators and modes are decoded from the strings that they are parsed from. Combinations
are parsed from names in any case and decoded from two spellings of each. Displayed names come
back both ways. -/
theorem names_parsed_and_decoded :
    Operator.decoder.TakesNames (fun s op => Operator.ofName? s = some op) ∧
    Mode.decoder.TakesNames (fun s mode => Mode.ofName? s = some mode) ∧
    Combination.decoder.TakesNames (fun s a => Combination.ofName? s = some a ∧ s ∈ a.spellings) ∧
    (∀ s a, Combination.ofName? s = some a ↔ s.toList.map Char.toLower = a.name.toList) ∧
    Operator.decoder.TakesDisplayed Operator.ofName? Operator.name ∧
    Mode.decoder.TakesDisplayed Mode.ofName? Mode.name ∧
    Combination.decoder.TakesDisplayed Combination.ofName? Combination.name := by
  have hmode (mode : Mode) : Mode.ofName? mode.name = some mode := by cases mode <;> decide
  have hcombination (a : Combination) : Combination.ofName? a.name = some a := by cases a <;> decide
  have hspelling (a : Combination) : a.name ∈ a.spellings := by cases a <;> decide
  refine ⟨Operator.takesNames, Mode.takesNames, Combination.takesNames,
    fun _ _ => Combination.ofName?_eq_some_iff, ?_, ?_, ?_⟩
  · exact Operator.takesNames.takesDisplayed Operator.ofName?_name Operator.ofName?_name
  · exact Mode.takesNames.takesDisplayed hmode hmode
  · exact Combination.takesNames.takesDisplayed hcombination fun a => ⟨hcombination a, hspelling a⟩

theorem not_decoded_as_parsed :
    Combination.ofName? "And" = some .all ∧ Json.read "\"And\"" = .ok (.str "And") ∧
      ∀ a, Combination.decoder.inline (.str "And") ≠ .ok a ∧
        Combination.decoder.ofText "\"And\"" ≠ .ok a := by
  refine ⟨by decide, by decide +kernel, fun a => ⟨?_, ?_⟩⟩
  · cases a <;> decide +kernel
  · cases a <;> decide +kernel

end Switchyard
