import Mathlib.Data.List.Induction
import Switchyard.Steps

/-! What a run of steps builds. Every field is settled by its own steps: by the last
one that sets it, and for a list by the last one that replaces it together with all
that are added after that. -/

namespace Switchyard

section Runs

open Classical

variable {σ α : Type}

inductive Latest (set : α → σ) : List σ → Option α → Prop
  | never {steps : List σ} (hset : ∀ a, set a ∉ steps) : Latest set steps none
  | last {before : List σ} {a : α} {after : List σ} (hset : ∀ b, set b ∉ after) :
    Latest set (before ++ set a :: after) (some a)

def Adds (add : α → σ) (steps : List σ) (items : List α) : Prop :=
  (steps.filter fun s => ∃ a, add a = s) = items.map add

/-- What steps make of a list that one kind replaces and another adds to. It stays absent
without such steps, and adding to an absent list starts it. -/
inductive Collects (replace : List α → σ) (add : α → σ) : List σ → Option (List α) → Prop
  | untouched {steps : List σ} (hreplace : ∀ l, replace l ∉ steps) (hadd : ∀ a, add a ∉ steps) :
    Collects replace add steps none
  | started {steps : List σ} {items : List α} (hreplace : ∀ l, replace l ∉ steps)
    (hadd : ∃ a, add a ∈ steps) (hitems : Adds add steps items) :
    Collects replace add steps (some items)
  | replaced {before : List σ} {base : List α} {after : List σ} {items : List α}
    (hreplace : ∀ l, replace l ∉ after) (hitems : Adds add after items) :
    Collects replace add (before ++ replace base :: after) (some (base ++ items))

variable {set : α → σ} {replace : List α → σ} {add : α → σ} {steps : List σ} {s : σ}

theorem not_mem_snoc {β : Type} {kind : β → σ} (h : ∀ b, kind b ∉ steps) (hs : ∀ b, kind b ≠ s) :
    ∀ b, kind b ∉ steps ++ [s] := by
  intro b hb
  rcases List.mem_append.mp hb with hb | hb
  · exact h b hb
  · exact hs b (List.mem_singleton.mp hb)

theorem Latest.snoc_set {a : α} : Latest set (steps ++ [set a]) (some a) :=
  .last fun _ => List.not_mem_nil

theorem Latest.snoc {latest : Option α} (h : Latest set steps latest)
    (hs : ∀ a, set a ≠ s := by simp) : Latest set (steps ++ [s]) latest := by
  cases h with
  | never hset => exact .never (not_mem_snoc hset hs)
  | last hset =>
    rw [List.append_assoc, List.cons_append]
    exact .last (not_mem_snoc hset hs)

theorem Latest.eq_none_iff {φ : Type} {field : σ → φ} {f : φ} {latest : Option α}
    (h : Latest set steps latest) (hfield : ∀ s, field s = f ↔ ∃ a, set a = s) :
    latest = none ↔ ∀ s ∈ steps, field s ≠ f := by
  cases h with
  | never hset =>
    refine iff_of_true rfl fun s hs hf => ?_
    obtain ⟨a, rfl⟩ := (hfield s).mp hf
    exact hset a hs
  | @last before a after _ =>
    refine iff_of_false (Option.some_ne_none a) fun hnone => ?_
    exact hnone (set a) (List.mem_append_right _ List.mem_cons_self) ((hfield _).mpr ⟨a, rfl⟩)

theorem adds_nil : Adds add [] [] := rfl

theorem adds_of_not_mem (h : ∀ a, add a ∉ steps) : Adds add steps [] := by
  rw [Adds, List.map_nil, List.filter_eq_nil_iff]
  intro s hs hadd
  obtain ⟨a, rfl⟩ := of_decide_eq_true hadd
  exact h a hs

theorem Adds.snoc_add {items : List α} (h : Adds add steps items) (a : α) :
    Adds add (steps ++ [add a]) (items ++ [a]) := by
  rw [Adds, List.filter_append, h, List.map_append]
  simp

theorem Adds.snoc {items : List α} (h : Adds add steps items) (hs : ∀ a, add a ≠ s) :
    Adds add (steps ++ [s]) items := by
  rw [Adds, List.filter_append, h]
  simp [hs]

theorem Collects.snoc_replace {base : List α} :
    Collects replace add (steps ++ [replace base]) (some base) := by
  have h : Collects replace add (steps ++ [replace base]) (some (base ++ [])) :=
    .replaced (fun _ => List.not_mem_nil) adds_nil
  rwa [List.append_nil] at h

theorem Collects.snoc_add {list : Option (List α)} {a : α} (h : Collects replace add steps list)
    (hkinds : ∀ l, replace l ≠ add a := by simp) :
    Collects replace add (steps ++ [add a]) (some (list.getD [] ++ [a])) := by
  have hmem : ∃ b, add b ∈ steps ++ [add a] := ⟨a, List.mem_append_right _ List.mem_cons_self⟩
  cases h with
  | untouched hreplace hadd =>
    exact .started (not_mem_snoc hreplace hkinds) hmem ((adds_of_not_mem hadd).snoc_add a)
  | started hreplace _ hitems =>
    exact .started (not_mem_snoc hreplace hkinds) hmem (hitems.snoc_add a)
  | replaced hreplace hitems =>
    rw [Option.getD_some, List.append_assoc, List.append_assoc, List.cons_append]
    exact .replaced (not_mem_snoc hreplace hkinds) (hitems.snoc_add a)

theorem Collects.snoc {list : Option (List α)} (h : Collects replace add steps list)
    (hreplaces : ∀ l, replace l ≠ s := by simp) (hadds : ∀ a, add a ≠ s := by simp) :
    Collects replace add (steps ++ [s]) list := by
  cases h with
  | untouched hreplace hadd =>
    exact .untouched (not_mem_snoc hreplace hreplaces) (not_mem_snoc hadd hadds)
  | started hreplace hadd hitems =>
    obtain ⟨a, ha⟩ := hadd
    exact .started (not_mem_snoc hreplace hreplaces) ⟨a, List.mem_append_left _ ha⟩
      (hitems.snoc hadds)
  | replaced hreplace hitems =>
    rw [List.append_assoc, List.cons_append]
    exact .replaced (not_mem_snoc hreplace hreplaces) (hitems.snoc hadds)

theorem foldl_of_snoc {ρ : Type} {P : List σ → ρ → Prop} {apply : ρ → σ → ρ} {start : ρ}
    (hnil : P [] start) (hsnoc : ∀ steps b s, P steps b → P (steps ++ [s]) (apply b s))
    (steps : List σ) : P steps (steps.foldl apply start) := by
  induction steps using List.reverseRecOn with
  | nil => exact hnil
  | append_singleton steps s ih =>
    rw [List.foldl_append]
    exact hsnoc steps _ s ih

end Runs

section Assembly

variable {σ τ φ : Type} [DecidableEq φ] {field : σ → φ} {required : φ} {name : String}
  {Assembles : List σ → τ → Prop}

/-- Building from steps fails just when the steps of a required field are missing, it
gives what is assembled from the steps otherwise, and it does not depend on how the steps
of one field are mixed with those of others. -/
structure Assembly (build : List σ → Except Incomplete τ) (field : σ → φ)
    (Assembles : List σ → τ → Prop) (required : φ) (name : String) : Prop where
  fails_iff : ∀ steps, build steps = .error ⟨name⟩ ↔ ∀ s ∈ steps, field s ≠ required
  assembles : ∀ steps, (∃ s ∈ steps, field s = required) →
    ∃ t, build steps = .ok t ∧ Assembles steps t
  determined : ∀ steps others,
    (∀ f, steps.filter (field · = f) = others.filter (field · = f)) → build steps = build others

theorem assembly_of_finish {ρ α : Type} (run : List σ → ρ) (finish : ρ → Except Incomplete τ)
    {get : ρ → Option α} {set : α → σ} (hfield : ∀ s, field s = required ↔ ∃ a, set a = s)
    (hget : ∀ steps, Latest set steps (get (run steps)))
    (hnone : ∀ b, get b = none → finish b = .error ⟨name⟩)
    (hsome : ∀ steps a, get (run steps) = some a →
      ∃ t, finish (run steps) = .ok t ∧ Assembles steps t)
    (hrun : ∀ steps others, (∀ f, steps.filter (field · = f) = others.filter (field · = f)) →
      run steps = run others) :
    Assembly (fun steps => finish (run steps)) field Assembles required name where
  fails_iff steps := by
    rw [← (hget steps).eq_none_iff hfield]
    refine ⟨fun hfails => ?_, hnone _⟩
    by_contra hset
    obtain ⟨a, ha⟩ := Option.ne_none_iff_exists'.mp hset
    obtain ⟨t, ht, -⟩ := hsome steps a ha
    rw [ht] at hfails
    cases hfails
  assembles steps := by
    rintro ⟨s, hs, hf⟩
    have hset : get (run steps) ≠ none := fun hunset =>
      ((hget steps).eq_none_iff hfield).mp hunset s hs hf
    obtain ⟨a, ha⟩ := Option.ne_none_iff_exists'.mp hset
    exact hsome steps a ha
  determined steps others h := by rw [hrun steps others h]

end Assembly

namespace Configuration

inductive Field where
  | mode
  | valueToMatch
  | rules
  | routes
  | fallbackOutput
  | allowMultipleMatches
deriving DecidableEq

def Step.field : Step → Field
  | .withMode _ => .mode
  | .withValueToMatch _ => .valueToMatch
  | .withRules _ => .rules
  | .withRoutes _ => .routes
  | .withFallbackOutput _ => .fallbackOutput
  | .withAllowMultipleMatches _ => .allowMultipleMatches
  | .addRule _ => .rules
  | .addRoute _ => .routes

structure Assembles (steps : List Step) (c : Configuration) : Prop where
  mode : Latest .withMode steps (some c.mode)
  valueToMatch : Latest .withValueToMatch steps c.valueToMatch
  rules : Collects .withRules .addRule steps c.rules
  routes : Collects .withRoutes .addRoute steps c.routes
  fallbackOutput : ∃ latest,
    Latest .withFallbackOutput steps latest ∧ c.fallbackOutput = latest.getD (-1)
  allowMultipleMatches : ∃ latest,
    Latest .withAllowMultipleMatches steps latest ∧ c.allowMultipleMatches = latest.getD false

namespace Builder

structure Reflects (steps : List Step) (b : Builder) : Prop where
  mode : Latest .withMode steps b.mode
  valueToMatch : Latest .withValueToMatch steps (b.valueToMatch.getD none)
  rules : Collects .withRules .addRule steps (b.rules.getD none)
  routes : Collects .withRoutes .addRoute steps (b.routes.getD none)
  fallbackOutput : Latest .withFallbackOutput steps b.fallbackOutput
  allowMultipleMatches : Latest .withAllowMultipleMatches steps b.allowMultipleMatches

variable {steps : List Step} {b : Builder}

theorem reflects_nil : Reflects [] {} := by
  constructor <;> constructor <;> exact fun _ => List.not_mem_nil

theorem Reflects.snoc (h : Reflects steps b) (s : Step) : Reflects (steps ++ [s]) (b.apply s) := by
  obtain ⟨hmode, hvalue, hrules, hroutes, hfallback, hallow⟩ := h
  cases s with
  | withMode mode =>
    exact ⟨.snoc_set, hvalue.snoc, hrules.snoc, hroutes.snoc, hfallback.snoc, hallow.snoc⟩
  | withValueToMatch value =>
    exact ⟨hmode.snoc, .snoc_set, hrules.snoc, hroutes.snoc, hfallback.snoc, hallow.snoc⟩
  | withRules rules =>
    exact ⟨hmode.snoc, hvalue.snoc, .snoc_replace, hroutes.snoc, hfallback.snoc, hallow.snoc⟩
  | withRoutes routes =>
    exact ⟨hmode.snoc, hvalue.snoc, hrules.snoc, .snoc_replace, hfallback.snoc, hallow.snoc⟩
  | withFallbackOutput value =>
    exact ⟨hmode.snoc, hvalue.snoc, hrules.snoc, hroutes.snoc, .snoc_set, hallow.snoc⟩
  | withAllowMultipleMatches allow =>
    exact ⟨hmode.snoc, hvalue.snoc, hrules.snoc, hroutes.snoc, hfallback.snoc, .snoc_set⟩
  | addRule rule =>
    exact ⟨hmode.snoc, hvalue.snoc, hrules.snoc_add, hroutes.snoc, hfallback.snoc, hallow.snoc⟩
  | addRoute route =>
    exact ⟨hmode.snoc, hvalue.snoc, hrules.snoc, hroutes.snoc_add, hfallback.snoc, hallow.snoc⟩

theorem reflects_foldl (steps : List Step) : Reflects steps (steps.foldl apply {}) :=
  foldl_of_snoc reflects_nil (fun _ _ s h => h.snoc s) steps

theorem Reflects.assembles {mode : Mode} (h : Reflects steps b) (hmode : b.mode = some mode) :
    ∃ c, b.finish = .ok c ∧ Assembles steps c := by
  rw [finish, hmode]
  exact ⟨_, rfl, hmode ▸ h.mode, h.valueToMatch, h.rules, h.routes, ⟨_, h.fallbackOutput, rfl⟩,
    ⟨_, h.allowMultipleMatches, rfl⟩⟩

theorem foldl_eq (steps : List Step) :
    let part (f : Field) : Builder := (steps.filter (·.field = f)).foldl apply {}
    steps.foldl apply {} =
      ⟨(part .mode).mode, (part .valueToMatch).valueToMatch, (part .rules).rules,
        (part .routes).routes, (part .fallbackOutput).fallbackOutput,
        (part .allowMultipleMatches).allowMultipleMatches⟩ := by
  intro part
  -- from the end: the last step changes one field, and stays in the part of that field
  induction steps using List.reverseRecOn with
  | nil => rfl
  | append_singleton steps s ih =>
    simp only [part, List.filter_append, List.foldl_append, List.foldl_cons, List.foldl_nil] at ih ⊢
    rw [ih]
    cases s <;> rfl

end Builder

theorem Step.field_eq_mode_iff (s : Step) : s.field = .mode ↔ ∃ mode, Step.withMode mode = s := by
  cases s <;> simp [field]

theorem assembly_build : Assembly build Step.field Assembles .mode "mode" := by
  refine assembly_of_finish (List.foldl Builder.apply {}) Builder.finish Step.field_eq_mode_iff
    (fun steps => (Builder.reflects_foldl steps).mode) (fun b hmode => ?_)
    (fun steps _ => (Builder.reflects_foldl steps).assembles) fun steps others h => ?_
  · rw [Builder.finish, hmode]
  · rw [Builder.foldl_eq, Builder.foldl_eq others]
    simp only [h]

end Configuration

namespace Rule

inductive Field where
  | conditions
  | combination
  | outputIndex
  | name
deriving DecidableEq

def Step.field : Step → Field
  | .withConditions _ => .conditions
  | .withCombination _ => .combination
  | .withOutputIndex _ => .outputIndex
  | .withName _ => .name
  | .addCondition _ => .conditions

structure Assembles (steps : List Step) (r : Rule) : Prop where
  conditions : ∃ list, Collects .withConditions .addCondition steps list ∧ r.conditions = list.getD []
  combination : ∃ latest, Latest .withCombination steps latest ∧ r.combination = latest.getD .all
  outputIndex : Latest .withOutputIndex steps (some r.outputIndex)
  name : Latest .withName steps r.name

namespace Builder

structure Reflects (steps : List Step) (b : Builder) : Prop where
  conditions : Collects .withConditions .addCondition steps b.conditions
  combination : Latest .withCombination steps b.combination
  outputIndex : Latest .withOutputIndex steps b.outputIndex
  name : Latest .withName steps (b.name.getD none)

variable {steps : List Step} {b : Builder}

theorem reflects_nil : Reflects [] {} := by
  constructor <;> constructor <;> exact fun _ => List.not_mem_nil

theorem Reflects.snoc (h : Reflects steps b) (s : Step) : Reflects (steps ++ [s]) (b.apply s) := by
  obtain ⟨hconditions, hcombination, houtput, hname⟩ := h
  cases s with
  | withConditions conditions =>
    exact ⟨.snoc_replace, hcombination.snoc, houtput.snoc, hname.snoc⟩
  | withCombination combination =>
    exact ⟨hconditions.snoc, .snoc_set, houtput.snoc, hname.snoc⟩
  | withOutputIndex index => exact ⟨hconditions.snoc, hcombination.snoc, .snoc_set, hname.snoc⟩
  | withName name => exact ⟨hconditions.snoc, hcombination.snoc, houtput.snoc, .snoc_set⟩
  | addCondition condition =>
    exact ⟨hconditions.snoc_add, hcombination.snoc, houtput.snoc, hname.snoc⟩

theorem reflects_foldl (steps : List Step) : Reflects steps (steps.foldl apply {}) :=
  foldl_of_snoc reflects_nil (fun _ _ s h => h.snoc s) steps

theorem Reflects.assembles {index : UInt64} (h : Reflects steps b)
    (hindex : b.outputIndex = some index) : ∃ r, b.finish = .ok r ∧ Assembles steps r := by
  rw [finish, hindex]
  exact ⟨_, rfl, ⟨_, h.conditions, rfl⟩, ⟨_, h.combination, rfl⟩, hindex ▸ h.outputIndex, h.name⟩

theorem foldl_eq (steps : List Step) :
    let part (f : Field) : Builder := (steps.filter (·.field = f)).foldl apply {}
    steps.foldl apply {} =
      ⟨(part .conditions).conditions, (part .combination).combination,
        (part .outputIndex).outputIndex, (part .name).name⟩ := by
  intro part
  induction steps using List.reverseRecOn with
  | nil => rfl
  | append_singleton steps s ih =>
    simp only [part, List.filter_append, List.foldl_append, List.foldl_cons, List.foldl_nil] at ih ⊢
    rw [ih]
    cases s <;> rfl

end Builder

theorem Step.field_eq_outputIndex_iff (s : Step) :
    s.field = .outputIndex ↔ ∃ index, Step.withOutputIndex index = s := by
  cases s <;> simp [field]

theorem assembly_build : Assembly build Step.field Assembles .outputIndex "output_index" := by
  refine assembly_of_finish (List.foldl Builder.apply {}) Builder.finish Step.field_eq_outputIndex_iff
    (fun steps => (Builder.reflects_foldl steps).outputIndex) (fun b hindex => ?_)
    (fun steps _ => (Builder.reflects_foldl steps).assembles) fun steps others h => ?_
  · rw [Builder.finish, hindex]
  · rw [Builder.foldl_eq, Builder.foldl_eq others]
    simp only [h]

end Rule

/-- Configurations and rules are built from any steps in which the mode or the output
index is set: every other field has what its last steps say, or its default. -/
theorem build_assembles :
    Assembly Configuration.build Configuration.Step.field Configuration.Assembles .mode "mode" ∧
      Assembly Rule.build Rule.Step.field Rule.Assembles .outputIndex "output_index" :=
  ⟨Configuration.assembly_build, Rule.assembly_build⟩

/-- Rules that were added before others replaced them are gone. -/
example (r s t : Rule) :
    Configuration.build [.addRule r, .withRules [s], .withMode .rules, .addRule t] =
      .ok (Configuration.ofRules [s, t]) := rfl

end Switchyard
