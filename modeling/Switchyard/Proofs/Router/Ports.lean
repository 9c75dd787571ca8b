import Mathlib.Data.List.Nodup
import Switchyard.Proofs.Json.Literal
import Switchyard.Proofs.Router.Branches
import Switchyard.Proofs.Trimming

/-! Ports and routers agree: each branch that a router tries has a port of its own, at
its position, and so has the fallback. -/

namespace Switchyard

namespace Port

/-- What a branch is labelled with: its name without the blanks around it, or its output
if there is no more to the name than blanks, or no name at all. -/
inductive Labels (outputIndex : UInt64) : Option String → String → Prop
  | name {before label after : String} (hbefore : Text.Blank before) (hafter : Text.Blank after)
    (hlabel : Text.Trimmed label) (hne : label ≠ "") :
    Labels outputIndex (some (before ++ label ++ after)) label
  | blank {name : String} (hname : Text.Blank name) :
    Labels outputIndex (some name) ("Output " ++ toString outputIndex.toNat)
  | unnamed : Labels outputIndex none ("Output " ++ toString outputIndex.toNat)

structure Shows (p : Port) (position : Nat) (name : Option String) (outputIndex : UInt64) :
    Prop where
  id : p.id = "route" ++ toString position
  label : Labels outputIndex name p.label

theorem labels_labelOf (name : Option String) (outputIndex : UInt64) :
    Labels outputIndex name (labelOf name outputIndex) := by
  unfold labelOf
  cases name with
  | none => exact .unnamed
  | some s =>
    rw [Option.map_some]
    dsimp only
    split
    · next hempty => exact .blank (Text.blank_of_trim_eq_empty hempty)
    · next hne =>
      obtain ⟨before, after, hs, hbefore, hafter⟩ := Text.exists_eq_trim s
      have hlabel : Labels outputIndex (some (before ++ Text.trim s ++ after)) (Text.trim s) :=
        .name hbefore hafter (Text.trimmed_trim s) hne
      rwa [← hs] at hlabel

theorem trimmed_output (n : Nat) : Text.Trimmed ("Output " ++ toString n) := by
  have hdigits : (toString n).toList = Digits.ofNat n := Nat.toList_repr
  constructor <;> intro c hc <;> rw [String.toList_append, hdigits] at hc
  · obtain rfl : 'O' = c := Option.some.inj hc
    decide
  · rw [List.getLast?_append_of_ne_nil _ (Digits.ofNat_ne_nil n)] at hc
    exact Text.isBlank_of_isDigit (Digits.all_ofNat n c (List.mem_of_getLast? hc))

theorem trimmed_fallback : Text.Trimmed ofFallback.label := by
  constructor <;> intro c hc
  · obtain rfl : 'F' = c := Option.some.inj hc
    decide
  · obtain rfl : 'k' = c := Option.some.inj hc
    decide

theorem Labels.presentable {outputIndex : UInt64} {name : Option String} {label : String}
    (h : Labels outputIndex name label) : label ≠ "" ∧ Text.Trimmed label := by
  have houtput : "Output " ++ toString outputIndex.toNat ≠ "" := fun hempty => by
    have hchars := congrArg String.toList hempty
    rw [String.toList_append] at hchars
    cases hchars
  cases h with
  | name _ _ hlabel hne => exact ⟨hne, hlabel⟩
  | blank _ => exact ⟨houtput, trimmed_output _⟩
  | unnamed => exact ⟨houtput, trimmed_output _⟩

end Port

namespace Configuration

variable {c : Configuration}

theorem getElem?_ports {position : Nat} {name : Option String} {outputIndex : UInt64}
    (h : (Router.ofConfiguration c).branches[position]? = some (name, outputIndex)) :
    c.ports[position]? = some (.ofBranch position name outputIndex) := by
  rw [Router.branches_ofConfiguration] at h
  have hlt : position < c.branches.length := (List.getElem?_eq_some_iff.mp h).1
  rw [ports, List.getElem?_append_left (by rwa [List.length_mapIdx]), List.getElem?_mapIdx, h]
  rfl

theorem length_ports (c : Configuration) :
    c.ports.length =
      (Router.ofConfiguration c).branchCount + if c.fallback.isSome then 1 else 0 := by
  rw [← Router.length_branches, Router.branches_ofConfiguration, ports, List.length_append,
    List.length_mapIdx]
  split <;> rfl

theorem getLast?_ports (h : c.fallback.isSome) : c.ports.getLast? = some .ofFallback := by
  rw [ports, if_pos h, List.getLast?_concat]

theorem mem_ports {p : Port} (h : p ∈ c.ports) :
    (∃ position name outputIndex, p = .ofBranch position name outputIndex) ∨ p = .ofFallback := by
  rcases List.mem_append.mp h with hp | hp
  · obtain ⟨position, hlt, rfl⟩ := List.mem_mapIdx.mp hp
    exact .inl ⟨position, _, _, rfl⟩
  · split at hp
    · exact .inr (List.mem_singleton.mp hp)
    · cases hp

theorem presentable_of_mem_ports {p : Port} (h : p ∈ c.ports) :
    p.label ≠ "" ∧ Text.Trimmed p.label := by
  rcases mem_ports h with ⟨position, name, outputIndex, rfl⟩ | rfl
  · exact (Port.labels_labelOf name outputIndex).presentable
  · exact ⟨by decide, Port.trimmed_fallback⟩

theorem ids_eq (c : Configuration) :
    c.ports.map Port.id =
      (List.range c.branches.length).map (fun i => "route" ++ toString i) ++
        if c.fallback.isSome then ["fallback"] else [] := by
  have hroutes : (c.branches.mapIdx fun i b => Port.ofBranch i b.1 b.2).map Port.id =
      (List.range c.branches.length).map fun i => "route" ++ toString i := by
    refine List.ext_getElem (by simp) fun i _ _ => ?_
    simp [Port.ofBranch]
  rw [ports, List.map_append, hroutes]
  split <;> rfl

theorem nodup_ids (c : Configuration) : (c.ports.map Port.id).Nodup := by
  have hroutes : ((List.range c.branches.length).map fun i => "route" ++ toString i).Nodup :=
    List.nodup_range.map fun i j h => Digits.toString_inj ((String.append_right_inj _).mp h)
  rw [ids_eq]
  split
  · rw [← List.concat_eq_append, List.nodup_concat]
    refine ⟨fun hmem => ?_, hroutes⟩
    obtain ⟨i, -, hi⟩ := List.mem_map.mp hmem
    have hhead := congrArg (fun s => s.toList.head?) hi
    rw [String.toList_append] at hhead
    cases hhead
  · rwa [List.append_nil]

end Configuration

namespace Router

theorem branch_of_mem_matchesOf {c : Configuration} {data : Json} {m : Match}
    (h : m ∈ (ofConfiguration c).matchesOf data) :
    (ofConfiguration c).branches[m.position]? = some (m.name, m.outputIndex) := by
  rw [branches_ofConfiguration]
  exact ((finds_matchesOf c data).sound m h).branch

theorem mem_outputsOf {r : Router} {ms : List Match} {output : UInt64}
    (h : output ∈ r.outputsOf ms) :
    (∃ m ∈ ms, m.outputIndex = output) ∨ r.fallback = some output := by
  cases ms with
  | nil => exact .inr (Option.mem_toList.mp h)
  | cons m rest => exact .inl (List.mem_map.mp h)

end Router

structure PortsOf (ports : List Port) (r : Router) : Prop where
  length : ports.length = r.branchCount + if r.fallback.isSome then 1 else 0
  ids : (ports.map Port.id).Nodup
  branches : ∀ position < r.branchCount, ∃ name outputIndex p,
    r.branches[position]? = some (name, outputIndex) ∧ ports[position]? = some p ∧
      p.Shows position name outputIndex
  labels : ∀ p ∈ ports, p.label ≠ "" ∧ Text.Trimmed p.label
  outputs : ∀ data, ∀ output ∈ r.route data,
    (∃ m ∈ r.matchesOf data, m.outputIndex = output ∧
      r.branches[m.position]? = some (m.name, output) ∧
        ∃ p, ports[m.position]? = some p ∧ p.Shows m.position m.name output) ∨
    (r.fallback = some output ∧ ∃ p, ports.getLast? = some p ∧ p.id = "fallback")

/-- The ports of a configuration are those of its router: one for each branch in the
order in which the router tries them, and a last one for the fallback, so that every
output that a value is sent to has a port. -/
theorem Configuration.portsOf_ofConfiguration (c : Configuration) :
    PortsOf c.ports (Router.ofConfiguration c) where
  length := c.length_ports
  ids := c.nodup_ids
  branches position hlt := by
    rw [← Router.length_branches] at hlt
    obtain ⟨⟨name, outputIndex⟩, hbranch⟩ :
        ∃ b, (Router.ofConfiguration c).branches[position]? = some b :=
      ⟨_, List.getElem?_eq_getElem hlt⟩
    exact ⟨name, outputIndex, _, hbranch, getElem?_ports hbranch, rfl, Port.labels_labelOf _ _⟩
  labels _ hp := presentable_of_mem_ports hp
  outputs data output hmem := by
    rcases Router.mem_outputsOf hmem with ⟨m, hm, rfl⟩ | hfallback
    · have hbranch := Router.branch_of_mem_matchesOf hm
      exact .inl ⟨m, hm, rfl, hbranch, _, getElem?_ports hbranch, rfl, Port.labels_labelOf _ _⟩
    · have hsome : c.fallback.isSome := Option.isSome_iff_exists.mpr ⟨output, hfallback⟩
      exact .inr ⟨hfallback, _, getLast?_ports hsome, rfl⟩

end Switchyard
