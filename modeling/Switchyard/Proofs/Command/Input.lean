import Switchyard.Proofs.Command.Run
import Switchyard.Proofs.Configuration.RoundTrip

/-! Runs without an input against runs whose input is `-`. Both read standard
input, but a run that only validates does so only if it is told to. -/

namespace Switchyard

def Invocation.withInput (i : Invocation) (input : Option String) : Invocation := { i with input }

namespace Run

def Agree (r s : Run) : Prop := (r.Failed ↔ s.Failed) ∧ r.output = s.output

variable {world : World} {i j : Invocation}

theorem completes_iff {text : String} :
    Completes world i text ↔ ¬ (within world i).Failed ∧ (within world i).output = text := by
  rw [failed_iff, not_forall_not]
  constructor
  · exact fun h => ⟨⟨text, h⟩, h.within.2⟩
  · rintro ⟨⟨other, hother⟩, rfl⟩
    rwa [hother.within.2]

theorem agree_within_iff :
    Agree (within world i) (within world j) ↔
      ∀ text, Completes world i text ↔ Completes world j text := by
  constructor
  · rintro ⟨hfailed, houtput⟩ text
    rw [completes_iff, completes_iff, hfailed, houtput]
  · intro h
    have hfailed : (within world i).Failed ↔ (within world j).Failed := by
      rw [failed_iff, failed_iff]
      exact forall_congr' fun text => not_congr (h text)
    refine ⟨hfailed, ?_⟩
    by_cases hend : ∃ text, Completes world i text
    · obtain ⟨text, htext⟩ := hend
      exact htext.within.2.trans ((h text).mp htext).within.2.symm
    · have hi := within_of_forall_not_completes (not_exists.mp hend)
      have hj := within_of_forall_not_completes fun text htext => hend ⟨text, (h text).mpr htext⟩
      exact hi.2.trans hj.2.symm

theorem supplies_nil_iff :
    Supplies world i [] ↔
      i.ndjson = true ∧ ∃ text, Provides world i.source text ∧
        ∀ line ∈ Documents.lines text.toList, Documents.isBlank line = true := by
  unfold Supplies Documents.Holds
  cases i.ndjson with
  | true => simp [List.filter_eq_nil_iff]
  | false => simp

theorem routedText_eq_empty_iff {c : Configuration} {documents : List Json} :
    c.routedText documents = "" ↔ documents = [] := by
  cases documents with
  | nil => exact iff_of_true rfl rfl
  | cons d ds =>
    refine iff_of_false (fun h => ?_) (List.cons_ne_nil d ds)
    have htext := congrArg String.toList h
    rw [Configuration.routedText, String.toList_ofList, List.flatMap_cons] at htext
    have hline := (List.append_eq_nil_iff.mp htext).1
    exact absurd hline (by simp [Router.line])

def ValidatesOnly (i : Invocation) : Prop := i.validate = true ∧ i.ports = false

section Omitted

variable {c : Configuration} {text : String}

theorem produces_omitted (h : ValidatesOnly i) :
    Produces world (i.withInput none) c text ↔ text = "" := by
  unfold Produces Invocation.withInput needsDocuments
  simp [h.1, h.2]

theorem produces_dash (h : ValidatesOnly i) :
    Produces world (i.withInput (some "-")) c text ↔
      ∃ documents, Supplies world (i.withInput (some "-")) documents ∧
        text = c.routedText documents := by
  unfold Produces Invocation.withInput needsDocuments
  simp [h.1, h.2, c.routedText_eq_join]

theorem produces_omitted_iff_dash (h : ¬ ValidatesOnly i) :
    Produces world (i.withInput none) c text ↔ Produces world (i.withInput (some "-")) c text := by
  have hneeds : needsDocuments (i.withInput none) = needsDocuments (i.withInput (some "-")) := by
    unfold ValidatesOnly at h
    unfold needsDocuments Invocation.withInput
    cases hports : i.ports <;> simp_all
  unfold Produces
  rw [hneeds]
  exact Iff.rfl

/-- Naming no input is the same as naming `-`, except in a run that only validates
a configuration, and accepts it: without an input that run succeeds and writes
nothing, whatever standard input holds. -/
theorem agree_omitted_iff (world : World) (i : Invocation) :
    let omitted := within world (i.withInput none)
    let dashed := within world (i.withInput (some "-"))
    (Agree omitted dashed ↔
      (ValidatesOnly i → (∃ c, Accepts world i c) →
        i.ndjson = true ∧ ∃ text, Provides world .stdin text ∧
          ∀ line ∈ Documents.lines text.toList, Documents.isBlank line = true)) ∧
    (ValidatesOnly i → (∃ c, Accepts world i c) → ¬ omitted.Failed ∧ omitted.output = "") := by
  intro omitted dashed
  have hcompletes (hi : ValidatesOnly i) {c : Configuration} (hc : Accepts world i c) :
      Completes world (i.withInput none) "" := ⟨c, hc, (produces_omitted hi).mpr rfl⟩
  refine ⟨?_, fun hi ⟨c, hc⟩ => completes_iff.mp (hcompletes hi hc)⟩
  have hnone := @supplies_nil_iff world (i.withInput (some "-"))
  rw [agree_within_iff]
  constructor
  · rintro h hi ⟨c, hc⟩
    -- the other run writes nothing as well, so it had no documents to route
    obtain ⟨d, -, hd⟩ := (h "").mp (hcompletes hi hc)
    obtain ⟨documents, hdocs, hempty⟩ := (produces_dash hi).mp hd
    obtain rfl := routedText_eq_empty_iff.mp hempty.symm
    exact hnone.mp hdocs
  · intro h text
    by_cases hi : ValidatesOnly i
    · refine exists_congr fun c => and_congr_right fun hc => ?_
      have hdocs := hnone.mpr (h hi ⟨c, hc⟩)
      rw [produces_omitted hi, produces_dash hi]
      constructor
      · rintro rfl
        exact ⟨[], hdocs, rfl⟩
      · rintro ⟨documents, hother, rfl⟩
        rw [hother.unique hdocs]
        rfl
    · exact exists_congr fun c => and_congr_right fun _ => produces_omitted_iff_dash hi

end Omitted

def oneDocument : World
  | .file _ => .ok "\x7b\"mode\":\"rules\",\"rules\":[]\x7d".toUTF8
  | .stdin => .ok "5".toUTF8

def validation : Invocation := ⟨"c.json", none, false, .text, true, false⟩

theorem accepts_oneDocument : Accepts oneDocument validation (.ofRules []) := by
  have htext : String.fromUTF8? "\x7b\"mode\":\"rules\",\"rules\":[]\x7d".toUTF8 =
      some "\x7b\"mode\":\"rules\",\"rules\":[]\x7d" := by
    decide +kernel
  have hparse : Configuration.ofText "\x7b\"mode\":\"rules\",\"rules\":[]\x7d" =
      .ok (.ofRules []) := by
    decide +kernel
  exact ⟨⟨_, ⟨_, rfl, htext⟩, hparse⟩, fun _ => rfl⟩

theorem succeeds_omitted_oneDocument :
    ValidatesOnly validation ∧ (∃ c, Accepts oneDocument validation c) ∧
      ¬ (within oneDocument (validation.withInput none)).Failed ∧
      (within oneDocument (validation.withInput none)).output = "" := by
  have honly : ValidatesOnly validation := ⟨rfl, rfl⟩
  have haccepts : ∃ c, Accepts oneDocument validation c := ⟨_, accepts_oneDocument⟩
  exact ⟨honly, haccepts, (agree_omitted_iff oneDocument validation).2 honly haccepts⟩

theorem not_agree_omitted_oneDocument :
    ¬ Agree (within oneDocument (validation.withInput none))
      (within oneDocument (validation.withInput (some "-"))) := by
  rintro ⟨-, houtput⟩
  have homitted : (within oneDocument (validation.withInput none)).output = "" := by
    decide +kernel
  have hdash : (within oneDocument (validation.withInput (some "-"))).output =
      "\x7b\"matchedOutputs\":[],\"data\":5\x7d\n" := by
    decide +kernel
  rw [homitted, hdash] at houtput
  exact absurd houtput (by decide)

end Run

end Switchyard
