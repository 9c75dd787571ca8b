import Switchyard.Command.Run
import Switchyard.Proofs.Command.Documents
import Switchyard.Proofs.Command.Job
import Switchyard.Proofs.Command.Output

/-! What a run does, in terms of the texts that it is given: when it fails, and
what it writes. A run writes all of its output or none. -/

namespace Switchyard.Run

open Job

abbrev World := Source → Except ReadFault ByteArray

def within (world : World) (i : Invocation) : Run := Id.run (perform (m := Id) world i)

def Provides (world : World) (source : Source) (text : String) : Prop :=
  ∃ bytes, world source = .ok bytes ∧ String.fromUTF8? bytes = some text

def Configures (world : World) (i : Invocation) (c : Configuration) : Prop :=
  ∃ text, Provides world (.file i.config) text ∧ Configuration.ofText text = .ok c

def Supplies (world : World) (i : Invocation) (documents : List Json) : Prop :=
  ∃ text, Provides world i.source text ∧ Documents.Holds text i.ndjson documents

def Failed (r : Run) : Prop := ∃ f, r.result = .error f

variable {world : World} {i : Invocation}

theorem decodeText_eq_ok_iff {source : Source} {text : String} :
    decodeText (world source) = .ok text ↔ Provides world source text := by
  unfold decodeText Provides
  cases world source with
  | error fault => simp
  | ok bytes => cases htext : String.fromUTF8? bytes <;> simp [htext]

theorem readConfiguration_eq_ok_iff {c : Configuration} :
    readConfiguration i.config (world (.file i.config)) = .ok c ↔ Configures world i c := by
  unfold readConfiguration Configures
  simp only [← decodeText_eq_ok_iff]
  cases decodeText (world (.file i.config)) with
  | error fault => simp
  | ok text =>
    cases hparse : Configuration.ofText text <;> simp [hparse]

theorem readDocuments_eq_ok_iff {documents : List Json} :
    readDocuments i (world i.source) = .ok documents ↔ Supplies world i documents := by
  unfold readDocuments Supplies
  simp only [← decodeText_eq_ok_iff, ← Documents.read_eq_ok_iff]
  cases decodeText (world i.source) with
  | error fault => simp
  | ok text =>
    cases hparse : Documents.read text i.ndjson <;> simp [hparse]

theorem Configures.unique {c d : Configuration} (hc : Configures world i c)
    (hd : Configures world i d) : c = d := by
  rw [← readConfiguration_eq_ok_iff] at hc hd
  exact Except.ok.inj (hc.symm.trans hd)

theorem Supplies.unique {ds es : List Json} (hd : Supplies world i ds) (he : Supplies world i es) :
    ds = es := by
  rw [← readDocuments_eq_ok_iff] at hd he
  exact Except.ok.inj (hd.symm.trans he)

section Loading

theorem loadConfiguration_writes {c : Configuration} (h : Configures world i c) :
    Writes (loadConfiguration (m := Id) world i.config) c "" := by
  have hread := readConfiguration_eq_ok_iff.mpr h
  refine (Writes.ask _).silent_bind ?_
  rw [hread]
  exact (Writes.pure c).silent_bind ((Writes.log _).silent_bind (Writes.pure c))

theorem loadConfiguration_fails (h : ∀ c, ¬ Configures world i c) :
    ∃ f, Fails (loadConfiguration (m := Id) world i.config) f := by
  cases hread : readConfiguration i.config (world (.file i.config)) with
  | ok c => exact absurd (readConfiguration_eq_ok_iff.mp hread) (h c)
  | error f =>
    refine ⟨f, (Writes.ask _).bind_fails ?_⟩
    rw [hread]
    exact (Fails.throw f).bind _

theorem loadDocuments_writes {documents : List Json} (h : Supplies world i documents) :
    Writes (loadDocuments (m := Id) world i) documents "" := by
  have hread := readDocuments_eq_ok_iff.mpr h
  refine (Writes.ask _).silent_bind ?_
  rw [hread]
  exact (Writes.pure documents).silent_bind ((Writes.log _).silent_bind (Writes.pure documents))

theorem loadDocuments_fails (h : ∀ documents, ¬ Supplies world i documents) :
    ∃ f, Fails (loadDocuments (m := Id) world i) f := by
  cases hread : readDocuments i (world i.source) with
  | ok documents => exact absurd (readDocuments_eq_ok_iff.mp hread) (h documents)
  | error f =>
    refine ⟨f, (Writes.ask _).bind_fails ?_⟩
    rw [hread]
    exact (Fails.throw f).bind _

end Loading

/-- A configuration that a run goes on with: it need not be valid unless that is
asked for. -/
def Accepts (world : World) (i : Invocation) (c : Configuration) : Prop :=
  Configures world i c ∧ (i.validate = true → c.isValid = true)

/-- What an invocation writes once its configuration is accepted: the list of ports, or
a line for each document, or nothing if no documents are needed. -/
def Produces (world : World) (i : Invocation) (c : Configuration) (text : String) : Prop :=
  if i.ports then text = portList c.ports
  else if needsDocuments i then
    ∃ documents, Supplies world i documents ∧
      text = String.join (documents.map fun d => outcomeLine (c.route d) d)
  else text = ""

def Completes (world : World) (i : Invocation) (text : String) : Prop :=
  ∃ c, Accepts world i c ∧ Produces world i c text

theorem exists_produces_or (world : World) (i : Invocation) (c : Configuration) :
    (∃ text, Produces world i c text) ∨
      (needsDocuments i = true ∧ ∀ documents, ¬ Supplies world i documents) := by
  unfold Produces
  split_ifs with hports hneeds
  · exact .inl ⟨_, rfl⟩
  · by_cases hdocs : ∃ documents, Supplies world i documents
    · obtain ⟨documents, hdocs⟩ := hdocs
      exact .inl ⟨_, documents, hdocs, rfl⟩
    · exact .inr ⟨hneeds, not_exists.mp hdocs⟩
  · exact .inl ⟨_, rfl⟩

theorem not_ports_of_needsDocuments (h : needsDocuments i = true) : ¬ i.ports = true := by
  unfold needsDocuments at h
  rw [Bool.and_eq_true, Bool.not_eq_true'] at h
  simp [h.1]

theorem checkValid_writes {c : Configuration} (h : c.isValid = true) :
    Writes (checkValid (m := Id) c) () "" := by
  unfold checkValid
  rw [if_pos h]
  exact Writes.log _

theorem checkValid_fails {c : Configuration} (h : ¬ c.isValid = true) :
    Fails (checkValid (m := Id) c) (.configInvalid c.report) := by
  unfold checkValid
  rw [if_neg h]
  exact Fails.throw _

theorem prepare_writes {c : Configuration} (h : Accepts world i c) :
    Writes (prepare (m := Id) world i) c "" := by
  obtain ⟨hconf, hvalid⟩ := h
  refine (Writes.log _).silent_bind ((Writes.log _).silent_bind ?_)
  refine (loadConfiguration_writes hconf).silent_bind ?_
  by_cases hcheck : i.validate = true
  · rw [if_pos hcheck]
    exact (checkValid_writes (hvalid hcheck)).silent_bind (Writes.pure c)
  · rw [if_neg hcheck]
    exact Writes.pure c

theorem prepare_fails (h : ∀ c, ¬ Accepts world i c) :
    ∃ f, Fails (prepare (m := Id) world i) f := by
  -- whatever fails after the first two events fails the whole of it
  have hstart {f : Failure} {t : Job Failure Id Configuration} (ht : Fails t f) :
      Fails (do Job.log buildEvent; Job.log (invocationEvent i); t) f :=
    (Writes.log _).bind_fails ((Writes.log _).bind_fails ht)
  by_cases hconf : ∃ c, Configures world i c
  · obtain ⟨c, hc⟩ := hconf
    obtain ⟨hcheck, hinvalid⟩ : i.validate = true ∧ ¬ c.isValid = true := by
      simpa [Accepts, hc] using h c
    refine ⟨.configInvalid c.report, hstart ((loadConfiguration_writes hc).bind_fails ?_)⟩
    rw [if_pos hcheck]
    exact (checkValid_fails hinvalid).bind _
  · obtain ⟨f, hf⟩ := loadConfiguration_fails (not_exists.mp hconf)
    exact ⟨f, hstart (hf.bind _)⟩

theorem routeEach_writes (router : Router) (position dropped : Nat) (documents : List Json) :
    ∃ count, Writes (routeEach (m := Id) router position dropped documents) count
      (String.ofList (documents.flatMap router.line)) := by
  induction documents generalizing position dropped with
  | nil => exact ⟨dropped, Writes.pure dropped⟩
  | cons document rest ih =>
    obtain ⟨count, hrest⟩ := ih (position + 1)
      (if (router.outcome document).isDropped then dropped + 1 else dropped)
    refine ⟨count, ?_⟩
    rw [List.flatMap_cons, String.ofList_append]
    exact (Writes.logAll _).silent_bind
      ((Writes.log _).silent_bind ((Writes.write _).bind hrest))

theorem routeDocuments_writes (c : Configuration) (documents : List Json) :
    Writes (routeDocuments (m := Id) c documents) () (c.routedText documents) := by
  obtain ⟨count, heach⟩ := routeEach_writes (Router.ofConfiguration c) 0 0 documents
  unfold Configuration.routedText
  refine (Writes.logAll _).silent_bind ?_
  simpa only [String.append_empty] using
    heach.bind (f := fun dropped => Job.log (completedEvent documents.length dropped)) (Writes.log _)

theorem job_writes {text : String} (h : Completes world i text) :
    Writes (job (m := Id) world i) () text := by
  obtain ⟨c, hc, htext⟩ := h
  refine (prepare_writes hc).silent_bind ?_
  unfold Produces at htext
  split_ifs at htext ⊢ with hports hneeds
  · rw [htext, ← c.portsText_eq_portList]
    exact Writes.write _
  · obtain ⟨documents, hdocs, rfl⟩ := htext
    rw [← c.routedText_eq_join]
    exact (loadDocuments_writes hdocs).silent_bind (routeDocuments_writes c documents)
  · rw [htext]
    exact Writes.pure ()

theorem job_fails (h : ∀ text, ¬ Completes world i text) :
    ∃ f, Fails (job (m := Id) world i) f := by
  -- a job that has a configuration can only fail for its documents, before it routes one
  by_cases hconf : ∃ c, Accepts world i c
  · obtain ⟨c, hc⟩ := hconf
    rcases exists_produces_or world i c with ⟨text, htext⟩ | ⟨hneeds, hnone⟩
    · exact absurd ⟨c, hc, htext⟩ (h text)
    · obtain ⟨f, hf⟩ := loadDocuments_fails hnone
      refine ⟨f, (prepare_writes hc).bind_fails ?_⟩
      rw [if_neg (not_ports_of_needsDocuments hneeds), if_pos hneeds]
      exact hf.bind _
  · obtain ⟨f, hf⟩ := prepare_fails (not_exists.mp hconf)
    exact ⟨f, hf.bind _⟩

theorem Completes.within {text : String} (h : Completes world i text) :
    (within world i).result = .ok () ∧ (within world i).output = text := by
  obtain ⟨events, hexec⟩ := job_writes h {}
  change (exec (job (m := Id) world i) {}).1 = _ ∧ (exec (job (m := Id) world i) {}).2.output = _
  rw [hexec]
  exact ⟨rfl, String.empty_append⟩

theorem within_of_forall_not_completes (h : ∀ text, ¬ Completes world i text) :
    (within world i).Failed ∧ (within world i).output = "" := by
  obtain ⟨f, hf⟩ := job_fails h
  obtain ⟨events, hexec⟩ := hf {}
  change (∃ f, (exec (job (m := Id) world i) {}).1 = .error f) ∧
    (exec (job (m := Id) world i) {}).2.output = _
  rw [hexec]
  exact ⟨⟨f, rfl⟩, rfl⟩

theorem failed_iff : (within world i).Failed ↔ ∀ text, ¬ Completes world i text := by
  constructor
  · rintro ⟨f, hf⟩ text htext
    rw [htext.within.1] at hf
    cases hf
  · exact fun h => (within_of_forall_not_completes h).1

theorem exitCode_ne_zero_iff {filter : Log.Filter} {r : Run} :
    (r.summary filter).exitCode ≠ 0 ↔ r.Failed := by
  unfold Run.summary Failed
  split
  · next hok => simp [hok]
  · next f herror => split <;> simp [herror]

@[simp]
theorem output_summary (filter : Log.Filter) (r : Run) : (r.summary filter).output = r.output := by
  unfold Run.summary
  split
  · rfl
  · split <;> rfl

theorem forall_not_completes_iff :
    (∀ text, ¬ Completes world i text) ↔
      (∀ c, ¬ Configures world i c) ∨
      (i.validate = true ∧ ∃ c, Configures world i c ∧ c.isValid = false) ∨
      (needsDocuments i = true ∧ ∀ documents, ¬ Supplies world i documents) := by
  constructor
  · intro h
    by_cases hconf : ∃ c, Configures world i c
    · obtain ⟨c, hc⟩ := hconf
      by_cases haccepts : Accepts world i c
      · rcases exists_produces_or world i c with ⟨text, htext⟩ | hdocs
        · exact absurd ⟨c, haccepts, htext⟩ (h text)
        · exact .inr (.inr hdocs)
      · obtain ⟨hcheck, hinvalid⟩ : i.validate = true ∧ c.isValid = false := by
          simpa [Accepts, hc] using haccepts
        exact .inr (.inl ⟨hcheck, c, hc, hinvalid⟩)
    · exact .inl (not_exists.mp hconf)
  · rintro (hnone | ⟨hcheck, d, hd, hinvalid⟩ | ⟨hneeds, hnone⟩) text ⟨c, ⟨hc, hvalid⟩, htext⟩
    · exact hnone c hc
    · rw [hc.unique hd, hinvalid] at hvalid
      exact absurd (hvalid hcheck) Bool.false_ne_true
    · rw [Produces, if_neg (not_ports_of_needsDocuments hneeds), if_pos hneeds] at htext
      obtain ⟨documents, hdocs, -⟩ := htext
      exact hnone documents hdocs

/-- A run is all or nothing. It fails exactly when the configuration cannot be
read and parsed, or is to be validated and is not valid, or when documents are
needed and cannot all be read and parsed; then it has written nothing. When it
does not fail, it has written everything that it was asked for. -/
theorem allOrNothing (world : World) (i : Invocation) (filter : Log.Filter) :
    let summary := (within world i).summary filter
    (summary.exitCode ≠ 0 ↔
      (∀ c, ¬ Configures world i c) ∨
      (i.validate = true ∧ ∃ c, Configures world i c ∧ c.isValid = false) ∨
      (needsDocuments i = true ∧ ∀ documents, ¬ Supplies world i documents)) ∧
    (summary.exitCode ≠ 0 → summary.output = "") ∧
    (summary.exitCode = 0 → Completes world i summary.output) := by
  intro summary
  have hfailed : summary.exitCode ≠ 0 ↔ ∀ text, ¬ Completes world i text :=
    exitCode_ne_zero_iff.trans failed_iff
  have houtput : summary.output = (within world i).output := output_summary filter _
  refine ⟨?_, ?_, ?_⟩
  · rw [hfailed, forall_not_completes_iff]
  · rw [hfailed, houtput]
    exact fun h => (within_of_forall_not_completes h).2
  · intro hend
    by_contra hnot
    refine hfailed.mpr (fun text htext => hnot ?_) hend
    rwa [houtput, htext.within.2]

end Switchyard.Run
