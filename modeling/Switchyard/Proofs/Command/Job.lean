import Switchyard.Command.Job

/-! What jobs leave behind, when what they read is at hand: how a job ends,
what it writes, and that parts which write nothing can fail without a trace in
the output. -/

namespace Switchyard.Job

variable {ε α β : Type}

def exec (t : Job ε Id α) (j : Journal) : Except ε α × Journal := t.run.run j

@[simp]
theorem exec_pure (a : α) (j : Journal) : exec (pure a : Job ε Id α) j = (.ok a, j) := rfl

@[simp]
theorem exec_throw (e : ε) (j : Journal) : exec (throw e : Job ε Id α) j = (.error e, j) := rfl

@[simp]
theorem exec_ask (a : Id α) (j : Journal) : exec (ask a : Job ε Id α) j = (.ok a, j) := rfl

@[simp]
theorem exec_log (e : Log.Event) (j : Journal) :
    exec (log e : Job ε Id Unit) j = (.ok (), { j with events := j.events.push e }) := rfl

@[simp]
theorem exec_write (text : String) (j : Journal) :
    exec (write text : Job ε Id Unit) j = (.ok (), { j with output := j.output ++ text }) := rfl

theorem exec_bind (t : Job ε Id α) (f : α → Job ε Id β) (j : Journal) :
    exec (t >>= f) j =
      match exec t j with
      | (.ok a, j') => exec (f a) j'
      | (.error e, j') => (.error e, j') := by
  change (ExceptT.bindCont f (t j).1) (t j).2 = _
  unfold exec ExceptT.run StateT.run
  rcases t j with ⟨_ | _, _⟩ <;> rfl

def Writes (t : Job ε Id α) (a : α) (text : String) : Prop :=
  ∀ j, ∃ events, exec t j = (.ok a, ⟨j.output ++ text, events⟩)

def Fails (t : Job ε Id α) (e : ε) : Prop := ∀ j, ∃ events, exec t j = (.error e, ⟨j.output, events⟩)

theorem Writes.pure (a : α) : Writes (Pure.pure a : Job ε Id α) a "" := fun j => ⟨j.events, by simp⟩

theorem Writes.log (e : Log.Event) : Writes (Job.log e : Job ε Id Unit) () "" :=
  fun j => ⟨j.events.push e, by simp⟩

theorem Writes.ask (a : Id α) : Writes (Job.ask a : Job ε Id α) a "" := fun j => ⟨j.events, by simp⟩

theorem Writes.write (text : String) : Writes (Job.write text : Job ε Id Unit) () text :=
  fun j => ⟨j.events, by simp⟩

theorem Writes.bind {t : Job ε Id α} {f : α → Job ε Id β} {a : α} {b : β} {s s' : String}
    (ht : Writes t a s) (hf : Writes (f a) b s') : Writes (t >>= f) b (s ++ s') := by
  intro j
  obtain ⟨events, ht⟩ := ht j
  obtain ⟨events', hf⟩ := hf ⟨j.output ++ s, events⟩
  refine ⟨events', ?_⟩
  rw [exec_bind, ht]
  simpa only [String.append_assoc] using hf

theorem Writes.silent_bind {t : Job ε Id α} {f : α → Job ε Id β} {a : α} {b : β} {s : String}
    (ht : Writes t a "") (hf : Writes (f a) b s) : Writes (t >>= f) b s := by
  simpa only [String.empty_append] using ht.bind hf

theorem Writes.logAll (events : List Log.Event) :
    Writes (Job.logAll events : Job ε Id Unit) () "" := by
  induction events with
  | nil => exact Writes.pure ()
  | cons e rest ih => exact (Writes.log e).silent_bind ih

theorem Fails.throw (e : ε) : Fails (throw e : Job ε Id α) e := fun j => ⟨j.events, by simp⟩

theorem Fails.bind {t : Job ε Id α} {e : ε} (ht : Fails t e) (f : α → Job ε Id β) :
    Fails (t >>= f) e := by
  intro j
  obtain ⟨events, ht⟩ := ht j
  exact ⟨events, by rw [exec_bind, ht]⟩

theorem Writes.bind_fails {t : Job ε Id α} {f : α → Job ε Id β} {a : α} {e : ε}
    (ht : Writes t a "") (hf : Fails (f a) e) : Fails (t >>= f) e := by
  intro j
  obtain ⟨events, ht⟩ := ht j
  obtain ⟨events', hf⟩ := hf ⟨j.output ++ "", events⟩
  refine ⟨events', ?_⟩
  rw [exec_bind, ht]
  simpa only [String.append_empty] using hf

end Switchyard.Job
