import ImportTracking.Delivery
import ImportTracking.Proofs.Protocols

/-!
# Lineage — what an invocation hands on

An invocation may put its job back, and record a failure, at many places.  Wherever it does, the
job that is scheduled is its own under the id that was drawn by the call before, and the failure is
its entity's, under its correlation id.  A program that keeps to this is `Faithful`.

The one job that is scheduled otherwise is the retry after a fault.

* `faithful_perform`, `faithful_exhaust`: an invocation is faithful, and so is the end of a tracker.
* `handle_eq`: to handle a job is to perform it, and to `conclude` from what that came to.
* `retried_of_conclude`: only a retry is scheduled in conclusion.
-/

namespace ImportTracking.Runtime

open Protocol Work
open Invocation (Outcome)

/-- The job id that is drawn in a call. -/
def drawnBy : (c : Work.Call) → Work.Reply c → Option String
  | .session .newJid, jid => some jid
  | _, _ => none

/-- What may be scheduled and recorded on behalf of a job.  The phases are the job ids that were
drawn in the last call, if one was. -/
def lineage (job : PipelineJob) : Protocol Work (Option String) where
  Allows
    | drawn, .request (.schedulePipeline j _) => ∃ jid, drawn = some jid ∧ j = job.reEnqueued jid
    | _, .session (.query (.insertFailure row)) =>
      row.correlationId = job.correlationId ∧ row.entityId = job.entityId
    | _, _ => True
  Expects
    | _, .session (.query (.findEntity id)), .ok (some e) => e.id = id
    | _, _, _ => True
  next _ := drawnBy

/-- The program keeps to the lineage of the job, whatever was drawn before. -/
def Faithful (job : PipelineJob) {α : Type} (p : Program Work α) : Prop :=
  ∀ drawn, (lineage job).Keeps (fun _ _ => True) p drawn

variable {job : PipelineJob}

/-! ### Sequences -/

section
variable {α β : Type}

theorem Faithful.bind {p : Program Work α} {f : α → Program Work β} (hp : Faithful job p)
    (hf : ∀ a, Faithful job (f a)) : Faithful job (p.bind f) :=
  fun drawn => (hp drawn).bind fun drawn' a _ => hf a drawn'

theorem Faithful.task_bind {t : Work.Task α} {f : α → Work.Task β} (ht : Faithful job t.run)
    (hf : ∀ a, Faithful job (f a).run) : Faithful job (t >>= f).run :=
  fun drawn => (ht drawn).task_bind (fun drawn' a _ => hf a drawn') fun _ _ _ => trivial

theorem Faithful.lift_bind {p : Program Work α} {f : α → Work.Task β} (hp : Faithful job p)
    (hf : ∀ a, Faithful job (f a).run) :
    Faithful job ((monadLift p : Work.Task α) >>= f).run :=
  fun drawn => (hp drawn).lift_bind fun drawn' a _ => hf a drawn'

theorem Faithful.tryCatch {t : Work.Task β} {f : Fault → Work.Task β} (ht : Faithful job t.run)
    (hf : ∀ e, Faithful job (f e).run) : Faithful job (MonadExcept.tryCatch t f).run :=
  fun drawn => (ht drawn).tryCatch (fun _ _ _ => trivial) fun drawn' e _ => hf e drawn'

theorem faithful_done (a : α) : Faithful job (.done a) := fun _ => trivial

/-- Plain calls schedule no pipeline job, and record no failure. -/
theorem faithful_plain {p : Program Work α} (hp : p.Confined Plain) : Faithful job p := by
  induction hp with
  | done a => exact faithful_done a
  | @call call next hc _ ih =>
      refine fun drawn => ⟨?_, fun r _ => ih r _⟩
      rcases call with (s | _ | _ | _ | _) | q
      · cases s <;> first | exact trivial | exact hc.elim
      all_goals first | exact trivial | (cases q <;> first | exact trivial | exact hc.elim)

theorem faithful_findTracker_bind {id : Int} {f : Tracker → Session.Task β}
    (hf : ∀ t, Faithful job (onDatabase (f t)).run) :
    Faithful job (onDatabase (Session.findTracker id >>= f)).run := by
  intro drawn
  rw [Session.findTracker, bind_assoc]
  refine keeps_query_bind trivial (fun t _ => ?_) fun _ _ => trivial
  cases t with
  | none => exact trivial
  | some t => exact hf t _

theorem faithful_findTracker (id : Int) :
    Faithful job (onDatabase (Session.findTracker id)).run := by
  rw [← bind_pure (Session.findTracker id)]
  exact faithful_findTracker_bind fun t => faithful_done _

end

/-! ### Invocations -/

/-- A transition writes a tracker, at most. -/
theorem faithful_transition (t : Tracker) (tr : Tracker.Transition) :
    Faithful job (onDatabase (t.transition tr)).run := by
  unfold Tracker.transition
  split
  · exact faithful_done _
  split
  · exact faithful_done _
  · refine fun _ => ⟨trivial, fun now _ => ?_⟩
    refine keeps_query_bind trivial (fun n _ => ?_) fun _ _ => trivial
    refine faithful_findTracker_bind (fun t' => ?_) _
    split
    · split
      · exact faithful_done _
      · split <;> exact faithful_done _
    · exact faithful_done _

/-- A job that is put back is the same one, under the id that was drawn for it. -/
theorem faithful_reEnqueue (delay : Duration) : Faithful job (reEnqueue job delay).run :=
  fun _ => ⟨trivial, fun jid _ => ⟨⟨jid, rfl, rfl⟩, fun r _ => by cases r <;> exact trivial⟩⟩

theorem faithful_failTracker {t : Tracker} {e : Entity} {report : FaultReport} {a : Attributes}
    {jid : String} (he : e.id = job.entityId) :
    Faithful job (FailureLog.failTracker t e report a jid (some job.correlationId)).run := by
  refine (faithful_transition t _).task_bind fun t' _ => ?_
  exact ⟨trivial, fun _ _ => ⟨trivial, fun now _ => ⟨⟨rfl, he⟩, fun r _ => by
    cases r <;> exact trivial⟩⟩⟩

section
variable {c : Coordinator} {t : Tracker} {e : Entity}

theorem faithful_runPipeline (p : Pipeline) :
    Faithful job (Coordinator.runPipeline p t e job).run := by
  refine Faithful.task_bind (fun _ => keeps_expect ⟨trivial, fun _ _ => trivial⟩) fun o => ?_
  cases o with
  | ok => exact (faithful_transition t _).task_bind fun _ => faithful_done _
  | retry delay reason =>
      exact (faithful_transition t _).task_bind fun _ =>
        (faithful_reEnqueue delay).task_bind fun _ => faithful_done _
  | fatal errorClass message => exact faithful_done _

theorem faithful_act (d : Decision) (p : Option Pipeline) :
    Faithful job (c.act d p t e job).run := by
  cases d with
  | skip => exact (faithful_transition t _).task_bind fun _ => faithful_done _
  | fail f => exact faithful_done _
  | reEnqueue => exact (faithful_reEnqueue _).task_bind fun _ => faithful_done _
  | finishEmptyBatched =>
      exact (faithful_transition t _).task_bind fun t' =>
        (faithful_transition t' _).task_bind fun _ => faithful_done _
  | startBatched count =>
      exact (faithful_transition t _).task_bind fun t' =>
        (faithful_plain (confined_enqueueAll t' count)).task_bind fun _ => faithful_done _
  | run =>
      cases p with
      | none => exact faithful_done _
      | some p => exact (faithful_transition t _).task_bind fun _ => faithful_runPipeline p

theorem faithful_recordIfTerminal {a : Attributes} (he : e.id = job.entityId) (f : Fault) :
    Faithful job (Coordinator.recordIfTerminal e a job f).run := by
  unfold Coordinator.recordIfTerminal
  split
  · exact (faithful_findTracker _).task_bind fun t =>
      (faithful_failTracker he).task_bind fun _ => faithful_done _
  · exact faithful_done _

theorem faithful_performLocked (a : Attributes) (he : e.id = job.entityId) :
    Faithful job (c.performLocked job e a).run := by
  refine (faithful_findTracker _).task_bind fun t => ?_
  split
  · refine Faithful.tryCatch ?_ fun f => faithful_recordIfTerminal he f
    exact (faithful_plain (confined_pollExport _ t e)).lift_bind fun o _ =>
      ⟨trivial, fun now _ => faithful_act _ _ _⟩
  · exact faithful_done _

theorem faithful_performUnderLease (a : Attributes) (he : e.id = job.entityId) :
    Faithful job (c.performUnderLease job e a).run := by
  refine Faithful.bind (fun _ => ⟨trivial, fun r _ => ?_⟩) fun o => faithful_done _
  rcases r with _ | _ | lease
  · exact trivial
  · exact trivial
  · exact (faithful_performLocked a he _).bind fun _ _ _ => ⟨trivial, fun _ _ => trivial⟩

/-- The entity that is looked up is the one that the job names. -/
theorem faithful_load_bind {β : Type} {f : Coordinator.Subject → Work.Task β}
    (hf : ∀ s : Coordinator.Subject, s.entity.id = job.entityId → Faithful job (f s).run) :
    Faithful job (onDatabase (Coordinator.load job) >>= f).run := by
  intro drawn
  refine Keeps.task_bind (M := fun _ r => ∀ s : Coordinator.Subject, r = .ok s →
    s.entity.id = job.entityId) ?_ (fun drawn' s hs => hf s (hs s rfl) drawn') fun _ _ _ => trivial
  have hfault (f : Fault) (s : Coordinator.Subject) (h : .error f = Except.ok s) :
      s.entity.id = job.entityId := nomatch h
  rw [Coordinator.load, Session.findEntity, bind_assoc]
  refine keeps_query_bind trivial (fun x hx => ?_) fun f _ => hfault _
  cases x with
  | none => exact hfault _
  | some e =>
      change (lineage job).Keeps _ (onDatabase (Session.findTracker job.trackerId >>= _)).run _
      rw [Session.findTracker, bind_assoc]
      refine keeps_query_bind trivial (fun x _ => ?_) fun f _ => hfault _
      cases x with
      | none => exact hfault _
      | some t =>
          change (lineage job).Keeps _ (onDatabase (Session.sourceVersion e >>= _)).run _
          rw [Session.sourceVersion, bind_assoc]
          refine keeps_query_bind trivial (fun i _ s h => ?_) fun f _ => hfault _
          cases h
          exact hx

/-- **An invocation is faithful.** -/
theorem faithful_perform : Faithful job (c.perform job).run := by
  refine faithful_load_bind fun s he => ?_
  refine (faithful_plain (confined_admission _ _ _ _)).lift_bind fun v => ?_
  cases v with
  | proceed => exact faithful_performUnderLease _ he
  | defer delay goal => exact (faithful_reEnqueue delay).task_bind fun _ => faithful_done _

theorem faithful_exhaust (f : Fault) : Faithful job (Coordinator.exhaust job f) :=
  Faithful.bind (faithful_load_bind fun _ he => faithful_failTracker he) fun _ => faithful_done _

end

/-! ### In conclusion -/

section
variable {c : Coordinator}

/-- What is left to do when a job was performed. -/
def conclude (c : Coordinator) (job : PipelineJob) : Except Fault Outcome → Program Work Unit
  | .ok _ => .done ()
  | .error f => (c.afterFault job f).bind fun _ => .done ()

theorem handle_eq (c : Coordinator) (job : PipelineJob) :
    c.handle (.pipeline job) = (c.perform job).run.bind (conclude c job) := by
  show ((c.perform job).run.bind _).bind _ = _
  rw [Program.bind_assoc]
  refine congrArg (c.perform job).run.bind (funext fun r => ?_)
  cases r <;> rfl

/-- After a fault nothing is left to do, or the tracker is ended, or the job is retried, while there
are retries left. -/
theorem afterFault_cases (c : Coordinator) (job : PipelineJob) (f : Fault) :
    c.afterFault job f = .done .dropped ∨ c.afterFault job f = Coordinator.exhaust job f ∨
      job.attempt < c.settings.maxRetries ∧ ∃ delay next, (∀ r, Faithful job (next r)) ∧
        c.afterFault job f = .call (.request (.schedulePipeline job.retried delay)) next := by
  unfold Coordinator.afterFault
  split
  · exact .inl rfl
  split
  · exact .inr (.inl rfl)
  · rename_i hmax
    refine .inr (.inr ⟨Nat.lt_of_not_le hmax, _, _, fun r => ?_, rfl⟩)
    rcases r with _ | _
    · exact faithful_exhaust f
    · exact faithful_done _

/-- A job that is scheduled in conclusion, at once, is the retry. -/
theorem retried_of_conclude {r : Except Fault Outcome} {j : PipelineJob} {delay : Duration}
    {next : Except Cause Unit → Program Work Unit}
    (h : conclude c job r = .call (.request (.schedulePipeline j delay)) next) :
    j = job.retried ∧ job.attempt < c.settings.maxRetries := by
  cases r with
  | ok o => cases h
  | error f =>
      rw [conclude] at h
      obtain hf | hf | ⟨hmax, d, n, -, hf⟩ := afterFault_cases c job f
      · rw [hf] at h
        cases h
      · rw [hf] at h
        cases h
      · rw [hf] at h
        cases h
        exact ⟨rfl, hmax⟩

end

end ImportTracking.Runtime
