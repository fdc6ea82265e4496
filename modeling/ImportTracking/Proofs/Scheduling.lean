import ImportTracking.Delivery
import ImportTracking.Proofs.Outages
import ImportTracking.Proofs.Protocols

/-!
# Scheduling — what has been put into the queue when a fault arises

To put its job back into the queue is the last thing that an invocation does.  So if it ends in a
fault, no job was accepted for it.  This has nothing to do with the rows that it reads: any reply
may be given to any of its calls, and so it holds in every outage.

* `noted`: what a program keeps to is so of the requests that its run notes.
* `idle_perform`: an invocation that ends in a fault has had no job accepted.
* `noting_afterFault`: after a fault the retry is all that is accepted.
* `deliver_schedules`: so it is in the handling of a job, in any outage.
-/

namespace ImportTracking.Work

open Protocol
open Invocation (Outcome)

/-- The requests made so far, with their replies.  Any call may be made, and any reply given. -/
def noting : Protocol Work (List Exchange) where
  Allows _ _ := True
  Expects _ _ _ := True
  next
    | log, .session _, _ => log
    | log, .request r, reply => log ++ [⟨r, reply⟩]

variable {α β σ : Type} {log : List Exchange}

/-- **What a program keeps to** is so of the requests that a run notes, in any outage. -/
theorem noted {post : List Exchange → α → Prop} {p : Program Work α}
    (h : noting.Keeps post p log) (o : Outage) (others : Surroundings σ) (sc : Scene σ) (n : Nat) :
    let x := p.run (Scene.answerIn o others) (sc, n)
    ∃ l, x.2.1.exchanges = sc.exchanges ++ l ∧ post (log ++ l) x.1 := by
  -- what follows a call runs from the scene the call leaves, so the scene is any
  induction p generalizing log sc n with
  | done a =>
      refine ⟨[], (List.append_nil _).symm, ?_⟩
      rw [List.append_nil]
      exact h
  | call c next ih =>
      rw [Program.run_call]
      obtain ⟨l, hl, hpost⟩ := ih _ (h.2 (Scene.answerIn o others c (sc, n)).1 trivial)
        (Scene.answerIn o others c (sc, n)).2.1 (Scene.answerIn o others c (sc, n)).2.2
      cases c with
      | session c => cases c <;> exact ⟨l, hl, hpost⟩
      | request r =>
          refine ⟨⟨r, (Scene.answerIn o others (.request r) (sc, n)).1⟩ :: l, ?_, ?_⟩
          · rw [hl]
            simp [Scene.answerIn, Scene.answer, Scene.consult]
          · rw [List.append_cons]
            exact hpost

theorem accepted_append_of_none {x : Exchange} (h : x.accepted? = none) :
    accepted (log ++ [x]) = accepted log := by
  rw [accepted_append, accepted_cons_of_none h, accepted_nil, List.append_nil]

/-! ### Programs that schedule nothing -/

/-- Whatever is replied, no pipeline job is accepted. -/
def Quiet (p : Program Work α) : Prop :=
  ∀ log, noting.Keeps (fun log' _ => accepted log' = accepted log) p log

theorem Quiet.task_bind {t : Task α} {f : α → Task β} (ht : Quiet t.run)
    (hf : ∀ a, Quiet (f a).run) : Quiet (t >>= f).run := fun log =>
  (ht log).task_bind (fun log' a h => (hf a log').mono fun _ _ h' => h'.trans h) fun _ _ h => h

theorem quiet_done (a : α) : Quiet (.done a) := fun _ => rfl

/-- A program that uses only the database makes no requests. -/
theorem quiet_ofSession (p : Program Session α) : Quiet (ofSession p) := by
  induction p with
  | done a => exact quiet_done a
  | call c next ih => exact fun log => ⟨trivial, fun r _ => ih r log⟩

theorem quiet_onDatabase (t : Session.Task α) : Quiet (onDatabase t).run := quiet_ofSession t.run

/-- Plain calls schedule no pipeline job. -/
theorem quiet_plain {p : Program Work α} (hp : p.Confined Plain) : Quiet p := by
  induction hp with
  | done a => exact quiet_done a
  | @call c next hc _ ih =>
      refine fun log => ⟨trivial, fun r _ => (ih r _).mono fun log' _ h => h.trans ?_⟩
      rcases c with _ | q
      · rfl
      · cases q <;> first | exact hc.elim | exact accepted_append_of_none rfl

/-! ### Tasks that schedule nothing before a fault -/

/-- Whatever is replied, no pipeline job is accepted before a fault. -/
def Idle (t : Task α) : Prop :=
  ∀ log, noting.Keeps (fun log' r => ∀ f, r = .error f → accepted log' = accepted log) t.run log

theorem Quiet.idle {t : Task α} (h : Quiet t.run) : Idle t := fun log =>
  (h log).mono fun _ _ h _ _ => h

theorem Quiet.bind_idle {t : Task α} {f : α → Task β} (ht : Quiet t.run) (hf : ∀ a, Idle (f a)) :
    Idle (t >>= f) := fun log =>
  (ht log).task_bind (fun log' a h => (hf a log').mono fun _ _ h' e he => (h' e he).trans h)
    fun _ _ h _ _ => h

theorem Quiet.lift_idle {p : Program Work α} {f : α → Task β} (hp : Quiet p)
    (hf : ∀ a, Idle (f a)) : Idle ((monadLift p : Task α) >>= f) := fun log =>
  (hp log).lift_bind fun log' a h => (hf a log').mono fun _ _ h' e he => (h' e he).trans h

/-- When a fault is caught, no job was accepted before it. -/
theorem Idle.tryCatch {t : Task β} {f : Fault → Task β} (ht : Idle t) (hf : ∀ e, Idle (f e)) :
    Idle (MonadExcept.tryCatch t f) := fun log =>
  (ht log).tryCatch (fun _ _ _ => nofun) fun log' e h =>
    (hf e log').mono fun _ _ h' e' he => (h' e' he).trans (h e rfl)

/-- A job that is put back is put back last. -/
theorem idle_reEnqueue (job : PipelineJob) (delay : Duration) (b : β) :
    Idle (do reEnqueue job delay; return b) := fun log =>
  ⟨trivial, fun jid _ => ⟨trivial, fun r _ => by
    cases r with
    | ok u => exact nofun
    | error cause => exact fun _ _ => accepted_append_of_none rfl⟩⟩

/-! ### Invocations -/

theorem quiet_failTracker (t : Tracker) (e : Entity) (report : FaultReport) (a : Attributes)
    (jid correlation : String) :
    Quiet (FailureLog.failTracker t e report a jid (some correlation)).run := by
  refine (quiet_onDatabase _).task_bind fun t' log =>
    ⟨trivial, fun _ _ => ⟨trivial, fun now _ => ?_⟩⟩
  exact (quiet_onDatabase _ _).mono fun _ _ h => h.trans (accepted_append_of_none rfl)

variable {c : Coordinator} {job : PipelineJob}

theorem idle_runPipeline (p : Pipeline) (t : Tracker) (e : Entity) :
    Idle (Coordinator.runPipeline p t e job) := by
  refine Quiet.bind_idle
    (fun log => keeps_expect ⟨trivial, fun _ _ => accepted_append_of_none rfl⟩) fun o => ?_
  cases o with
  | ok => exact ((quiet_onDatabase _).task_bind fun _ => quiet_done _).idle
  | retry delay reason =>
      exact (quiet_onDatabase _).bind_idle fun _ => idle_reEnqueue job delay _
  | fatal errorClass message => exact (quiet_done _).idle

theorem idle_act (d : Decision) (p : Option Pipeline) (t : Tracker) (e : Entity) :
    Idle (c.act d p t e job) := by
  cases d with
  | skip => exact ((quiet_onDatabase _).task_bind fun _ => quiet_done _).idle
  | fail f => exact (quiet_done _).idle
  | reEnqueue => exact idle_reEnqueue job _ _
  | finishEmptyBatched =>
      exact ((quiet_onDatabase _).task_bind fun _ =>
        (quiet_onDatabase _).task_bind fun _ => quiet_done _).idle
  | startBatched count =>
      exact ((quiet_onDatabase _).task_bind fun t' =>
        (quiet_plain (confined_enqueueAll t' count)).task_bind fun _ => quiet_done _).idle
  | run =>
      cases p with
      | none => exact (quiet_done _).idle
      | some p => exact (quiet_onDatabase _).bind_idle fun t' => idle_runPipeline p t' e

theorem idle_recordIfTerminal (e : Entity) (a : Attributes) (f : Fault) :
    Idle (Coordinator.recordIfTerminal e a job f) := by
  unfold Coordinator.recordIfTerminal
  split
  · exact ((quiet_onDatabase _).task_bind fun t =>
      (quiet_failTracker t e _ a _ _).task_bind fun _ => quiet_done _).idle
  · exact (quiet_done _).idle

theorem idle_performLocked (e : Entity) (a : Attributes) : Idle (c.performLocked job e a) := by
  refine (quiet_onDatabase _).bind_idle fun t => ?_
  split
  · refine Idle.tryCatch ?_ fun f => idle_recordIfTerminal e _ f
    exact (quiet_plain (confined_pollExport _ t e)).lift_idle fun o =>
      (quiet_ofSession Session.now).lift_idle fun now => idle_act _ _ t e
  · exact (quiet_done _).idle

/-- The release of the lease comes after the work, and schedules nothing. -/
theorem idle_performUnderLease (e : Entity) (a : Attributes) :
    Idle (c.performUnderLease job e a) := by
  intro log
  refine Keeps.bind (M := fun log' (o : Option (Except Fault Outcome)) =>
    ∀ f, o.getD (.ok .leaseHeld) = .error f → accepted log' = accepted log) ?_ fun _ _ h => h
  refine ⟨trivial, fun r _ => ?_⟩
  rcases r with _ | _ | lease
  · exact nofun
  · exact nofun
  · refine (idle_performLocked e a _).bind fun log' r h => ⟨trivial, fun _ _ f hf => ?_⟩
    have hwork := (h f hf).trans (accepted_append_of_none rfl)
    exact (accepted_append_of_none rfl).trans hwork

/-- **An invocation that ends in a fault** has had no job accepted. -/
theorem idle_perform : Idle (c.perform job) := by
  refine (quiet_onDatabase _).bind_idle fun s => ?_
  refine (quiet_plain (confined_admission _ _ _ _)).lift_idle fun v => ?_
  cases v with
  | proceed => exact idle_performUnderLease _ _
  | defer delay goal => exact idle_reEnqueue job delay _

/-! ### After a fault -/

/-- What was noted stays noted. -/
theorem noting_extends (p : Program Work α) : noting.Keeps (fun log' _ => log <+: log') p log := by
  induction p generalizing log with
  | done a => exact List.prefix_rfl
  | call c next ih =>
      refine ⟨trivial, fun r _ => (ih r).mono fun log' _ h => .trans ?_ h⟩
      cases c with
      | session c => exact List.prefix_rfl
      | request r => exact List.prefix_append _ _

theorem noting_exhaust (f : Fault) :
    noting.Keeps (fun log' d => d = .exhausted ∧ accepted log' = accepted log)
      (Coordinator.exhaust job f) log := by
  have hquiet : Quiet (Coordinator.performFailure job f).run :=
    (quiet_onDatabase _).task_bind fun _ => quiet_failTracker _ _ _ _ _ _
  exact (hquiet log).bind fun _ _ h => ⟨rfl, h⟩

/-- **After a fault** the job is retried, or its tracker is ended and nothing accepted, unless the
scheduler refuses the retry. -/
theorem noting_afterFault (c : Coordinator) (job : PipelineJob) (log : List Exchange) {f : Fault}
    (hf : f.isNotFound = false) :
    noting.Keeps (fun log' d =>
      (¬c.settings.maxRetries ≤ job.attempt ∧
        d = .retrying job.retried.attempt (Delivery.retryBackoff job.attempt) ∧
        accepted log' = accepted log ++ [job.retried]) ∨
      (c.settings.maxRetries ≤ job.attempt ∧ d = .exhausted ∧ accepted log' = accepted log) ∨
      job.retried ∈ refused log') (c.afterFault job f) log := by
  unfold Coordinator.afterFault
  rw [hf, if_neg Bool.false_ne_true]
  by_cases hmax : c.settings.maxRetries ≤ job.attempt
  · rw [if_pos hmax]
    exact (noting_exhaust f).mono fun log' d h => .inr (.inl ⟨hmax, h⟩)
  · rw [if_neg hmax]
    refine ⟨trivial, fun r _ => ?_⟩
    cases r with
    | ok u => exact .inl ⟨hmax, rfl, accepted_append _ _⟩
    | error cause =>
        -- the refusal is noted, whatever the end of the tracker adds to that
        refine (noting_extends _).mono fun log' d h => .inr (.inr ?_)
        obtain ⟨l, rfl⟩ := h
        simp [noting, refused, Exchange.refused?]

/-- **The handling of a job whose invocation ends in a fault**, in an outage: with retries left the
job is tried once more, and otherwise its tracker is to be ended; nothing else is accepted. -/
theorem deliver_schedules (o : Outage) (others : Surroundings σ) {sc : Scene σ} {n : Nat}
    {f : Fault} (hex : sc.exchanges = [])
    (hf : ((c.perform job).run.run (Scene.answerIn o others) (sc, n)).1 = .error f)
    (hrow : f.isNotFound = false)
    (hacc : job.retried ∉
      refused ((c.deliver job).run (Scene.answerIn o others) (sc, n)).2.1.exchanges) :
    let r := (c.deliver job).run (Scene.answerIn o others) (sc, n)
    (¬c.settings.maxRetries ≤ job.attempt ∧
      r.1 = .retrying job.retried.attempt (Delivery.retryBackoff job.attempt) ∧
      accepted r.2.1.exchanges = [job.retried]) ∨
    (c.settings.maxRetries ≤ job.attempt ∧ r.1 = .exhausted ∧ accepted r.2.1.exchanges = []) := by
  intro r
  have hperform : Idle (c.perform job) := idle_perform
  obtain ⟨l₁, hl₁, hidle⟩ := noted (hperform []) o others sc n
  have hnone : accepted l₁ = [] := hidle f hf
  have hrun : r = (c.afterFault job f).run (Scene.answerIn o others)
      ((c.perform job).run.run (Scene.answerIn o others) (sc, n)).2 := by
    show ((c.perform job).run.bind _).run _ _ = _
    rw [Program.run_bind, hf]
  obtain ⟨l₂, hl₂, hafter⟩ := noted (noting_afterFault c job l₁ hrow) o others
    ((c.perform job).run.run (Scene.answerIn o others) (sc, n)).2.1
    ((c.perform job).run.run (Scene.answerIn o others) (sc, n)).2.2
  have hexchanges : r.2.1.exchanges = l₁ ++ l₂ := by
    rw [hrun, hl₂, hl₁, hex, List.nil_append]
  rw [hnone, List.nil_append] at hafter
  obtain ⟨hmax, hd, haccepted⟩ | ⟨hmax, hd, haccepted⟩ | hrefused := hafter
  · exact .inl ⟨hmax, hrun ▸ hd, hexchanges ▸ haccepted⟩
  · exact .inr ⟨hmax, hrun ▸ hd, hexchanges ▸ haccepted⟩
  · rw [← hexchanges] at hrefused
    exact absurd hrefused hacc

end ImportTracking.Work
