import ImportTracking.Delivery
import ImportTracking.Proofs.Apart

/-!
# Twins — programs that cannot tell two databases apart

Two programs are twins, to the tracker `n`, when they make the same calls, but for generated names,
and go on as twins after replies that the tracker cannot tell apart.  The work of a job on a
tracker is its own twin: whatever it does depends on what the tracker sees, and on nothing that is
generated.

* `Twins.bind`, `Twins.task_bind`, `Twins.tryCatch`: twins in sequence are twins.
* `twins_transition`, `twins_enqueueFrom`, …: one construct after another is its own twin.
* `twins_performLocked`: so is the work under a lease, and before and after it `twins_load`,
  `twins_admission` and `twins_afterFault`.

The lease itself is asked for and released in between, and is no matter of the tracker's rows.
-/

namespace ImportTracking

/-- A job that is scheduled, but for a generated id: a job that is put back gets a new id, and a
retry keeps its own. -/
def PipelineJob.anonymous (job : PipelineJob) : Option String × PipelineJob :=
  (if job.attempt = 0 then none else some job.jid, { job with jid := "" })

theorem PipelineJob.anonymous_reEnqueued (job : PipelineJob) (jid jid' : String) :
    (job.reEnqueued jid).anonymous = (job.reEnqueued jid').anonymous := rfl

namespace Work

/-- Requests in which nothing that is generated is named: no lease, and no job. -/
def Request.IsNameless : Request → Prop
  | .obtainLease _ _ | .releaseLease _ | .schedulePipeline _ _ | .scheduleBatch _ => False
  | _ => True

/-- Programs that make the same calls, but for generated names, with replies that the tracker `n`
cannot tell apart, and end with `post`. -/
inductive Twins (o : Database) (n : Int) {α β : Type} (post : α → β → Prop) :
    Program Work α → Program Work β → Prop where
  | done {a : α} {b : β} (h : post a b) : Twins o n post (.done a) (.done b)
  | query {s : Database.Statement} {f : Except Database.Error s.Result → Program Work α}
      {f' : Except Database.Error s.Result → Program Work β} (hs : s.Concerns n)
      (h : ∀ x x', Matches (s.Resembles o) x x' → Twins o n post (f x) (f' x')) :
      Twins o n post (.call (.session (.query s)) f) (.call (.session (.query s)) f')
  | now {f : Timestamp → Program Work α} {f' : Timestamp → Program Work β}
      (h : ∀ t, Twins o n post (f t) (f' t)) :
      Twins o n post (.call (.session .now) f) (.call (.session .now) f')
  | newJid {f : String → Program Work α} {f' : String → Program Work β}
      (h : ∀ jid jid', Twins o n post (f jid) (f' jid')) :
      Twins o n post (.call (.session .newJid) f) (.call (.session .newJid) f')
  | schedulePipeline {job job' : PipelineJob} {delay : Duration}
      {f : Except Cause Unit → Program Work α} {f' : Except Cause Unit → Program Work β}
      (hjob : job'.anonymous = job.anonymous) (h : ∀ r, Twins o n post (f r) (f' r)) :
      Twins o n post (.call (.request (.schedulePipeline job delay)) f)
        (.call (.request (.schedulePipeline job' delay)) f')
  | scheduleBatch {id id' : Int} {f : Except Cause Unit → Program Work α}
      {f' : Except Cause Unit → Program Work β}
      (hid : known o.lastBatchId id' = known o.lastBatchId id)
      (h : ∀ r, Twins o n post (f r) (f' r)) :
      Twins o n post (.call (.request (.scheduleBatch id)) f)
        (.call (.request (.scheduleBatch id')) f')
  | request {q : Request} {f : q.Reply → Program Work α} {f' : q.Reply → Program Work β}
      (hq : q.IsNameless) (h : ∀ r, Twins o n post (f r) (f' r)) :
      Twins o n post (.call (.request q) f) (.call (.request q) f')

/-! ### Sequences -/

section
variable {o : Database} {n : Int} {α β γ δ : Type}

theorem Twins.bind {M : α → β → Prop} {post : γ → δ → Prop} {p : Program Work α}
    {p' : Program Work β} {f : α → Program Work γ} {f' : β → Program Work δ}
    (hp : Twins o n M p p') (hf : ∀ a b, M a b → Twins o n post (f a) (f' b)) :
    Twins o n post (p.bind f) (p'.bind f') := by
  induction hp with
  | done h => exact hf _ _ h
  | query hs _ ih => exact .query hs ih
  | now _ ih => exact .now ih
  | newJid _ ih => exact .newJid ih
  | schedulePipeline hjob _ ih => exact .schedulePipeline hjob ih
  | scheduleBatch hid _ ih => exact .scheduleBatch hid ih
  | request hq _ ih => exact .request hq ih

theorem Twins.mono {M post : α → β → Prop} {p : Program Work α} {p' : Program Work β}
    (hp : Twins o n M p p') (h : ∀ a b, M a b → post a b) : Twins o n post p p' := by
  rw [← Program.bind_done p, ← Program.bind_done p']
  exact hp.bind fun a b hab => .done (h a b hab)

variable {M : α → β → Prop} {N : γ → δ → Prop}

/-- Twin tasks go on as twins after good results, and end at the same fault. -/
theorem Twins.task_bind {t : Task α} {t' : Task β} {f : α → Task γ} {f' : β → Task δ}
    (ht : Twins o n (Matches M) t.run t'.run)
    (hf : ∀ a b, M a b → Twins o n (Matches N) (f a).run (f' b).run) :
    Twins o n (Matches N) (t >>= f).run (t' >>= f').run := by
  rw [run_task_bind, run_task_bind]
  refine ht.bind fun x y hxy => ?_
  cases hxy with
  | ok h => exact hf _ _ h
  | error e => exact .done (.error e)

theorem Twins.lift_bind {p : Program Work α} {p' : Program Work β} {f : α → Task γ}
    {f' : β → Task δ} (hp : Twins o n M p p')
    (hf : ∀ a b, M a b → Twins o n (Matches N) (f a).run (f' b).run) :
    Twins o n (Matches N) ((monadLift p : Task α) >>= f).run
      ((monadLift p' : Task β) >>= f').run := by
  rw [run_lift_bind, run_lift_bind]
  exact hp.bind hf

theorem Twins.tryCatch {t : Task γ} {t' : Task δ} {f : Fault → Task γ} {f' : Fault → Task δ}
    (ht : Twins o n (Matches N) t.run t'.run)
    (hf : ∀ e, Twins o n (Matches N) (f e).run (f' e).run) :
    Twins o n (Matches N) (MonadExcept.tryCatch t f).run (MonadExcept.tryCatch t' f').run := by
  rw [run_tryCatch, run_tryCatch]
  refine ht.bind fun x y hxy => ?_
  cases hxy with
  | ok h => exact .done (.ok h)
  | error e => exact hf e

theorem twins_expect {ε : Type} {fault : ε → Fault} {p p' : Program Work (Except ε γ)}
    (hp : Twins o n Eq p p') :
    Twins o n (Matches Eq) (expect fault p).run (expect fault p').run := by
  rw [run_expect, run_expect]
  refine hp.bind fun x y hxy => .done ?_
  subst hxy
  exact .refl (fun _ => rfl) _

/-- A statement goes on with results that the tracker cannot tell apart. -/
theorem twins_query_bind {s : Database.Statement} {f : s.Result → Session.Task γ}
    {f' : s.Result → Session.Task δ} (hs : s.Concerns n)
    (h : ∀ a a', s.Resembles o a a' →
      Twins o n (Matches N) (onDatabase (f a)).run (onDatabase (f' a')).run) :
    Twins o n (Matches N) (onDatabase (Session.query s >>= f)).run
      (onDatabase (Session.query s >>= f')).run := by
  refine .query hs fun x x' hx => ?_
  cases hx with
  | ok hr => exact h _ _ hr
  | error e => exact .done (.error _)

end

/-! ### Rows -/

section
variable {o : Database} {n : Int} {γ δ : Type} {N : γ → δ → Prop}

/-- The same row of the tracker `n`. -/
def SameRow (n : Int) (t t' : Tracker) : Prop := t = t' ∧ t.id = n

theorem twins_findTracker_bind {f : Tracker → Session.Task γ} {f' : Tracker → Session.Task δ}
    (h : ∀ t, t.id = n → Twins o n (Matches N) (onDatabase (f t)).run (onDatabase (f' t)).run) :
    Twins o n (Matches N) (onDatabase (Session.findTracker n >>= f)).run
      (onDatabase (Session.findTracker n >>= f')).run := by
  rw [Session.findTracker, bind_assoc, bind_assoc]
  refine twins_query_bind rfl fun t t' ht => ?_
  obtain ⟨rfl, hid⟩ := ht
  cases t with
  | none => exact .done (.error _)
  | some t => exact h t (hid t rfl)

theorem twins_findTracker :
    Twins o n (Matches (SameRow n)) (onDatabase (Session.findTracker n)).run
      (onDatabase (Session.findTracker n)).run := by
  rw [← bind_pure (Session.findTracker n)]
  exact twins_findTracker_bind fun t hid => .done (.ok ⟨rfl, hid⟩)

/-- What a transition does depends on the row that was seen, and on the row that is there. -/
theorem twins_transition {t : Tracker} (hid : t.id = n) (tr : Tracker.Transition) :
    Twins o n (Matches (SameRow n)) (onDatabase (t.transition tr)).run
      (onDatabase (t.transition tr)).run := by
  unfold Tracker.transition
  split
  · exact .done (.error _)
  split
  · exact .done (.error _)
  · rename_i current _ next _
    subst hid
    refine .now fun now => twins_query_bind rfl fun count count' hcount => ?_
    replace hcount : count = 0 ↔ count' = 0 := hcount
    refine twins_findTracker_bind fun t' ht' => ?_
    have hsame : SameRow t.id t' t' := ⟨rfl, ht'⟩
    by_cases hc : count = 0
    · rw [if_pos hc, if_pos (hcount.mp hc)]
      split
      · exact .done (.error _)
      · split
        · exact .done (.ok hsame)
        · exact .done (.error _)
    · rw [if_neg hc, if_neg (mt hcount.mpr hc)]
      exact .done (.ok hsame)

/-- The same batch, but for a generated id. -/
def SameBatch (o : Database) (b b' : Batch) : Prop :=
  b'.anonymous o.lastBatchId = b.anonymous o.lastBatchId

/-- A batch that is looked up is there for both twins or for neither. -/
theorem twins_findBatch_bind {number : Int} {f : Option Batch → Session.Task γ}
    {f' : Option Batch → Session.Task δ}
    (hsome : ∀ b b', SameBatch o b b' →
      Twins o n (Matches N) (onDatabase (f (some b))).run (onDatabase (f' (some b'))).run)
    (hnone : Twins o n (Matches N) (onDatabase (f none)).run (onDatabase (f' none)).run) :
    Twins o n (Matches N) (onDatabase (Session.query (.findBatch n number) >>= f)).run
      (onDatabase (Session.query (.findBatch n number) >>= f')).run := by
  refine twins_query_bind rfl fun b b' h => ?_
  replace h : b'.map (Batch.anonymous o.lastBatchId) = b.map (Batch.anonymous o.lastBatchId) := h
  cases b with
  | none =>
      obtain rfl : b' = none := by simpa using h
      exact hnone
  | some b =>
      obtain ⟨b', rfl, hb⟩ := Option.map_eq_some_iff.mp h
      exact hsome b b' hb

theorem twins_findOrCreate (number : Int) :
    Twins o n (Matches (SameBatch o)) (onDatabase (Batch.findOrCreate n number)).run
      (onDatabase (Batch.findOrCreate n number)).run := by
  refine twins_findBatch_bind (fun b b' hb => .done (.ok hb)) ?_
  refine .now fun now => .query rfl fun x x' hx => ?_
  cases hx with
  | ok hb => exact .done (.ok hb)
  | error e =>
      change Twins o n _ (onDatabase (if e.isUniqueViolation then _ else _)).run
        (onDatabase (if e.isUniqueViolation then _ else _)).run
      split
      · exact twins_findBatch_bind (fun b b' hb => .done (.ok hb)) (.done (.error _))
      · exact .done (.error _)

end

/-! ### Invocations -/

section
variable {o : Database} {n : Int}

/-- The job of a batch is scheduled by the id of the batch, which may be generated. -/
theorem twins_scheduleBatch {b b' : Batch} (hb : SameBatch o b b') :
    Twins o n (Matches Eq) (expect .scheduling (request (.scheduleBatch b.id))).run
      (expect .scheduling (request (.scheduleBatch b'.id))).run :=
  .scheduleBatch (congrArg Prod.fst hb) fun _ => .done (.refl (fun _ => rfl) _)

theorem twins_enqueueFrom (count number : Nat) :
    Twins o n (Matches fun _ _ => True) (Batch.enqueueFrom n count number).run
      (Batch.enqueueFrom n count number).run := by
  induction count generalizing number with
  | zero => exact .done (.ok trivial)
  | succ count ih =>
      refine (twins_findOrCreate number).task_bind fun b b' hb => ?_
      refine (twins_scheduleBatch hb).task_bind fun _ _ _ => ?_
      exact (ih (number + 1)).task_bind fun _ _ _ => .done (.ok trivial)

theorem twins_enqueueAll {t : Tracker} (hid : t.id = n) (count : Nat) :
    Twins o n (Matches fun _ _ => True) (Batch.enqueueAll t count).run
      (Batch.enqueueAll t count).run := by
  subst hid
  unfold Batch.enqueueAll
  split
  · exact twins_enqueueFrom count 1
  · exact .done (.error _)

/-- A job is put back under a new id. -/
theorem twins_reEnqueue (job : PipelineJob) (delay : Duration) :
    Twins o n (Matches Eq) (reEnqueue job delay).run (reEnqueue job delay).run :=
  .newJid fun jid jid' => .schedulePipeline (job.anonymous_reEnqueued jid' jid) fun _ =>
    .done (.refl (fun _ => rfl) _)

/-- A job is put back, and an outcome follows. -/
theorem twins_reEnqueue_then (job : PipelineJob) (delay : Duration)
    (outcome : Invocation.Outcome) :
    Twins o n (Matches Eq) (reEnqueue job delay >>= fun _ => pure outcome : Task _).run
      (reEnqueue job delay >>= fun _ => pure outcome : Task _).run :=
  (twins_reEnqueue job delay).task_bind fun _ _ _ => .done (.ok rfl)

theorem twins_failTracker {t : Tracker} (hid : t.id = n) (e : Entity) (report : FaultReport)
    (a : Attributes) (jid correlationId : String) :
    Twins o n (Matches fun _ _ => True)
      (FailureLog.failTracker t e report a jid (some correlationId)).run
      (FailureLog.failTracker t e report a jid (some correlationId)).run := by
  refine (twins_transition hid _).task_bind ?_
  rintro t' _ ⟨rfl, -⟩
  refine .request trivial fun _ => .now fun now => .query trivial fun x x' hx => ?_
  cases hx with
  | ok => exact .done (.ok trivial)
  | error e => exact .done (.error _)

variable {c : Coordinator} {t : Tracker} {e : Entity} {job : PipelineJob}

/-- A transition, and an outcome after it. -/
theorem twins_transition_then (hid : t.id = n) (tr : Tracker.Transition)
    (outcome : Invocation.Outcome) :
    Twins o n (Matches Eq) (onDatabase (t.transition tr) >>= fun _ => pure outcome : Task _).run
      (onDatabase (t.transition tr) >>= fun _ => pure outcome : Task _).run :=
  (twins_transition hid tr).task_bind fun _ _ _ => .done (.ok rfl)

theorem twins_runPipeline (hid : t.id = n) (p : Pipeline) :
    Twins o n (Matches Eq) (Coordinator.runPipeline p t e job).run
      (Coordinator.runPipeline p t e job).run := by
  refine Twins.task_bind (twins_expect (.request trivial fun _ => .done rfl)) ?_
  rintro outcome _ rfl
  cases outcome with
  | ok => exact twins_transition_then hid _ _
  | retry delay reason =>
      exact (twins_transition hid _).task_bind fun _ _ _ => twins_reEnqueue_then job delay _
  | fatal errorClass message => exact .done (.error _)

theorem twins_act (hid : t.id = n) (d : Decision) (p : Option Pipeline) :
    Twins o n (Matches Eq) (c.act d p t e job).run (c.act d p t e job).run := by
  cases d with
  | skip => exact twins_transition_then hid _ _
  | fail f => exact .done (.error _)
  | reEnqueue => exact twins_reEnqueue_then job _ _
  | finishEmptyBatched =>
      refine (twins_transition hid _).task_bind ?_
      rintro t' _ ⟨rfl, hid'⟩
      exact twins_transition_then hid' _ _
  | startBatched count =>
      refine (twins_transition hid _).task_bind ?_
      rintro t' _ ⟨rfl, hid'⟩
      exact (twins_enqueueAll hid' count).task_bind fun _ _ _ => .done (.ok rfl)
  | run =>
      cases p with
      | none => exact .done (.error _)
      | some p =>
          refine (twins_transition hid _).task_bind ?_
          rintro t' _ ⟨rfl, hid'⟩
          exact twins_runPipeline hid' p

theorem twins_pollExport (p : Option Pipeline) :
    Twins o n Eq (Coordinator.pollExport p t e) (Coordinator.pollExport p t e) := by
  cases p with
  | none => exact .done rfl
  | some p =>
      change Twins o n _ (if p.fileExtraction && !e.isFailed then _ else _)
        (if p.fileExtraction && !e.isFailed then _ else _)
      split
      · exact .request trivial fun _ => .done rfl
      · exact .done rfl

theorem twins_runTracker (hid : t.id = n) :
    Twins o n (Matches Eq) (c.runTracker t e job).run (c.runTracker t e job).run := by
  refine (twins_pollExport _).lift_bind ?_
  rintro snapshot _ rfl
  exact .now fun now => twins_act hid _ _

theorem twins_recordIfTerminal (hjob : job.trackerId = n) (a : Attributes) (f : Fault) :
    Twins o n (Matches Eq) (Coordinator.recordIfTerminal e a job f).run
      (Coordinator.recordIfTerminal e a job f).run := by
  subst hjob
  unfold Coordinator.recordIfTerminal
  split
  · refine twins_findTracker.task_bind ?_
    rintro t _ ⟨rfl, hid⟩
    exact (twins_failTracker hid _ _ _ _ _).task_bind fun _ _ _ => .done (.ok rfl)
  · exact .done (.error f)

/-- **The work under the lease of a tracker** depends on what the tracker sees, alone. -/
theorem twins_performLocked (hjob : job.trackerId = n) (a : Attributes) :
    Twins o n (Matches Eq) (c.performLocked job e a).run (c.performLocked job e a).run := by
  subst hjob
  refine twins_findTracker.task_bind ?_
  rintro t _ ⟨rfl, hid⟩
  split
  · exact (twins_runTracker hid).tryCatch fun f => twins_recordIfTerminal rfl _ f
  · exact .done (.ok rfl)

/-- The same subject, which is about the tracker `n`. -/
def SameSubject (n : Int) (s s' : Coordinator.Subject) : Prop := s = s' ∧ s.tracker.id = n

theorem twins_load (hjob : job.trackerId = n) :
    Twins o n (Matches (SameSubject n)) (onDatabase (Coordinator.load job)).run
      (onDatabase (Coordinator.load job)).run := by
  subst hjob
  rw [Coordinator.load, Session.findEntity, bind_assoc]
  refine twins_query_bind trivial ?_
  rintro e _ rfl
  cases e with
  | none => exact .done (.error _)
  | some e =>
      change Twins o job.trackerId _ (onDatabase (Session.findTracker job.trackerId >>= _)).run
        (onDatabase (Session.findTracker job.trackerId >>= _)).run
      refine twins_findTracker_bind fun t hid => ?_
      rw [Session.sourceVersion, bind_assoc]
      refine twins_query_bind trivial ?_
      rintro i _ rfl
      exact .done (.ok ⟨rfl, hid⟩)

theorem twins_admission (s : Settings) (ds : List Health.Destination) :
    Twins o n Eq (Health.admission s ds t e) (Health.admission s ds t e) := by
  unfold Health.admission
  split
  · refine .request trivial fun r => ?_
    rcases r with _ | _ | _ <;> exact .done rfl
  · exact .done rfl

theorem twins_exhaust (hjob : job.trackerId = n) (f : Fault) :
    Twins o n Eq (Coordinator.exhaust job f) (Coordinator.exhaust job f) := by
  have hfail : Twins o n (Matches fun _ _ => True) (Coordinator.performFailure job f).run
      (Coordinator.performFailure job f).run := by
    refine (twins_load hjob).task_bind ?_
    rintro s _ ⟨rfl, hid⟩
    exact twins_failTracker hid _ _ _ _ _
  exact hfail.bind fun _ _ _ => .done rfl

/-- **What follows a fault** depends on what the tracker sees, alone. -/
theorem twins_afterFault (hjob : job.trackerId = n) (f : Fault) :
    Twins o n Eq (c.afterFault job f) (c.afterFault job f) := by
  unfold Coordinator.afterFault
  split
  · exact .done rfl
  split
  · exact twins_exhaust hjob f
  · refine .schedulePipeline rfl fun r => ?_
    cases r with
    | ok => exact .done rfl
    | error cause => exact twins_exhaust hjob f

end

end Work

end ImportTracking
