import ImportTracking.Invocation
import ImportTracking.Proofs.FanOut
import ImportTracking.Proofs.Transitions

/-!
# Turn — what is done with a tracker that may be run

A turn polls the export of the tracker, decides, and carries the decision out.  `Polls` says what
a poll asks and learns, and `Acts` what carrying a decision out asks of others, ends in and
leaves, with one case for every way it can go.

* `plays_act`: carrying a decision out goes in one of the ways of `Acts`.
* `plays_runTracker`: a turn is a poll and an action, on the decision that the poll leads to.
-/

namespace ImportTracking

namespace Tracker

/-- The row of a tracker after a job moved it. -/
def moved (t : Tracker) (s : Status) (jid : String) (batched : Bool) (now : Timestamp) : Tracker :=
  { t with status := s.name, jid := some jid, batched := batched, updatedAt := now }

section
variable (t : Tracker) (s : Status) (jid : String) (batched : Bool) (now : Timestamp)

@[simp] theorem known?_moved : (t.moved s jid batched now).known? = some s :=
  known?_of_status rfl

@[simp] theorem isRunnable_moved : (t.moved s jid batched now).isRunnable = s.isRunnable := by
  rw [isRunnable, known?_moved]

/-- Of two moves the last one counts. -/
@[simp] theorem moved_moved (s' : Status) (jid' : String) (batched' : Bool) (now' : Timestamp) :
    (t.moved s jid batched now).moved s' jid' batched' now' = t.moved s' jid' batched' now' :=
  rfl

end

end Tracker

namespace Database

variable {db : Database} {t : Tracker} {s : Tracker.Status} {jid : String} {batched : Bool}
  {now : Timestamp}

/-- The row that a move put is found where the tracker was. -/
theorem tracker?_putTracker_moved {id : Int} (ht : db.tracker? id = some t) :
    (db.putTracker (t.moved s jid batched now)).tracker? id =
      some (t.moved s jid batched now) := by
  obtain rfl := id_of_tracker? ht
  have h : db.tracker? (t.moved s jid batched now).id = some t := ht
  exact tracker?_putTracker_self h

theorem putTracker_moved_moved {s' : Tracker.Status} {jid' : String} {batched' : Bool}
    {now' : Timestamp} :
    (db.putTracker (t.moved s jid batched now)).putTracker (t.moved s' jid' batched' now') =
      db.putTracker (t.moved s' jid' batched' now') :=
  putTracker_putTracker db rfl

end Database

namespace Decision

/-- What is decided on is to skip, to run, or what the export asks for. -/
theorem decide_eq (cs : Circumstances) :
    decide cs = .skip ∨ decide cs = .run ∨
      ∃ s, cs.exportStatus = some s ∧ decide cs = ofExport s cs.age cs.emptyExportTimeout := by
  unfold decide
  cases cs.exportStatus with
  | none => cases cs.entityFailed <;> simp
  | some s => cases cs.entityFailed <;> cases cs.fileExtraction <;> simp

/-- A fan-out is decided on for an export in so many batches. -/
theorem of_decide_startBatched {cs : Circumstances} {n : Nat} (h : decide cs = .startBatched n) :
    ∃ s, cs.exportStatus = some s ∧ s.batchCount = n ∧ 1 ≤ n := by
  obtain hs | hr | ⟨s, hs, he⟩ := decide_eq cs
  · rw [hs] at h
    cases h
  · rw [hr] at h
    cases h
  · rw [he] at h
    unfold ofExport at h
    exact ⟨s, hs, by grind, by grind⟩

/-- Finishing without a run is decided on for an export in no batches. -/
theorem of_decide_finishEmptyBatched {cs : Circumstances} (h : decide cs = .finishEmptyBatched) :
    ∃ s, cs.exportStatus = some s ∧ s.batched = true ∧ s.batchCount = 0 := by
  obtain hs | hr | ⟨s, hs, he⟩ := decide_eq cs
  · rw [hs] at h
    cases h
  · rw [hr] at h
    cases h
  · rw [he] at h
    unfold ofExport at h
    exact ⟨s, hs, by grind, by grind⟩

end Decision

namespace Coordinator

open Work Tracker
open Invocation (Outcome)

/-! ### Polls -/

/-- What a poll asks, and what it learns of the export. -/
inductive Polls (p : Option Pipeline) (t : Tracker) (e : Entity) :
    List Exchange → Option Export.Snapshot → Prop where
  | nothing (h : ∀ p', p = some p' → e.isFailed = false → p'.fileExtraction = false) :
      Polls p t e [] none
  | read {p' : Pipeline} (hp : p = some p') (hf : p'.fileExtraction = true)
      (he : e.isFailed = false) (reply : Except Cause Export.Payload) :
      Polls p t e [⟨.readExport t e p'.relation, reply⟩]
        (some (Export.Snapshot.ofReply p'.relation (reply.mapError Cause.text)))

theorem plays_pollExport {κ : Clock} {p : Option Pipeline} {t : Tracker} {e : Entity}
    {db db' : Database} {log : List Exchange} {o : Option Export.Snapshot}
    (h : Plays κ (pollExport p t e) db log o db') : db' = db ∧ Polls p t e log o := by
  cases p with
  | none =>
      obtain ⟨rfl, rfl, rfl⟩ := h
      exact ⟨rfl, .nothing fun _ hp => nomatch hp⟩
  | some p =>
      rw [pollExport] at h
      by_cases hc : (p.fileExtraction && !e.isFailed) = true
      · obtain ⟨hf, he⟩ : p.fileExtraction = true ∧ e.isFailed = false := by simpa using hc
        rw [if_pos hc] at h
        obtain ⟨reply, rest, rfl, rfl, rfl, rfl⟩ := h
        exact ⟨rfl, .read rfl hf he reply⟩
      · rw [if_neg hc] at h
        obtain ⟨rfl, rfl, rfl⟩ := h
        refine ⟨rfl, .nothing fun p' hp he => ?_⟩
        cases hp
        simpa [he] using hc

/-- A poll runs nothing and schedules nothing. -/
theorem Polls.idle {p : Option Pipeline} {t : Tracker} {e : Entity} {log : List Exchange}
    {o : Option Export.Snapshot} (h : Polls p t e log o) : accepted log = [] ∧ runs log = [] := by
  cases h with
  | nothing | read => exact ⟨rfl, rfl⟩

/-! ### Actions -/

/-- The exchanges, the result and the database of a decision that is carried out on a tracker. -/
inductive Acts (c : Coordinator) (p : Option Pipeline) (t : Tracker) (e : Entity)
    (job : PipelineJob) (db : Database) :
    Decision → List Exchange → Except Fault Outcome → Database → Prop where
  | skip (now : Timestamp) :
      Acts c p t e job db .skip [] (.ok .skipped)
        (db.putTracker (t.moved .skipped job.jid t.batched now))
  | fail (f : PipelineFault) : Acts c p t e job db (.fail f) [] (.error (.pipeline f)) db
  | reEnqueue (jid : String) :
      Acts c p t e job db .reEnqueue
        [⟨.schedulePipeline (job.reEnqueued jid) c.settings.reEnqueueDelay, .ok ()⟩]
        (.ok (.reEnqueued c.settings.reEnqueueDelay)) db
  | reEnqueueRefused (jid : String) (cause : Cause) :
      Acts c p t e job db .reEnqueue
        [⟨.schedulePipeline (job.reEnqueued jid) c.settings.reEnqueueDelay, .error cause⟩]
        (.error (.scheduling cause)) db
  | finishEmpty (now : Timestamp) :
      Acts c p t e job db .finishEmptyBatched [] (.ok .finished)
        (db.putTracker (t.moved .finished job.jid true now))
  | fannedOut {n : Nat} {now : Timestamp} {log : List Exchange} {bs : List Batch}
      {db' : Database}
      (hf : Batch.FansOut t.id n 1 (db.putTracker (t.moved .started job.jid true now)) log
        (.ok bs) db') :
      Acts c p t e job db (.startBatched n) log (.ok (.batchesEnqueued n)) db'
  | fanOutStopped {n : Nat} {now : Timestamp} {log : List Exchange} {f : Fault} {db' : Database}
      (hf : Batch.FansOut t.id n 1 (db.putTracker (t.moved .started job.jid true now)) log
        (.error f) db') :
      Acts c p t e job db (.startBatched n) log (.error f) db'
  | unknown (hp : p = none) :
      Acts c p t e job db .run [] (.error (.unknownPipeline t.pipelineName)) db
  | ran {p' : Pipeline} (hp : p = some p') (now now' : Timestamp) :
      Acts c p t e job db .run
        [⟨.runPipeline p' ⟨t.moved .started job.jid t.batched now, e, job.jid⟩, .ok .ok⟩]
        (.ok .finished) (db.putTracker (t.moved .finished job.jid t.batched now'))
  | crashed {p' : Pipeline} (hp : p = some p') (now : Timestamp) (cause : Cause) :
      Acts c p t e job db .run
        [⟨.runPipeline p' ⟨t.moved .started job.jid t.batched now, e, job.jid⟩, .error cause⟩]
        (.error (.unexpected cause)) (db.putTracker (t.moved .started job.jid t.batched now))
  | gaveUp {p' : Pipeline} (hp : p = some p') (now : Timestamp) (errorClass message : String) :
      Acts c p t e job db .run
        [⟨.runPipeline p' ⟨t.moved .started job.jid t.batched now, e, job.jid⟩,
          .ok (.fatal errorClass message)⟩]
        (.error (.pipeline (.fatal errorClass message)))
        (db.putTracker (t.moved .started job.jid t.batched now))
  | retried {p' : Pipeline} (hp : p = some p') (now now' : Timestamp) (delay : Duration)
      (reason jid : String) :
      Acts c p t e job db .run
        [⟨.runPipeline p' ⟨t.moved .started job.jid t.batched now, e, job.jid⟩,
          .ok (.retry delay reason)⟩,
          ⟨.schedulePipeline (job.reEnqueued jid) delay, .ok ()⟩]
        (.ok (.retrying delay)) (db.putTracker (t.moved .enqueued job.jid t.batched now'))
  | retryRefused {p' : Pipeline} (hp : p = some p') (now now' : Timestamp) (delay : Duration)
      (reason jid : String) (cause : Cause) :
      Acts c p t e job db .run
        [⟨.runPipeline p' ⟨t.moved .started job.jid t.batched now, e, job.jid⟩,
          .ok (.retry delay reason)⟩,
          ⟨.schedulePipeline (job.reEnqueued jid) delay, .error cause⟩]
        (.error (.scheduling cause)) (db.putTracker (t.moved .enqueued job.jid t.batched now'))

section
variable {κ : Clock} {c : Coordinator} {t : Tracker} {e : Entity} {job : PipelineJob}
  {db db' : Database} {log : List Exchange}

/-- An enqueued or started tracker is started on behalf of a job. -/
theorem plays_start_bind {β : Type} (hk : db.Keyed)
    (ht : db.tracker? t.id = some t) (hrun : t.isRunnable = true) {batched : Option Bool}
    {f : Tracker → Work.Task β} {r : Except Fault β}
    (h : Plays κ (start t job batched >>= f).run db log r db') :
    ∃ now, Plays κ (f (t.moved .started job.jid (batched.getD t.batched) now)).run
      (db.putTracker (t.moved .started job.jid (batched.getD t.batched) now)) log r db' := by
  obtain hs | hs := isRunnable_iff.mp hrun
  · exact plays_transition_bind hk ht hs rfl h
  · exact plays_transition_bind hk ht hs rfl h

/-- A tracker that a job started is moved on, and keeps what the job recorded. -/
theorem plays_onward_bind {β : Type} {batched : Bool} {now : Timestamp} {tr : Transition}
    {next : Status} (hk : db.Keyed) (ht : db.tracker? t.id = some t)
    (hn : Status.started.apply tr.event = some next)
    (hrow : ∀ now', tr.result (t.moved .started job.jid batched now) next now' =
      t.moved next job.jid batched now')
    {f : Tracker → Work.Task β} {r : Except Fault β}
    (h : Plays κ (onDatabase ((t.moved .started job.jid batched now).transition tr) >>= f).run
      (db.putTracker (t.moved .started job.jid batched now)) log r db') :
    ∃ now', Plays κ (f (t.moved next job.jid batched now')).run
      (db.putTracker (t.moved next job.jid batched now')) log r db' := by
  obtain ⟨now', h⟩ := plays_transition_bind (Database.keyed_putTracker hk _)
    (Database.tracker?_putTracker_moved ht) (known?_moved ..)
    hn h
  rw [hrow, Database.putTracker_moved_moved] at h
  exact ⟨now', h⟩

/-- **A pipeline that is run** ends in one of its ways. -/
theorem plays_runPipeline {p : Pipeline} {now : Timestamp} {r : Except Fault Outcome}
    (hk : db.Keyed) (ht : db.tracker? t.id = some t)
    (h : Plays κ (runPipeline p (t.moved .started job.jid t.batched now) e job).run
      (db.putTracker (t.moved .started job.jid t.batched now)) log r db') :
    Acts c (some p) t e job db .run log r db' := by
  obtain ⟨l₁, l₂, outcome, db₁, rfl, hran, hnext⟩ | ⟨f, rfl, hran⟩ := plays_task_bind.mp h
  · obtain ⟨reply, hreply, hok⟩ := plays_expect.mp hran
    obtain ⟨rfl, rfl⟩ := plays_request.mp hreply
    obtain rfl : reply = .ok outcome := by
      cases reply with
      | ok o => exact congrArg _ (Except.ok.inj hok).symm
      | error cause => cases hok
    cases outcome with
    | ok =>
        obtain ⟨now', hend⟩ := plays_onward_bind hk ht rfl (fun _ => rfl) hnext
        obtain ⟨rfl, rfl, rfl⟩ := hend
        exact .ran rfl now now'
    | retry delay reason =>
        obtain ⟨now', hback⟩ := plays_onward_bind hk ht rfl (fun _ => rfl) hnext
        obtain ⟨rfl, jid, ⟨rfl, rfl⟩ | ⟨cause, rfl, rfl⟩⟩ := plays_reEnqueue_return hback
        · exact .retried rfl now now' delay reason jid
        · exact .retryRefused rfl now now' delay reason jid cause
    | fatal errorClass message =>
        obtain ⟨rfl, rfl, rfl⟩ := hnext
        exact .gaveUp rfl now errorClass message
  · obtain ⟨reply, hreply, herr⟩ := plays_expect.mp hran
    obtain ⟨rfl, rfl⟩ := plays_request.mp hreply
    cases reply with
    | ok o => cases herr
    | error cause =>
        cases herr
        exact .crashed rfl now cause

/-- **Carrying a decision out** goes in one of its ways. -/
theorem plays_act {p : Option Pipeline} {d : Decision} {r : Except Fault Outcome}
    (hk : db.Keyed) (ht : db.tracker? t.id = some t) (hrun : t.isRunnable = true)
    (hd : ∀ n, d = .startBatched n → n ≤ Batch.maxCount)
    (h : Plays κ (c.act d p t e job).run db log r db') : Acts c p t e job db d log r db' := by
  cases d with
  | skip =>
      have hskip : ∃ s, t.known? = some s ∧ s.apply .skip = some .skipped := by
        obtain hs | hs := isRunnable_iff.mp hrun
        · exact ⟨_, hs, rfl⟩
        · exact ⟨_, hs, rfl⟩
      obtain ⟨s, hs, hn⟩ := hskip
      obtain ⟨now, hend⟩ := plays_transition_bind hk ht hs hn h
      obtain ⟨rfl, rfl, rfl⟩ := hend
      exact .skip now
  | fail f =>
      obtain ⟨rfl, rfl, rfl⟩ := h
      exact .fail f
  | reEnqueue =>
      obtain ⟨rfl, jid, ⟨rfl, rfl⟩ | ⟨cause, rfl, rfl⟩⟩ := plays_reEnqueue_return h
      · exact .reEnqueue jid
      · exact .reEnqueueRefused jid cause
  | finishEmptyBatched =>
      obtain ⟨now, hstarted⟩ := plays_start_bind hk ht hrun h
      obtain ⟨now', hend⟩ := plays_onward_bind hk ht rfl (fun _ => rfl) hstarted
      obtain ⟨rfl, rfl, rfl⟩ := hend
      exact .finishEmpty now'
  | startBatched n =>
      obtain ⟨now, hstarted⟩ := plays_start_bind hk ht hrun h
      have ht' : (db.putTracker (t.moved .started job.jid true now)).hasTracker t.id = true :=
        Database.hasTracker_of_tracker? (Database.tracker?_putTracker_moved ht)
      obtain ⟨l₁, l₂, bs, db₁, rfl, hall, hend⟩ | ⟨f, rfl, hall⟩ := plays_task_bind.mp hstarted
      · rw [Batch.enqueueAll, if_pos (hd n rfl)] at hall
        obtain ⟨rfl, rfl, rfl⟩ := plays_pure.mp hend
        rw [List.append_nil]
        exact .fannedOut (Batch.plays_enqueueFrom ht' hall)
      · rw [Batch.enqueueAll, if_pos (hd n rfl)] at hall
        exact .fanOutStopped (Batch.plays_enqueueFrom ht' hall)
  | run =>
      cases p with
      | none =>
          obtain ⟨rfl, rfl, rfl⟩ := h
          exact .unknown rfl
      | some p =>
          obtain ⟨now, hstarted⟩ := plays_start_bind hk ht hrun h
          exact plays_runPipeline hk ht hstarted

/-! ### Turns -/

/-- What is known about a tracker after a poll. -/
def circumstances (c : Coordinator) (t : Tracker) (e : Entity) (o : Option Export.Snapshot)
    (now : Timestamp) : Decision.Circumstances :=
  { entityFailed := e.isFailed
    fileExtraction := (c.registry.find? t.pipelineName).any (·.fileExtraction)
    exportStatus := o
    age := age now t e
    emptyExportTimeout := c.settings.emptyExportTimeout }

/-- **A turn** polls the export, and carries out the decision that this leads to. -/
theorem plays_runTracker {r : Except Fault Outcome} (hk : db.Keyed)
    (ht : db.tracker? t.id = some t) (hrun : t.isRunnable = true)
    (h : Plays κ (c.runTracker t e job).run db log r db') :
    ∃ o now l₁ l₂, κ now ∧ log = l₁ ++ l₂ ∧ Polls (c.registry.find? t.pipelineName) t e l₁ o ∧
      Acts c (c.registry.find? t.pipelineName) t e job db
        (Decision.decide (c.circumstances t e o now)) l₂ r db' := by
  obtain ⟨l₁, l₂, o, db₁, rfl, hpoll, hrest⟩ := plays_lift_bind.mp h
  obtain ⟨rfl, hp⟩ := plays_pollExport hpoll
  obtain ⟨l₃, l₄, now, db₂, rfl, hnow, hact⟩ := plays_lift_bind.mp hrest
  obtain ⟨hκ, rfl, rfl⟩ := plays_now.mp hnow
  refine ⟨o, now, l₁, l₄, hκ, rfl, hp, plays_act hk ht hrun ?_ hact⟩
  -- the count of a batched export that was polled fits a batch number
  intro n hn
  obtain ⟨s, hs, rfl, -⟩ := Decision.of_decide_startBatched hn
  cases hp with
  | nothing => cases hs
  | read hp hf he reply =>
      cases hs
      exact Export.Snapshot.ofReply_batchCount_le _ _

end

end Coordinator

end ImportTracking
