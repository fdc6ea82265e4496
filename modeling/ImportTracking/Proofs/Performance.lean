import ImportTracking.Proofs.Turn

/-!
# Performance — one invocation of a tracker

An invocation may put its job off, find the lease held by another, or serve the tracker under the
lease: by a turn, whose terminal fault is recorded, if the tracker may be run.  `Serves` and
`Performs` list the ways this can go, and `Kept` says what all of them leave of the tracker.

* `plays_failTracker`: a tracker that is stored is failed, reported and recorded.
* `plays_perform`: every play of an invocation goes in one of the ways of `Performs`.
* `Performs.kept`: whichever way, the tracker is the same or was moved on behalf of the job.
-/

namespace ImportTracking

open Work Tracker

/-! ### What is kept -/

/-- The row `t` is in `db` as it was, or moved on behalf of a job. -/
def Kept (t : Tracker) (jid : String) (db : Database) : Prop :=
  ∃ t', db.tracker? t.id = some t' ∧ (t' = t ∨ ∃ s batched now, t' = t.moved s jid batched now)

namespace Kept

variable {t : Tracker} {jid : String} {db : Database}

theorem same (ht : db.tracker? t.id = some t) : Kept t jid db := ⟨t, ht, .inl rfl⟩

/-- A tracker that was moved is kept so. -/
theorem moved (ht : db.tracker? t.id = some t) (s : Status) (batched : Bool) (now : Timestamp) :
    Kept t jid (db.putTracker (t.moved s jid batched now)) :=
  ⟨_, Database.tracker?_putTracker_moved ht, .inr ⟨s, batched, now, rfl⟩⟩

theorem addBatches (h : Kept t jid db) (rows : List Batch) : Kept t jid (db.addBatches rows) := by
  unfold Kept
  rw [Database.tracker?_addBatches]
  exact h

/-- A row that is kept is of the same pipeline and as old as it was. -/
theorem lasting (h : Kept t jid db) {t' : Tracker} (ht' : db.tracker? t.id = some t') :
    t'.pipelineName = t.pipelineName ∧ t'.createdAt = t.createdAt := by
  obtain ⟨_, ht, rfl | ⟨_, _, _, rfl⟩⟩ := h
  · obtain rfl := Option.some.inj (ht.symm.trans ht')
    exact ⟨rfl, rfl⟩
  · obtain rfl := Option.some.inj (ht.symm.trans ht')
    exact ⟨rfl, rfl⟩

theorem known? (h : Kept t jid db) (hs : ∃ s, t.known? = some s) :
    ∃ t', db.tracker? t.id = some t' ∧ ∃ s, t'.known? = some s := by
  obtain ⟨_, ht, rfl | ⟨s, batched, now, rfl⟩⟩ := h
  · exact ⟨_, ht, hs⟩
  · exact ⟨_, ht, s, known?_moved ..⟩

end Kept

/-! ### Failing -/

namespace FailureLog

/-- The row that records a fault that ended a tracker. -/
def row (db : Database) (t : Tracker) (e : Entity) (report : FaultReport) (job : PipelineJob)
    (now : Timestamp) : Failure :=
  { id := db.nextFailureId
    entityId := e.id
    pipelineClass := t.pipelineName
    pipelineStep := step
    exceptionClass := report.errorClass
    exceptionMessage := report.message
    correlationId := job.correlationId
    createdAt := now }

/-- **A tracker that is stored is failed**, reported and recorded; where there is no table of
failures, the recording alone is refused. -/
theorem plays_failTracker {κ : Clock} {t : Tracker} {e : Entity} {report : FaultReport}
    {a : Attributes} {job : PipelineJob} {db db' : Database} {log : List Exchange}
    {r : Except Fault Failure}
    (hk : db.Keyed) (ht : db.tracker? t.id = some t) (hs : ∃ s, t.known? = some s)
    (he : db.hasEntity e.id = true)
    (h : Plays κ (failTracker t e report a job.jid (some job.correlationId)).run db log r db') :
    ∃ now now', log = [⟨.track report (a.withStatus (t.moved .failed job.jid t.batched now)), ()⟩] ∧
      (db.hasTable .failures = true → r = .ok (row db t e report job now')) ∧
      (db.hasTable .failures = false → ∃ g, r = .error (.database g)) ∧
      db' = (db.putTracker (t.moved .failed job.jid t.batched now)).addFailure
        (row db t e report job now') := by
  obtain ⟨s, hs⟩ := hs
  obtain ⟨now, hfailed⟩ := plays_transition_bind hk ht hs s.apply_fail h
  obtain ⟨l₁, l₂, u, db₁, rfl, htrack, hrest⟩ := plays_lift_bind.mp hfailed
  obtain ⟨rfl, rfl⟩ := plays_request.mp htrack
  obtain ⟨l₃, l₄, now', db₂, rfl, hnow, hinsert⟩ := plays_lift_bind.mp hrest
  obtain ⟨-, rfl, rfl⟩ := plays_now.mp hnow
  refine ⟨now, now', ?_⟩
  cases htab : db.hasTable .failures with
  | true =>
      have htab' : (db.putTracker (t.moved .failed job.jid t.batched now)).hasTable .failures :=
        htab
      obtain ⟨rfl, rfl, rfl⟩ :=
        (plays_query_ok (Database.execute_insertFailure htab' (by exact he))).mp hinsert
      exact ⟨rfl, fun _ => rfl, nofun, rfl⟩
  | false =>
      have htab' : (db.putTracker (t.moved .failed job.jid t.batched now)).hasTable .failures =
          false := htab
      obtain ⟨rfl, rfl, rfl⟩ :=
        (plays_query_error (Database.execute_insertFailure_of_none htab' _)).mp hinsert
      exact ⟨rfl, nofun, fun _ => ⟨_, rfl⟩, (Database.addFailure_of_none htab' _).symm⟩

end FailureLog

/-! ### Under the lease -/

namespace Coordinator

open Invocation (Outcome)

/-- What is done with a tracker under its lease, with the times of the clock `κ`. -/
inductive Serves (κ : Clock) (c : Coordinator) (t : Tracker) (e : Entity) (a : Attributes)
    (job : PipelineJob) (db : Database) :
    List Exchange → Except Fault Outcome → Database → Prop where
  | notRunnable (h : t.isRunnable = false) :
      Serves κ c t e a job db [] (.ok (.notRunnable t.status)) db
  | acted {o : Option Export.Snapshot} {now : Timestamp} {l₁ l₂ : List Exchange}
      {r : Except Fault Outcome} {db' : Database} (hrun : t.isRunnable = true) (hκ : κ now)
      (hp : Polls (c.registry.find? t.pipelineName) t e l₁ o)
      (ha : Acts c (c.registry.find? t.pipelineName) t e job db
        (Decision.decide (c.circumstances t e o now)) l₂ r db')
      (hr : ∀ f, r = .error f → f.isTerminal = false) :
      Serves κ c t e a job db (l₁ ++ l₂) r db'
  | recorded {o : Option Export.Snapshot} {now now₁ now₂ : Timestamp} {l₁ l₂ : List Exchange}
      {f : PipelineFault} {db₁ : Database} (hrun : t.isRunnable = true) (hκ : κ now)
      (hp : Polls (c.registry.find? t.pipelineName) t e l₁ o)
      (ha : Acts c (c.registry.find? t.pipelineName) t e job db
        (Decision.decide (c.circumstances t e o now)) l₂ (.error (.pipeline f)) db₁)
      {r : Except Fault Outcome}
      (hok : db.hasTable .failures = true → r = .ok (.failed f.errorClass))
      (herr : db.hasTable .failures = false → ∃ g, r = .error (.database g)) :
      Serves κ c t e a job db
        (l₁ ++ l₂ ++ [⟨.track (Fault.pipeline f).report
          (a.withStatus (t.moved .failed job.jid t.batched now₁)), ()⟩])
        r ((db.putTracker (t.moved .failed job.jid t.batched now₁)).addFailure
          (FailureLog.row db t e (Fault.pipeline f).report job now₂))

variable {κ : Clock} {c : Coordinator} {t : Tracker} {e : Entity} {a : Attributes}
  {job : PipelineJob} {db db' : Database} {log : List Exchange}

namespace Acts

variable {p : Option Pipeline} {d : Decision} {r : Except Fault Outcome}

/-- An action keeps the tracker or moves it. -/
theorem kept (ht : db.tracker? t.id = some t)
    (h : Acts c p t e job db d log r db') : Kept t job.jid db' := by
  cases h with
  | skip | finishEmpty | ran | crashed | gaveUp | retried | retryRefused => exact .moved ht _ _ _
  | fail | reEnqueue | reEnqueueRefused | unknown => exact .same ht
  | fannedOut hf | fanOutStopped hf =>
      obtain ⟨rows, -, rfl⟩ := hf.addBatches
      exact (Kept.moved ht _ _ _).addBatches rows

/-- A fault of an action is no missing row, and one that ends the tracker leaves it as it was or
started. -/
theorem error {f : Fault} (h : Acts c p t e job db d log (.error f) db') :
    f.isNotFound = false ∧ (f.isTerminal = true → (∃ g, f = .pipeline g) ∧
      (db' = db ∨ ∃ now, db' = db.putTracker (t.moved .started job.jid t.batched now))) := by
  cases h with
  | fail g => exact ⟨rfl, fun _ => ⟨⟨g, rfl⟩, .inl rfl⟩⟩
  | gaveUp _ now => exact ⟨rfl, fun _ => ⟨⟨_, rfl⟩, .inr ⟨now, rfl⟩⟩⟩
  | fanOutStopped hf =>
      obtain ⟨cause, rfl⟩ | ⟨g, rfl⟩ := hf.error rfl <;> exact ⟨rfl, fun h => nomatch h⟩
  | reEnqueueRefused | unknown | crashed | retryRefused => exact ⟨rfl, fun h => nomatch h⟩

end Acts

/-- What a terminal fault leads to: the tracker is failed, and the fault recorded, where there is a
table of failures. -/
def Recorded (t : Tracker) (e : Entity) (a : Attributes) (job : PipelineJob) (f : PipelineFault)
    (db : Database) (log : List Exchange) (r : Except Fault Outcome) (db' : Database) : Prop :=
  ∃ now now',
    log = [⟨.track (Fault.pipeline f).report
      (a.withStatus (t.moved .failed job.jid t.batched now)), ()⟩] ∧
    (db.hasTable .failures = true → r = .ok (.failed f.errorClass)) ∧
    (db.hasTable .failures = false → ∃ g, r = .error (.database g)) ∧
    db' = (db.putTracker (t.moved .failed job.jid t.batched now)).addFailure
      (FailureLog.row db t e (Fault.pipeline f).report job now')

/-- A fault of an action leaves the tracker such that it may be run, with no job accepted and
nothing recorded. -/
theorem Acts.undecided {p : Option Pipeline} {d : Decision} {f : Fault}
    (ht : db.tracker? t.id = some t) (hrun : t.isRunnable = true)
    (h : Acts c p t e job db d log (.error f) db') :
    (∃ t', db'.tracker? t.id = some t' ∧ t'.isRunnable = true) ∧ accepted log = [] ∧
      db'.failures = db.failures := by
  have hmoved (s : Status) (batched : Bool) (now : Timestamp) :
      (db.putTracker (t.moved s job.jid batched now)).tracker? t.id =
        some (t.moved s job.jid batched now) := Database.tracker?_putTracker_moved ht
  have hstarted (batched : Bool) (now : Timestamp) :
      (t.moved .started job.jid batched now).isRunnable = true := isRunnable_moved ..
  cases h with
  | fail | reEnqueueRefused | unknown => exact ⟨⟨t, ht, hrun⟩, rfl, rfl⟩
  | crashed _ now | gaveUp _ now =>
      exact ⟨⟨_, hmoved .started _ now, hstarted _ now⟩, rfl, rfl⟩
  | retryRefused _ _ now =>
      exact ⟨⟨_, hmoved .enqueued _ now, isRunnable_moved ..⟩, rfl, rfl⟩
  | @fanOutStopped n now _ _ _ hf =>
      obtain ⟨rows, -, rfl⟩ := hf.addBatches
      refine ⟨⟨_, ?_, hstarted true now⟩, hf.idle.1, Database.failures_addBatches rows⟩
      rw [Database.tracker?_addBatches]
      exact hmoved .started true now

/-- A terminal fault is recorded, and the tracker failed. -/
theorem plays_recordIfTerminal {t' : Tracker} {f : PipelineFault} {r : Except Fault Outcome}
    (hk : db.Keyed) (ht : db.tracker? job.trackerId = some t) (hs : ∃ s, t.known? = some s)
    (he : db.hasEntity e.id = true)
    (h : Plays κ (recordIfTerminal e (a.withStatus t') job (.pipeline f)).run db log r db') :
    Recorded t e a job f db log r db' := by
  have ht' : db.tracker? t.id = some t := by rwa [Database.id_of_tracker? ht]
  have hterm : (Fault.pipeline f).isTerminal = true := rfl
  rw [recordIfTerminal, if_pos hterm] at h
  obtain ⟨l₁, l₂, row, db₁, rfl, hfail, hend⟩ | ⟨g, rfl, hfail⟩ :=
    plays_task_bind.mp (plays_found_bind ht h)
  · obtain ⟨now, now', rfl, -, herr, rfl⟩ := FailureLog.plays_failTracker hk ht' hs he hfail
    obtain ⟨rfl, rfl, rfl⟩ := plays_pure.mp hend
    refine ⟨now, now', rfl, fun _ => rfl, fun htab => ?_, rfl⟩
    obtain ⟨g, hg⟩ := herr htab
    cases hg
  · obtain ⟨now, now', rfl, hok, herr, rfl⟩ := FailureLog.plays_failTracker hk ht' hs he hfail
    refine ⟨now, now', rfl, fun htab => ?_, fun htab => ?_, rfl⟩
    · cases hok htab
    · obtain ⟨g', hg⟩ := herr htab
      cases hg
      exact ⟨g', rfl⟩

/-- A terminal fault of an action ends the tracker the same, started or not. -/
theorem plays_recorded {t' : Tracker} {f : PipelineFault} {db₁ : Database}
    {r : Except Fault Outcome} (hk : db.Keyed) (ht : db.tracker? job.trackerId = some t)
    (he : db.hasEntity e.id = true) (hrun : t.isRunnable = true)
    (hd : db₁ = db ∨ ∃ now, db₁ = db.putTracker (t.moved .started job.jid t.batched now))
    (h : Plays κ (recordIfTerminal e (a.withStatus t') job (.pipeline f)).run db₁ log r db') :
    Recorded t e a job f db log r db' := by
  obtain rfl | ⟨now₀, rfl⟩ := hd
  · have hs : ∃ s, t.known? = some s := by
      obtain hs | hs := isRunnable_iff.mp hrun <;> exact ⟨_, hs⟩
    exact plays_recordIfTerminal hk ht hs he h
  · obtain ⟨now, now', rfl, hok, herr, rfl⟩ := plays_recordIfTerminal
      (Database.keyed_putTracker hk _) (Database.tracker?_putTracker_moved ht)
      ⟨_, known?_moved ..⟩ he h
    -- the failed row replaces the started one
    rw [moved_moved, Database.putTracker_moved_moved]
    exact ⟨now, now', rfl, hok, herr, rfl⟩

/-- **The work under the lease** goes in one of the ways of `Serves`. -/
theorem plays_performLocked {r : Except Fault Outcome} (hk : db.Keyed)
    (ht : db.tracker? job.trackerId = some t) (he : db.hasEntity e.id = true)
    (h : Plays κ (c.performLocked job e a).run db log r db') :
    Serves κ c t e a job db log r db' := by
  have hfound := plays_found_bind ht h
  by_cases hrun : t.isRunnable = true
  · rw [if_pos hrun] at hfound
    have ht' : db.tracker? t.id = some t := by rwa [Database.id_of_tracker? ht]
    obtain ⟨o, rfl, hturn⟩ | ⟨l₁, l₂, f, db₁, rfl, hturn, hrec⟩ := plays_tryCatch.mp hfound
    · obtain ⟨s, now, l₁, l₂, hκ, rfl, hp, ha⟩ := plays_runTracker hk ht' hrun hturn
      exact .acted hrun hκ hp ha fun f hf => nomatch hf
    · obtain ⟨s, now, l₃, l₄, hκ, rfl, hp, ha⟩ := plays_runTracker hk ht' hrun hturn
      obtain ⟨-, hterm⟩ := ha.error
      cases hf : f.isTerminal with
      | false =>
          -- other faults are handed on, and nothing more is done about them here
          rw [recordIfTerminal, hf, if_neg Bool.false_ne_true] at hrec
          obtain ⟨rfl, rfl, rfl⟩ := plays_throw.mp hrec
          rw [List.append_nil]
          refine .acted hrun hκ hp ha fun g hg => ?_
          cases hg
          exact hf
      | true =>
          obtain ⟨⟨g, rfl⟩, hd⟩ := hterm hf
          obtain ⟨now₁, now₂, rfl, hok, herr, rfl⟩ := plays_recorded hk ht he hrun hd hrec
          exact .recorded hrun hκ hp ha hok herr
  · rw [if_neg hrun] at hfound
    obtain ⟨rfl, rfl, rfl⟩ := plays_pure.mp hfound
    exact .notRunnable (by simpa using hrun)

/-! ### Invocations -/

/-- What the destination was asked, when an invocation goes on. -/
inductive Admits (c : Coordinator) (t : Tracker) (e : Entity) : List Exchange → Prop where
  | unasked (h : c.settings.deferralEnabled = false) : Admits c t e []
  | asked (h : c.settings.deferralEnabled = true) (reply : Except Cause Bool)
      (hr : reply ≠ .ok true) :
      Admits c t e [⟨.isUnderLoad (Health.target c.settings c.destinations t e).schema
        (Health.target c.settings c.destinations t e).tables, reply⟩]

/-- Around the work under the lease nothing runs, and nothing is scheduled. -/
theorem Admits.around {l : List Exchange} (h : Admits c t e l) (log : List Exchange)
    {key : String} {ttl : Duration} {lease : Lease} {got : Except Cause (Option Lease)}
    {gone : Except Cause Unit} :
    accepted (l ++ ⟨.obtainLease key ttl, got⟩ :: (log ++ [⟨.releaseLease lease, gone⟩])) =
        accepted log ∧
      runs (l ++ ⟨.obtainLease key ttl, got⟩ :: (log ++ [⟨.releaseLease lease, gone⟩])) =
        runs log := by
  have hidle : accepted l = [] ∧ runs l = [] := by
    cases h with
    | unasked | asked => exact ⟨rfl, rfl⟩
  constructor
  · rw [accepted_append, hidle.1, List.nil_append, accepted_cons_of_none rfl, accepted_append,
      accepted_cons_of_none rfl, accepted_nil, List.append_nil]
  · rw [runs_append, hidle.2, List.nil_append, runs_cons_of_none rfl, runs_append,
      runs_cons_of_none rfl, runs_nil, List.append_nil]

/-- An invocation that goes on, and does not obtain the lease, has none. -/
theorem Admits.not_leased {l : List Exchange} (h : Admits c t e l) {key : String} {ttl : Duration}
    {reply : Except Cause (Option Lease)} (hr : ∀ lease, reply ≠ .ok (some lease)) :
    ¬Leased (l ++ [⟨.obtainLease key ttl, reply⟩]) := by
  rintro ⟨key', ttl', lease, hmem⟩
  rcases List.mem_append.mp hmem with hmem | hmem
  · cases h <;> simp at hmem
  · cases List.mem_singleton.mp hmem
    exact hr lease rfl

/-- The exchanges, the result and the database of an invocation, with the times of the clock `κ`. -/
inductive Performs (κ : Clock) (c : Coordinator) (t : Tracker) (e : Entity) (job : PipelineJob)
    (db : Database) : List Exchange → Except Fault Outcome → Database → Prop where
  | deferred (h : c.settings.deferralEnabled = true) (jid : String) :
      Performs κ c t e job db
        [⟨.isUnderLoad (Health.target c.settings c.destinations t e).schema
          (Health.target c.settings c.destinations t e).tables, .ok true⟩,
          ⟨.schedulePipeline (job.reEnqueued jid) c.settings.deferralDelay, .ok ()⟩]
        (.ok (.deferred c.settings.deferralDelay)) db
  | deferralRefused (h : c.settings.deferralEnabled = true) (jid : String) (cause : Cause) :
      Performs κ c t e job db
        [⟨.isUnderLoad (Health.target c.settings c.destinations t e).schema
          (Health.target c.settings c.destinations t e).tables, .ok true⟩,
          ⟨.schedulePipeline (job.reEnqueued jid) c.settings.deferralDelay, .error cause⟩]
        (.error (.scheduling cause)) db
  | leaseHeld {l : List Exchange} (hadm : Admits c t e l) (reply : Except Cause (Option Lease))
      (hr : ∀ lease, reply ≠ .ok (some lease)) :
      Performs κ c t e job db
        (l ++ [⟨.obtainLease (c.settings.leaseKey job.trackerId) c.settings.leaseTimeout, reply⟩])
        (.ok .leaseHeld) db
  | served {l log : List Exchange} {a : Attributes} {r : Except Fault Outcome} {db' : Database}
      (hadm : Admits c t e l) (lease : Lease) (reply : Except Cause Unit)
      (hs : Serves κ c t e a job db log r db') :
      Performs κ c t e job db
        (l ++ ⟨.obtainLease (c.settings.leaseKey job.trackerId) c.settings.leaseTimeout,
          .ok (some lease)⟩ :: (log ++ [⟨.releaseLease lease, reply⟩])) r db'

/-- Looking up what a job is about changes nothing, and gives `x` every time. -/
def Loads (job : PipelineJob) (db : Database) (x : Except Fault Subject) : Prop :=
  ∀ κ log r db', Plays κ (onDatabase (load job)).run db log r db' ↔ log = [] ∧ r = x ∧ db' = db

/-- Where the tracker is there, the look-up gives it with its entity, or is a fault; with a table
of imports only for want of the entity. -/
theorem loads (ht : db.tracker? job.trackerId = some t) :
    (∃ e version, db.entity? job.entityId = some e ∧ Loads job db (.ok ⟨e, t, .of e t version⟩)) ∨
      ∃ g, Loads job db (.error g) ∧ (db.hasTable .imports = true →
        db.entity? job.entityId = none ∧ (db.hasTable .entities = true → g.isNotFound = true)) := by
  cases he : db.entity? job.entityId with
  | none =>
      obtain ⟨g, hg, hnotFound⟩ := plays_findEntity_bind_of_none he
      refine .inr ⟨g, fun κ log r db' => ?_, fun _ => ⟨rfl, hnotFound⟩⟩
      rw [load]
      exact hg κ _ log r db'
  | some e =>
      obtain ⟨i, hi, hok⟩ := Database.execute_findImport db e.importId
      cases i with
      | ok i =>
          refine .inl ⟨e, i.bind Import.sourceVersion, rfl, fun κ log r db' => ?_⟩
          rw [load, plays_findEntity_bind he, plays_findTracker_bind ht, Session.sourceVersion,
            bind_assoc, plays_query_bind_ok hi]
          exact Iff.rfl
      | error g =>
          refine .inr ⟨.database g, fun κ log r db' => ?_, fun htab => ?_⟩
          · rw [load, plays_findEntity_bind he, plays_findTracker_bind ht, Session.sourceVersion,
              bind_assoc, plays_query_bind_error hi]
          · obtain ⟨i, hi⟩ := hok htab
            cases hi

namespace Loads

variable {β : Type} {f : Subject → Work.Task β} {r : Except Fault β}

/-- A task that loads what a job is about goes on with that. -/
theorem bind_ok {s : Subject} (hl : Loads job db (.ok s))
    (h : Plays κ (onDatabase (load job) >>= f).run db log r db') :
    Plays κ (f s).run db log r db' := by
  obtain ⟨l₁, l₂, s', db₁, rfl, hload, hnext⟩ | ⟨g, rfl, hload⟩ := plays_task_bind.mp h
  · obtain ⟨rfl, hs, rfl⟩ := (hl _ _ _ _).mp hload
    cases hs
    exact hnext
  · obtain ⟨-, hs, -⟩ := (hl _ _ _ _).mp hload
    cases hs

/-- A task that cannot load what a job is about ends. -/
theorem bind_error {g : Fault} (hl : Loads job db (.error g))
    (h : Plays κ (onDatabase (load job) >>= f).run db log r db') :
    log = [] ∧ r = .error g ∧ db' = db := by
  obtain ⟨l₁, l₂, s', db₁, rfl, hload, hnext⟩ | ⟨g', rfl, hload⟩ := plays_task_bind.mp h
  · obtain ⟨-, hs, -⟩ := (hl _ _ _ _).mp hload
    cases hs
  · obtain ⟨rfl, hs, rfl⟩ := (hl _ _ _ _).mp hload
    cases hs
    exact ⟨rfl, rfl, rfl⟩

end Loads

/-- Where the rows and the table of imports are there, what a job is about is loaded. -/
theorem loads_of_entity (htab : db.hasTable .imports = true)
    (ht : db.tracker? job.trackerId = some t) (he : db.entity? job.entityId = some e) :
    ∃ version, Loads job db (.ok ⟨e, t, .of e t version⟩) := by
  obtain ⟨e', version, he', hl⟩ | ⟨g, -, hg⟩ := loads ht
  · obtain rfl := Option.some.inj (he.symm.trans he')
    exact ⟨version, hl⟩
  · obtain ⟨hnone, -⟩ := hg htab
    rw [he] at hnone
    cases hnone

/-- A destination that is asked about is under load, or the invocation goes on. -/
theorem plays_admission {v : Health.Admission}
    (h : Plays κ (Health.admission c.settings c.destinations t e) db log v db') :
    db' = db ∧ ((v = .proceed ∧ Admits c t e log) ∨
      c.settings.deferralEnabled = true ∧ ∃ goal, v = .defer c.settings.deferralDelay goal ∧
        log = [⟨.isUnderLoad (Health.target c.settings c.destinations t e).schema
          (Health.target c.settings c.destinations t e).tables, .ok true⟩]) := by
  by_cases hd : c.settings.deferralEnabled = true
  · rw [Health.admission, if_pos hd] at h
    obtain ⟨reply, rest, rfl, hrest⟩ := h
    cases reply with
    | ok under =>
        cases under with
        | true =>
            obtain ⟨rfl, rfl, rfl⟩ := hrest
            exact ⟨rfl, .inr ⟨hd, _, rfl, rfl⟩⟩
        | false =>
            obtain ⟨rfl, rfl, rfl⟩ := hrest
            exact ⟨rfl, .inl ⟨rfl, .asked hd _ (by simp)⟩⟩
    | error cause =>
        obtain ⟨rfl, rfl, rfl⟩ := hrest
        exact ⟨rfl, .inl ⟨rfl, .asked hd _ (by simp)⟩⟩
  · have hoff : c.settings.deferralEnabled = false := by simpa using hd
    rw [Health.admission_disabled hoff] at h
    obtain ⟨rfl, rfl, rfl⟩ := h
    exact ⟨rfl, .inl ⟨rfl, .unasked hoff⟩⟩

/-- Work under a lease is done, and the lease released, when the lease was obtained. -/
theorem plays_guarded {α : Type} {obtain_ : Program Work (Except Cause (Option Lease))}
    {release : Lease → Program Work (Except Cause Unit)} {work : Program Work α} {o : Option α}
    (h : Plays κ (Lease.guarded obtain_ release work) db log o db') :
    ∃ l₁ l₂ reply db₁, log = l₁ ++ l₂ ∧ Plays κ obtain_ db l₁ reply db₁ ∧
      (((∀ lease, reply ≠ .ok (some lease)) ∧ l₂ = [] ∧ o = none ∧ db' = db₁) ∨
        ∃ lease l₃ l₄ x db₂ done, reply = .ok (some lease) ∧ l₂ = l₃ ++ l₄ ∧
          Plays κ work db₁ l₃ x db₂ ∧ Plays κ (release lease) db₂ l₄ done db' ∧ o = some x) := by
  obtain ⟨l₁, l₂, reply, db₁, rfl, hob, hrest⟩ := plays_bind.mp h
  refine ⟨l₁, l₂, reply, db₁, rfl, hob, ?_⟩
  cases reply with
  | error cause =>
      obtain ⟨rfl, rfl, rfl⟩ := hrest
      exact .inl ⟨nofun, rfl, rfl, rfl⟩
  | ok lease? =>
      cases lease? with
      | none =>
          obtain ⟨rfl, rfl, rfl⟩ := hrest
          exact .inl ⟨nofun, rfl, rfl, rfl⟩
      | some lease =>
          obtain ⟨l₃, l₄, x, db₂, rfl, hwork, hrel⟩ := plays_bind.mp hrest
          obtain ⟨l₅, l₆, done, db₃, rfl, hdone, rfl, rfl, rfl⟩ := plays_bind.mp hrel
          exact .inr ⟨lease, l₃, l₅, x, db₂, done, rfl, by rw [List.append_nil], hwork, hdone, rfl⟩

/-- **Every play of an invocation** that loads what it is about goes in one of the ways of
`Performs`. -/
theorem plays_perform {r : Except Fault Outcome} (hl : Loads job db (.ok ⟨e, t, a⟩))
    (hk : db.Keyed) (ht : db.tracker? job.trackerId = some t)
    (he : db.entity? job.entityId = some e) (h : Plays κ (c.perform job).run db log r db') :
    Performs κ c t e job db log r db' := by
  have hloaded := hl.bind_ok h
  obtain ⟨l₁, l₂, v, db₁, rfl, hadm, hgo⟩ := plays_lift_bind.mp hloaded
  obtain ⟨rfl, ⟨rfl, hadmits⟩ | ⟨hd, goal, rfl, rfl⟩⟩ := plays_admission hadm
  · obtain ⟨l₃, l₄, o, db₂, rfl, hguard, rfl, rfl, rfl⟩ := plays_bind.mp hgo
    rw [List.append_nil]
    obtain ⟨l₅, l₆, reply, db₃, rfl, hob, ⟨hr, rfl, rfl, rfl⟩ |
      ⟨lease, l₇, l₈, x, db₄, done, rfl, rfl, hwork, hrel, rfl⟩⟩ := plays_guarded hguard
    · obtain ⟨rfl, rfl⟩ := plays_request.mp hob
      exact .leaseHeld hadmits reply hr
    · obtain ⟨rfl, rfl⟩ := plays_request.mp hob
      obtain ⟨rfl, rfl⟩ := plays_request.mp hrel
      have he' := Database.hasEntity_of_entity? he
      rw [← Database.id_of_entity? he] at he'
      exact .served hadmits lease done (plays_performLocked hk ht he' hwork)
  · obtain ⟨rfl, jid, ⟨rfl, rfl⟩ | ⟨cause, rfl, rfl⟩⟩ := plays_reEnqueue_return hgo
    · exact .deferred hd jid
    · exact .deferralRefused hd jid cause

theorem Serves.kept {r : Except Fault Outcome} (ht : db.tracker? t.id = some t)
    (h : Serves κ c t e a job db log r db') :
    Kept t job.jid db' := by
  cases h with
  | notRunnable => exact .same ht
  | acted _ _ _ ha => exact ha.kept ht
  | recorded => exact .moved ht _ _ _

/-- **An invocation keeps** the tracker or moves it. -/
theorem Performs.kept {r : Except Fault Outcome} (ht : db.tracker? t.id = some t)
    (h : Performs κ c t e job db log r db') :
    Kept t job.jid db' := by
  cases h with
  | deferred | deferralRefused | leaseHeld => exact .same ht
  | served _ _ _ hs => exact hs.kept ht

/-- A fault that an invocation hands on is no missing row, and none that ends a tracker. -/
theorem Performs.error {f : Fault} (h : Performs κ c t e job db log (.error f) db') :
    f.isNotFound = false ∧ f.isTerminal = false := by
  cases h with
  | deferralRefused => exact ⟨rfl, rfl⟩
  | served _ _ _ hs =>
      cases hs with
      | acted _ _ _ ha hr => exact ⟨ha.error.1, hr f rfl⟩
      | recorded _ _ _ _ hok herr =>
          cases htab : db.hasTable .failures with
          | true => cases hok htab
          | false =>
              obtain ⟨g, hg⟩ := herr htab
              cases hg
              exact ⟨rfl, rfl⟩

/-- What is left of an invocation that ends in a fault. -/
structure Undecided (t : Tracker) (jid : String) (db db' : Database) : Prop where
  failures : db'.failures = db.failures
  kept : Kept t jid db'
  /-- The tracker is as it was, or may be run, where failures can be recorded. -/
  runnable : db.hasTable .failures = true →
    ∃ t', db'.tracker? t.id = some t' ∧ (t' = t ∨ t'.isRunnable = true)

theorem Undecided.same {jid : String} (ht : db.tracker? t.id = some t) : Undecided t jid db db :=
  ⟨rfl, .same ht, fun _ => ⟨t, ht, .inl rfl⟩⟩

theorem Serves.undecided {f : Fault} (ht : db.tracker? t.id = some t)
    (h : Serves κ c t e a job db log (.error f) db') :
    accepted log = [] ∧ Undecided t job.jid db db' := by
  have hkept := h.kept ht
  cases h with
  | @acted _ _ l₁ l₂ _ _ hrun _ hp ha _ =>
      obtain ⟨⟨t', ht', hrun'⟩, hnone, hfailures⟩ := ha.undecided ht hrun
      refine ⟨?_, hfailures, hkept, fun _ => ⟨t', ht', .inr hrun'⟩⟩
      rw [accepted_append, hp.idle.1, hnone, List.nil_append]
  | @recorded _ _ _ _ l₁ l₂ _ _ hrun _ hp ha _ hok _ =>
      -- where there is a table of failures, a fault that is recorded becomes an outcome
      have htab : db.hasTable .failures = false :=
        Bool.eq_false_iff.mpr fun htab => nomatch hok htab
      obtain ⟨-, hnone, -⟩ := ha.undecided ht hrun
      refine ⟨?_, ?_, hkept, fun h => by rw [htab] at h; cases h⟩
      · rw [accepted_append, accepted_append, hp.idle.1, hnone]
        rfl
      · have htab' : db.failures = none :=
          Option.isNone_iff_eq_none.mp (Option.isSome_eq_false_iff.mp htab)
        show db.failures.map _ = db.failures
        rw [htab', Option.map_none]

/-- **A fault of an invocation** schedules nothing and records nothing. -/
theorem plays_perform_error {f : Fault} (hk : db.Keyed) (ht : db.tracker? job.trackerId = some t)
    (h : Plays κ (c.perform job).run db log (.error f) db') :
    accepted log = [] ∧ Undecided t job.jid db db' := by
  have ht' : db.tracker? t.id = some t := by rwa [Database.id_of_tracker? ht]
  obtain ⟨e, version, he, hl⟩ | ⟨g, hl, -⟩ := loads ht
  · have hp := plays_perform hl hk ht he h
    cases hp with
    | deferralRefused => exact ⟨rfl, .same ht'⟩
    | @served l log _ _ _ hadm _ _ hs =>
        obtain ⟨hnone, hun⟩ := hs.undecided ht'
        exact ⟨(hadm.around log).1.trans hnone, hun⟩
  · obtain ⟨rfl, -, rfl⟩ := hl.bind_error h
    exact ⟨rfl, .same ht'⟩

/-- **A job's tracker is failed** with the fault that used up its retries. -/
theorem plays_performFailure {f : Fault} {r : Except Fault Failure}
    (hl : Loads job db (.ok ⟨e, t, a⟩)) (hk : db.Keyed)
    (ht : db.tracker? job.trackerId = some t) (he : db.entity? job.entityId = some e)
    (hs : ∃ s, t.known? = some s) (h : Plays κ (performFailure job f).run db log r db') :
    ∃ now now',
      log = [⟨.track f.report (a.withStatus (t.moved .failed job.jid t.batched now)), ()⟩] ∧
      (db.hasTable .failures = true → r = .ok (FailureLog.row db t e f.report job now')) ∧
      (db.hasTable .failures = false → ∃ g, r = .error (.database g)) ∧
      db' = (db.putTracker (t.moved .failed job.jid t.batched now)).addFailure
        (FailureLog.row db t e f.report job now') := by
  have ht' : db.tracker? t.id = some t := by rwa [Database.id_of_tracker? ht]
  have he' := Database.hasEntity_of_entity? he
  rw [← Database.id_of_entity? he] at he'
  exact FailureLog.plays_failTracker hk ht' hs he' (hl.bind_ok h)

end Coordinator

end ImportTracking
