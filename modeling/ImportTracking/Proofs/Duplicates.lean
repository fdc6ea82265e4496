import ImportTracking.Proofs.Deliveries

/-!
# Duplicates — deliveries for a tracker that has ended

A duplicate delivery finds its tracker ended.  The look at the tracker under its lease says so, and
nothing is done.  The gate stands before the lease, though, and spent retries fail a tracker
without a look at its status: a job that is turned away there fails its tracker once more.  This
is the only way in which a duplicate delivery changes anything.

* `Performs.ended`: an invocation for an ended tracker changes nothing, and its one fault is that
  the job could not be put off.
* `plays_deliver_ended`: so a delivery changes nothing, unless the job is turned away.
* `deliver_ended`: what every course of a delivery does, turned away or not.
-/

namespace ImportTracking

open Work Tracker

theorem Tracker.not_isRunnable {t : Tracker} {s : Status} (hs : t.known? = some s)
    (hend : s.isTerminal = true) : t.isRunnable = false := by
  unfold isRunnable
  rw [hs]
  cases s with
  | finished | failed | skipped => rfl
  | created | enqueued | started => cases hend

namespace Coordinator

open Invocation (Outcome)

/-- A job is turned away when its destination is under load, it cannot be put off, and its retries
are spent. -/
inductive TurnedAway (c : Coordinator) (job : PipelineJob) : List Exchange → Prop where
  | intro (schema : String) (tables : List String) (jid : String) (cause : Cause)
      {l : List Exchange} (hs : Spent c job l) (rest : List Exchange) :
      TurnedAway c job
        (⟨.isUnderLoad schema tables, .ok true⟩ ::
          ⟨.schedulePipeline (job.reEnqueued jid) c.settings.deferralDelay, .error cause⟩ ::
          (l ++ rest))

variable {κ : Clock} {c : Coordinator} {t : Tracker} {e : Entity} {a : Attributes}
  {job : PipelineJob} {db db' : Database} {log l : List Exchange}

/-! ### Jobs that are not turned away -/

namespace TurnedAway

theorem head {x : Exchange} (h : TurnedAway c job (x :: l)) :
    ∃ schema tables, x = ⟨.isUnderLoad schema tables, .ok true⟩ := by
  cases h with
  | intro schema tables => exact ⟨schema, tables, rfl⟩

theorem asked (h : TurnedAway c job log) :
    ∃ schema tables, ⟨.isUnderLoad schema tables, .ok true⟩ ∈ log := by
  cases h with
  | intro schema tables => exact ⟨schema, tables, List.mem_cons_self⟩

theorem tail {x y : Exchange} (h : TurnedAway c job (x :: y :: l)) :
    y.accepted? = none ∧ ∃ l₁ l₂, Spent c job l₁ ∧ l = l₁ ++ l₂ := by
  cases h with
  | intro _ _ _ _ hs rest => exact ⟨rfl, _, rest, hs, rfl⟩

end TurnedAway

/-- Jobs that were not asked to be put off are not turned away. -/
theorem Spent.not_turnedAway (h : Spent c job l) : ¬TurnedAway c job l := by
  intro hturn
  cases h with
  | used => cases hturn
  | refused =>
      obtain ⟨_, _, hx⟩ := hturn.head
      cases hx

/-- A job whose retry is accepted has not spent its retries. -/
theorem Spent.not_accepted (h : Spent c job l) (hmax : ¬c.settings.maxRetries ≤ job.attempt)
    {x : Exchange} {rest : List Exchange} (hx : [x] = l ++ rest) : x.accepted? = none := by
  cases h with
  | used h => exact absurd h hmax
  | refused =>
      obtain ⟨rfl, -⟩ := List.cons.inj hx
      rfl

/-- A job that comes to ask for the lease is not turned away. -/
theorem Admits.not_turnedAway (h : Admits c t e l) {key : String} {ttl : Duration}
    {reply : Except Cause (Option Lease)} {rest : List Exchange} :
    ¬TurnedAway c job (l ++ ⟨.obtainLease key ttl, reply⟩ :: rest) := by
  intro hturn
  cases h with
  | unasked =>
      obtain ⟨_, _, hx⟩ := hturn.head
      cases hx
  | asked _ reply hr =>
      obtain ⟨_, _, hx⟩ := hturn.head
      cases hx
      exact hr rfl

/-! ### Invocations and deliveries -/

/-- **An invocation for an ended tracker** changes nothing; it comes to an outcome, with the job
not turned away, or the job could not be put off. -/
theorem Performs.ended {r : Except Fault Outcome} (hend : t.isRunnable = false)
    (h : Performs κ c t e job db log r db') :
    db' = db ∧ ((∃ o, r = .ok o) ∧ ¬TurnedAway c job log ∨
      ∃ schema tables jid cause, r = .error (.scheduling cause) ∧
        log = [⟨.isUnderLoad schema tables, .ok true⟩,
          ⟨.schedulePipeline (job.reEnqueued jid) c.settings.deferralDelay, .error cause⟩]) := by
  cases h with
  | deferred =>
      refine ⟨rfl, .inl ⟨⟨_, rfl⟩, fun hturn => ?_⟩⟩
      cases hturn.tail.1
  | deferralRefused _ jid cause => exact ⟨rfl, .inr ⟨_, _, jid, cause, rfl, rfl⟩⟩
  | leaseHeld hadm => exact ⟨rfl, .inl ⟨⟨_, rfl⟩, hadm.not_turnedAway⟩⟩
  | served hadm _ _ hs =>
      cases hs with
      | notRunnable => exact ⟨rfl, .inl ⟨⟨_, rfl⟩, hadm.not_turnedAway⟩⟩
      | acted hrun | recorded hrun =>
          -- the row is read again under the lease, so that it has ended is seen
          rw [hrun] at hend
          cases hend

/-- The database after a job that was turned away: its tracker has failed, and the refusal is
recorded. -/
def Refailed (t : Tracker) (job : PipelineJob) (db db' : Database) : Prop :=
  ∃ e cause now now', db.entity? job.entityId = some e ∧
    db' = (db.putTracker (t.moved .failed job.jid t.batched now)).addFailure
      (FailureLog.row db t e (Fault.scheduling cause).report job now')

namespace Refailed

/-- The tracker is failed on behalf of the job. -/
theorem tracker? (ht : db.tracker? job.trackerId = some t) (h : Refailed t job db db') :
    ∃ now, db'.tracker? job.trackerId = some (t.moved .failed job.jid t.batched now) := by
  obtain ⟨e, cause, now, now', -, rfl⟩ := h
  exact ⟨now, Database.tracker?_putTracker_moved ht⟩

/-- One failure is added, where there is a table of them. -/
theorem length (h : Refailed t job db db') (htab : db.hasTable .failures = true) :
    db'.failureRows.length = db.failureRows.length + 1 := by
  obtain ⟨e, cause, now, now', -, rfl⟩ := h
  exact (Database.perm_failureRows_addFailure htab _).length_eq

end Refailed

/-- **Every play of a delivery for an ended tracker** changes nothing, unless the job is turned
away. -/
theorem plays_deliver_ended {s : Status} {d : Delivery} (hk : db.Keyed)
    (ht : db.tracker? job.trackerId = some t) (hs : t.known? = some s)
    (hend : s.isTerminal = true) (h : Plays κ (c.deliver job) db log d db') :
    (db' = db ∧ ¬TurnedAway c job log) ∨ (Refailed t job db db' ∧ TurnedAway c job log) := by
  obtain ⟨e, version, he, hl⟩ | ⟨g, hl, -⟩ := loads ht
  · have hnot := not_isRunnable hs hend
    obtain ⟨l₁, l₂, r, db₁, rfl, hperform, hrest⟩ := plays_bind.mp h
    have hp := plays_perform hl hk ht he hperform
    obtain ⟨rfl, ⟨⟨o, rfl⟩, hturn⟩ | ⟨schema, tables, jid, cause, rfl, rfl⟩⟩ := hp.ended hnot
    · obtain ⟨rfl, rfl, rfl⟩ := hrest
      rw [List.append_nil]
      exact .inl ⟨rfl, hturn⟩
    · obtain ⟨hf, -⟩ | ⟨hmax, rfl, -, rfl⟩ | ⟨l₃, l₄, hspent, rfl, hexhaust⟩ :=
        plays_afterFault hrest
      · cases hf
      · refine .inl ⟨rfl, fun hturn => ?_⟩
        obtain ⟨-, l₃, l₄, hspent, hl⟩ := hturn.tail
        cases hspent.not_accepted hmax hl
      · obtain ⟨-, now, now', rfl, rfl⟩ := plays_exhaust hl hk ht he ⟨s, hs⟩ hexhaust
        exact .inr ⟨⟨e, cause, now, now', he, rfl⟩, .intro schema tables jid cause hspent _⟩
  · obtain ⟨l₁, l₂, r, db₁, rfl, hperform, hrest⟩ := plays_bind.mp h
    obtain ⟨rfl, rfl, rfl⟩ := hl.bind_error hperform
    refine .inl ?_
    obtain ⟨-, rfl, -, rfl⟩ | ⟨-, rfl, -, rfl⟩ | ⟨l₃, l₄, hspent, rfl, hexhaust⟩ :=
      plays_afterFault hrest
    · exact ⟨rfl, nofun⟩
    · refine ⟨rfl, fun hturn => ?_⟩
      obtain ⟨_, _, hx⟩ := hturn.head
      cases hx
    · -- what could not be loaded cannot be loaded in order to be failed
      obtain ⟨-, rfl, rfl⟩ := plays_exhaust_of_error hl hexhaust
      rw [List.nil_append, List.append_nil]
      exact ⟨rfl, hspent.not_turnedAway⟩

/-- **A duplicate delivery**, whoever answers, changes nothing unless its job is turned away; if it
is, the ended tracker fails once more, and a failure is added where there is a table of them. -/
theorem deliver_ended {σ : Type} (others : Surroundings σ) (c : Coordinator) (job : PipelineJob)
    (db : Database) (s : σ) {t : Tracker} (hk : db.Keyed)
    (ht : db.tracker? job.trackerId = some t)
    (hs : t.known? = some .finished ∨ t.known? = some .failed ∨ t.known? = some .skipped) :
    let r := course others (c.deliver job) db s
    (¬TurnedAway c job r.exchanges → r.database = db) ∧
      (TurnedAway c job r.exchanges → Refailed t job db r.database ∧
        (∃ now, r.database.tracker? job.trackerId = some (t.moved .failed job.jid t.batched now)) ∧
        (db.hasTable .failures = true →
          r.database.failureRows.length = db.failureRows.length + 1)) := by
  intro r
  obtain ⟨status, hs, hend⟩ : ∃ status, t.known? = some status ∧ status.isTerminal = true := by
    obtain hs | hs | hs := hs <;> exact ⟨_, hs, rfl⟩
  obtain ⟨hsame, hnot⟩ | ⟨hfail, hturn⟩ :=
    plays_deliver_ended hk ht hs hend (plays_course others (c.deliver job) db s)
  · exact ⟨fun _ => hsame, fun hturn => absurd hturn hnot⟩
  · exact ⟨fun hnot => absurd hturn hnot, fun _ => ⟨hfail, hfail.tracker? ht, hfail.length⟩⟩

/-- A job that comes again to a finished tracker. -/
theorem deliver_ended_again :
    let c : Coordinator := { registry := ⟨[⟨"issues", "issues", false⟩]⟩ }
    let e : Entity := { (default : Entity) with id := 1 }
    let t : Tracker :=
      { (default : Tracker) with id := 1, pipelineName := "issues", status := "finished" }
    let job : PipelineJob := .first 1 1 "jid" "corr"
    let db : Database := .single e t
    let r := course (steady .epoch "" granted) (c.deliver job) db ()
    r.value = .completed (.notRunnable "finished") ∧ r.database = db := by
  refine ⟨by decide +kernel, (deliver_ended _ _ _ _ () (Database.keyed_single _ _)
    (Database.tracker?_single _ _) (.inl rfl)).1 fun hturn => ?_⟩
  obtain ⟨_, _, hin⟩ := hturn.asked
  cases exchanges_steady _ _ _ hin

/-- A job on its last attempt that comes again to a finished tracker, is to be put off, and cannot
be: the tracker fails, and a failure is recorded. -/
theorem deliver_ended_turned_away :
    let c : Coordinator := { registry := ⟨[⟨"issues", "issues", false⟩]⟩ }
    let e : Entity := { (default : Entity) with id := 1 }
    let t : Tracker :=
      { (default : Tracker) with id := 1, pipelineName := "issues", status := "finished" }
    let job : PipelineJob := { PipelineJob.first 1 1 "jid" "corr" with attempt := 3 }
    let reply : (r : Request) → r.Reply
      | .isUnderLoad _ _ => .ok true
      | .schedulePipeline _ _ => .error default
      | r => granted r
    let r := course (steady .epoch "" reply) (c.deliver job) (.single e t) ()
    t.known? = some .finished ∧ (r.database.tracker? 1).map (·.status) = some "failed" ∧
      r.database.failureRows.length = 1 := by
  decide +kernel

end Coordinator

end ImportTracking
