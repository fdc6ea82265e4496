import ImportTracking.Proofs.Deliveries

/-!
# Settled — no tracker is left stuck

After a delivery the tracker has ended, or its batches are on their way, or exactly one job that
drives it on was accepted: always exactly one of these, when the tracker may be run and its lease
can be obtained.

* `Acts.standing`, `Serves.standing`, `Performs.standing`: an outcome settles the tracker, and a
  fault leaves it such that it may be run, with no job accepted.
* `Delivers.settles`: a delivery settles the tracker, since it retries or ends after a fault.
* `deliver_settles`: so does every course of a delivery.
-/

namespace ImportTracking

open Work Tracker

/-! ### The ways to settle -/

namespace Delivery

variable (job : PipelineJob) (log : List Exchange) (d : Delivery) (db : Database)

/-- The tracker has ended, and no pipeline job was accepted. -/
def Ended : Prop :=
  (∃ t s, db.tracker? job.trackerId = some t ∧ t.known? = some s ∧ s.isTerminal = true) ∧
    accepted log = []

/-- The tracker was started in batches, a job for every batch was accepted, and no pipeline job
was. -/
def FannedOut : Prop :=
  ∃ n t, d = .completed (.batchesEnqueued n) ∧ db.tracker? job.trackerId = some t ∧
    t.known? = some .started ∧ t.batched = true ∧
    (∀ k : Nat, 1 ≤ k → k ≤ n → ∃ b ∈ db.batchRows, b.trackerId = job.trackerId ∧ b.number = k ∧
      ⟨.scheduleBatch b.id, .ok ()⟩ ∈ log) ∧
    accepted log = []

/-- The tracker may be run, and exactly one pipeline job was accepted, which is for it. -/
def Carried : Prop :=
  (∃ t, db.tracker? job.trackerId = some t ∧
    (t.known? = some .enqueued ∨ t.known? = some .started)) ∧
    ∃ next : PipelineJob, accepted log = [next] ∧ next.trackerId = job.trackerId ∧
      next.entityId = job.entityId

/-- The delivery settles the tracker in one way or another. -/
def Settles : Prop := Ended job log db ∨ FannedOut job log d db ∨ Carried job log db

/-- The delivery settles the tracker in exactly one way. -/
def SettlesOnce : Prop :=
  Settles job log d db ∧ ¬(Ended job log db ∧ FannedOut job log d db) ∧
    ¬(Ended job log db ∧ Carried job log db) ∧ ¬(FannedOut job log d db ∧ Carried job log db)

variable {job log d db}

/-- No two ways to settle go together. -/
theorem Settles.once (h : Settles job log d db) : SettlesOnce job log d db := by
  -- an end and a fan-out differ in the status, and only what is carried on has a job accepted
  refine ⟨h, ?_, ?_, ?_⟩
  · rintro ⟨⟨⟨t, s, ht, hs, hterm⟩, -⟩, n, t', -, ht', hs', -⟩
    obtain rfl := Option.some.inj (ht.symm.trans ht')
    obtain rfl := Option.some.inj (hs.symm.trans hs')
    cases hterm
  · rintro ⟨⟨-, hnone⟩, -, next, hone, -⟩
    rw [hnone] at hone
    cases hone
  · rintro ⟨⟨n, t, -, -, -, -, -, hnone⟩, -, next, hone, -⟩
    rw [hnone] at hone
    cases hone

/-- A tracker that is settled stays so when more is asked, as long as no other job is accepted. -/
theorem Settles.widen {log' : List Exchange} (h : Settles job log d db)
    (ha : accepted log' = accepted log) (hl : log ⊆ log') : Settles job log' d db := by
  obtain ⟨ht, hnone⟩ | ⟨n, t, hd, ht, hs, hb, hall, hnone⟩ | ⟨ht, next, hone, hnext⟩ := h
  · exact .inl ⟨ht, ha.trans hnone⟩
  · refine .inr (.inl ⟨n, t, hd, ht, hs, hb, fun k h₁ hk => ?_, ha.trans hnone⟩)
    obtain ⟨b, hb, hbt, hbn, hin⟩ := hall k h₁ hk
    exact ⟨b, hb, hbt, hbn, hl hin⟩
  · exact .inr (.inr ⟨ht, next, ha.trans hone, hnext⟩)

end Delivery

namespace Coordinator

open Invocation (Outcome)
open Delivery (Settles SettlesOnce)

variable {κ : Clock} {c : Coordinator} {t : Tracker} {e : Entity} {a : Attributes}
  {job : PipelineJob} {db db' : Database} {log : List Exchange}

/-- Where a tracker stands after a part of an invocation: settled by its outcome, or after a fault
such that it may be run, with no job accepted. -/
def Standing (job : PipelineJob) (log : List Exchange) (db : Database) :
    Except Fault Outcome → Prop
  | .ok o => Settles job log (.completed o) db
  | .error _ => (∃ t, db.tracker? job.trackerId = some t ∧ t.isRunnable = true) ∧ accepted log = []

theorem Standing.widen {log' : List Exchange} {r : Except Fault Outcome}
    (h : Standing job log db r) (ha : accepted log' = accepted log) (hl : log ⊆ log') :
    Standing job log' db r := by
  cases r with
  | ok o => exact Settles.widen h ha hl
  | error f => exact ⟨h.1, ha.trans h.2⟩

theorem Acts.standing {p : Option Pipeline} {d : Decision} {r : Except Fault Outcome}
    (hm : db.Migrated) (ht : db.tracker? job.trackerId = some t) (hrun : t.isRunnable = true)
    (h : Acts c p t e job db d log r db') : Standing job log db' r := by
  have hid := Database.id_of_tracker? ht
  have hmoved (s : Status) (batched : Bool) (now : Timestamp) :
      (db.putTracker (t.moved s job.jid batched now)).tracker? job.trackerId =
        some (t.moved s job.jid batched now) := Database.tracker?_putTracker_moved ht
  cases r with
  | error f =>
      obtain ⟨⟨t', ht', hrun'⟩, hnone, -⟩ := h.undecided (by rwa [hid]) hrun
      exact ⟨⟨t', hid ▸ ht', hrun'⟩, hnone⟩
  | ok o =>
      cases h with
      | skip now => exact .inl ⟨⟨_, _, hmoved .skipped _ now, known?_moved .., rfl⟩, rfl⟩
      | finishEmpty now | ran _ _ now =>
          exact .inl ⟨⟨_, _, hmoved .finished _ now, known?_moved .., rfl⟩, rfl⟩
      | reEnqueue => exact .inr (.inr ⟨⟨t, ht, isRunnable_iff.mp hrun⟩, _, rfl, rfl, rfl⟩)
      | retried _ _ now =>
          exact .inr (.inr ⟨⟨_, hmoved .enqueued _ now, .inl (known?_moved ..)⟩, _, rfl, rfl, rfl⟩)
      | @fannedOut n now _ bs _ hf =>
          have hm' : (db.putTracker (t.moved .started job.jid true now)).Migrated :=
            Database.migrated_putTracker.mpr hm
          obtain ⟨rows, -, rfl⟩ := hf.addBatches
          refine .inr (.inl ⟨n, _, rfl, ?_, known?_moved t .started job.jid true now, rfl,
            fun k h₁ hk => ?_, hf.idle.1⟩)
          · rw [Database.tracker?_addBatches]
            exact hmoved .started true now
          · obtain ⟨b, hb, hbt, hbn, hin⟩ := hf.scheduled (hm' .batches) rfl k h₁ (by omega)
            exact ⟨b, hb, hbt.trans hid, hbn, hin⟩

/-- The work under the lease leaves the tracker settled, or such that it may be run. -/
theorem Serves.standing {r : Except Fault Outcome} (hm : db.Migrated)
    (ht : db.tracker? job.trackerId = some t) (hrun : t.isRunnable = true)
    (h : Serves κ c t e a job db log r db') : Standing job log db' r := by
  cases h with
  | notRunnable hnot =>
      rw [hrun] at hnot
      cases hnot
  | @acted _ _ l₁ l₂ _ _ _ _ hp ha _ =>
      refine (ha.standing hm ht hrun).widen ?_ (List.subset_append_right l₁ l₂)
      rw [accepted_append, hp.idle.1, List.nil_append]
  | @recorded _ _ now _ l₁ l₂ _ _ _ _ hp ha _ hok =>
      cases hok (hm .failures)
      have hnone : accepted l₂ = [] := (ha.standing hm ht hrun).2
      refine .inl ⟨⟨t.moved .failed job.jid t.batched now, .failed, ?_, known?_moved .., rfl⟩, ?_⟩
      · exact Database.tracker?_putTracker_moved ht
      · rw [accepted_append, accepted_append, hp.idle.1, hnone]
        rfl

/-- **An invocation under the lease** leaves the tracker settled, or such that it may be run. -/
theorem Performs.standing {r : Except Fault Outcome} (hm : db.Migrated)
    (ht : db.tracker? job.trackerId = some t) (hrun : t.isRunnable = true)
    (hlease : ∀ ttl reply, ⟨.obtainLease (c.settings.leaseKey job.trackerId) ttl, reply⟩ ∈ log →
      ∃ lease, reply = .ok (some lease))
    (h : Performs κ c t e job db log r db') : Standing job log db' r := by
  cases h with
  | deferred => exact .inr (.inr ⟨⟨t, ht, isRunnable_iff.mp hrun⟩, _, rfl, rfl, rfl⟩)
  | deferralRefused => exact ⟨⟨t, ht, hrun⟩, rfl⟩
  | leaseHeld hadm reply hr =>
      obtain ⟨lease, rfl⟩ := hlease _ reply (List.mem_append_right _ List.mem_cons_self)
      exact absurd rfl (hr lease)
  | @served l log _ _ _ hadm lease reply hs =>
      refine (hs.standing hm ht hrun).widen (hadm.around log).1 fun x hx => ?_
      exact List.mem_append_right _ (List.mem_cons_of_mem _ (List.mem_append_left _ hx))

/-- **A delivery settles the tracker.** -/
theorem Delivers.settles {d : Delivery} (hm : db.Migrated)
    (ht : db.tracker? job.trackerId = some t) (hrun : t.isRunnable = true)
    (hlease : ∀ ttl reply, ⟨.obtainLease (c.settings.leaseKey job.trackerId) ttl, reply⟩ ∈ log →
      ∃ lease, reply = .ok (some lease))
    (h : Delivers κ c t e job db log d db') : Settles job log d db' := by
  cases h with
  | completed hp => exact hp.standing hm ht hrun hlease
  | @retrying log f _ hp _ =>
      obtain ⟨⟨t', ht', hrun'⟩, hnone⟩ := hp.standing hm ht hrun fun ttl reply hin =>
        hlease ttl reply (List.mem_append_left _ hin)
      refine .inr (.inr ⟨⟨t', ht', isRunnable_iff.mp hrun'⟩, job.retried, ?_, rfl, rfl⟩)
      rw [accepted_append, hnone]
      rfl
  | @exhausted log l f t' _ _ now _ hp hs ht' =>
      obtain ⟨-, hnone⟩ := hp.standing hm ht hrun fun ttl reply hin =>
        hlease ttl reply (List.mem_append_left _ hin)
      refine .inl ⟨⟨t'.moved .failed job.jid t'.batched now, .failed, ?_, known?_moved .., rfl⟩, ?_⟩
      · rw [Database.id_of_tracker? ht] at ht'
        exact Database.tracker?_putTracker_moved ht'
      · rw [accepted_append, accepted_append, hnone, hs.idle.1]
        rfl

/-- **No tracker is left stuck**, whoever answers: after a delivery exactly one of the ways to
settle holds. -/
theorem deliver_settles {σ : Type} (others : Surroundings σ) (c : Coordinator)
    (job : PipelineJob) (db : Database) (s : σ) {t : Tracker} {e : Entity} (hm : db.Migrated)
    (hk : db.Keyed) (ht : db.tracker? job.trackerId = some t)
    (hs : t.known? = some .enqueued ∨ t.known? = some .started)
    (he : db.entity? job.entityId = some e)
    (hlease : ∀ ttl reply, ⟨.obtainLease (c.settings.leaseKey job.trackerId) ttl, reply⟩ ∈
      (course others (c.deliver job) db s).exchanges → ∃ lease, reply = .ok (some lease)) :
    let r := course others (c.deliver job) db s
    SettlesOnce job r.exchanges r.value r.database := by
  intro r
  have hknown : ∃ s, t.known? = some s := hs.elim (fun h => ⟨_, h⟩) fun h => ⟨_, h⟩
  have h := plays_deliver hm hk ht he hknown (plays_course others (c.deliver job) db s)
  exact (h.settles hm ht (isRunnable_iff.mpr hs) hlease).once

/-- A tracker whose pipeline crashes, when no job is accepted. -/
theorem deliver_settles_crashed :
    let c : Coordinator := { registry := ⟨[⟨"issues", "issues", false⟩]⟩ }
    let e : Entity := { (default : Entity) with id := 1 }
    let t : Tracker :=
      { (default : Tracker) with id := 1, pipelineName := "issues", status := "started" }
    let job : PipelineJob := .first 1 1 "jid" "corr"
    let reply : (r : Request) → r.Reply
      | .runPipeline _ _ => .error default
      | .schedulePipeline _ _ => .error default
      | r => granted r
    let db : Database := .single e t
    let r := course (steady .epoch "" reply) (c.deliver job) db ()
    r.value = .exhausted ∧ SettlesOnce job r.exchanges r.value r.database := by
  refine ⟨by decide +kernel, deliver_settles _ _ _ _ () (Database.migrated_single _ _)
    (Database.keyed_single _ _) (Database.tracker?_single _ _) (.inr rfl)
    (Database.entity?_single _ _) fun ttl got hin => ?_⟩
  exact ⟨_, exchanges_steady _ _ _ hin⟩

end Coordinator

end ImportTracking
