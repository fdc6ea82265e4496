import ImportTracking.Proofs.Performance

/-!
# Accounts — what an outcome says of the database

An invocation returns what it did.  `Accounts` spells this out, for every outcome: which rows the
invocation changed, and whether a pipeline ran.

* `Serves.accounts`, `Performs.accounts`: the outcome of every way an invocation can go accounts
  for it.
* `perform_accounts`: so does the outcome of every course of an invocation.
-/

namespace ImportTracking

open Work Tracker

namespace Invocation.Outcome

/-- What an outcome says of an invocation for a job, from the database `db` with the exchanges
`log` to the database `db'`. -/
def Accounts (job : PipelineJob) (t : Tracker) (e : Entity) (db : Database) (log : List Exchange)
    (db' : Database) : Invocation.Outcome → Prop
  | deferred _ | leaseHeld | notRunnable _ | reEnqueued _ => db' = db
  | skipped => ∃ now, db' = db.putTracker (t.moved .skipped job.jid t.batched now)
  | finished =>
    ∃ batched now, db' = db.putTracker (t.moved .finished job.jid batched now) ∧
      ((runs log = [.ok .ok] ∧ batched = t.batched) ∨
        (runs log = [] ∧ batched = true ∧ ∃ relation reply,
          ⟨.readExport t e relation, reply⟩ ∈ log ∧
          (Export.Snapshot.ofReply relation (reply.mapError Cause.text)).batched = true ∧
          (Export.Snapshot.ofReply relation (reply.mapError Cause.text)).batchCount = 0))
  | batchesEnqueued n =>
    1 ≤ n ∧ runs log = [] ∧
      (∃ now rows, (∀ b ∈ rows, b.trackerId = t.id) ∧
        db' = (db.putTracker (t.moved .started job.jid true now)).addBatches rows) ∧
      ∀ k : Nat, 1 ≤ k → k ≤ n → ∃ b ∈ db'.batchRows, b.trackerId = t.id ∧ b.number = k
  | retrying delay =>
    ∃ reason now, runs log = [.ok (.retry delay reason)] ∧
      db' = db.putTracker (t.moved .enqueued job.jid t.batched now)
  | failed errorClass =>
    ∃ now row, row.entityId = e.id ∧ row.exceptionClass = errorClass ∧
      db' = (db.putTracker (t.moved .failed job.jid t.batched now)).addFailure row

variable {job : PipelineJob} {t : Tracker} {e : Entity} {db db' : Database}
  {l l' : List Exchange} {o : Invocation.Outcome}

/-- An outcome also accounts for what goes on around an invocation, as long as no pipeline is run
there. -/
theorem Accounts.widen (h : o.Accounts job t e db l db') (hr : runs l' = runs l) (hl : l ⊆ l') :
    o.Accounts job t e db l' db' := by
  cases o with
  | deferred | leaseHeld | notRunnable | reEnqueued | skipped | failed => exact h
  | finished =>
      obtain ⟨batched, now, hdb, ⟨hran, hb⟩ | ⟨hran, hb, relation, reply, hin, hs⟩⟩ := h
      · exact ⟨batched, now, hdb, .inl ⟨hr.trans hran, hb⟩⟩
      · exact ⟨batched, now, hdb, .inr ⟨hr.trans hran, hb, relation, reply, hl hin, hs⟩⟩
  | batchesEnqueued n =>
      obtain ⟨hn, hran, hrest⟩ := h
      exact ⟨hn, hr.trans hran, hrest⟩
  | retrying delay =>
      obtain ⟨reason, now, hran, hdb⟩ := h
      exact ⟨reason, now, hr.trans hran, hdb⟩

end Invocation.Outcome

namespace Coordinator

open Invocation (Outcome)

variable {κ : Clock} {c : Coordinator} {t : Tracker} {e : Entity} {a : Attributes}
  {job : PipelineJob} {db db' : Database} {log : List Exchange} {o : Outcome}

/-- The outcome of the work under the lease accounts for it. -/
theorem Serves.accounts (hm : db.Migrated) (h : Serves κ c t e a job db log (.ok o) db') :
    o.Accounts job t e db log db' := by
  cases h with
  | notRunnable => rfl
  | recorded _ _ _ _ hok =>
      cases hok (hm .failures)
      exact ⟨_, _, rfl, rfl, rfl⟩
  | @acted snapshot now l₁ l₂ _ _ _ _ hp ha _ =>
      obtain ⟨-, hran⟩ := hp.idle
      have hruns : runs (l₁ ++ l₂) = runs l₂ := by rw [runs_append, hran, List.nil_append]
      generalize hd : Decision.decide (c.circumstances t e snapshot now) = d at ha
      cases ha with
      | skip now => exact ⟨now, rfl⟩
      | reEnqueue => rfl
      | finishEmpty now =>
          obtain ⟨s, hs, hb, hn⟩ := Decision.of_decide_finishEmptyBatched hd
          cases hp with
          | nothing => cases hs
          | read hp hf he reply =>
              cases hs
              exact ⟨true, now, rfl, .inr ⟨rfl, rfl, _, reply, List.mem_cons_self, hb, hn⟩⟩
      | @fannedOut n start _ _ _ hf =>
          obtain ⟨s, -, -, hn⟩ := Decision.of_decide_startBatched hd
          have hm' : (db.putTracker (t.moved .started job.jid true start)).Migrated :=
            Database.migrated_putTracker.mpr hm
          obtain ⟨rows, hrows, rfl⟩ := hf.addBatches
          refine ⟨hn, hruns.trans hf.idle.2, ⟨_, rows, hrows, rfl⟩, fun k h₁ hk => ?_⟩
          obtain ⟨b, hb, ht, hnum, -⟩ := hf.scheduled (hm' .batches) rfl k h₁ (by omega)
          exact ⟨b, hb, ht, hnum⟩
      | ran hp now now' => exact ⟨t.batched, now', rfl, .inl ⟨hruns, rfl⟩⟩
      | retried hp now now' delay reason => exact ⟨reason, now', hruns, rfl⟩

/-- **The outcome of an invocation accounts for it.** -/
theorem Performs.accounts (hm : db.Migrated) (h : Performs κ c t e job db log (.ok o) db') :
    o.Accounts job t e db log db' := by
  cases h with
  | deferred | leaseHeld => rfl
  | @served l log _ _ _ hadm lease reply hs =>
      refine (hs.accounts hm).widen (hadm.around log).2 fun x hx => ?_
      exact List.mem_append_right _ (List.mem_cons_of_mem _ (List.mem_append_left _ hx))

/-- **An outcome determines what changed**, whoever answers. -/
theorem perform_accounts {σ : Type} (others : Surroundings σ) (c : Coordinator)
    (job : PipelineJob) (db : Database) (s : σ) {t : Tracker} {e : Entity} (hm : db.Migrated)
    (hk : db.Keyed) (ht : db.tracker? job.trackerId = some t)
    (he : db.entity? job.entityId = some e) {o : Outcome}
    (ho : (course others (c.perform job).run db s).value = .ok o) :
    o.Accounts job t e db (course others (c.perform job).run db s).exchanges
      (course others (c.perform job).run db s).database := by
  obtain ⟨version, hl⟩ := loads_of_entity (hm .imports) ht he
  have h := plays_perform hl hk ht he (plays_course others (c.perform job).run db s)
  rw [ho] at h
  exact h.accounts hm

/-- An enqueued tracker whose pipeline succeeds. -/
theorem perform_accounts_ran :
    let c : Coordinator := { registry := ⟨[⟨"issues", "issues", false⟩]⟩ }
    let e : Entity := { (default : Entity) with id := 1 }
    let t : Tracker :=
      { (default : Tracker) with id := 1, pipelineName := "issues", status := "enqueued" }
    let job : PipelineJob := .first 1 1 "jid" "corr"
    let db : Database := .single e t
    let r := course (steady .epoch "" granted) (c.perform job).run db ()
    (db.Migrated ∧ db.Keyed) ∧ db.tracker? 1 = some t ∧ db.entity? 1 = some e ∧
      r.value = .ok .finished ∧ Outcome.finished.Accounts job t e db r.exchanges r.database :=
  ⟨⟨Database.migrated_single _ _, Database.keyed_single _ _⟩, Database.tracker?_single _ _,
    Database.entity?_single _ _, rfl,
    perform_accounts _ _ _ _ _ (Database.migrated_single _ _) (Database.keyed_single _ _)
      (Database.tracker?_single _ _) (Database.entity?_single _ _) rfl⟩

end Coordinator

end ImportTracking
