import ImportTracking.Delivery
import ImportTracking.Proofs.Frame
import ImportTracking.Proofs.Performance

/-!
# Deliveries — one pipeline job of the queue

The handling of a job whose rows are there: the invocation comes to an outcome, or its fault leads
to a retry, or the retries are spent and the fault ends the tracker.

* `plays_afterFault`: what is done after a fault of the invocation.
* `plays_deliver`: every play of a delivery goes in one of the ways of `Delivers`.
-/

namespace ImportTracking.Coordinator

open Work Tracker
open Invocation (Outcome)

/-- The retries of a job are spent: used up, or the next one is refused. -/
inductive Spent (c : Coordinator) (job : PipelineJob) : List Exchange → Prop where
  | used (h : c.settings.maxRetries ≤ job.attempt) : Spent c job []
  | refused (h : ¬c.settings.maxRetries ≤ job.attempt) (cause : Cause) :
      Spent c job [⟨.schedulePipeline job.retried (Delivery.retryBackoff job.attempt),
        .error cause⟩]

/-- The exchanges, the disposition and the database of a delivery, with the times of the clock
`κ`. -/
inductive Delivers (κ : Clock) (c : Coordinator) (t : Tracker) (e : Entity) (job : PipelineJob)
    (db : Database) : List Exchange → Delivery → Database → Prop where
  | completed {log : List Exchange} {o : Outcome} {db' : Database}
      (hp : Performs κ c t e job db log (.ok o) db') :
      Delivers κ c t e job db log (.completed o) db'
  | retrying {log : List Exchange} {f : Fault} {db' : Database}
      (hp : Performs κ c t e job db log (.error f) db')
      (h : ¬c.settings.maxRetries ≤ job.attempt) :
      Delivers κ c t e job db
        (log ++ [⟨.schedulePipeline job.retried (Delivery.retryBackoff job.attempt), .ok ()⟩])
        (.retrying job.retried.attempt (Delivery.retryBackoff job.attempt)) db'
  | exhausted {log l : List Exchange} {f : Fault} {t' : Tracker} {db₁ : Database}
      {version : Option String} {now now' : Timestamp}
      (hp : Performs κ c t e job db log (.error f) db₁) (hs : Spent c job l)
      (ht : db₁.tracker? t.id = some t') :
      Delivers κ c t e job db
        (log ++ (l ++ [⟨.track f.report ((Attributes.of e t' version).withStatus
          (t'.moved .failed job.jid t'.batched now)), ()⟩]))
        .exhausted
        ((db₁.putTracker (t'.moved .failed job.jid t'.batched now)).addFailure
          (FailureLog.row db₁ t' e f.report job now'))

variable {κ : Clock} {c : Coordinator} {t : Tracker} {e : Entity} {job : PipelineJob}
  {db db' : Database} {log : List Exchange}

/-- Retries that are spent put no job into the queue, and run nothing. -/
theorem Spent.idle {l : List Exchange} (h : Spent c job l) : accepted l = [] ∧ runs l = [] := by
  cases h with
  | used | refused => exact ⟨rfl, rfl⟩

/-- A job's tracker is ended, whatever its fault. -/
theorem plays_exhaust {f : Fault} {a : Attributes} {d : Delivery}
    (hl : Loads job db (.ok ⟨e, t, a⟩)) (hk : db.Keyed)
    (ht : db.tracker? job.trackerId = some t) (he : db.entity? job.entityId = some e)
    (hs : ∃ s, t.known? = some s) (h : Plays κ (exhaust job f) db log d db') :
    d = .exhausted ∧ ∃ now now',
      log = [⟨.track f.report (a.withStatus (t.moved .failed job.jid t.batched now)), ()⟩] ∧
      db' = (db.putTracker (t.moved .failed job.jid t.batched now)).addFailure
        (FailureLog.row db t e f.report job now') := by
  obtain ⟨l₁, l₂, r, db₁, rfl, hfail, rfl, rfl, rfl⟩ := plays_bind.mp h
  obtain ⟨now, now', rfl, -, -, hdb⟩ := plays_performFailure hl hk ht he hs hfail
  exact ⟨rfl, now, now', rfl, hdb⟩

/-- Where the rows cannot be loaded, a job's tracker is not ended. -/
theorem plays_exhaust_of_error {f g : Fault} {d : Delivery} (hl : Loads job db (.error g))
    (h : Plays κ (exhaust job f) db log d db') : d = .exhausted ∧ log = [] ∧ db' = db := by
  obtain ⟨l₁, l₂, r, db₁, rfl, hfail, rfl, rfl, rfl⟩ := plays_bind.mp h
  obtain ⟨rfl, -, rfl⟩ := hl.bind_error hfail
  exact ⟨rfl, rfl, rfl⟩

/-- After a fault the job is dropped, tried again, or its retries are spent. -/
theorem plays_afterFault {f : Fault} {d : Delivery}
    (h : Plays κ (c.afterFault job f) db log d db') :
    (f.isNotFound = true ∧ log = [] ∧ d = .dropped ∧ db' = db) ∨
      (¬c.settings.maxRetries ≤ job.attempt ∧
        log = [⟨.schedulePipeline job.retried (Delivery.retryBackoff job.attempt), .ok ()⟩] ∧
        d = .retrying job.retried.attempt (Delivery.retryBackoff job.attempt) ∧ db' = db) ∨
      ∃ l₁ l₂, Spent c job l₁ ∧ log = l₁ ++ l₂ ∧ Plays κ (exhaust job f) db l₂ d db' := by
  unfold afterFault at h
  cases hf : f.isNotFound with
  | true =>
      rw [hf, if_pos rfl] at h
      obtain ⟨rfl, rfl, rfl⟩ := h
      exact .inl ⟨rfl, rfl, rfl, rfl⟩
  | false =>
      rw [hf, if_neg Bool.false_ne_true] at h
      refine .inr ?_
      by_cases hmax : c.settings.maxRetries ≤ job.attempt
      · rw [if_pos hmax] at h
        exact .inr ⟨[], log, .used hmax, rfl, h⟩
      · rw [if_neg hmax] at h
        obtain ⟨reply, rest, rfl, hafter⟩ := h
        cases reply with
        | ok u =>
            obtain ⟨rfl, rfl, rfl⟩ := hafter
            exact .inl ⟨hmax, rfl, rfl, rfl⟩
        | error cause => exact .inr ⟨_, rest, .refused hmax cause, rfl, hafter⟩

/-- **Every play of a delivery** goes in one of the ways of `Delivers`. -/
theorem plays_deliver {d : Delivery} (hm : db.Migrated) (hk : db.Keyed)
    (ht : db.tracker? job.trackerId = some t) (he : db.entity? job.entityId = some e)
    (hs : ∃ s, t.known? = some s) (h : Plays κ (c.deliver job) db log d db') :
    Delivers κ c t e job db log d db' := by
  obtain ⟨version, hl⟩ := loads_of_entity (hm .imports) ht he
  obtain ⟨l₁, l₂, r, db₁, rfl, hperform, hrest⟩ := plays_bind.mp h
  have hp := plays_perform hl hk ht he hperform
  cases r with
  | ok o =>
      obtain ⟨rfl, rfl, rfl⟩ := hrest
      rw [List.append_nil]
      exact .completed hp
  | error f =>
      obtain ⟨hf, -⟩ | ⟨hmax, rfl, rfl, rfl⟩ | ⟨l₃, l₄, hspent, rfl, hexhaust⟩ :=
        plays_afterFault hrest
      · -- a fault of an invocation is never that a row is gone
        rw [hp.error.1] at hf
        cases hf
      · exact .retrying hp hmax
      · have hid := Database.id_of_tracker? ht
        have hstands := hperform.stands
        obtain ⟨t', ht', hs'⟩ := (hp.kept (by rwa [hid])).known? hs
        have he' := (hstands.entity _).trans he
        obtain ⟨version', hl'⟩ := loads_of_entity (hstands.migrated hm .imports)
          (hid ▸ ht') he'
        obtain ⟨rfl, now, now', rfl, rfl⟩ :=
          plays_exhaust hl' (hstands.keyed hk) (hid ▸ ht') he' hs' hexhaust
        exact .exhausted hp hspent ht'

end ImportTracking.Coordinator
