import ImportTracking.Proofs.Deliveries
import ImportTracking.Proofs.Routing

/-!
# Coverage — batches are of batched trackers

A report shows the batches of a tracker only if the tracker is marked as batched.  It shows them all
if the database is `Covered`: if no tracker has batches that is not marked.  A fan-out marks its
tracker before the first batch is written, and nothing takes the mark away.

* `Acts.covered`, `Performs.covered`: whichever way an invocation goes, the database stays covered.
* `plays_deliver_covered`: so it does over a whole delivery, whatever the job.
* `Reaches.sound`: so it does over any number of deliveries.
-/

namespace ImportTracking

open Work Tracker

namespace Database

variable {db : Database} {t : Tracker} {s : Status} {jid : String} {batched : Bool}
  {now : Timestamp}

/-- A tracker that has batches is batched. -/
def Covered (db : Database) : Prop :=
  ∀ t ∈ db.trackerRows, ∀ b ∈ db.batchRows, b.trackerId = t.id → t.batched = true

theorem covered_of_batchRows (h : db.batchRows = []) : db.Covered := fun t _ b hb => by
  rw [h] at hb
  cases hb

namespace Covered

/-- A tracker that is moved, and stays batched if it was, has its batches covered. -/
theorem moved (h : db.Covered) (hk : db.Keyed) (ht : db.tracker? t.id = some t)
    (hb : t.batched = true → batched = true) :
    (db.putTracker (t.moved s jid batched now)).Covered := by
  intro t' ht' b hb' hid
  rw [trackerRows_putTracker, List.mem_map] at ht'
  obtain ⟨old, hold, rfl⟩ := ht'
  by_cases heq : old.id = t.id
  · -- the row that was replaced is the tracker's own
    obtain rfl : old = t := Option.some.inj ((tracker?_of_mem hk hold).symm.trans (heq ▸ ht))
    have hput : (if old.id == (old.moved s jid batched now).id then old.moved s jid batched now
        else old) = old.moved s jid batched now := if_pos (beq_self_eq_true _)
    rw [hput] at hid ⊢
    exact hb (h old hold b hb' hid)
  · have hput : (if old.id == (t.moved s jid batched now).id then t.moved s jid batched now
        else old) = old := if_neg (show ¬(old.id == t.id) = true by simpa using heq)
    rw [hput] at hid ⊢
    exact h old hold b hb' hid

/-- A tracker that is batched has its new batches covered. -/
theorem addBatches (h : db.Covered) (hm : db.Migrated) (hk : db.Keyed)
    (ht : db.tracker? t.id = some t) (hb : t.batched = true) {rows : List Batch}
    (hrows : ∀ b ∈ rows, b.trackerId = t.id) : (db.addBatches rows).Covered := by
  intro t' ht' b hb' hid
  rw [trackerRows_addBatches] at ht'
  rcases (mem_batchRows_addBatches rows (hm .batches)).mp hb' with hnew | hold
  · obtain rfl : t' = t := by
      refine Option.some.inj ((tracker?_of_mem hk ht').symm.trans ?_)
      rwa [← hid, hrows b hnew]
    exact hb
  · exact h t' ht' b hold hid

theorem addFailure (h : db.Covered) (row : Failure) : (db.addFailure row).Covered := h

end Covered

end Database

namespace Coordinator

open Invocation (Outcome)

variable {κ : Clock} {c : Coordinator} {p : Option Pipeline} {t : Tracker} {e : Entity}
  {a : Attributes} {job : PipelineJob} {db db' : Database} {log : List Exchange}
  {r : Except Fault Outcome}

/-- A fan-out of a tracker that was marked as batched has its batches covered. -/
theorem covered_fansOut {count number : Nat} {now : Timestamp} {bs : Except Fault (List Batch)}
    (hm : db.Migrated) (hk : db.Keyed) (hc : db.Covered) (ht : db.tracker? t.id = some t)
    (h : Batch.FansOut t.id count number (db.putTracker (t.moved .started job.jid true now)) log bs
      db') : db'.Covered := by
  obtain ⟨rows, hrows, rfl⟩ := h.addBatches
  exact (hc.moved hk ht fun _ => rfl).addBatches (Database.migrated_putTracker.mpr hm)
    (Database.keyed_putTracker hk _) (Database.tracker?_putTracker_moved ht) rfl hrows

/-- **An action keeps batches covered.** -/
theorem Acts.covered {d : Decision} (hm : db.Migrated) (hk : db.Keyed) (hc : db.Covered)
    (ht : db.tracker? t.id = some t) (h : Acts c p t e job db d log r db') : db'.Covered := by
  cases h with
  | fail | reEnqueue | reEnqueueRefused | unknown => exact hc
  | finishEmpty => exact hc.moved hk ht fun _ => rfl
  | skip | ran | crashed | gaveUp | retried | retryRefused => exact hc.moved hk ht id
  | fannedOut hf | fanOutStopped hf => exact covered_fansOut hm hk hc ht hf

theorem Serves.covered (hm : db.Migrated) (hk : db.Keyed) (hc : db.Covered)
    (ht : db.tracker? t.id = some t) (h : Serves κ c t e a job db log r db') : db'.Covered := by
  cases h with
  | notRunnable => exact hc
  | acted _ _ _ ha => exact ha.covered hm hk hc ht
  | recorded => exact (hc.moved hk ht id).addFailure _

/-- **An invocation keeps batches covered.** -/
theorem Performs.covered (hm : db.Migrated) (hk : db.Keyed) (hc : db.Covered)
    (ht : db.tracker? job.trackerId = some t) (h : Performs κ c t e job db log r db') :
    db'.Covered := by
  cases h with
  | deferred | deferralRefused | leaseHeld => exact hc
  | served _ _ _ hs => exact hs.covered hm hk hc (by rwa [Database.id_of_tracker? ht])

theorem plays_perform_covered (hm : db.Migrated) (hk : db.Keyed) (hc : db.Covered)
    (h : Plays κ (c.perform job).run db log r db') : db'.Covered := by
  obtain ⟨e, t, version, he, ht, hl⟩ | ⟨g, -, hl⟩ := loads_or_gone job hm
  · exact (plays_perform hl hk ht he h).covered hm hk hc ht
  · obtain ⟨-, -, rfl⟩ := hl.bind_error h
    exact hc

/-- A tracker whose status is not known is not ended, whatever the fault. -/
theorem plays_exhaust_of_unknown {f : Fault} {d : Delivery} (hs : t.known? = none)
    (hl : Loads job db (.ok ⟨e, t, a⟩)) (h : Plays κ (exhaust job f) db log d db') : db' = db := by
  obtain ⟨l₁, l₂, r, db₁, rfl, hfail, -, -, rfl⟩ := plays_bind.mp h
  have hrun := hl.bind_ok hfail
  simp only [FailureLog.failTracker, transition, statusOf, hs] at hrun
  exact hrun.2.2

/-- **A job's tracker is ended** with its batches covered. -/
theorem plays_exhaust_covered {f : Fault} {d : Delivery} (hm : db.Migrated) (hk : db.Keyed)
    (hc : db.Covered) (h : Plays κ (exhaust job f) db log d db') : db'.Covered := by
  obtain ⟨e, t, version, he, ht, hl⟩ | ⟨g, -, hl⟩ := loads_or_gone job hm
  · cases hs : t.known? with
    | none =>
        obtain rfl := plays_exhaust_of_unknown hs hl h
        exact hc
    | some s =>
        obtain ⟨-, now, now', -, rfl⟩ := plays_exhaust hl hk ht he ⟨s, hs⟩ h
        have ht' : db.tracker? t.id = some t := by rwa [Database.id_of_tracker? ht]
        exact (hc.moved hk ht' id).addFailure _
  · obtain ⟨-, -, rfl⟩ := plays_exhaust_of_error hl h
    exact hc

/-- **A delivery keeps batches covered**, whatever the job. -/
theorem plays_deliver_covered {d : Delivery} (hm : db.Migrated) (hk : db.Keyed) (hc : db.Covered)
    (h : Plays κ (c.deliver job) db log d db') : db'.Covered := by
  obtain ⟨l₁, l₂, r, db₁, rfl, hperform, hrest⟩ := plays_bind.mp h
  have hstands := hperform.stands
  have hc₁ := plays_perform_covered hm hk hc hperform
  cases r with
  | ok o =>
      obtain ⟨-, -, rfl⟩ := hrest
      exact hc₁
  | error f =>
      obtain ⟨-, -, -, rfl⟩ | ⟨-, -, -, rfl⟩ | ⟨l₃, l₄, -, -, hexhaust⟩ := plays_afterFault hrest
      · exact hc₁
      · exact hc₁
      · exact plays_exhaust_covered (hstands.migrated hm) (hstands.keyed hk) hc₁ hexhaust

/-! ### Any number of deliveries -/

/-- What becomes of a database over any number of deliveries, one at a time: of whatever jobs, by
whatever coordinators, and whoever answers. -/
inductive Reaches : Database → Database → Prop where
  | none (db : Database) : Reaches db db
  | more {db db' : Database} (h : Reaches db db') {σ : Type} (others : Surroundings σ)
      (c : Coordinator) (job : PipelineJob) (s : σ) :
      Reaches db (course others (c.deliver job) db' s).database

/-- **Deliveries keep** the tables, the ids apart, and batches covered. -/
theorem Reaches.sound (hm : db.Migrated) (hk : db.Keyed) (hc : db.Covered) (h : Reaches db db') :
    db'.Migrated ∧ db'.Keyed ∧ db'.Covered := by
  induction h with
  | none => exact ⟨hm, hk, hc⟩
  | @more db₁ _ _ others c job s ih =>
      obtain ⟨hm', hk', hc'⟩ := ih
      have hplays := plays_course others (c.deliver job) db₁ s
      exact ⟨hplays.stands.migrated hm', hplays.stands.keyed hk',
        plays_deliver_covered hm' hk' hc' hplays⟩

end Coordinator

end ImportTracking
