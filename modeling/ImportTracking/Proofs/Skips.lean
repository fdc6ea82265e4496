import ImportTracking.Proofs.Waiting

/-!
# Skips — the jobs of an entity that has failed

For an entity that has failed nothing is run any more: what is left to do is to skip its trackers.
The decision looks at the entity before anything else, so it makes no difference whether the
pipeline is registered, or waits for an export; and a tracker that was skipped is never moved
again.  Jobs are followed one after the other (`performAll`), whatever others answer.

* `Serves.skips`: under the lease a tracker is skipped, if it may be run.
* `Performs.spares`: what one invocation leaves alone, and what it does once it has the lease.
* `performAll_spares`: the same of every invocation in a row, and skipped trackers stay skipped.
-/

namespace ImportTracking

open Work Tracker

/-- A tracker is there, and was skipped. -/
def Database.Skipped (db : Database) (id : Int) : Prop :=
  ∃ t, db.tracker? id = some t ∧ t.known? = some .skipped

/-- Skipping a tracker undoes no other skip. -/
theorem Database.Skipped.putTracker {db : Database} {t : Tracker} {id : Int}
    (h : db.Skipped id) (ht : db.tracker? t.id = some t) (jid : String) (batched : Bool)
    (now : Timestamp) : (db.putTracker (t.moved .skipped jid batched now)).Skipped id := by
  by_cases hid : id = (t.moved .skipped jid batched now).id
  · subst hid
    exact ⟨_, tracker?_putTracker_moved ht, known?_moved ..⟩
  · obtain ⟨t', ht', hs⟩ := h
    exact ⟨t', (tracker?_putTracker_of_ne hid).trans ht', hs⟩

namespace Coordinator

open Invocation (Outcome)

/-! ### One invocation -/

section
variable {κ : Clock} {c : Coordinator} {t : Tracker} {e : Entity} {a : Attributes}
  {job : PipelineJob} {db db' : Database} {log : List Exchange} {r : Except Fault Outcome}

/-- The work under the lease skips a tracker that may be run, and no other. -/
inductive Skips (t : Tracker) (job : PipelineJob) (db : Database) :
    Except Fault Outcome → Database → Prop where
  | notRunnable (h : t.isRunnable = false) : Skips t job db (.ok (.notRunnable t.status)) db
  | skipped (h : t.isRunnable = true) (now : Timestamp) :
      Skips t job db (.ok .skipped) (db.putTracker (t.moved .skipped job.jid t.batched now))

/-- Of a failed entity a tracker is skipped, without a request to anyone. -/
theorem Serves.skips (hfailed : e.isFailed = true) (h : Serves κ c t e a job db log r db') :
    log = [] ∧ Skips t job db r db' := by
  have hunread {p : Option Pipeline} {l : List Exchange} {o : Option Export.Snapshot}
      (hp : Polls p t e l o) : l = [] := by
    cases hp with
    | nothing => rfl
    | read _ _ hlive =>
        rw [hfailed] at hlive
        cases hlive
  -- whatever was polled, the decision is to skip
  have hdecide (o : Option Export.Snapshot) (now : Timestamp) :
      Decision.decide (c.circumstances t e o now) = .skip :=
    Decision.decide_of_entityFailed hfailed
  cases h with
  | notRunnable hend => exact ⟨rfl, .notRunnable hend⟩
  | acted hrun _ hp ha =>
      rw [hdecide] at ha
      obtain rfl := hunread hp
      cases ha with
      | skip now => exact ⟨rfl, .skipped hrun now⟩
  | recorded _ _ _ ha =>
      rw [hdecide] at ha
      cases ha

/-- What an invocation ends in that leaves the work of a tracker alone; a fault is that the job
could not be put off. -/
inductive Idles (job : PipelineJob) (log : List Exchange) : Except Fault Outcome → Prop where
  | skipped : Idles job log (.ok .skipped)
  | notRunnable (status : String) : Idles job log (.ok (.notRunnable status))
  | leaseHeld : Idles job log (.ok .leaseHeld)
  | deferred (delay : Duration) : Idles job log (.ok (.deferred delay))
  | deferralRefused (jid : String) (delay : Duration) (cause : Cause)
      (h : ⟨.schedulePipeline (job.reEnqueued jid) delay, .error cause⟩ ∈ log) :
      Idles job log (.error (.scheduling cause))

/-- An invocation for an entity that has failed. -/
structure Spares (job : PipelineJob) (db : Database) (log : List Exchange)
    (r : Except Fault Outcome) (db' : Database) : Prop where
  outcome : Idles job log r
  runs : runs log = []
  unread : ∀ t e relation reply, (⟨.readExport t e relation, reply⟩ : Exchange) ∉ log
  batches : db'.batches = db.batches
  failures : db'.failures = db.failures
  kept : ∀ id, db.Skipped id → db'.Skipped id
  /-- Under the lease a tracker that was due is skipped. -/
  skips : Leased log → (∃ t, db.tracker? job.trackerId = some t ∧
      (t.known? = some .enqueued ∨ t.known? = some .started)) →
    r = .ok .skipped ∧ db'.Skipped job.trackerId

/-- Of what was asked around the work under the lease nothing was for an export. -/
theorem Admits.unread (h : Admits c t e log) (t' : Tracker) (e' : Entity) (relation : String)
    (reply : Except Cause Export.Payload) :
    (⟨.readExport t' e' relation, reply⟩ : Exchange) ∉ log := by
  cases h <;> simp

/-- An invocation that does not obtain the lease changes nothing. -/
theorem Spares.unleased (hout : Idles job log r) (hruns : Work.runs log = [])
    (hunread : ∀ t e relation reply, (⟨.readExport t e relation, reply⟩ : Exchange) ∉ log)
    (hlease : ¬Leased log) : Spares job db log r db :=
  ⟨hout, hruns, hunread, rfl, rfl, fun _ h => h, fun h => absurd h hlease⟩

theorem Skips.spares (h : Skips t job db r db') (ht : db.tracker? job.trackerId = some t)
    (hruns : Work.runs log = [])
    (hunread : ∀ t e relation reply, (⟨.readExport t e relation, reply⟩ : Exchange) ∉ log) :
    Spares job db log r db' := by
  cases h with
  | notRunnable hend =>
      refine ⟨.notRunnable _, hruns, hunread, rfl, rfl, fun _ h => h, fun _ ⟨t', ht', hdue⟩ => ?_⟩
      obtain rfl := Option.some.inj (ht.symm.trans ht')
      rw [isRunnable_iff.mpr hdue] at hend
      cases hend
  | skipped _ now =>
      have ht' : db.tracker? t.id = some t := by rwa [Database.id_of_tracker? ht]
      exact ⟨.skipped, hruns, hunread, rfl, rfl, fun _ h => h.putTracker ht' _ _ _, fun _ _ =>
        ⟨rfl, _, Database.tracker?_putTracker_moved ht, known?_moved ..⟩⟩

/-- **An invocation for an entity that has failed** leaves the work of its tracker alone, and skips
the tracker if it obtains the lease. -/
theorem Performs.spares (hfailed : e.isFailed = true) (ht : db.tracker? job.trackerId = some t)
    (h : Performs κ c t e job db log r db') : Spares job db log r db' := by
  cases h with
  | deferred => exact .unleased (.deferred _) rfl (by simp) (by simp [Leased])
  | deferralRefused _ jid cause =>
      exact .unleased (.deferralRefused jid _ cause (List.mem_cons_of_mem _ List.mem_cons_self)) rfl
        (by simp) (by simp [Leased])
  | leaseHeld hadm reply hr =>
      refine .unleased .leaseHeld ?_ (fun t' e' relation reply' hmem => ?_) (hadm.not_leased hr)
      · cases hadm <;> rfl
      · rcases List.mem_append.mp hmem with hmem | hmem
        · exact hadm.unread t' e' relation reply' hmem
        · simp at hmem
  | served hadm lease reply hs =>
      obtain ⟨rfl, hskips⟩ := hs.skips hfailed
      refine hskips.spares ht (hadm.around []).2 fun t' e' relation reply' hmem => ?_
      rcases List.mem_append.mp hmem with hmem | hmem
      · exact hadm.unread t' e' relation reply' hmem
      · simp at hmem

end

/-! ### Invocations in a row -/

section
variable {σ : Type} {others : Surroundings σ} {sc : Scene σ}

/-- Performs jobs one after the other, each by its coordinator from where the last one ended. -/
def performAll (others : Surroundings σ) :
    List (Coordinator × PipelineJob) → Scene σ → List (Performed σ)
  | [], _ => []
  | (c, job) :: calls, sc =>
    let x := performed others c job sc
    x :: performAll others calls x.after

/-- A job is for a tracker that is there, of an entity that has failed. -/
structure ForFailed (job : PipelineJob) (db : Database) : Prop where
  keyed : db.Keyed
  imports : db.hasTable .imports = true
  tracker : ∃ t, db.tracker? job.trackerId = some t
  entity : ∃ e, db.entity? job.entityId = some e ∧ e.isFailed = true

/-- No program saves an entity that has failed. -/
theorem ForFailed.stands {job : PipelineJob} {db db' : Database} (h : ForFailed job db)
    (hs : Database.Stands db db') : ForFailed job db' where
  keyed := hs.keyed h.keyed
  imports := (hs.hasTable _).trans h.imports
  tracker := hs.tracker? h.tracker
  entity := by
    rw [hs.entity]
    exact h.entity

/-- An invocation with what it leaves alone. -/
def Performed.Spares (x : Performed σ) : Prop :=
  Coordinator.Spares x.job x.before.database x.after.exchanges x.result x.after.database

theorem performed_spares {c : Coordinator} {job : PipelineJob} (h : ForFailed job sc.database) :
    (performed others c job sc).Spares := by
  obtain ⟨t, ht⟩ := h.tracker
  obtain ⟨e, he, hfailed⟩ := h.entity
  obtain ⟨version, hl⟩ := loads_of_entity h.imports ht he
  exact (plays_perform hl h.keyed ht he (plays_performed others c job sc)).spares hfailed ht

variable {calls : List (Coordinator × PipelineJob)}

/-- After an invocation, the jobs that are left are still for entities that have failed. -/
theorem forall_forFailed_after (others : Surroundings σ) (c : Coordinator) (job : PipelineJob)
    (h : ∀ call ∈ calls, ForFailed call.2 sc.database) :
    ∀ call ∈ calls, ForFailed call.2 (performed others c job sc).after.database :=
  fun call hc => (h call hc).stands (plays_performed others c job sc).stands

/-- Every invocation in a row leaves the work alone. -/
theorem spares_of_mem_performAll (h : ∀ call ∈ calls, ForFailed call.2 sc.database) :
    ∀ x ∈ performAll others calls sc, x.Spares := by
  induction calls generalizing sc with
  | nil => exact List.forall_mem_nil _
  | cons call calls ih =>
      obtain ⟨hjob, hrest⟩ := List.forall_mem_cons.mp h
      exact List.forall_mem_cons.mpr
        ⟨performed_spares hjob, ih (forall_forFailed_after others call.1 call.2 hrest)⟩

/-- **A tracker that was skipped stays skipped** through any invocations in a row. -/
theorem skipped_of_mem_performAll (h : ∀ call ∈ calls, ForFailed call.2 sc.database) {id : Int}
    (hs : sc.database.Skipped id) :
    ∀ x ∈ performAll others calls sc, x.after.database.Skipped id := by
  -- what is skipped before an invocation is skipped after it, and so before the next one
  induction calls generalizing sc with
  | nil => exact List.forall_mem_nil _
  | cons call calls ih =>
      obtain ⟨hjob, hrest⟩ := List.forall_mem_cons.mp h
      have hspares : (performed others call.1 call.2 sc).Spares := performed_spares hjob
      have hs' := hspares.kept id hs
      exact List.forall_mem_cons.mpr
        ⟨hs', ih (forall_forFailed_after others call.1 call.2 hrest) hs'⟩

/-- **A failed entity never runs.**  Of any invocations in a row for entities that have failed
every one leaves the work of its tracker alone; and where one obtains the lease of a tracker that
is enqueued or started, it skips that, for good. -/
theorem performAll_spares (others : Surroundings σ) (calls : List (Coordinator × PipelineJob))
    (sc : Scene σ) (h : ∀ call ∈ calls, ForFailed call.2 sc.database) :
    (∀ x ∈ performAll others calls sc, x.Spares) ∧
    ∀ before x later, performAll others calls sc = before ++ x :: later →
      Leased x.after.exchanges →
      (∃ t, x.before.database.tracker? x.job.trackerId = some t ∧
        (t.known? = some .enqueued ∨ t.known? = some .started)) →
      x.result = .ok .skipped ∧ ∀ y ∈ x :: later, y.after.database.Skipped x.job.trackerId := by
  refine ⟨spares_of_mem_performAll h, fun before x later hsplit hlease hdue => ?_⟩
  -- the invocation is the first one, or one of those after it
  induction calls generalizing sc before with
  | nil => cases List.append_ne_nil_of_right_ne_nil before (List.cons_ne_nil x later) hsplit.symm
  | cons call calls ih =>
      obtain ⟨hjob, hrest⟩ := List.forall_mem_cons.mp h
      have hlater := forall_forFailed_after others call.1 call.2 hrest
      cases before with
      | nil =>
          obtain ⟨rfl, rfl⟩ := List.cons.inj hsplit
          obtain ⟨hr, hskipped⟩ := (performed_spares hjob).skips hlease hdue
          exact ⟨hr, List.forall_mem_cons.mpr
            ⟨hskipped, skipped_of_mem_performAll hlater hskipped⟩⟩
      | cons y before => exact ih _ hlater before (List.cons.inj hsplit).2

/-- Two trackers of a failed entity, one of them of a pipeline that nobody knows, the other one
waiting for an export: both are skipped, and a second job of the first finds that out. -/
theorem performAll_spares_two :
    let c : Coordinator := { registry := ⟨[⟨"issues", "issues", true⟩]⟩ }
    let e : Entity := { (default : Entity) with id := 1, status := "failed" }
    let t : Tracker :=
      { (default : Tracker) with id := 1, pipelineName := "lost", status := "enqueued" }
    let t' : Tracker :=
      { (default : Tracker) with id := 2, pipelineName := "issues", status := "started" }
    let db : Database :=
      { Database.single e t with trackers := some { rows := [t, t'], lastId := 2 } }
    let jobs := [PipelineJob.first 1 1 "jid" "corr", .first 2 1 "jid" "corr",
      .first 1 1 "jid" "corr"]
    let xs := performAll (steady default "new" granted) (jobs.map (c, ·)) ⟨db, (), []⟩
    xs.map (·.result) = [.ok .skipped, .ok .skipped, .ok (.notRunnable "skipped")] ∧
      (∀ x ∈ xs, x.Spares) ∧ ∀ y ∈ xs, y.after.database.Skipped 1 := by
  intro c e t t' db jobs xs
  have hjob (id : Int) (h : ∃ t, db.tracker? id = some t) :
      ForFailed (.first id 1 "jid" "corr") db :=
    { keyed := show [(1 : Int), 2].Nodup by decide
      imports := rfl
      tracker := h
      entity := ⟨e, rfl, rfl⟩ }
  obtain ⟨hspares, hskips⟩ := performAll_spares (steady default "new" granted) (jobs.map (c, ·))
    ⟨db, (), []⟩ (List.forall_mem_cons.mpr ⟨hjob 1 ⟨t, rfl⟩, List.forall_mem_cons.mpr
      ⟨hjob 2 ⟨t', rfl⟩, List.forall_mem_singleton.mpr (hjob 1 ⟨t, rfl⟩)⟩⟩)
  exact ⟨by decide +kernel, hspares,
    (hskips [] _ _ rfl (by decide +kernel) ⟨t, rfl, .inl rfl⟩).2⟩

end

end Coordinator

end ImportTracking
