import ImportTracking.Proofs.Duplicates
import Mathlib.Algebra.Order.Floor.Div

/-!
# Waiting — a tracker whose export stays empty

A tracker whose export is empty is put back and polled again, by a new job every time.  No count of
the polls is kept: what ends the waiting is that the tracker is older at every poll, until it is as
old as the timeout.  The jobs are followed from one occasion to the next (`reperform`); in between
others may work, on other trackers.

* `decide_of_empty`: an empty export is waited for while the tracker is younger than the timeout.
* `Performs.waits_or_expires`: so is it by an invocation that finds nothing in its way.
* `reperform_expires`: the waiting is bounded, and its end is the end of the tracker.
-/

namespace ImportTracking

open Work Tracker

/-! ### Empty exports -/

namespace Export.Snapshot

theorem failed_ofStatus {s : RelationStatus} (h : (ofStatus s).empty = true) :
    (ofStatus s).failed = false := by
  unfold ofStatus at *
  split at h
  · -- a status without a state does not say that the export failed
    rename_i hcount
    rw [if_pos hcount, Option.isNone_iff_eq_none.mp h]
    rfl
  · cases h

/-- An export that is empty has not failed. -/
theorem failed_ofReply {relation : String} {r : Except String Payload}
    (h : (ofReply relation r).empty = true) : (ofReply relation r).failed = false := by
  unfold ofReply at *
  split at h
  · cases h
  · split at h
    · exact failed_ofStatus h
    · rfl

end Export.Snapshot

namespace Decision

/-- **An empty export** is waited for while the tracker is younger than the timeout. -/
theorem decide_of_empty {cs : Circumstances} {s : Export.Snapshot}
    (hlive : cs.entityFailed = false) (hfile : cs.fileExtraction = true)
    (hs : cs.exportStatus = some s) (hempty : s.empty = true) (hfailed : s.failed = false) :
    decide cs = if cs.emptyExportTimeout ≤ cs.age then .fail (.expired emptyExportMessage)
      else .reEnqueue := by
  simp only [decide, hlive, hs, hfile, ofExport, hempty, hfailed, Export.Snapshot.isPending]
  simp

end Decision

namespace Work.Exchange

/-- Nothing is in the way: a destination is not under load, a lease is obtained, a job is accepted;
and an export that is read is empty. -/
def isCalm : Exchange → Bool
  | ⟨.isUnderLoad _ _, .ok true⟩ => false
  | ⟨.obtainLease _ _, .ok (some _)⟩ => true
  | ⟨.obtainLease _ _, _⟩ => false
  | ⟨.schedulePipeline _ _, .error _⟩ => false
  | ⟨.readExport _ _ relation, reply⟩ =>
    (Export.Snapshot.ofReply relation (reply.mapError Cause.text)).empty
  | _ => true

end Work.Exchange

namespace Coordinator

open Invocation (Outcome)

/-! ### One invocation -/

/-- A job drives a tracker that may be run, of an entity that has not failed, by a pipeline that
waits for an export. -/
structure Awaits (c : Coordinator) (job : PipelineJob) (t : Tracker) (e : Entity) (db : Database) :
    Prop where
  keyed : db.Keyed
  imports : db.hasTable .imports = true
  failures : db.hasTable .failures = true
  tracker : db.tracker? job.trackerId = some t
  runnable : t.isRunnable = true
  entity : db.entity? job.entityId = some e
  live : e.isFailed = false
  pipeline : ∃ p, c.registry.find? t.pipelineName = some p ∧ p.fileExtraction = true

variable {κ : Clock} {c : Coordinator} {t : Tracker} {e : Entity} {job : PipelineJob}
  {db db' : Database} {log : List Exchange} {r : Except Fault Outcome}

/-- An invocation waits: the job is put back, and nothing is changed. -/
def Waits (c : Coordinator) (job : PipelineJob) (log : List Exchange) (r : Except Fault Outcome)
    (db db' : Database) : Prop :=
  r = .ok (.reEnqueued c.settings.reEnqueueDelay) ∧ db' = db ∧
    ∃ jid, accepted log = [job.reEnqueued jid]

/-- An invocation gives up: nothing is put back, the tracker has failed, and there is one failure
more, which records that the export stayed empty. -/
def GivesUp (t : Tracker) (job : PipelineJob) (log : List Exchange) (r : Except Fault Outcome)
    (db db' : Database) : Prop :=
  r = .ok (.failed "PipelineExpiredError") ∧ accepted log = [] ∧
    ∃ now row, row.exceptionClass = "PipelineExpiredError" ∧ row.entityId = job.entityId ∧
      db' = (db.putTracker (t.moved .failed job.jid t.batched now)).addFailure row ∧
      db'.tracker? job.trackerId = some (t.moved .failed job.jid t.batched now) ∧
      db'.failureRows.Perm (row :: db.failureRows)

/-- What a poll of a waiting tracker decides, when the export is empty. -/
theorem Polls.decide {o : Option Export.Snapshot} (hw : Awaits c job t e db)
    (h : Polls (c.registry.find? t.pipelineName) t e log o)
    (hcalm : ∀ x ∈ log, x.isCalm = true) (now : Timestamp) :
    Decision.decide (c.circumstances t e o now) =
      if c.settings.emptyExportTimeout ≤ age now t e
      then .fail (.expired Decision.emptyExportMessage) else .reEnqueue := by
  obtain ⟨p, hp, hfile⟩ := hw.pipeline
  cases h with
  | nothing hnot =>
      rw [hnot p hp hw.live] at hfile
      cases hfile
  | read _ _ _ reply =>
      have hempty := hcalm _ (List.mem_singleton.mpr rfl)
      refine Decision.decide_of_empty hw.live ?_ rfl hempty (Export.Snapshot.failed_ofReply hempty)
      show (c.registry.find? t.pipelineName).any (·.fileExtraction) = true
      rw [hp]
      exact hfile

/-- The work under the lease of a waiting tracker waits, or gives up once the tracker is as old as
the timeout. -/
theorem Serves.waits_or_expires {a : Attributes} (hw : Awaits c job t e db)
    (h : Serves κ c t e a job db log r db') (hcalm : ∀ x ∈ log, x.isCalm = true) :
    ∃ now, κ now ∧
      ((¬c.settings.emptyExportTimeout ≤ age now t e ∧ Waits c job log r db db') ∨
        c.settings.emptyExportTimeout ≤ age now t e ∧ GivesUp t job log r db db') := by
  cases h with
  | notRunnable hnot =>
      rw [hw.runnable] at hnot
      cases hnot
  | @acted o now l₁ l₂ _ _ _ hκ hp ha hr =>
      obtain ⟨hcalm₁, hcalm₂⟩ := List.forall_mem_append.mp hcalm
      rw [hp.decide hw hcalm₁ now] at ha
      refine ⟨now, hκ, ?_⟩
      split at ha
      · -- a fault that ends the tracker is recorded, and is no outcome of the turn
        cases ha
        cases hr _ rfl
      · rename_i hage
        cases ha with
        | reEnqueue jid =>
            refine .inl ⟨hage, rfl, rfl, jid, ?_⟩
            rw [accepted_append, hp.idle.1]
            rfl
        | reEnqueueRefused => cases hcalm₂ _ (List.mem_singleton.mpr rfl)
  | @recorded o now now₁ now₂ l₁ l₂ f db₁ _ hκ hp ha _ hok =>
      obtain ⟨hcalm₁, -⟩ := List.forall_mem_append.mp (List.forall_mem_append.mp hcalm).1
      rw [hp.decide hw hcalm₁ now] at ha
      refine ⟨now, hκ, ?_⟩
      split at ha
      · rename_i hage
        cases ha
        refine .inr ⟨hage, hok hw.failures, ?_, now₁, _, rfl, Database.id_of_entity? hw.entity, rfl,
          Database.tracker?_putTracker_moved hw.tracker,
          Database.perm_failureRows_addFailure hw.failures _⟩
        rw [accepted_append, accepted_append, hp.idle.1]
        rfl
      · cases ha

/-- **An invocation for a waiting tracker** that finds nothing in its way waits, or gives up once
the tracker is as old as the timeout. -/
theorem Performs.waits_or_expires (hw : Awaits c job t e db)
    (h : Performs κ c t e job db log r db') (hcalm : ∀ x ∈ log, x.isCalm = true) :
    ∃ now, κ now ∧
      ((¬c.settings.emptyExportTimeout ≤ age now t e ∧ Waits c job log r db db') ∨
        c.settings.emptyExportTimeout ≤ age now t e ∧ GivesUp t job log r db db') := by
  cases h with
  | deferred | deferralRefused => cases hcalm _ List.mem_cons_self
  | leaseHeld _ reply hr =>
      have hlease := hcalm _ (List.mem_append_right _ (List.mem_singleton.mpr rfl))
      rcases reply with _ | _ | lease
      · cases hlease
      · cases hlease
      · exact absurd rfl (hr lease)
  | served hadm lease reply hs =>
      obtain ⟨-, hrest⟩ := List.forall_mem_append.mp hcalm
      obtain ⟨-, hrest⟩ := List.forall_mem_cons.mp hrest
      have h := hs.waits_or_expires hw (List.forall_mem_append.mp hrest).1
      -- around the work under the lease no job is accepted
      unfold Waits GivesUp at *
      rwa [(hadm.around _).1]

/-! ### From one occasion to the next -/

section
variable {σ : Type}

/-- One invocation: the scenes before and after, with the requests made in between, what came of it,
and the times that it read off the clock. -/
structure Performed (σ : Type) where
  job : PipelineJob
  before : Scene σ
  result : Except Fault Outcome
  after : Scene σ
  readings : List Timestamp

/-- Performs a job in a scene. -/
def performed (others : Surroundings σ) (c : Coordinator) (job : PipelineJob) (sc : Scene σ) :
    Performed σ :=
  let start : Scene σ := { sc with exchanges := [] }
  let r := (c.perform job).run.run (Scene.answer others) start
  ⟨job, start, r.1, r.2, readings others (c.perform job).run start⟩

/-- Performs a job, and at every later occasion the job that was put back before, if one was. -/
def reperform (others : Surroundings σ) (c : Coordinator) :
    PipelineJob → List (Scene σ) → List (Performed σ)
  | _, [] => []
  | job, sc :: later =>
    let x := performed others c job sc
    x :: match accepted x.after.exchanges with
      | [] => []
      | next :: _ => reperform others c next later

/-- Since an invocation the time `d` has passed, and whatever others did was not done to its tracker
or its entity. -/
structure Follows (d : Duration) (x y : Performed σ) : Prop where
  later : ∀ now ∈ y.readings, ∀ prev ∈ x.readings, (d.nanos : Int) ≤ now.nanosFrom prev
  keyed : x.after.database.Keyed → y.before.database.Keyed
  hasTable : ∀ name, y.before.database.hasTable name = x.after.database.hasTable name
  tracker : y.before.database.tracker? x.job.trackerId = x.after.database.tracker? x.job.trackerId
  entity : y.before.database.entity? x.job.entityId = x.after.database.entity? x.job.entityId

/-- A later invocation for the tracker of a job changes nothing; and where it obtains the lease, it
finds that the tracker has failed. -/
def Over (others : Surroundings σ) (c : Coordinator) (job : PipelineJob) (db : Database) : Prop :=
  ∀ (again : PipelineJob) (sc : Scene σ), again.trackerId = job.trackerId → sc.database.Keyed →
    sc.database.tracker? job.trackerId = db.tracker? job.trackerId →
    let y := performed others c again sc
    y.after.database = sc.database ∧
      ((∃ key ttl lease, ⟨.obtainLease key ttl, .ok (some lease)⟩ ∈ y.after.exchanges) →
        y.result = .ok (.notRunnable "failed"))

variable {others : Surroundings σ} {sc : Scene σ}

/-- An invocation plays with the times that it reads. -/
theorem plays_performed (others : Surroundings σ) (c : Coordinator) (job : PipelineJob)
    (sc : Scene σ) :
    let x := performed others c job sc
    Plays (· ∈ x.readings) (c.perform job).run sc.database x.after.exchanges x.result
      x.after.database := by
  intro x
  obtain ⟨log, hl, hp⟩ : ∃ log, x.after.exchanges = [] ++ log ∧
      Plays (· ∈ x.readings) (c.perform job).run sc.database log x.result x.after.database :=
    plays_run_of_readings fun _ ht => ht
  rw [List.nil_append] at hl
  rw [hl]
  exact hp

/-- An invocation that obtains the lease of an ended tracker says so. -/
theorem Performs.notRunnable (hend : t.isRunnable = false)
    (h : Performs κ c t e job db log r db')
    (hlease : ∃ key ttl lease, ⟨.obtainLease key ttl, .ok (some lease)⟩ ∈ log) :
    r = .ok (.notRunnable t.status) := by
  obtain ⟨key, ttl, lease, hmem⟩ := hlease
  cases h with
  | deferred | deferralRefused => simp at hmem
  | leaseHeld hadm reply hr =>
      rcases List.mem_append.mp hmem with hmem | hmem
      · cases hadm <;> simp at hmem
      · cases List.mem_singleton.mp hmem
        exact absurd rfl (hr lease)
  | served _ _ _ hs =>
      cases hs with
      | notRunnable => rfl
      | acted hrun | recorded hrun =>
          rw [hrun] at hend
          cases hend

/-- Once it has given up, it is over. -/
theorem GivesUp.over (h : GivesUp t job log r db db') : Over others c job db' := by
  obtain ⟨-, -, now, row, -, -, -, hfailed, -⟩ := h
  intro again sc hid hk ht
  have ht' : sc.database.tracker? again.trackerId =
      some (t.moved .failed job.jid t.batched now) := by
    rw [hid, ht, hfailed]
  have hend : (t.moved .failed job.jid t.batched now).isRunnable = false := isRunnable_moved ..
  have hplay := plays_performed others c again sc
  obtain ⟨e', version, he', hl⟩ | ⟨g, hl, -⟩ := loads ht'
  · have hp := plays_perform hl hk ht' he' hplay
    exact ⟨(hp.ended hend).1, hp.notRunnable hend⟩
  · obtain ⟨hnone, -, hsame⟩ := hl.bind_error hplay
    refine ⟨hsame, fun ⟨_, _, _, hmem⟩ => ?_⟩
    rw [hnone] at hmem
    cases hmem

/-! ### The bound -/

theorem reperform_of_nil {later : List (Scene σ)}
    (h : accepted (performed others c job sc).after.exchanges = []) :
    reperform others c job (sc :: later) = [performed others c job sc] := by
  simp only [reperform, h]

theorem reperform_of_accepted {next : PipelineJob} {later : List (Scene σ)}
    (h : accepted (performed others c job sc).after.exchanges = [next]) :
    reperform others c job (sc :: later) =
      performed others c job sc :: reperform others c next later := by
  simp only [reperform, h]

/-- A job that was put back waits for the same tracker, while others leave it alone. -/
theorem Awaits.follow {x y : Performed σ} {d : Duration} (hw : Awaits c x.job t e x.before.database)
    (hsame : x.after.database = x.before.database) (h : Follows d x y) (jid : String) :
    Awaits c (x.job.reEnqueued jid) t e y.before.database := by
  have hkeyed := h.keyed
  have htable := h.hasTable
  have htracker := h.tracker
  have hentity := h.entity
  rw [hsame] at hkeyed htable htracker hentity
  exact
    { keyed := hkeyed hw.keyed
      imports := (htable _).trans hw.imports
      failures := (htable _).trans hw.failures
      tracker := htracker.trans hw.tracker
      runnable := hw.runnable
      entity := hentity.trans hw.entity
      live := hw.live
      pipeline := hw.pipeline }

/-- A wait uses up one of those that fit into the time that is left. -/
theorem ceilDiv_wait {timeout a d : Nat} (hd : 0 < d) (ha : a < timeout) :
    (timeout - (a + d)) ⌈/⌉ d + 1 ≤ (timeout - a) ⌈/⌉ d := by
  obtain ⟨n, rfl⟩ : ∃ n, timeout = a + (n + 1) := ⟨timeout - a - 1, by omega⟩
  have hnow : (a + (n + 1) - a) ⌈/⌉ d = n / d + 1 := by
    rw [Nat.ceilDiv_eq_add_pred_div, ← Nat.add_div_right n hd]
    congr 1
    omega
  have hthen : (a + (n + 1) - (a + d)) ⌈/⌉ d ≤ n / d := by
    rw [ceilDiv_le_iff_le_mul hd]
    have hlt := Nat.lt_mul_div_succ n hd
    rw [Nat.mul_succ] at hlt
    omega
  omega

/-- The waiting for an export, from when the tracker is of the age `a₀`. -/
structure Expires (others : Surroundings σ) (c : Coordinator) (t : Tracker) (a₀ : Nat)
    (xs : List (Performed σ)) : Prop where
  /-- Before the end every invocation waits, -/
  waits : ∀ x ∈ xs.dropLast,
    Waits c x.job x.after.exchanges x.result x.before.database x.after.database
  /-- and they are no more than the delays that fit into the time that is left. -/
  count : xs.dropLast.length ≤
    (c.settings.emptyExportTimeout.nanos - a₀) ⌈/⌉ c.settings.reEnqueueDelay.nanos
  /-- The last one gives up, and then it is over. -/
  gaveUp : ∃ x, xs.getLast? = some x ∧
    GivesUp t x.job x.after.exchanges x.result x.before.database x.after.database ∧
    Over others c x.job x.after.database

namespace Expires

variable {a₀ : Nat} {x : Performed σ} {xs : List (Performed σ)}

/-- An invocation that gives up ends the waiting. -/
theorem last (h : GivesUp t x.job x.after.exchanges x.result x.before.database x.after.database) :
    Expires others c t a₀ [x] where
  waits := List.forall_mem_nil _
  count := Nat.zero_le _
  gaveUp := ⟨x, rfl, h, h.over⟩

/-- An invocation that waits makes the tracker older by the delay. -/
theorem cons (hd : 0 < c.settings.reEnqueueDelay.nanos)
    (ha : a₀ < c.settings.emptyExportTimeout.nanos)
    (h : Waits c x.job x.after.exchanges x.result x.before.database x.after.database)
    (hrest : Expires others c t (a₀ + c.settings.reEnqueueDelay.nanos) xs) :
    Expires others c t a₀ (x :: xs) := by
  obtain ⟨y, hlast, hgave⟩ := hrest.gaveUp
  have hne : xs ≠ [] := by
    rintro rfl
    cases hlast
  refine ⟨?_, ?_, y, ?_, hgave⟩
  · rw [List.dropLast_cons_of_ne_nil hne]
    exact List.forall_mem_cons.mpr ⟨h, hrest.waits⟩
  · rw [List.dropLast_cons_of_ne_nil hne, List.length_cons]
    exact (Nat.succ_le_succ hrest.count).trans (ceilDiv_wait hd ha)
  · rwa [List.getLast?_cons_of_ne_nil hne]

end Expires

/-- A job that is performed for a waiting tracker of the age `a₀` at least waits, if that is less
than the timeout, or gives up. -/
theorem performed_waits_or_expires {a₀ : Nat} (hw : Awaits c job t e sc.database)
    (hcalm : ∀ y ∈ (performed others c job sc).after.exchanges, y.isCalm = true)
    (hage : ∀ now ∈ (performed others c job sc).readings,
      (a₀ : Int) ≤ now.nanosFrom (t.createdAt.getD e.createdAt)) :
    let x := performed others c job sc
    (a₀ < c.settings.emptyExportTimeout.nanos ∧ (∃ now, now ∈ x.readings) ∧
        Waits c job x.after.exchanges x.result sc.database x.after.database) ∨
      GivesUp t job x.after.exchanges x.result sc.database x.after.database := by
  intro x
  obtain ⟨version, hl⟩ := loads_of_entity hw.imports hw.tracker hw.entity
  have hp := plays_perform hl hw.keyed hw.tracker hw.entity (plays_performed others c job sc)
  obtain ⟨now, hnow, ⟨hyoung, hwaits⟩ | ⟨-, hgives⟩⟩ := hp.waits_or_expires hw hcalm
  · refine .inl ⟨?_, ⟨now, hnow⟩, hwaits⟩
    have h := hage now hnow
    have hyoung : ¬c.settings.emptyExportTimeout.nanos ≤
        (now.nanosFrom (t.createdAt.getD e.createdAt)).toNat := hyoung
    omega
  · exact .inr hgives

/-- **The waiting for an export that stays empty is bounded.**  A job is performed, and every job
that is put back is performed again, after the delay at the earliest; nothing is in the way, and
the export is always empty.  Then no more invocations wait than delays fit into the time that is
left, and the next one gives up. -/
theorem reperform_expires (others : Surroundings σ) (c : Coordinator) (job : PipelineJob)
    (sc : Scene σ) (later : List (Scene σ)) {t : Tracker} {e : Entity} {a₀ : Nat}
    (hw : Awaits c job t e sc.database) (hd : 0 < c.settings.reEnqueueDelay.nanos)
    (hage : ∀ now ∈ (performed others c job sc).readings,
      (a₀ : Int) ≤ now.nanosFrom (t.createdAt.getD e.createdAt))
    (hcalm : ∀ x ∈ reperform others c job (sc :: later), ∀ y ∈ x.after.exchanges, y.isCalm = true)
    (hfollow : (reperform others c job (sc :: later)).IsChain (Follows c.settings.reEnqueueDelay))
    (henough : (c.settings.emptyExportTimeout.nanos - a₀) ⌈/⌉ c.settings.reEnqueueDelay.nanos ≤
      later.length) :
    Expires others c t a₀ (reperform others c job (sc :: later)) := by
  -- at every occasion the tracker is older than at the last one, by the delay at least
  induction later generalizing job sc a₀ with
  | nil =>
      obtain ⟨hx, -⟩ := List.forall_mem_cons.mp hcalm
      obtain ⟨hyoung, -⟩ | hgives := performed_waits_or_expires hw hx hage
      · -- with time left there would be an occasion left
        have h := (ceilDiv_le_iff_le_mul hd).mp henough
        rw [List.length_nil, Nat.mul_zero] at h
        omega
      · rw [reperform_of_nil hgives.2.1]
        exact .last hgives
  | cons sc' later ih =>
      obtain ⟨hx, -⟩ := List.forall_mem_cons.mp hcalm
      obtain ⟨hyoung, ⟨now, hnow⟩, hwaits⟩ | hgives := performed_waits_or_expires hw hx hage
      · obtain ⟨hr, hsame, jid, hback⟩ := hwaits
        rw [reperform_of_accepted hback] at hcalm hfollow ⊢
        obtain ⟨-, hcalm⟩ := List.forall_mem_cons.mp hcalm
        obtain ⟨hnext, hfollow⟩ := List.isChain_cons_cons.mp hfollow
        refine .cons hd hyoung ⟨hr, hsame, jid, hback⟩ (ih (job.reEnqueued jid) sc'
          (hw.follow hsame hnext jid) (fun now' hnow' => ?_) hcalm hfollow ?_)
        · have hlater := hnext.later now' hnow' now hnow
          have hbefore := hage now hnow
          unfold Timestamp.nanosFrom at *
          push_cast
          omega
        · have h := (ceilDiv_wait hd hyoung).trans henough
          rw [List.length_cons] at h
          exact Nat.le_of_succ_le_succ h
      · rw [reperform_of_nil hgives.2.1]
        exact .last hgives

/-- Others at rest, whose clock stands at the time that they begin with. -/
def resting : Surroundings Timestamp := fun c now =>
  match c with
  | .session .now => (now, now)
  | c => ((steady now "jid" granted c ()).1, now)

/-- A timeout of 25 and a delay of 10: at the age of 30 the tracker fails. -/
theorem reperform_expires_at_thirty :
    let c : Coordinator :=
      { settings := { reEnqueueDelay := ⟨10⟩, emptyExportTimeout := ⟨25⟩ }
        registry := ⟨[⟨"issues", "issues", true⟩]⟩ }
    let e : Entity := { (default : Entity) with id := 1 }
    let t : Tracker :=
      { (default : Tracker) with id := 1, pipelineName := "issues", status := "enqueued" }
    let job : PipelineJob := .first 1 1 "jid" "corr"
    let occasion (age : Nat) : Scene Timestamp := ⟨.single e t, ⟨0, age⟩, []⟩
    let xs := reperform resting c job (occasion 0 :: [occasion 10, occasion 20, occasion 30])
    xs.map (·.result) = [.ok (.reEnqueued ⟨10⟩), .ok (.reEnqueued ⟨10⟩), .ok (.reEnqueued ⟨10⟩),
      .ok (.failed "PipelineExpiredError")] ∧ Expires resting c t 0 xs := by
  intro c e t job occasion xs
  have hw : Awaits c job t e (occasion 0).database :=
    { keyed := Database.keyed_single e t
      imports := rfl
      failures := rfl
      tracker := Database.tracker?_single e t
      runnable := rfl
      entity := Database.entity?_single e t
      live := rfl
      pipeline := ⟨⟨"issues", "issues", true⟩, rfl, rfl⟩ }
  have hfollows (now next : Nat)
      (h : (performed resting c job (occasion now)).after.database = (occasion now).database)
      (hlater : ∀ n ∈ (performed resting c job (occasion next)).readings,
        ∀ m ∈ (performed resting c job (occasion now)).readings, (10 : Int) ≤ n.nanosFrom m) :
      Follows ⟨10⟩ (performed resting c job (occasion now))
        (performed resting c job (occasion next)) := by
    refine ⟨hlater, fun _ => Database.keyed_single e t, fun name => ?_, ?_, ?_⟩ <;> rw [h] <;> rfl
  refine ⟨by decide +kernel, reperform_expires resting c job (occasion 0)
    [occasion 10, occasion 20, occasion 30] hw (by decide) (by decide +kernel)
    (by decide +kernel) ?_ (by decide)⟩
  have hback : ∀ age < 25,
      accepted (performed resting c job (occasion age)).after.exchanges = [job] := by
    decide +kernel
  rw [reperform_of_accepted (hback 0 (by decide)), reperform_of_accepted (hback 10 (by decide)),
    reperform_of_accepted (hback 20 (by decide)), reperform_of_nil (by decide +kernel)]
  exact .cons_cons (hfollows 0 10 rfl (by decide +kernel)) (.cons_cons
    (hfollows 10 20 rfl (by decide +kernel)) (.cons_cons (hfollows 20 30 rfl (by decide +kernel))
      (.singleton _)))

end

end Coordinator

end ImportTracking
