import ImportTracking.Proofs.Deliveries
import ImportTracking.Proofs.Scheduling

/-!
# Retries — how the retries of a job run out

The jobs of a queue are handled one after another, in an outage, and a job that is accepted
meanwhile goes to the end of the queue (`serve`).  When every invocation ends in a fault, the queue
holds one job at a time: the same, tried once more, until its attempts reach the limit and the last
fault ends its tracker.

How often the job is tried has nothing to do with its rows.  What becomes of them is said where no
statement is refused: a statement that is refused while a failure is recorded leaves a tracker that
has ended, and a later invocation may end in a fault before it sees that.

* `serve_runsOut`: the run of a job and its retries, from the first attempt to the last.
* `deliver_fault`: what the handling of a job whose invocation ends in a fault does to its rows.
* `serve_failsLast`: before the last attempt nothing is recorded, and then the fault is.
-/

namespace ImportTracking.Coordinator

open Work Tracker

variable {σ : Type}

/-! ### Handling a queue -/

/-- The handling of one job: the scene before, with the number of the first statement, what became
of the job, and the scene after, with the requests made in between. -/
structure Handled (σ : Type) where
  job : PipelineJob
  before : Scene σ
  first : Nat
  delivery : Delivery
  after : Scene σ

/-- The fault of the invocation, if it ended in one. -/
def Handled.fault? (o : Outage) (others : Surroundings σ) (c : Coordinator) (h : Handled σ) :
    Option Fault :=
  match ((c.perform h.job).run.run (Scene.answerIn o others) (h.before, h.first)).1 with
  | .ok _ => none
  | .error f => some f

theorem Handled.error_of_fault {o : Outage} {others : Surroundings σ} {c : Coordinator}
    {h : Handled σ} {f : Fault} (hf : f ∈ h.fault? o others c) :
    ((c.perform h.job).run.run (Scene.answerIn o others) (h.before, h.first)).1 = .error f := by
  unfold fault? at hf
  split at hf
  · cases hf
  · rename_i g hg
    cases hf
    exact hg

/-- Handles at most `limit` jobs of a queue; those that are accepted meanwhile go to its end.  The
statements are counted from `n` on. -/
def serve (o : Outage) (others : Surroundings σ) (c : Coordinator) :
    (limit : Nat) → List PipelineJob → Scene σ → (n : Nat) → List (Handled σ)
  | 0, _, _, _ => []
  | _ + 1, [], _, _ => []
  | limit + 1, job :: queue, sc, n =>
    let start : Scene σ := { sc with exchanges := [] }
    let r := (c.deliver job).run (Scene.answerIn o others) (start, n)
    ⟨job, start, n, r.1, r.2.1⟩ ::
      serve o others c limit (queue ++ accepted r.2.1.exchanges) r.2.1 r.2.2

@[simp] theorem serve_nil (o : Outage) (others : Surroundings σ) (c : Coordinator) (limit : Nat)
    (sc : Scene σ) (n : Nat) : serve o others c limit [] sc n = [] := by
  cases limit <;> rfl

/-! ### Attempts -/

variable {o : Outage} {others : Surroundings σ} {c : Coordinator} {t : Tracker} {job : PipelineJob}

/-- The handling of a job and of its retries, when every invocation ends in a fault. -/
structure RunsOut (c : Coordinator) (job : PipelineJob) (hs : List (Handled σ)) : Prop where
  /-- There is one invocation, and one more for every retry that is left. -/
  count : hs.length = c.settings.maxRetries - job.attempt + 1
  /-- A retry is the same job, but for the number of the attempt. -/
  jobs : hs.map (·.job) = (List.range (c.settings.maxRetries - job.attempt + 1)).map fun i =>
    { job with attempt := job.attempt + i }
  /-- The job is tried again until the retries are used up. -/
  deliveries : hs.map (·.delivery) =
    ((List.range (c.settings.maxRetries - job.attempt)).map fun i =>
      Delivery.retrying (job.attempt + i + 1) (Delivery.retryBackoff (job.attempt + i))) ++
      [.exhausted]

namespace RunsOut

variable {h : Handled σ} {hs : List (Handled σ)}

/-- A job whose retries are used up runs out at once. -/
theorem last (hjob : h.job = job) (hmax : c.settings.maxRetries ≤ job.attempt)
    (hd : h.delivery = .exhausted) : RunsOut c job [h] := by
  have hzero : c.settings.maxRetries - job.attempt = 0 := Nat.sub_eq_zero_of_le hmax
  refine ⟨?_, ?_, ?_⟩
  · rw [hzero, List.length_singleton]
  · rw [hzero, List.map_singleton, hjob]
    rfl
  · rw [hzero, List.map_singleton, hd]
    rfl

/-- A job that is tried again runs out when the retry does. -/
theorem cons (hjob : h.job = job) (hmax : ¬c.settings.maxRetries ≤ job.attempt)
    (hd : h.delivery = .retrying job.retried.attempt (Delivery.retryBackoff job.attempt))
    (hrest : RunsOut c job.retried hs) : RunsOut c job (h :: hs) := by
  obtain ⟨n, hn, hn'⟩ : ∃ n, c.settings.maxRetries - job.attempt = n + 1 ∧
      c.settings.maxRetries - job.retried.attempt = n :=
    ⟨c.settings.maxRetries - (job.attempt + 1), by omega, rfl⟩
  have hattempt (i : Nat) : job.retried.attempt + i = job.attempt + (i + 1) :=
    Nat.add_right_comm job.attempt 1 i
  refine ⟨?_, ?_, ?_⟩
  · rw [List.length_cons, hrest.count, hn, hn']
  · rw [List.map_cons, hrest.jobs, hn, hn', List.range_succ_eq_map (n := n + 1),
      List.map_cons, List.map_map, hjob]
    refine congrArg (job :: ·) (List.map_congr_left fun i _ => ?_)
    rw [hattempt]
    rfl
  · rw [List.map_cons, hrest.deliveries, hn, hn', List.range_succ_eq_map, List.map_cons,
      List.map_map, hd, List.cons_append]
    refine congrArg (_ :: · ++ [Delivery.exhausted]) (List.map_congr_left fun i _ => ?_)
    rw [hattempt]
    rfl

end RunsOut

/-- A job that is tried again has fewer retries left. -/
theorem retries_lt {limit : Nat} (hmax : ¬c.settings.maxRetries ≤ job.attempt)
    (hlimit : c.settings.maxRetries - job.attempt < limit + 1) :
    c.settings.maxRetries - job.retried.attempt < limit := by
  show c.settings.maxRetries - (job.attempt + 1) < limit
  omega

/-- **How often a job is tried**, in any outage, when every invocation ends in a fault that is not
that a row is gone, and the retries are accepted. -/
theorem serve_runsOut (o : Outage) (others : Surroundings σ) (c : Coordinator) (job : PipelineJob)
    (sc : Scene σ) (n : Nat) {limit : Nat} (hlimit : c.settings.maxRetries - job.attempt < limit)
    (hfault : ∀ h ∈ serve o others c limit [job] sc n,
      ∃ f ∈ h.fault? o others c, f.isNotFound = false)
    (haccept : ∀ h ∈ serve o others c limit [job] sc n,
      h.job.retried ∉ refused h.after.exchanges) :
    RunsOut c job (serve o others c limit [job] sc n) := by
  -- the retries that are left bound the run
  induction limit generalizing job sc n with
  | zero => cases hlimit
  | succ limit ih =>
      rw [serve] at hfault haccept ⊢
      obtain ⟨⟨f, hf, hrow⟩, hfaults⟩ := List.forall_mem_cons.mp hfault
      obtain ⟨hacc, haccepts⟩ := List.forall_mem_cons.mp haccept
      obtain ⟨hmax, hd, hone⟩ | ⟨hmax, hd, hnone⟩ :=
        deliver_schedules o others rfl (Handled.error_of_fault hf) hrow hacc
      · rw [hone, List.nil_append] at hfaults haccepts ⊢
        refine .cons rfl hmax hd (ih _ _ _ (retries_lt hmax hlimit) hfaults haccepts)
      · rw [hnone, List.append_nil, serve_nil]
        exact .last rfl hmax hd

/-! ### One fault -/

/-- A tracker that was ended has failed on behalf of the job, with one failure more that reports
the fault. -/
def Fails (job : PipelineJob) (f : Fault) (db db' : Database) : Prop :=
  ∃ t row, db'.tracker? job.trackerId = some t ∧ t.known? = some .failed ∧ t.jid = some job.jid ∧
    row.exceptionClass = f.report.errorClass ∧ row.exceptionMessage = f.report.message ∧
    row.entityId = job.entityId ∧ row.correlationId = job.correlationId ∧
    db'.failureRows.Perm (row :: db.failureRows)

/-- The tables that a fault is recorded by. -/
def Recordable (db : Database) : Prop :=
  db.hasTable .imports = true ∧ db.hasTable .entities = true ∧ db.hasTable .failures = true

theorem Recordable.of_stands {db db' : Database} (h : Database.Stands db db') (hr : Recordable db) :
    Recordable db' :=
  ⟨(h.hasTable _).trans hr.1, (h.hasTable _).trans hr.2.1, (h.hasTable _).trans hr.2.2⟩

/-- Ending a job's tracker fails it where the entity is there and the fault can be recorded. -/
theorem fails_of_exhaust {κ : Clock} {f : Fault} {db db' : Database} {log : List Exchange}
    {d : Delivery} (hk : db.Keyed) (ht : db.tracker? job.trackerId = some t)
    (hs : ∃ s, t.known? = some s) (h : Plays κ (exhaust job f) db log d db')
    (hrec : Recordable db) (he : ∃ e, db.entity? job.entityId = some e) : Fails job f db db' := by
  obtain ⟨e, he⟩ := he
  obtain ⟨version, hl⟩ := loads_of_entity hrec.1 ht he
  obtain ⟨-, now, now', -, rfl⟩ := plays_exhaust hl hk ht he hs h
  exact ⟨_, FailureLog.row db t e f.report job now', Database.tracker?_putTracker_moved ht,
    known?_moved .., rfl, rfl, rfl, Database.id_of_entity? he, rfl,
    Database.perm_failureRows_addFailure hrec.2.2 _⟩

/-- An invocation whose fault is not that a row is gone found its entity. -/
theorem exists_entity {κ : Clock} {f : Fault} {db db' : Database} {log : List Exchange}
    (hrec : Recordable db) (ht : db.tracker? job.trackerId = some t)
    (h : Plays κ (c.perform job).run db log (.error f) db') (hf : f.isNotFound = false) :
    ∃ e, db.entity? job.entityId = some e := by
  obtain ⟨e, -, he, -⟩ | ⟨g, hl, hg⟩ := loads ht
  · exact ⟨e, he⟩
  · obtain ⟨-, hfg, -⟩ := hl.bind_error h
    cases hfg
    rw [(hg hrec.1).2 hrec.2.1] at hf
    cases hf

/-- **What the handling of a job whose invocation ends in a fault does to its rows**, if the fault
is not that a row is gone: with retries left the tracker is as it was, or may be run, and otherwise
it is ended. -/
theorem deliver_fault (sc : Scene σ) (hk : sc.database.Keyed)
    (ht : sc.database.tracker? job.trackerId = some t) (hs : ∃ s, t.known? = some s) {f : Fault}
    (hf : ((c.perform job).run.run (Scene.answer others) sc).1 = .error f)
    (hrow : f.isNotFound = false)
    (hacc : job.retried ∉ refused ((c.deliver job).run (Scene.answer others) sc).2.exchanges) :
    let r := (c.deliver job).run (Scene.answer others) sc
    Database.Stands sc.database r.2.database ∧
      (¬c.settings.maxRetries ≤ job.attempt →
        Undecided t job.jid sc.database r.2.database) ∧
      (c.settings.maxRetries ≤ job.attempt → Recordable sc.database →
        Fails job f sc.database r.2.database) := by
  have hfree (s : σ) : Clock.free (others (.session .now) s).1 := trivial
  obtain ⟨l₁, -, hperform⟩ := plays_run others hfree (c.perform job).run sc
  rw [hf] at hperform
  generalize hmid : ((c.perform job).run.run (Scene.answer others) sc).2 = mid at hperform
  have hrun : (c.deliver job).run (Scene.answer others) sc =
      (c.afterFault job f).run (Scene.answer others) mid := by
    rw [← hmid]
    show ((c.perform job).run.bind _).run _ _ = _
    rw [Program.run_bind, hf]
  obtain ⟨l₂, hl₂, hafter⟩ := plays_run others hfree (c.afterFault job f) mid
  intro r
  simp only [r, hrun] at hacc ⊢
  generalize (c.afterFault job f).run (Scene.answer others) mid = after at *
  obtain ⟨-, hun⟩ := plays_perform_error hk ht hperform
  have hid := Database.id_of_tracker? ht
  have hstands := hperform.stands
  refine ⟨hstands.trans hafter.stands, ?_⟩
  obtain ⟨hgone, -⟩ | ⟨hmax, -, -, hdb⟩ | ⟨l₃, l₄, hspent, rfl, hexhaust⟩ :=
    plays_afterFault hafter
  · rw [hrow] at hgone
    cases hgone
  · rw [hdb]
    exact ⟨fun _ => hun, fun h => absurd h hmax⟩
  · cases hspent with
    | refused h cause =>
        -- the retry was refused, against what is given
        refine absurd ?_ hacc
        rw [hl₂]
        simp [refused, Exchange.refused?]
    | used hmax =>
        refine ⟨fun h => absurd hmax h, fun _ hrec => ?_⟩
        obtain ⟨t', ht', hs'⟩ := hun.kept.known? hs
        rw [hid] at ht'
        obtain ⟨e, he⟩ := exists_entity hrec ht hperform hrow
        have hrows : mid.database.failureRows = sc.database.failureRows := by
          rw [Database.failureRows, hun.failures, Database.failureRows]
        have hfails := fails_of_exhaust (hstands.keyed hk) ht' hs' hexhaust
          (hrec.of_stands hstands) ⟨e, (hstands.entity _).trans he⟩
        rwa [Fails, hrows] at hfails

/-! ### Rows -/

/-- What the handling of a job and of its retries does to their rows. -/
structure FailsLast (o : Outage) (others : Surroundings σ) (c : Coordinator) (job : PipelineJob)
    (t : Tracker) (db : Database) (hs : List (Handled σ)) : Prop where
  /-- Before the end nothing is recorded, -/
  failures : ∀ h ∈ hs.dropLast, h.after.database.failures = db.failures
  /-- and the tracker does not end. -/
  tracker : db.hasTable .failures = true → ∀ h ∈ hs.dropLast,
    ∃ t', h.after.database.tracker? job.trackerId = some t' ∧ (t' = t ∨ t'.isRunnable = true)
  /-- At the end the tracker fails, and the last fault is recorded. -/
  failed : Recordable db → ∃ h f, hs.getLast? = some h ∧ h.fault? o others c = some f ∧
    Fails job f db h.after.database

namespace FailsLast

variable {db : Database} {h : Handled σ} {hs : List (Handled σ)}

/-- The last attempt ends the tracker. -/
theorem last {f : Fault} (hf : h.fault? o others c = some f)
    (hfails : Recordable db → Fails job f db h.after.database) :
    FailsLast o others c job t db [h] :=
  ⟨List.forall_mem_nil _, fun _ => List.forall_mem_nil _, fun hrec => ⟨h, f, rfl, hf, hfails hrec⟩⟩

/-- An attempt before it spares the rows, and those that follow spare what it left. -/
theorem cons {t' : Tracker} (hne : hs ≠ [])
    (ht' : h.after.database.tracker? job.trackerId = some t')
    (hstands : Database.Stands db h.after.database)
    (hfailures : h.after.database.failures = db.failures)
    (hrun : db.hasTable .failures = true → t' = t ∨ t'.isRunnable = true)
    (hrest : FailsLast o others c job.retried t' h.after.database hs) :
    FailsLast o others c job t db (h :: hs) := by
  have hdrop : (h :: hs).dropLast = h :: hs.dropLast := List.dropLast_cons_of_ne_nil hne
  refine ⟨?_, fun htab => ?_, fun hrec => ?_⟩
  · rw [hdrop]
    exact List.forall_mem_cons.mpr
      ⟨hfailures, fun h' hh' => (hrest.failures h' hh').trans hfailures⟩
  · rw [hdrop]
    refine List.forall_mem_cons.mpr ⟨⟨t', ht', hrun htab⟩, fun h' hh' => ?_⟩
    obtain ⟨t'', ht'', hrun'⟩ := hrest.tracker ((hstands.hasTable _).trans htab) h' hh'
    refine ⟨t'', ht'', ?_⟩
    -- a row that did not change since is as it was then
    obtain rfl | hrun' := hrun'
    · exact hrun htab
    · exact .inr hrun'
  · obtain ⟨h', f, hlast, hf, hfails⟩ := hrest.failed (hrec.of_stands hstands)
    refine ⟨h', f, ?_, hf, ?_⟩
    · rwa [List.getLast?_cons_of_ne_nil hne]
    · have hrows : h.after.database.failureRows = db.failureRows := by
        rw [Database.failureRows, hfailures, Database.failureRows]
      rwa [Fails, hrows] at hfails

end FailsLast

/-- **What becomes of the rows**, where no statement is refused: the tracker is ended by the last
attempt, and by no other. -/
theorem serve_failsLast (hc : o.Calm) (others : Surroundings σ) (c : Coordinator)
    (job : PipelineJob) (sc : Scene σ) (n : Nat) {t : Tracker} (hk : sc.database.Keyed)
    (ht : sc.database.tracker? job.trackerId = some t) (hs : ∃ s, t.known? = some s)
    {limit : Nat} (hlimit : c.settings.maxRetries - job.attempt < limit)
    (hfault : ∀ h ∈ serve o others c limit [job] sc n,
      ∃ f ∈ h.fault? o others c, f.isNotFound = false)
    (haccept : ∀ h ∈ serve o others c limit [job] sc n,
      h.job.retried ∉ refused h.after.exchanges) :
    FailsLast o others c job t sc.database (serve o others c limit [job] sc n) := by
  induction limit generalizing job sc n t with
  | zero => cases hlimit
  | succ limit ih =>
      rw [serve] at hfault haccept ⊢
      obtain ⟨⟨f, hf, hrow⟩, hfaults⟩ := List.forall_mem_cons.mp hfault
      obtain ⟨hacc, haccepts⟩ := List.forall_mem_cons.mp haccept
      have hschedules := deliver_schedules o others rfl (Handled.error_of_fault hf) hrow hacc
      -- the database answers as it does by itself
      obtain ⟨m, hm⟩ := run_answerIn_calm hc others (c.deliver job) { sc with exchanges := [] } n
      obtain ⟨m', hm'⟩ :=
        run_answerIn_calm hc others (c.perform job).run { sc with exchanges := [] } n
      have hf' := Handled.error_of_fault hf
      rw [hm'] at hf'
      simp only [hm] at hfaults haccepts hacc hschedules ⊢
      obtain ⟨hstands, hleft, hfails⟩ :=
        deliver_fault { sc with exchanges := [] } hk ht hs hf' hrow hacc
      obtain ⟨hmax, -, hone⟩ | ⟨hmax, -, hnone⟩ := hschedules
      · have hun := hleft hmax
        obtain ⟨t', ht', hs'⟩ := hun.kept.known? hs
        rw [Database.id_of_tracker? ht] at ht'
        rw [hone, List.nil_append] at hfaults haccepts ⊢
        have hlimit' := retries_lt hmax hlimit
        refine .cons (fun hnil => ?_) ht' hstands hun.failures (fun htab => ?_)
          (ih _ _ _ (hstands.keyed hk) ht' hs' hlimit' hfaults haccepts)
        · have hcount := (serve_runsOut o others c job.retried _ _ hlimit' hfaults haccepts).count
          rw [hnil] at hcount
          cases hcount
        · obtain ⟨t'', ht'', hrun⟩ := hun.runnable htab
          rw [Database.id_of_tracker? ht] at ht''
          obtain rfl := Option.some.inj (ht'.symm.trans ht'')
          exact hrun
      · rw [hnone, List.append_nil, serve_nil]
        exact .last hf (hfails hmax)

/-- **Retries run out**: a job whose every invocation ends in a fault, and whose retries are all
accepted, is handled once and once more for every retry that is left, in any outage.  That no row is
gone is all that is asked of the faults.  Where no statement is refused, nothing is recorded before
the last attempt, and then the tracker is ended. -/
theorem serve_faults (o : Outage) (others : Surroundings σ) (c : Coordinator) (job : PipelineJob)
    (sc : Scene σ) (n : Nat) {t : Tracker} (hk : sc.database.Keyed)
    (ht : sc.database.tracker? job.trackerId = some t) (hs : ∃ s, t.known? = some s)
    {limit : Nat} (hlimit : c.settings.maxRetries - job.attempt < limit)
    (hfault : ∀ h ∈ serve o others c limit [job] sc n,
      ∃ f ∈ h.fault? o others c, f.isNotFound = false)
    (haccept : ∀ h ∈ serve o others c limit [job] sc n,
      h.job.retried ∉ refused h.after.exchanges) :
    RunsOut c job (serve o others c limit [job] sc n) ∧
      (o.Calm → FailsLast o others c job t sc.database (serve o others c limit [job] sc n)) :=
  ⟨serve_runsOut o others c job sc n hlimit hfault haccept,
    fun hc => serve_failsLast hc others c job sc n hk ht hs hlimit hfault haccept⟩

/-- A pipeline crashes every time, and its job is at the second of four attempts. -/
theorem serve_faults_crashing :
    let c : Coordinator := { registry := ⟨[⟨"issues", "issues", false⟩]⟩ }
    let e : Entity := { (default : Entity) with id := 1 }
    let t : Tracker :=
      { (default : Tracker) with id := 1, pipelineName := "issues", status := "enqueued" }
    let job : PipelineJob := { PipelineJob.first 1 1 "jid" "corr" with attempt := 1 }
    let reply : (r : Request) → r.Reply
      | .runPipeline _ _ => .error default
      | r => granted r
    let o : Outage := fun _ => none
    let others := steady .epoch "" reply
    let sc : Scene Unit := ⟨.single e t, (), []⟩
    let hs := serve o others c 5 [job] sc 0
    hs.map (·.delivery) = [.retrying 2 (.ofSecs 16), .retrying 3 (.ofSecs 31), .exhausted] ∧
      RunsOut c job hs ∧ FailsLast o others c job t sc.database hs := by
  intro c e t job reply o others sc hs
  have hlimit : c.settings.maxRetries - job.attempt < 5 := by decide
  have h := serve_faults o others c job sc 0 (Database.keyed_single _ _)
    (Database.tracker?_single _ _) ⟨.enqueued, rfl⟩ hlimit (by decide +kernel) (by decide +kernel)
  exact ⟨by decide +kernel, h.1, h.2 fun _ => rfl⟩

/-- Others whose pipelines give up and whose destinations come under load at the second look; the
scheduler takes the jobs of one id only. -/
def laden : Surroundings Bool
  | .session c, s => ((steady .epoch "new" granted (.session c) ()).1, s)
  | .request (.isUnderLoad _ _), s => (.ok s, true)
  | .request (.runPipeline _ _), s => (.ok (.fatal "Boom" "broken"), s)
  | .request (.schedulePipeline job _), s =>
    (if job.jid == "jid" then .ok () else .error default, s)
  | .request r, s => (granted r, s)

/-- On a last attempt the tracker is ended, and that is all: where there is no table of failures,
none is recorded.  And a tracker may have ended before: when the failure of a pipeline that gives up
cannot be inserted, the tracker has failed already, and a later invocation that is put off and
refused by the scheduler ends in a fault all the same. -/
theorem serve_faults_unrecorded :
    let c : Coordinator := { registry := ⟨[⟨"issues", "issues", false⟩]⟩ }
    let e : Entity := { (default : Entity) with id := 1 }
    let t : Tracker :=
      { (default : Tracker) with id := 1, pipelineName := "issues", status := "enqueued" }
    let job (attempt : Nat) : PipelineJob :=
      { PipelineJob.first 1 1 "jid" "corr" with attempt := attempt }
    let reply : (r : Request) → r.Reply
      | .runPipeline _ _ => .error default
      | r => granted r
    let calm : Outage := fun _ => none
    let others := steady .epoch "" reply
    let bare : Database := { Database.single e t with failures := none }
    let hs := serve calm others c 5 [job 3] ⟨bare, (), []⟩ 0
    -- the insertion is the statement of number 9
    let lost : Outage := fun n => if n = 9 then some (.connection "lost") else none
    let hs' := serve lost laden c 5 [job 2] ⟨.single e t, false, []⟩ 0
    t.known? = some .enqueued ∧
      (hs.map (·.delivery) = [.exhausted] ∧
        ∀ h ∈ hs, (∃ f ∈ h.fault? calm others c, f.isNotFound = false) ∧
          h.job.retried ∉ refused h.after.exchanges ∧ h.after.database.failureRows = []) ∧
      hs'.map (·.delivery) = [.retrying 3 (.ofSecs 31), .exhausted] ∧
        ∀ h ∈ hs', (∃ f ∈ h.fault? lost laden c, f.isNotFound = false) ∧
          h.job.retried ∉ refused h.after.exchanges ∧
          (h.after.database.tracker? 1).map (·.status) = some "failed" := by
  decide +kernel

end ImportTracking.Coordinator
