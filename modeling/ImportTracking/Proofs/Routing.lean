import ImportTracking.Proofs.Performance

/-!
# Routing — where the faults of an invocation go

An invocation comes to the turn of its tracker, or it ends before.  A terminal fault that is raised
in the turn is taken down there: the tracker is failed, the error tracker told, a failure recorded,
and the invocation returns an outcome.  Any other fault is handed on to the caller, and then none of
this is done.

* `perform_eq`: an invocation is its approach to the turn, and the turn.
* `Performs.handsOn`: what a fault is that is handed on, and what is left then.
* `run_settle`: a terminal fault of the turn is taken down.
* `perform_routes`: so every fault of every invocation goes one way or the other.
-/

namespace ImportTracking

open Work Tracker

/-! ### What the error tracker is told -/

namespace Work

/-- What the error tracker was told, if it was called. -/
def Exchange.tracked? : Exchange → Option FaultReport
  | ⟨.track report _, _⟩ => some report
  | _ => none

/-- What the error tracker was told, in order. -/
def tracked (log : List Exchange) : List FaultReport := log.filterMap Exchange.tracked?

@[simp] theorem tracked_append (l₁ l₂ : List Exchange) :
    tracked (l₁ ++ l₂) = tracked l₁ ++ tracked l₂ :=
  List.filterMap_append

theorem tracked_cons_of_none {x : Exchange} (h : x.tracked? = none) (l : List Exchange) :
    tracked (x :: l) = tracked l :=
  List.filterMap_cons_none h

end Work

/-- A fan-out tells the error tracker nothing. -/
theorem Batch.FansOut.untracked {trackerId : Int} {count number : Nat} {db db' : Database}
    {log : List Exchange} {r : Except Fault (List Batch)}
    (h : FansOut trackerId count number db log r db') : tracked log = [] := by
  induction h with
  | nil | refused | unreadable => rfl
  | cons _ _ ih => exact ih

namespace Coordinator

open Invocation (Outcome)

variable {κ : Clock} {c : Coordinator} {p : Option Pipeline} {t : Tracker} {e : Entity}
  {a : Attributes} {job : PipelineJob} {db db' : Database} {log : List Exchange} {f : Fault}

theorem Admits.untracked (h : Admits c t e log) : tracked log = [] := by
  cases h with
  | unasked | asked => rfl

theorem Polls.untracked {o : Option Export.Snapshot} (h : Polls p t e log o) :
    tracked log = [] := by
  cases h with
  | nothing | read => rfl

theorem Acts.untracked {d : Decision} {r : Except Fault Outcome}
    (h : Acts c p t e job db d log r db') : tracked log = [] := by
  cases h with
  | fannedOut hf | fanOutStopped hf => exact hf.untracked
  | skip | fail | reEnqueue | reEnqueueRefused | finishEmpty | unknown | ran | crashed | gaveUp
  | retried | retryRefused => rfl

/-! ### Faults that are handed on -/

/-- Of an action no event is refused. -/
theorem Acts.lawful {d : Decision} (h : Acts c p t e job db d log (.error f) db')
    (status event : String) : f ≠ .invalidTransition status event := by
  cases h with
  | fanOutStopped hf => obtain ⟨_, rfl⟩ | ⟨_, rfl⟩ := hf.error rfl <;> nofun
  | fail | reEnqueueRefused | unknown | crashed | gaveUp | retryRefused => nofun

/-- An invocation that hands on the fault `f`: which faults that can be, and what is left. -/
structure HandsOn (job : PipelineJob) (f : Fault) (db : Database) (log : List Exchange)
    (db' : Database) : Prop where
  nonterminal : f.isTerminal = false
  /-- Every event was allowed from the status that the tracker had. -/
  lawful : ∀ status event, f ≠ .invalidTransition status event
  /-- No failure was recorded. -/
  unrecorded : db'.failures = db.failures
  untracked : tracked log = []
  /-- The tracker is as it was, or it may be run, and so it has not come to an end. -/
  unended : ∀ t, db.tracker? job.trackerId = some t →
    ∃ t', db'.tracker? job.trackerId = some t' ∧ (t' = t ∨ t'.isRunnable = true)

/-- **A fault that an invocation hands on** is not terminal, and ends nothing. -/
theorem Performs.handsOn (hm : db.Migrated) (ht : db.tracker? job.trackerId = some t)
    (h : Performs κ c t e job db log (.error f) db') : HandsOn job f db log db' := by
  have hnonterminal := h.error.2
  have hsame : ∀ t', db.tracker? job.trackerId = some t' →
      ∃ t'', db.tracker? job.trackerId = some t'' ∧ (t'' = t' ∨ t''.isRunnable = true) :=
    fun t' ht' => ⟨t', ht', .inl rfl⟩
  cases h with
  | deferralRefused => exact ⟨hnonterminal, nofun, rfl, rfl, hsame⟩
  | @served l log _ _ _ hadm lease reply hs =>
      have hid := Database.id_of_tracker? ht
      obtain ⟨-, hun⟩ := hs.undecided (by rwa [hid])
      have hunended : ∀ t', db.tracker? job.trackerId = some t' →
          ∃ t'', db'.tracker? job.trackerId = some t'' ∧ (t'' = t' ∨ t''.isRunnable = true) := by
        intro t' ht'
        obtain rfl := Option.some.inj (ht.symm.trans ht')
        exact hid ▸ hun.runnable (hm .failures)
      cases hs with
      | recorded _ _ _ _ hok => cases hok (hm .failures)
      | @acted _ _ l₁ l₂ _ _ _ _ hp ha _ =>
          refine ⟨hnonterminal, ha.lawful, hun.failures, ?_, hunended⟩
          rw [tracked_append, hadm.untracked, List.nil_append, tracked_cons_of_none rfl,
            tracked_append, tracked_append, hp.untracked, ha.untracked]
          rfl

/-- What a job is about is loaded, or one of its rows is gone. -/
theorem loads_or_gone (job : PipelineJob) (hm : db.Migrated) :
    (∃ e t version, db.entity? job.entityId = some e ∧ db.tracker? job.trackerId = some t ∧
      Loads job db (.ok ⟨e, t, .of e t version⟩)) ∨
      ∃ g, g.isNotFound = true ∧ Loads job db (.error g) := by
  cases he : db.entity? job.entityId with
  | none =>
      obtain ⟨g, hg, hgone⟩ := plays_findEntity_bind_of_none he
      exact .inr ⟨g, hgone (hm .entities), fun κ log r db' => hg κ _ log r db'⟩
  | some e =>
      cases ht : db.tracker? job.trackerId with
      | some t =>
          obtain ⟨version, hl⟩ := loads_of_entity (hm .imports) ht he
          exact .inl ⟨e, t, version, rfl, rfl, hl⟩
      | none =>
          obtain ⟨tab, htab⟩ := Option.isSome_iff_exists.mp (hm .trackers)
          refine .inr ⟨.notFound .tracker job.trackerId, rfl, fun κ log r db' => ?_⟩
          rw [load, plays_findEntity_bind he, Session.findTracker, bind_assoc,
            plays_query_bind_ok (Database.execute_findTracker_of_some htab _), ht]
          exact Iff.rfl

/-- **Whatever fault an invocation hands on**, it is not terminal, and ends nothing. -/
theorem plays_perform_handsOn (hm : db.Migrated) (hk : db.Keyed)
    (h : Plays κ (c.perform job).run db log (.error f) db') : HandsOn job f db log db' := by
  obtain ⟨e, t, version, he, ht, hl⟩ | ⟨g, hg, hl⟩ := loads_or_gone job hm
  · exact (plays_perform hl hk ht he h).handsOn hm ht
  · obtain ⟨rfl, hf, rfl⟩ := hl.bind_error h
    cases hf
    cases f with
    | notFound => exact ⟨rfl, nofun, rfl, rfl, fun t ht => ⟨t, ht, .inl rfl⟩⟩
    | database | invalidTransition | pipeline | unknownPipeline | scheduling | unexpected =>
        cases hg

/-! ### The turn of a tracker -/

/-- The turn of a tracker: the lease it is had under, what was loaded for it, and the tracker as it
is then. -/
structure Turn where
  lease : Lease
  subject : Subject
  tracker : Tracker

/-- Gives a lease back, and ends. -/
def giveBack {α : Type} (lease : Lease) (r : Except Fault α) : Work.Task α :=
  ExceptT.mk ((Work.request (.releaseLease lease)).bind fun _ => .done r)

theorem plays_giveBack {α : Type} {lease : Lease} {x r : Except Fault α} :
    Plays κ (giveBack lease x).run db log r db' ↔
      ∃ reply, log = [⟨.releaseLease lease, reply⟩] ∧ r = x ∧ db' = db := by
  constructor
  · rintro ⟨reply, _, rfl, rfl, hr, hdb⟩
    exact ⟨reply, rfl, hr, hdb⟩
  · rintro ⟨reply, rfl, hr, hdb⟩
    exact ⟨reply, [], rfl, rfl, hr, hdb⟩

section
variable (c job)

/-- Obtains the lease of a tracker, and comes to its turn; the outcome, if it comes to none. -/
def obtainTurn (s : Subject) : Work.Task (Outcome ⊕ Turn) := do
  match ← (Work.request (.obtainLease (c.settings.leaseKey job.trackerId)
    c.settings.leaseTimeout) : Program Work _) with
  | .ok (some lease) =>
    match ← (monadLift (Work.onDatabase (Session.findTracker job.trackerId)).run :
      Work.Task (Except Fault Tracker)) with
    | .ok t =>
      if t.isRunnable then return .inr ⟨lease, s, t⟩
      else giveBack lease (.ok (.inl (.notRunnable t.status)))
    | .error f => giveBack lease (.error f)
  | .ok none => return .inl .leaseHeld
  | .error _ => return .inl .leaseHeld

/-- An invocation up to the turn of its tracker; the outcome, if it comes to none. -/
def approach : Work.Task (Outcome ⊕ Turn) := do
  let s ← Work.onDatabase (load job)
  match ← (Health.admission c.settings c.destinations s.tracker s.entity : Program Work _) with
  | .defer delay _ =>
    Work.reEnqueue job delay
    return .inl (.deferred delay)
  | .proceed => c.obtainTurn job s

/-- The turn of a tracker, to its end. -/
def settle (turn : Turn) : Work.Task Outcome :=
  ExceptT.mk ((tryCatch (c.runTracker turn.tracker turn.subject.entity job)
    (recordIfTerminal turn.subject.entity (turn.subject.attributes.withStatus turn.tracker)
      job)).run.bind fun r => (giveBack turn.lease r).run)

end

/-- What is done under the lease of a tracker is done up to its turn, or in the turn. -/
theorem performUnderLease_eq (s : Subject) :
    c.performUnderLease job s.entity s.attributes =
      c.obtainTurn job s >>= Sum.elim pure (c.settle job) := by
  refine ExceptT.ext ?_
  rw [obtainTurn, bind_assoc, run_lift_bind]
  refine (Program.bind_assoc _ _ _).trans (congrArg _ (funext fun reply => ?_))
  rcases reply with _ | _ | lease
  case ok.some =>
    -- both look at the tracker again, and go on with it in the same way
    show ((c.performLocked job s.entity s.attributes).run.bind _).bind _ =
      (_ >>= _ : Work.Task _).run
    rw [bind_assoc, run_lift_bind, performLocked, run_task_bind, Program.bind_assoc,
      Program.bind_assoc]
    refine congrArg _ (funext fun x => ?_)
    cases x with
    | error f => rfl
    | ok t => by_cases hrun : t.isRunnable = true <;> simp only [hrun] <;> rfl
  all_goals rfl

/-- **An invocation is its approach and the turn.** -/
theorem perform_eq : c.perform job = c.approach job >>= Sum.elim pure (c.settle job) := by
  rw [perform, approach, bind_assoc]
  refine bind_congr fun s => ?_
  rw [bind_assoc]
  refine bind_congr fun v => ?_
  cases v with
  | defer delay goal =>
      simp only [bind_assoc]
      rfl
  | proceed => exact performUnderLease_eq s

/-- Where an approach comes to a turn: at a tracker that may be run, with the entity of its job. -/
structure Turn.Due (turn : Turn) (job : PipelineJob) (db : Database) : Prop where
  entity : db.entity? job.entityId = some turn.subject.entity
  tracker : db.tracker? job.trackerId = some turn.tracker
  runnable : turn.tracker.isRunnable = true

/-- The lease is obtained without a word to the error tracker, and the tracker found as it was. -/
theorem plays_obtainTurn {s : Subject} {turn : Turn} (ht : db.tracker? job.trackerId = some t)
    (h : Plays κ (c.obtainTurn job s).run db log (.ok (.inr turn)) db') :
    db' = db ∧ tracked log = [] ∧ turn.subject = s ∧ turn.tracker = t ∧ t.isRunnable = true := by
  obtain ⟨l₁, l₂, reply, db₁, rfl, hob, hfound⟩ := plays_lift_bind.mp h
  obtain ⟨rfl, rfl⟩ := plays_request.mp hob
  rcases reply with _ | _ | lease
  case ok.some =>
    obtain ⟨l₃, l₄, x, db₂, rfl, hfind, hturn⟩ := plays_lift_bind.mp hfound
    rw [← bind_pure (Session.findTracker _), plays_findTracker_bind ht] at hfind
    obtain ⟨rfl, rfl, rfl⟩ := hfind
    by_cases hrun : t.isRunnable = true
    · simp only [if_pos hrun] at hturn
      obtain ⟨rfl, hr, rfl⟩ := hturn
      cases hr
      exact ⟨rfl, rfl, rfl, rfl, hrun⟩
    · simp only [if_neg hrun] at hturn
      obtain ⟨_, -, hr, -⟩ := plays_giveBack.mp hturn
      cases hr
  all_goals
    obtain ⟨-, hr, -⟩ := hfound
    cases hr

/-- **An approach that comes to a turn** has changed nothing, and told the error tracker nothing. -/
theorem plays_approach {turn : Turn} (hm : db.Migrated)
    (h : Plays κ (c.approach job).run db log (.ok (.inr turn)) db') :
    db' = db ∧ tracked log = [] ∧ turn.Due job db := by
  obtain ⟨e, t, version, he, ht, hl⟩ | ⟨g, -, hl⟩ := loads_or_gone job hm
  · obtain ⟨l₁, l₂, v, db₁, rfl, hadm, hgo⟩ := plays_lift_bind.mp (hl.bind_ok h)
    obtain ⟨rfl, ⟨rfl, hadmits⟩ | ⟨-, goal, rfl, -⟩⟩ := plays_admission hadm
    · obtain ⟨rfl, huntold, hs, htracker, hrun⟩ := plays_obtainTurn ht hgo
      refine ⟨rfl, ?_, hs ▸ he, htracker ▸ ht, htracker ▸ hrun⟩
      rw [tracked_append, hadmits.untracked, huntold]
      rfl
    · obtain ⟨-, -, ⟨-, hr⟩ | ⟨_, -, hr⟩⟩ := plays_reEnqueue_return hgo <;> cases hr
  · obtain ⟨-, hr, -⟩ := hl.bind_error h
    cases hr

/-! ### Faults that are taken down -/

/-- An invocation that takes down the terminal fault `f` of a turn: what it returns, and what is
left. -/
structure TakesDown (job : PipelineJob) (t : Tracker) (f : Fault) (db : Database)
    (log : List Exchange) (r : Except Fault Outcome) (db' : Database) : Prop where
  outcome : r = .ok (.failed f.errorClass)
  told : tracked log = [f.report]
  /-- One failure was recorded, with the class and the wording of the fault. -/
  recorded : ∃ row : Failure, db'.failureRows.Perm (row :: db.failureRows) ∧
    row.exceptionClass = f.errorClass ∧ row.exceptionMessage = f.message ∧
    row.entityId = job.entityId ∧ row.pipelineClass = t.pipelineName ∧
    row.correlationId = job.correlationId
  ended : ∃ t', db'.tracker? job.trackerId = some t' ∧ t'.known? = some .failed

/-- A fault is taken down also with more requests around, none of which tells the error tracker. -/
theorem TakesDown.widen {l l' : List Exchange} {r : Except Fault Outcome}
    (h : TakesDown job t f db l r db') (hl : tracked l' = tracked l) :
    TakesDown job t f db l' r db' :=
  ⟨h.outcome, hl.trans h.told, h.recorded, h.ended⟩

/-- A terminal fault that is recorded is taken down. -/
theorem Recorded.takesDown {g : PipelineFault} {r : Except Fault Outcome} (hm : db.Migrated)
    (ht : db.tracker? job.trackerId = some t) (he : e.id = job.entityId)
    (h : Recorded t e a job g db log r db') : TakesDown job t (.pipeline g) db log r db' := by
  obtain ⟨now, now', rfl, hok, -, rfl⟩ := h
  have hm' : (db.putTracker (t.moved .failed job.jid t.batched now)).hasTable .failures = true :=
    hm .failures
  exact ⟨hok (hm .failures), rfl,
    ⟨_, Database.perm_failureRows_addFailure hm' _, rfl, rfl, he, rfl, rfl⟩,
    ⟨_, Database.tracker?_putTracker_moved ht, known?_moved ..⟩⟩

section
variable {σ : Type} {others : Surroundings σ} {sc sc' : Scene σ} {turn : Turn}

/-- A turn in which a fault is raised goes on with what is done about the fault, and the release of
the lease. -/
theorem run_settle_of_error
    (hf : (c.runTracker turn.tracker turn.subject.entity job).run.run (Scene.answer others) sc =
      (.error f, sc')) :
    let done := (recordIfTerminal turn.subject.entity
      (turn.subject.attributes.withStatus turn.tracker) job f).run.run (Scene.answer others) sc'
    (c.settle job turn).run.run (Scene.answer others) sc =
      (giveBack turn.lease done.1).run.run (Scene.answer others) done.2 := by
  intro done
  have hcatch : (tryCatch (c.runTracker turn.tracker turn.subject.entity job)
      (recordIfTerminal turn.subject.entity (turn.subject.attributes.withStatus turn.tracker)
        job)).run.run (Scene.answer others) sc = done := by
    rw [run_tryCatch, Program.run_bind, hf]
  refine (Program.run_bind ..).trans ?_
  rw [hcatch]

/-- **A terminal fault of a turn** is taken down. -/
theorem run_settle (hm : sc.database.Migrated) (hk : sc.database.Keyed)
    (hd : turn.Due job sc.database)
    (hf : (c.runTracker turn.tracker turn.subject.entity job).run.run (Scene.answer others) sc =
      (.error f, sc')) (hterm : f.isTerminal = true) :
    ∃ log, ((c.settle job turn).run.run (Scene.answer others) sc).2.exchanges =
        sc.exchanges ++ log ∧
      TakesDown job turn.tracker f sc.database log
        ((c.settle job turn).run.run (Scene.answer others) sc).1
        ((c.settle job turn).run.run (Scene.answer others) sc).2.database := by
  rw [run_settle_of_error hf]
  set done := (recordIfTerminal turn.subject.entity
    (turn.subject.attributes.withStatus turn.tracker) job f).run.run (Scene.answer others) sc'
  have hid := Database.id_of_tracker? hd.tracker
  have heid := Database.id_of_entity? hd.entity
  -- the turn up to the fault leaves the tracker as it was, or started
  obtain ⟨log₁, hlog₁, hturn⟩ := plays_run others (κ := .free) (fun _ => trivial)
    (c.runTracker turn.tracker turn.subject.entity job).run sc
  rw [hf] at hlog₁ hturn
  obtain ⟨o, now, l₁, l₂, -, rfl, hp, ha⟩ :=
    plays_runTracker hk (hid ▸ hd.tracker) hd.runnable hturn
  obtain ⟨⟨g, rfl⟩, hleft⟩ := ha.error.2 hterm
  -- what is done about the fault replaces that row, and adds another
  obtain ⟨log₂, hlog₂, hrec⟩ := plays_run others (κ := .free) (fun _ => trivial)
    (recordIfTerminal turn.subject.entity (turn.subject.attributes.withStatus turn.tracker) job
      (.pipeline g)).run sc'
  have he : sc.database.hasEntity turn.subject.entity.id = true :=
    heid.symm ▸ Database.hasEntity_of_entity? hd.entity
  have hdown :=
    (plays_recorded hk hd.tracker he hd.runnable hleft hrec).takesDown hm hd.tracker heid
  obtain ⟨log₃, hlog₃, hback⟩ := plays_run others (κ := .free) (fun _ => trivial)
    (giveBack turn.lease done.1).run done.2
  obtain ⟨reply, rfl, hr, hdb⟩ := plays_giveBack.mp hback
  rw [hr, hdb]
  refine ⟨l₁ ++ l₂ ++ (log₂ ++ [⟨.releaseLease turn.lease, reply⟩]), ?_, hdown.widen ?_⟩
  · rw [hlog₃, hlog₂, hlog₁, List.append_assoc, List.append_assoc]
  · rw [tracked_append, tracked_append, tracked_append, hp.untracked, ha.untracked]
    exact List.append_nil _

/-- **A terminal fault of an invocation** is taken down, once it comes to the turn. -/
theorem course_takesDown {db : Database} {s : σ} (hm : db.Migrated) (hk : db.Keyed)
    (happroach : (c.approach job).run.run (Scene.answer others) ⟨db, s, []⟩ = (.ok (.inr turn), sc))
    (hturn : (c.runTracker turn.tracker turn.subject.entity job).run.run (Scene.answer others) sc =
      (.error f, sc'))
    (hterm : f.isTerminal = true) :
    let x := course others (c.perform job).run db s
    TakesDown job turn.tracker f db x.exchanges x.value x.database := by
  intro x
  obtain ⟨log₁, hlog₁, hplays⟩ := plays_run others (κ := .free) (fun _ => trivial)
    (c.approach job).run ⟨db, s, []⟩
  rw [happroach] at hlog₁ hplays
  obtain ⟨hdb, huntold, hdue⟩ := plays_approach hm hplays
  obtain ⟨log₂, hlog₂, hdown⟩ := run_settle (hdb ▸ hm) (hdb ▸ hk) (hdb ▸ hdue) hturn hterm
  have hrun : (c.perform job).run.run (Scene.answer others) ⟨db, s, []⟩ =
      (c.settle job turn).run.run (Scene.answer others) sc := by
    rw [perform_eq, run_task_bind, Program.run_bind, happroach]
    rfl
  simp only [x, course, hrun]
  rw [hlog₂]
  refine (hdb ▸ hdown).widen ?_
  rw [tracked_append, hlog₁, List.nil_append, huntold, List.nil_append]

/-- **Every fault of an invocation goes one of two ways**, whoever answers.  What it hands on is
not terminal and ends nothing.  A terminal fault that is raised in the turn that it comes to is
taken down. -/
theorem perform_routes (others : Surroundings σ) (c : Coordinator) (job : PipelineJob)
    (db : Database) (s : σ) (hm : db.Migrated) (hk : db.Keyed) :
    (∀ f, (course others (c.perform job).run db s).value = .error f →
      HandsOn job f db (course others (c.perform job).run db s).exchanges
        (course others (c.perform job).run db s).database) ∧
    ∀ turn sc sc' f,
      (c.approach job).run.run (Scene.answer others) ⟨db, s, []⟩ = (.ok (.inr turn), sc) →
      (c.runTracker turn.tracker turn.subject.entity job).run.run (Scene.answer others) sc =
        (.error f, sc') →
      f.isTerminal = true →
        TakesDown job turn.tracker f db (course others (c.perform job).run db s).exchanges
          (course others (c.perform job).run db s).value
          (course others (c.perform job).run db s).database := by
  refine ⟨fun f hf => ?_, fun turn sc sc' f happroach hturn hterm =>
    course_takesDown hm hk happroach hturn hterm⟩
  have h := plays_course others (c.perform job).run db s
  rw [hf] at h
  exact plays_perform_handsOn hm hk h

/-- An enqueued tracker whose pipeline crashes, and one whose pipeline gives up. -/
theorem perform_routes_crashed_fatal :
    let c : Coordinator :=
      { settings := { deferralEnabled := false }, registry := ⟨[⟨"issues", "issues", false⟩]⟩ }
    let e : Entity := { (default : Entity) with id := 1 }
    let t : Tracker :=
      { (default : Tracker) with id := 1, pipelineName := "issues", status := "enqueued" }
    let job : PipelineJob := .first 1 1 "jid" "corr"
    let db : Database := .single e t
    let ending (x : Except Cause Pipeline.Outcome) : (r : Request) → r.Reply
      | .runPipeline _ _ => x
      | r => granted r
    let others (x : Except Cause Pipeline.Outcome) := steady .epoch "" (ending x)
    let r₁ := course (others (.error ⟨"crash", []⟩)) (c.perform job).run db ()
    let r₂ := course (others (.ok (.fatal "Boom" "broken"))) (c.perform job).run db ()
    (db.Migrated ∧ db.Keyed) ∧
      HandsOn job (.unexpected ⟨"crash", []⟩) db r₁.exchanges r₁.database ∧
      TakesDown job t (.pipeline (.fatal "Boom" "broken")) db r₂.exchanges r₂.value
        r₂.database := by
  intro c e t job db ending others r₁ r₂
  have hm : db.Migrated := Database.migrated_single _ _
  have hk : db.Keyed := Database.keyed_single _ _
  let fatal := others (.ok (.fatal "Boom" "broken"))
  let lease : Lease := ⟨c.settings.leaseKey 1, ""⟩
  let turn : Turn := ⟨lease, ⟨e, t, .of e t none⟩, t⟩
  let sc : Scene Unit :=
    ⟨db, (), [⟨.obtainLease lease.key c.settings.leaseTimeout, .ok (some lease)⟩]⟩
  have hcrash : r₁.value = .error (.unexpected ⟨"crash", []⟩) := rfl
  have happroach : (c.approach job).run.run (Scene.answer fatal) ⟨db, (), []⟩ =
      (.ok (.inr turn), sc) := rfl
  have hturn : ((c.runTracker t e job).run.run (Scene.answer fatal) sc).1 =
      .error (.pipeline (.fatal "Boom" "broken")) := rfl
  obtain ⟨hhanded, -⟩ := perform_routes (others (.error ⟨"crash", []⟩)) c job db () hm hk
  obtain ⟨-, htaken⟩ := perform_routes fatal c job db () hm hk
  exact ⟨⟨hm, hk⟩, hhanded _ hcrash, htaken turn sc _ _ happroach (Prod.ext hturn rfl) rfl⟩

end

end Coordinator

end ImportTracking
