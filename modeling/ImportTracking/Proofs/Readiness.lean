import ImportTracking.Proofs.FailedExports

/-!
# Readiness — which exports are acted on

A report may say anything: of a relation nothing, or several things, or a batch count that is none.
What is made of it, a snapshot, says one thing at most; and a tracker is started on it only where
the entry that counts says that the export is finished, with a batch count that is one
(`RelationStatus.Ready`).

* `Snapshot.sound_ofReply`: a snapshot says at most one thing, and its batch count is one.
* `Decision.starts_iff`: a tracker is started for an entry that is ready, and for no other.
* `runTracker_eq_runTrackerBy`: what a fan-out does with other counts makes no difference to a turn.
* `runTracker_starts_ready`: what becomes of a report, from the reading of it to the turn.
-/

namespace ImportTracking

open Work

namespace Export

/-! ### Reports -/

/-- The status that a report names for a relation: the only one that there is, or of several the
first one of that relation. -/
inductive Payload.Names (relation : String) : Payload → RelationStatus → Prop where
  | single (s : RelationStatus) : Names relation (.single s) s
  | listed {before : List RelationStatus} {s : RelationStatus} (after : List RelationStatus)
      (hfirst : ∀ s' ∈ before, s'.relation ≠ some relation) (hs : s.relation = some relation) :
      Names relation (.perRelation (before ++ s :: after)) s

theorem Payload.select_eq_some_iff {p : Payload} {relation : String} {s : RelationStatus} :
    p.select relation = some s ↔ p.Names relation s := by
  constructor
  · intro h
    cases p with
    | empty => cases h
    | single s' =>
        cases h
        exact .single s
    | perRelation statuses =>
        obtain ⟨hs, before, after, rfl, hfirst⟩ := List.find?_eq_some_iff_append.mp h
        exact .listed after (by simpa using hfirst) (by simpa using hs)
  · rintro (_ | ⟨after, hfirst, hs⟩)
    · rfl
    · exact List.find?_eq_some_iff_append.mpr
        ⟨by simpa using hs, _, after, rfl, by simpa using hfirst⟩

namespace RelationStatus

/-- The batch count of a status is one. -/
def Counted (s : RelationStatus) : Prop := 0 ≤ s.batchCount ∧ s.batchCount ≤ 2 ^ 31 - 1

/-- The export is finished, and its batch count is one. -/
def Ready (s : RelationStatus) : Prop := s.state = some .finished ∧ s.Counted

end RelationStatus

/-! ### Snapshots -/

namespace Snapshot

/-- A snapshot says one thing at most, and its batch count is one. -/
structure Sound (s : Snapshot) : Prop where
  flags : [s.empty, s.started, s.failed].count true ≤ 1
  batchCount : s.batchCount ≤ 2 ^ 31 - 1

variable {relation text : String} {r : Except String Payload} {s : RelationStatus}

theorem ofStatus_of_counted (h : s.Counted) :
    ofStatus s = ⟨s.state.isNone, s.state == some .started, s.state == some .failed, s.batched,
      s.batchCount.toNat, s.error⟩ :=
  if_pos ⟨h.1, h.2⟩

/-- A status whose batch count is none is as good as that of a failed export. -/
theorem ofStatus_of_not_counted (h : ¬s.Counted) :
    ofStatus s =
      failure ("Invalid batches_count " ++ toString s.batchCount ++ " in export status") :=
  if_neg fun hc => h ⟨hc.1, hc.2⟩

theorem sound_failure (text : String) : (failure text).Sound := ⟨by simp [failure], Nat.zero_le _⟩

theorem sound_ofStatus (s : RelationStatus) : (ofStatus s).Sound := by
  refine ⟨?_, ofStatus_batchCount_le s⟩
  by_cases h : s.Counted
  · rw [ofStatus_of_counted h]
    obtain _ | _ | _ | _ := s.state <;> simp
  · rw [ofStatus_of_not_counted h]
    exact (sound_failure _).flags

/-- **Whatever the reply**, the snapshot that is taken says one thing at most. -/
theorem sound_ofReply (relation : String) (r : Except String Payload) :
    (ofReply relation r).Sound := by
  unfold ofReply
  split
  · exact sound_failure _
  · split
    · exact sound_ofStatus _
    · exact ⟨by decide, Nat.zero_le _⟩

/-- Nothing stands against acting on a snapshot. -/
def IsClear (s : Snapshot) : Prop := s.failed = false ∧ s.isPending = false

theorem isClear_ofStatus_iff : (ofStatus s).IsClear ↔ s.Ready := by
  by_cases h : s.Counted
  · rw [ofStatus_of_counted h, RelationStatus.Ready]
    obtain _ | _ | _ | _ := s.state <;> simp [IsClear, isPending, h]
  · rw [ofStatus_of_not_counted h]
    simp [IsClear, failure, RelationStatus.Ready, h]

/-- **The snapshots to act on** are those of statuses that are ready. -/
theorem isClear_ofReply_iff :
    (ofReply relation r).IsClear ↔ ∃ p s, r = .ok p ∧ p.Names relation s ∧ s.Ready := by
  cases r with
  | error e => simp [ofReply, failure, IsClear]
  | ok p =>
      simp only [← Payload.select_eq_some_iff, Except.ok.injEq, ofReply]
      cases hs : p.select relation with
      | none => simp [nothing, IsClear, isPending, hs]
      | some s => simp [isClear_ofStatus_iff, hs]

end Snapshot

end Export

open Export

/-! ### Decisions -/

namespace Decision

/-- Whether a tracker is started. -/
def starts : Decision → Bool
  | startBatched _ | finishEmptyBatched | run => true
  | skip | fail _ | reEnqueue => false

variable {relation : String} {r : Except String Payload} {age timeout : Duration}

theorem starts_ofExport_iff {s : Snapshot} :
    (ofExport s age timeout).starts = true ↔ s.IsClear := by
  unfold ofExport Snapshot.IsClear Snapshot.isPending
  cases s.failed <;> cases s.empty <;> cases s.started <;> cases s.batched <;>
    by_cases hcount : s.batchCount = 0 <;> by_cases hage : timeout ≤ age <;>
    simp [starts, hcount, hage]

/-- **A tracker is started** for an entry that is ready, and for no other. -/
theorem starts_iff :
    (decide ⟨false, true, some (Snapshot.ofReply relation r), age, timeout⟩).starts = true ↔
      ∃ p s, r = .ok p ∧ p.Names relation s ∧ s.Ready :=
  starts_ofExport_iff.trans Snapshot.isClear_ofReply_iff

/-- A fan-out is decided on for as many batches as there can be. -/
theorem startBatched_le {cs : Circumstances} {n : Nat}
    (hs : ∀ s, cs.exportStatus = some s → s.Sound) (h : decide cs = .startBatched n) :
    1 ≤ n ∧ n ≤ 2 ^ 31 - 1 := by
  obtain ⟨s, hs', rfl, hn⟩ := of_decide_startBatched h
  exact ⟨hn, (hs s hs').batchCount⟩

end Decision

/-! ### Turns -/

namespace Coordinator

open Invocation (Outcome)

section
variable (c : Coordinator) (fanOut : Tracker → Nat → Work.Task (List Batch))

/-- Carries a decision out, with a fan-out of any kind. -/
def actBy (d : Decision) (pipeline : Option Pipeline) (t : Tracker) (e : Entity)
    (job : PipelineJob) : Work.Task Outcome :=
  match d with
  | .startBatched count => do
    let started ← start t job (some true)
    let _ ← fanOut started count
    return .batchesEnqueued count
  | d => c.act d pipeline t e job

/-- Decides on a tracker and acts, with a fan-out of any kind. -/
def runTrackerBy (t : Tracker) (e : Entity) (job : PipelineJob) : Work.Task Outcome := do
  let pipeline := c.registry.find? t.pipelineName
  let exportStatus ← (pollExport pipeline t e : Program Work _)
  let now ← (ofSession Session.now : Program Work Timestamp)
  c.actBy fanOut (Decision.decide (c.circumstances t e exportStatus now)) pipeline t e job

end

variable {c : Coordinator} {fanOut : Tracker → Nat → Work.Task (List Batch)} {p : Pipeline}
  {t : Tracker} {e : Entity} {job : PipelineJob}

theorem actBy_enqueueAll (d : Decision) (pipeline : Option Pipeline) :
    c.actBy Batch.enqueueAll d pipeline t e job = c.act d pipeline t e job := by
  cases d <;> rfl

/-- An action depends on the fan-out only for counts that are decided on. -/
theorem actBy_congr {fanOut' : Tracker → Nat → Work.Task (List Batch)} {d : Decision}
    (h : ∀ t n, d = .startBatched n → fanOut t n = fanOut' t n) (pipeline : Option Pipeline) :
    c.actBy fanOut d pipeline t e job = c.actBy fanOut' d pipeline t e job := by
  cases d with
  | startBatched n => exact bind_congr fun started => by rw [h started n rfl]
  | skip | fail | reEnqueue | finishEmptyBatched | run => rfl

/-- What follows a poll depends on it only for the snapshots that it can give. -/
theorem pollExport_bind_congr {α : Type} {f g : Option Snapshot → Program Work α}
    (pipeline : Option Pipeline) (h : ∀ o, (∀ s, o = some s → s.Sound) → f o = g o) :
    (pollExport pipeline t e).bind f = (pollExport pipeline t e).bind g := by
  cases pipeline with
  | none => exact h none nofun
  | some p =>
      rw [pollExport]
      split
      · refine congrArg (Program.call _) (funext fun reply => h _ fun s hs => ?_)
        obtain rfl := Option.some.inj hs
        exact Snapshot.sound_ofReply _ _
      · exact h none nofun

/-- **The fan-out of a turn** is only ever for as many batches as there can be: a turn is the same
with any other that does the same for these, whatever it does for other counts. -/
theorem runTracker_eq_runTrackerBy
    (h : ∀ t n, 1 ≤ n → n ≤ 2 ^ 31 - 1 → fanOut t n = Batch.enqueueAll t n) :
    c.runTracker t e job = c.runTrackerBy fanOut t e job := by
  refine ExceptT.ext ?_
  rw [runTracker, runTrackerBy]
  simp only [run_lift_bind]
  refine pollExport_bind_congr _ fun o ho => congrArg (Program.bind _) (funext fun now => ?_)
  refine congrArg ExceptT.run ?_
  rw [← actBy_enqueueAll]
  refine actBy_congr (fun t' n hn => ?_) _
  obtain ⟨hone, hmax⟩ := Decision.startBatched_le ho hn
  exact (h t' n hone hmax).symm

/-- **A turn for a failed export** asks for nothing but the export and the time, and ends with what
is reported of it. -/
theorem run_runTracker_of_failed {σ : Type} (answer : (c : Work.Call) → σ → Work.Reply c × σ)
    (s : σ) {text : String} (hp : c.registry.find? t.pipelineName = some p)
    (hfile : p.fileExtraction = true) (hlive : e.isFailed = false)
    (hfailed : (Snapshot.ofReply p.relation
      ((answer (.request (.readExport t e p.relation)) s).1.mapError Cause.text)).FailedWith text) :
    (c.runTracker t e job).run.run answer s =
      (.error (.pipeline (.sourceFailed text)),
        (answer (.session .now) (answer (.request (.readExport t e p.relation)) s).2).2) := by
  have hpoll : pollExport (c.registry.find? t.pipelineName) t e =
      .call (.request (.readExport t e p.relation)) fun reply =>
        .done (some (Snapshot.ofReply p.relation (reply.mapError Cause.text))) := by
    rw [hp, pollExport, hfile, hlive]
    rfl
  rw [runTracker]
  simp only [run_lift_bind, hpoll]
  show (c.act (Decision.decide (c.circumstances t e (some (Snapshot.ofReply p.relation _)) _))
    _ t e job).run.run answer _ = _
  rw [Decision.decide_of_failed hlive ?_ rfl hfailed]
  · rfl
  · show (c.registry.find? t.pipelineName).any (·.fileExtraction) = true
    rw [hp]
    exact hfile

/-- A reply about a relation whose entry has a batch count that is none. -/
theorem Snapshot.failedWith_of_not_counted {relation : String} {payload : Payload}
    {status : RelationStatus} (hnames : payload.Names relation status) (h : ¬status.Counted) :
    (Snapshot.ofReply relation (.ok payload)).FailedWith
      ("Invalid batches_count " ++ toString status.batchCount ++ " in export status") := by
  simp only [Snapshot.ofReply, Payload.select_eq_some_iff.mpr hnames,
    Snapshot.ofStatus_of_not_counted h]
  exact ⟨rfl, rfl⟩

/-- **A tracker is started only for an entry that is ready.**  Whoever answers, the snapshot that is
taken says one thing at most, and its batch count is one; a fan-out is decided on for one batch or
more, and for as many as there can be; and a start is decided on exactly when the reply is a report
that names a finished export for the relation, with a batch count that is one.  So what a fan-out
does with other counts makes no difference to any turn; and a turn that reads a batch count that is
none makes no statement, but ends with that. -/
theorem runTracker_starts_ready {σ : Type} (answer : (c : Work.Call) → σ → Work.Reply c × σ)
    (s : σ) (c : Coordinator) (t : Tracker) (e : Entity) (job : PipelineJob) :
    (∀ relation,
      let reply := (answer (.request (.readExport t e relation)) s).1
      let snapshot := ((evaluateExport t e relation).run answer s).1
      snapshot.Sound ∧ ∀ age timeout,
        let d := Decision.decide ⟨false, true, some snapshot, age, timeout⟩
        (∀ n, d = .startBatched n → 1 ≤ n ∧ n ≤ 2 ^ 31 - 1) ∧
        (d.starts = true ↔ ∃ payload status,
          reply = .ok payload ∧ payload.Names relation status ∧ status.Ready)) ∧
    (∀ fanOut : Tracker → Nat → Work.Task (List Batch),
      (∀ t n, 1 ≤ n → n ≤ 2 ^ 31 - 1 → fanOut t n = Batch.enqueueAll t n) →
      c.runTracker t e job = c.runTrackerBy fanOut t e job) ∧
    ∀ p payload status, c.registry.find? t.pipelineName = some p → p.fileExtraction = true →
      e.isFailed = false →
      let asked := answer (.request (.readExport t e p.relation)) s
      asked.1 = .ok payload → payload.Names p.relation status → ¬status.Counted →
      (c.runTracker t e job).run.run answer s =
        (.error (.pipeline (.sourceFailed
          ("Invalid batches_count " ++ toString status.batchCount ++ " in export status"))),
          (answer (.session .now) asked.2).2) := by
  refine ⟨?_, fun _ => runTracker_eq_runTrackerBy, ?_⟩
  · intro relation reply snapshot
    have hsnapshot : snapshot = Snapshot.ofReply relation (reply.mapError Cause.text) := rfl
    have hsound : snapshot.Sound := hsnapshot ▸ Snapshot.sound_ofReply _ _
    refine ⟨hsound, fun age timeout => ⟨fun n hn => ?_, ?_⟩⟩
    · refine Decision.startBatched_le (fun s' hs' => ?_) hn
      obtain rfl := Option.some.inj hs'
      exact hsound
    · rw [hsnapshot, Decision.starts_iff]
      cases reply <;> simp [Except.mapError]
  · intro p payload status hp hfile hlive asked hasked hnames hcount
    refine run_runTracker_of_failed answer s hp hfile hlive ?_
    show (Snapshot.ofReply p.relation (asked.1.mapError Cause.text)).FailedWith _
    rw [hasked]
    exact Snapshot.failedWith_of_not_counted hnames hcount

/-- A finished export in one batch more than there can be. -/
theorem runTracker_starts_ready_overfull :
    let j : Json := .ofMembers [("status", .str "finished"), ("batched", .bool true),
      ("batches_count", .int 2147483648)]
    let status : RelationStatus := ⟨none, some .finished, none, true, 2147483648⟩
    let c : Coordinator := { registry := ⟨[⟨"issues", "issues", true⟩]⟩ }
    let e : Entity := { (default : Entity) with id := 1 }
    let t : Tracker :=
      { (default : Tracker) with id := 1, pipelineName := "issues", status := "enqueued" }
    let job := PipelineJob.first 1 1 "jid" "corr"
    let unchecked (t : Tracker) (n : Nat) := Batch.enqueueFrom t.id n 1
    Payload.ofJson j = .ok (.single status) ∧ ¬status.Counted ∧
      c.runTracker t e job = c.runTrackerBy unchecked t e job ∧
      ((c.runTracker t e job).run.run (steady default "new" (exporting j)) ()).1 =
        .error (.pipeline (.sourceFailed "Invalid batches_count 2147483648 in export status")) := by
  intro j status c e t job unchecked
  obtain ⟨-, hfanOut, hturn⟩ :=
    runTracker_starts_ready (steady default "new" (exporting j)) () c t e job
  have hj : Payload.ofJson j = .ok (.single status) := by rfl
  have hcount : ¬status.Counted := by simp [RelationStatus.Counted, status]
  have hread : reading j = .ok (.single status) := by rw [reading, hj]; rfl
  refine ⟨hj, hcount, hfanOut unchecked fun t n _ hn => ?_, ?_⟩
  · exact (if_pos hn).symm
  · exact congrArg Prod.fst (hturn ⟨"issues", "issues", true⟩ (.single status) status rfl rfl rfl
      hread (.single status) hcount)

end Coordinator

end ImportTracking
