import ImportTracking.Proofs.Waiting

/-!
# Failed exports — what the failure log says of them

A source instance that cannot export says why.  Its text passes through the reading of the report,
the choice of the entry for the relation, the snapshot and the decision, before it stands in the
failure log.  On the way the batch count of the entry is checked first, of a failed export as of
any other: one that is no batch count takes the place of the text (`RelationStatus.reported`).

* `Snapshot.ofStatus_of_failed`: the snapshot of a failed export has the text that is reported.
* `Performs.fails`: an invocation that obtains the lease records it, and fails the tracker.
* `failedExport_reported`: this holds of every report that can be read, and of every invocation.
-/

namespace ImportTracking

open Work Tracker

namespace Export

/-- The text that a failed export is reported with: the one that it gave, unless its batch count is
out of range. -/
def RelationStatus.reported (s : RelationStatus) (text : String) : String :=
  if 0 ≤ s.batchCount ∧ s.batchCount < 2 ^ 31 then text
  else "Invalid batches_count " ++ toString s.batchCount ++ " in export status"

/-- A snapshot of an export that failed with a text. -/
def Snapshot.FailedWith (s : Snapshot) (text : String) : Prop :=
  s.failed = true ∧ s.error = some text

theorem Snapshot.ofStatus_of_failed {s : RelationStatus} {text : String}
    (hstate : s.state = some .failed) (herror : s.error = some text) :
    (ofStatus s).FailedWith (s.reported text) := by
  have hmax : (maxBatchNumber : Int) + 1 = 2 ^ 31 := rfl
  unfold ofStatus RelationStatus.reported
  by_cases hcount : 0 ≤ s.batchCount ∧ s.batchCount < 2 ^ 31
  · rw [if_pos (by omega), if_pos hcount]
    exact ⟨by rw [hstate]; rfl, herror⟩
  · rw [if_neg (by omega), if_neg hcount]
    exact ⟨rfl, rfl⟩

end Export

/-- What a client replies that got a report. -/
def Work.reading (j : Json) : Except Cause Export.Payload :=
  (Export.Payload.ofJson j).mapError (⟨·, []⟩)

open Export

namespace Decision

/-- **A failed export** ends the tracker with the text of the snapshot. -/
theorem decide_of_failed {cs : Circumstances} {s : Snapshot} {text : String}
    (hlive : cs.entityFailed = false) (hfile : cs.fileExtraction = true)
    (hs : cs.exportStatus = some s) (h : s.FailedWith text) :
    decide cs = .fail (.sourceFailed text) := by
  obtain ⟨hfailed, herror⟩ := h
  simp [decide, ofExport, hlive, hfile, hs, hfailed, herror]

end Decision

namespace Coordinator

open Invocation (Outcome)

variable {κ : Clock} {c : Coordinator} {t : Tracker} {e : Entity} {job : PipelineJob}
  {db db' : Database} {log : List Exchange} {r : Except Fault Outcome} {text : String}

/-- Every reply about the export of a tracker is that it failed with a text. -/
def AnswersFailed (c : Coordinator) (t : Tracker) (e : Entity) (text : String)
    (log : List Exchange) : Prop :=
  ∀ p reply, c.registry.find? t.pipelineName = some p →
    ⟨.readExport t e p.relation, reply⟩ ∈ log →
    (Snapshot.ofReply p.relation (reply.mapError Cause.text)).FailedWith text

/-- The tracker failed, and the failure log has the text. -/
def FailsWith (t : Tracker) (e : Entity) (job : PipelineJob) (text : String) (db : Database)
    (r : Except Fault Outcome) (db' : Database) : Prop :=
  r = .ok (.failed "PipelineFailedError") ∧ ∃ now now',
    db' = (db.putTracker (t.moved .failed job.jid t.batched now)).addFailure
      (FailureLog.row db t e (Fault.pipeline (.sourceFailed text)).report job now')

/-- There is one failure more, with the text, and the tracker has failed. -/
theorem FailsWith.recorded (hw : Awaits c job t e db) (h : FailsWith t e job text db r db') :
    (∃ row : Failure, db'.failureRows.Perm (row :: db.failureRows) ∧
      row.entityId = job.entityId ∧ row.exceptionClass = "PipelineFailedError" ∧
      row.exceptionMessage = "Export from source instance failed: " ++ text) ∧
    ∃ t', db'.tracker? job.trackerId = some t' ∧ t'.known? = some .failed := by
  obtain ⟨-, now, now', rfl⟩ := h
  have hrows : (db.putTracker (t.moved .failed job.jid t.batched now)).hasTable .failures = true :=
    hw.failures
  exact ⟨⟨_, Database.perm_failureRows_addFailure hrows _, Database.id_of_entity? hw.entity, rfl,
    rfl⟩, _, Database.tracker?_putTracker_moved hw.tracker, known?_moved ..⟩

/-- The work under the lease of a tracker whose export failed. -/
theorem Serves.fails {a : Attributes} (hw : Awaits c job t e db)
    (h : Serves κ c t e a job db log r db') (hread : AnswersFailed c t e text log) :
    FailsWith t e job text db r db' := by
  -- whenever the decision is made, the export was polled, and had failed
  have hdecide {l₁ l₂ : List Exchange} {o : Option Snapshot} (now : Timestamp)
      (hp : Polls (c.registry.find? t.pipelineName) t e l₁ o)
      (hread : AnswersFailed c t e text (l₁ ++ l₂)) :
      Decision.decide (c.circumstances t e o now) = .fail (.sourceFailed text) := by
    obtain ⟨p, hp', hfile⟩ := hw.pipeline
    cases hp with
    | nothing hnot =>
        rw [hnot p hp' hw.live] at hfile
        cases hfile
    | read hp'' _ _ reply =>
        refine Decision.decide_of_failed hw.live ?_ rfl (hread _ reply hp'' List.mem_cons_self)
        show (c.registry.find? t.pipelineName).any (·.fileExtraction) = true
        rw [hp']
        exact hfile
  cases h with
  | notRunnable hnot =>
      rw [hw.runnable] at hnot
      cases hnot
  | acted _ _ hp ha hr =>
      rw [hdecide _ hp hread] at ha
      -- a fault that ends the tracker is recorded, and is no outcome of the turn
      cases ha
      cases hr _ rfl
  | @recorded _ _ now₁ now₂ _ _ _ _ _ _ hp ha _ hok =>
      rw [List.append_assoc] at hread
      rw [hdecide _ hp hread] at ha
      cases ha
      exact ⟨hok hw.failures, now₁, now₂, rfl⟩

/-- **An invocation for a tracker whose export failed**, once it has the lease, records why. -/
theorem Performs.fails (hw : Awaits c job t e db) (h : Performs κ c t e job db log r db')
    (hlease : Leased log) (hread : AnswersFailed c t e text log) :
    FailsWith t e job text db r db' := by
  cases h with
  | deferred | deferralRefused => simp [Leased] at hlease
  | leaseHeld hadm _ hr => exact absurd hlease (hadm.not_leased hr)
  | served _ _ _ hs =>
      refine hs.fails hw fun p reply hp hreply => hread p reply hp ?_
      exact List.mem_append_right _ (List.mem_cons_of_mem _ (List.mem_append_left _ hreply))

/-- **The text of a failed export** comes through to the failure log.  Of every report that can be
read, and every relation for which it has the entry of a failed export with a text, the snapshot has
failed with the text that is reported; and every invocation for a live tracker waiting for such an
export, once it has the lease, fails the tracker and records that text.  The text is the one of the
entry if its batch count is in range. -/
theorem failedExport_reported {σ : Type} (others : Surroundings σ) {j : Json} {payload : Payload}
    {relation : String} {status : RelationStatus} {text : String}
    (hj : Payload.ofJson j = .ok payload) (hselect : payload.select relation = some status)
    (hfailed : status.state = some .failed) (herror : status.error = some text) :
    (∀ t e db s, (others (.request (.readExport t e relation)) s).1 = reading j →
      let snapshot := (course others (evaluateExport t e relation) db s).value
      snapshot.failed = true ∧ snapshot.error = some (status.reported text)) ∧
    ∀ c job t e p db s, Awaits c job t e db → c.registry.find? t.pipelineName = some p →
      p.relation = relation →
      let x := course others (c.perform job).run db s
      Leased x.exchanges →
      (∀ r, ⟨.readExport t e relation, r⟩ ∈ x.exchanges → r = reading j) →
      x.value = .ok (.failed "PipelineFailedError") ∧
      (∃ row : Failure, x.database.failureRows.Perm (row :: db.failureRows) ∧
        row.entityId = job.entityId ∧ row.exceptionClass = "PipelineFailedError" ∧
        row.exceptionMessage =
          "Export from source instance failed: " ++ status.reported text) ∧
      ∃ t', x.database.tracker? job.trackerId = some t' ∧ t'.known? = some .failed := by
  have hsnapshot : (Snapshot.ofReply relation ((reading j).mapError Cause.text)).FailedWith
      (status.reported text) := by
    simp only [reading, hj, Except.mapError, Snapshot.ofReply, hselect]
    exact Snapshot.ofStatus_of_failed hfailed herror
  constructor
  · intro t e db s hreply snapshot
    have hsnap : snapshot = Snapshot.ofReply relation ((reading j).mapError Cause.text) := by
      rw [← hreply]
      rfl
    rw [hsnap]
    exact hsnapshot
  · rintro c job t e p db s hw hp rfl x hlease hread
    obtain ⟨version, hl⟩ := loads_of_entity hw.imports hw.tracker hw.entity
    have hperforms := plays_perform hl hw.keyed hw.tracker hw.entity
      (plays_course others (c.perform job).run db s)
    have hanswers : AnswersFailed c t e (status.reported text) x.exchanges := by
      intro p' reply hp' hmem
      obtain rfl := Option.some.inj (hp.symm.trans hp')
      rw [hread reply hmem]
      exact hsnapshot
    have hfails := hperforms.fails hw hlease hanswers
    exact ⟨hfails.1, hfails.recorded hw⟩

/-- Others at rest, with a report of the source instance. -/
def exporting (j : Json) : (r : Request) → r.Reply
  | .readExport _ _ _ => reading j
  | r => granted r

/-- A report on two relations: of the one that is asked for the export failed. -/
theorem failedExport_reported_full :
    let j : Json := .arr [.ofMembers [("relation", .str "labels"), ("batches_count", .int (-1))],
      .ofMembers [("relation", .str "issues"), ("status", .str "failed"),
        ("error", .str "disk full"), ("batched", .bool true), ("batches_count", .int 4)]]
    let c : Coordinator := { registry := ⟨[⟨"issues", "issues", true⟩]⟩ }
    let e : Entity := { (default : Entity) with id := 1 }
    let t : Tracker :=
      { (default : Tracker) with id := 1, pipelineName := "issues", status := "enqueued" }
    let x := course (steady default "new" (exporting j)) (c.perform (.first 1 1 "jid" "corr")).run
      (.single e t) ()
    x.value = .ok (.failed "PipelineFailedError") ∧
      ∃ row : Failure, x.database.failureRows.Perm [row] ∧
        row.exceptionMessage = "Export from source instance failed: disk full" := by
  intro j c e t x
  have hw : Awaits c (.first 1 1 "jid" "corr") t e (.single e t) :=
    { keyed := Database.keyed_single e t
      imports := rfl
      failures := rfl
      tracker := Database.tracker?_single e t
      runnable := rfl
      entity := Database.entity?_single e t
      live := rfl
      pipeline := ⟨⟨"issues", "issues", true⟩, rfl, rfl⟩ }
  let status : RelationStatus := ⟨some "issues", some .failed, some "disk full", true, 4⟩
  let payload : Payload := .perRelation [⟨some "labels", none, none, false, -1⟩, status]
  have hselect : payload.select "issues" = some status := by decide
  have hj : Payload.ofJson j = .ok payload := by decide +kernel
  have hlease : Leased x.exchanges := by decide +kernel
  obtain ⟨-, hperform⟩ :=
    failedExport_reported (steady default "new" (exporting j)) hj hselect rfl rfl
  obtain ⟨hr, ⟨row, hrows, -, -, hmessage⟩, -⟩ := hperform c _ t e ⟨"issues", "issues", true⟩ _ ()
    hw rfl rfl hlease fun r hmem =>
      exchanges_steady (c.perform (.first 1 1 "jid" "corr")).run (.single e t) _ hmem
  exact ⟨hr, row, hrows, hmessage⟩

/-- A failed export with a batch count below 0: the text that it gave is lost. -/
theorem failedExport_shadowed :
    let j : Json := .ofMembers [("status", .str "failed"), ("error", .str "disk full"),
      ("batches_count", .int (-1))]
    let c : Coordinator := { registry := ⟨[⟨"issues", "issues", true⟩]⟩ }
    let e : Entity := { (default : Entity) with id := 1 }
    let t : Tracker :=
      { (default : Tracker) with id := 1, pipelineName := "issues", status := "enqueued" }
    let others := steady default "new" (exporting j)
    (Payload.ofJson j).map (·.select "issues") =
        .ok (some ⟨none, some .failed, some "disk full", false, -1⟩) ∧
      (course others (evaluateExport t e "issues") (.single e t) ()).value.error =
        some "Invalid batches_count -1 in export status" ∧
      let x := course others (c.perform (.first 1 1 "jid" "corr")).run (.single e t) ()
      x.value = .ok (.failed "PipelineFailedError") ∧
        x.database.failureRows.map (·.exceptionMessage) =
          ["Export from source instance failed: Invalid batches_count -1 in export status"] := by
  decide +kernel

end Coordinator

end ImportTracking
