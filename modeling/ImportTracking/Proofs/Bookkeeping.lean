import ImportTracking.Proofs.Sessions
import ImportTracking.Proofs.Stages

/-!
# Bookkeeping — what a transition records with its event

A transition may record the job that applies its event, and whether the tracker is batched.  It
writes these together with the status, and so it writes them only if the row still has the status
that its caller saw.  A caller that is late, and finds the row in the status it was to reach, is
told of success all the same: nothing is written then, and the row keeps what another writer
recorded.

* `run_transition_seen`, `run_transition_late`: what a transition does to the row that is stored.
* `transition_records`: one that succeeds leaves the row in the status of its event, with what was
  to be recorded, unless its caller was late.
-/

namespace ImportTracking.Tracker

open Session (State)

namespace Transition

/-- A row has what a transition was to record with its event. -/
def Records (tr : Transition) (row : Tracker) : Prop :=
  (∀ jid, tr.jid = some jid → row.jid = some jid) ∧ ∀ b, tr.batched = some b → row.batched = b

/-- The row that a transition writes has what was to be recorded. -/
theorem records_result (tr : Transition) (t : Tracker) (next : Status) (now : Timestamp) :
    tr.Records (tr.result t next now) := by
  refine ⟨fun jid hj => ?_, fun b hb => ?_⟩
  · show tr.jid.or t.jid = some jid
    rw [hj, Option.some_or]
  · show tr.batched.getD t.batched = b
    rw [hb, Option.getD_some]

end Transition

variable {seen stored : Tracker} {tr : Transition} {current next : Status} {st : State}

/-- A transition with an allowed event updates the row if it has the status seen, and comes to its
verdict on the row that it then reads back. -/
theorem run_transition (hs : seen.known? = some current)
    (hn : current.apply tr.event = some next) :
    Session.run (seen.transition tr).run st =
      Session.run (Session.query
        (.updateTracker seen.id current.name (tr.update next st.clock)) >>= fun count =>
          Session.findTracker seen.id >>= Attempt.verdict ⟨seen, tr⟩ next count).run st := by
  simp only [transition, statusOf, hs, nextStatus, hn]
  rfl

/-- A row that has the status seen is replaced by the one that the event leads to. -/
theorem run_transition_seen (hk : st.database.Keyed)
    (ht : st.database.tracker? seen.id = some stored) (hs : seen.known? = some current)
    (hn : current.apply tr.event = some next) (hst : stored.status = seen.status) :
    Session.run (seen.transition tr).run st = (.ok (tr.result stored next st.clock),
      { st with database := st.database.putTracker (tr.result stored next st.clock) }) := by
  obtain ⟨n, hn0, hupdate⟩ := Database.execute_update_seen hk ht (tr.update next st.clock)
  rw [hst, status_of_known? hs, Transition.applyTo_update] at hupdate
  rw [run_transition hs hn, Session.run_query_bind_ok hupdate,
    Session.run_findTracker_bind (Transition.tracker?_putTracker_result ht), Attempt.verdict,
    if_neg hn0]
  rfl

/-- A row that has another status is not written: the transition succeeds if the row is where the
event leads, and is refused otherwise. -/
theorem run_transition_late (hk : st.database.Keyed)
    (ht : st.database.tracker? seen.id = some stored) (hs : seen.known? = some current)
    (hn : current.apply tr.event = some next) (hst : stored.status ≠ seen.status) :
    (stored.known? = some next ∧ Session.run (seen.transition tr).run st = (.ok stored, st)) ∨
      ∃ f, Session.run (seen.transition tr).run st = (.error f, st) := by
  rw [status_of_known? hs] at hst
  obtain ⟨h, -⟩ | ⟨-, hupdate⟩ :=
    Database.execute_updateTracker_of_tracker hk ht current.name (tr.update next st.clock)
  · exact absurd h hst
  rw [run_transition hs hn, Session.run_query_bind_ok hupdate, Session.run_findTracker_bind ht,
    Attempt.verdict, if_pos rfl, statusOf]
  cases stored.known? with
  | none => exact .inr ⟨_, rfl⟩
  | some observed =>
      by_cases ho : observed = next
      · simp only [if_pos ho]
        exact .inl ⟨congrArg some ho, rfl⟩
      · simp only [if_neg ho]
        exact .inr ⟨_, rfl⟩

/-- A tracker that is not stored is not moved. -/
theorem run_transition_missing (hk : st.database.Keyed)
    (ht : st.database.tracker? seen.id = none) (hs : seen.known? = some current)
    (hn : current.apply tr.event = some next) :
    ∃ f st', Session.run (seen.transition tr).run st = (.error f, st') := by
  rw [run_transition hs hn]
  obtain ⟨_, _, hsome, -⟩ | ⟨-, hupdate⟩ | ⟨e, hupdate⟩ :=
    Database.execute_updateTracker hk seen.id current.name (tr.update next st.clock)
  · rw [ht] at hsome
    cases hsome
  · rw [Session.run_query_bind_ok hupdate]
    obtain ⟨f, hf⟩ := Session.run_findTracker_bind_of_none ht (Attempt.verdict ⟨seen, tr⟩ next 0)
    exact ⟨f, _, hf⟩
  · exact ⟨_, _, Session.run_query_bind_error hupdate⟩

/-- **A transition that succeeds** applies an allowed event to the stored row, and returns the row
as it then is.  Either the row had the status that the caller saw, and was replaced; or it had the
status that the event leads to, and nothing was written. -/
theorem of_run_transition_ok (hk : st.database.Keyed) {row : Tracker} {st' : State}
    (h : Session.run (seen.transition tr).run st = (.ok row, st')) :
    ∃ stored current next, st.database.tracker? seen.id = some stored ∧
      seen.known? = some current ∧ current.apply tr.event = some next ∧
      ((stored.status = seen.status ∧ row = tr.result stored next st.clock ∧
          st' = { st with database := st.database.putTracker row }) ∨
        (stored.status ≠ seen.status ∧ stored.known? = some next ∧ row = stored ∧ st' = st)) := by
  cases hs : seen.known? with
  | none =>
      simp only [transition, statusOf, hs] at h
      cases h
  | some current =>
      cases hn : current.apply tr.event with
      | none =>
          rw [transition_of_not_allowed hs hn] at h
          cases h
      | some next =>
          cases ht : st.database.tracker? seen.id with
          | none =>
              obtain ⟨f, _, hf⟩ := run_transition_missing hk ht hs hn
              rw [hf] at h
              cases h
          | some stored =>
              refine ⟨stored, current, next, rfl, rfl, hn, ?_⟩
              by_cases hst : stored.status = seen.status
              · rw [run_transition_seen hk ht hs hn hst] at h
                cases h
                exact .inl ⟨hst, rfl, rfl⟩
              · obtain ⟨hnext, hrun⟩ | ⟨f, hf⟩ := run_transition_late hk ht hs hn hst
                · rw [hrun] at h
                  cases h
                  exact .inr ⟨hst, hnext, rfl, rfl⟩
                · rw [hf] at h
                  cases h

/-- **A transition that succeeds** returns the stored row, which is in the status that its event
leads to.  What was to be recorded is recorded there if the row had the status that the caller saw,
and otherwise only if another writer had recorded the same before. -/
theorem transition_records (seen : Tracker) (tr : Transition) (st : State)
    (hk : st.database.Keyed) {row : Tracker} {st' : State}
    (h : Session.run (seen.transition tr).run st = (.ok row, st')) :
    ∃ stored current next, st.database.tracker? seen.id = some stored ∧
      seen.known? = some current ∧ current.apply tr.event = some next ∧
      st'.database.tracker? seen.id = some row ∧ row.known? = some next ∧
      (tr.Records row ↔ stored.status = seen.status ∨ tr.Records stored) := by
  obtain ⟨stored, current, next, ht, hs, hn, ⟨hst, rfl, rfl⟩ | ⟨hst, hnext, rfl, rfl⟩⟩ :=
    of_run_transition_ok hk h
  · exact ⟨stored, current, next, ht, hs, hn, Transition.tracker?_putTracker_result ht,
      Transition.known?_result, fun _ => .inl hst, fun _ => tr.records_result stored next st.clock⟩
  · exact ⟨row, current, next, ht, hs, hn, ht, hnext, .inr, fun h => h.resolve_left hst⟩

/-- An enqueued tracker that a job starts with batches. -/
theorem transition_records_started :
    let t : Tracker := { (default : Tracker) with status := "enqueued" }
    let tr : Transition := { event := .start, jid := some "jid", batched := some true }
    let row := tr.result t .started .epoch
    let st : State := ⟨.single default t, .epoch, { naming := .standard }⟩
    let st' : State := { st with database := st.database.putTracker row }
    Session.run (t.transition tr).run st = (.ok row, st') ∧
      ∃ stored current next, st.database.tracker? t.id = some stored ∧
        t.known? = some current ∧ current.apply tr.event = some next ∧
        st'.database.tracker? t.id = some row ∧ row.known? = some next ∧
        (tr.Records row ↔ stored.status = t.status ∨ tr.Records stored) := by
  intro t tr row st st'
  have hrun : Session.run (t.transition tr).run st = (.ok row, st') :=
    run_transition_seen (Database.keyed_single _ _) (Database.tracker?_single _ _) rfl rfl rfl
  exact ⟨hrun, transition_records t tr st (Database.keyed_single _ _) hrun⟩

/-- A job that starts a tracker with batches, as it saw it enqueued, after another job has started
it without: it is told of success, and neither its id nor that the tracker is batched is
recorded. -/
theorem transition_unrecorded :
    let seen : Tracker := { (default : Tracker) with status := "enqueued" }
    let stored : Tracker := { seen with status := "started", jid := some "other" }
    let tr : Transition := { event := .start, jid := some "jid", batched := some true }
    let st : State := ⟨.single default stored, .epoch, { naming := .standard }⟩
    Session.run (seen.transition tr).run st = (.ok stored, st) ∧
      stored.jid ≠ tr.jid ∧ stored.batched = false := by
  intro seen stored tr st
  refine ⟨?_, by decide, rfl⟩
  obtain ⟨-, hrun⟩ | ⟨f, hf⟩ := @run_transition_late seen stored tr _ _ st
    (Database.keyed_single _ _) (Database.tracker?_single _ _) rfl rfl (by decide)
  · exact hrun
  · cases hf

end ImportTracking.Tracker
