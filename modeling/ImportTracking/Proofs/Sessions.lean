import ImportTracking.Session
import ImportTracking.Proofs.Rows

/-!
# Sessions — tasks on the database, one at a time

A task that uses only the database runs to its end: a statement that is executed goes on with its
result, and one that is refused ends the task in a fault.

* `run_query_bind_ok`, `run_query_bind_error`: what a statement leads to.
* `run_findTracker_bind`, `run_findEntity_bind`: a row that is there is found.
-/

namespace ImportTracking.Session

variable {α β : Type} {st : State}

/-- A sequence of tasks goes on after a good result, and ends at a fault. -/
theorem run_bind (t : Task α) (f : α → Task β) (st : State) :
    run (t >>= f).run st = match run t.run st with
      | (.ok a, st') => run (f a).run st'
      | (.error e, st') => (.error e, st') := by
  have hbind : run (t >>= f).run st =
      run (ExceptT.bindCont f (run t.run st).1) (run t.run st).2 := Program.run_bind ..
  rw [hbind]
  obtain ⟨r, st'⟩ := run t.run st
  cases r <;> rfl

section
variable {s : Database.Statement} {db : Database}

/-- A statement gives its result, or a fault if it is refused. -/
theorem run_query (s : Database.Statement) (st : State) :
    run (query s).run st = ((Database.execute s st.database).1.mapError .database,
      { st with database := (Database.execute s st.database).2 }) := by
  show ((match (Database.execute s st.database).1 with
    | .ok a => .ok a
    | .error e => .error (.database e) : Except Fault s.Result), _) = _
  cases (Database.execute s st.database).1 <;> rfl

/-- A statement that is executed goes on with its result. -/
theorem run_query_bind_ok {x : s.Result} (h : Database.execute s st.database = (.ok x, db))
    {f : s.Result → Task β} :
    run (query s >>= f).run st = run (f x).run { st with database := db } := by
  rw [run_bind, run_query, h]
  rfl

/-- A statement that is refused ends in a fault. -/
theorem run_query_bind_error {e : Database.Error}
    (h : Database.execute s st.database = (.error e, db)) {f : s.Result → Task β} :
    run (query s >>= f).run st = (.error (.database e), { st with database := db }) := by
  rw [run_bind, run_query, h]
  rfl

end

/-- A task goes on with the tracker that is there. -/
theorem run_findTracker_bind {id : Int} {t : Tracker} (ht : st.database.tracker? id = some t)
    {f : Tracker → Task β} : run (findTracker id >>= f).run st = run (f t).run st := by
  rw [findTracker, bind_assoc, run_query_bind_ok (Database.execute_findTracker ht)]
  rfl

/-- A task goes on with the entity that is there. -/
theorem run_findEntity_bind {id : Int} {e : Entity} (he : st.database.entity? id = some e)
    {f : Entity → Task β} : run (findEntity id >>= f).run st = run (f e).run st := by
  rw [findEntity, bind_assoc, run_query_bind_ok (Database.execute_findEntity he)]
  rfl

/-- A task that looks for a tracker that is not there ends in a fault. -/
theorem run_findTracker_bind_of_none {id : Int} (ht : st.database.tracker? id = none)
    (f : Tracker → Task β) : ∃ g, run (findTracker id >>= f).run st = (.error g, st) := by
  rw [findTracker, bind_assoc]
  cases htab : st.database.trackers with
  | none => exact ⟨_, run_query_bind_error (Database.execute_findTracker_of_none htab id)⟩
  | some tab =>
      rw [run_query_bind_ok (Database.execute_findTracker_of_some htab id), ht]
      exact ⟨_, rfl⟩

end ImportTracking.Session
