import ImportTracking.Proofs.Course
import ImportTracking.Proofs.Rows

/-!
# Frame — what every program keeps

Whatever a program does and whoever answers it, the tables stand that stood, the entities are as
they were, and the trackers have the ids that they had.

* `execute_changes`: what a statement may change, case by case.
* `trackers_execute`, `failureRows_execute`: which statements change the trackers and the failures.
* `Stands`: what every one of these cases keeps.
* `Plays.stands`: every play keeps it.
-/

namespace ImportTracking.Database

variable {db db' db'' : Database}

/-! ### Writes -/

theorem ok_of_bind {α β : Type} {x : Except Error α} {f : α → Except Error β} {b : β}
    (h : (x >>= f) = .ok b) : ∃ a, x = .ok a ∧ f a = .ok b := by
  cases x with
  | error e => cases h
  | ok a => exact ⟨a, rfl, h⟩

theorem eq_some_of_writable {Row : Type} {name : TableName} {t : Option (Table Row)}
    {tab : Table Row} (h : writable name t = .ok tab) : t = some tab := by
  cases t with
  | none => cases h
  | some t =>
      cases h
      rfl

theorem insertBatch_ok {row : Int → Batch} {b : Batch} (h : db.insertBatch row = .ok (b, db')) :
    ∃ tab, db.batches = some tab ∧ db' = { db with batches := some (tab.insert b) } := by
  obtain ⟨tab, htab, h⟩ := ok_of_bind h
  obtain ⟨-, -, h⟩ := ok_of_bind h
  obtain ⟨-, -, h⟩ := ok_of_bind h
  cases h
  exact ⟨tab, eq_some_of_writable htab, rfl⟩

theorem insertFailure_ok {row : Int → Failure} {f : Failure}
    (h : db.insertFailure row = .ok (f, db')) :
    ∃ tab id, db.failures = some tab ∧
      db' = { db with failures := some (tab.insert (row id)) } := by
  obtain ⟨tab, htab, h⟩ := ok_of_bind h
  obtain ⟨-, -, h⟩ := ok_of_bind h
  cases h
  exact ⟨tab, _, eq_some_of_writable htab, rfl⟩

theorem insertLease_ok {row : Int → Lease.Row} {l : Lease.Row}
    (h : db.insertLease row = .ok (l, db')) :
    ∃ tab, db.leases = some tab ∧ db' = { db with leases := some (tab.insert l) } := by
  obtain ⟨tab, htab, h⟩ := ok_of_bind h
  obtain ⟨-, -, h⟩ := ok_of_bind h
  cases h
  exact ⟨tab, eq_some_of_writable htab, rfl⟩

theorem updateTracker_ok {id : Int} {status : String} {u : TrackerUpdate} {n : Nat}
    (h : db.updateTracker id status u = .ok (n, db')) :
    ∃ tab rows, db.trackers = some tab ∧ rows.map (·.id) = tab.rows.map (·.id) ∧
      db' = { db with trackers := some { tab with rows := rows } } := by
  obtain ⟨tab, htab, h⟩ := ok_of_bind h
  cases h
  refine ⟨tab, _, eq_some_of_writable htab, ?_, rfl⟩
  rw [List.map_map]
  refine List.map_congr_left fun r _ => ?_
  show (if updateApplies id status r then u.applyTo r else r).id = r.id
  split <;> rfl

theorem deleteLeases_ok {gone : Lease.Row → Bool} {u : Unit}
    (h : ((writable .leases db.leases).map fun _ => ((), db.deleteLeases gone)) = .ok (u, db')) :
    ∃ tab tab', db.leases = some tab ∧ db' = { db with leases := some tab' } := by
  cases htab : db.leases with
  | none =>
      rw [htab] at h
      cases h
  | some tab =>
      rw [htab] at h
      cases h
      exact ⟨tab, tab.filter fun l => !gone l, rfl, by rw [deleteLeases, htab]; rfl⟩

/-- A write is refused and changes nothing, or it is done. -/
theorem written_cases {α : Type} (db : Database) (w : Except Error (α × Database)) :
    (written db w).2 = db ∨ ∃ a, w = .ok (a, (written db w).2) := by
  cases w with
  | error e => exact .inl rfl
  | ok x => exact .inr ⟨x.1, rfl⟩

/-- **A statement changes** nothing, or one table: an update the trackers, which keep their ids, an
insert the batches, the failures or the leases, and a delete the leases. -/
theorem execute_changes (s : Statement) (db : Database) :
    (execute s db).2 = db ∨
      (∃ id status u tab rows, s = .updateTracker id status u ∧ db.trackers = some tab ∧
        rows.map (·.id) = tab.rows.map (·.id) ∧
        (execute s db).2 = { db with trackers := some { tab with rows := rows } }) ∨
      (∃ tab tab', db.batches = some tab ∧ (execute s db).2 = { db with batches := some tab' }) ∨
      (∃ row tab id, s = .insertFailure row ∧ db.failures = some tab ∧
        (execute s db).2 =
          { db with failures := some (tab.insert ({ row with id := id } : Failure)) }) ∨
      ∃ tab tab', db.leases = some tab ∧ (execute s db).2 = { db with leases := some tab' } := by
  cases s with
  | updateTracker =>
      obtain h | ⟨n, h⟩ := written_cases db _
      · exact .inl h
      · obtain ⟨tab, rows, h⟩ := updateTracker_ok h
        exact .inr (.inl ⟨_, _, _, tab, rows, rfl, h⟩)
  | insertBatch =>
      obtain h | ⟨b, h⟩ := written_cases db _
      · exact .inl h
      · obtain ⟨tab, htab, h⟩ := insertBatch_ok h
        exact .inr (.inr (.inl ⟨tab, _, htab, h⟩))
  | insertFailure =>
      obtain h | ⟨f, h⟩ := written_cases db _
      · exact .inl h
      · obtain ⟨tab, id, h⟩ := insertFailure_ok h
        exact .inr (.inr (.inr (.inl ⟨_, tab, id, rfl, h⟩)))
  | insertLease =>
      obtain h | ⟨l, h⟩ := written_cases db _
      · exact .inl h
      · obtain ⟨tab, htab, h⟩ := insertLease_ok h
        exact .inr (.inr (.inr (.inr ⟨tab, _, htab, h⟩)))
  | deleteLease | releaseLease =>
      obtain h | ⟨u, h⟩ := written_cases db _
      · exact .inl h
      · exact .inr (.inr (.inr (.inr (deleteLeases_ok h))))
  | _ => exact .inl rfl

/-- Trackers are changed by their updates only. -/
theorem trackers_execute {s : Statement} (h : ∀ id status u, s ≠ .updateTracker id status u)
    (db : Database) : (execute s db).2.trackers = db.trackers := by
  obtain hdb | ⟨id, status, u, _, _, hs, -⟩ | ⟨_, _, -, hdb⟩ | ⟨_, _, _, -, -, hdb⟩ |
    ⟨_, _, -, hdb⟩ := execute_changes s db
  · rw [hdb]
  · exact absurd hs (h id status u)
  all_goals rw [hdb]

/-- Failures are added by their inserts only. -/
theorem failureRows_execute (s : Statement) (db : Database) :
    (execute s db).2.failureRows = db.failureRows ∨
      ∃ row id, s = .insertFailure row ∧
        (execute s db).2.failureRows.Perm ({ row with id := id } :: db.failureRows) := by
  obtain hdb | ⟨_, _, _, _, _, -, -, -, hdb⟩ | ⟨_, _, -, hdb⟩ | ⟨row, tab, id, hs, htab, hdb⟩ |
    ⟨_, _, -, hdb⟩ := execute_changes s db
  · exact .inl (by rw [hdb])
  · exact .inl (by rw [hdb]; rfl)
  · exact .inl (by rw [hdb]; rfl)
  · refine .inr ⟨row, id, hs, ?_⟩
    rw [hdb, failureRows, failureRows, htab]
    exact Table.perm_place _ _
  · exact .inl (by rw [hdb]; rfl)

/-! ### The frame -/

/-- From `db` to `db'` the tables stand that stood, and the entities and the ids of trackers are the
same. -/
structure Stands (db db' : Database) : Prop where
  hasTable : ∀ name, db'.hasTable name = db.hasTable name
  entity : ∀ id, db'.entity? id = db.entity? id
  ids : db'.trackerRows.map (·.id) = db.trackerRows.map (·.id)

namespace Stands

theorem refl (db : Database) : Stands db db := ⟨fun _ => rfl, fun _ => rfl, rfl⟩

theorem trans (h : Stands db db') (h' : Stands db' db'') : Stands db db'' where
  hasTable name := (h'.hasTable name).trans (h.hasTable name)
  entity id := (h'.entity id).trans (h.entity id)
  ids := h'.ids.trans h.ids

theorem migrated (h : Stands db db') (hm : db.Migrated) : db'.Migrated :=
  fun name => (h.hasTable name).trans (hm name)

theorem keyed (h : Stands db db') (hk : db.Keyed) : db'.Keyed := by
  rwa [Keyed, h.ids]

/-- A tracker that was there is there. -/
theorem tracker? (h : Stands db db') {id : Int} (ht : ∃ t, db.tracker? id = some t) :
    ∃ t, db'.tracker? id = some t := by
  obtain ⟨t, ht⟩ := ht
  have hmem : id ∈ db'.trackerRows.map (·.id) := by
    rw [h.ids, ← id_of_tracker? ht]
    exact List.mem_map_of_mem (mem_of_tracker? ht)
  obtain ⟨t', ht', hid⟩ := List.mem_map.mp hmem
  exact Option.isSome_iff_exists.mp (List.find?_isSome.mpr ⟨t', ht', by simp [hid]⟩)

end Stands

/-- A statement keeps the frame. -/
theorem execute_stands (s : Statement) (db : Database) : Stands db (execute s db).2 := by
  obtain h | ⟨_, _, _, tab, rows, -, htab, hids, h⟩ | ⟨tab, _, htab, h⟩ |
    ⟨_, tab, _, -, htab, h⟩ | ⟨tab, _, htab, h⟩ := execute_changes s db
  · rw [h]
    exact .refl db
  · rw [h]
    refine ⟨fun name => ?_, fun _ => rfl, ?_⟩
    · cases name <;> simp [Database.hasTable, htab]
    · rw [trackerRows, trackerRows, htab]
      exact hids
  all_goals
    rw [h]
    refine ⟨fun name => ?_, fun _ => rfl, rfl⟩
    cases name <;> simp [Database.hasTable, htab]

end ImportTracking.Database

namespace ImportTracking.Work

open Database (Stands)

/-- **Every play keeps the frame**, whoever answers. -/
theorem Plays.stands {α : Type} {κ : Clock} {p : Program Work α} {db db' : Database}
    {log : List Exchange} {a : α} (h : Plays κ p db log a db') : Stands db db' := by
  -- of the calls only statements reach the database
  induction p generalizing db log with
  | done b =>
      obtain ⟨-, -, rfl⟩ := h
      exact .refl _
  | call c next ih =>
      cases c with
      | session c =>
          cases c with
          | query s => exact (Database.execute_stands s db).trans (ih _ h)
          | now =>
              obtain ⟨r, -, h⟩ := h
              exact ih r h
          | newJid | newCorrelation | newToken =>
              obtain ⟨r, h⟩ := h
              exact ih r h
      | request r =>
          obtain ⟨reply, rest, -, h⟩ := h
          exact ih reply h

end ImportTracking.Work
