import ImportTracking.Database.Statement
import Mathlib.Data.List.Nodup

/-!
# Rows — what statements do to a migrated database

A database is `Migrated` when every table exists, and `Keyed` when no two trackers have one id.
Of such a database the statements of a worker are never refused for want of a table, and each is
one of a few changes: `putTracker` replaces the row of a tracker, `addBatch` and `addFailure`
put a row into their tables.

* `execute_update_seen`: an update by a writer that saw the stored status replaces the row.
* `execute_update_stale`: an update by any other writer changes nothing.
* `execute_updateTracker`: of any database an update is one of these, or refused.
* `execute_insertBatch`, `execute_insertFailure`: an insert whose parent exists adds its row.
-/

namespace ImportTracking.Database

variable {db : Database}

@[simp] theorem hasId_tracker (t : Tracker) : HasId.id t = t.id := rfl

/-! ### Looking rows up -/

/-- The tracker of an id. -/
def tracker? (db : Database) (id : Int) : Option Tracker := db.trackerRows.find? fun t => t.id == id

/-- The entity of an id. -/
def entity? (db : Database) (id : Int) : Option Entity := db.entityRows.find? fun e => e.id == id

/-- The batch of a number of a tracker. -/
def batch? (db : Database) (trackerId number : Int) : Option Batch :=
  db.batchRows.find? fun b => b.trackerId == trackerId && b.number == number

/-- Every table exists. -/
def Migrated (db : Database) : Prop := ∀ name, db.hasTable name = true

/-- No two trackers have one id. -/
def Keyed (db : Database) : Prop := (db.trackerRows.map (·.id)).Nodup

theorem batches_of_hasTable (h : db.hasTable .batches = true) : ∃ t, db.batches = some t :=
  Option.isSome_iff_exists.mp h

theorem batches_eq_none (h : db.hasTable .batches = false) : db.batches = none := by
  simpa [hasTable] using h

theorem failures_eq_none (h : db.hasTable .failures = false) : db.failures = none := by
  simpa [hasTable] using h

theorem id_of_tracker? {id : Int} {t : Tracker} (h : db.tracker? id = some t) : t.id = id := by
  simpa using List.find?_some h

theorem id_of_entity? {id : Int} {e : Entity} (h : db.entity? id = some e) : e.id = id := by
  simpa using List.find?_some h

theorem mem_of_tracker? {id : Int} {t : Tracker} (h : db.tracker? id = some t) :
    t ∈ db.trackerRows :=
  List.mem_of_find?_eq_some h

theorem hasTracker_of_tracker? {id : Int} {t : Tracker} (h : db.tracker? id = some t) :
    db.hasTracker id = true :=
  List.any_eq_true.mpr ⟨t, mem_of_tracker? h, by simp [id_of_tracker? h]⟩

theorem hasEntity_of_entity? {id : Int} {e : Entity} (h : db.entity? id = some e) :
    db.hasEntity id = true :=
  List.any_eq_true.mpr ⟨e, List.mem_of_find?_eq_some h, by simp [id_of_entity? h]⟩

/-- With distinct keys an element is the one that its key finds. -/
theorem find?_key_eq_some_iff {α κ : Type} [BEq κ] [LawfulBEq κ] {key : α → κ} {rows : List α}
    (h : (rows.map key).Nodup) {k : κ} {r : α} :
    rows.find? (fun x => key x == k) = some r ↔ r ∈ rows ∧ key r = k := by
  constructor
  · intro hr
    exact ⟨List.mem_of_find?_eq_some hr, by simpa using List.find?_some hr⟩
  · rintro ⟨hr, rfl⟩
    obtain ⟨r', hr'⟩ := Option.isSome_iff_exists.mp
      (List.find?_isSome (p := fun x => key x == key r).mpr ⟨r, hr, by simp⟩)
    have hkey : key r' = key r := by simpa using List.find?_some hr'
    rw [hr', List.inj_on_of_nodup_map h (List.mem_of_find?_eq_some hr') hr hkey]

theorem tracker?_congr {db' : Database} (h : db'.trackers = db.trackers) (id : Int) :
    db'.tracker? id = db.tracker? id := by
  rw [tracker?, tracker?, trackerRows, trackerRows, h]

/-- With distinct ids a row is the one that its id finds. -/
theorem tracker?_of_mem (hk : db.Keyed) {t : Tracker} (h : t ∈ db.trackerRows) :
    db.tracker? t.id = some t :=
  (find?_key_eq_some_iff hk).mpr ⟨h, rfl⟩

/-! ### Changes -/

/-- The database with the row of a tracker replaced. -/
def putTracker (db : Database) (row : Tracker) : Database :=
  { db with trackers := db.trackers.map fun t => t.modify row.id fun _ => row }

/-- The database with one more batch. -/
def addBatch (db : Database) (row : Batch) : Database :=
  { db with batches := db.batches.map (·.insert row) }

/-- The database with more batches. -/
def addBatches (db : Database) (rows : List Batch) : Database := rows.foldl addBatch db

/-- The database with one more failure. -/
def addFailure (db : Database) (row : Failure) : Database :=
  { db with failures := db.failures.map (·.insert row) }

theorem trackerRows_putTracker (db : Database) (row : Tracker) :
    (db.putTracker row).trackerRows =
      db.trackerRows.map fun t => if t.id == row.id then row else t := by
  unfold trackerRows putTracker
  cases db.trackers <;> rfl

/-- A new batch is among the batches afterwards, with all that were there. -/
theorem mem_batchRows_addBatch (h : db.hasTable .batches = true) {row b : Batch} :
    b ∈ (db.addBatch row).batchRows ↔ b = row ∨ b ∈ db.batchRows := by
  obtain ⟨t, ht⟩ := batches_of_hasTable h
  simpa [batchRows, addBatch, ht] using Table.mem_insert

/-- A table holds one row more after an insert, wherever that has its place. -/
theorem Table.perm_place {Row : Type} [HasId Row] (row : Row) (rows : List Row) :
    (Table.place row rows).Perm (row :: rows) := by
  induction rows with
  | nil => exact .rfl
  | cons r rows ih =>
      rw [Table.place]
      split
      · exact .rfl
      · exact (ih.cons r).trans (.swap row r rows)

/-- The largest id ever used does not become smaller. -/
theorem Table.lastId_le_insert {Row : Type} [HasId Row] (t : Table Row) (row : Row) :
    (t.lastId : Int) ≤ (t.insert row).lastId :=
  Int.ofNat_le.mpr (Nat.le_max_left _ _)

/-- No row has an id beyond the largest ever used. -/
def Table.Numbered {Row : Type} [HasId Row] (t : Table Row) : Prop :=
  ∀ r ∈ t.rows, HasId.id r ≤ t.lastId

/-- A row whose id is beyond all others has its place at the end. -/
theorem Table.place_of_lt {Row : Type} [HasId Row] {row : Row} {rows : List Row}
    (h : ∀ r ∈ rows, HasId.id r < HasId.id row) : Table.place row rows = rows ++ [row] := by
  induction rows with
  | nil => rfl
  | cons r rows ih =>
      obtain ⟨hr, hrows⟩ := List.forall_mem_cons.mp h
      rw [Table.place, if_neg (Int.not_lt.mpr (Int.le_of_lt hr)), ih hrows, List.cons_append]

namespace Table.Numbered

variable {Row : Type} [HasId Row] {t : Table Row} {row : Row}

/-- A row with the next id comes after all others. -/
theorem rows_insert (h : t.Numbered) (hid : HasId.id row = t.nextId) :
    (t.insert row).rows = t.rows ++ [row] := by
  refine Table.place_of_lt fun r hr => ?_
  rw [hid, nextId]
  exact Int.lt_add_one_of_le (h r hr)

theorem insert (h : t.Numbered) (hid : HasId.id row = t.nextId) : (t.insert row).Numbered := by
  intro r hr
  have hlast : ((t.insert row).lastId : Int) = t.lastId + 1 := by
    simp only [Table.insert, hid, nextId]
    omega
  rw [h.rows_insert hid] at hr
  rw [hlast]
  rcases List.mem_append.mp hr with hr | hr
  · exact Int.le_add_one (h r hr)
  · rw [List.mem_singleton.mp hr, hid]
    exact Int.le_refl _

theorem filter (h : t.Numbered) (keep : Row → Bool) : (t.filter keep).Numbered :=
  fun r hr => h r (mem_filter.mp hr).1

end Table.Numbered

/-- There is one failure more afterwards, where there is a table of them. -/
theorem perm_failureRows_addFailure (h : db.hasTable .failures = true) (row : Failure) :
    (db.addFailure row).failureRows.Perm (row :: db.failureRows) := by
  obtain ⟨t, ht⟩ : ∃ t, db.failures = some t := Option.isSome_iff_exists.mp h
  simpa [failureRows, addFailure, ht, Table.insert] using Table.perm_place row t.rows

/-- The row that was put is the one its id finds, if it found one before. -/
theorem tracker?_putTracker_self {row old : Tracker} (h : db.tracker? row.id = some old) :
    (db.putTracker row).tracker? row.id = some row := by
  unfold tracker? at *
  rw [trackerRows_putTracker]
  generalize db.trackerRows = rows at *
  induction rows with
  | nil => simp at h
  | cons r rs ih =>
      by_cases hr : r.id = row.id
      · simp [hr]
      · rw [List.find?_cons_of_neg (by simpa using hr)] at h
        simpa [hr] using ih h

theorem tracker?_putTracker_of_ne {row : Tracker} {id : Int} (h : id ≠ row.id) :
    (db.putTracker row).tracker? id = db.tracker? id := by
  unfold tracker?
  rw [trackerRows_putTracker]
  generalize db.trackerRows = rows
  induction rows with
  | nil => rfl
  | cons r rs ih =>
      by_cases hr : r.id = row.id
      · simpa [hr, h.symm] using ih
      · by_cases hi : r.id = id
        · simp [hi, h]
        · simpa [hr, hi] using ih

/-- Of two rows put for one tracker the last one stays. -/
theorem putTracker_putTracker (db : Database) {row row' : Tracker} (h : row.id = row'.id) :
    (db.putTracker row).putTracker row' = db.putTracker row' := by
  have hrows (t : Table Tracker) : (t.modify row.id fun _ => row).modify row'.id (fun _ => row') =
      t.modify row'.id fun _ => row' := by
    simp only [Table.modify, List.map_map, Table.mk.injEq, and_true]
    refine List.map_congr_left fun r _ => ?_
    by_cases hr : r.id = row.id
    · simp [hr, h]
    · simp [hr, ← h]
  simp [putTracker, Option.map_map, Function.comp_def, hrows]

theorem ids_putTracker (db : Database) (row : Tracker) :
    (db.putTracker row).trackerRows.map (·.id) = db.trackerRows.map (·.id) := by
  rw [trackerRows_putTracker, List.map_map]
  refine List.map_congr_left fun t _ => ?_
  by_cases ht : t.id = row.id <;> simp [ht]

theorem keyed_putTracker (hk : db.Keyed) (row : Tracker) : (db.putTracker row).Keyed := by
  rwa [Keyed, ids_putTracker]

@[simp] theorem hasTable_putTracker {row : Tracker} {name : TableName} :
    (db.putTracker row).hasTable name = db.hasTable name := by
  cases name <;> simp [hasTable, putTracker]

@[simp] theorem migrated_putTracker {row : Tracker} :
    (db.putTracker row).Migrated ↔ db.Migrated :=
  forall_congr' fun _ => by rw [hasTable_putTracker]

@[simp] theorem hasTable_addBatch {row : Batch} {name : TableName} :
    (db.addBatch row).hasTable name = db.hasTable name := by
  cases name <;> simp [hasTable, addBatch]

@[simp] theorem migrated_addBatch {row : Batch} : (db.addBatch row).Migrated ↔ db.Migrated :=
  forall_congr' fun _ => by rw [hasTable_addBatch]

/-! More batches change the batches only. -/

section
variable (rows : List Batch)

@[simp] theorem trackerRows_addBatches :
    (db.addBatches rows).trackerRows = db.trackerRows := by
  induction rows generalizing db with
  | nil => rfl
  | cons b rows ih => exact ih

@[simp] theorem tracker?_addBatches (id : Int) :
    (db.addBatches rows).tracker? id = db.tracker? id := by
  rw [tracker?, tracker?, trackerRows_addBatches]

@[simp] theorem hasTable_addBatches {name : TableName} :
    (db.addBatches rows).hasTable name = db.hasTable name := by
  induction rows generalizing db with
  | nil => rfl
  | cons b rows ih => exact ih.trans hasTable_addBatch

@[simp] theorem failures_addBatches : (db.addBatches rows).failures = db.failures := by
  induction rows generalizing db with
  | nil => rfl
  | cons b rows ih => exact ih

theorem mem_batchRows_addBatches (h : db.hasTable .batches = true) {b : Batch} :
    b ∈ (db.addBatches rows).batchRows ↔ b ∈ rows ∨ b ∈ db.batchRows := by
  induction rows generalizing db with
  | nil => simp [addBatches]
  | cons row rows ih =>
      refine (ih (hasTable_addBatch.trans h)).trans ?_
      rw [mem_batchRows_addBatch h, List.mem_cons]
      exact or_left_comm.trans or_assoc.symm

end

/-! ### Reading -/

theorem execute_findTracker_of_some {tab : Table Tracker} (h : db.trackers = some tab) (id : Int) :
    execute (.findTracker id) db = (.ok (db.tracker? id), db) := by
  simp only [execute, tracker?, trackerRows, h, readable]
  rfl

theorem execute_findTracker_of_none (h : db.trackers = none) (id : Int) :
    execute (.findTracker id) db = (.error (Refusal.noSuchTable .trackers).onRead, db) := by
  simp only [execute, h, readable]
  rfl

/-- A tracker that is there is found. -/
theorem execute_findTracker {id : Int} {t : Tracker} (ht : db.tracker? id = some t) :
    execute (.findTracker id) db = (.ok (some t), db) := by
  cases htab : db.trackers with
  | none => simp [tracker?, trackerRows, htab] at ht
  | some tab => rw [execute_findTracker_of_some htab, ht]

/-- An entity that is there is found. -/
theorem execute_findEntity {id : Int} {e : Entity} (he : db.entity? id = some e) :
    execute (.findEntity id) db = (.ok (some e), db) := by
  cases htab : db.entities with
  | none => simp [entity?, entityRows, htab] at he
  | some tab =>
      simp only [execute, htab, readable]
      rw [entity?, entityRows, htab] at he
      exact congrArg (fun x => (Except.ok x, db)) he

/-- An entity that is not there is not found, or there is no table of them. -/
theorem execute_findEntity_of_none {id : Int} (he : db.entity? id = none) :
    execute (.findEntity id) db = (.ok none, db) ∨
      db.hasTable .entities = false ∧ ∃ f, execute (.findEntity id) db = (.error f, db) := by
  cases htab : db.entities with
  | none =>
      refine .inr ⟨by simp [hasTable, htab], (Refusal.noSuchTable .entities).onRead, ?_⟩
      simp only [execute, htab, readable]
      rfl
  | some tab =>
      refine .inl ?_
      simp only [execute, htab, readable]
      rw [entity?, entityRows, htab] at he
      exact congrArg (fun x => (Except.ok x, db)) he

/-- A search for an import is refused only for want of the table. -/
theorem execute_findImport (db : Database) (id : Int) :
    ∃ x, execute (.findImport id) db = (x, db) ∧
      (db.hasTable .imports = true → ∃ i, x = .ok i) := by
  refine ⟨_, rfl, fun htab => ?_⟩
  obtain ⟨t, ht⟩ : ∃ t, db.imports = some t := Option.isSome_iff_exists.mp htab
  exact ⟨t.find? id, by rw [ht]; rfl⟩

theorem execute_findBatch (h : db.hasTable .batches = true) (trackerId number : Int) :
    execute (.findBatch trackerId number) db = (.ok (db.batch? trackerId number), db) := by
  obtain ⟨t, ht⟩ := batches_of_hasTable h
  simp only [execute, batch?, batchRows, ht, readable]
  rfl

/-- Without their table batches cannot be looked for. -/
theorem execute_findBatch_of_none (h : db.hasTable .batches = false) (trackerId number : Int) :
    execute (.findBatch trackerId number) db =
      (.error (Refusal.noSuchTable .batches).onRead, db) := by
  simp only [execute, batches_eq_none h, readable]
  rfl

/-! ### Updating -/

/-- An update by a writer that saw the stored status replaces the row. -/
theorem execute_update_seen (hk : db.Keyed) {id : Int} {t : Tracker}
    (ht : db.tracker? id = some t) (u : TrackerUpdate) :
    ∃ n, n ≠ 0 ∧
      execute (.updateTracker id t.status u) db = (.ok n, db.putTracker (u.applyTo t)) := by
  have hid := id_of_tracker? ht
  have hmem := mem_of_tracker? ht
  -- the one row that the update applies to is the one that was found
  have happlies : ∀ r ∈ db.trackerRows,
      (if updateApplies id t.status r then u.applyTo r else r) =
        if r.id == (u.applyTo t).id then u.applyTo t else r := by
    intro r hr
    show _ = if r.id == t.id then _ else _
    by_cases he : r.id = t.id
    · have : r = t := by
        have h := tracker?_of_mem hk hr
        rw [he, hid, ht] at h
        exact (Option.some.inj h).symm
      simp [this, updateApplies, hid]
    · simp [updateApplies, ← hid, he]
  unfold trackerRows at hmem happlies
  cases htab : db.trackers with
  | none => simp [htab] at hmem
  | some tab =>
      rw [htab] at hmem happlies
      refine ⟨(tab.rows.filter (updateApplies id t.status)).length, ?_, ?_⟩
      · have : t ∈ tab.rows.filter (updateApplies id t.status) :=
          List.mem_filter.mpr ⟨hmem, by simp [updateApplies, hid]⟩
        exact fun h0 => List.ne_nil_of_mem this (List.length_eq_zero_iff.mp h0)
      · have hrows := List.map_congr_left happlies
        simp only [Option.map_some, Option.getD_some] at hrows
        simp only [execute, Database.updateTracker, htab, writable, putTracker, Option.map_some,
          Table.modify]
        show (Except.ok _, _) = (Except.ok _, _)
        rw [hrows]
        rfl

/-- An update by a writer that saw another status changes nothing. -/
theorem execute_update_stale (hk : db.Keyed) {tab : Table Tracker} (htab : db.trackers = some tab)
    {id : Int} {status : String} (h : ∀ t, db.tracker? id = some t → t.status ≠ status)
    (u : TrackerUpdate) : execute (.updateTracker id status u) db = (.ok 0, db) := by
  have hnot : ∀ r ∈ tab.rows, updateApplies id status r = false := by
    intro r hr
    have hr' : r ∈ db.trackerRows := by simpa [trackerRows, htab] using hr
    by_cases he : r.id = id
    · simpa [updateApplies, he] using h r (he ▸ tracker?_of_mem hk hr')
    · simp [updateApplies, he]
  have hrows : (tab.rows.map fun r => if updateApplies id status r then u.applyTo r else r) =
      tab.rows := by
    rw [List.map_congr_left (g := fun r => r) fun r hr => by simp [hnot r hr], List.map_id']
  have hnone : tab.rows.filter (updateApplies id status) = [] :=
    List.filter_eq_nil_iff.mpr fun r hr => by simp [hnot r hr]
  simp only [execute, Database.updateTracker, htab, writable]
  show (Except.ok _, _) = (Except.ok _, _)
  rw [hrows, hnone, ← htab]
  rfl

/-- Of a tracker that is there an update replaces the row, or meets another status. -/
theorem execute_updateTracker_of_tracker (hk : db.Keyed) {id : Int} {t : Tracker}
    (ht : db.tracker? id = some t) (status : String) (u : TrackerUpdate) :
    (t.status = status ∧ ∃ n, n ≠ 0 ∧
      execute (.updateTracker id status u) db = (.ok n, db.putTracker (u.applyTo t))) ∨
    t.status ≠ status ∧ execute (.updateTracker id status u) db = (.ok 0, db) := by
  by_cases hs : t.status = status
  · subst hs
    exact .inl ⟨rfl, execute_update_seen hk ht u⟩
  · cases htab : db.trackers with
    | none => simp [tracker?, trackerRows, htab] at ht
    | some tab =>
        refine .inr ⟨hs, execute_update_stale hk htab (fun t' ht' => ?_) u⟩
        obtain rfl := Option.some.inj (ht.symm.trans ht')
        exact hs

/-- Without their table no tracker is updated. -/
theorem execute_updateTracker_of_none (h : db.trackers = none) (id : Int) (status : String)
    (u : TrackerUpdate) :
    execute (.updateTracker id status u) db =
      (.error (Refusal.noSuchTable .trackers).onWrite, db) := by
  simp only [execute, Database.updateTracker, h, writable]
  rfl

/-- Of any database an update replaces the row its writer saw, changes nothing, or is refused. -/
theorem execute_updateTracker (hk : db.Keyed) (id : Int) (status : String) (u : TrackerUpdate) :
    (∃ t n, db.tracker? id = some t ∧ t.status = status ∧ n ≠ 0 ∧
      execute (.updateTracker id status u) db = (.ok n, db.putTracker (u.applyTo t))) ∨
    ((∀ t, db.tracker? id = some t → t.status ≠ status) ∧
      execute (.updateTracker id status u) db = (.ok 0, db)) ∨
    ∃ e, execute (.updateTracker id status u) db = (.error e, db) := by
  cases htab : db.trackers with
  | none => exact .inr (.inr ⟨_, execute_updateTracker_of_none htab id status u⟩)
  | some tab =>
      by_cases h : ∃ t, db.tracker? id = some t ∧ t.status = status
      · obtain ⟨t, ht, rfl⟩ := h
        obtain ⟨n, hn, he⟩ := execute_update_seen hk ht u
        exact .inl ⟨t, n, ht, rfl, hn, he⟩
      · have h' : ∀ t, db.tracker? id = some t → t.status ≠ status :=
          fun t ht hs => h ⟨t, ht, hs⟩
        exact .inr (.inl ⟨h', execute_update_stale hk htab h' u⟩)

/-! ### Inserting -/

/-- The id of the next batch. -/
def nextBatchId (db : Database) : Int := (db.batches.map Table.nextId).getD 0

/-- The id of the next failure. -/
def nextFailureId (db : Database) : Int := (db.failures.map Table.nextId).getD 0

/-- A batch of the same tracker and number is there exactly when it is found. -/
theorem any_sameBatch (db : Database) (row : Batch) :
    db.batchRows.any (sameBatch row) = (db.batch? row.trackerId row.number).isSome := by
  rw [batch?, Bool.eq_iff_iff, List.any_eq_true, List.find?_isSome]
  simp only [sameBatch, Bool.and_eq_true, beq_iff_eq]
  exact exists_congr fun b => and_congr_right fun _ => and_congr eq_comm eq_comm

/-- An insert of a batch is refused when it is there, or when its tracker is not. -/
theorem execute_insertBatch_eq (h : db.hasTable .batches = true) (trackerId number : Int)
    (status : String) (at_ : Timestamp) :
    let row : Batch := ⟨db.nextBatchId, trackerId, number, status, at_, at_⟩
    execute (.insertBatch trackerId number status at_) db = written db (do
      refuseUnless (!(db.batch? trackerId number).isSome)
        (.sameColumns .batches ["tracker_id", "batch_number"])
      refuseUnless (db.hasTracker trackerId) .noParent
      return (row, db.addBatch row)) := by
  intro row
  obtain ⟨t, ht⟩ := batches_of_hasTable h
  have hsame := any_sameBatch db row
  rw [batchRows, ht, Option.map_some, Option.getD_some] at hsame
  rw [← hsame]
  simp only [execute, Database.insertBatch, ht, writable, row, nextBatchId, addBatch,
    Option.map_some, Option.getD_some]
  rfl

/-- A batch that is not there is added to its tracker. -/
theorem execute_insertBatch (h : db.hasTable .batches = true) {trackerId number : Int}
    (hnew : db.batch? trackerId number = none) (hp : db.hasTracker trackerId = true)
    (status : String) (at_ : Timestamp) :
    let row : Batch := ⟨db.nextBatchId, trackerId, number, status, at_, at_⟩
    execute (.insertBatch trackerId number status at_) db = (.ok row, db.addBatch row) := by
  rw [execute_insertBatch_eq h, hnew, hp]
  rfl

/-- A batch that is there is not inserted again. -/
theorem execute_insertBatch_of_taken (h : db.hasTable .batches = true) {trackerId number : Int}
    {b : Batch} (htaken : db.batch? trackerId number = some b) (status : String) (at_ : Timestamp) :
    execute (.insertBatch trackerId number status at_) db =
      (.error (Refusal.sameColumns .batches ["tracker_id", "batch_number"]).onWrite, db) := by
  rw [execute_insertBatch_eq h, htaken]
  rfl

/-- A batch of a tracker that does not exist is not inserted. -/
theorem execute_insertBatch_of_orphan (h : db.hasTable .batches = true) {trackerId number : Int}
    (hnew : db.batch? trackerId number = none) (hp : db.hasTracker trackerId = false)
    (status : String) (at_ : Timestamp) :
    execute (.insertBatch trackerId number status at_) db =
      (.error Refusal.noParent.onWrite, db) := by
  rw [execute_insertBatch_eq h, hnew, hp]
  rfl

/-- Without their table no batch is inserted. -/
theorem execute_insertBatch_of_none (h : db.hasTable .batches = false) (trackerId number : Int)
    (status : String) (at_ : Timestamp) :
    execute (.insertBatch trackerId number status at_) db =
      (.error (Refusal.noSuchTable .batches).onWrite, db) := by
  simp only [execute, Database.insertBatch, batches_eq_none h, writable]
  rfl

/-- A failure of an entity that exists is added. -/
theorem execute_insertFailure (h : db.hasTable .failures = true) {row : Failure}
    (hp : db.hasEntity row.entityId = true) :
    execute (.insertFailure row) db =
      (.ok { row with id := db.nextFailureId },
        db.addFailure { row with id := db.nextFailureId }) := by
  obtain ⟨t, ht⟩ : ∃ t, db.failures = some t := Option.isSome_iff_exists.mp h
  simp only [execute, Database.insertFailure, ht, writable, nextFailureId, addFailure,
    Option.map_some, Option.getD_some]
  show written db (do
    refuseUnless (db.hasEntity row.entityId) _
    pure (_, _)) = _
  rw [hp]
  rfl

/-- A failure of an entity that does not exist is not added. -/
theorem execute_insertFailure_of_orphan (h : db.hasTable .failures = true) {row : Failure}
    (hp : db.hasEntity row.entityId = false) :
    execute (.insertFailure row) db = (.error Refusal.noParent.onWrite, db) := by
  obtain ⟨t, ht⟩ : ∃ t, db.failures = some t := Option.isSome_iff_exists.mp h
  simp only [execute, Database.insertFailure, ht, writable]
  show written db (do
    refuseUnless (db.hasEntity row.entityId) _
    pure (_, _)) = _
  rw [hp]
  rfl

/-- Without its table a failure is refused. -/
theorem execute_insertFailure_of_none (h : db.hasTable .failures = false) (row : Failure) :
    execute (.insertFailure row) db = (.error (Refusal.noSuchTable .failures).onWrite, db) := by
  simp only [execute, Database.insertFailure, failures_eq_none h, writable]
  rfl

theorem addFailure_of_none (h : db.hasTable .failures = false) (row : Failure) :
    db.addFailure row = db := by
  have hnone := failures_eq_none h
  unfold addFailure
  rw [hnone, Option.map_none, ← hnone]

/-! ### The smallest database with work in it -/

/-- The database of one tracker of one entity. -/
def single (e : Entity) (t : Tracker) : Database :=
  { imports := some .empty
    entities := some ⟨[e], 1⟩
    trackers := some ⟨[t], 1⟩
    failures := some .empty
    batches := some .empty
    leases := some .empty }

theorem migrated_single (e : Entity) (t : Tracker) : (single e t).Migrated := by
  intro name
  cases name <;> rfl

theorem keyed_single (e : Entity) (t : Tracker) : (single e t).Keyed := by
  simp [Keyed, trackerRows, single]

theorem tracker?_single (e : Entity) (t : Tracker) : (single e t).tracker? t.id = some t :=
  List.find?_cons_of_pos (beq_self_eq_true _)

theorem entity?_single (e : Entity) (t : Tracker) : (single e t).entity? e.id = some e :=
  List.find?_cons_of_pos (beq_self_eq_true _)

end ImportTracking.Database
