import ImportTracking.Database.Upkeep
import ImportTracking.Proofs.Ownership

/-!
# Integrity — what upkeep keeps of the rows, in any order of its steps

A database is `Integral` when every foreign key names a row, no two rows share an id or unique
columns, and every row is of a table that exists; it is `Laid` when the tables that exist are
those of the migrations applied to it.  Upkeep needs the two together: a migration creates its
tables empty, and loses no row only because they are not there yet.

* `integral_add_iff`: a new row keeps the database whole if it has a parent and is the only one
  of its id and unique columns.
* `Integral.sweep`: taking rows together with all they own keeps it whole.
* `Upkept.up`, `Upkept.down`: so do migrations and rolling them back.
* `integral_of_upkeep`: of every script of upkeep on a blank database, every state is whole; an
  insert that would leave it otherwise is refused and changes nothing; deleting an import takes
  the rows it owns and no others.
-/

namespace ImportTracking.Database

/-- The unique columns of a row, if its table has such columns beside the id. -/
def Record.columns? : Record → Option ((Int × Int) ⊕ String)
  | .batch b => some (.inl (b.trackerId, b.number))
  | .lease l => some (.inr l.key)
  | _ => none

/-- A database in which rows refer to rows and are told apart. -/
structure Integral (db : Database) : Prop where
  /-- Every foreign key names a row. -/
  parents : ∀ r ∈ db.records, ∀ k, r.parent? = some k → ∃ p ∈ db.records, p.key = k
  /-- No two rows of a table have one id. -/
  keys : (db.records.map Record.key).Nodup
  /-- No two rows of a table have the same unique columns. -/
  columns : (db.records.filterMap Record.columns?).Nodup
  /-- Every row is of a table that exists, and of an id that this table has used. -/
  numbered : ∀ r ∈ db.records, ∃ n, db.lastId? r.table = some n ∧ r.id ≤ n

variable {db db' : Database} {gone : Record → Prop} {r : Record}

theorem columns_records (db : Database) :
    db.records.filterMap Record.columns? =
      db.batchRows.map (fun b => .inl (b.trackerId, b.number)) ++
        db.leaseRows.map fun l => .inr l.key := by
  simp [records, List.filterMap_append, List.filterMap_map, Function.comp_def, Record.columns?]

namespace Integral

/-- No two batches of a tracker have one number. -/
theorem nodup_batches (h : db.Integral) :
    (db.batchRows.map fun b => (b.trackerId, b.number)).Nodup := by
  have hcolumns := columns_records db ▸ h.columns
  refine .of_map (Sum.inl : Int × Int → (Int × Int) ⊕ String) ?_
  simpa [List.map_map, Function.comp_def] using (List.nodup_append.mp hcolumns).1

/-- No two leases have one key. -/
theorem nodup_leases (h : db.Integral) : (db.leaseRows.map (·.key)).Nodup := by
  have hcolumns := columns_records db ▸ h.columns
  refine .of_map (Sum.inr : String → (Int × Int) ⊕ String) ?_
  simpa [List.map_map, Function.comp_def] using (List.nodup_append.mp hcolumns).2.1

/-- Taking rows together with all they own keeps a database whole. -/
theorem sweep (h : db.Integral) (hs : db.Sweeps gone db')
    (hlast : ∀ r ∈ db'.records, db'.lastId? r.table = db.lastId? r.table) : db'.Integral := by
  have hmem {r : Record} : r ∈ db'.records ↔ r ∈ db.records ∧ ¬ db.Swept gone r := by
    rw [hs, mem_without]
  have hsub : db'.records.Sublist db.records := by
    rw [hs]
    exact List.filter_sublist
  constructor
  case parents =>
    intro r hr k hk
    obtain ⟨hrec, hkept⟩ := hmem.mp hr
    obtain ⟨p, hp, rfl⟩ := h.parents r hrec k hk
    -- a parent that goes takes its children with it
    exact ⟨p, hmem.mpr ⟨hp, fun hsw => hkept (hsw.child ⟨hrec, hk⟩)⟩, rfl⟩
  case keys => exact (hsub.map _).nodup h.keys
  case columns => exact (hsub.filterMap _).nodup h.columns
  case numbered =>
    intro r hr
    obtain ⟨n, hn, hle⟩ := h.numbered r (hmem.mp hr).1
    exact ⟨n, (hlast r hr).trans hn, hle⟩

end Integral

/-! ### One more row -/

/-- The database with one more row. -/
def add (db : Database) : Record → Database
  | .bulkImport i => { db with imports := db.imports.map (·.insert i) }
  | .entity e => { db with entities := db.entities.map (·.insert e) }
  | .tracker t => { db with trackers := db.trackers.map (·.insert t) }
  | .failure f => db.addFailure f
  | .batch b => db.addBatch b
  | .lease l => { db with leases := db.leases.map (·.insert l) }

/-- There is one row more afterwards, where there is a table for it. -/
theorem perm_records_add (h : db.hasTable r.table = true) :
    (db.add r).records.Perm (r :: db.records) := by
  have hhere {Row : Type} [HasId Row] (c : Row → Record) {t : Option (Table Row)}
      (ht : t.isSome = true) (row : Row) :
      ((((t.map (·.insert row)).map Table.rows).getD []).map c).Perm
        (c row :: ((t.map Table.rows).getD []).map c) := by
    obtain ⟨t, rfl⟩ := Option.isSome_iff_exists.mp ht
    exact (Table.perm_place row t.rows).map c
  have hlater (before : List Record) {rows rows' : List Record} (hp : rows'.Perm (r :: rows)) :
      (before ++ rows').Perm (r :: (before ++ rows)) :=
    (hp.append_left before).trans List.perm_middle
  cases r with
  | bulkImport i => exact (hhere .bulkImport h i).append_right _
  | entity e => exact hlater _ ((hhere .entity h e).append_right _)
  | tracker t => exact hlater _ (hlater _ ((hhere .tracker h t).append_right _))
  | failure f => exact hlater _ (hlater _ (hlater _ ((hhere .failure h f).append_right _)))
  | batch b =>
      exact hlater _ (hlater _ (hlater _ (hlater _ ((hhere .batch h b).append_right _))))
  | lease l => exact hlater _ (hlater _ (hlater _ (hlater _ (hlater _ (hhere .lease h l)))))

theorem lastId?_add (db : Database) (r : Record) (name : TableName) :
    (db.add r).lastId? name =
      (db.lastId? name).map fun n => if name = r.table then max n r.id.toNat else n := by
  by_cases hname : name = r.table
  · subst hname
    have hinsert {Row : Type} [HasId Row] (t : Option (Table Row)) (row : Row) :
        (t.map (·.insert row)).map (·.lastId) =
          (t.map (·.lastId)).map fun n => max n (HasId.id row).toNat := by
      cases t <;> rfl
    simp only [if_true]
    cases r <;> exact hinsert _ _
  · simp only [if_neg hname, Option.map_id']
    cases r <;> cases name <;> first | rfl | exact absurd rfl hname

@[simp] theorem hasTable_add (db : Database) (r : Record) (name : TableName) :
    (db.add r).hasTable name = db.hasTable name := by
  rw [← isSome_lastId?, lastId?_add, Option.isSome_map, isSome_lastId?]

/-- The foreign key of a row names no row. -/
def Orphan (db : Database) (r : Record) : Prop :=
  ∃ k, r.parent? = some k ∧ ∀ p ∈ db.records, p.key ≠ k

theorem hasImport_iff {id : Int} :
    db.hasImport id = true ↔ ∃ p ∈ db.records, p.key = (.imports, id) := by
  simp [hasImport, records, Record.key, Record.table, Record.id, or_and_right, exists_or]

theorem hasEntity_iff {id : Int} :
    db.hasEntity id = true ↔ ∃ p ∈ db.records, p.key = (.entities, id) := by
  simp [hasEntity, records, Record.key, Record.table, Record.id, or_and_right, exists_or]

theorem hasTracker_iff {id : Int} :
    db.hasTracker id = true ↔ ∃ p ∈ db.records, p.key = (.trackers, id) := by
  simp [hasTracker, records, Record.key, Record.table, Record.id, or_and_right, exists_or]

/-- Another row has the unique columns of a row. -/
def Taken (db : Database) (r : Record) : Prop :=
  ∃ c, r.columns? = some c ∧ ∃ s ∈ db.records, s.columns? = some c

theorem not_orphan (h : r.parent? = none) : ¬ db.Orphan r := by simp [Orphan, h]

theorem orphan_iff {k : TableName × Int} (h : r.parent? = some k) :
    db.Orphan r ↔ ¬ ∃ p ∈ db.records, p.key = k := by
  simp [Orphan, h]

theorem not_taken (h : r.columns? = none) : ¬ db.Taken r := by simp [Taken, h]

theorem taken_batch_iff {b : Batch} :
    db.Taken (.batch b) ↔ db.batchRows.any (sameBatch b) = true := by
  simp [Taken, records, Record.columns?, sameBatch, or_and_right, exists_or, @eq_comm Int]

theorem taken_lease_iff {l : Lease.Row} :
    db.Taken (.lease l) ↔ db.leaseRows.any (·.key == l.key) = true := by
  simp [Taken, records, Record.columns?, or_and_right, exists_or]

/-- A new row keeps a database whole if it has a parent and is the only one of its id and unique
columns. -/
theorem integral_add_iff (h : db.Integral) (ht : db.hasTable r.table = true) :
    (db.add r).Integral ↔
      ¬ db.Orphan r ∧ ¬ db.Taken r ∧ ∀ s ∈ db.records, s.key ≠ r.key := by
  have hperm := perm_records_add ht
  have hmem {s : Record} : s ∈ (db.add r).records ↔ s = r ∨ s ∈ db.records := by
    rw [hperm.mem_iff, List.mem_cons]
  have hcolumns : ((db.add r).records.filterMap Record.columns?).Nodup ↔
      ((r :: db.records).filterMap Record.columns?).Nodup :=
    (hperm.filterMap _).nodup_iff
  have hkeys : ((db.add r).records.map Record.key).Nodup ↔
      (∀ s ∈ db.records, s.key ≠ r.key) := by
    rw [(hperm.map Record.key).nodup_iff, List.map_cons, List.nodup_cons, List.mem_map]
    simp [h.keys]
  constructor
  · intro hadd
    refine ⟨?_, ?_, hkeys.mp hadd.keys⟩
    · rintro ⟨k, hk, hno⟩
      obtain ⟨p, hp, rfl⟩ := hadd.parents r (hmem.mpr (.inl rfl)) k hk
      rcases hmem.mp hp with rfl | hp
      · exact Record.table_ne_of_parent? hk rfl
      · exact hno p hp rfl
    · rintro ⟨c, hc, s, hs, hsc⟩
      have hnodup := hcolumns.mp hadd.columns
      rw [List.filterMap_cons_some hc, List.nodup_cons] at hnodup
      exact hnodup.1 (List.mem_filterMap.mpr ⟨s, hs, hsc⟩)
  · rintro ⟨hparent, hfree, hid⟩
    constructor
    case parents =>
      intro s hs k hk
      rcases hmem.mp hs with rfl | hs
      · by_contra hno
        exact hparent ⟨k, hk, fun p hp hpk => hno ⟨p, hmem.mpr (.inr hp), hpk⟩⟩
      · obtain ⟨p, hp, hpk⟩ := h.parents s hs k hk
        exact ⟨p, hmem.mpr (.inr hp), hpk⟩
    case keys => exact hkeys.mpr hid
    case columns =>
      refine hcolumns.mpr ?_
      cases hc : r.columns? with
      | none => rw [List.filterMap_cons_none hc]; exact h.columns
      | some c =>
          rw [List.filterMap_cons_some hc, List.nodup_cons]
          refine ⟨fun hcmem => ?_, h.columns⟩
          obtain ⟨s, hs, hsc⟩ := List.mem_filterMap.mp hcmem
          exact hfree ⟨c, hc, s, hs, hsc⟩
    case numbered =>
      intro s hs
      rcases hmem.mp hs with rfl | hs
      · obtain ⟨n, hn⟩ := Option.isSome_iff_exists.mp ((isSome_lastId? db s.table).trans ht)
        refine ⟨max n s.id.toNat, by rw [lastId?_add, hn]; simp, ?_⟩
        omega
      · obtain ⟨n, hn, hle⟩ := h.numbered s hs
        refine ⟨_, by rw [lastId?_add, hn]; rfl, ?_⟩
        dsimp only
        split <;> omega

/-! ### Inserts -/

/-- The id that the next row of a table gets. -/
def nextId (db : Database) (table : TableName) : Int := (db.lastId? table).getD 0 + 1

/-- The next id is beyond all ids of a table. -/
theorem Integral.key_ne (h : db.Integral) (hid : r.id = db.nextId r.table) :
    ∀ s ∈ db.records, s.key ≠ r.key := by
  intro s hs heq
  obtain ⟨htable, hsid⟩ := Prod.ext_iff.mp heq
  obtain ⟨n, hn, hle⟩ := h.numbered s hs
  simp only [Record.key] at htable hsid
  rw [hid, nextId, ← htable, hn] at hsid
  simp only [Option.getD_some] at hsid
  omega

section
variable (db)

theorem insertImport_eq (ht : db.hasTable .imports = true) (row : Int → Import) :
    (db.insertImport none row).map (·.2) =
      .ok (db.add (.bulkImport (row (db.nextId .imports)))) := by
  obtain ⟨t, ht⟩ : ∃ t, db.imports = some t := Option.isSome_iff_exists.mp ht
  simp only [insertImport, add, nextId, lastId?, ht]
  rfl

theorem insertEntity_eq (ht : db.hasTable .entities = true) (row : Int → Entity) :
    (db.insertEntity none row).map (·.2) =
      if db.hasImport (row (db.nextId .entities)).importId then
        .ok (db.add (.entity (row (db.nextId .entities))))
      else .error Refusal.noParent.onWrite := by
  obtain ⟨t, ht⟩ : ∃ t, db.entities = some t := Option.isSome_iff_exists.mp ht
  have hid : db.nextId .entities = t.nextId := by simp [nextId, lastId?, ht, Table.nextId]
  rw [hid, insertEntity, ht]
  cases h : db.hasImport (row t.nextId).importId <;>
    simp [writable, chooseId, refuseUnless, h, bind, Except.bind, pure, Except.pure, Except.map,
      add, ht]

theorem insertTracker_eq (ht : db.hasTable .trackers = true) (row : Int → Tracker) :
    (db.insertTracker none row).map (·.2) =
      if db.hasEntity (row (db.nextId .trackers)).entityId then
        .ok (db.add (.tracker (row (db.nextId .trackers))))
      else .error Refusal.noParent.onWrite := by
  obtain ⟨t, ht⟩ : ∃ t, db.trackers = some t := Option.isSome_iff_exists.mp ht
  have hid : db.nextId .trackers = t.nextId := by simp [nextId, lastId?, ht, Table.nextId]
  rw [hid, insertTracker, ht]
  cases h : db.hasEntity (row t.nextId).entityId <;>
    simp [writable, chooseId, refuseUnless, h, bind, Except.bind, pure, Except.pure, Except.map,
      add, ht]

theorem insertFailure_eq (ht : db.hasTable .failures = true) (row : Int → Failure) :
    (db.insertFailure row).map (·.2) =
      if db.hasEntity (row (db.nextId .failures)).entityId then
        .ok (db.add (.failure (row (db.nextId .failures))))
      else .error Refusal.noParent.onWrite := by
  obtain ⟨t, ht⟩ : ∃ t, db.failures = some t := Option.isSome_iff_exists.mp ht
  have hid : db.nextId .failures = t.nextId := by simp [nextId, lastId?, ht, Table.nextId]
  rw [hid, insertFailure, ht]
  cases h : db.hasEntity (row t.nextId).entityId <;>
    simp [writable, refuseUnless, h, bind, Except.bind, pure, Except.pure, Except.map, add,
      addFailure, ht]

theorem insertBatch_eq (ht : db.hasTable .batches = true) (row : Int → Batch) :
    (db.insertBatch row).map (·.2) =
      if db.batchRows.any (sameBatch (row (db.nextId .batches))) then
        .error (Refusal.sameColumns .batches ["tracker_id", "batch_number"]).onWrite
      else if db.hasTracker (row (db.nextId .batches)).trackerId then
        .ok (db.add (.batch (row (db.nextId .batches))))
      else .error Refusal.noParent.onWrite := by
  obtain ⟨t, ht⟩ : ∃ t, db.batches = some t := Option.isSome_iff_exists.mp ht
  have hid : db.nextId .batches = t.nextId := by simp [nextId, lastId?, ht, Table.nextId]
  have hrows : db.batchRows = t.rows := by simp [batchRows, ht]
  rw [hid, hrows, insertBatch, ht]
  cases h : t.rows.any (sameBatch (row t.nextId)) <;>
    cases h' : db.hasTracker (row t.nextId).trackerId <;>
      simp [writable, refuseUnless, h, h', bind, Except.bind, pure, Except.pure, Except.map, add,
        addBatch, ht]

theorem insertLease_eq (ht : db.hasTable .leases = true) (row : Int → Lease.Row) :
    (db.insertLease row).map (·.2) =
      if db.leaseRows.any (·.key == (row (db.nextId .leases)).key) then
        .error (Refusal.sameColumns .leases ["lease_key"]).onWrite
      else .ok (db.add (.lease (row (db.nextId .leases)))) := by
  obtain ⟨t, ht⟩ : ∃ t, db.leases = some t := Option.isSome_iff_exists.mp ht
  have hid : db.nextId .leases = t.nextId := by simp [nextId, lastId?, ht, Table.nextId]
  have hrows : db.leaseRows = t.rows := by simp [leaseRows, ht]
  rw [hid, hrows, insertLease, ht]
  cases h : t.rows.any (·.key == (row t.nextId).key) <;>
    simp [writable, refuseUnless, h, bind, Except.bind, pure, Except.pure, Except.map, add, ht]

end

/-! ### Minimal rows -/

namespace Upkeep

/-- The row that an insert of upkeep would put into a table. -/
def minimal (db : Database) (table : TableName) (parent number : Int) : Record :=
  let id := db.nextId table
  let t := Timestamp.epoch
  match table with
  | .imports => .bulkImport ⟨id, filler, none, filler, t, t⟩
  | .entities => .entity ⟨id, parent, filler, filler, filler, t, t⟩
  | .trackers => .tracker ⟨id, parent, filler, 0, filler, false, none, none, t⟩
  | .failures => .failure ⟨id, parent, filler, filler, filler, filler, filler, t⟩
  | .batches => .batch ⟨id, parent, number, filler, t, t⟩
  | .leases => .lease ⟨id, "k" ++ toString number, filler, t, t⟩

variable {table : TableName} {parent number : Int}

@[simp] theorem table_minimal : (minimal db table parent number).table = table := by
  cases table <;> rfl

theorem id_minimal : (minimal db table parent number).id = db.nextId table := by
  cases table <;> rfl

theorem key_ne_minimal (h : db.Integral) :
    ∀ s ∈ db.records, s.key ≠ (minimal db table parent number).key :=
  h.key_ne (by rw [id_minimal, table_minimal])

/-- The columns of the unique index of a table. -/
def uniqueColumns (table : TableName) : List String :=
  (table.schema.indexes.filter (·.unique)).flatMap (·.columns)

open scoped Classical in
/-- An insert of upkeep puts its row into its table, unless it is not the only one of its unique
columns or has no parent. -/
theorem insertMinimal_eq (ht : db.hasTable table = true) :
    insertMinimal db table parent number =
      if db.Taken (minimal db table parent number) then
        .error (Refusal.sameColumns table (uniqueColumns table)).onWrite
      else if db.Orphan (minimal db table parent number) then .error Refusal.noParent.onWrite
      else .ok (db.add (minimal db table parent number)) := by
  cases table with
  | imports =>
      rw [if_neg (not_taken rfl), if_neg (not_orphan rfl)]
      exact db.insertImport_eq ht _
  | entities =>
      rw [if_neg (not_taken rfl)]
      simp only [orphan_iff (r := minimal db .entities parent number) rfl, ← hasImport_iff,
        ite_not]
      exact db.insertEntity_eq ht _
  | trackers =>
      rw [if_neg (not_taken rfl)]
      simp only [orphan_iff (r := minimal db .trackers parent number) rfl, ← hasEntity_iff,
        ite_not]
      exact db.insertTracker_eq ht _
  | failures =>
      rw [if_neg (not_taken rfl)]
      simp only [orphan_iff (r := minimal db .failures parent number) rfl, ← hasEntity_iff,
        ite_not]
      exact db.insertFailure_eq ht _
  | batches =>
      simp only [orphan_iff (r := minimal db .batches parent number) rfl, ← hasTracker_iff,
        ite_not]
      simp only [minimal, taken_batch_iff]
      exact db.insertBatch_eq ht _
  | leases =>
      rw [if_neg (show ¬ db.Orphan (minimal db .leases parent number) from not_orphan rfl)]
      simp only [minimal, taken_lease_iff]
      exact db.insertLease_eq ht _

end Upkeep

/-! ### Migrations -/

/-- The tables that exist are those of the migrations applied. -/
structure Laid (db : Database) : Prop where
  applied_le : db.applied ≤ Migration.all.length
  hasTable_iff : ∀ t, db.hasTable t = true ↔ ∃ m ∈ db.appliedMigrations, t ∈ m.creates

/-- What upkeep keeps of a database. -/
structure Upkept (db : Database) : Prop where
  integral : db.Integral
  laid : db.Laid

theorem records_createTable {name : TableName} (h : db.hasTable name = false) :
    (db.createTable name).records = db.records := by
  cases name <;>
    simp only [hasTable, Option.isSome_eq_false_iff, Option.isNone_iff_eq_none] at h <;>
    simp [createTable, records, importRows, entityRows, trackerRows, failureRows, batchRows,
      leaseRows, Table.empty, h]

theorem lastId?_createTable (db : Database) (name other : TableName) :
    (db.createTable name).lastId? other = if other = name then some 0 else db.lastId? other := by
  cases name <;> cases other <;> simp [createTable, lastId?, Table.empty]

theorem hasTable_createTable (db : Database) (name other : TableName) :
    (db.createTable name).hasTable other = (other == name || db.hasTable other) := by
  rw [← isSome_lastId?, lastId?_createTable, ← isSome_lastId?]
  split <;> simp_all

theorem hasTable_dropTable (db : Database) (name other : TableName) :
    (db.dropTable name).hasTable other = (other != name && db.hasTable other) := by
  rw [← isSome_lastId?, lastId?_dropTable, ← isSome_lastId?]
  split <;> simp_all

/-- A table that was not there brings no rows. -/
theorem Integral.createTable (h : db.Integral) {name : TableName}
    (hname : db.hasTable name = false) : (db.createTable name).Integral := by
  have hrecords := records_createTable hname
  constructor
  case parents => rw [hrecords]; exact h.parents
  case keys => rw [hrecords]; exact h.keys
  case columns => rw [hrecords]; exact h.columns
  case numbered =>
    intro r hr
    obtain ⟨n, hn, hle⟩ := h.numbered r (hrecords ▸ hr)
    refine ⟨n, ?_, hle⟩
    rw [lastId?_createTable, if_neg, hn]
    rintro rfl
    rw [← isSome_lastId?, hn] at hname
    cases hname

/-- A table that is dropped takes with it all that its rows own. -/
theorem Integral.dropTable (h : db.Integral) (name : TableName) : (db.dropTable name).Integral := by
  have hs := db.sweeps_dropTable name
  refine h.sweep hs fun r hr => ?_
  rw [lastId?_dropTable, if_neg]
  rw [hs, mem_without] at hr
  exact fun hname => hr.2 (.of_mem hr.1 hname)

/-- No two migrations create one table. -/
theorem creates_disjoint {before after : List Migration} {m : Migration}
    (h : Migration.all = before ++ m :: after) :
    m.creates.Nodup ∧ ∀ t ∈ m.creates, ∀ m' ∈ before, t ∉ m'.creates := by
  have hnodup : (Migration.all.flatMap (·.creates)).Nodup := by decide
  rw [h, List.flatMap_append, List.flatMap_cons] at hnodup
  obtain ⟨-, hm, hdisj⟩ := List.nodup_append'.mp hnodup
  refine ⟨(List.nodup_append.mp hm).1, fun t ht m' hm' ht' => ?_⟩
  exact hdisj (List.mem_flatMap.mpr ⟨m', hm', ht'⟩) (List.mem_append_left _ ht)

theorem hasTable_foldl_createTable (names : List TableName) (db : Database) (other : TableName) :
    (names.foldl createTable db).hasTable other = (names.contains other || db.hasTable other) := by
  induction names generalizing db with
  | nil => simp
  | cons name names ih =>
      rw [List.foldl_cons, ih, hasTable_createTable, List.contains_cons, Bool.or_left_comm,
        Bool.or_assoc]

theorem hasTable_foldl_dropTable (names : List TableName) (db : Database) (other : TableName) :
    (names.foldl dropTable db).hasTable other = (!names.contains other && db.hasTable other) := by
  induction names generalizing db with
  | nil => simp
  | cons name names ih =>
      rw [List.foldl_cons, ih, hasTable_dropTable, List.contains_cons, Bool.not_or,
        Bool.and_left_comm, Bool.and_assoc]
      rfl

/-- The integrity of a database is of its tables only. -/
theorem Integral.of_applied (h : db.Integral) (n : Nat) : Integral { db with applied := n } :=
  ⟨h.parents, h.keys, h.columns, h.numbered⟩

theorem Integral.foldl_createTable {names : List TableName} (h : db.Integral)
    (hnodup : names.Nodup) (hnew : ∀ name ∈ names, db.hasTable name = false) :
    (names.foldl Database.createTable db).Integral := by
  induction names generalizing db with
  | nil => exact h
  | cons name names ih =>
      obtain ⟨hname, hnodup⟩ := List.nodup_cons.mp hnodup
      refine ih (h.createTable (hnew name List.mem_cons_self)) hnodup fun other hother => ?_
      rw [hasTable_createTable, hnew other (List.mem_cons_of_mem _ hother), Bool.or_false,
        beq_eq_false_iff_ne]
      rintro rfl
      exact hname hother

theorem Integral.foldl_dropTable (names : List TableName) (h : db.Integral) :
    (names.foldl Database.dropTable db).Integral := by
  induction names generalizing db with
  | nil => exact h
  | cons name names ih => exact ih (h.dropTable name)

theorem Laid.length_appliedMigrations (h : db.Laid) :
    db.appliedMigrations.length = db.applied := by
  rw [appliedMigrations, List.length_take, Nat.min_eq_left h.applied_le]

namespace Upkept

/-- Applying the next migration. -/
theorem apply (h : db.Upkept) {m : Migration} {later : List Migration}
    (hm : db.pendingMigrations = m :: later) :
    (m.apply db).Upkept ∧ (m.apply db).pendingMigrations = later := by
  have hall : Migration.all = db.appliedMigrations ++ m :: later := by
    rw [← hm, appliedMigrations, pendingMigrations, List.take_append_drop]
  have hcount : (m.apply db).applied = db.appliedMigrations.length + 1 := by
    rw [applied_apply, h.laid.length_appliedMigrations]
  have happlied : (m.apply db).appliedMigrations = db.appliedMigrations ++ [m] := by
    rw [Database.appliedMigrations, hcount, hall]
    rw [List.take_append, List.take_of_length_le (Nat.le_succ _), Nat.add_sub_cancel_left]
    rfl
  have hpending : (m.apply db).pendingMigrations = later := by
    rw [pendingMigrations, hcount, hall]
    simp [List.drop_append]
  obtain ⟨hnodup, hdisjoint⟩ := creates_disjoint hall
  have hnew : ∀ t ∈ m.creates, db.hasTable t = false := by
    intro t ht
    by_contra hhas
    obtain ⟨m', hm', ht'⟩ := (h.laid.hasTable_iff t).mp (by simpa using hhas)
    exact hdisjoint t ht m' hm' ht'
  refine ⟨⟨(h.integral.foldl_createTable hnodup hnew).of_applied _, ?_, fun t => ?_⟩, hpending⟩
  · rw [hcount, hall]
    simp
  · have hhas : (m.apply db).hasTable t = (m.creates.contains t || db.hasTable t) :=
      hasTable_foldl_createTable m.creates db t
    rw [hhas, happlied, Bool.or_eq_true, h.laid.hasTable_iff]
    simp [or_and_right, exists_or, or_comm]

/-- Rolling the latest migration back. -/
theorem rollBack (h : db.Upkept) {m : Migration} {earlier : List Migration}
    (hm : db.appliedMigrations = earlier ++ [m]) :
    (m.rollBack db).Upkept ∧ (m.rollBack db).appliedMigrations = earlier := by
  have hlength : db.applied = earlier.length + 1 := by
    rw [← h.laid.length_appliedMigrations, hm, List.length_append, List.length_singleton]
  have hall : Migration.all = earlier ++ m :: db.pendingMigrations := by
    conv_lhs => rw [← List.take_append_drop db.applied Migration.all]
    rw [← Database.appliedMigrations, hm, List.append_assoc]
    rfl
  have hcount : (m.rollBack db).applied = earlier.length := by
    rw [applied_rollBack, hlength, Nat.add_sub_cancel]
  have happlied : (m.rollBack db).appliedMigrations = earlier := by
    rw [Database.appliedMigrations, hcount, hall, List.take_left]
  have hdisjoint := (creates_disjoint hall).2
  refine ⟨⟨(h.integral.foldl_dropTable m.creates.reverse).of_applied _, ?_, fun t => ?_⟩, happlied⟩
  · have := h.laid.applied_le
    omega
  · have hhas : (m.rollBack db).hasTable t =
        (!m.creates.reverse.contains t && db.hasTable t) :=
      hasTable_foldl_dropTable m.creates.reverse db t
    rw [hhas, happlied, Bool.and_eq_true, h.laid.hasTable_iff, hm]
    simp only [List.contains_eq_mem, List.mem_reverse, Bool.not_eq_true', decide_eq_false_iff_not,
      List.mem_append, List.mem_singleton]
    constructor
    · rintro ⟨hno, m', hm' | rfl, ht⟩
      · exact ⟨m', hm', ht⟩
      · exact absurd ht hno
    · rintro ⟨m', hm', ht⟩
      exact ⟨fun hmt => hdisjoint t hmt m' hm' ht, m', .inl hm', ht⟩

theorem foldl_apply {ms later : List Migration} (h : db.Upkept)
    (hms : db.pendingMigrations = ms ++ later) :
    (ms.foldl (fun db m => m.apply db) db).Upkept := by
  induction ms generalizing db with
  | nil => exact h
  | cons m ms ih =>
      obtain ⟨h', hms'⟩ := h.apply hms
      exact ih h' hms'

theorem foldl_rollBack {ms earlier : List Migration} (h : db.Upkept)
    (hms : db.appliedMigrations = earlier ++ ms.reverse) :
    (ms.foldl (fun db m => m.rollBack db) db).Upkept := by
  induction ms generalizing db with
  | nil => exact h
  | cons m ms ih =>
      rw [List.reverse_cons, ← List.append_assoc] at hms
      obtain ⟨h', hms'⟩ := h.rollBack hms
      exact ih h' hms'

theorem up (h : db.Upkept) (n : Option Nat) : (db.up n).Upkept :=
  h.foldl_apply (List.take_append_drop _ _).symm

theorem down (h : db.Upkept) (n : Option Nat) : (db.down n).Upkept := by
  let latest := db.appliedMigrations.reverse
  let count := n.getD latest.length
  have hlatest : db.appliedMigrations =
      (latest.drop count).reverse ++ (latest.take count).reverse := by
    rw [← List.reverse_append, List.take_append_drop, List.reverse_reverse]
  exact h.foldl_rollBack hlatest

theorem reset (h : db.Upkept) : db.reset.Upkept := (h.down none).up none

theorem blank : blank.Upkept where
  integral := by
    have hnone : Database.blank.records = [] := rfl
    constructor <;> simp [hnone]
  laid := ⟨by decide, fun t => by cases t <;> decide⟩

theorem add (h : db.Upkept) (ht : db.hasTable r.table = true) (hr : (db.add r).Integral) :
    (db.add r).Upkept where
  integral := hr
  laid := by
    have happlied : (db.add r).applied = db.applied := by cases r <;> rfl
    refine ⟨happlied ▸ h.laid.applied_le, fun t => ?_⟩
    rw [hasTable_add, appliedMigrations, happlied]
    exact h.laid.hasTable_iff t

theorem deleteWhere (h : db.Upkept) (g : Record → Bool) (name : TableName) :
    (db.deleteWhere g name).Upkept where
  integral := h.integral.sweep (db.sweeps_deleteWhere g name) fun r _ => by
    rw [lastId?_deleteWhere]
  laid := by
    have happlied : (db.deleteWhere g name).applied = db.applied := by cases name <;> rfl
    refine ⟨happlied ▸ h.laid.applied_le, fun t => ?_⟩
    rw [← isSome_lastId?, lastId?_deleteWhere, isSome_lastId?, appliedMigrations, happlied]
    exact h.laid.hasTable_iff t

end Upkept

/-! ### Upkeep -/

namespace Upkeep

variable {table : TableName} {parent number : Int}

theorem ofText?_text (table : TableName) : TableName.ofText? table.text = some table := by
  cases table <;> rfl

theorem insertMinimal_of_missing (ht : db.hasTable table = false) :
    insertMinimal db table parent number = .error (Refusal.noSuchTable table).onWrite := by
  cases table <;>
    simp only [hasTable, Option.isSome_eq_false_iff, Option.isNone_iff_eq_none] at ht <;>
    simp only [insertMinimal, insertImport, insertEntity, insertTracker, insertFailure,
      insertBatch, insertLease, ht] <;>
    rfl

/-- An insert is accepted exactly if the database is whole afterwards. -/
theorem insertMinimal_of_integral (h : db.Integral) (ht : db.hasTable table = true)
    (hr : (db.add (minimal db table parent number)).Integral) :
    insertMinimal db table parent number = .ok (db.add (minimal db table parent number)) := by
  obtain ⟨hparent, hfree, -⟩ := (integral_add_iff h (by rwa [table_minimal])).mp hr
  rw [insertMinimal_eq ht, if_neg hfree, if_neg hparent]

theorem insertMinimal_of_not_integral (h : db.Integral) (ht : db.hasTable table = true)
    (hr : ¬ (db.add (minimal db table parent number)).Integral) :
    insertMinimal db table parent number =
        .error (Refusal.sameColumns table (uniqueColumns table)).onWrite ∨
      insertMinimal db table parent number = .error Refusal.noParent.onWrite := by
  rw [insertMinimal_eq ht]
  split
  · exact .inl rfl
  · rename_i hfree
    split
    · exact .inr rfl
    · rename_i hparent
      exact absurd ((integral_add_iff h (by rwa [table_minimal])).mpr
        ⟨hparent, hfree, key_ne_minimal h⟩) hr

/-- What a step of upkeep keeps. -/
theorem upkept_step {s : Step} (h : db.Upkept) (hs : step db s = .ok db') : db'.Upkept := by
  cases s with
  | up n => cases hs; exact h.up n
  | down n => cases hs; exact h.down n
  | reset => cases hs; exact h.reset
  | insert name parent number =>
      simp only [step] at hs
      split at hs
      · rename_i table _
        cases ht : db.hasTable table with
        | false => rw [insertMinimal_of_missing ht] at hs; cases hs
        | true =>
            by_cases hr : (db.add (minimal db table parent number)).Integral
            · rw [insertMinimal_of_integral h.integral ht hr] at hs
              cases hs
              exact h.add (by rwa [table_minimal]) hr
            · rcases insertMinimal_of_not_integral h.integral ht hr with he | he <;>
                rw [he] at hs <;> cases hs
      · cases hs
  | delete name id =>
      simp only [step] at hs
      split at hs
      · rw [deleteRow_eq] at hs
        split at hs <;> cases hs
        exact h.deleteWhere _ _
      · cases hs

/-- The database after a script. -/
def after (db : Database) (steps : List Step) : Database :=
  steps.foldl (fun db s => (step db s).toOption.getD db) db

theorem after_concat (steps : List Step) (s : Step) (db : Database) :
    after db (steps ++ [s]) = (step (after db steps) s).toOption.getD (after db steps) :=
  List.foldl_concat ..

/-- What there is to see after one more step. -/
theorem run_concat (steps : List Step) (s : Step) (db : Database) :
    run (steps ++ [s]) db =
      run steps db ++ [⟨(step (after db steps) s).map fun _ => (), after db (steps ++ [s])⟩] := by
  induction steps generalizing db with
  | nil =>
      cases h : step db s <;> simp [run, after, h, Except.map, Except.toOption]
  | cons s' steps ih =>
      cases h : step db s' <;> simp [run, after, h, ih, Except.toOption]

theorem run_concat_of_ok {steps : List Step} {s : Step} (h : step (after db steps) s = .ok db') :
    run (steps ++ [s]) db = run steps db ++ [⟨.ok (), db'⟩] := by
  rw [run_concat, after_concat, h]
  rfl

theorem run_concat_of_error {steps : List Step} {s : Step} {e : Error}
    (h : step (after db steps) s = .error e) :
    run (steps ++ [s]) db = run steps db ++ [⟨.error e, after db steps⟩] := by
  rw [run_concat, after_concat, h]
  rfl

theorem step_insert (db : Database) (table : TableName) (parent number : Int) :
    step db (.insert table.text parent number) = insertMinimal db table parent number := by
  rw [step, ofText?_text]

/-- What a script of upkeep keeps. -/
theorem upkept_after (h : db.Upkept) (steps : List Step) : (after db steps).Upkept := by
  induction steps generalizing db with
  | nil => exact h
  | cons s steps ih =>
      show (after ((step db s).toOption.getD db) steps).Upkept
      refine ih ?_
      cases hs : step db s with
      | error e => exact h
      | ok db' => exact upkept_step h hs

/-- After every script of upkeep on a blank database the foreign keys name rows and the unique
columns tell rows apart.  An insert that would leave it otherwise is an error and changes nothing;
any other insert into a table that exists adds its row.  Deleting an import takes it and the rows
that it owns; every other row is still there, and so are all leases. -/
theorem integral_of_upkeep (steps : List Step) :
    let db := after blank steps
    (db.Integral ∧ (db.batchRows.map fun b => (b.trackerId, b.number)).Nodup ∧
        (db.leaseRows.map (·.key)).Nodup) ∧
      (∀ table parent number, db.hasTable table = true →
        let db' := db.add (minimal db table parent number)
        let seen := run (steps ++ [.insert table.text parent number]) blank
        (db'.Integral → seen = run steps blank ++ [⟨.ok (), db'⟩]) ∧
        (¬ db'.Integral → ∃ e, seen = run steps blank ++ [⟨.error e, db⟩])) ∧
      ∀ i ∈ db.importRows, ∃ db',
        run (steps ++ [.delete "bulk_imports" i.id]) blank = run steps blank ++ [⟨.ok (), db'⟩] ∧
        db'.records = db.without (fun r => r = .bulkImport i ∨ db.Owns (.bulkImport i) r) ∧
        db'.leases = db.leases ∧ db'.applied = db.applied := by
  intro db
  have hdb : db.Upkept := upkept_after .blank steps
  refine ⟨⟨hdb.integral, hdb.integral.nodup_batches, hdb.integral.nodup_leases⟩, ?_, ?_⟩
  · intro table parent number ht db' seen
    refine ⟨fun hr => ?_, fun hr => ?_⟩
    · refine run_concat_of_ok ?_
      rw [step_insert, insertMinimal_of_integral hdb.integral ht hr]
    · rcases insertMinimal_of_not_integral hdb.integral ht hr with he | he
      · exact ⟨_, run_concat_of_error ((step_insert _ _ _ _).trans he)⟩
      · exact ⟨_, run_concat_of_error ((step_insert _ _ _ _).trans he)⟩
  · intro i hi
    have hrec : .bulkImport i ∈ db.records := bulkImport_mem_records.mpr hi
    obtain ⟨n, hn, -⟩ := hdb.integral.numbered _ hrec
    have ht : db.hasTable .imports = true := by
      rw [← isSome_lastId?]
      exact Option.isSome_of_eq_some hn
    refine ⟨db.deleteWhere (·.id == i.id) .imports, run_concat_of_ok ?_, ?_, rfl, rfl⟩
    · exact (db.deleteRow_eq .imports i.id).trans (if_pos ht)
    · -- the key of the import is its own
      have hkey : ∀ r ∈ db.records, r.key = (.imports, i.id) ↔ r = .bulkImport i := fun r hr =>
        ⟨fun h => List.inj_on_of_nodup_map hdb.integral.keys hr hrec h, fun h => h ▸ rfl⟩
      have hs := (db.sweeps_deleteId .imports i.id).congr hkey
      rw [hs]
      exact without_congr fun r _ => swept_eq_iff hrec

/-- An import with an entity, a tracker and a batch of that, beside a lease: a second batch of one
number is refused, and deleting the import leaves the lease only. -/
theorem integral_of_upkeep_family :
    let steps : List Step :=
      [.up none, .insert "bulk_imports" 0 0, .insert "bulk_import_entities" 1 0,
        .insert "pipeline_trackers" 1 0, .insert "pipeline_batches" 1 7,
        .insert "pipeline_leases" 0 7]
    let db := after blank steps
    let i : Import := ⟨1, filler, none, filler, .epoch, .epoch⟩
    (db.hasTable .batches = true ∧ ¬ (db.add (minimal db .batches 1 7)).Integral ∧
        ∃ e, run (steps ++ [.insert "pipeline_batches" 1 7]) blank =
          run steps blank ++ [⟨.error e, db⟩]) ∧
      i ∈ db.importRows ∧
      ∃ db', run (steps ++ [.delete "bulk_imports" 1]) blank =
          run steps blank ++ [⟨.ok (), db'⟩] ∧
        db'.records = db.without (fun r => r = .bulkImport i ∨ db.Owns (.bulkImport i) r) ∧
        db'.leases = db.leases ∧ db'.applied = db.applied := by
  intro steps db i
  obtain ⟨-, hinsert, hdelete⟩ := integral_of_upkeep steps
  have ht : db.hasTable .batches = true := by decide +kernel
  have hdouble : ¬ (db.add (minimal db .batches 1 7)).Integral := fun h =>
    absurd h.nodup_batches (by decide +kernel)
  have hi : i ∈ db.importRows := by decide +kernel
  exact ⟨⟨ht, hdouble, (hinsert .batches 1 7 ht).2 hdouble⟩, hi, hdelete i hi⟩

end Upkeep

end ImportTracking.Database
