import ImportTracking.Database.Installation
import ImportTracking.Proofs.Integrity

/-!
# Scripts — statements that fit the catalog they meet

Whether a statement is refused depends on the catalog, and for a unique index on the rows too.  A
script *fits* a catalog when every statement of it fits the catalog that the statements before it
leave: what is created is not there yet, a unique index is made on a table that the script has just
created, and a table is dropped only when none is left that belongs to it.

* `run_script`: a script that fits is carried out, whatever rows there are, and what it does to the
  catalog has nothing to do with them.
* `gains_script`: one that only creates leaves every table as it is and adds empty ones.
* `loses_script`: one that only drops leaves every table as it is that it does not drop.  Dropping a
  table deletes the rows that belong to it, but there is no table left that could hold them.
* `eq_of_gains_of_loses`: what is created and dropped again has left no trace.
-/

namespace ImportTracking.Database

variable {db db' db'' : Database} {c : Catalog} {new : List TableName} {x : Change}
  {script : List Change} {t : TableName}

/-! ### What a statement does -/

/-- The catalog after a statement that is not refused. -/
def Catalog.alter (c : Catalog) : Change → Catalog
  | .createTable d => c.addTable d
  | .createIndex i => c.addIndex i
  | .dropTable t => c.drop t

/-- The database after a statement that is not refused. -/
def alter (db : Database) : Change → Database
  | .createTable d => db.createTable d.table
  | .createIndex _ => db
  | .dropTable t => db.dropTable t

@[simp] theorem applied_alter (db : Database) (x : Change) : (db.alter x).applied = db.applied := by
  cases x with
  | createTable d => exact applied_createTable db d.table
  | createIndex i => rfl
  | dropTable t => exact applied_dropTable db t

theorem applied_foldl_alter (script : List Change) (db : Database) :
    (script.foldl alter db).applied = db.applied := by
  induction script generalizing db with
  | nil => rfl
  | cons x script ih => rw [List.foldl_cons, ih, applied_alter]

/-- The tables that exist are those of the catalog. -/
def Catalog.Describes (c : Catalog) (db : Database) : Prop := ∀ t, db.hasTable t = c.hasTable t

theorem Catalog.Describes.alter (h : c.Describes db) (x : Change) :
    (c.alter x).Describes (db.alter x) := by
  intro t
  cases x with
  | createTable d =>
      show (db.createTable d.table).hasTable t = (c.addTable d).hasTable t
      rw [hasTable_createTable, Catalog.hasTable_addTable, h t, Bool.or_comm, BEq.comm]
  | createIndex i => exact h t
  | dropTable other =>
      show (db.dropTable other).hasTable t = (c.drop other).hasTable t
      rw [hasTable_dropTable, Catalog.hasTable_drop, h t]

theorem Catalog.Describes.foldl_alter (h : c.Describes db) (script : List Change) :
    (script.foldl Catalog.alter c).Describes (script.foldl Database.alter db) := by
  induction script generalizing c db with
  | nil => exact h
  | cons x script ih => exact ih (h.alter x)

/-! ### Fitting -/

/-- Whether the rows of a table belong to rows of another. -/
def TableName.belongsTo (child parent : TableName) : Bool :=
  child.schema.foreignKeys.any (·.parent == parent)

/-- The tables that a script has created since it last dropped one. -/
def Change.created (new : List TableName) : Change → List TableName
  | .createTable d => d.table :: new
  | .createIndex _ => new
  | .dropTable _ => []

/-- Whether a statement fits a catalog, after the tables `new` have been created. -/
def Catalog.admits (c : Catalog) (new : List TableName) : Change → Bool
  | .createTable d => !c.hasTable d.table
  | .createIndex i =>
    !c.hasIndex i.name && (c.table? i.table).any (fun d => i.columns.all d.hasColumn) &&
      (!i.unique || new.contains i.table)
  | .dropTable t =>
    c.hasTable t && TableName.all.all fun child => !(child.belongsTo t && c.hasTable child)

/-- Whether the statements of a script fit, one after another. -/
def Catalog.fits (c : Catalog) (new : List TableName) : List Change → Bool
  | [] => true
  | x :: rest => c.admits new x && (c.alter x).fits (x.created new) rest

theorem Catalog.fits_cons :
    c.fits new (x :: script) = true ↔
      c.admits new x = true ∧ (c.alter x).fits (x.created new) script = true :=
  Bool.and_eq_true_iff

/-- Tables without rows. -/
def Bare (db : Database) (new : List TableName) : Prop := ∀ t ∈ new, db.rowsOf t = []

theorem bare_nil (db : Database) : db.Bare [] := fun _ ht => absurd ht List.not_mem_nil

theorem rowsOf_createTable (db : Database) (name other : TableName) :
    (db.createTable name).rowsOf other = if other = name then [] else db.rowsOf other := by
  cases name <;> cases other <;> rfl

theorem Bare.alter (h : db.Bare new) (x : Change) : (db.alter x).Bare (x.created new) := by
  cases x with
  | createTable d =>
      intro t ht
      show (db.createTable d.table).rowsOf t = []
      rw [rowsOf_createTable]
      split
      · rfl
      · rename_i hne
        exact h t ((List.mem_cons.mp ht).resolve_left hne)
  | createIndex i => exact h
  | dropTable other => exact bare_nil _

theorem repeats_of_bare (h : db.Bare new) (ht : t ∈ new) (columns : List String) :
    db.repeats t columns = false := by
  simp [repeats, h t ht]

/-! ### Tables that come and go -/

/-- A relation between two databases, table by table. -/
structure Tablewise (R : ∀ {Row : Type}, Option (Table Row) → Option (Table Row) → Prop)
    (db db' : Database) : Prop where
  imports : R db.imports db'.imports
  entities : R db.entities db'.entities
  trackers : R db.trackers db'.trackers
  failures : R db.failures db'.failures
  batches : R db.batches db'.batches
  leases : R db.leases db'.leases

theorem Tablewise.refl {R : ∀ {Row : Type}, Option (Table Row) → Option (Table Row) → Prop}
    (hR : ∀ {Row : Type} (a : Option (Table Row)), R a a) (db : Database) : Tablewise R db db :=
  ⟨hR _, hR _, hR _, hR _, hR _, hR _⟩

theorem Tablewise.trans {R : ∀ {Row : Type}, Option (Table Row) → Option (Table Row) → Prop}
    (hR : ∀ {Row : Type} {a b c : Option (Table Row)}, R a b → R b c → R a c)
    (h : Tablewise R db db') (h' : Tablewise R db' db'') : Tablewise R db db'' where
  imports := hR h.imports h'.imports
  entities := hR h.entities h'.entities
  trackers := hR h.trackers h'.trackers
  failures := hR h.failures h'.failures
  batches := hR h.batches h'.batches
  leases := hR h.leases h'.leases

namespace Table

variable {Row : Type} {a b c : Option (Table Row)}

theorem eq_none (h : a.isSome = false) : a = none :=
  Option.isNone_iff_eq_none.mp (Option.isSome_eq_false_iff.mp h)

/-- A table is as it was, or was not there and is empty. -/
def Came {Row : Type} (before after : Option (Table Row)) : Prop :=
  after = before ∨ before = none ∧ after = some .empty

/-- A table is as it was, or gone. -/
def Went {Row : Type} (before after : Option (Table Row)) : Prop :=
  after = before ∨ after = none

theorem Came.trans (h : Came a b) (h' : Came b c) : Came a c := by
  rcases h with rfl | ⟨rfl, rfl⟩
  · exact h'
  · rcases h' with rfl | ⟨hb, -⟩
    · exact .inr ⟨rfl, rfl⟩
    · cases hb

theorem Went.trans (h : Went a b) (h' : Went b c) : Went a c := by
  rcases h' with rfl | rfl
  · exact h
  · exact .inr rfl

/-- A table that came and went is as it was. -/
theorem Came.went (h : Came a b) (h' : Went b c) (hc : c.isSome = a.isSome) : c = a := by
  rcases h' with rfl | rfl
  · rcases h with rfl | ⟨rfl, rfl⟩
    · rfl
    · cases hc
  · exact (eq_none hc.symm).symm

theorem came_of_isSome (ha : a.isSome = false) : Came a (some .empty) := .inr ⟨eq_none ha, rfl⟩

/-- A table that came is empty. -/
theorem Came.count (h : Came a b) (ha : a.isSome = false) (hb : b.isSome = true) :
    b.map (·.rows.length) = some 0 := by
  rcases h with rfl | ⟨-, rfl⟩
  · rw [ha] at hb
    cases hb
  · rfl

end Table

/-- Every table is as it was, or was not there and is empty. -/
def Gains : Database → Database → Prop := Tablewise Table.Came

/-- Every table is as it was, or gone. -/
def Loses : Database → Database → Prop := Tablewise Table.Went

theorem Gains.refl (db : Database) : db.Gains db := Tablewise.refl (fun _ => .inl rfl) db

theorem Loses.refl (db : Database) : db.Loses db := Tablewise.refl (fun _ => .inl rfl) db

theorem Gains.trans (h : db.Gains db') (h' : db'.Gains db'') : db.Gains db'' :=
  Tablewise.trans Table.Came.trans h h'

theorem Loses.trans (h : db.Loses db') (h' : db'.Loses db'') : db.Loses db'' :=
  Tablewise.trans Table.Went.trans h h'

/-- What is created and dropped again has left no trace. -/
theorem eq_of_gains_of_loses (h : db.Gains db') (h' : db'.Loses db'')
    (ht : ∀ t, db''.hasTable t = db.hasTable t) (ha : db''.applied = db.applied) : db'' = db := by
  have himports := h.imports.went h'.imports (ht .imports)
  have hentities := h.entities.went h'.entities (ht .entities)
  have htrackers := h.trackers.went h'.trackers (ht .trackers)
  have hfailures := h.failures.went h'.failures (ht .failures)
  have hbatches := h.batches.went h'.batches (ht .batches)
  have hleases := h.leases.went h'.leases (ht .leases)
  cases db
  cases db''
  simp_all

/-- A table that was not there is empty. -/
theorem Gains.rowCount? (h : db.Gains db') (ht : db.hasTable t = false)
    (ht' : db'.hasTable t = true) : db'.rowCount? t = some 0 := by
  cases t with
  | imports => exact h.imports.count ht ht'
  | entities => exact h.entities.count ht ht'
  | trackers => exact h.trackers.count ht ht'
  | failures => exact h.failures.count ht ht'
  | batches => exact h.batches.count ht ht'
  | leases => exact h.leases.count ht ht'

theorem gains_createTable (h : db.hasTable t = false) : db.Gains (db.createTable t) := by
  cases t with
  | imports => exact { Gains.refl db with imports := Table.came_of_isSome h }
  | entities => exact { Gains.refl db with entities := Table.came_of_isSome h }
  | trackers => exact { Gains.refl db with trackers := Table.came_of_isSome h }
  | failures => exact { Gains.refl db with failures := Table.came_of_isSome h }
  | batches => exact { Gains.refl db with batches := Table.came_of_isSome h }
  | leases => exact { Gains.refl db with leases := Table.came_of_isSome h }

theorem deleteBatches_of_none (h : db.batches = none) (gone : Batch → Bool) :
    db.deleteBatches gone = db := by
  cases db
  cases h
  rfl

theorem deleteFailures_of_none (h : db.failures = none) (gone : Failure → Bool) :
    db.deleteFailures gone = db := by
  cases db
  cases h
  rfl

/-- Where there are no trackers, there is none whose batches could go with it. -/
theorem deleteTrackers_of_none (h : db.trackers = none) (gone : Tracker → Bool) :
    db.deleteTrackers gone = db := by
  cases db
  cases h
  simp [deleteTrackers, deleteBatches, trackerRows, Table.filter]

theorem deleteEntities_of_none (h : db.entities = none) (gone : Entity → Bool) :
    db.deleteEntities gone = db := by
  cases db
  cases h
  simp [deleteEntities, deleteTrackers, deleteBatches, deleteFailures, entityRows, Table.filter]

/-- Dropping a table that no table belongs to leaves the others as they are. -/
theorem loses_dropTable (h : ∀ child, child.belongsTo t = true → db.hasTable child = false) :
    db.Loses (db.dropTable t) := by
  cases t with
  | imports =>
      have hentities := Table.eq_none (h .entities rfl)
      rw [dropTable, deleteImports, deleteEntities_of_none (by exact hentities)]
      exact { Loses.refl db with imports := .inr rfl }
  | entities =>
      have htrackers := Table.eq_none (h .trackers rfl)
      have hfailures := Table.eq_none (h .failures rfl)
      rw [dropTable, deleteEntities, deleteTrackers_of_none (by exact htrackers),
        deleteFailures_of_none (by exact hfailures)]
      exact { Loses.refl db with entities := .inr rfl }
  | trackers =>
      have hbatches := Table.eq_none (h .batches rfl)
      rw [dropTable, deleteTrackers, deleteBatches_of_none (by exact hbatches)]
      exact { Loses.refl db with trackers := .inr rfl }
  | failures => exact { Loses.refl db with failures := .inr rfl }
  | batches => exact { Loses.refl db with batches := .inr rfl }
  | leases => exact { Loses.refl db with leases := .inr rfl }

/-! ### Scripts -/

/-- Whether a statement drops a table. -/
def Change.drops : Change → Bool
  | .dropTable _ => true
  | _ => false

theorem gains_alter (hc : c.Describes db) (hx : c.admits new x = true) (hd : x.drops = false) :
    db.Gains (db.alter x) := by
  cases x with
  | createTable d =>
      refine gains_createTable ?_
      rw [hc d.table]
      exact (Bool.not_eq_true' _).mp hx
  | createIndex i => exact .refl db
  | dropTable t => cases hd

theorem loses_alter (hc : c.Describes db) (hx : c.admits new x = true) (hd : x.drops = true) :
    db.Loses (db.alter x) := by
  cases x with
  | createTable d => cases hd
  | createIndex i => cases hd
  | dropTable t =>
      refine loses_dropTable fun child hchild => ?_
      have hleft := List.all_eq_true.mp (Bool.and_eq_true_iff.mp hx).2 child
        (by cases child <;> decide)
      rw [hchild, Bool.true_and, Bool.not_eq_true'] at hleft
      rw [hc child, hleft]

/-- What every statement of a script does to the database, the script does. -/
theorem related_script {R : Database → Database → Prop} {p : Change → Prop}
    (hrefl : ∀ db, R db db) (htrans : ∀ {db db' db''}, R db db' → R db' db'' → R db db'')
    (hstep : ∀ {db : Database} {c : Catalog} {new : List TableName} {x : Change},
      c.Describes db → c.admits new x = true → p x → R db (db.alter x))
    (hc : c.Describes db) (hfits : c.fits new script = true) (hp : ∀ x ∈ script, p x) :
    R db (script.foldl alter db) := by
  induction script generalizing c db new with
  | nil => exact hrefl db
  | cons x script ih =>
      obtain ⟨hx, hrest⟩ := Catalog.fits_cons.mp hfits
      obtain ⟨hpx, hprest⟩ := List.forall_mem_cons.mp hp
      exact htrans (hstep hc hx hpx) (ih (hc.alter x) hrest hprest)

/-- A script that only creates leaves every table as it is, and adds empty ones. -/
theorem gains_script (hc : c.Describes db) (hfits : c.fits new script = true)
    (hd : ∀ x ∈ script, x.drops = false) : db.Gains (script.foldl alter db) :=
  related_script Gains.refl Gains.trans gains_alter hc hfits hd

/-- A script that only drops leaves every table as it is that it does not drop. -/
theorem loses_script (hc : c.Describes db) (hfits : c.fits new script = true)
    (hd : ∀ x ∈ script, x.drops = true) : db.Loses (script.foldl alter db) :=
  related_script Loses.refl Loses.trans loses_alter hc hfits hd

end ImportTracking.Database

namespace ImportTracking.Installation

open Database

variable {i i' : Installation} {p q : Procedure} {e : Error} {new : List TableName} {x : Change}
  {script : List Change}

/-! ### Procedures -/

theorem run_bind_ok (h : run p i = (.ok (), i')) : run (p >>= fun _ => q) i = run q i' := by
  have hp : p.run.run i = (.ok (), i') := h
  simp only [run, ExceptT.run_bind, StateT.run_bind, hp]
  rfl

theorem run_change (x : Change) (i : Installation) :
    run (change x) i =
      match i.changed x with
      | .ok i' => (.ok (), i')
      | .error e => (.error e, i) := by
  have hget : run (change x) i = run (match i.changed x with
      | .ok i' => set i'
      | .error e => throw e) i := rfl
  rw [hget]
  cases i.changed x <;> rfl

/-! ### Scripts -/

/-- The installation after a script of which no statement is refused. -/
def altered (i : Installation) (script : List Change) : Installation :=
  { i with
    database := script.foldl Database.alter i.database
    catalog := script.foldl Catalog.alter i.catalog }

theorem changed_of_admits (hb : i.database.Bare new) (hx : i.catalog.admits new x = true) :
    i.changed x = .ok (i.altered [x]) := by
  cases x with
  | createTable d =>
      have hnew : ¬ i.catalog.hasTable d.table = true := by simpa [Catalog.admits] using hx
      rw [changed, createTable, if_neg hnew]
      rfl
  | createIndex j =>
      obtain ⟨hx, hunique⟩ := Bool.and_eq_true_iff.mp hx
      obtain ⟨hname, hcolumns⟩ := Bool.and_eq_true_iff.mp hx
      have hfree : ¬ i.catalog.hasIndex j.name = true := by simpa using hname
      have hdistinct : ¬ (j.unique && i.database.repeats j.table j.columns) = true := by
        cases hu : j.unique with
        | false => simp
        | true =>
            have hnew : j.table ∈ new := by simpa [hu] using hunique
            simp [repeats_of_bare hb hnew]
      rw [changed, createIndex, if_neg hfree]
      cases hd : i.catalog.table? j.table with
      | none => simp [hd] at hcolumns
      | some d =>
          have hnone : (j.columns.find? fun name => !d.hasColumn name) = none := by
            simpa [hd] using hcolumns
          simp only [hnone, if_neg hdistinct]
          rfl
  | dropTable t =>
      rw [changed, dropTable, if_pos (Bool.and_eq_true_iff.mp hx).1]
      rfl

/-- **A script that fits** is carried out, whatever rows there are. -/
theorem run_script (hb : i.database.Bare new) (hfits : i.catalog.fits new script = true) :
    run (script.forM change) i = (.ok (), i.altered script) := by
  induction script generalizing i new with
  | nil => rfl
  | cons x script ih =>
      obtain ⟨hx, hrest⟩ := Catalog.fits_cons.mp hfits
      have hrun : run (change x) i = (.ok (), i.altered [x]) := by
        rw [run_change, changed_of_admits hb hx]
      show run (change x >>= fun _ => script.forM change) i = _
      rw [run_bind_ok hrun]
      exact ih (hb.alter x) hrest

end ImportTracking.Installation
