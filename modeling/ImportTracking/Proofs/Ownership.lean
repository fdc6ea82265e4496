import ImportTracking.Proofs.Rows
import Mathlib.Logic.Relation

/-!
# Ownership — which rows a row owns, and what a deletion takes with it

A row belongs to the row that its foreign key names, and is owned by that one and by all that own
it.  `Swept db gone` are the rows that go when those of `gone` go: these and all they own.
Deleting proceeds table by table, each time by the ids of the rows that went before; that this
takes the swept rows, no more and no fewer, is put together from three rules for `Sweeps`.

* `Sweeps.cons`: taking some rows, and then sweeping from the children they leave behind.
* `Sweeps.trans`: sweeping twice is sweeping once, from both.
* `sweeps_deleteId`: a deletion by id sweeps from the row of that id.
* `sweeps_dropTable`: dropping a table sweeps from all its rows.
-/

namespace ImportTracking.Database

open Relation (ReflTransGen TransGen)

/-- A row of any table. -/
inductive Record where
  | bulkImport (row : Import)
  | entity (row : Entity)
  | tracker (row : Tracker)
  | failure (row : Failure)
  | batch (row : Batch)
  | lease (row : Lease.Row)

namespace Record

/-- The table a row belongs in. -/
def table : Record → TableName
  | .bulkImport _ => .imports
  | .entity _ => .entities
  | .tracker _ => .trackers
  | .failure _ => .failures
  | .batch _ => .batches
  | .lease _ => .leases

def id : Record → Int
  | .bulkImport i => i.id
  | .entity e => e.id
  | .tracker t => t.id
  | .failure f => f.id
  | .batch b => b.id
  | .lease l => l.id

/-- The table and the id of a row. -/
def key (r : Record) : TableName × Int := (r.table, r.id)

/-- The key that the foreign key of a row names, if the row has one. -/
def parent? : Record → Option (TableName × Int)
  | .bulkImport _ => none
  | .entity e => some (.imports, e.importId)
  | .tracker t => some (.entities, t.entityId)
  | .failure f => some (.entities, f.entityId)
  | .batch b => some (.trackers, b.trackerId)
  | .lease _ => none

/-- No row names a row of its own table. -/
theorem table_ne_of_parent? {r : Record} {k : TableName × Int} (h : r.parent? = some k) :
    k.1 ≠ r.table := by
  cases r <;> simp only [parent?, Option.some.injEq, reduceCtorEq] at h <;> subst h <;>
    simp [table]

end Record

variable {db db₁ db₂ : Database} {gone gone₁ gone₂ : Record → Prop}

/-- All rows, table by table. -/
def records (db : Database) : List Record :=
  db.importRows.map .bulkImport ++ (db.entityRows.map .entity ++ (db.trackerRows.map .tracker ++
    (db.failureRows.map .failure ++ (db.batchRows.map .batch ++ db.leaseRows.map .lease))))

section
variable {i : Import} {e : Entity} {t : Tracker} {f : Failure} {b : Batch} {l : Lease.Row}

@[simp] theorem bulkImport_mem_records : .bulkImport i ∈ db.records ↔ i ∈ db.importRows := by
  simp [records]

@[simp] theorem entity_mem_records : .entity e ∈ db.records ↔ e ∈ db.entityRows := by
  simp [records]

@[simp] theorem tracker_mem_records : .tracker t ∈ db.records ↔ t ∈ db.trackerRows := by
  simp [records]

@[simp] theorem failure_mem_records : .failure f ∈ db.records ↔ f ∈ db.failureRows := by
  simp [records]

@[simp] theorem batch_mem_records : .batch b ∈ db.records ↔ b ∈ db.batchRows := by
  simp [records]

@[simp] theorem lease_mem_records : .lease l ∈ db.records ↔ l ∈ db.leaseRows := by
  simp [records]

end

/-! ### Owning -/

/-- A row belongs to another: its foreign key names it. -/
def Child (db : Database) (p r : Record) : Prop := r ∈ db.records ∧ r.parent? = some p.key

/-- A row owns its children and all that they own. -/
def Owns (db : Database) : Record → Record → Prop := TransGen db.Child

/-- The rows that go when some go: these, and all that they own. -/
def Swept (db : Database) (gone : Record → Prop) (r : Record) : Prop :=
  ∃ p ∈ db.records, gone p ∧ ReflTransGen db.Child p r

theorem Swept.of_mem {r : Record} (hr : r ∈ db.records) (h : gone r) : db.Swept gone r :=
  ⟨r, hr, h, .refl⟩

theorem Swept.child {s r : Record} (hs : db.Swept gone s) (h : db.Child s r) :
    db.Swept gone r := by
  obtain ⟨p, hp, hgone, hpath⟩ := hs
  exact ⟨p, hp, hgone, hpath.tail h⟩

/-- What holds of the rows that go, and of the children of a row of which it holds, holds of all
swept rows. -/
theorem Swept.induction {P : Record → Prop} {r : Record} (h : db.Swept gone r)
    (hgone : ∀ r ∈ db.records, gone r → P r)
    (hchild : ∀ s ∈ db.records, ∀ r, db.Child s r → P s → P r) : P r := by
  obtain ⟨p, hp, hg, hpath⟩ := h
  suffices r ∈ db.records ∧ P r from this.2
  induction hpath with
  | refl => exact ⟨hp, hgone p hp hg⟩
  | tail _ hsr ih => exact ⟨hsr.1, hchild _ ih.1 _ hsr ih.2⟩

/-- The rows swept from one row are that row and those it owns. -/
theorem swept_eq_iff {p r : Record} (hp : p ∈ db.records) :
    db.Swept (· = p) r ↔ r = p ∨ db.Owns p r := by
  constructor
  · rintro ⟨_, _, rfl, hpath⟩
    exact (Relation.reflTransGen_iff_eq_or_transGen.mp hpath)
  · intro h
    exact ⟨p, hp, rfl, Relation.reflTransGen_iff_eq_or_transGen.mpr h⟩

/-! ### Sweeping -/

open scoped Classical in
/-- The rows of a database in which some are no longer there. -/
noncomputable def without (db : Database) (gone : Record → Prop) : List Record :=
  db.records.filter fun r => ¬ gone r

@[simp] theorem mem_without {r : Record} : r ∈ db.without gone ↔ r ∈ db.records ∧ ¬ gone r := by
  simp [without]

theorem without_congr (h : ∀ r ∈ db.records, (gone₁ r ↔ gone₂ r)) :
    db.without gone₁ = db.without gone₂ :=
  List.filter_congr fun r hr => by simp [h r hr]

/-- Rows that are no longer there in two steps. -/
theorem without_without (h : db₁.records = db.without gone₁) :
    db₁.without gone₂ = db.without fun r => gone₁ r ∨ gone₂ r := by
  classical
  rw [without, h, without, without, List.filter_filter]
  refine List.filter_congr fun r _ => ?_
  rw [← Bool.decide_and]
  exact decide_eq_decide.mpr (and_comm.trans not_or.symm)

/-- Sweeping from some rows: of all others each is still there, in its place. -/
def Sweeps (db : Database) (gone : Record → Prop) (db' : Database) : Prop :=
  db'.records = db.without (db.Swept gone)

namespace Sweeps

/-- Where there is nothing to take, nothing is taken. -/
theorem refl (h : ∀ r ∈ db.records, ¬ gone r) (hrec : db₁.records = db.records) :
    db.Sweeps gone db₁ := by
  have hnone : ∀ r, ¬ db.Swept gone r := by
    rintro r ⟨p, hp, hg, -⟩
    exact h p hp hg
  simp [Sweeps, without, hnone, hrec]

theorem congr (hs : db.Sweeps gone₁ db₁) (h : ∀ r ∈ db.records, (gone₁ r ↔ gone₂ r)) :
    db.Sweeps gone₂ db₁ := by
  have hswept : db.Swept gone₁ = db.Swept gone₂ := by
    funext r
    refine propext (exists_congr fun p => and_congr_right fun hp => ?_)
    rw [h p hp]
  rwa [Sweeps, ← hswept]

/-- Taking some rows, and then sweeping from the children that they left behind. -/
theorem cons (h : db₁.records = db.without gone)
    (hs : db₁.Sweeps (fun r => ∃ p ∈ db.records, gone p ∧ r.parent? = some p.key) db₂) :
    db.Sweeps gone db₂ := by
  rw [Sweeps, hs, without_without h]
  refine without_congr fun r hr => ⟨?_, fun hsw => ?_⟩
  · rintro (hg | hsw)
    · exact .of_mem hr hg
    · refine hsw.induction (fun r hr => ?_) fun s _ r hsr hs => ?_
      · rintro ⟨p, hp, hg, hpar⟩
        exact (Swept.of_mem hp hg).child ⟨(mem_without.mp (h ▸ hr)).1, hpar⟩
      · exact hs.child ⟨(mem_without.mp (h ▸ hsr.1)).1, hsr.2⟩
  · -- on the way from a row that goes, what follows the last such row is swept afterwards
    refine hsw.induction (P := fun r => gone r ∨ db₁.Swept _ r) (fun r _ hg => .inl hg)
      fun s hs r ⟨hr, hpar⟩ ih => ?_
    by_cases hg : gone r
    · exact .inl hg
    have hr₁ : r ∈ db₁.records := h ▸ mem_without.mpr ⟨hr, hg⟩
    rcases ih with hgs | hsw
    · exact .inr (.of_mem hr₁ ⟨s, hs, hgs, hpar⟩)
    · exact .inr (hsw.child ⟨hr₁, hpar⟩)

/-- Sweeping twice is sweeping once, from both. -/
theorem trans (h₁ : db.Sweeps gone₁ db₁) (h₂ : db₁.Sweeps gone₂ db₂) :
    db.Sweeps (fun r => gone₁ r ∨ gone₂ r) db₂ := by
  rw [Sweeps, h₂, without_without h₁]
  refine without_congr fun r _ => ⟨?_, fun hsw => ?_⟩
  · rintro (hsw | hsw)
    · exact hsw.induction (fun r hr hg => .of_mem hr (.inl hg)) fun s _ r hsr hs => hs.child hsr
    · refine hsw.induction (fun r hr hg => ?_) fun s _ r hsr hs => ?_
      · exact .of_mem (mem_without.mp (h₁ ▸ hr)).1 (.inr hg)
      · exact hs.child ⟨(mem_without.mp (h₁ ▸ hsr.1)).1, hsr.2⟩
  · refine hsw.induction (P := fun r => db.Swept gone₁ r ∨ db₁.Swept gone₂ r)
      (fun r hr hg => ?_) fun s _ r hsr ih => ?_
    · by_cases hs : db.Swept gone₁ r
      · exact .inl hs
      · exact .inr (.of_mem (h₁ ▸ mem_without.mpr ⟨hr, hs⟩) (hg.resolve_left fun hg =>
          hs (.of_mem hr hg)))
    · by_cases hs : db.Swept gone₁ r
      · exact .inl hs
      · refine .inr ((ih.resolve_left fun h => hs (h.child hsr)).child ⟨?_, hsr.2⟩)
        exact h₁ ▸ mem_without.mpr ⟨hsr.1, hs⟩

/-- Taking rows that have no children. -/
theorem of_childless (h : db₁.records = db.without gone)
    (hno : ∀ p, gone p → ∀ r : Record, r.parent? ≠ some p.key) : db.Sweeps gone db₁ := by
  refine cons h (refl ?_ rfl)
  rintro r - ⟨p, -, hg, hpar⟩
  exact hno p hg r hpar

end Sweeps

/-! ### Rows taken out of one table -/

/-- What is left, table by table. -/
theorem without_eq (db : Database) (gone : Record → Prop) [DecidablePred gone] :
    db.without gone =
      (db.importRows.filter fun i => ¬ gone (.bulkImport i)).map .bulkImport ++
      ((db.entityRows.filter fun e => ¬ gone (.entity e)).map .entity ++
      ((db.trackerRows.filter fun t => ¬ gone (.tracker t)).map .tracker ++
      ((db.failureRows.filter fun f => ¬ gone (.failure f)).map .failure ++
      ((db.batchRows.filter fun b => ¬ gone (.batch b)).map .batch ++
        (db.leaseRows.filter fun l => ¬ gone (.lease l)).map .lease)))) := by
  simp only [without, records, List.filter_append, List.filter_map, Function.comp_def]
  congr!

section
variable (db : Database)

theorem records_takeImports (g : Import → Bool) :
    { db with imports := db.imports.map (Table.filter · fun i => !g i) }.records =
      db.without fun r => ∃ i, r = .bulkImport i ∧ g i = true := by
  classical
  rw [without_eq]
  cases h : db.imports <;>
    simp [records, importRows, entityRows, trackerRows, failureRows, batchRows, leaseRows,
      Table.filter, h]

theorem records_takeEntities (g : Entity → Bool) :
    { db with entities := db.entities.map (Table.filter · fun e => !g e) }.records =
      db.without fun r => ∃ e, r = .entity e ∧ g e = true := by
  classical
  rw [without_eq]
  cases h : db.entities <;>
    simp [records, importRows, entityRows, trackerRows, failureRows, batchRows, leaseRows,
      Table.filter, h]

theorem records_takeTrackers (g : Tracker → Bool) :
    { db with trackers := db.trackers.map (Table.filter · fun t => !g t) }.records =
      db.without fun r => ∃ t, r = .tracker t ∧ g t = true := by
  classical
  rw [without_eq]
  cases h : db.trackers <;>
    simp [records, importRows, entityRows, trackerRows, failureRows, batchRows, leaseRows,
      Table.filter, h]

theorem records_deleteFailures (g : Failure → Bool) :
    (db.deleteFailures g).records = db.without fun r => ∃ f, r = .failure f ∧ g f = true := by
  classical
  rw [without_eq]
  cases h : db.failures <;>
    simp [records, deleteFailures, importRows, entityRows, trackerRows, failureRows, batchRows,
      leaseRows, Table.filter, h]

theorem records_deleteBatches (g : Batch → Bool) :
    (db.deleteBatches g).records = db.without fun r => ∃ b, r = .batch b ∧ g b = true := by
  classical
  rw [without_eq]
  cases h : db.batches <;>
    simp [records, deleteBatches, importRows, entityRows, trackerRows, failureRows, batchRows,
      leaseRows, Table.filter, h]

theorem records_deleteLeases (g : Lease.Row → Bool) :
    (db.deleteLeases g).records = db.without fun r => ∃ l, r = .lease l ∧ g l = true := by
  classical
  rw [without_eq]
  cases h : db.leases <;>
    simp [records, deleteLeases, importRows, entityRows, trackerRows, failureRows, batchRows,
      leaseRows, Table.filter, h]

/-! ### Deletions -/

theorem sweeps_deleteFailures (g : Failure → Bool) :
    db.Sweeps (fun r => ∃ f, r = .failure f ∧ g f = true) (db.deleteFailures g) := by
  refine .of_childless (db.records_deleteFailures g) ?_
  rintro _ ⟨f, rfl, -⟩ r
  cases r <;> simp [Record.parent?, Record.key, Record.table]

theorem sweeps_deleteBatches (g : Batch → Bool) :
    db.Sweeps (fun r => ∃ b, r = .batch b ∧ g b = true) (db.deleteBatches g) := by
  refine .of_childless (db.records_deleteBatches g) ?_
  rintro _ ⟨b, rfl, -⟩ r
  cases r <;> simp [Record.parent?, Record.key, Record.table]

theorem sweeps_deleteLeases (g : Lease.Row → Bool) :
    db.Sweeps (fun r => ∃ l, r = .lease l ∧ g l = true) (db.deleteLeases g) := by
  refine .of_childless (db.records_deleteLeases g) ?_
  rintro _ ⟨l, rfl, -⟩ r
  cases r <;> simp [Record.parent?, Record.key, Record.table]

/-- Deleting trackers takes their batches. -/
theorem sweeps_deleteTrackers (g : Tracker → Bool) :
    db.Sweeps (fun r => ∃ t, r = .tracker t ∧ g t = true) (db.deleteTrackers g) := by
  refine .cons (db.records_takeTrackers g) ((sweeps_deleteBatches _ _).congr fun r _ => ?_)
  cases r <;> simp [Record.parent?, Record.key, Record.table, Record.id, and_assoc, @eq_comm Int]

/-- Deleting entities takes their trackers and failures. -/
theorem sweeps_deleteEntities (g : Entity → Bool) :
    db.Sweeps (fun r => ∃ e, r = .entity e ∧ g e = true) (db.deleteEntities g) := by
  refine .cons (db.records_takeEntities g)
    (((sweeps_deleteTrackers _ _).trans (sweeps_deleteFailures _ _)).congr fun r _ => ?_)
  cases r <;> simp [Record.parent?, Record.key, Record.table, Record.id, and_assoc, @eq_comm Int]

/-- Deleting imports takes their entities. -/
theorem sweeps_deleteImports (g : Import → Bool) :
    db.Sweeps (fun r => ∃ i, r = .bulkImport i ∧ g i = true) (db.deleteImports g) := by
  refine .cons (db.records_takeImports g) ((sweeps_deleteEntities _ _).congr fun r _ => ?_)
  cases r <;> simp [Record.parent?, Record.key, Record.table, Record.id, and_assoc, @eq_comm Int]

end

/-- The database after the deletion of some rows of one table. -/
def deleteWhere (db : Database) (g : Record → Bool) : TableName → Database
  | .imports => db.deleteImports fun i => g (.bulkImport i)
  | .entities => db.deleteEntities fun e => g (.entity e)
  | .trackers => db.deleteTrackers fun t => g (.tracker t)
  | .failures => db.deleteFailures fun f => g (.failure f)
  | .batches => db.deleteBatches fun b => g (.batch b)
  | .leases => db.deleteLeases fun l => g (.lease l)

theorem sweeps_deleteWhere (db : Database) (g : Record → Bool) (name : TableName) :
    db.Sweeps (fun r => r.table = name ∧ g r = true) (db.deleteWhere g name) := by
  cases name with
  | imports =>
      exact (db.sweeps_deleteImports _).congr fun r _ => by cases r <;> simp [Record.table]
  | entities =>
      exact (db.sweeps_deleteEntities _).congr fun r _ => by cases r <;> simp [Record.table]
  | trackers =>
      exact (db.sweeps_deleteTrackers _).congr fun r _ => by cases r <;> simp [Record.table]
  | failures =>
      exact (db.sweeps_deleteFailures _).congr fun r _ => by cases r <;> simp [Record.table]
  | batches =>
      exact (db.sweeps_deleteBatches _).congr fun r _ => by cases r <;> simp [Record.table]
  | leases =>
      exact (db.sweeps_deleteLeases _).congr fun r _ => by cases r <;> simp [Record.table]

/-- A deletion by id is refused only for want of the table. -/
theorem deleteRow_eq (db : Database) (name : TableName) (id : Int) :
    (db.deleteRow name id).map (·.2) =
      if db.hasTable name then .ok (db.deleteWhere (·.id == id) name)
      else .error (Refusal.noSuchTable name).onWrite := by
  have hbind {Row : Type} (t : Option (Table Row)) (count : Table Row → Nat) (db' : Database) :
      Except.map (·.2) (do
        let t ← writable name t
        return (count t, db') : Except Error (Nat × Database)) =
        if t.isSome then .ok db' else .error (Refusal.noSuchTable name).onWrite := by
    cases t <;> rfl
  cases name <;> exact hbind _ _ _

/-- Deleting the row of an id sweeps from that row. -/
theorem sweeps_deleteId (db : Database) (name : TableName) (id : Int) :
    db.Sweeps (fun r => r.key = (name, id)) (db.deleteWhere (·.id == id) name) :=
  (db.sweeps_deleteWhere _ name).congr fun r _ => by simp [Record.key]

/-- A table that is dropped has no rows left, and there are no others gone than with them. -/
theorem records_dropTable (db : Database) (name : TableName) :
    (db.dropTable name).records = (db.deleteWhere (fun _ => true) name).records := by
  have hempty {Row : Type} (t : Option (Table Row)) :
      ((t.map (Table.filter · fun _ => false)).map Table.rows).getD [] = [] := by
    cases t <;> simp [Table.filter]
  cases name <;>
    simp [dropTable, deleteWhere, deleteImports, deleteEntities, deleteTrackers, deleteFailures,
      deleteBatches, deleteLeases, records, importRows, entityRows, trackerRows, failureRows,
      batchRows, leaseRows, hempty, -Option.map_map]

/-- Dropping a table sweeps from all its rows. -/
theorem sweeps_dropTable (db : Database) (name : TableName) :
    db.Sweeps (fun r => r.table = name) (db.dropTable name) :=
  (db.records_dropTable name).trans ((db.sweeps_deleteWhere _ name).congr fun r _ => by simp)

/-! ### The tables themselves -/

/-- The largest id ever used in a table, if it exists. -/
def lastId? (db : Database) : TableName → Option Nat
  | .imports => db.imports.map (·.lastId)
  | .entities => db.entities.map (·.lastId)
  | .trackers => db.trackers.map (·.lastId)
  | .failures => db.failures.map (·.lastId)
  | .batches => db.batches.map (·.lastId)
  | .leases => db.leases.map (·.lastId)

theorem isSome_lastId? (db : Database) (name : TableName) :
    (db.lastId? name).isSome = db.hasTable name := by
  cases name <;> simp [lastId?, hasTable]

theorem map_lastId_filter {Row : Type} (t : Option (Table Row)) (p : Row → Bool) :
    (t.map (·.filter p)).map (·.lastId) = t.map (·.lastId) := by
  cases t <;> rfl

/-- Deletions leave the tables as such as they are. -/
@[simp] theorem lastId?_deleteWhere (db : Database) (g : Record → Bool) (name : TableName) :
    (db.deleteWhere g name).lastId? = db.lastId? := by
  funext other
  cases name <;> cases other <;> first | rfl | exact map_lastId_filter _ _

/-- Dropping a table leaves the others as they are. -/
theorem lastId?_dropTable (db : Database) (name other : TableName) :
    (db.dropTable name).lastId? other = if other = name then none else db.lastId? other := by
  by_cases hname : other = name
  · subst hname
    rw [if_pos rfl]
    cases other <;> rfl
  · -- another table is the same one, or has lost rows to the one that is dropped
    rw [if_neg hname]
    cases name <;> cases other <;>
      first | rfl | exact map_lastId_filter _ _ | exact absurd rfl hname

end ImportTracking.Database
