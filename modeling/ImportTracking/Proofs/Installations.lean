import ImportTracking.Proofs.Frame
import ImportTracking.Proofs.Scripts

/-!
# Installations — what the migrations make of a database, in any order of their steps

An installation *stands* after some of the revisions when they are the first ones, its history names
them, its catalog is the one their scripts make, and the tables that exist are those of the catalog.
Edits of rows change nothing of this, and a migration leads from one revision to the next: its
script fits the catalog there (`suits_all`), which says all about it.

* `Stands.run_apply`, `Stands.run_rollBack`: one revision, applied and rolled back.
* `Stands.run_up`, `Stands.run_down`: any number of them.
* `orderly_after`: whatever steps an installation has been through, no migration fails, the number
  of migrations applied says what it is made up of, and no row is lost but with its table.
* `script_eq_run`: the databases of an installation are those of `Upkeep.run`.
-/

namespace ImportTracking.Database

variable {c : Catalog} {r : Revision} {done todo : List Revision}

/-! ### Revisions that fit -/

/-- The catalog after one more revision. -/
def Catalog.revised (c : Catalog) (r : Revision) : Catalog := r.up.foldl alter c

/-- The catalog after so many revisions. -/
def Catalog.after (n : Nat) : Catalog := (Revision.all.take n).foldl revised {}

/-- The scripts of a revision fit a catalog, and rolling it back leads to that catalog again. -/
structure Revision.Fits (r : Revision) (c : Catalog) : Prop where
  up : c.fits [] r.up = true
  creates : ∀ x ∈ r.up, x.drops = false
  down : (c.revised r).fits [] r.down = true
  drops : ∀ x ∈ r.down, x.drops = true
  undone : r.down.foldl Catalog.alter (c.revised r) = c

/-- Revisions that fit the catalogs they meet. -/
def Catalog.Suits (c : Catalog) : List Revision → Prop
  | [] => True
  | r :: rest => r.Fits c ∧ (c.revised r).Suits rest

theorem Catalog.Suits.fits (h : c.Suits (done ++ r :: todo)) : r.Fits (done.foldl revised c) := by
  induction done generalizing c with
  | nil => exact h.1
  | cons r' done ih => exact ih h.2

theorem suits_all : ({} : Catalog).Suits Revision.all := by
  refine ⟨?_, ?_, ?_, trivial⟩
  all_goals exact ⟨by decide, by decide, by decide, by decide, by decide⟩

/-- No two revisions have one name. -/
theorem nodup_names : (Revision.all.map (·.name)).Nodup := by decide

/-- A table that exists has the columns, the indexes and the foreign keys of its name. -/
theorem schema?_after (n : Nat) (t : TableName) :
    (Catalog.after n).schema? t =
      if (Catalog.after n).hasTable t then some t.schema else none := by
  match n with
  | 0 | 1 | 2 => cases t <;> decide
  | n + 3 =>
    have hall : Catalog.after (n + 3) = Catalog.after 3 := by
      rw [Catalog.after, List.take_of_length_le (Nat.le_add_left 3 n)]
      rfl
    rw [hall]
    cases t <;> decide

/-! ### Edits -/

theorem ok_of_map {α β : Type} {a : Except Error α} {f : α → β} {y : β}
    (h : a.map f = .ok y) : ∃ x, a = .ok x ∧ f x = y := by
  cases a with
  | error e => cases h
  | ok x => exact ⟨x, rfl, Except.ok.inj h⟩

/-- An edit that is made adds a row, or deletes rows. -/
theorem Edit.run_ok {e : Edit} {db db' : Database} (h : e.run db = .ok db') :
    (∃ r, db' = db.add r) ∨ ∃ g name, db' = db.deleteWhere g name := by
  cases e with
  | insertImport asked row =>
      obtain ⟨_, hi, rfl⟩ := ok_of_map h
      obtain ⟨t, ht, hi⟩ := ok_of_bind hi
      obtain ⟨id, -, hi⟩ := ok_of_bind hi
      cases hi
      exact .inl ⟨.bulkImport (row id), by rw [add, eq_some_of_writable ht]; rfl⟩
  | insertEntity asked row =>
      obtain ⟨_, hi, rfl⟩ := ok_of_map h
      obtain ⟨t, ht, hi⟩ := ok_of_bind hi
      obtain ⟨id, -, hi⟩ := ok_of_bind hi
      obtain ⟨-, -, hi⟩ := ok_of_bind hi
      cases hi
      exact .inl ⟨.entity (row id), by rw [add, eq_some_of_writable ht]; rfl⟩
  | insertTracker asked row =>
      obtain ⟨_, hi, rfl⟩ := ok_of_map h
      obtain ⟨t, ht, hi⟩ := ok_of_bind hi
      obtain ⟨id, -, hi⟩ := ok_of_bind hi
      obtain ⟨-, -, hi⟩ := ok_of_bind hi
      cases hi
      exact .inl ⟨.tracker (row id), by rw [add, eq_some_of_writable ht]; rfl⟩
  | insertFailure row =>
      obtain ⟨_, hi, rfl⟩ := ok_of_map h
      obtain ⟨t, id, ht, hdb⟩ := insertFailure_ok hi
      exact .inl ⟨.failure (row id), by rw [hdb, add, addFailure, ht]; rfl⟩
  | insertBatch row =>
      obtain ⟨⟨b, _⟩, hi, rfl⟩ := ok_of_map h
      obtain ⟨t, ht, rfl⟩ := insertBatch_ok hi
      exact .inl ⟨.batch b, by rw [add, addBatch, ht]; rfl⟩
  | insertLease row =>
      obtain ⟨⟨l, _⟩, hi, rfl⟩ := ok_of_map h
      obtain ⟨t, ht, rfl⟩ := insertLease_ok hi
      exact .inl ⟨.lease l, by rw [add, ht]; rfl⟩
  | delete name id =>
      rw [run, deleteRow_eq] at h
      split at h <;> cases h
      exact .inr ⟨_, name, rfl⟩

/-- No edit creates or drops a table. -/
theorem Edit.keeps {e : Edit} {db db' : Database} (h : e.run db = .ok db') :
    (∀ t, db'.hasTable t = db.hasTable t) ∧ db'.applied = db.applied := by
  obtain ⟨r, rfl⟩ | ⟨g, name, rfl⟩ := run_ok h
  · exact ⟨hasTable_add db r, by cases r <;> rfl⟩
  · refine ⟨fun t => ?_, by cases name <;> rfl⟩
    rw [← isSome_lastId?, lastId?_deleteWhere, isSome_lastId?]

end ImportTracking.Database

namespace ImportTracking.Installation

open Database

variable {i i' : Installation} {r : Revision} {rs done todo earlier later : List Revision}

/-! ### What the migrations do -/

/-- The installation after a revision that was applied. -/
def advance (i : Installation) (r : Revision) : Installation := (i.altered r.up).record r.name

/-- The installation after a revision that was rolled back. -/
def retreat (i : Installation) (r : Revision) : Installation := (i.altered r.down).forget r.name

/-- A revision does to the database what its migration does. -/
theorem database_advance (r : Revision) (hr : r ∈ Revision.all) (i : Installation) :
    (i.advance r).database = r.migration.apply i.database := by
  simp only [Revision.all, List.mem_cons, List.not_mem_nil, or_false] at hr
  rcases hr with rfl | rfl | rfl <;> rfl

theorem database_retreat (r : Revision) (hr : r ∈ Revision.all) (i : Installation) :
    (i.retreat r).database = r.migration.rollBack i.database := by
  simp only [Revision.all, List.mem_cons, List.not_mem_nil, or_false] at hr
  rcases hr with rfl | rfl | rfl <;> rfl

/-- What every revision does to the database, a list of them does. -/
theorem database_foldl {f : Installation → Revision → Installation}
    {g : Migration → Database → Database}
    (hfg : ∀ r ∈ Revision.all, ∀ i, (f i r).database = g r.migration i.database)
    (hrs : ∀ r ∈ rs, r ∈ Revision.all) (i : Installation) :
    (rs.foldl f i).database =
      (rs.map (·.migration)).foldl (fun db m => g m db) i.database := by
  induction rs generalizing i with
  | nil => rfl
  | cons r rs ih =>
      obtain ⟨hr, hrs⟩ := List.forall_mem_cons.mp hrs
      rw [List.foldl_cons, ih hrs, hfg r hr, List.map_cons, List.foldl_cons]

/-- The revisions that are applied are the first ones, and the installation is what they make. -/
structure Stands (i : Installation) (done todo : List Revision) : Prop where
  order : Revision.all = done ++ todo
  history : i.history = done.map (·.name)
  catalog : i.catalog = done.foldl Catalog.revised {}
  applied : i.database.applied = done.length
  described : i.catalog.Describes i.database

namespace Stands

theorem blank : ({} : Installation).Stands [] Revision.all where
  order := rfl
  history := rfl
  catalog := rfl
  applied := rfl
  described t := by cases t <;> rfl

theorem fits (h : i.Stands done (r :: todo)) : r.Fits i.catalog := by
  have hsuits : ({} : Catalog).Suits (done ++ r :: todo) := h.order ▸ suits_all
  rw [h.catalog]
  exact hsuits.fits

theorem catalog_eq (h : i.Stands done todo) : i.catalog = Catalog.after i.history.length := by
  rw [h.catalog, Catalog.after, h.history, List.length_map, h.order, List.take_left]

/-- What stands at the same place differs in its rows only. -/
theorem eq_of_database (h : i.Stands done todo) (h' : i'.Stands done todo)
    (hdb : i'.database = i.database) : i' = i := by
  have hcatalog := h'.catalog.trans h.catalog.symm
  have hhistory := h'.history.trans h.history.symm
  cases i
  cases i'
  simp_all

/-! ### One revision -/

theorem run_apply (h : i.Stands done (r :: todo)) : run (apply r) i = (.ok (), i.advance r) := by
  show run (r.up.forM change >>= fun _ => modify fun i => i.record r.name) i = _
  rw [run_bind_ok (run_script (bare_nil _) h.fits.up)]
  rfl

theorem advance (h : i.Stands done (r :: todo)) : (i.advance r).Stands (done ++ [r]) todo where
  order := by rw [h.order, List.append_assoc, List.singleton_append]
  history := by
    show i.history ++ [r.name] = _
    rw [h.history, List.map_append, List.map_singleton]
  catalog := by
    show i.catalog.revised r = _
    rw [h.catalog, List.foldl_concat]
  applied := by
    show (r.up.foldl alter i.database).applied + 1 = _
    rw [applied_foldl_alter, h.applied, List.length_append, List.length_singleton]
  described := h.described.foldl_alter r.up

theorem gains (h : i.Stands done (r :: todo)) : i.database.Gains (i.advance r).database := by
  -- that it was applied is noted beside the tables
  have hg := gains_script h.described h.fits.up h.fits.creates
  exact ⟨hg.imports, hg.entities, hg.trackers, hg.failures, hg.batches, hg.leases⟩

/-- The last revision fits the catalog without it. -/
theorem fits_last (h : i.Stands (done ++ [r]) todo) :
    r.Fits (done.foldl Catalog.revised {}) ∧
      i.catalog = (done.foldl Catalog.revised {}).revised r := by
  have hsuits : ({} : Catalog).Suits (done ++ r :: todo) := by
    rw [← List.singleton_append, ← List.append_assoc, ← h.order]
    exact suits_all
  exact ⟨hsuits.fits, by rw [h.catalog, List.foldl_concat]⟩

theorem run_rollBack (h : i.Stands (done ++ [r]) todo) :
    run (rollBack r) i = (.ok (), i.retreat r) := by
  obtain ⟨hfits, hcatalog⟩ := h.fits_last
  show run (r.down.forM change >>= fun _ => modify fun i => i.forget r.name) i = _
  rw [run_bind_ok (run_script (bare_nil _) (hcatalog ▸ hfits.down))]
  rfl

theorem retreat (h : i.Stands (done ++ [r]) todo) : (i.retreat r).Stands done (r :: todo) where
  order := by rw [h.order, List.append_assoc, List.singleton_append]
  history := by
    have hnames := nodup_names
    rw [h.order, List.map_append, List.map_append] at hnames
    -- no earlier revision has its name
    have hother : ∀ name ∈ done.map (·.name), name ≠ r.name := by
      intro name hname
      exact (List.nodup_append.mp (List.nodup_append.mp hnames).1).2.2 name hname r.name
        List.mem_cons_self
    show i.history.filter (· != r.name) = _
    rw [h.history, List.map_append, List.filter_append,
      List.filter_eq_self.mpr fun name hname => bne_iff_ne.mpr (hother name hname)]
    simp
  catalog := by
    obtain ⟨hfits, hcatalog⟩ := h.fits_last
    show r.down.foldl Catalog.alter i.catalog = _
    rw [hcatalog, hfits.undone]
  applied := by
    show (r.down.foldl alter i.database).applied - 1 = _
    rw [applied_foldl_alter, h.applied, List.length_append, List.length_singleton,
      Nat.add_sub_cancel]
  described := h.described.foldl_alter r.down

theorem loses (h : i.Stands (done ++ [r]) todo) : i.database.Loses (i.retreat r).database := by
  obtain ⟨hfits, hcatalog⟩ := h.fits_last
  have hl := loses_script h.described (hcatalog ▸ hfits.down) hfits.drops
  exact ⟨hl.imports, hl.entities, hl.trackers, hl.failures, hl.batches, hl.leases⟩

/-! ### Any number of them -/

theorem run_forM_apply (h : i.Stands done (rs ++ later)) :
    run (rs.forM apply) i = (.ok (), rs.foldl Installation.advance i) ∧
      (rs.foldl Installation.advance i).Stands (done ++ rs) later ∧
      i.database.Gains (rs.foldl Installation.advance i).database := by
  induction rs generalizing i done with
  | nil => exact ⟨rfl, (List.append_nil done).symm ▸ h, .refl _⟩
  | cons r rs ih =>
      obtain ⟨hrun, hstands, hgains⟩ := ih h.advance
      refine ⟨?_, ?_, h.gains.trans hgains⟩
      · show run (apply r >>= fun _ => rs.forM apply) i = _
        rw [run_bind_ok h.run_apply, hrun, List.foldl_cons]
      · rwa [List.append_assoc] at hstands

theorem run_forM_rollBack (h : i.Stands (earlier ++ rs.reverse) todo) :
    run (rs.forM rollBack) i = (.ok (), rs.foldl Installation.retreat i) ∧
      (rs.foldl Installation.retreat i).Stands earlier (rs.reverse ++ todo) ∧
      i.database.Loses (rs.foldl Installation.retreat i).database := by
  induction rs generalizing i todo with
  | nil => exact ⟨rfl, List.append_nil earlier ▸ h, .refl _⟩
  | cons r rs ih =>
      rw [List.reverse_cons, ← List.append_assoc] at h
      obtain ⟨hrun, hstands, hloses⟩ := ih h.retreat
      refine ⟨?_, ?_, h.loses.trans hloses⟩
      · show run (rollBack r >>= fun _ => rs.forM rollBack) i = _
        rw [run_bind_ok h.run_rollBack, hrun, List.foldl_cons]
      · rwa [List.reverse_cons, List.append_assoc, List.singleton_append]

/-- The history tells what is applied from what is not. -/
theorem contains_history (h : i.Stands done todo) :
    (∀ r ∈ done, i.history.contains r.name = true) ∧
      ∀ r ∈ todo, i.history.contains r.name = false := by
  have hnames := nodup_names
  rw [h.order, List.map_append] at hnames
  rw [h.history]
  refine ⟨fun r hr => List.contains_iff_mem.mpr (List.mem_map_of_mem hr), fun r hr => ?_⟩
  refine Bool.eq_false_iff.mpr fun hcontains => ?_
  exact (List.nodup_append.mp hnames).2.2 r.name (List.contains_iff_mem.mp hcontains) r.name
    (List.mem_map_of_mem hr) rfl

theorem applied_eq (h : i.Stands done todo) : i.applied = done := by
  obtain ⟨hdone, htodo⟩ := h.contains_history
  rw [Installation.applied, h.order, List.filter_append, List.filter_eq_self.mpr hdone,
    List.filter_eq_nil_iff.mpr fun r hr => Bool.eq_false_iff.mp (htodo r hr), List.append_nil]

theorem pending_eq (h : i.Stands done todo) : i.pending = todo := by
  obtain ⟨hdone, htodo⟩ := h.contains_history
  rw [pending, h.order, List.filter_append,
    List.filter_eq_nil_iff.mpr fun r hr => by rw [hdone r hr]; decide,
    List.filter_eq_self.mpr fun r hr => by rw [htodo r hr]; decide, List.nil_append]

theorem appliedMigrations_eq (h : i.Stands done todo) :
    i.database.appliedMigrations = done.map (·.migration) := by
  rw [appliedMigrations, h.applied, ← Revision.all_eq, h.order, List.map_append,
    ← List.length_map (f := Revision.migration), List.take_left]

theorem pendingMigrations_eq (h : i.Stands done todo) :
    i.database.pendingMigrations = todo.map (·.migration) := by
  rw [pendingMigrations, h.applied, ← Revision.all_eq, h.order, List.map_append,
    ← List.length_map (f := Revision.migration), List.drop_left]

theorem run_checkHistory (h : i.Stands done todo) : run checkHistory i = (.ok (), i) := by
  have hunknown : i.unknown = [] := by
    rw [unknown, h.history, List.filter_eq_nil_iff]
    intro name hname
    obtain ⟨r, hr, rfl⟩ := List.mem_map.mp hname
    have hall : r ∈ Revision.all := h.order ▸ List.mem_append_left todo hr
    simpa using ⟨r, hall, rfl⟩
  show run (if !i.unknown.isEmpty then throw _ else pure ()) i = _
  rw [hunknown]
  rfl

theorem run_up (h : i.Stands done todo) (n : Option Nat) :
    run (up n) i = run ((todo.take (n.getD todo.length)).forM apply) i := by
  have hup : run (up n) i = run ((i.pending.take (n.getD i.pending.length)).forM apply) i :=
    run_bind_ok h.run_checkHistory
  rw [hup, h.pending_eq]

theorem run_down (h : i.Stands done todo) (n : Option Nat) :
    run (down n) i = run ((done.reverse.take (n.getD done.length)).forM rollBack) i := by
  have hdown : run (down n) i =
      run ((i.applied.reverse.take (n.getD i.applied.reverse.length)).forM rollBack) i :=
    run_bind_ok h.run_checkHistory
  rw [hdown, h.applied_eq, List.length_reverse]

end Stands

/-! ### Steps -/

/-- The installation after some steps, on a database without tables. -/
def after (steps : List Step) : Installation := steps.foldl (fun i s => (i.perform s).2) {}

namespace Stands

/-- Applying the next revisions. -/
theorem up (h : i.Stands done todo) (n : Option Nat) :
    let k := n.getD todo.length
    ∃ i', run (up n) i = (.ok (), i') ∧ i'.Stands (done ++ todo.take k) (todo.drop k) ∧
      i.database.Gains i'.database ∧ i'.database = i.database.up n := by
  intro k
  have hk : i.Stands done (todo.take k ++ todo.drop k) := by rwa [List.take_append_drop]
  have hall : ∀ r ∈ todo.take k, r ∈ Revision.all := fun r hr =>
    h.order ▸ List.mem_append_right done (List.mem_of_mem_take hr)
  obtain ⟨hrun, hstands, hgains⟩ := hk.run_forM_apply
  refine ⟨_, (h.run_up n).trans hrun, hstands, hgains, ?_⟩
  rw [database_foldl database_advance hall, Database.up, h.pendingMigrations_eq, List.length_map,
    List.map_take]

/-- Rolling the last revisions back. -/
theorem down (h : i.Stands done todo) (n : Option Nat) :
    let k := done.length - n.getD done.length
    ∃ i', run (down n) i = (.ok (), i') ∧ i'.Stands (done.take k) (done.drop k ++ todo) ∧
      i.database.Loses i'.database ∧ i'.database = i.database.down n := by
  intro k
  have hlast : (done.reverse.take (n.getD done.length)).reverse = done.drop k := by
    rw [List.reverse_take, List.reverse_reverse, List.length_reverse]
  have hk : i.Stands (done.take k ++ (done.reverse.take (n.getD done.length)).reverse) todo := by
    rwa [hlast, List.take_append_drop]
  have hall : ∀ r ∈ done.reverse.take (n.getD done.length), r ∈ Revision.all := fun r hr =>
    h.order ▸ List.mem_append_left todo (List.mem_reverse.mp (List.mem_of_mem_take hr))
  obtain ⟨hrun, hstands, hloses⟩ := hk.run_forM_rollBack
  refine ⟨_, (h.run_down n).trans hrun, hlast ▸ hstands, hloses, ?_⟩
  rw [database_foldl database_retreat hall, Database.down, h.appliedMigrations_eq,
    ← List.map_reverse, List.length_map, List.length_reverse, List.map_take]

/-- Rolling everything back and applying it again. -/
theorem reset (h : i.Stands done todo) :
    ∃ i', run reset i = (.ok (), i') ∧ i'.Stands Revision.all [] ∧
      (∀ t, i'.database.rowCount? t = some 0) ∧ i'.database = i.database.reset := by
  obtain ⟨i₁, hdown, hbare, -, hdb₁⟩ := h.down none
  rw [Option.getD_none, Nat.sub_self, List.take_zero, List.drop_zero, ← h.order] at hbare
  obtain ⟨i₂, hup, hfull, hgains, hdb₂⟩ := hbare.up none
  rw [Option.getD_none, List.take_length, List.drop_length, List.nil_append] at hfull
  refine ⟨i₂, (run_bind_ok hdown).trans hup, hfull, fun t => hgains.rowCount? ?_ ?_,
    by rw [hdb₂, hdb₁, Database.reset]⟩
  · rw [hbare.described t, hbare.catalog]
    cases t <;> rfl
  · rw [hfull.described t, hfull.catalog]
    cases t <;> rfl

theorem edit {db : Database} (h : i.Stands done todo) {e : Edit} (he : e.run i.database = .ok db) :
    Stands { i with database := db } done todo where
  order := h.order
  history := h.history
  catalog := h.catalog
  applied := (Edit.keeps he).2.trans h.applied
  described t := ((Edit.keeps he).1 t).trans (h.described t)

/-- After every step an installation stands somewhere. -/
theorem perform (h : i.Stands done todo) (s : Step) :
    ∃ done' todo', (i.perform s).2.Stands done' todo' := by
  cases s with
  | up n =>
      obtain ⟨i', hrun, hstands, -⟩ := h.up n
      exact ⟨_, _, by rw [Installation.perform, hrun]; exact hstands⟩
  | down n =>
      obtain ⟨i', hrun, hstands, -⟩ := h.down n
      exact ⟨_, _, by rw [Installation.perform, hrun]; exact hstands⟩
  | reset =>
      obtain ⟨i', hrun, hstands, -⟩ := h.reset
      exact ⟨_, _, by rw [Installation.perform, hrun]; exact hstands⟩
  | edit e =>
      rw [Installation.perform]
      cases he : e.run i.database with
      | ok db => exact ⟨done, todo, h.edit he⟩
      | error err => exact ⟨done, todo, h⟩

theorem foldl_perform (h : i.Stands done todo) (steps : List Step) :
    ∃ done' todo', (steps.foldl (fun i s => (i.perform s).2) i).Stands done' todo' := by
  induction steps generalizing i done todo with
  | nil => exact ⟨done, todo, h⟩
  | cons s steps ih =>
      obtain ⟨done', todo', h'⟩ := h.perform s
      exact ih h'

end Stands

/-- What the migrations have made of an installation, and what more of them would. -/
structure Orderly (i : Installation) : Prop where
  /-- The migrations that are applied are the first ones, in order. -/
  first : i.history <+: Revision.all.map (·.name)
  /-- How many there are says which tables there are, and what these are made up of. -/
  catalog : i.catalog = Catalog.after i.history.length
  /-- Each of them has the columns, the indexes and the foreign keys of its name. -/
  schema : ∀ t, i.catalog.schema? t = if i.catalog.hasTable t then some t.schema else none
  described : i.catalog.Describes i.database
  /-- More migrations leave every table as it is and add empty ones.  As many rolled back again
  leave no trace. -/
  up : ∀ n, ∃ i', i.perform (.up n) = (.ok (), i') ∧
    i'.history.length =
      min (i.history.length + n.getD Revision.all.length) Revision.all.length ∧
    i.database.Gains i'.database ∧
    i'.perform (.down (some (i'.history.length - i.history.length))) = (.ok (), i)
  /-- Rolling migrations back leaves every table as it is that it does not drop. -/
  down : ∀ n, ∃ i', i.perform (.down n) = (.ok (), i') ∧
    i'.history.length = i.history.length - n.getD i.history.length ∧
    i.database.Loses i'.database
  reset : ∃ i', i.perform .reset = (.ok (), i') ∧ i'.history = Revision.all.map (·.name) ∧
    i'.catalog = Catalog.after Revision.all.length ∧ ∀ t, i'.database.rowCount? t = some 0

namespace Stands

/-- Rolling back as many revisions as were just applied leaves no trace. -/
theorem up_down {n : Nat} (h : i.Stands done todo) (hgains : i.database.Gains i'.database)
    (h' : i'.Stands (done ++ todo.take n) (todo.drop n)) :
    run (Installation.down (some (i'.history.length - i.history.length))) i' = (.ok (), i) := by
  have hcount : i'.history.length - i.history.length = (todo.take n).length := by
    rw [h'.history, h.history, List.length_map, List.length_map, List.length_append,
      Nat.add_sub_cancel_left]
  obtain ⟨i'', hrun, hstands, hloses, -⟩ := h'.down (some (todo.take n).length)
  rw [Option.getD_some, List.length_append, Nat.add_sub_cancel, List.take_left, List.drop_left,
    List.take_append_drop] at hstands
  have hdb : i''.database = i.database := by
    refine eq_of_gains_of_loses hgains hloses (fun t => ?_) (hstands.applied.trans h.applied.symm)
    rw [hstands.described t, h.described t, hstands.catalog, h.catalog]
  rw [hcount, hrun, h.eq_of_database hstands hdb]

theorem orderly (h : i.Stands done todo) : i.Orderly where
  first := by
    rw [h.history, h.order, List.map_append]
    exact List.prefix_append _ _
  catalog := h.catalog_eq
  schema t := by rw [h.catalog_eq, schema?_after]
  described := h.described
  up n := by
    obtain ⟨i', hrun, hstands, hgains, -⟩ := h.up n
    refine ⟨i', hrun, ?_, hgains, h.up_down hgains hstands⟩
    rw [hstands.history, h.history, h.order]
    simp only [List.length_map, List.length_append, List.length_take]
    cases n <;> simp only [Option.getD_none, Option.getD_some] <;> omega
  down n := by
    obtain ⟨i', hrun, hstands, hloses, -⟩ := h.down n
    refine ⟨i', hrun, ?_, hloses⟩
    rw [hstands.history, h.history]
    simp only [List.length_map, List.length_take]
    omega
  reset := by
    obtain ⟨i', hrun, hstands, hempty, -⟩ := h.reset
    refine ⟨i', hrun, hstands.history, ?_, hempty⟩
    rw [hstands.catalog_eq, hstands.history, List.length_map]

end Stands

/-- **Whatever steps an installation has been through**, from a database without tables, no
migration fails: those applied are the first ones, their number says what the installation is made
up of, and no row is lost but with its table. -/
theorem orderly_after (steps : List Step) : (after steps).Orderly := by
  obtain ⟨done, todo, h⟩ := Stands.blank.foldl_perform steps
  exact h.orderly

/-! ### Scripts of upkeep -/

theorem run_minimalInsert (db : Database) (t : TableName) (parent number : Int) :
    (minimalInsert t parent number).run db = Upkeep.insertMinimal db t parent number := by
  cases t <;> rfl

/-- What an edit does to the database of an installation. -/
theorem perform_edit (i : Installation) (e : Edit) :
    ((i.perform (.edit e)).1, (i.perform (.edit e)).2.database) =
      match e.run i.database with
      | .ok db => (.ok (), db)
      | .error err => (.error err, i.database) := by
  rw [perform]
  cases e.run i.database <;> rfl

namespace Stands

/-- A step of a script does to the database what it does in upkeep. -/
theorem follow_eq (h : i.Stands done todo) (s : Upkeep.Step) :
    ((i.follow s).1, (i.follow s).2.database) =
      match Upkeep.step i.database s with
      | .ok db => (.ok (), db)
      | .error e => (.error e, i.database) := by
  cases s with
  | up n =>
      obtain ⟨i', hrun, -, -, hdb⟩ := h.up n
      rw [follow, Installation.perform, hrun, Upkeep.step, ← hdb]
  | down n =>
      obtain ⟨i', hrun, -, -, hdb⟩ := h.down n
      rw [follow, Installation.perform, hrun, Upkeep.step, ← hdb]
  | reset =>
      obtain ⟨i', hrun, -, -, hdb⟩ := h.reset
      rw [follow, Installation.perform, hrun, Upkeep.step, ← hdb]
  | insert table parent number =>
      rw [follow, Upkeep.step]
      cases TableName.ofText? table with
      | none => rfl
      | some t => exact (perform_edit i _).trans (by rw [run_minimalInsert])
  | delete table id =>
      rw [follow, Upkeep.step]
      cases TableName.ofText? table with
      | none => rfl
      | some t => exact perform_edit i _

theorem follow (h : i.Stands done todo) (s : Upkeep.Step) :
    ∃ done' todo', (i.follow s).2.Stands done' todo' := by
  cases s with
  | up n => exact h.perform (.up n)
  | down n => exact h.perform (.down n)
  | reset => exact h.perform .reset
  | insert table parent number =>
      rw [Installation.follow]
      cases TableName.ofText? table with
      | none => exact ⟨done, todo, h⟩
      | some t => exact h.perform _
  | delete table id =>
      rw [Installation.follow]
      cases TableName.ofText? table with
      | none => exact ⟨done, todo, h⟩
      | some t => exact h.perform _

end Stands

/-- **The databases that an installation goes through** are those of upkeep. -/
theorem script_eq_run (h : i.Stands done todo) (steps : List Upkeep.Step) :
    (script steps i).map (fun o => (⟨o.1, o.2.database⟩ : Upkeep.Observation)) =
      Upkeep.run steps i.database := by
  induction steps generalizing i done todo with
  | nil => rfl
  | cons s steps ih =>
      obtain ⟨done', todo', hstands⟩ := h.follow s
      have hstep := h.follow_eq s
      rw [script, List.map_cons, ih hstands, Upkeep.run]
      cases hs : Upkeep.step i.database s with
      | ok db =>
          rw [hs] at hstep
          obtain ⟨hresult, hdb⟩ := Prod.mk.inj hstep
          rw [hresult, hdb]
      | error e =>
          rw [hs] at hstep
          obtain ⟨hresult, hdb⟩ := Prod.mk.inj hstep
          rw [hresult, hdb]

end ImportTracking.Installation
