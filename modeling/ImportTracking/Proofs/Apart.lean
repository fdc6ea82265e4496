import ImportTracking.Proofs.Frame
import Mathlib.Algebra.Group.Prod
import Mathlib.Algebra.Order.Group.Multiset

/-!
# Apart — the work on one tracker beside the work on others

The statements of a job on one tracker (`Concerns`) read and write its row and its batches, look up
what it belongs to, and add failures.  Of this other trackers see nothing (`Touches`).  Two
databases in which a tracker sees the same (`Alike`) answer such statements alike; and what they
then have of new rows is the same too, up to the ids, which are generated (`Parallel`).

* `execute_moves`: a statement on a tracker makes the same change to both of two such databases.
* `Moves.touches`, `Moves.alike`, `Moves.rows`: what every such change leaves.
* `Parallel.moves`: two databases that have come the same way go on the same way.
* `trackerRows_ext`: the rows of trackers are known by their ids.
-/

namespace ImportTracking

/-! ### Generated ids -/

/-- An id that was in use at the outset, when the largest was `last`; later ids are generated. -/
def known (last : Nat) (id : Int) : Option Int := if id ≤ last then some id else none

theorem known_of_lt {last : Nat} {id : Int} (h : (last : Int) < id) : known last id = none :=
  if_neg (Int.not_le.mpr h)

/-- A batch, but for a generated id. -/
def Batch.anonymous (last : Nat) (b : Batch) : Option Int × Batch :=
  (known last b.id, { b with id := 0 })

/-- A failure, but for a generated id. -/
def Failure.anonymous (last : Nat) (f : Failure) : Option Int × Failure :=
  (known last f.id, { f with id := 0 })

/-- Two results match: both are good and related, or both the same error. -/
inductive Matches {ε α β : Type} (R : α → β → Prop) : Except ε α → Except ε β → Prop where
  | ok {a : α} {b : β} (h : R a b) : Matches R (.ok a) (.ok b)
  | error (e : ε) : Matches R (.error e) (.error e)

theorem Matches.refl {ε α : Type} {R : α → α → Prop} (h : ∀ a, R a a) (x : Except ε α) :
    Matches R x x := by
  cases x with
  | ok a => exact .ok (h a)
  | error e => exact .error e

theorem Matches.eq {ε α : Type} {x y : Except ε α} (h : Matches Eq x y) : x = y := by
  cases h with
  | ok h => exact congrArg Except.ok h
  | error e => rfl

namespace Database

variable {db db' db₁ db₁' o : Database} {n : Int}

/-- The largest id of a batch ever used. -/
def lastBatchId (db : Database) : Nat := (db.batches.map (·.lastId)).getD 0

/-- The largest id of a failure ever used. -/
def lastFailureId (db : Database) : Nat := (db.failures.map (·.lastId)).getD 0

theorem lastBatchId_le_addBatch (db : Database) (b : Batch) :
    db.lastBatchId ≤ (db.addBatch b).lastBatchId := by
  unfold lastBatchId addBatch
  cases db.batches with
  | none => exact Nat.le_refl _
  | some t => exact Nat.le_max_left _ _

theorem lastFailureId_le_addFailure (db : Database) (f : Failure) :
    db.lastFailureId ≤ (db.addFailure f).lastFailureId := by
  unfold lastFailureId addFailure
  cases db.failures with
  | none => exact Nat.le_refl _
  | some t => exact Nat.le_max_left _ _

/-- A keyed database in which every id that was used at the outset `o` is used. -/
structure Grown (o db : Database) : Prop where
  keyed : db.Keyed
  batches : o.lastBatchId ≤ db.lastBatchId
  failures : o.lastFailureId ≤ db.lastFailureId

namespace Grown

/-- The next batch gets an id that is generated. -/
theorem lt_nextBatchId (hg : Grown o db) (htab : db.hasTable .batches = true) :
    (o.lastBatchId : Int) < db.nextBatchId := by
  obtain ⟨t, ht⟩ := batches_of_hasTable htab
  have hle := hg.batches
  simp only [lastBatchId, nextBatchId, ht, Option.map_some, Option.getD_some, Table.nextId] at *
  omega

/-- The next failure gets an id that is generated. -/
theorem lt_nextFailureId (hg : Grown o db) (htab : db.hasTable .failures = true) :
    (o.lastFailureId : Int) < db.nextFailureId := by
  obtain ⟨t, ht⟩ : ∃ t, db.failures = some t := Option.isSome_iff_exists.mp htab
  have hle := hg.failures
  simp only [lastFailureId, nextFailureId, ht, Option.map_some, Option.getD_some,
    Table.nextId] at *
  omega

end Grown

/-! ### What others see, and what the tracker sees -/

/-- From `db` to `db'` work was done on the tracker `n` alone. -/
structure Touches (n : Int) (db db' : Database) : Prop where
  stands : Stands db db'
  imports : db'.imports = db.imports
  entities : db'.entities = db.entities
  tracker : ∀ m, m ≠ n → db'.tracker? m = db.tracker? m
  batch : ∀ m, m ≠ n → ∀ k, db'.batch? m k = db.batch? m k
  batchIds : db.lastBatchId ≤ db'.lastBatchId
  failureIds : db.lastFailureId ≤ db'.lastFailureId

namespace Touches

theorem refl (n : Int) (db : Database) : Touches n db db :=
  ⟨.refl db, rfl, rfl, fun _ _ => rfl, fun _ _ _ => rfl, Nat.le_refl _, Nat.le_refl _⟩

theorem trans (h : Touches n db db') (h' : Touches n db' db₁) : Touches n db db₁ where
  stands := h.stands.trans h'.stands
  imports := h'.imports.trans h.imports
  entities := h'.entities.trans h.entities
  tracker m hm := (h'.tracker m hm).trans (h.tracker m hm)
  batch m hm k := (h'.batch m hm k).trans (h.batch m hm k)
  batchIds := h.batchIds.trans h'.batchIds
  failureIds := h.failureIds.trans h'.failureIds

theorem grown (h : Touches n db db') (hg : Grown o db) : Grown o db' where
  keyed := h.stands.keyed hg.keyed
  batches := hg.batches.trans h.batchIds
  failures := hg.failures.trans h.failureIds

end Touches

/-- A tracker sees the same in two databases, up to ids that are generated after the outset `o`. -/
structure Alike (o : Database) (n : Int) (db db' : Database) : Prop where
  imports : db'.imports = db.imports
  entities : db'.entities = db.entities
  hasTable : ∀ name, db'.hasTable name = db.hasTable name
  tracker : db'.tracker? n = db.tracker? n
  batch : ∀ k, (db'.batch? n k).map (Batch.anonymous o.lastBatchId) =
    (db.batch? n k).map (Batch.anonymous o.lastBatchId)

theorem Alike.refl (o : Database) (n : Int) (db : Database) : Alike o n db db :=
  ⟨rfl, rfl, fun _ => rfl, rfl, fun _ => rfl⟩

/-- Work on another tracker is not seen. -/
theorem Touches.alike {m : Int} (h : Touches m db db') (hm : n ≠ m) (o : Database) :
    Alike o n db db' :=
  ⟨h.imports, h.entities, h.stands.hasTable, h.tracker n hm, fun k => by rw [h.batch n hm k]⟩

/-- The rows of batches and of failures, but for generated ids. -/
def rows (o db : Database) :
    Multiset (Option Int × Batch) × Multiset (Option Int × Failure) :=
  (↑(db.batchRows.map (Batch.anonymous o.lastBatchId)),
    ↑(db.failureRows.map (Failure.anonymous o.lastFailureId)))

/-! ### Changes -/

/-- The same change to two databases, by work on the tracker `n`. -/
inductive Moves (o : Database) (n : Int) (db db' : Database) : Database → Database → Prop where
  | same : Moves o n db db' db db'
  | tracker {row old : Tracker} (hid : row.id = n) (ht : db.tracker? n = some old) :
      Moves o n db db' (db.putTracker row) (db'.putTracker row)
  | batch {b b' : Batch} (hb : b.trackerId = n)
      (hsame : b'.anonymous o.lastBatchId = b.anonymous o.lastBatchId)
      (htab : db.hasTable .batches = true) (hfree : db.batch? n b.number = none) :
      Moves o n db db' (db.addBatch b) (db'.addBatch b')
  | failure {f f' : Failure}
      (hsame : f'.anonymous o.lastFailureId = f.anonymous o.lastFailureId)
      (htab : db.hasTable .failures = true) :
      Moves o n db db' (db.addFailure f) (db'.addFailure f')

/-- A row that a search does not look for does not change what it finds. -/
theorem find?_place_of_not {Row : Type} [HasId Row] {p : Row → Bool} {row : Row} (h : p row = false)
    (rows : List Row) : (Table.place row rows).find? p = rows.find? p := by
  induction rows with
  | nil => simp [Table.place, h]
  | cons r rows ih =>
      rw [Table.place]
      split
      · rw [List.find?_cons_of_neg (by simp [h])]
      · rw [List.find?_cons, List.find?_cons, ih]

/-- A row that a search looks for is found, when nothing was found before. -/
theorem find?_place {Row : Type} [HasId Row] {p : Row → Bool} {row : Row} {rows : List Row}
    (h : p row = true) (hnone : rows.find? p = none) :
    (Table.place row rows).find? p = some row := by
  induction rows with
  | nil => simp [Table.place, h]
  | cons r rows ih =>
      rw [List.find?_cons] at hnone
      split at hnone
      · cases hnone
      · rename_i hr
        rw [Table.place]
        split
        · rw [List.find?_cons_of_pos h]
        · rw [List.find?_cons, hr, ih hnone]

theorem batchRows_addBatch (htab : db.hasTable .batches = true) (b : Batch) :
    (db.addBatch b).batchRows = Table.place b db.batchRows := by
  obtain ⟨t, ht⟩ := batches_of_hasTable htab
  rw [batchRows, batchRows, addBatch, ht]
  rfl

theorem batch?_addBatch_of_ne {b : Batch} {m k : Int} (h : ¬(b.trackerId = m ∧ b.number = k)) :
    (db.addBatch b).batch? m k = db.batch? m k := by
  cases htab : db.hasTable .batches with
  | true =>
      rw [batch?, batchRows_addBatch htab]
      exact find?_place_of_not (by simpa using h) _
  | false =>
      rw [batch?, batch?, batchRows, batchRows, addBatch, batches_eq_none htab]
      rfl

theorem batch?_addBatch_self (htab : db.hasTable .batches = true) {b : Batch} {m k : Int}
    (hm : b.trackerId = m) (hk : b.number = k) (hfree : db.batch? m k = none) :
    (db.addBatch b).batch? m k = some b := by
  rw [batch?, batchRows_addBatch htab]
  exact find?_place (by simp [hm, hk]) hfree

theorem rows_addBatch (o : Database) (htab : db.hasTable .batches = true) (b : Batch) :
    rows o (db.addBatch b) = ({b.anonymous o.lastBatchId}, 0) + rows o db := by
  refine Prod.ext (Multiset.coe_eq_coe.mpr ?_) (zero_add _).symm
  rw [batchRows_addBatch htab]
  exact (Table.perm_place b db.batchRows).map _

theorem rows_addFailure (o : Database) (htab : db.hasTable .failures = true) (f : Failure) :
    rows o (db.addFailure f) = (0, {f.anonymous o.lastFailureId}) + rows o db :=
  Prod.ext (zero_add _).symm
    (Multiset.coe_eq_coe.mpr ((perm_failureRows_addFailure htab f).map _))

/-! What each change leaves. -/

theorem touches_putTracker (row : Tracker) : Touches row.id db (db.putTracker row) where
  stands := ⟨fun _ => hasTable_putTracker, fun _ => rfl, ids_putTracker db row⟩
  imports := rfl
  entities := rfl
  tracker _ hm := tracker?_putTracker_of_ne hm
  batch _ _ _ := rfl
  batchIds := Nat.le_refl _
  failureIds := Nat.le_refl _

theorem touches_addBatch (b : Batch) : Touches b.trackerId db (db.addBatch b) where
  stands := ⟨fun _ => hasTable_addBatch, fun _ => rfl, rfl⟩
  imports := rfl
  entities := rfl
  tracker _ _ := rfl
  batch _ hm _ := batch?_addBatch_of_ne fun h => hm h.1.symm
  batchIds := lastBatchId_le_addBatch db b
  failureIds := Nat.le_refl _

theorem touches_addFailure (n : Int) (f : Failure) : Touches n db (db.addFailure f) where
  stands := ⟨fun name => by cases name <;> simp [Database.hasTable, addFailure], fun _ => rfl, rfl⟩
  imports := rfl
  entities := rfl
  tracker _ _ := rfl
  batch _ _ _ := rfl
  batchIds := Nat.le_refl _
  failureIds := lastFailureId_le_addFailure db f

namespace Moves

/-- A change is work on the tracker alone, in both databases. -/
theorem touches (h : Moves o n db db' db₁ db₁') : Touches n db db₁ ∧ Touches n db' db₁' := by
  cases h with
  | same => exact ⟨.refl n db, .refl n db'⟩
  | @tracker row _ hid => exact ⟨hid ▸ touches_putTracker row, hid ▸ touches_putTracker row⟩
  | @batch b b' hb hsame =>
      have hb' : b'.trackerId = n := (congrArg (·.2.trackerId) hsame).trans hb
      exact ⟨hb ▸ touches_addBatch b, hb' ▸ touches_addBatch b'⟩
  | @failure f f' => exact ⟨touches_addFailure n f, touches_addFailure n f'⟩

/-- What the tracker sees stays the same. -/
theorem alike (h : Moves o n db db' db₁ db₁') (ha : Alike o n db db') : Alike o n db₁ db₁' := by
  cases h with
  | same => exact ha
  | @tracker row old hid ht =>
      subst hid
      refine ⟨ha.imports, ha.entities, fun name => ?_, ?_, ha.batch⟩
      · rw [hasTable_putTracker, hasTable_putTracker, ha.hasTable]
      · rw [tracker?_putTracker_self ht, tracker?_putTracker_self (ha.tracker.trans ht)]
  | @batch b b' hb hsame htab hfree =>
      have hb' : b'.trackerId = n := (congrArg (·.2.trackerId) hsame).trans hb
      have hnumber : b'.number = b.number := congrArg (·.2.number) hsame
      refine ⟨ha.imports, ha.entities, fun name => ?_, ha.tracker, fun k => ?_⟩
      · rw [hasTable_addBatch, hasTable_addBatch, ha.hasTable]
      · by_cases hk : b.number = k
        · have hfree' : db'.batch? n k = none := by
            have h := ha.batch k
            rwa [← hk, hfree, Option.map_none, Option.map_eq_none_iff, hk] at h
          rw [batch?_addBatch_self htab hb hk (hk ▸ hfree),
            batch?_addBatch_self ((ha.hasTable _).trans htab) hb' (hnumber.trans hk) hfree',
            Option.map_some, Option.map_some, hsame]
        · rw [batch?_addBatch_of_ne fun h => hk h.2,
            batch?_addBatch_of_ne fun h => hk (hnumber.symm.trans h.2), ha.batch]
  | failure =>
      refine ⟨ha.imports, ha.entities, fun name => ?_, ha.tracker, ha.batch⟩
      rw [(touches_addFailure n _).stands.hasTable, (touches_addFailure n _).stands.hasTable,
        ha.hasTable]

/-- Both databases come to have the same rows more. -/
theorem rows (h : Moves o n db db' db₁ db₁') (ha : Alike o n db db') :
    ∃ x, Database.rows o db₁ = x + Database.rows o db ∧
      Database.rows o db₁' = x + Database.rows o db' := by
  cases h with
  | same | tracker => exact ⟨0, (zero_add _).symm, (zero_add _).symm⟩
  | batch _ hsame htab =>
      refine ⟨_, rows_addBatch o htab _, ?_⟩
      rw [rows_addBatch o ((ha.hasTable _).trans htab), hsame]
  | failure hsame htab =>
      refine ⟨_, rows_addFailure o htab _, ?_⟩
      rw [rows_addFailure o ((ha.hasTable _).trans htab), hsame]

end Moves

/-! ### Statements -/

/-- The statements of work on the tracker `n`. -/
def Statement.Concerns (n : Int) : Statement → Prop
  | .findImport _ => True
  | .findEntity _ => True
  | .findTracker id => id = n
  | .findBatch id _ => id = n
  | .updateTracker id _ _ => id = n
  | .insertBatch id _ _ _ => id = n
  | .insertFailure _ => True
  | _ => False

/-- Two results of a statement that a tracker cannot tell from each other. -/
def Statement.Resembles (o : Database) : (s : Statement) → s.Result → s.Result → Prop
  | .findTracker id, t, t' => t = t' ∧ ∀ row ∈ t, row.id = id
  | .findBatch _ _, b, b' =>
    b'.map (Batch.anonymous o.lastBatchId) = b.map (Batch.anonymous o.lastBatchId)
  | .insertBatch _ _ _ _, b, b' => b'.anonymous o.lastBatchId = b.anonymous o.lastBatchId
  | .updateTracker _ _ _, count, count' => count = 0 ↔ count' = 0
  | .insertFailure _, _, _ => True
  | _, x, x' => x = x'

theorem hasTracker_eq (db : Database) (id : Int) : db.hasTracker id = (db.tracker? id).isSome := by
  rw [hasTracker, tracker?, List.isSome_find?]

theorem execute_findTracker_eq (db : Database) (id : Int) :
    execute (.findTracker id) db =
      (if db.hasTable .trackers then .ok (db.tracker? id)
        else .error (Refusal.noSuchTable .trackers).onRead, db) := by
  cases htab : db.trackers with
  | none => simp [execute_findTracker_of_none htab, hasTable, htab]
  | some tab => simp [execute_findTracker_of_some htab, hasTable, htab]

theorem execute_findBatch_eq (db : Database) (trackerId number : Int) :
    execute (.findBatch trackerId number) db =
      (if db.hasTable .batches then .ok (db.batch? trackerId number)
        else .error (Refusal.noSuchTable .batches).onRead, db) := by
  cases htab : db.hasTable .batches with
  | true => exact execute_findBatch htab trackerId number
  | false => exact execute_findBatch_of_none htab trackerId number

/-- An update is answered alike, and moves the tracker in both databases or in neither. -/
theorem execute_updateTracker_moves (ha : Alike o n db db') (hg : Grown o db) (hg' : Grown o db')
    (status : String) (u : TrackerUpdate) :
    Matches (Statement.Resembles o (.updateTracker n status u))
        (execute (.updateTracker n status u) db).1 (execute (.updateTracker n status u) db').1 ∧
      Moves o n db db' (execute (.updateTracker n status u) db).2
        (execute (.updateTracker n status u) db').2 := by
  have htables := ha.hasTable .trackers
  cases htab : db.trackers with
  | none =>
      have htab' : db'.trackers = none := by simpa [hasTable, htab] using htables
      rw [execute_updateTracker_of_none htab, execute_updateTracker_of_none htab']
      exact ⟨.error _, .same⟩
  | some tab =>
      obtain ⟨tab', htab'⟩ : ∃ tab, db'.trackers = some tab := by
        rw [hasTable, hasTable, htab] at htables
        exact Option.isSome_iff_exists.mp htables
      cases ht : db.tracker? n with
      | none =>
          have ht' := ha.tracker.trans ht
          rw [execute_update_stale hg.keyed htab (fun t h => by rw [ht] at h; cases h) u,
            execute_update_stale hg'.keyed htab' (fun t h => by rw [ht'] at h; cases h) u]
          exact ⟨.ok Iff.rfl, .same⟩
      | some t =>
          have hid : t.id = n := id_of_tracker? ht
          obtain ⟨hs, k, hk, he⟩ | ⟨hs, he⟩ :=
            execute_updateTracker_of_tracker hg.keyed ht status u
          · obtain ⟨-, k', hk', he'⟩ | ⟨hs', -⟩ :=
              execute_updateTracker_of_tracker hg'.keyed (ha.tracker.trans ht) status u
            · rw [he, he']
              exact ⟨.ok (iff_of_false hk hk'), .tracker (show (u.applyTo t).id = n from hid) ht⟩
            · exact absurd hs hs'
          · obtain ⟨hs', -⟩ | ⟨-, he'⟩ :=
              execute_updateTracker_of_tracker hg'.keyed (ha.tracker.trans ht) status u
            · exact absurd hs' hs
            · rw [he, he']
              exact ⟨.ok Iff.rfl, .same⟩

/-- An insert of a batch is answered alike; the new rows have generated ids. -/
theorem execute_insertBatch_moves (ha : Alike o n db db') (hg : Grown o db) (hg' : Grown o db')
    (number : Int) (status : String) (at_ : Timestamp) :
    Matches (Statement.Resembles o (.insertBatch n number status at_))
        (execute (.insertBatch n number status at_) db).1
        (execute (.insertBatch n number status at_) db').1 ∧
      Moves o n db db' (execute (.insertBatch n number status at_) db).2
        (execute (.insertBatch n number status at_) db').2 := by
  cases htab : db.hasTable .batches with
  | false =>
      rw [execute_insertBatch_of_none htab,
        execute_insertBatch_of_none ((ha.hasTable _).trans htab)]
      exact ⟨.error _, .same⟩
  | true =>
      have htab' := (ha.hasTable .batches).trans htab
      have hparent : db'.hasTracker n = db.hasTracker n := by
        rw [hasTracker_eq, hasTracker_eq, ha.tracker]
      cases hb : db.batch? n number with
      | some b =>
          obtain ⟨b', hb', -⟩ : ∃ b', db'.batch? n number = some b' ∧ _ :=
            Option.map_eq_some_iff.mp ((ha.batch number).trans (congrArg _ hb))
          rw [execute_insertBatch_of_taken htab hb, execute_insertBatch_of_taken htab' hb']
          exact ⟨.error _, .same⟩
      | none =>
          have hb' : db'.batch? n number = none := by
            have h := ha.batch number
            rwa [hb, Option.map_none, Option.map_eq_none_iff] at h
          cases hp : db.hasTracker n with
          | false =>
              rw [execute_insertBatch_of_orphan htab hb hp,
                execute_insertBatch_of_orphan htab' hb' (hparent.trans hp)]
              exact ⟨.error _, .same⟩
          | true =>
              have hsame : Batch.anonymous o.lastBatchId
                    ⟨db'.nextBatchId, n, number, status, at_, at_⟩ =
                  Batch.anonymous o.lastBatchId
                    ⟨db.nextBatchId, n, number, status, at_, at_⟩ := by
                rw [Batch.anonymous, Batch.anonymous, known_of_lt (hg.lt_nextBatchId htab),
                  known_of_lt (hg'.lt_nextBatchId htab')]
              rw [execute_insertBatch htab hb hp, execute_insertBatch htab' hb' (hparent.trans hp)]
              exact ⟨.ok hsame, .batch rfl hsame htab hb⟩

theorem execute_insertFailure_moves (ha : Alike o n db db') (hg : Grown o db) (hg' : Grown o db')
    (row : Failure) :
    Matches (Statement.Resembles o (.insertFailure row)) (execute (.insertFailure row) db).1
        (execute (.insertFailure row) db').1 ∧
      Moves o n db db' (execute (.insertFailure row) db).2
        (execute (.insertFailure row) db').2 := by
  cases htab : db.hasTable .failures with
  | false =>
      rw [execute_insertFailure_of_none htab,
        execute_insertFailure_of_none ((ha.hasTable _).trans htab)]
      exact ⟨.error _, .same⟩
  | true =>
      have htab' := (ha.hasTable .failures).trans htab
      have hparent : db'.hasEntity row.entityId = db.hasEntity row.entityId := by
        rw [hasEntity, hasEntity, entityRows, entityRows, ha.entities]
      cases hp : db.hasEntity row.entityId with
      | false =>
          rw [execute_insertFailure_of_orphan htab hp,
            execute_insertFailure_of_orphan htab' (hparent.trans hp)]
          exact ⟨.error _, .same⟩
      | true =>
          rw [execute_insertFailure htab hp, execute_insertFailure htab' (hparent.trans hp)]
          refine ⟨.ok trivial, .failure ?_ htab⟩
          rw [Failure.anonymous, Failure.anonymous, known_of_lt (hg.lt_nextFailureId htab),
            known_of_lt (hg'.lt_nextFailureId htab')]

/-- **A statement on a tracker makes the same change** to two databases in which the tracker sees
the same, and is answered alike by both. -/
theorem execute_moves {s : Statement} (hs : s.Concerns n) (ha : Alike o n db db')
    (hg : Grown o db) (hg' : Grown o db') :
    Matches (s.Resembles o) (execute s db).1 (execute s db').1 ∧
      Moves o n db db' (execute s db).2 (execute s db').2 := by
  cases s with
  | findImport id =>
      simp only [execute, ha.imports]
      exact ⟨.refl (fun _ => rfl) _, .same⟩
  | findEntity id =>
      simp only [execute, ha.entities]
      exact ⟨.refl (fun _ => rfl) _, .same⟩
  | findTracker id =>
      obtain rfl : id = n := hs
      rw [execute_findTracker_eq, execute_findTracker_eq, ha.hasTable, ha.tracker]
      refine ⟨?_, .same⟩
      split
      · exact .ok ⟨rfl, fun row hrow => id_of_tracker? hrow⟩
      · exact .error _
  | findBatch id number =>
      obtain rfl : id = n := hs
      rw [execute_findBatch_eq, execute_findBatch_eq, ha.hasTable]
      refine ⟨?_, .same⟩
      split
      · exact .ok (ha.batch number)
      · exact .error _
  | updateTracker id status u =>
      obtain rfl : id = n := hs
      exact execute_updateTracker_moves ha hg hg' status u
  | insertBatch id number status at_ =>
      obtain rfl : id = n := hs
      exact execute_insertBatch_moves ha hg hg' number status at_
  | insertFailure row => exact execute_insertFailure_moves ha hg hg' row
  | findLease | trackersOf | batchesOf | failuresOf | insertLease | deleteLease | releaseLease =>
      exact hs.elim

/-- The rows of trackers are known by their ids. -/
theorem trackerRows_ext (hk : db.Keyed)
    (hids : db'.trackerRows.map (·.id) = db.trackerRows.map (·.id))
    (h : ∀ m, db'.tracker? m = db.tracker? m) : db'.trackerRows = db.trackerRows := by
  have hk' : db'.Keyed := by rwa [Keyed, hids]
  refine List.ext_getElem (by simpa using congrArg List.length hids) fun i hi hi' => ?_
  have hid : (db'.trackerRows[i]).id = (db.trackerRows[i]).id := by
    have hget := congrArg (fun l => l[i]?) hids
    simpa [List.getElem?_eq_getElem, hi, hi'] using hget
  have hrow := tracker?_of_mem hk (List.getElem_mem hi')
  have hrow' := tracker?_of_mem hk' (List.getElem_mem hi)
  rw [hid, h] at hrow'
  exact Option.some.inj (hrow'.symm.trans hrow)

/-! ### Two databases that have come the same way -/

/-- From `base` to `db` the same work was done on the tracker `n` as from `base'` to `db'`: the
tracker sees the same now, and the same rows were added. -/
structure Parallel (o : Database) (n : Int) (base base' db db' : Database) : Prop where
  alike : Alike o n db db'
  touches : Touches n base db
  touches' : Touches n base' db'
  grown : Grown o db
  grown' : Grown o db'
  rows : rows o db + Database.rows o base' = Database.rows o db' + Database.rows o base

namespace Parallel

variable {base base' : Database}

theorem refl (ha : Alike o n base base') (hg : Grown o base) (hg' : Grown o base') :
    Parallel o n base base' base base' :=
  ⟨ha, .refl n base, .refl n base', hg, hg', add_comm _ _⟩

/-- **Databases that have come the same way go on the same way.** -/
theorem moves (h : Parallel o n base base' db db') (hm : Moves o n db db' db₁ db₁') :
    Parallel o n base base' db₁ db₁' := by
  obtain ⟨ht, ht'⟩ := hm.touches
  obtain ⟨x, hx, hx'⟩ := hm.rows h.alike
  refine ⟨hm.alike h.alike, h.touches.trans ht, h.touches'.trans ht', ht.grown h.grown,
    ht'.grown h.grown', ?_⟩
  rw [hx, hx', add_assoc, h.rows, ← add_assoc]

/-- **The work on two trackers comes to the same in either order**: from `db` it is done on `n` and
then on `m`, by way of `db₁`, and on `m` and then on `n`, by way of `db₂`. -/
theorem square {m : Int} {db₂ db₁₂ db₂₁ : Database} (hnm : n ≠ m)
    (h : Parallel o n db db₂ db₁ db₂₁) (h' : Parallel o m db db₁ db₂ db₁₂) :
    db₂₁.trackerRows = db₁₂.trackerRows ∧ Database.rows o db₂₁ = Database.rows o db₁₂ := by
  constructor
  · refine trackerRows_ext h'.grown'.keyed ?_ fun id => ?_
    · rw [h.touches'.stands.ids, h'.touches.stands.ids, h'.touches'.stands.ids,
        h.touches.stands.ids]
    · by_cases hn : id = n
      · rw [hn, h.alike.tracker, h'.touches'.tracker n hnm]
      · rw [h.touches'.tracker id hn]
        by_cases hm : id = m
        · rw [hm, h'.alike.tracker]
        · rw [h'.touches.tracker id hm, h'.touches'.tracker id hm, h.touches.tracker id hn]
  · have hrows := h.rows
    rw [add_comm (Database.rows o db₁), h'.rows] at hrows
    exact (add_right_cancel hrows).symm

end Parallel

end Database

end ImportTracking
