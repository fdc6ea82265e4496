import ImportTracking.Report
import ImportTracking.Proofs.Columns
import ImportTracking.Proofs.Coverage
import ImportTracking.Proofs.Sessions

/-!
# Reports — an entity as it stands

A report is read from the database in a few statements, the batches only of trackers that are marked
as batched.  It is `Complete` when it shows the rows of the entity as they are stored, every one of
them once and each kind in its order.

* `run_loadParts`, `run_load`: what a report is read to be.
* `complete_loaded`: it is complete if the database is covered.
* `load_of_reaches`: so it is complete after any number of deliveries.
-/

namespace ImportTracking

open Session (State)

namespace Database

variable {db : Database}

theorem execute_trackersOf (h : db.hasTable .trackers = true) (id : Int) :
    execute (.trackersOf id) db =
      (.ok ((db.trackerRows.filter (·.entityId == id)).mergeSort trackerOrder), db) := by
  obtain ⟨t, ht⟩ : ∃ t, db.trackers = some t := Option.isSome_iff_exists.mp h
  simp only [execute, trackerRows, ht, readable]
  rfl

theorem execute_batchesOf (h : db.hasTable .batches = true) (id : Int) :
    execute (.batchesOf id) db =
      (.ok ((db.batchRows.filter (·.trackerId == id)).mergeSort batchOrder), db) := by
  obtain ⟨t, ht⟩ := batches_of_hasTable h
  simp only [execute, batchRows, ht, readable]
  rfl

theorem execute_failuresOf (h : db.hasTable .failures = true) (id : Int) :
    execute (.failuresOf id) db =
      (.ok ((db.failureRows.filter (·.entityId == id)).mergeSort failureOrder), db) := by
  obtain ⟨t, ht⟩ : ∃ t, db.failures = some t := Option.isSome_iff_exists.mp h
  simp only [execute, failureRows, ht, readable]
  rfl

end Database

namespace Report

variable {st : State} {db : Database} {t : Tracker} {e : Entity}

/-! ### Loading -/

/-- The part of a report on a tracker. -/
def partOf (db : Database) (t : Tracker) : TrackerPart :=
  ⟨t, if t.batched then
    (db.batchRows.filter (·.trackerId == t.id)).mergeSort Database.batchOrder else []⟩

/-- The report on an entity. -/
def loaded (db : Database) (e : Entity) : Report where
  entity := e
  trackers :=
    ((db.trackerRows.filter (·.entityId == e.id)).mergeSort Database.trackerOrder).map (partOf db)
  failures := (db.failureRows.filter (·.entityId == e.id)).mergeSort Database.failureOrder

/-- **The parts of a report** are read, and nothing is changed. -/
theorem run_loadParts (hm : st.database.Migrated) (trackers : List Tracker) :
    Session.run (loadParts trackers).run st = (.ok (trackers.map (partOf st.database)), st) := by
  induction trackers with
  | nil => rfl
  | cons t rest ih =>
      rw [loadParts, List.map_cons, partOf]
      cases hb : t.batched with
      | false =>
          rw [if_neg Bool.false_ne_true, pure_bind, Session.run_bind, ih]
          rfl
      | true =>
          rw [if_pos rfl,
            Session.run_query_bind_ok (Database.execute_batchesOf (hm .batches) t.id),
            Session.run_bind, ih]
          rfl

/-- **A report is read** of an entity that is there, and nothing is changed. -/
theorem run_load {id : Int} (hm : st.database.Migrated) (he : st.database.entity? id = some e) :
    Session.run (load id).run st = (.ok (loaded st.database e), st) := by
  obtain rfl := Database.id_of_entity? he
  rw [load, Session.run_findEntity_bind he,
    Session.run_query_bind_ok (Database.execute_trackersOf (hm .trackers) e.id),
    Session.run_bind, run_loadParts hm]
  exact Session.run_query_bind_ok (Database.execute_failuresOf (hm .failures) e.id)

/-! ### What a report shows -/

/-- A report shows the rows of its entity as they are stored, and in order. -/
structure Complete (r : Report) (db : Database) : Prop where
  /-- The trackers of the entity, each once. -/
  trackers : (r.trackers.map (·.tracker)).Perm
    (db.trackerRows.filter (·.entityId == r.entity.id))
  staged : (r.trackers.map (·.tracker)).Pairwise fun a b =>
    a.stage < b.stage ∨ a.stage = b.stage ∧ a.id < b.id
  /-- Under each tracker all batches that are stored of it. -/
  batches : ∀ p ∈ r.trackers,
    p.batches.Perm (db.batchRows.filter (·.trackerId == p.tracker.id))
  numbered : ∀ p ∈ r.trackers, p.batches.Pairwise fun a b => a.number ≤ b.number
  /-- The failures of the entity. -/
  failures : r.failures.Perm (db.failureRows.filter (·.entityId == r.entity.id))
  /-- Failures are in the order of their columns, then of their ids. -/
  timed : r.failures.Pairwise fun a b =>
    a.createdAt.columnNotAfter b.createdAt = true ∧
      (b.createdAt.columnNotAfter a.createdAt = true → a.id ≤ b.id)
  /-- In years without a sign this is the order of time. -/
  chronological : r.failures.Pairwise fun a b =>
    a.createdAt.isUnsignedYear = true → b.createdAt.isUnsignedYear = true →
      a.createdAt.notAfter b.createdAt = true ∧ (a.createdAt = b.createdAt → a.id ≤ b.id)

/-- All batches of a tracker are shown, batched or not. -/
theorem perm_partOf (hc : db.Covered) (ht : t ∈ db.trackerRows) :
    (partOf db t).batches.Perm (db.batchRows.filter (·.trackerId == t.id)) := by
  unfold partOf
  cases hb : t.batched with
  | true =>
      rw [if_pos rfl]
      exact List.mergeSort_perm _ _
  | false =>
      -- a tracker that is not marked has no batches
      have hnone : db.batchRows.filter (·.trackerId == t.id) = [] := by
        refine List.filter_eq_nil_iff.mpr fun b hb' hid => ?_
        rw [hc t ht b hb' (by simpa using hid)] at hb
        cases hb
      rw [if_neg Bool.false_ne_true, hnone]

theorem pairwise_partOf (t : Tracker) :
    (partOf db t).batches.Pairwise fun a b => a.number ≤ b.number := by
  unfold partOf
  split
  · exact Database.pairwise_batchOrder _
  · exact .nil

/-- **A report on a covered database is complete.** -/
theorem complete_loaded (hk : db.Keyed) (hc : db.Covered) (e : Entity) :
    (loaded db e).Complete db := by
  have htrackers : (loaded db e).trackers.map (·.tracker) =
      (db.trackerRows.filter (·.entityId == e.id)).mergeSort Database.trackerOrder := by
    rw [loaded, List.map_map]
    exact List.map_id _
  have hparts : ∀ p ∈ (loaded db e).trackers, ∃ t ∈ db.trackerRows, p = partOf db t := by
    intro p hp
    obtain ⟨t, ht, rfl⟩ := List.mem_map.mp hp
    exact ⟨t, (List.mem_filter.mp (List.mem_mergeSort.mp ht)).1, rfl⟩
  have htimed := Database.pairwise_failureOrder (db.failureRows.filter (·.entityId == e.id))
  refine ⟨?_, ?_, fun p hp => ?_, fun p hp => ?_, List.mergeSort_perm _ _, htimed, ?_⟩
  · rw [htrackers]
    exact List.mergeSort_perm _ _
  · rw [htrackers]
    -- ids are apart, so no two trackers have one place
    have hids : (((db.trackerRows.filter (·.entityId == e.id)).mergeSort
        Database.trackerOrder).map (·.id)).Nodup :=
      ((List.mergeSort_perm _ _).map _).nodup_iff.mpr (hk.sublist (List.filter_sublist.map _))
    exact ((Database.pairwise_trackerOrder _).and (List.pairwise_map.mp hids)).imp
      fun h => by omega
  · obtain ⟨t, ht, rfl⟩ := hparts p hp
    exact perm_partOf hc ht
  · obtain ⟨t, -, rfl⟩ := hparts p hp
    exact pairwise_partOf t
  · refine htimed.imp fun {a b} ⟨hab, hid⟩ ha hb => ⟨?_, fun heq => ?_⟩
    · rwa [← Timestamp.columnNotAfter_of_unsigned ha hb]
    · exact hid (heq ▸ (Timestamp.columnNotAfter_total a.createdAt a.createdAt).elim id id)

/-- **A report hides nothing**: after any number of deliveries, from a database without batches, the
report on an entity that is there is read, and it is complete. -/
theorem load_of_reaches {db₀ db : Database} (hm : db₀.Migrated) (hk : db₀.Keyed)
    (hnone : db₀.batchRows = []) (h : Coordinator.Reaches db₀ db) {id : Int} {e : Entity}
    (he : db.entity? id = some e) (clock : Timestamp) (supply : Identifier.Supply) :
    ∃ r, Session.run (load id).run ⟨db, clock, supply⟩ = (.ok r, ⟨db, clock, supply⟩) ∧
      r.entity = e ∧ r.Complete db := by
  obtain ⟨hm', hk', hc'⟩ := h.sound hm hk (Database.covered_of_batchRows hnone)
  exact ⟨loaded db e, run_load hm' he, rfl, complete_loaded hk' hc' e⟩

/-- A tracker whose export is in two batches, of which the second is refused a job. -/
theorem load_of_reaches_interrupted :
    let c : Coordinator :=
      { settings := { deferralEnabled := false }, registry := ⟨[⟨"issues", "issues", true⟩]⟩ }
    let e : Entity := { (default : Entity) with id := 1 }
    let t : Tracker := { (default : Tracker) with
      id := 1, entityId := 1, pipelineName := "issues", status := "enqueued" }
    let reply : (r : Work.Request) → r.Reply
      | .readExport _ _ _ =>
        .ok (.single { state := some .finished, batched := true, batchCount := 2 })
      | .scheduleBatch 2 => .error ⟨"full", []⟩
      | r => Work.granted r
    let others := Work.steady .epoch "" reply
    let db := (Work.course others (c.deliver (.first 1 1 "jid" "corr")) (.single e t) ()).database
    let st : State := ⟨db, .epoch, { naming := .standard }⟩
    ∃ r, Session.run (load 1).run st = (.ok r, st) ∧ r.entity = e ∧ r.Complete db := by
  intro c e t reply others db st
  have hreaches : Coordinator.Reaches (.single e t) db := .more (.none _) others c _ ()
  have hstands : Database.Stands (.single e t) db := (Work.plays_course others _ _ ()).stands
  exact load_of_reaches (Database.migrated_single e t) (Database.keyed_single e t) rfl hreaches
    ((hstands.entity 1).trans (Database.entity?_single e t)) _ _

end Report

end ImportTracking
