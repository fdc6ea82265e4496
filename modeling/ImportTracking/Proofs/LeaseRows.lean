import ImportTracking.Proofs.Rows

/-!
# Lease rows — what statements do to the leases of a database

A table of leases is `Orderly` when no two rows have one key, no two have one id, and no row has
an id beyond the largest ever used.  The statements of a lease store keep it so: the unique
index refuses a second row for a key, and ids are not used again.

* `execute_insertLease_of_free`, `execute_insertLease_of_taken`: an insert puts a row at the end,
  or is refused because the key has one.
* `Orderly.insert`, `Orderly.filter`: such a row, and any deletion, keep a table orderly.
-/

namespace ImportTracking.Database

open Lease (Row)

/-- The database with another table of leases. -/
def withLeases (db : Database) (t : Table Row) : Database := { db with leases := some t }

variable {db : Database} {t : Table Row} {key : String}

@[simp] theorem hasId_lease (r : Row) : HasId.id r = r.id := rfl

@[simp] theorem leases_withLeases : (db.withLeases t).leases = some t := rfl

theorem leaseRows_eq (ht : db.leases = some t) : db.leaseRows = t.rows := by
  rw [leaseRows, ht]
  rfl

/-- The lease of a key. -/
def lease? (db : Database) (key : String) : Option Row := db.leaseRows.find? fun r => r.key == key

/-- A key without a lease has no row. -/
theorem lease?_eq_none_iff (ht : db.leases = some t) :
    db.lease? key = none ↔ ∀ r ∈ t.rows, r.key ≠ key := by
  rw [lease?, leaseRows_eq ht, List.find?_eq_none]
  simp

/-- The rows of a table of leases have distinct keys, and distinct ids up to the largest used. -/
structure Orderly (t : Table Row) : Prop where
  keys : (t.rows.map (·.key)).Nodup
  ids : (t.rows.map (·.id)).Nodup
  numbered : t.Numbered

namespace Orderly

theorem empty {n : Nat} : Orderly ⟨[], n⟩ where
  keys := List.nodup_nil
  ids := List.nodup_nil
  numbered _ hr := nomatch hr

/-- A row is the one that its key finds. -/
theorem lease?_eq_some_iff (h : Orderly t) (ht : db.leases = some t) {r : Row} :
    db.lease? key = some r ↔ r ∈ t.rows ∧ r.key = key := by
  rw [lease?, leaseRows_eq ht]
  exact find?_key_eq_some_iff h.keys

/-- A row is the one that has its id. -/
theorem eq_of_id (h : Orderly t) {r r' : Row} (hr : r ∈ t.rows) (hr' : r' ∈ t.rows)
    (hid : r.id = r'.id) : r = r' :=
  List.inj_on_of_nodup_map h.ids hr hr' hid

/-- A row with the next id and a key of its own keeps a table orderly. -/
theorem insert (h : Orderly t) {row : Row} (hid : row.id = t.nextId)
    (hkey : ∀ r ∈ t.rows, r.key ≠ row.key) : Orderly (t.insert row) where
  keys := by
    rw [h.numbered.rows_insert hid, List.map_append]
    refine List.nodup_append.mpr ⟨h.keys, List.nodup_singleton _, ?_⟩
    simpa using hkey
  ids := by
    rw [h.numbered.rows_insert hid, List.map_append]
    refine List.nodup_append.mpr ⟨h.ids, List.nodup_singleton _, ?_⟩
    have hlt : ∀ r ∈ t.rows, r.id ≠ row.id := fun r hr he => by
      have hle : r.id ≤ t.lastId := h.numbered r hr
      rw [he, hid, Table.nextId] at hle
      omega
    simpa using hlt
  numbered := h.numbered.insert hid

/-- Deleting rows keeps a table orderly. -/
theorem filter (h : Orderly t) (keep : Row → Bool) : Orderly (t.filter keep) where
  keys := h.keys.sublist (List.filter_sublist.map _)
  ids := h.ids.sublist (List.filter_sublist.map _)
  numbered := h.numbered.filter keep

end Orderly

/-! ### Looking leases up -/

/-- A new row is the one of its key. -/
theorem Orderly.lease?_insert (h : Orderly t) (ht : db.leases = some t) {row : Row}
    (hid : row.id = t.nextId) (hfree : ∀ r ∈ t.rows, r.key ≠ row.key) (key : String) :
    (db.withLeases (t.insert row)).lease? key =
      if key = row.key then some row else db.lease? key := by
  refine Option.ext fun r => ?_
  rw [(h.insert hid hfree).lease?_eq_some_iff leases_withLeases, Table.mem_insert]
  by_cases hkey : key = row.key
  · subst hkey
    rw [if_pos rfl]
    constructor
    · rintro ⟨rfl | hr, hk⟩
      · rfl
      · exact absurd hk (hfree r hr)
    · intro hr
      obtain rfl := Option.some.inj hr
      exact ⟨.inl rfl, rfl⟩
  · rw [if_neg hkey, h.lease?_eq_some_iff ht]
    constructor
    · rintro ⟨rfl | hr, hk⟩
      · exact absurd hk.symm hkey
      · exact ⟨hr, hk⟩
    · exact fun ⟨hr, hk⟩ => ⟨.inr hr, hk⟩

/-- Of the rows that are kept, the row of a key is the one it had. -/
theorem Orderly.lease?_filter (h : Orderly t) (ht : db.leases = some t) (keep : Row → Bool)
    (key : String) :
    (db.withLeases (t.filter keep)).lease? key = (db.lease? key).filter keep := by
  refine Option.ext fun r => ?_
  rw [(h.filter keep).lease?_eq_some_iff leases_withLeases, Table.mem_filter,
    Option.filter_eq_some_iff, h.lease?_eq_some_iff ht]
  exact and_right_comm

/-- A key keeps its row when none of its own is deleted. -/
theorem Orderly.lease?_filter_of_kept (h : Orderly t) (ht : db.leases = some t) {keep : Row → Bool}
    (hkeep : ∀ r ∈ t.rows, r.key = key → keep r = true) :
    (db.withLeases (t.filter keep)).lease? key = db.lease? key := by
  refine Option.ext fun r => ?_
  rw [h.lease?_filter ht, Option.filter_eq_some_iff]
  exact and_iff_left_of_imp fun hr =>
    let ⟨hmem, hkey⟩ := (h.lease?_eq_some_iff ht).mp hr
    hkeep r hmem hkey

/-! ### Statements -/

theorem execute_findLease (ht : db.leases = some t) (key : String) :
    execute (.findLease key) db = (.ok (db.lease? key), db) := by
  simp only [execute, lease?, leaseRows, ht, readable]
  rfl

/-- An insert for a key that has no row puts one there. -/
theorem execute_insertLease_of_free (ht : db.leases = some t) (hfree : ∀ r ∈ t.rows, r.key ≠ key)
    (token : String) (expiresAt createdAt : Timestamp) :
    let row : Row := ⟨t.nextId, key, token, expiresAt, createdAt⟩
    execute (.insertLease key token expiresAt createdAt) db =
      (.ok row, db.withLeases (t.insert row)) := by
  have hany : (t.rows.any fun r => r.key == key) = false :=
    List.any_eq_false.mpr fun r hr => by simpa using hfree r hr
  simp only [execute, Database.insertLease, ht, writable]
  show written db (do
    refuseUnless (!t.rows.any fun r => r.key == key) _
    pure (_, _)) = _
  rw [hany]
  rfl

/-- An insert for a key that has a row is refused by the unique index. -/
theorem execute_insertLease_of_taken (ht : db.leases = some t) {r : Row} (hr : r ∈ t.rows)
    (hkey : r.key = key) (token : String) (expiresAt createdAt : Timestamp) :
    execute (.insertLease key token expiresAt createdAt) db =
      (.error (Refusal.sameColumns .leases ["lease_key"]).onWrite, db) := by
  have hany : (t.rows.any fun r => r.key == key) = true :=
    List.any_eq_true.mpr ⟨r, hr, by simpa using hkey⟩
  simp only [execute, Database.insertLease, ht, writable]
  show written db (do
    refuseUnless (!t.rows.any fun r => r.key == key) _
    pure (_, _)) = _
  rw [hany]
  rfl

theorem execute_deleteLease (ht : db.leases = some t) (id : Int) (token : String) :
    execute (.deleteLease id token) db =
      (.ok (), db.withLeases (t.filter fun l => !(l.id == id && l.token == token))) := by
  simp only [execute, deleteLeases, ht, writable]
  rfl

theorem execute_releaseLease (ht : db.leases = some t) (key token : String) :
    execute (.releaseLease key token) db =
      (.ok (), db.withLeases (t.filter fun l => !(l.key == key && l.token == token))) := by
  simp only [execute, deleteLeases, ht, writable]
  rfl

end ImportTracking.Database
