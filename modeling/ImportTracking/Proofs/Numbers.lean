import ImportTracking.Proofs.Rows

/-!
# Numbers — the batches of a tracker

The batches of a tracker are `Contiguous` when they have the numbers from 1 on, without a gap and
each once.  A database is `Tidy` when those of all its trackers are so; the row that comes after
the last one of its tracker keeps it tidy, and any other insert is refused.

* `Tidy.batch?_eq_none_iff`: which batches are there can be told from how many there are.
* `Tidy.addBatch`: the next batch of a tracker keeps a database tidy, and stands after all others.
-/

namespace ImportTracking.Database

/-- The numbers from 1 to a number. -/
def upTo (m : Nat) : List Int := (List.range m).map fun k : Nat => (k : Int) + 1

theorem upTo_succ (m : Nat) : upTo (m + 1) = upTo m ++ [(m : Int) + 1] := by
  simp [upTo, List.range_succ]

theorem length_upTo (m : Nat) : (upTo m).length = m := by
  simp [upTo]

theorem mem_upTo {m n : Nat} (hn : 1 ≤ n) : (n : Int) ∈ upTo m ↔ n ≤ m := by
  unfold upTo
  rw [List.mem_map]
  constructor
  · rintro ⟨k, hk, he⟩
    have := List.mem_range.mp hk
    omega
  · intro h
    exact ⟨n - 1, List.mem_range.mpr (by omega), by omega⟩

/-- The numbers of the batches of a tracker, in the order of their rows. -/
def numbers (db : Database) (trackerId : Int) : List Int :=
  (db.batchRows.filter (·.trackerId == trackerId)).map (·.number)

/-- How many batches a tracker has. -/
def height (db : Database) (trackerId : Int) : Nat := (db.numbers trackerId).length

/-- The batches of every tracker have the numbers from 1 on, each once. -/
def Contiguous (db : Database) : Prop := ∀ trackerId, ∃ m, db.numbers trackerId = upTo m

/-- The batches are contiguous, and none has an id beyond the largest ever used. -/
structure Tidy (db : Database) : Prop where
  migrated : db.Migrated
  numbered : ∀ t, db.batches = some t → t.Numbered
  contiguous : db.Contiguous

variable {db : Database} {trackerId : Int} {number : Nat} {row : Batch}

theorem Contiguous.numbers_eq (h : db.Contiguous) (trackerId : Int) :
    db.numbers trackerId = upTo (db.height trackerId) := by
  obtain ⟨m, hm⟩ := h trackerId
  rw [height, hm, length_upTo]

theorem batch?_isSome_iff (db : Database) (trackerId number : Int) :
    (db.batch? trackerId number).isSome = true ↔ number ∈ db.numbers trackerId := by
  simp only [batch?, numbers, List.find?_isSome, List.mem_map, List.mem_filter,
    Bool.and_eq_true, beq_iff_eq]
  exact exists_congr fun b => and_assoc.symm

/-- The refusal by the unique index is told from other errors by its text, -/
theorem isUniqueViolation_sameBatch :
    (Refusal.sameColumns .batches ["tracker_id", "batch_number"]).onWrite.isUniqueViolation =
      true := by
  decide +kernel

/-- and the refusal of a row without a parent is not taken for it. -/
theorem isUniqueViolation_noParent : Refusal.noParent.onWrite.isUniqueViolation = false := by
  decide +kernel

theorem nextBatchId_eq {t : Table Batch} (ht : db.batches = some t) :
    db.nextBatchId = t.nextId := by
  rw [nextBatchId, ht]
  rfl

namespace Tidy

/-- A database without batches is tidy. -/
theorem of_batchRows_eq_nil (hm : db.Migrated) (hnone : db.batchRows = []) : Tidy db where
  migrated := hm
  numbered t ht := by
    have hrows : t.rows = [] := by rwa [batchRows, ht] at hnone
    intro r hr
    rw [hrows] at hr
    cases hr
  contiguous trackerId := ⟨0, by rw [numbers, hnone]; rfl⟩

/-- A batch is missing exactly when there are not so many. -/
theorem batch?_eq_none_iff (h : Tidy db) (hn : 1 ≤ number) :
    db.batch? trackerId number = none ↔ db.height trackerId < number := by
  rw [← Option.not_isSome_iff_eq_none, batch?_isSome_iff, h.contiguous.numbers_eq, mem_upTo hn]
  exact Nat.not_le

/-- A batch that is there is one of so many. -/
theorem le_height_of_batch? (h : Tidy db) (hn : 1 ≤ number) {b : Batch}
    (hb : db.batch? trackerId number = some b) : number ≤ db.height trackerId := by
  refine Nat.le_of_not_lt fun hlt => ?_
  rw [(h.batch?_eq_none_iff hn).mpr hlt] at hb
  cases hb

/-- The next batch of a tracker stands after all others, -/
theorem batchRows_addBatch (h : Tidy db) (hid : row.id = db.nextBatchId) :
    (db.addBatch row).batchRows = db.batchRows ++ [row] := by
  obtain ⟨t, ht⟩ := batches_of_hasTable (h.migrated _)
  simp only [batchRows, addBatch, ht, Option.map_some, Option.getD_some]
  exact (h.numbered t ht).rows_insert (hid.trans (nextBatchId_eq ht))

theorem numbers_addBatch (h : Tidy db) (hid : row.id = db.nextBatchId) (trackerId : Int) :
    (db.addBatch row).numbers trackerId =
      if row.trackerId = trackerId then db.numbers trackerId ++ [row.number]
      else db.numbers trackerId := by
  rw [numbers, h.batchRows_addBatch hid, List.filter_append, List.map_append]
  by_cases ht : row.trackerId = trackerId <;> simp [ht, numbers]

/-- The next batch of a tracker keeps a database tidy. -/
theorem addBatch (h : Tidy db) (hid : row.id = db.nextBatchId)
    (hn : row.number = db.height row.trackerId + 1) : Tidy (db.addBatch row) where
  migrated := migrated_addBatch.mpr h.migrated
  numbered t' ht' := by
    obtain ⟨t, ht⟩ := batches_of_hasTable (h.migrated _)
    rw [Database.addBatch, ht] at ht'
    obtain rfl := Option.some.inj ht'
    exact (h.numbered t ht).insert (hid.trans (nextBatchId_eq ht))
  contiguous trackerId := by
    rw [h.numbers_addBatch hid]
    by_cases ht : row.trackerId = trackerId
    · subst ht
      refine ⟨db.height row.trackerId + 1, ?_⟩
      rw [if_pos rfl, hn, h.contiguous.numbers_eq, upTo_succ]
    · rw [if_neg ht]
      exact h.contiguous trackerId

/-- No tracker has fewer batches for one that is added, -/
theorem height_le_addBatch (h : Tidy db) (hid : row.id = db.nextBatchId) (trackerId : Int) :
    db.height trackerId ≤ (db.addBatch row).height trackerId := by
  unfold height
  rw [h.numbers_addBatch hid]
  split <;> simp

/-- and its own has one more. -/
theorem height_addBatch_self (h : Tidy db) (hid : row.id = db.nextBatchId) :
    (db.addBatch row).height row.trackerId = db.height row.trackerId + 1 := by
  unfold height
  rw [h.numbers_addBatch hid, if_pos rfl, List.length_append, List.length_singleton]

/-- A batch whose number is not beyond the next one of its tracker is inserted if it is the next
one, and refused if it is there, or if its tracker is not. -/
theorem execute_insertBatch (h : Tidy db) (hn : 1 ≤ number)
    (hle : number ≤ db.height trackerId + 1) (status : String) (at_ : Timestamp) :
    let x := execute (.insertBatch trackerId number status at_) db
    (∃ row : Batch, x = (.ok row, db.addBatch row) ∧ row.id = db.nextBatchId ∧
      row.trackerId = trackerId ∧ row.number = db.height trackerId + 1 ∧
      number = db.height trackerId + 1) ∨
    (∃ e, x = (.error e, db) ∧ e.isUniqueViolation = true ∧ number ≤ db.height trackerId) ∨
    (x = (.error Refusal.noParent.onWrite, db) ∧ db.hasTracker trackerId = false) := by
  intro x
  cases hb : db.batch? trackerId number with
  | some b =>
      exact .inr (.inl ⟨_, execute_insertBatch_of_taken (h.migrated _) hb status at_,
        isUniqueViolation_sameBatch, h.le_height_of_batch? hn hb⟩)
  | none =>
      have hnext : number = db.height trackerId + 1 :=
        Nat.le_antisymm hle ((h.batch?_eq_none_iff hn).mp hb)
      cases hp : db.hasTracker trackerId with
      | false =>
          exact .inr (.inr ⟨execute_insertBatch_of_orphan (h.migrated _) hb hp status at_, rfl⟩)
      | true =>
          refine .inl ⟨_, Database.execute_insertBatch (h.migrated _) hb hp status at_, rfl, rfl,
            ?_, hnext⟩
          show (number : Int) = db.height trackerId + 1
          omega

end Tidy

end ImportTracking.Database
