import ImportTracking.Proofs.FanOut
import ImportTracking.Proofs.Integrity
import ImportTracking.Proofs.Numbers
import Mathlib.Algebra.Group.Nat.Defs

/-!
# Filling — the rows that a fan-out leaves

A fan-out fills the gaps among the batches of a tracker: of the numbers that it came through every
one has a row, the one that was there or a new one, and no other row is touched (`Fills`).  The
jobs are scheduled in the order of the numbers (`Schedules`), so that one that is refused says how
far the fan-out came.

* `Fills.cons`: what one batch more does to the rows.
* `FansOut.fills`: what a fan-out leaves, wherever it stops.
* `enqueueAll_fills`: the same of every course of a fan-out from 1 on, and which of them succeed.
-/

namespace ImportTracking

namespace Database

variable {db : Database}

theorem nextId_batches (h : db.hasTable .batches = true) : db.nextId .batches = db.nextBatchId := by
  obtain ⟨t, ht⟩ := batches_of_hasTable h
  rw [nextBatchId_eq ht, nextId, lastId?, ht]
  rfl

/-- In a whole database the batches of a tracker that is not there are not there either. -/
theorem Integral.batch?_eq_none (h : db.Integral) {trackerId : Int}
    (ht : db.hasTracker trackerId = false) (number : Int) : db.batch? trackerId number = none := by
  refine List.find?_eq_none.mpr fun b hb hkey => ?_
  obtain ⟨hbt, -⟩ : b.trackerId = trackerId ∧ b.number = number := by simpa using hkey
  have hparent := h.parents (.batch b) (batch_mem_records.mpr hb) _ rfl
  rw [← hasTracker_iff, hbt, ht] at hparent
  cases hparent

end Database

namespace Batch

open Work Database

variable {κ : Clock} {trackerId : Int} {db db₁ db₂ db' : Database} {b : Batch}

/-! ### One batch -/

namespace Ensured

variable {number : Int}

theorem mem_batchRows (h : Ensured trackerId number db b db₁) (x : Batch) :
    x ∈ db₁.batchRows ↔ x = b ∨ x ∈ db.batchRows := by
  cases h with
  | found h =>
      have hb := List.mem_of_find?_eq_some h
      exact ⟨.inr, fun hx => hx.elim (fun hx => hx ▸ hb) fun hx => hx⟩
  | created htab => exact mem_batchRows_addBatch htab

/-- A batch that was not there is new. -/
theorem status (h : Ensured trackerId number db b db₁) (hb : b ∉ db.batchRows) :
    b.status = Status.created.name := by
  cases h with
  | found h => exact absurd (List.mem_of_find?_eq_some h) hb
  | created _ _ _ _ _ hs => exact hs

/-- A batch that was there is the one. -/
theorem eq_of_mem (h : Ensured trackerId number db b db₁) (hdb : db.Integral) {x : Batch}
    (hx : x ∈ db.batchRows) (ht : x.trackerId = trackerId) (hn : x.number = number) : x = b := by
  cases h with
  | found h =>
      obtain ⟨⟨hbt, hbn⟩, hb, -⟩ := (Ensured.found h).spec
      exact List.inj_on_of_nodup_map hdb.nodup_batches hx hb (by rw [ht, hn, hbt, hbn])
  | created _ h =>
      have hno := List.find?_eq_none.mp h x hx
      simp [ht, hn] at hno

/-- A batch more leaves the rest of the database, -/
theorem rest (h : Ensured trackerId number db b db₁) : { db₁ with batches := db.batches } = db := by
  cases h <;> rfl

/-- and leaves it whole. -/
theorem integral (h : Ensured trackerId number db b db₁) (hdb : db.Integral)
    (ht : db.hasTracker trackerId = true) : db₁.Integral := by
  cases h with
  | found => exact hdb
  | created htab h hid hbt hbn =>
      have hparent : (Record.batch b).parent? = some (.trackers, trackerId) := by rw [← hbt]; rfl
      refine (integral_add_iff (r := .batch b) hdb htab).mpr ⟨?_, ?_, hdb.key_ne ?_⟩
      · rw [orphan_iff hparent, not_not]
        exact hasTracker_iff.mp ht
      · simp [taken_batch_iff, any_sameBatch, hbt, hbn, h]
      · exact hid.trans (nextId_batches htab).symm

theorem hasTracker (h : Ensured trackerId number db b db₁) (id : Int) :
    db₁.hasTracker id = db.hasTracker id := by
  cases h <;> rfl

end Ensured

/-! ### The rows of a fan-out -/

/-- From `db` to `db'` every one of the numbers `ns` got a row; the rows are `bs`. -/
structure Fills (trackerId : Int) (ns : List Int) (db : Database) (bs : List Batch)
    (db' : Database) : Prop where
  /-- The rows are of the tracker, and have the numbers in their order. -/
  own : ∀ b ∈ bs, b.trackerId = trackerId
  numbers : bs.map (·.number) = ns
  nodup_ids : (bs.map (·.id)).Nodup
  /-- A row that was there is one of them, -/
  reused : ∀ b ∈ db.batchRows, b.trackerId = trackerId → b.number ∈ ns → b ∈ bs
  /-- and one that was not there is new. -/
  created : ∀ b ∈ bs, b ∉ db.batchRows → b.status = Status.created.name
  /-- All rows that were there still are, and they are all there is beside the new ones. -/
  rows : ∀ b, b ∈ db'.batchRows ↔ b ∈ db.batchRows ∨ b ∈ bs
  untouched : ∀ b, b.trackerId ≠ trackerId ∨ b.number ∉ ns →
    (b ∈ db'.batchRows ↔ b ∈ db.batchRows)
  rest : { db' with batches := db.batches } = db
  integral : db'.Integral

namespace Fills

variable {ns : List Int} {bs : List Batch}

/-- That the ids differ, and that other rows are untouched, follows from the rest. -/
theorem of_rows (hns : ns.Nodup) (hown : ∀ b ∈ bs, b.trackerId = trackerId)
    (hnumbers : bs.map (·.number) = ns)
    (hreused : ∀ b ∈ db.batchRows, b.trackerId = trackerId → b.number ∈ ns → b ∈ bs)
    (hcreated : ∀ b ∈ bs, b ∉ db.batchRows → b.status = Status.created.name)
    (hrows : ∀ b, b ∈ db'.batchRows ↔ b ∈ db.batchRows ∨ b ∈ bs)
    (hrest : { db' with batches := db.batches } = db) (hdb' : db'.Integral) :
    Fills trackerId ns db bs db' where
  own := hown
  numbers := hnumbers
  nodup_ids := by
    have hbs : bs.Nodup := .of_map (·.number) (by rwa [hnumbers])
    -- no two rows of a table have one id
    refine hbs.map_on fun x hx y hy hid => ?_
    have hkey := List.inj_on_of_nodup_map hdb'.keys
      (batch_mem_records.mpr ((hrows x).mpr (.inr hx)))
      (batch_mem_records.mpr ((hrows y).mpr (.inr hy))) (Prod.ext rfl hid)
    exact Record.batch.inj hkey
  reused := hreused
  created := hcreated
  rows := hrows
  untouched x hx := by
    rw [hrows, or_iff_left_iff_imp]
    intro hmem
    exfalso
    obtain ht | hn := hx
    · exact ht (hown x hmem)
    · exact hn (hnumbers ▸ List.mem_map_of_mem hmem)
  rest := hrest
  integral := hdb'

theorem nil (hdb : db.Integral) : Fills trackerId [] db [] db :=
  of_rows .nil (List.forall_mem_nil _) rfl (fun _ _ _ hn => nomatch hn) (List.forall_mem_nil _)
    (fun _ => by simp) rfl hdb

/-- **One batch more** is one number more. -/
theorem cons {k : Int} (hns : (k :: ns).Nodup) (hdb : db.Integral)
    (he : Ensured trackerId k db b db₁) (hf : Fills trackerId ns db₁ bs db₂) :
    Fills trackerId (k :: ns) db (b :: bs) db₂ := by
  obtain ⟨⟨hbt, hbn⟩, -, -⟩ := he.spec
  refine of_rows hns ?own ?numbers ?reused ?created ?rows ?rest hf.integral
  case own => exact List.forall_mem_cons.mpr ⟨hbt, hf.own⟩
  case numbers => rw [List.map_cons, hbn, hf.numbers]
  case reused =>
    intro x hx ht hn
    rcases List.mem_cons.mp hn with hn | hn
    · exact he.eq_of_mem hdb hx ht hn ▸ List.mem_cons_self
    · exact List.mem_cons_of_mem _ (hf.reused x ((he.mem_batchRows x).mpr (.inr hx)) ht hn)
  case created =>
    refine List.forall_mem_cons.mpr ⟨he.status, fun x hx hnew => hf.created x hx fun hx₁ => ?_⟩
    -- the first batch is not among the others, which have other numbers
    rcases (he.mem_batchRows x).mp hx₁ with rfl | hold
    · refine (List.nodup_cons.mp hns).1 ?_
      rw [← hbn, ← hf.numbers]
      exact List.mem_map_of_mem hx
    · exact hnew hold
  case rows =>
    intro x
    rw [hf.rows, he.mem_batchRows, List.mem_cons]
    tauto
  case rest =>
    have hrest := hf.rest
    have hrest₁ := he.rest
    rw [← hrest] at hrest₁
    exact hrest₁

end Fills

/-! ### The requests of a fan-out -/

/-- The job of a batch was accepted. -/
def scheduled (b : Batch) : Exchange := ⟨.scheduleBatch b.id, .ok ()⟩

/-- The requests and the result of a fan-out that came through the rows `bs`. -/
inductive Schedules (trackerId : Int) (db : Database) (count : Nat) :
    List Batch → List Exchange → Except Fault (List Batch) → Prop where
  | all {bs : List Batch} (h : bs.length = count) :
      Schedules trackerId db count bs (bs.map scheduled) (.ok bs)
  | stopped (bs : List Batch) {b : Batch} (cause : Cause) :
      Schedules trackerId db count (bs ++ [b])
        (bs.map scheduled ++ [⟨.scheduleBatch b.id, .error cause⟩]) (.error (.scheduling cause))
  | unwritable (bs : List Batch)
      (h : db.hasTable .batches = false ∨ db.hasTracker trackerId = false) (g : Database.Error) :
      Schedules trackerId db count bs (bs.map scheduled) (.error (.database g))

/-- One batch more is one request more. -/
theorem Schedules.cons {count : Nat} {bs : List Batch} {log : List Exchange}
    {r : Except Fault (List Batch)} {number : Int} (he : Ensured trackerId number db b db₁)
    (h : Schedules trackerId db₁ count bs log r) :
    Schedules trackerId db (count + 1) (b :: bs) (⟨.scheduleBatch b.id, .ok ()⟩ :: log)
      (r.map (b :: ·)) := by
  cases h with
  | all h => exact .all (congrArg (· + 1) h)
  | stopped bs cause => exact .stopped (b :: bs) cause
  | unwritable _ h g =>
      rw [he.hasTable, he.hasTracker] at h
      exact .unwritable (b :: bs) h g

section
variable {count : Nat} {bs : List Batch} {log : List Exchange} {r : Except Fault (List Batch)}

/-- A job that was accepted was not refused. -/
theorem refused_notMem_map_scheduled (bs : List Batch) (id : Int) (cause : Cause) :
    (⟨.scheduleBatch id, .error cause⟩ : Exchange) ∉ bs.map scheduled := by
  intro h
  obtain ⟨b, -, hb⟩ := List.mem_map.mp h
  cases hb

namespace Schedules

theorem of_ok (h : Schedules trackerId db count bs log r) {bs' : List Batch} (hr : r = .ok bs') :
    bs' = bs ∧ bs.length = count ∧ log = bs.map scheduled := by
  cases h with
  | all hlen =>
      cases hr
      exact ⟨rfl, hlen, rfl⟩
  | stopped | unwritable => cases hr

/-- A job that is refused is the last one, and the fault is that. -/
theorem of_refused (h : Schedules trackerId db count bs log r) {k : Nat} {id : Int} {cause : Cause}
    (hk : log[k]? = some ⟨.scheduleBatch id, .error cause⟩) :
    r = .error (.scheduling cause) ∧ ∃ init b, bs = init ++ [b] ∧ init.length = k ∧ b.id = id ∧
      log = init.map scheduled ++ [⟨.scheduleBatch id, .error cause⟩] := by
  cases h with
  | all | unwritable =>
      exact absurd (List.mem_of_getElem? hk) (refused_notMem_map_scheduled _ id cause)
  | @stopped init b =>
      rw [List.getElem?_append] at hk
      split at hk
      · exact absurd (List.mem_of_getElem? hk) (refused_notMem_map_scheduled _ id cause)
      · rw [List.getElem?_singleton, Option.ite_some_none_eq_some] at hk
        obtain ⟨hzero, hlast⟩ := hk
        cases hlast
        rw [List.length_map] at *
        exact ⟨rfl, init, b, rfl, by omega, rfl, rfl⟩

/-- With a tracker and a table of batches, and no job refused, a fan-out comes to its end. -/
theorem exists_ok (h : Schedules trackerId db count bs log r) (htab : db.hasTable .batches = true)
    (ht : db.hasTracker trackerId = true)
    (hnone : ∀ id cause, (⟨.scheduleBatch id, .error cause⟩ : Exchange) ∉ log) :
    ∃ bs, r = .ok bs := by
  cases h with
  | all => exact ⟨bs, rfl⟩
  | @stopped _ b cause => exact absurd (by simp) (hnone b.id cause)
  | unwritable _ h =>
      rw [htab, ht] at h
      simp at h

end Schedules

end

/-- The numbers from a number on. -/
def numbersFrom (number count : Nat) : List Int :=
  (List.range' number count).map fun k : Nat => (k : Int)

theorem numbersFrom_one (n : Nat) : numbersFrom 1 n = upTo n := by
  simp [numbersFrom, upTo, List.range'_eq_map_range, Function.comp_def, Int.add_comm]

theorem nodup_numbersFrom (number count : Nat) : (numbersFrom number count).Nodup :=
  List.Nodup.map (fun _ _ h => Int.ofNat.inj h) List.nodup_range'

/-- **A fan-out fills** the numbers that it came through, and schedules a job for each. -/
theorem FansOut.fills {count number : Nat} {log : List Exchange} {r : Except Fault (List Batch)}
    (hdb : db.Integral) (ht : db.hasTracker trackerId = true)
    (h : FansOut trackerId count number db log r db') :
    ∃ bs, Fills trackerId (numbersFrom number bs.length) db bs db' ∧
      Schedules trackerId db count bs log r := by
  -- the first batch is found or created, and the fan-out of the others begins where that left it
  induction h with
  | nil => exact ⟨[], .nil hdb, .all rfl⟩
  | @cons count number _ _ _ b _ _ he _ ih =>
      obtain ⟨bs, hfills, hschedules⟩ :=
        ih (he.integral hdb ht) ((he.hasTracker trackerId).trans ht)
      exact ⟨b :: bs, .cons (nodup_numbersFrom number (bs.length + 1)) hdb he hfills,
        hschedules.cons he⟩
  | @refused _ number _ _ b cause he =>
      exact ⟨[b], .cons (nodup_numbersFrom number 1) hdb he (.nil (he.integral hdb ht)),
        .stopped [] cause⟩
  | unreadable htab g => exact ⟨[], .nil hdb, .unwritable [] (.inl htab) g⟩

/-- Without its tracker no batch is found or created. -/
theorem plays_findOrCreate_of_orphan {number : Int} {log : List Exchange} {r : Except Fault Batch}
    (hdb : db.Integral) (ht : db.hasTracker trackerId = false)
    (h : Plays κ (onDatabase (findOrCreate trackerId number)).run db log r db') :
    log = [] ∧ (∃ g, r = .error (.database g)) ∧ db' = db := by
  have hnone := hdb.batch?_eq_none ht number
  cases htab : db.hasTable .batches with
  | false =>
      rw [findOrCreate,
        plays_query_bind_error (Database.execute_findBatch_of_none htab trackerId number)] at h
      obtain ⟨rfl, rfl, rfl⟩ := h
      exact ⟨rfl, ⟨_, rfl⟩, rfl⟩
  | true =>
      rw [findOrCreate, plays_query_bind_ok (Database.execute_findBatch htab trackerId number),
        hnone] at h
      obtain ⟨now, -, h⟩ := plays_now_bind.mp h
      replace h := plays_tryQuery_bind.mp h
      rw [Database.execute_insertBatch_of_orphan htab hnone ht] at h
      simp only [isUniqueViolation_noParent, Bool.false_eq_true, if_false] at h
      obtain ⟨rfl, rfl, rfl⟩ := h
      exact ⟨rfl, ⟨_, rfl⟩, rfl⟩

/-- **Every play of a fan-out** in a whole database fills the numbers that it came through. -/
theorem plays_enqueueFrom_fills {count number : Nat} {log : List Exchange}
    {r : Except Fault (List Batch)} (hdb : db.Integral)
    (h : Plays κ (enqueueFrom trackerId count number).run db log r db') :
    ∃ bs, Fills trackerId (numbersFrom number bs.length) db bs db' ∧
      Schedules trackerId db count bs log r := by
  cases ht : db.hasTracker trackerId with
  | true => exact (plays_enqueueFrom ht h).fills hdb ht
  | false =>
      cases count with
      | zero =>
          obtain ⟨rfl, rfl, rfl⟩ := h
          exact ⟨[], .nil hdb, .all rfl⟩
      | succ count =>
          obtain ⟨l₁, l₂, b, db₁, rfl, hb, -⟩ | ⟨f, rfl, hb⟩ := plays_task_bind.mp h
          · obtain ⟨-, ⟨g, hg⟩, -⟩ := plays_findOrCreate_of_orphan hdb ht hb
            cases hg
          · obtain ⟨rfl, ⟨g, hg⟩, rfl⟩ := plays_findOrCreate_of_orphan hdb ht hb
            cases hg
            exact ⟨[], .nil hdb, .unwritable [] (.inr ht) g⟩

/-- **One fan-out, end to end**, in a whole database.  One that succeeds fills the numbers from 1
to the count, and has had the job of every row accepted, in their order.  One whose job at some
place is refused ends with that, has filled the numbers up to that place, and has had the jobs
before it accepted.  Without a refusal it succeeds.  A count beyond the numbers of batches is a
terminal fault, and changes nothing. -/
theorem enqueueAll_fills {σ : Type} (others : Surroundings σ) (s : σ) (t : Tracker) (n : Nat)
    (db : Database) (hdb : db.Integral) :
    let x := course others (enqueueAll t n).run db s
    (n < 2 ^ 31 →
      (∀ bs, x.value = .ok bs →
        Fills t.id (upTo n) db bs x.database ∧ x.exchanges = bs.map scheduled) ∧
      (∀ k id cause, x.exchanges[k]? = some ⟨.scheduleBatch id, .error cause⟩ →
        x.value = .error (.scheduling cause) ∧ ∃ bs b, bs.length = k ∧ b.id = id ∧
          Fills t.id (upTo (k + 1)) db (bs ++ [b]) x.database ∧
          x.exchanges = bs.map scheduled ++ [⟨.scheduleBatch id, .error cause⟩]) ∧
      (db.hasTable .batches = true → db.hasTracker t.id = true →
        (∀ id cause, (⟨.scheduleBatch id, .error cause⟩ : Exchange) ∉ x.exchanges) →
        ∃ bs, x.value = .ok bs)) ∧
    (2 ^ 31 ≤ n →
      (∃ f, x.value = .error f ∧ f.isTerminal = true) ∧ x.exchanges = [] ∧ x.database = db) := by
  intro x
  have hplay : Plays .free (enqueueAll t n).run db x.exchanges x.value x.database :=
    plays_course others _ db s
  have hmax : maxCount + 1 = 2 ^ 31 := rfl
  constructor
  · intro hn
    rw [enqueueAll, if_pos (by omega)] at hplay
    obtain ⟨bs, hfills, hschedules⟩ := plays_enqueueFrom_fills hdb hplay
    rw [numbersFrom_one] at hfills
    refine ⟨fun bs' hbs' => ?_, fun k id cause hk => ?_, hschedules.exists_ok⟩
    · obtain ⟨rfl, rfl, hlog⟩ := hschedules.of_ok hbs'
      exact ⟨hfills, hlog⟩
    · obtain ⟨hr, init, b, rfl, rfl, hid, hlog⟩ := hschedules.of_refused hk
      rw [List.length_append] at hfills
      exact ⟨hr, init, b, rfl, hid, hfills, hlog⟩
  · intro hn
    rw [enqueueAll, if_neg (by omega)] at hplay
    obtain ⟨hlog, hr, hsame⟩ := plays_throw.mp hplay
    exact ⟨⟨_, hr, rfl⟩, hlog, hsame⟩

/-- Others at rest, but for a scheduler that accepts so many batch jobs and refuses the others. -/
def acceptingBatches (cause : Cause) : Surroundings Nat
  | .request (.scheduleBatch _), 0 => (.error cause, 0)
  | .request (.scheduleBatch _), n + 1 => (.ok (), n)
  | c, n => ((steady default "jid" granted c ()).1, n)

/-- Of a tracker the batches 2 and 5 are there: a fan-out in three adds the batches 1 and 3, and
one whose second job is refused adds the batch 1. -/
theorem enqueueAll_fills_three :
    let db := Upkeep.after blank
      [.up none, .insert "bulk_imports" 0 0, .insert "bulk_import_entities" 1 0,
        .insert "pipeline_trackers" 1 0, .insert "pipeline_batches" 1 2,
        .insert "pipeline_batches" 1 5]
    let t : Tracker := { (default : Tracker) with id := 1 }
    let x := course (acceptingBatches ⟨"down", []⟩) (enqueueAll t 3).run db 3
    let y := course (acceptingBatches ⟨"down", []⟩) (enqueueAll t 3).run db 1
    (x.value.toOption.map fun bs => bs.map (·.id)) = some [3, 1, 4] ∧
      (∀ bs, x.value = .ok bs →
        Fills 1 (upTo 3) db bs x.database ∧ x.exchanges = bs.map scheduled) ∧
      y.value = .error (.scheduling ⟨"down", []⟩) ∧
      ∃ bs b, bs.length = 1 ∧ b.id = 1 ∧ Fills 1 (upTo 2) db (bs ++ [b]) y.database ∧
        y.exchanges = bs.map scheduled ++ [⟨.scheduleBatch 1, .error ⟨"down", []⟩⟩] := by
  intro db t x y
  have hdb : db.Integral := (Upkeep.upkept_after .blank _).integral
  obtain ⟨hx, -⟩ := enqueueAll_fills (acceptingBatches ⟨"down", []⟩) 3 t 3 db hdb
  obtain ⟨hy, -⟩ := enqueueAll_fills (acceptingBatches ⟨"down", []⟩) 1 t 3 db hdb
  obtain ⟨hstopped, hfilled⟩ := (hy (by decide)).2.1 1 1 ⟨"down", []⟩ rfl
  exact ⟨by decide +kernel, (hx (by decide)).1, hstopped, hfilled⟩

end Batch

end ImportTracking
