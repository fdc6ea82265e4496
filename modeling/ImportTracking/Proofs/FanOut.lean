import ImportTracking.Batch.FanOut
import ImportTracking.Proofs.Course
import ImportTracking.Proofs.Rows

/-!
# Fan-out — the batches of a tracker

A fan-out finds or creates a row for every batch in turn and schedules a job for it, and stops at
the first job that is refused, or where there is no table of batches.  `FansOut` says this of the
requests it makes and of the rows it leaves.

* `plays_enqueueFrom`: every play of a fan-out is one.
* `FansOut.addBatches`: it adds batches of its tracker, and changes nothing else.
* `FansOut.scheduled`: when it gets to its end, every batch is there and its job accepted.
-/

namespace ImportTracking.Batch

open Work

/-- A batch of a number is there, or is added. -/
inductive Ensured (trackerId number : Int) (db : Database) (b : Batch) : Database → Prop where
  | found (h : db.batch? trackerId number = some b) : Ensured trackerId number db b db
  | created (htab : db.hasTable .batches = true) (h : db.batch? trackerId number = none)
      (hid : b.id = db.nextBatchId) (ht : b.trackerId = trackerId) (hn : b.number = number)
      (hs : b.status = Status.created.name) :
      Ensured trackerId number db b (db.addBatch b)

/-- The exchanges, the result and the rows of a fan-out from a number on. -/
inductive FansOut (trackerId : Int) : (count number : Nat) → Database → List Exchange →
    Except Fault (List Batch) → Database → Prop where
  | nil {number : Nat} {db : Database} : FansOut trackerId 0 number db [] (.ok []) db
  | cons {count number : Nat} {db db₁ db₂ : Database} {b : Batch} {log : List Exchange}
      {r : Except Fault (List Batch)} (he : Ensured trackerId number db b db₁)
      (hf : FansOut trackerId count (number + 1) db₁ log r db₂) :
      FansOut trackerId (count + 1) number db (⟨.scheduleBatch b.id, .ok ()⟩ :: log)
        (r.map (b :: ·)) db₂
  | refused {count number : Nat} {db db₁ : Database} {b : Batch} {cause : Cause}
      (he : Ensured trackerId number db b db₁) :
      FansOut trackerId (count + 1) number db [⟨.scheduleBatch b.id, .error cause⟩]
        (.error (.scheduling cause)) db₁
  | unreadable {count number : Nat} {db : Database} (h : db.hasTable .batches = false)
      (g : Database.Error) :
      FansOut trackerId (count + 1) number db [] (.error (.database g)) db

namespace Ensured

variable {trackerId number : Int} {db db' : Database} {b : Batch}

/-- The batch is the one asked for, and no other row is touched. -/
theorem spec (h : Ensured trackerId number db b db') :
    (b.trackerId = trackerId ∧ b.number = number) ∧ b ∈ db'.batchRows ∧
      (db' = db ∨ db' = db.addBatch b) := by
  cases h with
  | found h =>
      have hb : b.trackerId = trackerId ∧ b.number = number := by
        simpa using List.find?_some h
      exact ⟨hb, List.mem_of_find?_eq_some h, .inl rfl⟩
  | created htab _ _ ht hn _ =>
      exact ⟨⟨ht, hn⟩, (Database.mem_batchRows_addBatch htab).mpr (.inl rfl), .inr rfl⟩

theorem hasTable (h : Ensured trackerId number db b db') (name : Database.TableName) :
    db'.hasTable name = db.hasTable name := by
  obtain ⟨-, -, rfl | rfl⟩ := h.spec
  · rfl
  · exact Database.hasTable_addBatch

end Ensured

/-- A batch that is asked for is ensured, without a request; or there is no table of batches. -/
theorem plays_findOrCreate {κ : Clock} {trackerId number : Int} {db db' : Database}
    {log : List Exchange} {r : Except Fault Batch} (ht : db.hasTracker trackerId = true)
    (h : Plays κ (onDatabase (findOrCreate trackerId number)).run db log r db') :
    log = [] ∧ ((∃ b, r = .ok b ∧ Ensured trackerId number db b db') ∨
      db.hasTable .batches = false ∧ (∃ g, r = .error (.database g)) ∧ db' = db) := by
  cases htab : db.hasTable .batches with
  | false =>
      rw [findOrCreate,
        plays_query_bind_error (Database.execute_findBatch_of_none htab trackerId number)] at h
      obtain ⟨rfl, rfl, rfl⟩ := h
      exact ⟨rfl, .inr ⟨rfl, ⟨_, rfl⟩, rfl⟩⟩
  | true =>
      rw [findOrCreate, plays_query_bind_ok (Database.execute_findBatch htab trackerId number)] at h
      cases hb : db.batch? trackerId number with
      | some b =>
          rw [hb] at h
          obtain ⟨rfl, rfl, rfl⟩ := h
          exact ⟨rfl, .inl ⟨b, rfl, .found hb⟩⟩
      | none =>
          rw [hb] at h
          obtain ⟨now, -, h⟩ := plays_now_bind.mp h
          replace h := plays_tryQuery_bind.mp h
          rw [Database.execute_insertBatch htab hb ht] at h
          obtain ⟨rfl, rfl, rfl⟩ := h
          exact ⟨rfl, .inl ⟨_, rfl, .created htab hb rfl rfl rfl rfl⟩⟩

/-- **Every play of a fan-out is one.** -/
theorem plays_enqueueFrom {κ : Clock} {trackerId : Int} {count number : Nat} {db db' : Database}
    {log : List Exchange} {r : Except Fault (List Batch)} (ht : db.hasTracker trackerId = true)
    (h : Plays κ (enqueueFrom trackerId count number).run db log r db') :
    FansOut trackerId count number db log r db' := by
  -- one batch more is its row, its job, and a fan-out from the next number on
  induction count generalizing number db log r with
  | zero =>
      obtain ⟨rfl, rfl, rfl⟩ := h
      exact .nil
  | succ count ih =>
      obtain ⟨l₁, l₂, b, db₁, rfl, hb, hnext⟩ | ⟨f, rfl, hb⟩ := plays_task_bind.mp h
      · obtain ⟨rfl, ⟨b', hb', he⟩ | ⟨-, ⟨g, hg⟩, -⟩⟩ := plays_findOrCreate ht hb
        · cases hb'
          obtain ⟨-, -, hdb⟩ := he.spec
          obtain ⟨l₃, l₄, u, db₂, rfl, hs, hmore⟩ | ⟨f, rfl, hs⟩ := plays_task_bind.mp hnext
          · obtain ⟨reply, hreply, hok⟩ := plays_expect.mp hs
            obtain ⟨rfl, rfl⟩ := plays_request.mp hreply
            cases reply with
            | error cause => cases hok
            | ok u =>
                have ht₂ : db₂.hasTracker trackerId = true := by
                  obtain rfl | rfl := hdb <;> exact ht
                obtain ⟨l₅, l₆, bs, db₃, rfl, hrest, hend⟩ | ⟨f, rfl, hrest⟩ :=
                  plays_task_bind.mp hmore
                · obtain ⟨rfl, rfl, rfl⟩ := plays_pure.mp hend
                  rw [List.append_nil]
                  exact .cons he (ih ht₂ hrest)
                · exact .cons he (ih ht₂ hrest)
          · obtain ⟨reply, hreply, herr⟩ := plays_expect.mp hs
            obtain ⟨rfl, rfl⟩ := plays_request.mp hreply
            cases reply with
            | ok u => cases herr
            | error cause =>
                cases herr
                exact .refused he
        · cases hg
      · obtain ⟨rfl, ⟨b, hb', -⟩ | ⟨htab, ⟨g, hg⟩, rfl⟩⟩ := plays_findOrCreate ht hb
        · cases hb'
        · cases hg
          exact .unreadable htab g

namespace FansOut

variable {trackerId : Int} {count number : Nat} {db db' : Database} {log : List Exchange}
  {r : Except Fault (List Batch)}

/-- **A fan-out adds batches of its tracker**, and changes nothing else. -/
theorem addBatches (h : FansOut trackerId count number db log r db') :
    ∃ rows : List Batch, (∀ b ∈ rows, b.trackerId = trackerId) ∧ db' = db.addBatches rows := by
  induction h with
  | nil | unreadable => exact ⟨[], List.forall_mem_nil _, rfl⟩
  | cons he hf ih =>
      obtain ⟨⟨hb, -⟩, -, rfl | rfl⟩ := he.spec
      · exact ih
      · obtain ⟨rows, hrows, rfl⟩ := ih
        exact ⟨_ :: rows, List.forall_mem_cons.mpr ⟨hb, hrows⟩, rfl⟩
  | refused he =>
      obtain ⟨⟨hb, -⟩, -, rfl | rfl⟩ := he.spec
      · exact ⟨[], List.forall_mem_nil _, rfl⟩
      · exact ⟨[_], List.forall_mem_singleton.mpr hb, rfl⟩

/-- No pipeline runs in a fan-out, and no pipeline job is scheduled. -/
theorem idle (h : FansOut trackerId count number db log r db') :
    accepted log = [] ∧ runs log = [] := by
  induction h with
  | nil | unreadable => exact ⟨rfl, rfl⟩
  | cons he hf ih => exact ih
  | refused he => exact ⟨rfl, rfl⟩

/-- A fan-out that stops half-way was refused a job, or its batches cannot be read. -/
theorem error (h : FansOut trackerId count number db log r db') {f : Fault} (hr : r = .error f) :
    (∃ cause, f = .scheduling cause) ∨ ∃ g, f = .database g := by
  induction h with
  | nil => cases hr
  | @cons _ _ _ _ _ _ _ r _ hf ih =>
      cases r with
      | ok bs => cases hr
      | error f' =>
          cases hr
          exact ih rfl
  | @refused _ _ _ _ _ cause _ =>
      cases hr
      exact .inl ⟨cause, rfl⟩
  | unreadable _ g =>
      cases hr
      exact .inr ⟨g, rfl⟩

/-- **At the end of a fan-out every batch is there**, and a job for it was accepted. -/
theorem scheduled (htab : db.hasTable .batches = true)
    (h : FansOut trackerId count number db log r db') {bs : List Batch} (hr : r = .ok bs) (k : Nat)
    (hk : number ≤ k) (hk' : k < number + count) :
    ∃ b ∈ db'.batchRows, b.trackerId = trackerId ∧ b.number = k ∧
      ⟨.scheduleBatch b.id, .ok ()⟩ ∈ log := by
  induction h generalizing bs with
  | nil => omega
  | @cons count number db db₁ db₂ b log r he hf ih =>
      obtain ⟨bs', rfl⟩ : ∃ bs', r = .ok bs' := by
        cases r with
        | ok bs' => exact ⟨bs', rfl⟩
        | error f => cases hr
      obtain ⟨⟨hbt, hbn⟩, hb, -⟩ := he.spec
      have htab₁ := (he.hasTable .batches).trans htab
      rcases Nat.eq_or_lt_of_le hk with rfl | hlt
      · obtain ⟨rows, -, rfl⟩ := hf.addBatches
        exact ⟨b, (Database.mem_batchRows_addBatches rows htab₁).mpr (.inr hb), hbt, hbn,
          List.mem_cons_self⟩
      · obtain ⟨b', hb', ht', hn', hlog⟩ := ih htab₁ rfl hlt (by omega)
        exact ⟨b', hb', ht', hn', List.mem_cons_of_mem _ hlog⟩
  | refused | unreadable => cases hr

end FansOut

end ImportTracking.Batch
