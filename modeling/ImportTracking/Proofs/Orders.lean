import ImportTracking.Proofs.FanOut
import ImportTracking.Proofs.Numbers
import ImportTracking.Proofs.Traces

/-!
# Orders — fan-outs at the same time

Any number of fan-outs are ordered, of any trackers and in any numbers of batches, and their calls
interleave in any order.  Each looks for a batch, inserts it if it is missing, looks again if
another fan-out was faster, and asks for its job, which may be refused.

* `Does`, `does_of_knows`: all that a call can do to the batches.
* `knows_own`: what a fan-out knows of the batches that are there, from call to call.
* `orders_steady`: what holds of every history of such fan-outs.
-/

namespace ImportTracking.Batch

open Database (Tidy Statement)
open Pool (Exchange)
open Work (Scene Surroundings)

/-- A fan-out that is asked for. -/
structure Order where
  tracker : Tracker
  count : Nat

/-- The order as it is carried out. -/
def Order.program (o : Order) : Program Work (Except Fault (List Batch)) :=
  (enqueueAll o.tracker o.count).run

section
variable {σ : Type}

/-- What a fan-out asks, and is told. -/
abbrev Deed (σ : Type) := Exchange Work (Scene σ)

/-- Why an order is not carried out to its end: it is for too many batches, a job of its own was
refused, or there is no such tracker. -/
inductive Blame (start : Database) (h : List (Deed σ)) (i : Nat) (o : Order) : Fault → Prop where
  | outOfRange (hc : maxCount < o.count) :
      Blame start h i o
        (.pipeline (.sourceFailed ("Batch count " ++ toString o.count ++ " out of range")))
  | refused {id : Int} {cause : Cause} {sc sc' : Scene σ}
      (hx : ⟨i, .request (.scheduleBatch id), .error cause, sc, sc'⟩ ∈ h) :
      Blame start h i o (.scheduling cause)
  | orphan (hp : start.hasTracker o.tracker.id = false) :
      Blame start h i o (.database Database.Refusal.noParent.onWrite)

/-- What holds of a history of calls `h` for some orders on a database that is `start` at first,
when the order at a place came to the end that `told` says, if it came to one. -/
structure Steady (orders : List Order) (start : Database) (h : List (Deed σ))
    (told : Nat → Option (Except Fault (List Batch))) : Prop where
  /-- At every time the batches of every tracker have the numbers from 1 on, each once. -/
  contiguous : ∀ x ∈ h, x.after.database.Contiguous
  /-- Batches are added after those that are there, and these stay as they are. -/
  lasting : ∀ x ∈ h, x.before.database.batchRows <+: x.after.database.batchRows
  /-- An order that failed is itself to blame, or its scheduler. -/
  blameless : ∀ i o f, orders[i]? = some o → told i = some (.error f) → Blame start h i o f

/-! ### What a fan-out does -/

/-- What is left to do for a batch when it was looked for again. -/
def reread (e : Database.Error) : Option Batch → Session.Task Batch
  | some batch => return batch
  | none => throw (.database e)

/-- What is left to do for a batch when its insert was tried. -/
def tried (trackerId number : Int) : Except Database.Error Batch → Session.Task Batch
  | .ok batch => return batch
  | .error e =>
    if e.isUniqueViolation then Session.query (.findBatch trackerId number) >>= reread e
    else throw (.database e)

theorem tried_of_unique {trackerId number : Int} {e : Database.Error}
    (hu : e.isUniqueViolation = true) :
    tried trackerId number (.error e) =
      Session.query (.findBatch trackerId number) >>= reread e :=
  if_pos hu

theorem tried_of_other {trackerId number : Int} {e : Database.Error}
    (hu : e.isUniqueViolation = false) :
    tried trackerId number (.error e) = throw (.database e) :=
  if_neg (by simp [hu])

/-- What is left to do for a batch when the clock was read to insert it. -/
def create (trackerId number : Int) (now : Timestamp) : Session.Task Batch := do
  let r ← (Session.tryQuery (.insertBatch trackerId number Status.created.name now) :
    Program Session _)
  tried trackerId number r

/-- What is left to do for a batch when it was looked for. -/
def sought (trackerId number : Int) : Option Batch → Session.Task Batch
  | some batch => return batch
  | none => do
    let now ← (Session.now : Program Session Timestamp)
    create trackerId number now

theorem findOrCreate_eq (trackerId number : Int) :
    findOrCreate trackerId number =
      Session.query (.findBatch trackerId number) >>= sought trackerId number := by
  refine bind_congr fun found => ?_
  cases found with
  | some batch => rfl
  | none =>
      refine bind_congr fun now => bind_congr fun r => ?_
      cases r with
      | ok batch => rfl
      | error e =>
          refine ite_congr rfl (fun _ => bind_congr fun again => ?_) fun _ => rfl
          cases again <;> rfl

/-- What is left to do of a fan-out when it has a batch. -/
def onward (trackerId : Int) (count number : Nat) (batch : Batch) : Work.Task (List Batch) := do
  Work.expect .scheduling (Work.request (.scheduleBatch batch.id))
  let rest ← enqueueFrom trackerId count (number + 1)
  return batch :: rest

/-- A fan-out goes on that has some batches already. -/
def goOn (done : List Batch) (task : Work.Task (List Batch)) :
    Program Work (Except Fault (List Batch)) :=
  task.run.bind fun r => .done (r.map (done ++ ·))

theorem goOn_cons (done : List Batch) (batch : Batch) (task : Work.Task (List Batch)) :
    goOn done (task >>= fun rest => pure (batch :: rest)) = goOn (done ++ [batch]) task := by
  show (task.run.bind _).bind _ = _
  rw [Program.bind_assoc]
  refine congrArg _ (funext fun r => ?_)
  cases r with
  | ok rest =>
      show Program.done (Except.ok (done ++ batch :: rest)) = _
      rw [List.append_cons]
      rfl
  | error f => rfl

theorem goOn_nil (task : Work.Task (List Batch)) : goOn [] task = task.run := by
  refine (congrArg _ (funext fun r => ?_)).trans (Program.bind_done task.run)
  cases r <;> rfl

/-- What a fan-out knows at the program that it is left with: the batches before the number that
it is at are there. -/
inductive Knows (start : Database) (h : List (Deed σ)) (i : Nat) (o : Order) (db : Database) :
    Program Work (Except Fault (List Batch)) → Prop where
  | seeking {done : List Batch} {count number : Nat} (hn : 1 ≤ number)
      (hle : number ≤ db.height o.tracker.id + 1) :
      Knows start h i o db (goOn done (Work.onDatabase
        (Session.query (.findBatch o.tracker.id number) >>= sought o.tracker.id number) >>=
          onward o.tracker.id count number))
  | missing {done : List Batch} {count number : Nat} (hn : 1 ≤ number)
      (hle : number ≤ db.height o.tracker.id + 1) :
      Knows start h i o db (goOn done
        (Work.onDatabase (sought o.tracker.id number none) >>= onward o.tracker.id count number))
  | creating {done : List Batch} {count number : Nat} {now : Timestamp} (hn : 1 ≤ number)
      (hle : number ≤ db.height o.tracker.id + 1) :
      Knows start h i o db (goOn done
        (Work.onDatabase (create o.tracker.id number now) >>= onward o.tracker.id count number))
  | outrun {done : List Batch} {count number : Nat} {e : Database.Error} (hn : 1 ≤ number)
      (hle : number ≤ db.height o.tracker.id) :
      Knows start h i o db (goOn done (Work.onDatabase
        (Session.query (.findBatch o.tracker.id number) >>= reread e) >>=
          onward o.tracker.id count number))
  | scheduling {done : List Batch} {count number : Nat} {batch : Batch} (hn : 1 ≤ number)
      (hle : number ≤ db.height o.tracker.id) :
      Knows start h i o db (goOn done (onward o.tracker.id count number batch))
  | ended {r : Except Fault (List Batch)} (hr : ∀ f, r = .error f → Blame start h i o f) :
      Knows start h i o db (.done r)

/-- All that a call can do to the batches: nothing, or to add the next one of a tracker. -/
inductive Does (db : Database) : Database → Prop where
  | look : Does db db
  | add {row : Batch} (hid : row.id = db.nextBatchId)
      (hn : row.number = db.height row.trackerId + 1) : Does db (db.addBatch row)

/-- A statement, as it is executed. -/
theorem answer_query {others : Surroundings σ} {sc : Scene σ} {q : Statement}
    {r : Except Database.Error q.Result} {db : Database}
    (he : Database.execute q sc.database = (r, db)) :
    Scene.answer others (.session (.query q)) sc = (r, { sc with database := db }) := by
  rw [Work.answer_query, he]

variable {others : Surroundings σ} {sc : Scene σ} {start : Database} {h : List (Deed σ)} {i : Nat}
  {o : Order}

/-- What a fan-out asks next is one of what a call can do. -/
theorem does_of_knows (others : Surroundings σ) (ht : Tidy sc.database) {c : Work.Call}
    {next : Work.Reply c → Program Work (Except Fault (List Batch))}
    (hk : Knows start h i o sc.database (.call c next)) :
    Does sc.database (Scene.answer others c sc).2.database := by
  generalize hq : Program.call (I := Work) c next = q at hk
  cases hk with
  | seeking hn hle =>
      cases hq
      rw [answer_query (Database.execute_findBatch (ht.migrated _) _ _)]
      exact .look
  | outrun hn hle =>
      cases hq
      rw [answer_query (Database.execute_findBatch (ht.migrated _) _ _)]
      exact .look
  | missing hn hle =>
      cases hq
      exact .look
  | @creating _ _ number now hn hle =>
      cases hq
      obtain ⟨row, he, hid, htid, hnumber, -⟩ | ⟨e, he, -⟩ | ⟨he, -⟩ :=
        ht.execute_insertBatch hn hle Status.created.name now
      · rw [answer_query he]
        exact .add hid (htid.symm ▸ hnumber)
      · rw [answer_query he]
        exact .look
      · rw [answer_query he]
        exact .look
  | scheduling hn hle =>
      cases hq
      exact .look
  | ended => cases hq

/-- A fan-out that has the batches before a number looks for the next one, or is at its end. -/
theorem knows_enqueueFrom (done : List Batch) (count : Nat) {number : Nat} {db : Database}
    (hn : 1 ≤ number) (hle : number ≤ db.height o.tracker.id + 1) :
    Knows start h i o db (goOn done (enqueueFrom o.tracker.id count number)) := by
  cases count with
  | zero => exact .ended fun f hf => (nomatch hf)
  | succ count =>
      rw [show enqueueFrom o.tracker.id (count + 1) number =
        Work.onDatabase (findOrCreate o.tracker.id number) >>= onward o.tracker.id count number
        from rfl, findOrCreate_eq]
      exact .seeking hn hle

/-- What a fan-out knows when it was told what came of its call. -/
theorem knows_own (others : Surroundings σ) (ht : Tidy sc.database)
    (hp : ∀ id, sc.database.hasTracker id = start.hasTracker id) {c : Work.Call}
    {next : Work.Reply c → Program Work (Except Fault (List Batch))}
    (hk : Knows start h i o sc.database (.call c next)) :
    Knows start (h ++ [Pool.exchange (Scene.answer others) i c sc]) i o
      (Scene.answer others c sc).2.database (next (Scene.answer others c sc).1) := by
  generalize hq : Program.call (I := Work) c next = q at hk
  cases hk with
  | @seeking done count number hn hle =>
      cases hq
      unfold Pool.exchange
      rw [answer_query (Database.execute_findBatch (ht.migrated _) _ _)]
      cases hb : sc.database.batch? o.tracker.id number with
      | none => exact .missing hn hle
      | some b => exact .scheduling hn (ht.le_height_of_batch? hn hb)
  | @outrun done count number e hn hle =>
      cases hq
      unfold Pool.exchange
      rw [answer_query (Database.execute_findBatch (ht.migrated _) _ _)]
      cases hb : sc.database.batch? o.tracker.id number with
      | none =>
          -- rows are never deleted, so the row of whoever was faster is still there
          exact absurd ((ht.batch?_eq_none_iff hn).mp hb) (Nat.not_lt_of_le hle)
      | some b => exact .scheduling hn hle
  | missing hn hle =>
      cases hq
      exact .creating hn hle
  | @creating done count number now hn hle =>
      cases hq
      unfold Pool.exchange
      obtain ⟨row, he, hid, htid, -, hnext⟩ | ⟨e, he, hu, hthere⟩ | ⟨he, hno⟩ :=
        ht.execute_insertBatch hn hle Status.created.name now
      · rw [answer_query he]
        refine .scheduling hn ?_
        show number ≤ (sc.database.addBatch row).height o.tracker.id
        rw [← htid, ht.height_addBatch_self hid, htid, ← hnext]
      · rw [answer_query he]
        show Knows start _ i o sc.database (goOn done
          (Work.onDatabase (tried o.tracker.id number (.error e)) >>=
            onward o.tracker.id count number))
        rw [tried_of_unique hu]
        exact .outrun hn hthere
      · rw [answer_query he]
        show Knows start _ i o sc.database (goOn done (Work.onDatabase
          (tried o.tracker.id number (.error Database.Refusal.noParent.onWrite)) >>=
            onward o.tracker.id count number))
        rw [tried_of_other Database.isUniqueViolation_noParent]
        refine .ended fun f hf => ?_
        cases hf
        exact .orphan ((hp _).symm.trans hno)
  | @scheduling done count number batch hn hle =>
      cases hq
      unfold Pool.exchange
      cases hr : (Scene.answer others (.request (.scheduleBatch batch.id)) sc).1 with
      | ok u =>
          -- the batch joins those that are done, and the number that is next may be missing
          show Knows start _ i o sc.database (goOn done
            (enqueueFrom o.tracker.id count (number + 1) >>= fun rest => pure (batch :: rest)))
          rw [goOn_cons]
          exact knows_enqueueFrom _ _ (Nat.le_add_left _ _) (Nat.succ_le_succ hle)
      | error cause =>
          refine .ended fun f hf => ?_
          cases hf
          exact .refused (List.mem_append_right _ (List.mem_singleton_self _))
  | ended => cases hq

/-- What a fan-out knows stays so while others add batches. -/
theorem Knows.mono {p : Program Work (Except Fault (List Batch))} {h' : List (Deed σ)}
    {db db' : Database} (hk : Knows start h i o db p) (hh : h ⊆ h')
    (hd : db.height o.tracker.id ≤ db'.height o.tracker.id) : Knows start h' i o db' p := by
  cases hk with
  | seeking hn hle => exact .seeking hn (hle.trans (Nat.succ_le_succ hd))
  | missing hn hle => exact .missing hn (hle.trans (Nat.succ_le_succ hd))
  | creating hn hle => exact .creating hn (hle.trans (Nat.succ_le_succ hd))
  | outrun hn hle => exact .outrun hn (hle.trans hd)
  | scheduling hn hle => exact .scheduling hn (hle.trans hd)
  | ended hr =>
      refine .ended fun f hf => ?_
      cases hr f hf with
      | outOfRange hc => exact .outOfRange hc
      | refused hx => exact .refused (hh hx)
      | orphan hp => exact .orphan hp

/-! ### Histories -/

/-- What holds of the database at every time, and of the history so far. -/
structure Fits (start : Database) (h : List (Deed σ)) (sc : Scene σ) : Prop where
  tidy : Tidy sc.database
  trackers : ∀ id, sc.database.hasTracker id = start.hasTracker id
  contiguous : ∀ x ∈ h, x.after.database.Contiguous
  lasting : ∀ x ∈ h, x.before.database.batchRows <+: x.after.database.batchRows

namespace Does

variable {db db' : Database}

theorem tidy (hd : Does db db') (ht : Tidy db) : Tidy db' := by
  cases hd with
  | look => exact ht
  | add hid hn => exact ht.addBatch hid hn

theorem hasTracker (hd : Does db db') (id : Int) : db'.hasTracker id = db.hasTracker id := by
  cases hd <;> rfl

theorem lasting (hd : Does db db') (ht : Tidy db) : db.batchRows <+: db'.batchRows := by
  cases hd with
  | look => exact List.prefix_rfl
  | add hid => exact ⟨_, (ht.batchRows_addBatch hid).symm⟩

theorem height_le (hd : Does db db') (ht : Tidy db) (trackerId : Int) :
    db.height trackerId ≤ db'.height trackerId := by
  cases hd with
  | look => exact le_rfl
  | add hid => exact ht.height_le_addBatch hid trackerId

end Does

/-- Every call keeps the database tidy, and what every fan-out knows right. -/
theorem kept_answer (others : Surroundings σ) (orders : List Order) (start : Database) :
    Pool.Kept (Scene.answer others) (Fits start) fun h sc i p =>
      ∃ o, orders[i]? = some o ∧ Knows start h i o sc.database p where
  fits := by
    rintro h sc i c next hf ⟨o, -, hk⟩
    have hd := does_of_knows others hf.tidy hk
    refine ⟨hd.tidy hf.tidy, fun id => (hd.hasTracker id).trans (hf.trackers id), ?_, ?_⟩
    · exact List.forall_mem_append.mpr
        ⟨hf.contiguous, List.forall_mem_singleton.mpr (hd.tidy hf.tidy).contiguous⟩
    · exact List.forall_mem_append.mpr
        ⟨hf.lasting, List.forall_mem_singleton.mpr (hd.lasting hf.tidy)⟩
  own := by
    rintro h sc i c next hf ⟨o, ho, hk⟩
    exact ⟨o, ho, knows_own others hf.tidy hf.trackers hk⟩
  others := by
    rintro h sc i c next j p hf ⟨o, -, hk⟩ - ⟨o', ho', hp⟩
    have hd := does_of_knows others hf.tidy hk
    exact ⟨o', ho', hp.mono (List.subset_append_left _ _) (hd.height_le hf.tidy _)⟩

/-- An order begins with its first batch, or is refused for its size. -/
theorem knows_program (o : Order) (db : Database) : Knows start h i o db o.program := by
  unfold Order.program enqueueAll
  by_cases hc : o.count ≤ maxCount
  · rw [if_pos hc, ← goOn_nil]
    exact knows_enqueueFrom [] o.count le_rfl (Nat.le_add_left _ _)
  · rw [if_neg hc]
    refine .ended fun f hf => ?_
    cases hf
    exact .outOfRange (Nat.lt_of_not_le hc)

/-- An order that failed knows why. -/
theorem Knows.blame {p : Program Work (Except Fault (List Batch))} {db : Database} {f : Fault}
    (hk : Knows start h i o db p) (hp : p.value? = some (.error f)) : Blame start h i o f := by
  cases hk with
  | ended hr => exact hr f (Option.some.inj hp)
  | seeking | missing | creating | outrun | scheduling => cases hp

/-- **Fan-outs number the batches of every tracker without a gap**, whatever they are asked for,
however their calls interleave, and whichever of their jobs are refused. -/
theorem orders_steady (others : Surroundings σ) (orders : List Order) (sched : List Nat)
    (sc : Scene σ) (hm : sc.database.Migrated) (hnone : sc.database.batchRows = []) :
    Steady orders sc.database
      (Pool.trace (Scene.answer others) sched (orders.map Order.program) sc)
      (Pool.value?
        (Pool.runSchedule (Scene.answer others) sched (orders.map Order.program) sc).1) := by
  have hstart : ∀ i p, (orders.map Order.program)[i]? = some p →
      ∃ o, orders[i]? = some o ∧ Knows sc.database ([] : List (Deed σ)) i o sc.database p := by
    intro i p hp
    obtain ⟨o, ho, rfl⟩ := Option.map_eq_some_iff.mp (List.getElem?_map.symm.trans hp)
    exact ⟨o, ho, knows_program o _⟩
  have hfits : Fits sc.database [] sc :=
    ⟨.of_batchRows_eq_nil hm hnone, fun _ => rfl, List.forall_mem_nil _, List.forall_mem_nil _⟩
  obtain ⟨hf, hk⟩ := (kept_answer others orders sc.database).trace sched hfits hstart
  refine ⟨hf.contiguous, hf.lasting, fun i o f ho htold => ?_⟩
  obtain ⟨p, hp, hvalue⟩ := Option.bind_eq_some_iff.mp htold
  obtain ⟨o', ho', hknows⟩ := hk i p hp
  obtain rfl : o' = o := Option.some.inj (ho'.symm.trans ho)
  exact hknows.blame hvalue

end

/-- Two fan-outs race for the first batch of a tracker.  The one that loses goes on with the row of
the other, which stops later because a job of its own is refused. -/
theorem orders_steady_race :
    let reply : (r : Work.Request) → r.Reply
      | .scheduleBatch 2 => .error ⟨"queue closed", []⟩
      | r => Work.granted r
    let t : Tracker := default
    let orders : List Order := [⟨t, 2⟩, ⟨t, 1⟩]
    let sc : Scene Unit := ⟨.single default t, (), []⟩
    let answer := Scene.answer (Work.steady .epoch "" reply)
    let sched := [0, 1, 0, 1, 0, 1, 1, 1, 0, 0, 0, 0, 0]
    let r := Pool.runSchedule answer sched (orders.map Order.program) sc
    let told := Pool.value? r.1
    let numbersTold (x : Except Fault (List Batch)) := x.toOption.map (·.map (·.number))
    (sc.database.Migrated ∧ sc.database.batchRows = []) ∧
      (r.2.database.numbers t.id, r.1.map fun p => p.value?.map numbersTold) =
        ([1, 2], [some none, some (some [1])]) ∧
      Steady orders sc.database (Pool.trace answer sched (orders.map Order.program) sc) told := by
  intro reply t orders sc answer sched r told numbersTold
  have hm : sc.database.Migrated := Database.migrated_single _ _
  have hnone : sc.database.batchRows = [] := rfl
  exact ⟨⟨hm, hnone⟩, by decide +kernel, orders_steady _ orders sched sc hm hnone⟩

end ImportTracking.Batch
