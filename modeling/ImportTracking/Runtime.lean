import ImportTracking.Delivery

/-!
# Runtime — many invocations at once

The runtime takes the jobs out of the queue and handles each of them in a task of its own, an
`Errand`.  Jobs come out of the queue in any order, since every one of them has its own delay.  The
errands go on one call at a time, also in any order.  They share the database; what the others
answer is left open, from call to call.

A `Move` is that a job is received, or that an errand makes its next call.  A job that an errand
has accepted by the scheduler is put into the queue, and its `line` says which errands it descends
from.

Main statement: `step_cases` (all that a move can do).
-/

namespace ImportTracking

/-- A job in the queue, and the numbers of the errands that it descends from, the nearest first. -/
structure Runtime.Parcel where
  job : Job
  line : List Nat := []
deriving DecidableEq

/-- A job that is being handled. -/
structure Runtime.Errand where
  job : Job
  /-- The errands that the job descends from. -/
  line : List Nat
  /-- The key of the lease that was granted to the errand, until it releases it. -/
  holds : Option String := none
  /-- What is left to do. -/
  rest : Program Work Unit

/-- A call that an errand made. -/
structure Runtime.Deed where
  /-- The number of the errand. -/
  number : Nat
  /-- What it had left to do, this call first. -/
  rest : Program Work Unit
  call : Work.Call
  reply : Work.Reply call

/-- A database, the jobs in the queue, the jobs that are handled, and what was done for them. -/
structure Runtime where
  database : Database
  pending : List Runtime.Parcel := []
  /-- Every job that was received, in order; a job that was handled has nothing left to do. -/
  errands : List Runtime.Errand := []
  /-- The calls that were made, in order. -/
  deeds : List Runtime.Deed := []

namespace Runtime

/-- What the others would answer to any call. -/
abbrev Answers := (c : Work.Call) → Work.Reply c

/-- What can happen next. -/
inductive Move where
  /-- The job at a place of the queue is received. -/
  | receive (place : Nat)
  /-- The errand of a number makes its next call; the others answer so. -/
  | advance (number : Nat) (answers : Answers)

/-- The reply to a call, and the database then: statements are executed. -/
def reply (answers : Answers) : (c : Work.Call) → Database → Work.Reply c × Database
  | .session (.query s), db => Database.execute s db
  | c, db => (answers c, db)

/-- The job that a call puts into the queue. -/
def sent? : (c : Work.Call) → Work.Reply c → Option Job
  | .request (.schedulePipeline job _), .ok _ => some (.pipeline job)
  | .request (.scheduleBatch id), .ok _ => some (.batch id)
  | _, _ => none

/-- The key of the lease that an errand holds after a call. -/
def holdsAfter (held : Option String) : (c : Work.Call) → Work.Reply c → Option String
  | .request (.obtainLease key _), .ok (some _) => some key
  | .request (.releaseLease _), _ => none
  | _, _ => held

variable (c : Coordinator)

/-- The job at a place of the queue is received. -/
def receive (place : Nat) (rt : Runtime) : Runtime :=
  match rt.pending[place]? with
  | none => rt
  | some w =>
    { rt with
      pending := rt.pending.eraseIdx place
      errands := rt.errands ++ [{ job := w.job, line := w.line, rest := c.handle w.job }] }

/-- An errand makes a call, and goes on with the reply. -/
def make (number : Nat) (e : Errand) (call : Work.Call) (next : Work.Reply call → Program Work Unit)
    (r : Work.Reply call × Database) (rt : Runtime) : Runtime :=
  { database := r.2
    pending := rt.pending ++ (sent? call r.1).toList.map fun job => ⟨job, number :: e.line⟩
    errands := rt.errands.set number
      { e with holds := holdsAfter e.holds call r.1, rest := next r.1 }
    deeds := rt.deeds ++ [⟨number, e.rest, call, r.1⟩] }

/-- One move. -/
def step : Move → Runtime → Runtime
  | .receive place, rt => rt.receive c place
  | .advance number answers, rt =>
    match rt.errands[number]? with
    | none => rt
    | some e =>
      match e.rest with
      | .done _ => rt
      | .call call next => rt.make number e call next (reply answers call rt.database)

/-- The call that is made in a move, if one is. -/
def deed? (rt : Runtime) : Move → Option Deed
  | .receive _ => none
  | .advance number answers =>
    match rt.errands[number]? with
    | none => none
    | some e =>
      match e.rest with
      | .done _ => none
      | .call call _ => some ⟨number, e.rest, call, (reply answers call rt.database).1⟩

/-- Any number of moves. -/
def run (ms : List Move) (rt : Runtime) : Runtime := ms.foldl (fun rt m => rt.step c m) rt

/-- A runtime that starts with some jobs in the queue. -/
def start (db : Database) (jobs : List Job) : Runtime :=
  { database := db, pending := jobs.map fun job => { job := job } }

/-- No job is in the queue, and none is being handled. -/
def Quiet (rt : Runtime) : Prop := rt.pending = [] ∧ ∀ e ∈ rt.errands, e.rest.value?.isSome = true

instance (rt : Runtime) : Decidable rt.Quiet :=
  inferInstanceAs (Decidable (_ ∧ _))

/-- A move does nothing, or a job is received, or an errand makes a call. -/
theorem step_cases (m : Move) (rt : Runtime) :
    rt.step c m = rt ∧ rt.deed? m = none ∨
    (∃ place w, rt.pending[place]? = some w ∧ rt.deed? m = none ∧
      rt.step c m = rt.receive c place) ∨
    ∃ number e call next answers, rt.errands[number]? = some e ∧ e.rest = .call call next ∧
      rt.deed? m = some ⟨number, e.rest, call, (reply answers call rt.database).1⟩ ∧
      rt.step c m = rt.make number e call next (reply answers call rt.database) := by
  cases m with
  | receive place =>
      cases hw : rt.pending[place]? with
      | none => simp [step, receive, deed?, hw]
      | some w => exact .inr (.inl ⟨place, w, hw, rfl, rfl⟩)
  | advance number answers =>
      cases he : rt.errands[number]? with
      | none => simp [step, deed?, he]
      | some e =>
          cases hrest : e.rest with
          | done a => simp [step, deed?, he, hrest]
          | call call next =>
              exact .inr (.inr ⟨number, e, call, next, answers, he, hrest,
                by simp [deed?, he, hrest], by simp [step, he, hrest]⟩)

variable {c} {rt : Runtime}

/-- A call changes its errand, and no other one. -/
theorem errands_make {i : Nat} {e : Errand} {call : Work.Call}
    {next : Work.Reply call → Program Work Unit} {r : Work.Reply call × Database}
    (he : rt.errands[i]? = some e) (j : Nat) :
    (rt.make i e call next r).errands[j]? =
      if j = i then some { e with holds := holdsAfter e.holds call r.1, rest := next r.1 }
      else rt.errands[j]? := by
  have hlt : i < rt.errands.length := (List.getElem?_eq_some_iff.mp he).1
  by_cases hj : j = i
  · subst hj
    rw [if_pos rfl]
    exact List.getElem?_set_self hlt
  · rw [if_neg hj]
    exact List.getElem?_set_ne (Ne.symm hj)

/-- A job that is received has an errand of its own. -/
theorem errands_receive {place : Nat} {w : Parcel} (hw : rt.pending[place]? = some w) (j : Nat) :
    (rt.receive c place).errands[j]? =
      if j = rt.errands.length then some { job := w.job, line := w.line, rest := c.handle w.job }
      else rt.errands[j]? := by
  simp only [receive, hw]
  by_cases hj : j = rt.errands.length
  · subst hj
    rw [if_pos rfl, List.getElem?_concat_length]
  · rw [if_neg hj]
    obtain hlt | hgt := Nat.lt_or_gt_of_ne hj
    · exact List.getElem?_append_left hlt
    · rw [List.getElem?_eq_none_iff.mpr (Nat.le_of_lt hgt), List.getElem?_eq_none_iff]
      rw [List.length_append, List.length_singleton]
      exact hgt

/-- A job that is received is the only one that leaves the queue. -/
theorem mem_pending_receive {place : Nat} {w w' : Parcel} (hw : rt.pending[place]? = some w)
    (hmem : w' ∈ rt.pending) : w' = w ∨ w' ∈ (rt.receive c place).pending := by
  simp only [receive, hw]
  obtain ⟨j, hj⟩ := List.mem_iff_getElem?.mp hmem
  by_cases hjp : j = place
  · subst hjp
    exact .inl (Option.some.inj (hj.symm.trans hw))
  · exact .inr (List.mem_eraseIdx_iff_getElem?.mpr ⟨j, hjp, hj⟩)

theorem pending_receive_subset (c : Coordinator) (rt : Runtime) (place : Nat) :
    (rt.receive c place).pending ⊆ rt.pending := by
  unfold receive
  split
  · exact fun _ h => h
  · exact List.eraseIdx_subset

theorem database_receive (c : Coordinator) (rt : Runtime) (place : Nat) :
    (rt.receive c place).database = rt.database := by
  unfold receive
  split <;> rfl

theorem deeds_receive (c : Coordinator) (rt : Runtime) (place : Nat) :
    (rt.receive c place).deeds = rt.deeds := by
  unfold receive
  split <;> rfl

end Runtime

end ImportTracking
