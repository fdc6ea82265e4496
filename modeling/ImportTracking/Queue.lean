import ImportTracking.Duration
import ImportTracking.Job

/-!
# Queue — the queue of jobs

Jobs pass through a channel with room for a limited number of them, first in, first out.  A job
without delay enters the channel at once; when it finds no room, its sender gives up, or waits in
line and may give up later.  A job with a delay is accepted at once and enters when it is due;
when it finds no room then, it waits in line, and enters as places become free, before any job
sent later.

When the receiver closes the queue, what is in it is lost and nothing is accepted any more.

A queue does not look at what passes through it, and is one of any kind of load.

Main statements: `length_channel_letIn` (the channel never holds more than its capacity) and
`receive_append` (what is received and what is left make up what was there).
-/

namespace ImportTracking

/-- A queue of jobs, or of another kind of load. -/
structure Queue (α : Type := Job) where
  capacity : Nat
  /-- The time that has passed, in nanoseconds. -/
  now : Nat := 0
  /-- Whether the receiver is there. -/
  isOpen : Bool := true
  /-- The jobs in the channel, the oldest first. -/
  channel : List α := []
  /-- The jobs that are due and wait for room, the oldest first. -/
  waiting : List α := []
  /-- The jobs that are not due yet, with the instants when they are, in the order of those. -/
  delayed : List (Nat × α) := []
deriving Repr, Inhabited

namespace Queue

variable {α : Type}

/-- What a sender is told. -/
inductive Receipt where
  | accepted
  /-- There was no room, and the sender gave up. -/
  | blocked
  | closed
deriving DecidableEq, Repr

/-- What a sender is told when nobody receives any more. -/
def closedMessage : String := "Job queue is closed"

/-- Puts a job among those not due yet, after the ones that are due no later. -/
def placeDelayed (due : Nat) (job : α) : List (Nat × α) → List (Nat × α)
  | [] => [(due, job)]
  | d :: ds => if due < d.1 then (due, job) :: d :: ds else d :: placeDelayed due job ds

/-- Whether a job can enter the channel at once. -/
def hasRoom (q : Queue α) : Bool := q.waiting.isEmpty && q.channel.length < q.capacity

/-- Lets a job into the channel, or into the line before it. -/
def letIn (q : Queue α) (job : α) : Queue α :=
  if q.hasRoom then { q with channel := q.channel ++ [job] }
  else { q with waiting := q.waiting ++ [job] }

/-- Sends a job; without room for it the sender gives up. -/
def send (q : Queue α) (job : α) (delay : Duration) : Receipt × Queue α :=
  if !q.isOpen then (.closed, q)
  else if delay.nanos = 0 then
    if q.hasRoom then (.accepted, { q with channel := q.channel ++ [job] }) else (.blocked, q)
  else (.accepted, { q with delayed := placeDelayed (q.now + delay.nanos) job q.delayed })

/-- Sends a job without delay; without room for it the sender waits in line. -/
def enter (q : Queue α) (job : α) : Queue α := if q.isOpen then q.letIn job else q

/-- The queue after the sender in a place of the line gave up. -/
def leave (q : Queue α) (place : Nat) : Queue α :=
  { q with waiting := q.waiting.eraseIdx place }

/-- Lets time pass; the jobs that become due enter in the order of their instants. -/
def sleep (q : Queue α) (by_ : Duration) : Queue α :=
  let now := q.now + by_.nanos
  let due := (q.delayed.takeWhile fun d => d.1 ≤ now).map (·.2)
  let later := q.delayed.dropWhile fun d => d.1 ≤ now
  due.foldl letIn { q with now := now, delayed := later }

/-- Everything that can be received now, in order. -/
def available (q : Queue α) : List α := q.channel ++ q.waiting

/-- The queue with these jobs to be received, as many in the channel as there is room for. -/
def refill (q : Queue α) (jobs : List α) : Queue α :=
  { q with channel := jobs.take q.capacity, waiting := jobs.drop q.capacity }

/-- Receives up to `max` jobs; each one makes room for the next in line. -/
def receive (q : Queue α) (max : Option Nat) : List α × Queue α :=
  if q.isOpen then
    let jobs := q.available
    let n := max.getD jobs.length
    (jobs.take n, q.refill (jobs.drop n))
  else ([], q)

/-- Drops the receiver, and with it what is in the queue. -/
def close (q : Queue α) : Queue α :=
  { q with isOpen := false, channel := [], waiting := [], delayed := [] }

/-- The channel never holds more than its capacity. -/
theorem length_channel_letIn {q : Queue α} (h : q.channel.length ≤ q.capacity) (job : α) :
    (q.letIn job).channel.length ≤ (q.letIn job).capacity := by
  unfold letIn
  split
  · rename_i hr
    simp only [hasRoom, Bool.and_eq_true, decide_eq_true_eq] at hr
    simp; omega
  · exact h

theorem available_letIn {q : Queue α} (job : α) :
    (q.letIn job).available = q.available ++ [job] := by
  unfold letIn
  split
  · rename_i hr
    simp only [hasRoom, Bool.and_eq_true, List.isEmpty_iff] at hr
    simp [available, hr.1]
  · simp [available]

theorem available_refill (q : Queue α) (jobs : List α) :
    (q.refill jobs).available = jobs := by
  simp [available, refill]

/-- What is received and what is left make up what was there. -/
theorem receive_append {q : Queue α} (h : q.isOpen = true) (max : Option Nat) :
    (q.receive max).1 ++ (q.receive max).2.available = q.available := by
  simp [receive, h, available_refill]

end Queue

end ImportTracking
