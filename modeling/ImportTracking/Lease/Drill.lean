import ImportTracking.Lease.Memory
import ImportTracking.Lease.Shared
import ImportTracking.Database.Migration

/-!
# Lease — drills

A drill is a script of lease operations, among them work done under a lease, which is a script
again.  `Drill.program` turns a script into a program over the calls of a lease store, with the
same `Lease.guarded` that invocations use; `Drill.answer` plays those calls against leases kept
in memory or shared through a database.

The clock of the leases in memory cannot tell every instant.  An instant beyond its last one is a
panic, which ends the drill; a guarded call that it passes through does not release its lease.

Obtained leases are kept in named slots, by which the script releases them.
-/

namespace ImportTracking.Lease.Drill

/-- A step of a drill. -/
inductive Step where
  /-- Obtains a lease and keeps it in a slot. -/
  | obtain_ (slot key : String) (ttl : Duration)
  /-- Releases the lease of a slot. -/
  | release (slot : String)
  /-- Releases a lease by a token, which may be anyone's. -/
  | releaseToken (key token : String)
  /-- Does work under a lease; the work fails in the end when a failure is given. -/
  | guard_ (key : String) (ttl : Duration) (work : List Step) (failure : Option String)
  /-- Lets time pass. -/
  | advance (by_ : Duration)
  /-- Puts a row into the table that expires so many seconds from now. -/
  | seed (key token : String) (expiresIn : Int)
  /-- Drops the table. -/
  | dropTable

/-- A row of the table as a drill sees it: its id, its key, and what is known of its token. -/
structure RowView where
  id : Int
  key : String
  token : String
deriving DecidableEq, Repr

/-- What came of a step. -/
inductive Answer where
  | obtained
  | held
  | released
  | noSlot
  | error (text : String)
  | notRun
  | ran (answers : List Answer)
  | ranFailed (text : String)
  | seeded (id : Int)
  | nothing
  /-- An answer, with the rows of the table after it if the table is there. -/
  | beside (rows : Option (List RowView)) (a : Answer)
deriving Inhabited

/-! ### Programs -/

/-- The calls of a drill. -/
inductive Call where
  | obtain_ (key : String) (ttl : Duration)
  | release (lease : Lease)
  | keep (slot : String) (lease : Lease)
  | recall (slot : String)
  | advance (by_ : Duration)
  | seed (key token : String) (expiresIn : Int)
  | dropTable
  /-- Looks at the table, where there is to be one. -/
  | look

/-- What is replied to each call. -/
abbrev Reply : Call → Type
  | .obtain_ _ _ => Except Cause (Option Lease)
  | .release _ => Except Cause Unit
  | .keep _ _ => Unit
  | .recall _ => Option Lease
  | .advance _ => Unit
  | .seed _ _ _ => Answer
  | .dropTable => Unit
  | .look => Option (Option (List RowView))

/-- The interface of drills. -/
abbrev interface : Interface := ⟨Call, Reply⟩

/-- Makes a call. -/
def ask (c : Call) : Program interface (Reply c) := Program.ask (I := interface) c

/-- An answer, beside the table's rows where there is to be a table. -/
def seen (a : Answer) : Program interface Answer := do
  match ← ask .look with
  | some rows => return .beside rows a
  | none => return a

/-- What came of a release. -/
def ofRelease : Except Cause Unit → Answer
  | .ok _ => .released
  | .error e => .error e.text

mutual

/-- The program of a step. -/
def stepProgram : Step → Program interface Answer
  | .obtain_ slot key ttl => do
    match ← ask (.obtain_ key ttl) with
    | .ok (some lease) => do
      let _ ← ask (.keep slot lease)
      seen .obtained
    | .ok none => seen .held
    | .error e => seen (.error e.text)
  | .release slot => do
    match ← ask (.recall slot) with
    | some lease => do
      let r ← ask (.release lease)
      seen (ofRelease r)
    | none => seen .noSlot
  | .releaseToken key token => do
    let r ← ask (.release ⟨key, token⟩)
    seen (ofRelease r)
  | .guard_ key ttl work failure => do
    let result ← guarded (ask (.obtain_ key ttl)) (fun lease => ask (.release lease))
      (program work)
    match result, failure with
    | none, _ => seen .notRun
    | some answers, none => seen (.ran answers)
    | some _, some text => seen (.ranFailed text)
  | .advance by_ => do
    let _ ← ask (.advance by_)
    seen .nothing
  | .seed key token expiresIn => do
    let a ← ask (.seed key token expiresIn)
    seen a
  | .dropTable => do
    let _ ← ask .dropTable
    seen .nothing

/-- The program of a script: what came of each step. -/
def program : List Step → Program interface (List Answer)
  | [] => pure []
  | s :: rest => do
    let a ← stepProgram s
    let more ← program rest
    return a :: more

end

/-! ### Playing a drill -/

/-- Where the leases of a drill are kept. -/
inductive Place where
  | memory
  | database
deriving DecidableEq, Repr

/-- What a drill is played against. -/
structure World where
  place : Place
  session : Session.State
  memory : Memory := {}
  /-- The clock of the leases in memory, -/
  instant : Nat := 0
  /-- and the last instant that it can tell. -/
  last : Nat := Memory.lastInstant
  slots : List (String × Lease) := []

namespace World

/-- The slot of the least name that holds a token. -/
def slotOf? (w : World) (token : String) : Option String :=
  (w.slots.filter fun s => s.2.token == token).foldl
    (fun least s =>
      match least with
      | none => some s.1
      | some name => if s.1 < name then some s.1 else some name)
    none

/-- The length of a generated token. -/
def tokenLength : Nat := 32

/-- A row as a drill sees it. -/
def view (w : World) (r : Row) : RowView :=
  let token :=
    match w.slotOf? r.token with
    | some slot => "slot:" ++ slot
    | none => if r.token.length = tokenLength then "fresh" else r.token
  ⟨r.id, r.key, token⟩

/-- Plays a program that uses the database; that does not panic. -/
def inSession {α : Type} (w : World) (p : Program Session α) : Option α × World :=
  let r := Session.run p w.session
  (some r.1, { w with session := r.2 })

/-- The token that is drawn next. -/
def nextToken (w : World) : String := w.session.supply.drawToken.1

/-- The world when one more token was drawn. -/
def draw (w : World) : World :=
  { w with session := { w.session with supply := w.session.supply.drawToken.2 } }

end World

/-- Answers a call, unless it panics. -/
def answer : (c : Call) → World → Option (Reply c) × World
  | .obtain_ key ttl, w =>
    match w.place with
    | .memory =>
      let (reply, m) := w.memory.tryObtainBy w.last w.instant w.nextToken key ttl
      (reply.map .ok, { w.draw with memory := m })
    | .database => w.inSession (Shared.tryObtain key ttl)
  | .release lease, w =>
    match w.place with
    | .memory => (some (.ok ()), { w with memory := w.memory.release lease })
    | .database => w.inSession (Shared.release lease)
  | .keep slot lease, w =>
    (some (), { w with slots := (slot, lease) :: w.slots.filter fun s => s.1 != slot })
  | .recall slot, w => (some ((w.slots.find? fun s => s.1 == slot).map (·.2)), w)
  | .advance by_, w =>
    match w.place with
    | .memory =>
      if w.instant + by_.nanos ≤ w.last then
        (some (), { w with instant := w.instant + by_.nanos })
      else (none, w)
    | .database => (some (), w)
  | .seed key token expiresIn, w =>
    match w.place with
    | .memory => (some .nothing, w)
    | .database =>
      let now := w.session.clock
      let expiresAt := { now with seconds := now.seconds + expiresIn }
      match w.session.database.insertLease fun id => ⟨id, key, token, expiresAt, now⟩ with
      | .ok (row, db) =>
        (some (.seeded row.id), { w with session := { w.session with database := db } })
      | .error e => (some (.error e.text), w)
  | .dropTable, w =>
    match w.place with
    | .memory => (some (), w)
    | .database =>
      (some (), { w with session :=
                  { w.session with database := w.session.database.dropTable .leases } })
  | .look, w =>
    match w.place with
    | .memory => (some none, w)
    | .database => (some (some (w.session.database.leases.map fun t => t.rows.map w.view)), w)

/-- Plays a script from a store without leases; there are no answers if it panics. -/
def run (place : Place) (script : List Step) : Option (List Answer) :=
  let session : Session.State :=
    { database := .fresh
      clock := .epoch
      supply := { naming := .standard } }
  ((program script).tryRun answer { place := place, session := session }).1

end ImportTracking.Lease.Drill
