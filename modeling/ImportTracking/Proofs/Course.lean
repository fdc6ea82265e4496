import ImportTracking.Work

/-!
# Course — programs among arbitrary collaborators

A program that coordinates meets a database, which answers by executing statements, and others
whose answers are theirs to give: the clock, the supply of identifiers, and the collaborators.
`Work.course` plays a program against a database and any such others, and notes every request
with its reply.  `Work.Plays` says the same without the others: it holds of a program, the
database it starts from, the requests it makes, its value and the database it leaves, for some
answers; of these only the times that the clock may show are said beforehand.

* `plays_course`, `plays_course_of_clock`: every course is a play, whoever answers.
* `plays_run_of_readings`: every run is a play with the times that it reads off the clock.
* `plays_bind`, `plays_task_bind`, `plays_tryCatch`: a play of a sequence is plays in sequence.

Nothing here lets a collaborator write to the database; leases, which a store may keep in a
table of the same database, are the store's own.
-/

namespace ImportTracking.Work

/-! ### Courses -/

/-- A request and the reply to it. -/
abbrev Exchange := (r : Request) × r.Reply

/-- The answers to the calls that do not go to the database, from a state of whoever gives
them. -/
abbrev Surroundings (σ : Type) := (c : Call) → σ → Reply c × σ

/-- Others that read one time off a clock, give one id, and answer a request always alike. -/
def steady (now : Timestamp) (id : String) (reply : (r : Request) → r.Reply) :
    Surroundings Unit
  | .session (.query _), s => (.error default, s)
  | .session .now, s => (now, s)
  | .session .newJid, s => (id, s)
  | .session .newCorrelation, s => (id, s)
  | .session .newToken, s => (id, s)
  | .request r, s => (reply r, s)

/-- Collaborators at rest grant every request; exports are empty. -/
def granted : (r : Request) → r.Reply
  | .isUnderLoad _ _ => .ok false
  | .obtainLease key _ => .ok (some ⟨key, ""⟩)
  | .releaseLease _ => .ok ()
  | .readExport _ _ _ => .ok default
  | .runPipeline _ _ => .ok .ok
  | .schedulePipeline _ _ => .ok ()
  | .scheduleBatch _ => .ok ()
  | .performBatch _ => .ok ()
  | .track _ _ => ()

/-- A database among others, and the requests made so far. -/
structure Scene (σ : Type) where
  database : Database
  around : σ
  exchanges : List Exchange := []

namespace Scene

variable {σ : Type} (others : Surroundings σ)

/-- The others answer a call. -/
def consult (c : Call) (sc : Scene σ) : Reply c × Scene σ :=
  let x := others c sc.around
  (x.1, { sc with around := x.2 })

/-- Statements are executed, the others answer the rest, and requests are noted. -/
def answer : (c : Call) → Scene σ → Reply c × Scene σ
  | .session (.query s), sc =>
    let r := Database.execute s sc.database
    (r.1, { sc with database := r.2 })
  | .session c, sc => sc.consult others (.session c)
  | .request r, sc =>
    let x := sc.consult others (.request r)
    (x.1, { x.2 with exchanges := x.2.exchanges ++ [⟨r, x.1⟩] })

end Scene

/-- What came of a program. -/
structure Course (α : Type) where
  value : α
  database : Database
  /-- The requests made, in order. -/
  exchanges : List Exchange

/-- Plays a program from a database, the others starting from the state `s`. -/
def course {σ α : Type} (others : Surroundings σ) (p : Program Work α) (db : Database) (s : σ) :
    Course α :=
  let r := p.run (Scene.answer others) ⟨db, s, []⟩
  ⟨r.1, r.2.database, r.2.exchanges⟩

/-- Of others that answer a request always alike, every reply is that answer. -/
theorem exchanges_steady {α : Type} {now : Timestamp} {id : String}
    {reply : (r : Request) → r.Reply} (p : Program Work α) (db : Database) :
    ∀ x ∈ (course (steady now id reply) p db ()).exchanges, x.2 = reply x.1 := by
  have hrun (sc : Scene Unit) (h : ∀ x ∈ sc.exchanges, x.2 = reply x.1) :
      ∀ x ∈ (p.run (Scene.answer (steady now id reply)) sc).2.exchanges, x.2 = reply x.1 := by
    -- a program goes on from any scene in which the requests so far were answered so
    induction p generalizing sc with
    | done a => exact h
    | call c next ih =>
        rw [Program.run_call]
        refine ih _ _ ?_
        cases c with
        | session c => cases c <;> exact h
        | request r =>
            intro x hx
            rcases List.mem_append.mp hx with hx | hx
            · exact h x hx
            · obtain rfl := List.mem_singleton.mp hx
              rfl
  exact hrun ⟨db, (), []⟩ (List.forall_mem_nil _)

/-! ### What was asked -/

namespace Exchange

/-- The pipeline job that was accepted, if one was. -/
def accepted? : Exchange → Option PipelineJob
  | ⟨.schedulePipeline job _, .ok _⟩ => some job
  | _ => none

/-- The pipeline job that was refused, if one was. -/
def refused? : Exchange → Option PipelineJob
  | ⟨.schedulePipeline job _, .error _⟩ => some job
  | _ => none

/-- How a pipeline ended, if one was run. -/
def ran? : Exchange → Option (Except Cause Pipeline.Outcome)
  | ⟨.runPipeline _ _, reply⟩ => some reply
  | _ => none

/-- A lease that was asked for was obtained. -/
def isGrant : Exchange → Bool
  | ⟨.obtainLease _ _, .ok (some _)⟩ => true
  | _ => false

end Exchange

/-- The pipeline jobs that the scheduler accepted, in order. -/
def accepted (log : List Exchange) : List PipelineJob := log.filterMap Exchange.accepted?

/-- The pipeline jobs that the scheduler refused, in order. -/
def refused (log : List Exchange) : List PipelineJob := log.filterMap Exchange.refused?

/-- How the pipelines that were run ended, in order. -/
def runs (log : List Exchange) : List (Except Cause Pipeline.Outcome) :=
  log.filterMap Exchange.ran?

/-- A lease that was asked for was obtained. -/
def Leased (log : List Exchange) : Prop :=
  ∃ key ttl lease, ⟨.obtainLease key ttl, .ok (some lease)⟩ ∈ log

theorem leased_iff {log : List Exchange} : Leased log ↔ log.any Exchange.isGrant = true := by
  rw [List.any_eq_true]
  constructor
  · rintro ⟨key, ttl, lease, hmem⟩
    exact ⟨_, hmem, rfl⟩
  · rintro ⟨x, hmem, hx⟩
    unfold Exchange.isGrant at hx
    split at hx
    · exact ⟨_, _, _, hmem⟩
    · cases hx

instance : DecidablePred Leased := fun _ => decidable_of_iff _ leased_iff.symm

@[simp] theorem accepted_nil : accepted [] = [] := rfl

@[simp] theorem runs_nil : runs [] = [] := rfl

@[simp] theorem accepted_append (l₁ l₂ : List Exchange) :
    accepted (l₁ ++ l₂) = accepted l₁ ++ accepted l₂ :=
  List.filterMap_append

@[simp] theorem runs_append (l₁ l₂ : List Exchange) : runs (l₁ ++ l₂) = runs l₁ ++ runs l₂ :=
  List.filterMap_append

theorem accepted_cons_of_none {x : Exchange} (h : x.accepted? = none) (l : List Exchange) :
    accepted (x :: l) = accepted l :=
  List.filterMap_cons_none h

theorem runs_cons_of_none {x : Exchange} (h : x.ran? = none) (l : List Exchange) :
    runs (x :: l) = runs l :=
  List.filterMap_cons_none h

/-! ### Plays -/

/-- The times that a clock may show. -/
abbrev Clock := Timestamp → Prop

/-- A clock that may show any time. -/
def Clock.free : Clock := fun _ => True

/-- A clock that stands still. -/
def Clock.still (now : Timestamp) : Clock := fun t => t = now

section
variable {α : Type} {κ : Clock}

/-- `Plays κ p db log a db'`: for some answers of the others, with the times of the clock `κ`, `p`
makes the requests `log`, ends with `a`, and takes the database from `db` to `db'`. -/
def Plays (κ : Clock) : Program Work α → Database → List Exchange → α → Database → Prop
  | .done a, db, log, b, db' => log = [] ∧ b = a ∧ db' = db
  | .call c next, db, log, b, db' =>
    match c, next with
    | .session (.query s), next =>
      Plays κ (next (Database.execute s db).1) (Database.execute s db).2 log b db'
    | .session .now, next => ∃ r, κ r ∧ Plays κ (next r) db log b db'
    | .session .newJid, next => ∃ r, Plays κ (next r) db log b db'
    | .session .newCorrelation, next => ∃ r, Plays κ (next r) db log b db'
    | .session .newToken, next => ∃ r, Plays κ (next r) db log b db'
    | .request r, next =>
      ∃ reply rest, log = ⟨r, reply⟩ :: rest ∧ Plays κ (next reply) db rest b db'

variable {p : Program Work α} {db db' : Database} {log : List Exchange} {a b : α}

@[simp] theorem plays_done : Plays κ (.done a) db log b db' ↔ log = [] ∧ b = a ∧ db' = db :=
  Iff.rfl

end

/-- The time that a call read off the clock, if it read one. -/
def shown? : (c : Call) → Reply c → Option Timestamp
  | .session .now, t => some t
  | _, _ => none

/-- The times that a program reads off the clock when it is run from a scene, in order. -/
def readings {σ α : Type} (others : Surroundings σ) : Program Work α → Scene σ → List Timestamp
  | .done _, _ => []
  | .call c next, sc =>
    (shown? c (Scene.answer others c sc).1).toList ++
      readings others (next (Scene.answer others c sc).1) (Scene.answer others c sc).2

/-- Whoever answers, a program run from a scene plays from its database, with the times that it
reads, and the requests it makes are noted after those that were. -/
theorem plays_run_of_readings {σ α : Type} {κ : Clock} {others : Surroundings σ}
    {p : Program Work α} {sc : Scene σ} (hκ : ∀ t ∈ readings others p sc, κ t) :
    ∃ log, (p.run (Scene.answer others) sc).2.exchanges = sc.exchanges ++ log ∧
      Plays κ p sc.database log (p.run (Scene.answer others) sc).1
        (p.run (Scene.answer others) sc).2.database := by
  -- what follows a call runs from the scene the call leaves, so the scene is any
  induction p generalizing sc with
  | done a => exact ⟨[], by simp⟩
  | call c next ih =>
      rw [Program.run_call]
      obtain ⟨hnow, hnext⟩ := List.forall_mem_append.mp hκ
      obtain ⟨log, hl, hp⟩ := ih (Scene.answer others c sc).1 hnext
      cases c with
      | session c =>
          refine ⟨log, ?_, ?_⟩
          · cases c <;> exact hl
          · cases c with
            | query s => exact hp
            | now => exact ⟨_, hnow _ (Option.mem_toList.mpr rfl), hp⟩
            | newJid | newCorrelation | newToken => exact ⟨_, hp⟩
      | request r =>
          refine ⟨⟨r, (Scene.answer others (.request r) sc).1⟩ :: log, ?_, _, log, rfl, hp⟩
          rw [hl]
          simp [Scene.answer, Scene.consult]

/-- Others whose clock is `κ` show times of `κ` only. -/
theorem readings_of_clock {σ α : Type} {κ : Clock} {others : Surroundings σ}
    (hκ : ∀ s, κ (others (.session .now) s).1) (p : Program Work α) (sc : Scene σ) :
    ∀ t ∈ readings others p sc, κ t := by
  induction p generalizing sc with
  | done a => exact List.forall_mem_nil _
  | call c next ih =>
      refine List.forall_mem_append.mpr ⟨fun t ht => ?_, ih _ _⟩
      have ht := Option.mem_toList.mp ht
      rcases c with (_ | _ | _ | _ | _) | _
      case session.now =>
        obtain rfl := Option.some.inj ht
        exact hκ _
      all_goals cases ht

/-- Among others whose clock is `κ`, a program run from a scene plays with that clock. -/
theorem plays_run {σ α : Type} {κ : Clock} (others : Surroundings σ)
    (hκ : ∀ s, κ (others (.session .now) s).1) (p : Program Work α) (sc : Scene σ) :
    ∃ log, (p.run (Scene.answer others) sc).2.exchanges = sc.exchanges ++ log ∧
      Plays κ p sc.database log (p.run (Scene.answer others) sc).1
        (p.run (Scene.answer others) sc).2.database :=
  plays_run_of_readings (readings_of_clock hκ p sc)

/-- Every course among others whose clock is `κ` is a play with that clock. -/
theorem plays_course_of_clock {σ α : Type} {κ : Clock} (others : Surroundings σ)
    (hκ : ∀ s, κ (others (.session .now) s).1) (p : Program Work α) (db : Database) (s : σ) :
    Plays κ p db (course others p db s).exchanges (course others p db s).value
      (course others p db s).database := by
  obtain ⟨log, hl, hp⟩ := plays_run others hκ p ⟨db, s, []⟩
  rw [List.nil_append] at hl
  rw [show (course others p db s).exchanges = log from hl]
  exact hp

/-- **Every course is a play**, whoever answers. -/
theorem plays_course {σ α : Type} (others : Surroundings σ) (p : Program Work α) (db : Database)
    (s : σ) :
    Plays .free p db (course others p db s).exchanges (course others p db s).value
      (course others p db s).database :=
  plays_course_of_clock others (fun _ => trivial) p db s

/-! ### Sequences -/

section
variable {α β : Type} {κ : Clock} {db db'' : Database} {log : List Exchange}

/-- A play of a sequence is a play of its first part, and one of the part that follows. -/
theorem plays_bind {p : Program Work α} {f : α → Program Work β} {b : β} :
    Plays κ (p.bind f) db log b db'' ↔
      ∃ l₁ l₂ a db', log = l₁ ++ l₂ ∧ Plays κ p db l₁ a db' ∧ Plays κ (f a) db' l₂ b db'' := by
  induction p generalizing db log with
  | done a =>
      constructor
      · intro h
        exact ⟨[], log, a, db, rfl, ⟨rfl, rfl, rfl⟩, h⟩
      · rintro ⟨_, l₂, _, _, rfl, ⟨rfl, rfl, rfl⟩, h⟩
        exact h
  | call c next ih =>
      cases c with
      | session c =>
          cases c with
          | query s => exact ih _
          | now =>
              constructor
              · rintro ⟨r, hr, h⟩
                obtain ⟨l₁, l₂, a, db', hl, h₁, h₂⟩ := (ih r).mp h
                exact ⟨l₁, l₂, a, db', hl, ⟨r, hr, h₁⟩, h₂⟩
              · rintro ⟨l₁, l₂, a, db', hl, ⟨r, hr, h₁⟩, h₂⟩
                exact ⟨r, hr, (ih r).mpr ⟨l₁, l₂, a, db', hl, h₁, h₂⟩⟩
          | newJid | newCorrelation | newToken =>
              constructor
              · rintro ⟨r, h⟩
                obtain ⟨l₁, l₂, a, db', hl, h₁, h₂⟩ := (ih r).mp h
                exact ⟨l₁, l₂, a, db', hl, ⟨r, h₁⟩, h₂⟩
              · rintro ⟨l₁, l₂, a, db', hl, ⟨r, h₁⟩, h₂⟩
                exact ⟨r, (ih r).mpr ⟨l₁, l₂, a, db', hl, h₁, h₂⟩⟩
      | request r =>
          constructor
          · rintro ⟨reply, rest, rfl, h⟩
            obtain ⟨l₁, l₂, a, db', rfl, h₁, h₂⟩ := (ih reply).mp h
            exact ⟨⟨r, reply⟩ :: l₁, l₂, a, db', rfl, ⟨reply, l₁, rfl, h₁⟩, h₂⟩
          · rintro ⟨_, l₂, a, db', rfl, ⟨reply, l₁, rfl, h₁⟩, h₂⟩
            exact ⟨reply, l₁ ++ l₂, rfl, (ih reply).mpr ⟨l₁, l₂, a, db', rfl, h₁, h₂⟩⟩

@[simp] theorem plays_request {q : Request} {a : q.Reply} :
    Plays κ (request q) db log a db'' ↔ log = [⟨q, a⟩] ∧ db'' = db := by
  constructor
  · rintro ⟨reply, rest, rfl, rfl, rfl, rfl⟩
    exact ⟨rfl, rfl⟩
  · rintro ⟨rfl, rfl⟩
    exact ⟨a, [], rfl, rfl, rfl, rfl⟩

/-! ### Tasks -/

variable {r : Except Fault β}

@[simp] theorem plays_pure {b : β} :
    Plays κ (pure b : Task β).run db log r db'' ↔ log = [] ∧ r = .ok b ∧ db'' = db :=
  Iff.rfl

@[simp] theorem plays_throw {e : Fault} :
    Plays κ (throw e : Task β).run db log r db'' ↔ log = [] ∧ r = .error e ∧ db'' = db :=
  Iff.rfl

/-- A play of a sequence of tasks goes on after a good result, and ends at a fault. -/
theorem plays_task_bind {t : Task α} {f : α → Task β} :
    Plays κ (t >>= f).run db log r db'' ↔
      (∃ l₁ l₂ a db', log = l₁ ++ l₂ ∧ Plays κ t.run db l₁ (.ok a) db' ∧
        Plays κ (f a).run db' l₂ r db'') ∨
      ∃ e, r = .error e ∧ Plays κ t.run db log (.error e) db'' := by
  rw [run_task_bind, plays_bind]
  constructor
  · rintro ⟨l₁, l₂, x, db', rfl, h₁, h₂⟩
    cases x with
    | ok a => exact .inl ⟨l₁, l₂, a, db', rfl, h₁, h₂⟩
    | error e =>
        obtain ⟨rfl, rfl, rfl⟩ := h₂
        exact .inr ⟨e, rfl, by rwa [List.append_nil]⟩
  · rintro (⟨l₁, l₂, a, db', rfl, h₁, h₂⟩ | ⟨e, rfl, h⟩)
    · exact ⟨l₁, l₂, .ok a, db', rfl, h₁, h₂⟩
    · exact ⟨log, [], .error e, db'', (List.append_nil _).symm, h, rfl, rfl, rfl⟩

/-- A program among tasks has no fault of its own. -/
theorem plays_lift_bind {p : Program Work α} {f : α → Task β} :
    Plays κ ((monadLift p : Task α) >>= f).run db log r db'' ↔
      ∃ l₁ l₂ a db', log = l₁ ++ l₂ ∧ Plays κ p db l₁ a db' ∧ Plays κ (f a).run db' l₂ r db'' := by
  rw [run_lift_bind, plays_bind]

/-- A caught fault is handled from where it arose. -/
theorem plays_tryCatch {t : Task β} {f : Fault → Task β} :
    Plays κ (tryCatch t f).run db log r db'' ↔
      (∃ b, r = .ok b ∧ Plays κ t.run db log (.ok b) db'') ∨
      ∃ l₁ l₂ e db', log = l₁ ++ l₂ ∧ Plays κ t.run db l₁ (.error e) db' ∧
        Plays κ (f e).run db' l₂ r db'' := by
  rw [run_tryCatch, plays_bind]
  constructor
  · rintro ⟨l₁, l₂, x, db', rfl, h₁, h₂⟩
    cases x with
    | ok a =>
        obtain ⟨rfl, rfl, rfl⟩ := h₂
        exact .inl ⟨a, rfl, by rwa [List.append_nil]⟩
    | error e => exact .inr ⟨l₁, l₂, e, db', rfl, h₁, h₂⟩
  · rintro (⟨b, rfl, h⟩ | ⟨l₁, l₂, e, db', rfl, h₁, h₂⟩)
    · exact ⟨log, [], .ok b, db'', (List.append_nil _).symm, h, rfl, rfl, rfl⟩
    · exact ⟨l₁, l₂, .error e, db', rfl, h₁, h₂⟩

/-- A result expected to be good is what the program gave, its error as a fault. -/
theorem plays_expect {ε : Type} {fault : ε → Fault} {p : Program Work (Except ε β)} :
    Plays κ (expect fault p).run db log r db'' ↔
      ∃ x, Plays κ p db log x db'' ∧ r = x.mapError fault := by
  rw [run_expect, plays_bind]
  constructor
  · rintro ⟨l₁, l₂, x, db', rfl, h₁, rfl, rfl, rfl⟩
    exact ⟨x, by rwa [List.append_nil], rfl⟩
  · rintro ⟨x, h, rfl⟩
    exact ⟨log, [], x, db'', (List.append_nil _).symm, h, rfl, rfl, rfl⟩

/-- A request that is expected to be granted: it is made, and refused or not. -/
theorem plays_schedule {job : PipelineJob} {delay : Duration} {r : Except Fault Unit} :
    Plays κ (schedule job delay).run db log r db'' ↔
      ∃ reply : Except Cause Unit, log = [⟨.schedulePipeline job delay, reply⟩] ∧ db'' = db ∧
        r = reply.mapError .scheduling := by
  rw [schedule, plays_expect]
  constructor
  · rintro ⟨x, h, rfl⟩
    obtain ⟨rfl, rfl⟩ := plays_request.mp h
    exact ⟨x, rfl, rfl, rfl⟩
  · rintro ⟨x, rfl, rfl, rfl⟩
    exact ⟨x, plays_request.mpr ⟨rfl, rfl⟩, rfl⟩

end

/-! ### Tasks on the database -/

section
variable {α β : Type} {κ : Clock} {db db' : Database} {log : List Exchange}

/-- A statement that is executed goes on with its result. -/
theorem plays_query_bind_ok {s : Database.Statement} {x : s.Result} {db₁ : Database}
    (h : Database.execute s db = (.ok x, db₁)) {f : s.Result → Session.Task β}
    {r : Except Fault β} :
    Plays κ (onDatabase (Session.query s >>= f)).run db log r db' ↔
      Plays κ (onDatabase (f x)).run db₁ log r db' := by
  show Plays κ (ofSession (ExceptT.bindCont f _)) (Database.execute s db).2 log r db' ↔ _
  rw [h]
  exact Iff.rfl

theorem plays_query_ok {s : Database.Statement} {x : s.Result} {db₁ : Database}
    (h : Database.execute s db = (.ok x, db₁)) {r : Except Fault s.Result} :
    Plays κ (onDatabase (Session.query s)).run db log r db' ↔
      log = [] ∧ r = .ok x ∧ db' = db₁ := by
  rw [← bind_pure (Session.query s), plays_query_bind_ok h]
  exact Iff.rfl

/-- A statement that is refused ends in a fault. -/
theorem plays_query_bind_error {s : Database.Statement} {e : Database.Error} {db₁ : Database}
    (h : Database.execute s db = (.error e, db₁)) {f : s.Result → Session.Task β}
    {r : Except Fault β} :
    Plays κ (onDatabase (Session.query s >>= f)).run db log r db' ↔
      log = [] ∧ r = .error (.database e) ∧ db' = db₁ := by
  show Plays κ (ofSession (ExceptT.bindCont f _)) (Database.execute s db).2 log r db' ↔ _
  rw [h]
  exact Iff.rfl

theorem plays_query_error {s : Database.Statement} {e : Database.Error} {db₁ : Database}
    (h : Database.execute s db = (.error e, db₁)) {r : Except Fault s.Result} :
    Plays κ (onDatabase (Session.query s)).run db log r db' ↔
      log = [] ∧ r = .error (.database e) ∧ db' = db₁ := by
  rw [← bind_pure (Session.query s), plays_query_bind_error h]

/-- A statement whose refusal is handed on goes on with what came of it. -/
theorem plays_tryQuery_bind {s : Database.Statement}
    {f : Except Database.Error s.Result → Session.Task β} {r : Except Fault β} :
    Plays κ (onDatabase ((monadLift (Session.tryQuery s) : Session.Task _) >>= f)).run db log r
        db' ↔
      Plays κ (onDatabase (f (Database.execute s db).1)).run (Database.execute s db).2 log r db' :=
  Iff.rfl

/-- A reading of the clock goes on with some time. -/
theorem plays_now_bind {f : Timestamp → Session.Task β} {r : Except Fault β} :
    Plays κ (onDatabase ((monadLift Session.now : Session.Task _) >>= f)).run db log r db' ↔
      ∃ now, κ now ∧ Plays κ (onDatabase (f now)).run db log r db' :=
  Iff.rfl

theorem plays_now {t : Timestamp} :
    Plays κ (ofSession Session.now) db log t db' ↔ κ t ∧ log = [] ∧ db' = db := by
  constructor
  · rintro ⟨_, ht, hl, rfl, hdb⟩
    exact ⟨ht, hl, hdb⟩
  · rintro ⟨ht, hl, hdb⟩
    exact ⟨t, ht, hl, rfl, hdb⟩

theorem plays_newJid {jid : String} :
    Plays κ (ofSession Session.newJid) db log jid db' ↔ log = [] ∧ db' = db :=
  ⟨fun ⟨_, hl, _, hdb⟩ => ⟨hl, hdb⟩, fun ⟨hl, hdb⟩ => ⟨jid, hl, rfl, hdb⟩⟩

/-- A job is put back under some new id, or refused. -/
theorem plays_reEnqueue {job : PipelineJob} {delay : Duration} {r : Except Fault Unit} :
    Plays κ (reEnqueue job delay).run db log r db' ↔
      ∃ jid, ∃ reply : Except Cause Unit,
        log = [⟨.schedulePipeline (job.reEnqueued jid) delay, reply⟩] ∧ db' = db ∧
          r = reply.mapError .scheduling := by
  rw [reEnqueue, plays_lift_bind]
  constructor
  · rintro ⟨_, _, jid, _, rfl, h₁, h₂⟩
    obtain ⟨rfl, rfl⟩ := plays_newJid.mp h₁
    exact ⟨jid, plays_schedule.mp h₂⟩
  · rintro ⟨jid, h⟩
    exact ⟨[], log, jid, db, rfl, plays_newJid.mpr ⟨rfl, rfl⟩, plays_schedule.mpr h⟩

/-- What is returned once a job was put back, and the fault if it was refused. -/
theorem plays_reEnqueue_return {job : PipelineJob} {delay : Duration} {b : β} {r : Except Fault β}
    (h : Plays κ (reEnqueue job delay >>= fun _ => pure b).run db log r db') :
    db' = db ∧ ∃ jid,
      (log = [⟨.schedulePipeline (job.reEnqueued jid) delay, .ok ()⟩] ∧ r = .ok b) ∨
        ∃ cause, log = [⟨.schedulePipeline (job.reEnqueued jid) delay, .error cause⟩] ∧
          r = .error (.scheduling cause) := by
  obtain ⟨l₁, l₂, u, db₁, rfl, hs, hend⟩ | ⟨f, rfl, hs⟩ := plays_task_bind.mp h
  · obtain ⟨jid, reply, rfl, rfl, hok⟩ := plays_reEnqueue.mp hs
    obtain ⟨rfl, rfl, rfl⟩ := plays_pure.mp hend
    cases reply with
    | ok u => exact ⟨rfl, jid, .inl ⟨rfl, rfl⟩⟩
    | error cause => cases hok
  · obtain ⟨jid, reply, rfl, rfl, herr⟩ := plays_reEnqueue.mp hs
    cases reply with
    | ok u => cases herr
    | error cause =>
        cases herr
        exact ⟨rfl, jid, .inr ⟨cause, rfl, rfl⟩⟩

/-! ### Single calls -/

section
variable {σ : Type} {others : Surroundings σ} {sc : Scene σ}

theorem answer_query (s : Database.Statement) :
    Scene.answer others (.session (.query s)) sc =
      ((Database.execute s sc.database).1,
        { sc with database := (Database.execute s sc.database).2 }) := rfl

/-- One call of a task that reads the clock. -/
theorem advance_now_bind {f : Timestamp → Session.Task β} :
    ∃ now s, (onDatabase ((monadLift Session.now : Session.Task _) >>= f)).run.advance
        (Scene.answer others) sc = ((onDatabase (f now)).run, { sc with around := s }) :=
  ⟨_, _, rfl⟩

/-- One call of a task whose statement is executed. -/
theorem advance_query_bind_ok {s : Database.Statement} {x : s.Result} {db₁ : Database}
    (h : Database.execute s sc.database = (.ok x, db₁)) {f : s.Result → Session.Task β} :
    (onDatabase (Session.query s >>= f)).run.advance (Scene.answer others) sc =
      ((onDatabase (f x)).run, { sc with database := db₁ }) := by
  show (ofSession (ExceptT.bindCont f (match (Scene.answer others (.session (.query s)) sc).1 with
    | .ok a => .ok a
    | .error e => .error (.database e))), (Scene.answer others (.session (.query s)) sc).2) = _
  rw [answer_query, h]
  rfl

/-- One call of a task whose statement is refused. -/
theorem advance_query_bind_error {s : Database.Statement} {e : Database.Error} {db₁ : Database}
    (h : Database.execute s sc.database = (.error e, db₁)) {f : s.Result → Session.Task β} :
    (onDatabase (Session.query s >>= f)).run.advance (Scene.answer others) sc =
      (.done (.error (.database e)), { sc with database := db₁ }) := by
  show (ofSession (ExceptT.bindCont f (match (Scene.answer others (.session (.query s)) sc).1 with
    | .ok a => .ok a
    | .error e => .error (.database e))), (Scene.answer others (.session (.query s)) sc).2) = _
  rw [answer_query, h]
  rfl

end

end

end ImportTracking.Work
