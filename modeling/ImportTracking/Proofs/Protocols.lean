import ImportTracking.Invocation
import ImportTracking.Proofs.Traces

/-!
# Protocols — what a program keeps to, whatever others do in between

A program that others interrupt can rely on little that it was told before.  A `Protocol` says what
is left: in every phase some calls are allowed, some replies can be given, and a call with its reply
leads to a phase.  `Protocol.Keeps` holds of a program that makes allowed calls only, as long as it
is given such replies, and that ends with a value and in a phase as said beforehand.

Since nothing is said of the state around, what a program keeps to is not touched by others.

* `Keeps.bind`, `Keeps.task_bind`, `Keeps.tryCatch`: a sequence keeps to it when its parts do.
* `Keeps.of_confined`: a program of calls that are always allowed, and change no phase, keeps to it.
-/

namespace ImportTracking

/-- Phases, the calls that are allowed in each, the replies that can be given, and the phase that
follows. -/
structure Protocol (I : Interface) (G : Type) where
  Allows : G → I.Call → Prop
  Expects : G → (c : I.Call) → I.Reply c → Prop
  next : G → (c : I.Call) → I.Reply c → G

namespace Program.Confined

variable {I : Interface} {α β : Type} {allowed : I.Call → Prop}

theorem bind {p : Program I α} {f : α → Program I β} (hp : p.Confined allowed)
    (hf : ∀ a, (f a).Confined allowed) : (p.bind f).Confined allowed := by
  induction hp with
  | done a => exact hf a
  | call hc _ ih => exact .call hc ih

end Program.Confined

namespace Protocol

section
variable {I : Interface} {G α β : Type} (P : Protocol I G)

/-- The program makes allowed calls only, when it is given replies that are expected, and ends with
`post`. -/
def Keeps (post : G → α → Prop) : Program I α → G → Prop
  | .done a, g => post g a
  | .call c next, g =>
    P.Allows g c ∧ ∀ r, P.Expects g c r → Keeps post (next r) (P.next g c r)

variable {P} {g : G}

theorem Keeps.mono {post post' : G → α → Prop} {p : Program I α} (hp : P.Keeps post p g)
    (h : ∀ g a, post g a → post' g a) : P.Keeps post' p g := by
  induction p generalizing g with
  | done a => exact h g a hp
  | call c next ih => exact ⟨hp.1, fun r hr => ih r (hp.2 r hr)⟩

/-- A sequence keeps to it when its first part does, and the rest from wherever that ends. -/
theorem Keeps.bind {M : G → α → Prop} {post : G → β → Prop} {p : Program I α}
    {f : α → Program I β} (hp : P.Keeps M p g)
    (hf : ∀ g a, M g a → P.Keeps post (f a) g) : P.Keeps post (p.bind f) g := by
  induction p generalizing g with
  | done a => exact hf g a hp
  | call c next ih => exact ⟨hp.1, fun r hr => ih r (hp.2 r hr)⟩

/-- Calls that are always allowed, and change no phase, may be made at any time. -/
theorem Keeps.of_confined {post : G → α → Prop} {allowed : I.Call → Prop} {p : Program I α}
    (hp : p.Confined allowed) (hallows : ∀ c, allowed c → P.Allows g c)
    (hnext : ∀ c r, allowed c → P.next g c r = g) (h : ∀ a, post g a) : P.Keeps post p g := by
  induction hp with
  | done a => exact h a
  | call hc _ ih =>
      refine ⟨hallows _ hc, fun r _ => ?_⟩
      rw [hnext _ r hc]
      exact ih r

end

/-! ### Tasks -/

section
variable {G α β : Type} {P : Protocol Work G} {g : G} {post : G → Except Fault β → Prop}

/-- A sequence of tasks goes on after a good result, and ends at a fault. -/
theorem Keeps.task_bind {M : G → Except Fault α → Prop} {t : Work.Task α} {f : α → Work.Task β}
    (ht : P.Keeps M t.run g) (hok : ∀ g a, M g (.ok a) → P.Keeps post (f a).run g)
    (herr : ∀ g e, M g (.error e) → post g (.error e)) : P.Keeps post (t >>= f).run g := by
  rw [Work.run_task_bind]
  refine ht.bind fun g x hx => ?_
  cases x with
  | ok a => exact hok g a hx
  | error e => exact herr g e hx

/-- A program among tasks has no fault of its own. -/
theorem Keeps.lift_bind {M : G → α → Prop} {p : Program Work α} {f : α → Work.Task β}
    (hp : P.Keeps M p g) (hf : ∀ g a, M g a → P.Keeps post (f a).run g) :
    P.Keeps post ((monadLift p : Work.Task α) >>= f).run g := by
  rw [Work.run_lift_bind]
  exact hp.bind hf

/-- A caught fault is handled from where it arose. -/
theorem Keeps.tryCatch {M : G → Except Fault β → Prop} {t : Work.Task β}
    {f : Fault → Work.Task β} (ht : P.Keeps M t.run g)
    (hok : ∀ g b, M g (.ok b) → post g (.ok b))
    (herr : ∀ g e, M g (.error e) → P.Keeps post (f e).run g) :
    P.Keeps post (MonadExcept.tryCatch t f).run g := by
  rw [Work.run_tryCatch]
  refine ht.bind fun g x hx => ?_
  cases x with
  | ok b => exact hok g b hx
  | error e => exact herr g e hx

/-- A request whose result is expected to be good. -/
theorem keeps_expect {ε : Type} {fault : ε → Fault} {p : Program Work (Except ε β)}
    (hp : P.Keeps (fun g x => post g (x.mapError fault)) p g) :
    P.Keeps post (Work.expect fault p).run g := by
  rw [Work.run_expect]
  exact hp.bind fun _ _ h => h

/-- A statement goes on with its result, or ends in a fault. -/
theorem keeps_query_bind {s : Database.Statement} {f : s.Result → Session.Task β}
    (hallows : P.Allows g (.session (.query s)))
    (hok : ∀ a, P.Expects g (.session (.query s)) (.ok a) →
      P.Keeps post (Work.onDatabase (f a)).run (P.next g (.session (.query s)) (.ok a)))
    (herr : ∀ e, P.Expects g (.session (.query s)) (.error e) →
      post (P.next g (.session (.query s)) (.error e)) (.error (.database e))) :
    P.Keeps post (Work.onDatabase (Session.query s >>= f)).run g := by
  refine ⟨hallows, fun r hr => ?_⟩
  cases r with
  | ok a => exact hok a hr
  | error e => exact herr e hr

end

end Protocol

/-! ### Calls that leave trackers alone -/

namespace Work

/-- The calls by which no tracker is read or written, no failure recorded, no pipeline job scheduled
and no lease asked for or released. -/
def Plain : Call → Prop
  | .session (.query (.findTracker _)) => False
  | .session (.query (.findEntity _)) => False
  | .session (.query (.findImport _)) => False
  | .session (.query (.updateTracker _ _ _)) => False
  | .session (.query (.insertFailure _)) => False
  | .request (.schedulePipeline _ _) => False
  | .request (.obtainLease _ _) => False
  | .request (.releaseLease _) => False
  | _ => True

open Program (Confined)

theorem confined_findOrCreate (trackerId number : Int) :
    (onDatabase (Batch.findOrCreate trackerId number)).run.Confined Plain := by
  refine .call trivial fun r => ?_
  rcases r with e | _ | b
  · exact .done _
  · refine .call trivial fun now => .call trivial fun r => ?_
    rcases r with e | b
    · show Confined Plain (onDatabase (if e.isUniqueViolation then _ else _)).run
      split
      · refine .call trivial fun r => ?_
        rcases r with e | _ | b <;> exact .done _
      · exact .done _
    · exact .done _
  · exact .done _

theorem confined_enqueueFrom (trackerId : Int) (count number : Nat) :
    (Batch.enqueueFrom trackerId count number).run.Confined Plain := by
  induction count generalizing number with
  | zero => exact .done _
  | succ count ih =>
      refine (confined_findOrCreate trackerId number).bind fun r => ?_
      cases r with
      | error e => exact .done _
      | ok b =>
          refine .call trivial fun r => ?_
          cases r with
          | error e => exact .done _
          | ok u =>
              refine (ih (number + 1)).bind fun r => ?_
              cases r <;> exact .done _

/-- A fan-out makes plain calls. -/
theorem confined_enqueueAll (t : Tracker) (count : Nat) :
    (Batch.enqueueAll t count).run.Confined Plain := by
  unfold Batch.enqueueAll
  split
  · exact confined_enqueueFrom t.id count 1
  · exact .done _

/-- A poll makes plain calls. -/
theorem confined_pollExport (p : Option Pipeline) (t : Tracker) (e : Entity) :
    (Coordinator.pollExport p t e).Confined Plain := by
  cases p with
  | none => exact .done _
  | some p =>
      unfold Coordinator.pollExport
      dsimp only
      split
      · exact .call trivial fun _ => .done _
      · exact .done _

/-- What is asked before an invocation is let in are plain calls. -/
theorem confined_admission (s : Settings) (ds : List Health.Destination) (t : Tracker)
    (e : Entity) : (Health.admission s ds t e).Confined Plain := by
  unfold Health.admission
  split
  · refine .call trivial fun r => ?_
    rcases r with e | _ | _ <;> exact .done _
  · exact .done _

end Work

end ImportTracking
