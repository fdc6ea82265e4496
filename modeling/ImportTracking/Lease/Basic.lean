import ImportTracking.Program
import ImportTracking.Fault

/-!
# Lease — exclusive ownership for a time

A lease gives its holder a key for a time.  The holder is told by a token; only a release with
that token frees the key before the lease expires.

`guarded` does a piece of work under a lease: it obtains the lease, works, and releases it,
however the work went.  Without the lease it does nothing.

Main statements: `guarded_held` and `guarded_obtained` say what it does in either case.
-/

namespace ImportTracking

/-- A lease: its key, and the token of its holder. -/
structure Lease where
  key : String
  token : String
deriving DecidableEq, Repr, Inhabited

namespace Lease

variable {I : Interface} {α : Type}

/-- Does `work` under a lease.  There is no result when the lease is held by another or cannot
be had; an error of the release is passed over, since the lease expires by itself. -/
def guarded (obtain_ : Program I (Except Cause (Option Lease)))
    (release : Lease → Program I (Except Cause Unit)) (work : Program I α) :
    Program I (Option α) := do
  match ← obtain_ with
  | .ok (some lease) =>
    let result ← work
    let _ ← release lease
    return some result
  | .ok none => return none
  | .error _ => return none

variable {σ : Type} (answer : (c : I.Call) → σ → I.Reply c × σ)
  {obtain_ : Program I (Except Cause (Option Lease))}
  {release : Lease → Program I (Except Cause Unit)} {work : Program I α} {s : σ}

/-- Without the lease nothing is done. -/
theorem guarded_held {r : Except Cause (Option Lease)} (h : (obtain_.run answer s).1 = r)
    (hr : ∀ l, r ≠ .ok (some l)) :
    (guarded obtain_ release work).run answer s = (none, (obtain_.run answer s).2) := by
  subst h
  simp only [guarded, Bind.bind, Program.run_bind]
  generalize obtain_.run answer s = x at hr
  obtain ⟨r, t⟩ := x
  cases r with
  | error e => rfl
  | ok o =>
    cases o with
    | none => rfl
    | some l => exact absurd rfl (hr l)

/-- With the lease the work is done, and then the lease released. -/
theorem guarded_obtained {l : Lease} (h : (obtain_.run answer s).1 = .ok (some l)) :
    (guarded obtain_ release work).run answer s =
      let w := work.run answer (obtain_.run answer s).2
      (some w.1, ((release l).run answer w.2).2) := by
  simp only [guarded, Bind.bind, Program.run_bind, h]
  rfl

/-! ### Panics -/

section
variable {answer : (c : I.Call) → σ → Option (I.Reply c) × σ} {s₁ s₂ s₃ : σ}

theorem tryRun_guarded_of_refused {r : Except Cause (Option Lease)}
    (h : obtain_.tryRun answer s = (some r, s₁)) (hr : ∀ l, r ≠ .ok (some l)) :
    (guarded obtain_ release work).tryRun answer s = (some none, s₁) := by
  refine (Program.tryRun_bind_of_some h _).trans ?_
  cases r with
  | error e => rfl
  | ok o =>
    cases o with
    | none => rfl
    | some l => exact absurd rfl (hr l)

theorem tryRun_guarded_of_obtained {l : Lease} {a : α} {r : Except Cause Unit}
    (h : obtain_.tryRun answer s = (some (.ok (some l)), s₁))
    (hw : work.tryRun answer s₁ = (some a, s₂))
    (hr : (release l).tryRun answer s₂ = (some r, s₃)) :
    (guarded obtain_ release work).tryRun answer s = (some (some a), s₃) := by
  refine (Program.tryRun_bind_of_some h _).trans ?_
  refine (Program.tryRun_bind_of_some hw _).trans ?_
  exact Program.tryRun_bind_of_some hr _

/-- A panic of the work ends the call too: the lease is not released. -/
theorem tryRun_guarded_of_panic {l : Lease}
    (h : obtain_.tryRun answer s = (some (.ok (some l)), s₁))
    (hw : work.tryRun answer s₁ = (none, s₂)) :
    (guarded obtain_ release work).tryRun answer s = (none, s₂) := by
  refine (Program.tryRun_bind_of_some h _).trans ?_
  exact Program.tryRun_bind_of_none hw _

end

end Lease

end ImportTracking
