/-!
# Program — sequences of calls with every possible reply

An `Interface` lists the calls a program may make and says what each call replies.  A
`Program` is the tree of its calls: a call, and for every reply the program that follows.  It
says what is asked for and in which order, and leaves open who answers.

`Program.run` plays a program against an answerer that carries a state.  `Pool` plays several
programs at once, one call at a time, so that what holds under every interleaving can be said
of the same definitions that run alone; `Pool.rounds` is the interleaving in which they take
turns.

`Program.tryRun` plays a program whose calls may panic.

Main statements: `bind_assoc`; `run_bind` (a run of a sequence is the runs in sequence);
`tryRun_bind_of_some`, `tryRun_bind_of_none` (so is one that may panic).
-/

namespace ImportTracking

/-- The calls a program may make, and the type of the reply to each. -/
structure Interface where
  /-- What can be asked. -/
  Call : Type
  /-- What is replied. -/
  Reply : Call → Type

/-- A program over the interface `I`: it is done, or it makes a call and goes on with the
reply. -/
inductive Program (I : Interface) (α : Type) : Type where
  | done (value : α)
  | call (c : I.Call) (next : I.Reply c → Program I α)

namespace Program

variable {I J : Interface} {α β γ σ : Type}

/-- Runs `p`, then the program its value selects. -/
def bind : Program I α → (α → Program I β) → Program I β
  | .done a, f => f a
  | .call c next, f => .call c fun r => (next r).bind f

instance : Monad (Program I) where
  pure := .done
  bind := bind

/-- The program that makes one call and returns its reply. -/
def ask (c : I.Call) : Program I (I.Reply c) :=
  .call c .done

/-- Plays a program from the state `s`; each call is answered by `answer`. -/
def run (answer : (c : I.Call) → σ → I.Reply c × σ) : Program I α → σ → α × σ
  | .done a, s => (a, s)
  | .call c next, s => (next (answer c s).1).run answer (answer c s).2

/-- Plays a program whose calls may panic.  A panic ends it where it stands, without a value. -/
def tryRun (answer : (c : I.Call) → σ → Option (I.Reply c) × σ) : Program I α → σ → Option α × σ
  | .done a, s => (some a, s)
  | .call c next, s =>
    match answer c s with
    | (some r, s') => (next r).tryRun answer s'
    | (none, s') => (none, s')

/-- Every call of a run satisfies `P` in the state in which it is made. -/
def Always (answer : (c : I.Call) → σ → Option (I.Reply c) × σ) (P : I.Call → σ → Prop) :
    Program I α → σ → Prop
  | .done _, _ => True
  | .call c next, s =>
    P c s ∧
      match answer c s with
      | (some r, s') => (next r).Always answer P s'
      | (none, _) => True

theorem always_call (answer : (c : I.Call) → σ → Option (I.Reply c) × σ) (P : I.Call → σ → Prop)
    (c : I.Call) (next : I.Reply c → Program I α) (s : σ) :
    (call c next).Always answer P s ↔
      P c s ∧
        match answer c s with
        | (some r, s') => (next r).Always answer P s'
        | (none, _) => True := by
  rw [Always]

instance decidableAlways (answer : (c : I.Call) → σ → Option (I.Reply c) × σ)
    (P : I.Call → σ → Prop) [∀ c, DecidablePred (P c)] :
    (p : Program I α) → (s : σ) → Decidable (p.Always answer P s)
  | .done _, _ => isTrue trivial
  | .call c next, s =>
    have : Decidable (match answer c s with
        | (some r, s') => (next r).Always answer P s'
        | (none, _) => True) :=
      match answer c s with
      | (some r, s') => decidableAlways answer P (next r) s'
      | (none, _) => isTrue trivial
    decidable_of_iff _ (always_call answer P c next s).symm

/-- Plays the first call of a program, if it makes one. -/
def advance (answer : (c : I.Call) → σ → I.Reply c × σ) : Program I α → σ → Program I α × σ
  | .done a, s => (.done a, s)
  | .call c next, s => (next (answer c s).1, (answer c s).2)

/-- Plays a program up to its next call of a kind, and that call too. -/
def advanceThrough (isLast : I.Call → Bool) (answer : (c : I.Call) → σ → I.Reply c × σ) :
    Program I α → σ → Program I α × σ
  | .done a, s => (.done a, s)
  | .call c next, s =>
    if isLast c then (next (answer c s).1, (answer c s).2)
    else (next (answer c s).1).advanceThrough isLast answer (answer c s).2

/-- The value of a program that has no call left to make. -/
def value? : Program I α → Option α
  | .done a => some a
  | .call _ _ => none

/-- The same program over a larger interface: the call `c` is made as `f c`, and its reply is
read back by `read`. -/
def mapCalls (f : I.Call → J.Call) (read : (c : I.Call) → J.Reply (f c) → I.Reply c) :
    Program I α → Program J α
  | .done a => .done a
  | .call c next => .call (f c) fun r => (next (read c r)).mapCalls f read

theorem bind_assoc (p : Program I α) (f : α → Program I β) (g : β → Program I γ) :
    (p.bind f).bind g = p.bind fun a => (f a).bind g := by
  induction p with
  | done a => rfl
  | call c next ih => simp only [bind, ih]

theorem bind_done (p : Program I α) : p.bind .done = p := by
  induction p with
  | done a => rfl
  | call c next ih => simp only [bind, ih]

instance : LawfulMonad (Program I) :=
  LawfulMonad.mk' (Program I) (fun p => bind_done p) (fun _ _ => rfl) fun p f g =>
    bind_assoc p f g

@[simp] theorem run_done (answer : (c : I.Call) → σ → I.Reply c × σ) (a : α) (s : σ) :
    (done a : Program I α).run answer s = (a, s) := rfl

@[simp] theorem run_call (answer : (c : I.Call) → σ → I.Reply c × σ) (c : I.Call)
    (next : I.Reply c → Program I α) (s : σ) :
    (call c next).run answer s = (next (answer c s).1).run answer (answer c s).2 := rfl

@[simp] theorem run_ask (answer : (c : I.Call) → σ → I.Reply c × σ) (c : I.Call) (s : σ) :
    (ask c).run answer s = answer c s := rfl

theorem run_bind (answer : (c : I.Call) → σ → I.Reply c × σ) (p : Program I α)
    (f : α → Program I β) (s : σ) :
    (p.bind f).run answer s = (f (p.run answer s).1).run answer (p.run answer s).2 := by
  induction p generalizing s with
  | done a => rfl
  | call c next ih => simp only [bind, run_call, ih]

section
variable {answer : (c : I.Call) → σ → Option (I.Reply c) × σ} {p : Program I α} {s s' : σ}

theorem tryRun_call_of_some {c : I.Call} {next : I.Reply c → Program I α} {r : I.Reply c}
    (h : answer c s = (some r, s')) :
    (call c next).tryRun answer s = (next r).tryRun answer s' := by
  simp only [tryRun, h]

theorem tryRun_call_of_none {c : I.Call} {next : I.Reply c → Program I α}
    (h : answer c s = (none, s')) : (call c next).tryRun answer s = (none, s') := by
  simp only [tryRun, h]

theorem tryRun_ask (c : I.Call) (s : σ) : (ask c).tryRun answer s = answer c s := by
  rcases h : answer c s with ⟨_ | r, t⟩
  · exact tryRun_call_of_none h
  · exact tryRun_call_of_some h

/-- A sequence goes on with the value of its first part, -/
theorem tryRun_bind_of_some {a : α} (h : p.tryRun answer s = (some a, s'))
    (f : α → Program I β) : (p.bind f).tryRun answer s = (f a).tryRun answer s' := by
  induction p generalizing s with
  | done b =>
      cases h
      rfl
  | call c next ih =>
      rcases hc : answer c s with ⟨_ | r, t⟩
      · rw [tryRun_call_of_none hc] at h
        cases h
      · rw [tryRun_call_of_some hc] at h
        rw [bind, tryRun_call_of_some hc, ih r h]

/-- and ends where that panics. -/
theorem tryRun_bind_of_none (h : p.tryRun answer s = (none, s')) (f : α → Program I β) :
    (p.bind f).tryRun answer s = (none, s') := by
  induction p generalizing s with
  | done b => cases h
  | call c next ih =>
      rcases hc : answer c s with ⟨_ | r, t⟩
      · rw [tryRun_call_of_none hc] at h
        cases h
        rw [bind, tryRun_call_of_none hc]
      · rw [tryRun_call_of_some hc] at h
        rw [bind, tryRun_call_of_some hc, ih r h]

end

end Program

/-! ### Several programs at once -/

/-- Programs that run side by side over one state. -/
abbrev Pool (I : Interface) (α : Type) := List (Program I α)

namespace Pool

variable {I : Interface} {α σ : Type}

/-- The program at the place `i` makes its next call. -/
def advance (answer : (c : I.Call) → σ → I.Reply c × σ) :
    Nat → Pool I α → σ → Pool I α × σ
  | _, [], s => ([], s)
  | 0, p :: ps, s => ((p.advance answer s).1 :: ps, (p.advance answer s).2)
  | i + 1, p :: ps, s => (p :: (advance answer i ps s).1, (advance answer i ps s).2)

/-- Plays the pool along a schedule: a list of places, each the place that makes the next
call. -/
def runSchedule (answer : (c : I.Call) → σ → I.Reply c × σ) :
    List Nat → Pool I α → σ → Pool I α × σ
  | [], ps, s => (ps, s)
  | i :: is, ps, s =>
    runSchedule answer is (advance answer i ps s).1 (advance answer i ps s).2

/-- Every program takes a turn, in the order of their places: its calls up to the next one of a
kind, and that one too. -/
def round (isLast : I.Call → Bool) (answer : (c : I.Call) → σ → I.Reply c × σ) :
    Pool I α → σ → Pool I α × σ
  | [], s => ([], s)
  | p :: ps, s =>
    let (p', s') := p.advanceThrough isLast answer s
    let (ps', s'') := round isLast answer ps s'
    (p' :: ps', s'')

/-- Plays at most `limit` rounds, and no more once every program is done. -/
def rounds (isLast : I.Call → Bool) (answer : (c : I.Call) → σ → I.Reply c × σ) :
    Nat → Pool I α → σ → Pool I α × σ
  | 0, ps, s => (ps, s)
  | limit + 1, ps, s =>
    if ps.all (·.value?.isSome) then (ps, s)
    else
      let (ps', s') := round isLast answer ps s
      rounds isLast answer limit ps' s'

end Pool

end ImportTracking
