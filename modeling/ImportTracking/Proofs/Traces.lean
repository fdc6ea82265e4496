import ImportTracking.Proofs.Interleaving

/-!
# Traces — the calls of several programs, and what they keep

`Pool.trace` is what a pool did along a schedule: for every call its place, the call, its reply,
and the states around it.  A property of such histories is proved as one proves an invariant,
except that the programs other than the one that makes the call must be heard too: each place
knows something, and no call of another place may make it wrong (`Kept`).

* `Kept.trace`: what is kept by every call is so after every schedule.
-/

namespace ImportTracking

namespace Pool

/-- A call that a place made, with its reply and the states around it. -/
structure Exchange (I : Interface) (σ : Type) where
  place : Nat
  call : I.Call
  reply : I.Reply call
  before : σ
  after : σ

section
variable {I : Interface} {α σ : Type} (answer : (c : I.Call) → σ → I.Reply c × σ)

/-- A call, answered. -/
def exchange (i : Nat) (c : I.Call) (s : σ) : Exchange I σ :=
  ⟨i, c, (answer c s).1, s, (answer c s).2⟩

/-- The call that the program at a place makes next, if there is one. -/
def exchange? (i : Nat) (ps : Pool I α) (s : σ) : Option (Exchange I σ) :=
  match ps[i]? with
  | some (.call c _) => some (exchange answer i c s)
  | _ => none

/-- The calls of a pool along a schedule. -/
def trace : List Nat → Pool I α → σ → List (Exchange I σ)
  | [], _, _ => []
  | i :: is, ps, s =>
    (exchange? answer i ps s).toList ++
      trace is (advance answer i ps s).1 (advance answer i ps s).2

/-- What every call keeps: a property of the history and the state, and what each place knows of
them at the program that it is left with. -/
structure Kept (Fits : List (Exchange I σ) → σ → Prop)
    (Knows : List (Exchange I σ) → σ → Nat → Program I α → Prop) : Prop where
  fits : ∀ {h s i c next}, Fits h s → Knows h s i (.call c next) →
    Fits (h ++ [exchange answer i c s]) (answer c s).2
  own : ∀ {h s i c next}, Fits h s → Knows h s i (.call c next) →
    Knows (h ++ [exchange answer i c s]) (answer c s).2 i (next (answer c s).1)
  others : ∀ {h s i c next j p}, Fits h s → Knows h s i (.call c next) → j ≠ i → Knows h s j p →
    Knows (h ++ [exchange answer i c s]) (answer c s).2 j p

variable {answer} {Fits : List (Exchange I σ) → σ → Prop}
  {Knows : List (Exchange I σ) → σ → Nat → Program I α → Prop}

/-- One step of a pool keeps it. -/
theorem Kept.advance (hk : Kept answer Fits Knows) {h : List (Exchange I σ)} {s : σ}
    {ps : Pool I α} (hfits : Fits h s) (hknows : ∀ j p, ps[j]? = some p → Knows h s j p)
    (i : Nat) :
    let r := Pool.advance answer i ps s
    let h' := h ++ (exchange? answer i ps s).toList
    Fits h' r.2 ∧ ∀ j p, r.1[j]? = some p → Knows h' r.2 j p := by
  intro r h'
  match hp : ps[i]? with
  | none =>
      have hr : r = (ps, s) := advance_of_none answer hp
      have hh : h' = h := by simp [h', exchange?, hp]
      rw [hr, hh]
      exact ⟨hfits, hknows⟩
  | some (.done a) =>
      -- a program that is done makes no call
      obtain ⟨hself, hs⟩ := advance_self answer s hp
      have hh : h' = h := by simp [h', exchange?, hp]
      rw [show r.2 = s from hs, hh]
      refine ⟨hfits, fun j p hj => ?_⟩
      by_cases hji : j = i
      · subst hji
        obtain rfl := Option.some.inj (hself.symm.trans hj)
        exact hknows j _ hp
      · exact hknows j p ((advance_of_ne answer hji).symm.trans hj)
  | some (.call c next) =>
      obtain ⟨hself, hs⟩ := advance_self answer s hp
      have hh : h' = h ++ [exchange answer i c s] := by simp [h', exchange?, hp]
      rw [show r.2 = (answer c s).2 from hs, hh]
      refine ⟨hk.fits hfits (hknows i _ hp), fun j p hj => ?_⟩
      by_cases hji : j = i
      · subst hji
        obtain rfl := Option.some.inj (hself.symm.trans hj)
        exact hk.own hfits (hknows j _ hp)
      · refine hk.others hfits (hknows i _ hp) hji ?_
        exact hknows j p ((advance_of_ne answer hji).symm.trans hj)

/-- **What every call keeps is so after every schedule.** -/
theorem Kept.trace (hk : Kept answer Fits Knows) (sched : List Nat) {h : List (Exchange I σ)}
    {s : σ} {ps : Pool I α} (hfits : Fits h s) (hknows : ∀ j p, ps[j]? = some p → Knows h s j p) :
    let r := runSchedule answer sched ps s
    let h' := h ++ Pool.trace answer sched ps s
    Fits h' r.2 ∧ ∀ j p, r.1[j]? = some p → Knows h' r.2 j p := by
  induction sched generalizing h s ps with
  | nil => simpa [Pool.trace] using ⟨hfits, hknows⟩
  | cons i sched ih =>
      obtain ⟨hfits', hknows'⟩ := hk.advance hfits hknows i
      rw [Pool.trace, ← List.append_assoc]
      exact ih hfits' hknows'

end

end Pool

namespace Program

variable {I J : Interface} {α : Type}

/-- The program in which every call is carried out by a program over another interface. -/
def expand (f : (c : I.Call) → Program J (I.Reply c)) : Program I α → Program J α
  | .done a => .done a
  | .call c next => (f c).bind fun r => (next r).expand f

/-- The program makes allowed calls only, whatever is replied. -/
inductive Confined (allowed : I.Call → Prop) : Program I α → Prop where
  | done (a : α) : Confined allowed (.done a)
  | call {c : I.Call} {next : I.Reply c → Program I α} (hc : allowed c)
      (hnext : ∀ r, Confined allowed (next r)) : Confined allowed (.call c next)

end Program

end ImportTracking
