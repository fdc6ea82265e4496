import ImportTracking.Program
import Mathlib.Data.List.Chain

/-!
# Interleaving — the steps of several programs

`Pool.steps` is the history of a pool along a schedule: for every step the place that made the
call, and the states before and after it.  `Pool.own` is the part of a history that one place
made.

* `advance_self`, `advance_of_ne`: a step is one of the program at its place, and leaves the
  other programs alone.
* `steps_chained`: every step starts from where the one before it ended.
-/

namespace ImportTracking.Pool

/-- A step: the place that makes a call, and the states around it. -/
structure Step (σ : Type) where
  place : Nat
  before : σ
  after : σ

section
variable {I : Interface} {α σ : Type} (answer : (c : I.Call) → σ → I.Reply c × σ)

/-- The steps of a pool along a schedule. -/
def steps : List Nat → Pool I α → σ → List (Step σ)
  | [], _, _ => []
  | i :: is, ps, s =>
    ⟨i, s, (advance answer i ps s).2⟩ ::
      steps is (advance answer i ps s).1 (advance answer i ps s).2

/-- The value of the program at a place, if it is done. -/
def value? (ps : Pool I α) (i : Nat) : Option α := ps[i]?.bind Program.value?

variable {ps : Pool I α} {s : σ} {i j : Nat}

/-- A step at a place that has no program does nothing. -/
theorem advance_of_none (h : ps[i]? = none) : advance answer i ps s = (ps, s) := by
  induction ps generalizing i with
  | nil => cases i <;> rfl
  | cons p ps ih =>
      cases i with
      | zero => simp at h
      | succ i => rw [advance, ih (by simpa using h)]

/-- The program at the place of a step makes its next call. -/
theorem advance_self (s : σ) {p : Program I α} (h : ps[i]? = some p) :
    (advance answer i ps s).1[i]? = some (p.advance answer s).1 ∧
      (advance answer i ps s).2 = (p.advance answer s).2 := by
  induction ps generalizing i with
  | nil => simp at h
  | cons q ps ih =>
      cases i with
      | zero =>
          obtain rfl : q = p := by simpa using h
          exact ⟨rfl, rfl⟩
      | succ i => exact ih (by simpa using h)

/-- The programs at other places stay where they are. -/
theorem advance_of_ne (h : j ≠ i) : (advance answer i ps s).1[j]? = ps[j]? := by
  induction ps generalizing i j with
  | nil => cases i <;> rfl
  | cons p ps ih =>
      cases i with
      | zero =>
          obtain ⟨j, rfl⟩ := Nat.exists_eq_succ_of_ne_zero h
          rfl
      | succ i =>
          cases j with
          | zero => rfl
          | succ j => exact ih fun hj => h (congrArg Nat.succ hj)

/-- Every step starts from where the one before it ended. -/
theorem steps_chained (is : List Nat) (ps : Pool I α) (s : σ) :
    (steps answer is ps s).IsChain fun x y => y.before = x.after := by
  induction is generalizing ps s with
  | nil => exact .nil
  | cons i is ih =>
      cases is with
      | nil => exact .singleton _
      | cons j is => exact .cons_cons rfl (ih _ _)

end

section
variable {σ : Type} {i j : Nat} {x : Step σ} {xs : List (Step σ)}

/-- The steps that a place made. -/
def own (i : Nat) (xs : List (Step σ)) : List (Step σ) := xs.filter (·.place == i)

theorem own_cons (i : Nat) (x : Step σ) (xs : List (Step σ)) :
    own i (x :: xs) = if x.place = i then x :: own i xs else own i xs := by
  simp [own, List.filter_cons]

/-- A stretch that one place made alone, with no step of it before or after, is all it made. -/
theorem own_append_append {xs₁ ys xs₂ : List (Step σ)} (h : ∀ x ∈ xs₁ ++ xs₂, x.place ≠ i)
    (h' : ∀ x ∈ ys, x.place = i) : own i (xs₁ ++ ys ++ xs₂) = ys := by
  have hnil {zs : List (Step σ)} (hz : ∀ x ∈ zs, x.place ≠ i) : own i zs = [] :=
    List.filter_eq_nil_iff.mpr fun x hx => by simpa using hz x hx
  have hself : own i ys = ys := List.filter_eq_self.mpr fun x hx => by simpa using h' x hx
  have hsplit : own i (xs₁ ++ ys ++ xs₂) = own i xs₁ ++ own i ys ++ own i xs₂ := by simp [own]
  rw [hsplit, hself, hnil fun x hx => h x (List.mem_append_left _ hx),
    hnil fun x hx => h x (List.mem_append_right _ hx), List.nil_append, List.append_nil]

end

end ImportTracking.Pool
