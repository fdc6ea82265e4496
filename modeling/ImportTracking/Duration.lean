import ImportTracking.Word

/-!
# Duration — lengths of time

A `Duration` is a whole number of nanoseconds.  It is shown as whole seconds and the
nanoseconds that remain.
-/

namespace ImportTracking

/-- A length of time, in nanoseconds. -/
structure Duration where
  nanos : Nat
deriving DecidableEq, Repr, Inhabited

namespace Duration

/-- Nanoseconds in a second. -/
def nanosPerSec : Nat := 1000000000

/-- No time at all. -/
def zero : Duration := ⟨0⟩

def ofSecs (n : Nat) : Duration := ⟨n * nanosPerSec⟩

def ofMillis (n : Nat) : Duration := ⟨n * 1000000⟩

/-- The whole seconds of a duration. -/
def secs (d : Duration) : Nat := d.nanos / nanosPerSec

/-- The nanoseconds beyond the whole seconds. -/
def subsecNanos (d : Duration) : Nat := d.nanos % nanosPerSec

/-- The longest duration of whole seconds a 64-bit count can hold, in seconds. -/
def maxSecs : Nat := Word.max64

instance : LE Duration := ⟨fun a b => a.nanos ≤ b.nanos⟩

instance (a b : Duration) : Decidable (a ≤ b) := inferInstanceAs (Decidable (a.nanos ≤ b.nanos))

@[simp] theorem secs_ofSecs (n : Nat) : (ofSecs n).secs = n := by
  simp [secs, ofSecs, nanosPerSec]

theorem ofSecs_inj {m n : Nat} : ofSecs m = ofSecs n ↔ m = n := by
  refine ⟨fun h => ?_, congrArg _⟩
  rw [← secs_ofSecs m, h, secs_ofSecs]

end Duration

end ImportTracking
