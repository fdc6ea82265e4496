import ImportTracking.Lease.Basic
import ImportTracking.Duration

/-!
# Lease — within one process

Leases kept in memory, with a clock that counts nanoseconds.  A lease is valid up to, and not
at, the instant at which it expires; a key whose lease has expired is free.  Where a clock cannot
count that far, a lease that would expire too late is a panic (`tryObtainBy`).

Main statements: `lookup_tryObtain_of_ne` and `lookup_release_of_ne` (one key does not touch
another), `isHeld_iff` (a key is held while the lease that was put on it last is valid),
`tryObtainBy_of_tells`, `tryObtainBy_of_not_tells` (when obtaining one panics).
-/

namespace ImportTracking.Lease

/-- Who holds a key, and until when. -/
structure Held where
  token : String
  /-- The instant from which on the lease is not valid any more. -/
  expiresAt : Nat
deriving DecidableEq, Repr, Inhabited

/-- The leases kept in memory, each key once. -/
structure Memory where
  entries : List (String × Held) := []
deriving Repr, Inhabited

namespace Memory

/-- Who holds a key, expired or not. -/
def lookup (m : Memory) (key : String) : Option Held :=
  (m.entries.find? fun e => e.1 == key).map (·.2)

/-- The leases without the one on a key. -/
def without (m : Memory) (key : String) : Memory := ⟨m.entries.filter fun e => e.1 != key⟩

/-- Notes who holds a key. -/
def set (m : Memory) (key : String) (h : Held) : Memory := ⟨(key, h) :: (m.without key).entries⟩

/-- Whether a valid lease is on the key. -/
def isHeld (m : Memory) (now : Nat) (key : String) : Bool :=
  match m.lookup key with
  | some h => now < h.expiresAt
  | none => false

/-- Obtains a lease with a new token, unless another one is valid.  Instants go on for ever here. -/
def tryObtain (m : Memory) (now : Nat) (token key : String) (ttl : Duration) :
    Option Lease × Memory :=
  if m.isHeld now key then (none, m)
  else (some ⟨key, token⟩, m.set key ⟨token, now + ttl.nanos⟩)

/-- The last instant that can be told when seconds are counted by 64 bits with a sign. -/
def lastInstant : Nat := (Word.maxSigned64 + 1) * Duration.nanosPerSec - 1

/-- Obtains a lease when no instant after `last` can be told: a panic, before anything is changed,
if the lease would expire later than that. -/
def tryObtainBy (m : Memory) (last now : Nat) (token key : String) (ttl : Duration) :
    Option (Option Lease) × Memory :=
  if !m.isHeld now key && decide (last < now + ttl.nanos) then (none, m)
  else
    let r := m.tryObtain now token key ttl
    (some r.1, r.2)

/-- Releases a lease, if its token still holds the key. -/
def release (m : Memory) (lease : Lease) : Memory :=
  match m.lookup lease.key with
  | some h => if h.token = lease.token then m.without lease.key else m
  | none => m

@[simp] theorem lookup_without_self (m : Memory) (key : String) :
    (m.without key).lookup key = none := by
  simp [lookup, without]

theorem lookup_without_of_ne (m : Memory) {key other : String} (h : other ≠ key) :
    (m.without key).lookup other = m.lookup other := by
  have : ∀ es : List (String × Held),
      (es.filter fun e => e.1 != key).find? (fun e => e.1 == other) =
        es.find? fun e => e.1 == other := by
    intro es
    induction es with
    | nil => rfl
    | cons e es ih =>
      by_cases he : e.1 = key
      · have ho : (e.1 == other) = false := by simp [he, h.symm]
        simp [he, h.symm, ih]
      · by_cases ho : e.1 = other <;> simp [he, ho, ih, h]
  simp only [lookup, without, this]

@[simp] theorem lookup_set_self (m : Memory) (key : String) (h : Held) :
    (m.set key h).lookup key = some h := by
  simp [lookup, set]

theorem lookup_set_of_ne (m : Memory) {key other : String} (h : Held) (hne : other ≠ key) :
    (m.set key h).lookup other = m.lookup other := by
  rw [← lookup_without_of_ne m hne]
  simp [lookup, set, hne.symm]

/-- A key is held while the lease that was put on it last is valid. -/
theorem isHeld_iff {m : Memory} {now : Nat} {key : String} :
    m.isHeld now key = true ↔ ∃ h, m.lookup key = some h ∧ now < h.expiresAt := by
  unfold isHeld
  cases m.lookup key <;> simp

/-- While another lease is valid, or if the instant can be told, nothing panics. -/
theorem tryObtainBy_of_tells {m : Memory} {last now : Nat} {key : String} {ttl : Duration}
    (h : m.isHeld now key = true ∨ now + ttl.nanos ≤ last) (token : String) :
    m.tryObtainBy last now token key ttl =
      (some (m.tryObtain now token key ttl).1, (m.tryObtain now token key ttl).2) := by
  refine if_neg fun hb => ?_
  obtain ⟨hfree, hlast⟩ : m.isHeld now key = false ∧ last < now + ttl.nanos := by
    simpa using hb
  obtain hheld | hle := h
  · rw [hfree] at hheld
    cases hheld
  · exact Nat.not_lt_of_le hle hlast

/-- An instant that cannot be told is a panic on a key that is free. -/
theorem tryObtainBy_of_not_tells {m : Memory} {last now : Nat} {key : String} {ttl : Duration}
    (hfree : m.isHeld now key = false) (hlast : last < now + ttl.nanos) (token : String) :
    m.tryObtainBy last now token key ttl = (none, m) :=
  if_pos (by simp [hfree, hlast])

theorem lookup_tryObtain_of_ne (m : Memory) (now : Nat) (token : String) {key other : String}
    (ttl : Duration) (h : other ≠ key) :
    (m.tryObtain now token key ttl).2.lookup other = m.lookup other := by
  unfold tryObtain
  split
  · rfl
  · exact lookup_set_of_ne m _ h

theorem lookup_release_of_ne (m : Memory) (lease : Lease) {other : String}
    (h : other ≠ lease.key) : (m.release lease).lookup other = m.lookup other := by
  unfold release
  split
  · split
    · exact lookup_without_of_ne m h
    · rfl
  · rfl

end Memory

end ImportTracking.Lease
