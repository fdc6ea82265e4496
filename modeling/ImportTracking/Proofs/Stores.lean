import ImportTracking.Lease.Memory
import ImportTracking.Lease.Shared
import ImportTracking.Proofs.Tenure
import Mathlib.Order.Basic

/-!
# Stores — the calls of a lease store

A lease store is called to obtain a lease and to release one, and answers each call.  There are
two of them: one keeps its leases in memory and answers at once, the other is a program over a
database that it shares.

* `Memory.turn`, `Shared.answering`: how each of them answers a call.
* `Memory.turn_cases`: all that a call can do to leases kept in memory.
* `play`: calls one after another, to either store.
-/

namespace ImportTracking

/-- Instants in the order of time. -/
instance : Preorder Timestamp where
  le a b := a.notAfter b = true
  le_refl a := by simp [Timestamp.notAfter]
  le_trans a b c h h' := by
    simp only [Timestamp.notAfter, Bool.or_eq_true, Bool.and_eq_true, decide_eq_true_iff,
      beq_iff_eq] at *
    omega

theorem Timestamp.le_iff {a b : Timestamp} : a ≤ b ↔ a.notAfter b = true := Iff.rfl

/-- Instants of civil time are in the order of the nanoseconds they are counted in. -/
theorem Timestamp.ofSinceEpoch_le_iff {a b : Int} : ofSinceEpoch a ≤ ofSinceEpoch b ↔ a ≤ b := by
  unfold ofSinceEpoch
  simp only [le_iff, notAfter, nanosPerSec, Bool.or_eq_true, Bool.and_eq_true,
    decide_eq_true_iff, beq_iff_eq]
  omega

namespace Lease

/-- A call of a lease store. -/
inductive Call where
  | obtain_ (key : String) (ttl : Duration)
  | release (lease : Lease)

/-- What a store answers. -/
inductive Answer where
  | granted (lease : Lease)
  | held
  | released
  | failed (cause : Cause)
deriving DecidableEq

/-- The interface of lease stores. -/
abbrev Store : Interface := ⟨Call, fun _ => Answer⟩

namespace Answer

def ofObtain : Except Cause (Option Lease) → Answer
  | .ok (some lease) => granted lease
  | .ok none => held
  | .error cause => failed cause

def ofRelease : Except Cause Unit → Answer
  | .ok _ => released
  | .error cause => failed cause

end Answer

/-- The key that a call is about. -/
def Call.key : Call → String
  | obtain_ key _ => key
  | release lease => lease.key

/-- A call at a time, with the token that is generated for it if it is granted a lease. -/
structure Turn where
  now : Nat
  token : String
  call : Call

namespace Turn

/-- The lease that a turn is granted, if it asks for one. -/
def asked (t : Turn) (key : String) (ttl : Duration) : Grant Nat :=
  ⟨⟨key, t.token⟩, t.now, t.now + ttl.nanos⟩

/-- What a turn adds to the history of its store, when it is answered so. -/
def event? (t : Turn) (a : Answer) : Option (Event Nat) :=
  match t.call, a with
  | .obtain_ key ttl, .granted _ => some (.granted (t.asked key ttl))
  | .obtain_ _ _, _ => none
  | .release lease, _ => some (.released lease)

end Turn

/-- Plays turns one after another. -/
def play {σ : Type} (turn : σ → Turn → Answer × σ) : List Turn → σ → List Answer × σ
  | [], s => ([], s)
  | t :: ts, s =>
    let r := turn s t
    let rest := play turn ts r.2
    (r.1 :: rest.1, rest.2)

/-! ### In memory -/

namespace Memory

/-- How leases kept in memory answer a call, and what it leaves of them. -/
def turn (m : Memory) (t : Turn) : Answer × Memory :=
  match t.call with
  | .obtain_ key ttl =>
    let r := m.tryObtain t.now t.token key ttl
    (.ofObtain (.ok r.1), r.2)
  | .release lease => (.ofRelease (.ok ()), m.release lease)

/-- **All that a turn can do**: it is refused, it puts a lease on its key, or it releases one. -/
theorem turn_cases (m : Memory) (t : Turn) :
    (∃ key ttl h, t.call = .obtain_ key ttl ∧ m.lookup key = some h ∧ t.now < h.expiresAt ∧
      m.turn t = (.held, m) ∧ t.event? (m.turn t).1 = none) ∨
    (∃ key ttl, t.call = .obtain_ key ttl ∧
      (∀ h, m.lookup key = some h → h.expiresAt ≤ t.now) ∧
      m.turn t = (.granted ⟨key, t.token⟩, m.set key ⟨t.token, (t.asked key ttl).expiresAt⟩) ∧
      t.event? (m.turn t).1 = some (.granted (t.asked key ttl))) ∨
    ∃ lease, t.call = .release lease ∧ m.turn t = (.released, m.release lease) ∧
      t.event? (m.turn t).1 = some (.released lease) := by
  unfold turn Turn.event?
  cases t.call with
  | release lease => exact .inr (.inr ⟨lease, rfl, rfl, rfl⟩)
  | obtain_ key ttl =>
      by_cases hheld : m.isHeld t.now key = true
      · obtain ⟨h, hl, hv⟩ := isHeld_iff.mp hheld
        refine .inl ⟨key, ttl, h, rfl, hl, hv, ?_⟩
        simp only [tryObtain, if_pos hheld]
        exact ⟨rfl, rfl⟩
      · refine .inr (.inl ⟨key, ttl, rfl, fun h hl => ?_, ?_⟩)
        · exact Nat.le_of_not_lt fun hv => hheld (isHeld_iff.mpr ⟨h, hl, hv⟩)
        · simp only [tryObtain, if_neg hheld]
          exact ⟨rfl, rfl⟩

/-- **When a turn is granted a lease**: exactly when no valid one is on its key. -/
theorem turn_granted_iff {m : Memory} {t : Turn} {key : String} {ttl : Duration}
    (hc : t.call = .obtain_ key ttl) :
    (m.turn t).1 = .granted ⟨key, t.token⟩ ↔
      ∀ h, m.lookup key = some h → h.expiresAt ≤ t.now := by
  obtain ⟨k, tt, h, hc', hl, hv, hturn, -⟩ | ⟨k, tt, hc', hfree, hturn, -⟩ | ⟨lease, hc', -⟩ :=
    m.turn_cases t
  · cases hc.symm.trans hc'
    rw [hturn]
    refine ⟨fun h => (nomatch h), fun hfree => ?_⟩
    exact absurd (hfree h hl) (Nat.not_le_of_lt hv)
  · cases hc.symm.trans hc'
    rw [hturn]
    exact ⟨fun _ => hfree, fun _ => rfl⟩
  · cases hc.symm.trans hc'

/-- A turn that asks for a lease is granted it, or told that the key is held. -/
theorem turn_granted_or_held (m : Memory) {t : Turn} {key : String} {ttl : Duration}
    (hc : t.call = .obtain_ key ttl) :
    (m.turn t).1 = .granted ⟨key, t.token⟩ ∨ (m.turn t).1 = .held := by
  obtain ⟨k, tt, h, hc', -, -, hturn, -⟩ | ⟨k, tt, hc', -, hturn, -⟩ | ⟨lease, hc', -⟩ :=
    m.turn_cases t
  · exact .inr (congrArg Prod.fst hturn)
  · cases hc.symm.trans hc'
    exact .inl (congrArg Prod.fst hturn)
  · cases hc.symm.trans hc'

/-- A release takes the lease that it presents off its key, and no other. -/
theorem lookup_release_self (m : Memory) (lease : Lease) :
    (m.release lease).lookup lease.key =
      (m.lookup lease.key).filter fun h => h.token != lease.token := by
  unfold release
  cases hl : m.lookup lease.key with
  | none => simp [hl]
  | some h =>
      by_cases ht : h.token = lease.token
      · simp [ht, Option.filter]
      · simp [ht, hl, Option.filter]

/-- What is on a key after a turn that is not about it. -/
theorem lookup_turn_of_ne (m : Memory) {t : Turn} {key : String} (h : key ≠ t.call.key) :
    (m.turn t).2.lookup key = m.lookup key := by
  unfold turn
  cases hc : t.call with
  | obtain_ k ttl => exact lookup_tryObtain_of_ne m _ _ ttl (by rwa [hc] at h)
  | release lease => exact lookup_release_of_ne m lease (by rwa [hc] at h)

/-- Nothing but what is on the key of a turn decides what comes of it. -/
theorem turn_congr {m m' : Memory} {t : Turn}
    (h : m.lookup t.call.key = m'.lookup t.call.key) :
    (m.turn t).1 = (m'.turn t).1 ∧
      (m.turn t).2.lookup t.call.key = (m'.turn t).2.lookup t.call.key := by
  unfold turn
  cases hc : t.call with
  | release lease =>
      rw [hc] at h
      refine ⟨rfl, ?_⟩
      show (m.release lease).lookup lease.key = (m'.release lease).lookup lease.key
      rw [lookup_release_self, lookup_release_self]
      exact congrArg _ h
  | obtain_ key ttl =>
      rw [hc] at h
      have hheld : m.isHeld t.now key = m'.isHeld t.now key := by
        unfold isHeld
        rw [show m.lookup key = m'.lookup key from h]
      by_cases hb : m.isHeld t.now key = true
      · simp only [tryObtain, if_pos hb, if_pos (hheld ▸ hb)]
        exact ⟨trivial, h⟩
      · simp only [tryObtain, if_neg hb, if_neg (hheld ▸ hb), Call.key, lookup_set_self]
        exact ⟨trivial, trivial⟩

end Memory

/-! ### Shared through a database -/

namespace Shared

/-- The program by which a store that is shared answers a call. -/
def answering : Call → Program Session Answer
  | .obtain_ key ttl => (tryObtain key ttl).bind fun r => .done (.ofObtain r)
  | .release lease => (Shared.release lease).bind fun r => .done (.ofRelease r)

/-- What is left to do for a lease when an expired row was deleted. -/
def cleared (key : String) (ttl : Duration) :
    Except Database.Error Unit → Program Session (Except Cause (Option Lease))
  | .error e => return .error (inContext ("Failed to clear expired lease " ++ key) e)
  | .ok _ => write key ttl

/-- What is left to do for a lease when the row of its key was read. -/
def found (key : String) (ttl : Duration) (now : Timestamp) :
    Except Database.Error (Option Row) → Program Session (Except Cause (Option Lease))
  | .error e => return .error (inContext ("Failed to read lease " ++ key) e)
  | .ok none => write key ttl
  | .ok (some row) =>
    if !row.expiresAt.notAfter now then return .ok none
    else Session.tryQuery (.deleteLease row.id row.token) >>= cleared key ttl

theorem tryObtain_eq (key : String) (ttl : Duration) :
    tryObtain key ttl =
      Session.now >>= fun now => Session.tryQuery (.findLease key) >>= found key ttl now := by
  refine bind_congr fun now => bind_congr fun r => ?_
  obtain e | _ | row := r
  · rfl
  · rfl
  · refine ite_congr rfl (fun _ => rfl) fun _ => bind_congr fun r => ?_
    cases r <;> rfl

theorem found_of_valid (key : String) (ttl : Duration) {now : Timestamp} {row : Row}
    (hvalid : ¬ row.expiresAt ≤ now) : found key ttl now (.ok (some row)) = .done (.ok none) :=
  if_pos (by simpa [Timestamp.le_iff] using hvalid)

theorem found_of_expired (key : String) (ttl : Duration) {now : Timestamp} {row : Row}
    (hexpired : row.expiresAt ≤ now) :
    found key ttl now (.ok (some row)) =
      Session.tryQuery (.deleteLease row.id row.token) >>= cleared key ttl :=
  if_neg (by simpa [Timestamp.le_iff] using hexpired)

/-- A database as a call finds it that is made at one time and generates one token at most. -/
def visit (db : Database) (now : Timestamp) (token : String) : Session.State where
  database := db
  clock := now
  supply := { naming := { jid := fun _ => token, correlation := fun _ => token,
                          token := fun _ => token } }

end Shared

end Lease

end ImportTracking
