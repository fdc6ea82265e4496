import ImportTracking.Lease.Basic
import ImportTracking.Session
import ImportTracking.Duration
import ImportTracking.Word

/-!
# Lease — shared through a database

Leases kept as rows, one for a key, that workers on one database share.  To obtain a lease the
row of its key is read; an expired one is deleted, if it is still the one that was read; then a
new row is inserted.  Of several workers that do so at once only one can insert its row, and the
others find the lease held.

Every statement is a step of its own: nothing is locked between them.
-/

namespace ImportTracking.Lease.Shared

/-- The longest time to live that an instant can be reckoned with, in nanoseconds. -/
def longestTtl : Nat := Word.maxSigned64 * 1000000

/-- An error of the database in the given context. -/
def inContext (context : String) (e : Database.Error) : Cause := ⟨e.text, [context]⟩

/-- Inserts a row for a new lease; a row that is there already means that it is held. -/
def write (key : String) (ttl : Duration) :
    Program Session (Except Cause (Option Lease)) := do
  let now ← Session.now
  let token ← Session.newToken
  if ttl.nanos ≤ longestTtl then
    let expiresAt := Timestamp.ofSinceEpoch (now.sinceEpoch + ttl.nanos)
    match ← Session.tryQuery (.insertLease key token expiresAt now) with
    | .ok _ => return .ok (some ⟨key, token⟩)
    | .error e =>
      if e.isUniqueViolation then return .ok none
      else return .error (inContext ("Failed to write lease " ++ key) e)
  else
    return .error
      ⟨"Source duration value is out of range for the target type",
        ["Lease timeout out of range"]⟩

/-- Obtains the lease on a key, unless it is held. -/
def tryObtain (key : String) (ttl : Duration) :
    Program Session (Except Cause (Option Lease)) := do
  let now ← Session.now
  match ← Session.tryQuery (.findLease key) with
  | .error e => return .error (inContext ("Failed to read lease " ++ key) e)
  | .ok none => write key ttl
  | .ok (some row) =>
    if !row.expiresAt.notAfter now then return .ok none
    else
      match ← Session.tryQuery (.deleteLease row.id row.token) with
      | .error e => return .error (inContext ("Failed to clear expired lease " ++ key) e)
      | .ok _ => write key ttl

/-- Releases a lease, if its token still holds the key. -/
def release (lease : Lease) : Program Session (Except Cause Unit) := do
  match ← Session.tryQuery (.releaseLease lease.key lease.token) with
  | .ok _ => return .ok ()
  | .error e => return .error (inContext ("Failed to release lease " ++ lease.key) e)

end ImportTracking.Lease.Shared
