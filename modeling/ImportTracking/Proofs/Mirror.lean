import ImportTracking.Proofs.Stores
import ImportTracking.Proofs.LeaseRows

/-!
# Mirror — leases in memory and leases in a database

The two kinds of lease stores answer the same turns alike, if no two turns overlap.  A database
mirrors memory when it has the same leases, one row for each: the row of a key has the token and
the expiry that memory has for it.  Tokens are generated by each store for itself, so those of the
database are the ones of memory renamed by some injective `ρ`; and memory counts nanoseconds from
an origin of its own.

* `turn_mirrors`: one turn is answered alike and keeps the mirror.
* `play_mirrors`: so are any number of turns.
-/

namespace ImportTracking

namespace Session

section
variable {β : Type} {st : State}

theorem run_now_bind (f : Timestamp → Program Session β) :
    run (now >>= f) st = run (f st.clock) st := rfl

theorem run_newToken_bind (f : String → Program Session β) :
    run (newToken >>= f) st =
      run (f st.supply.drawToken.1) { st with supply := st.supply.drawToken.2 } := rfl

theorem run_tryQuery_bind {s : Database.Statement} {x : Except Database.Error s.Result}
    {db : Database} (h : Database.execute s st.database = (x, db))
    (f : Except Database.Error s.Result → Program Session β) :
    run (tryQuery s >>= f) st = run (f x) { st with database := db } := by
  show run (f (Database.execute s st.database).1)
    { st with database := (Database.execute s st.database).2 } = _
  rw [h]

end

end Session

namespace Lease

open Database (Orderly)

/-! ### Renaming tokens -/

section
variable (ρ : String → String)

def rename (l : Lease) : Lease := ⟨l.key, ρ l.token⟩

def Call.rename : Call → Call
  | obtain_ key ttl => obtain_ key ttl
  | release lease => release (lease.rename ρ)

def Answer.rename : Answer → Answer
  | granted lease => granted (lease.rename ρ)
  | held => held
  | released => released
  | failed cause => failed cause

def Turn.rename (t : Turn) : Turn := ⟨t.now, ρ t.token, t.call.rename ρ⟩

end

namespace Shared

/-! ### A turn of a store that is shared -/

/-- The instant that a count of nanoseconds from an origin stands for. -/
def instant (origin : Int) (now : Nat) : Timestamp := .ofSinceEpoch (origin + now)

/-- How a store that is shared answers a call, and what it leaves of the database. -/
def turn (origin : Int) (db : Database) (t : Turn) : Answer × Database :=
  let r := Session.run (answering t.call) (visit db (instant origin t.now) t.token)
  (r.1, r.2.database)

theorem instant_le_iff {origin : Int} {x n : Nat} :
    instant origin x ≤ instant origin n ↔ x ≤ n := by
  rw [instant, instant, Timestamp.ofSinceEpoch_le_iff]
  omega

/-- A lease can be asked for so long. -/
def InRange : Call → Prop
  | .obtain_ _ ttl => ttl.nanos ≤ longestTtl
  | .release _ => True

instance : DecidablePred InRange
  | .obtain_ _ ttl => inferInstanceAs (Decidable (ttl.nanos ≤ longestTtl))
  | .release _ => inferInstanceAs (Decidable True)

variable {db : Database} {t : Database.Table Row} {key token : String} {ttl : Duration}
  {now : Timestamp}

theorem turn_of_obtain {u : Turn} (origin : Int) (db : Database) (hc : u.call = .obtain_ key ttl) :
    turn origin db u =
      let r := Session.run (tryObtain key ttl) (visit db (instant origin u.now) u.token)
      (.ofObtain r.1, r.2.database) := by
  unfold turn
  rw [hc, answering, Session.run, Program.run_bind]
  rfl

theorem turn_of_release {u : Turn} {lease : Lease} (origin : Int) (db : Database)
    (hc : u.call = .release lease) :
    turn origin db u =
      let r := Session.run (Shared.release lease) (visit db (instant origin u.now) u.token)
      (.ofRelease r.1, r.2.database) := by
  unfold turn
  rw [hc, answering, Session.run, Program.run_bind]
  rfl

/-- A lease on a key without a row is written. -/
theorem run_write (now : Timestamp) (token : String) (ht : db.leases = some t)
    (hfree : ∀ r ∈ t.rows, r.key ≠ key) (httl : ttl.nanos ≤ longestTtl) :
    let r := Session.run (write key ttl) (visit db now token)
    r.1 = .ok (some ⟨key, token⟩) ∧
      r.2.database = db.withLeases (t.insert
        ⟨t.nextId, key, token, .ofSinceEpoch (now.sinceEpoch + ttl.nanos), now⟩) := by
  have hinsert := Database.execute_insertLease_of_free ht hfree token
    (.ofSinceEpoch (now.sinceEpoch + ttl.nanos)) now
  rw [write, Session.run_now_bind, Session.run_newToken_bind, if_pos httl]
  dsimp only [visit, Identifier.Supply.drawToken]
  rw [Session.run_tryQuery_bind hinsert]
  exact ⟨rfl, rfl⟩

/-- To obtain a lease, the row of its key is looked for first. -/
theorem run_tryObtain (ht : db.leases = some t) (key : String) (ttl : Duration) :
    Session.run (tryObtain key ttl) (visit db now token) =
      Session.run (found key ttl now (.ok (db.lease? key))) (visit db now token) := by
  rw [tryObtain_eq, Session.run_now_bind,
    Session.run_tryQuery_bind (Database.execute_findLease ht key)]
  rfl

/-- An expired row is deleted, and the lease written as if it had not been there. -/
theorem run_found_of_expired (ht : db.leases = some t) {row : Row}
    (hexpired : row.expiresAt ≤ now) :
    Session.run (found key ttl now (.ok (some row))) (visit db now token) =
      Session.run (write key ttl) (visit (db.withLeases
        (t.filter fun l => !(l.id == row.id && l.token == row.token))) now token) := by
  have hdelete : Database.execute (.deleteLease row.id row.token)
      (visit db now token).database = _ := Database.execute_deleteLease ht row.id row.token
  rw [found_of_expired key ttl hexpired, Session.run_tryQuery_bind hdelete]
  rfl

/-- A release deletes the row that has its key and token. -/
theorem run_release (ht : db.leases = some t) (lease : Lease) :
    Session.run (Shared.release lease) (visit db now token) =
      (.ok (), visit (db.withLeases
        (t.filter fun l => !(l.key == lease.key && l.token == lease.token))) now token) := by
  have hrelease := Database.execute_releaseLease ht lease.key lease.token
  rw [Shared.release, Session.run_tryQuery_bind hrelease]
  rfl

/-! ### The mirror -/

/-- A database has the same leases as memory: one row for each key that has one there, with its
token renamed and its expiry on the clock of civil time. -/
structure Mirrors (ρ : String → String) (origin : Int) (m : Memory) (db : Database) : Prop where
  table : ∃ t, db.leases = some t ∧ Orderly t
  row : ∀ key, (db.lease? key).map (fun r => (r.token, r.expiresAt)) =
    (m.lookup key).map fun h => (ρ h.token, instant origin h.expiresAt)

variable {ρ : String → String} {origin : Int} {m : Memory}

namespace Mirrors

/-- A key is free in both or in neither. -/
theorem lookup_eq_none (h : Mirrors ρ origin m db) (key : String) :
    db.lease? key = none ↔ m.lookup key = none := by
  rw [← Option.map_eq_none_iff (f := fun r : Row => (r.token, r.expiresAt)), h.row,
    Option.map_eq_none_iff]

/-- The row of a key has the lease that memory has. -/
theorem of_row (h : Mirrors ρ origin m db) {row : Row} (hrow : db.lease? key = some row) :
    ∃ x, m.lookup key = some x ∧ row.token = ρ x.token ∧
      row.expiresAt = instant origin x.expiresAt := by
  have hx := h.row key
  rw [hrow, Option.map_some] at hx
  obtain ⟨x, hx, he⟩ := Option.map_eq_some_iff.mp hx.symm
  obtain ⟨ht, he⟩ := Prod.mk.inj he
  exact ⟨x, hx, ht.symm, he.symm⟩

/-- The lease that memory has on a key has a row. -/
theorem of_lookup (h : Mirrors ρ origin m db) {x : Held} (hx : m.lookup key = some x) :
    ∃ row, db.lease? key = some row ∧ row.expiresAt = instant origin x.expiresAt := by
  have hrow := h.row key
  rw [hx, Option.map_some] at hrow
  obtain ⟨row, hrow, he⟩ := Option.map_eq_some_iff.mp hrow
  exact ⟨row, hrow, (Prod.mk.inj he).2⟩

end Mirrors

/-- A row written for a key that has none mirrors the lease that memory puts on the key. -/
theorem mirrors_write {t : Database.Table Row} (ht : db.leases = some t) (ho : Orderly t)
    (hfree : ∀ r ∈ t.rows, r.key ≠ key) (httl : ttl.nanos ≤ longestTtl) {n : Nat}
    (hrow : ∀ k, k ≠ key → (db.lease? k).map (fun r => (r.token, r.expiresAt)) =
      (m.lookup k).map fun h => (ρ h.token, instant origin h.expiresAt)) :
    let r := Session.run (write key ttl) (visit db (instant origin n) (ρ token))
    r.1 = .ok (some ⟨key, ρ token⟩) ∧
      Mirrors ρ origin (m.set key ⟨token, n + ttl.nanos⟩) r.2.database := by
  intro r
  obtain ⟨hr, hdb⟩ := run_write (instant origin n) (ρ token) ht hfree httl
  refine ⟨hr, ?_⟩
  rw [hdb]
  refine ⟨⟨_, rfl, ho.insert rfl hfree⟩, fun k => ?_⟩
  rw [ho.lease?_insert ht rfl hfree]
  by_cases hk : k = key
  · subst hk
    rw [if_pos rfl, Memory.lookup_set_self, Option.map_some, Option.map_some, instant, instant,
      Timestamp.sinceEpoch_ofSinceEpoch]
    push_cast
    rw [Int.add_assoc]
  · rw [if_neg hk, Memory.lookup_set_of_ne m _ hk]
    exact hrow k hk

/-- A key whose lease has expired is free for another, in the database by deleting its row. -/
theorem mirrors_take {tab : Database.Table Row} (token : String) (ht : db.leases = some tab)
    (ho : Orderly tab) (h : Mirrors ρ origin m db) {n : Nat} (httl : ttl.nanos ≤ longestTtl)
    (hfree : ∀ x, m.lookup key = some x → x.expiresAt ≤ n) :
    let r := Session.run (tryObtain key ttl) (visit db (instant origin n) (ρ token))
    r.1 = .ok (some ⟨key, ρ token⟩) ∧
      Mirrors ρ origin (m.set key ⟨token, n + ttl.nanos⟩) r.2.database := by
  rw [run_tryObtain ht]
  cases hrow : db.lease? key with
  | none =>
      exact mirrors_write ht ho ((Database.lease?_eq_none_iff ht).mp hrow) httl fun k _ => h.row k
  | some row =>
      obtain ⟨x, hx, -, he⟩ := h.of_row hrow
      have hexpired : row.expiresAt ≤ instant origin n :=
        he ▸ instant_le_iff.mpr (hfree x hx)
      obtain ⟨hmem, hkey⟩ := (ho.lease?_eq_some_iff ht).mp hrow
      rw [run_found_of_expired ht hexpired]
      refine mirrors_write rfl (ho.filter _) (fun r hr hk => ?_) httl fun k hk => ?_
      · -- the only row of the key is the one that was deleted
        obtain ⟨hr, hkeep⟩ := Database.Table.mem_filter.mp hr
        obtain rfl := Option.some.inj (((ho.lease?_eq_some_iff ht).mpr ⟨hr, hk⟩).symm.trans hrow)
        simp at hkeep
      · rw [ho.lease?_filter_of_kept ht, ← h.row k]
        rintro r hr rfl
        have hid : r.id ≠ row.id := fun hid => hk (ho.eq_of_id hr hmem hid ▸ hkey)
        simp [hid]

/-- A lease that is presented leaves both stores, if it is there. -/
theorem mirrors_release (hρ : Function.Injective ρ) {tab : Database.Table Row}
    (ht : db.leases = some tab) (ho : Orderly tab) (h : Mirrors ρ origin m db) (lease : Lease) :
    Mirrors ρ origin (m.release lease) (db.withLeases
      (tab.filter fun l => !(l.key == (lease.rename ρ).key &&
        l.token == (lease.rename ρ).token))) := by
  refine ⟨⟨_, rfl, ho.filter _⟩, fun k => ?_⟩
  by_cases hk : k = lease.key
  · subst hk
    rw [ho.lease?_filter ht, Memory.lookup_release_self]
    cases hrow : db.lease? lease.key with
    | none => rw [(h.lookup_eq_none _).mp hrow]; rfl
    | some row =>
        obtain ⟨x, hx, htoken, he⟩ := h.of_row hrow
        obtain ⟨-, hkey⟩ := (ho.lease?_eq_some_iff ht).mp hrow
        rw [hx]
        by_cases hsame : x.token = lease.token
        · simp [rename, Option.filter, hkey, htoken, hsame]
        · have hsame' : ρ x.token ≠ ρ lease.token := fun hρx => hsame (hρ hρx)
          simp [rename, Option.filter, hkey, htoken, he, hsame, hsame']
  · rw [Memory.lookup_release_of_ne m lease hk, ← h.row k, ho.lease?_filter_of_kept ht]
    rintro r - rfl
    simp [rename, hk]

/-- **A turn is answered alike by both stores**, and the database mirrors memory after it. -/
theorem turn_mirrors (hρ : Function.Injective ρ) (h : Mirrors ρ origin m db) {t : Turn}
    (httl : InRange t.call) :
    (turn origin db (t.rename ρ)).1 = (m.turn t).1.rename ρ ∧
      Mirrors ρ origin (m.turn t).2 (turn origin db (t.rename ρ)).2 := by
  obtain ⟨tab, ht, ho⟩ := h.table
  obtain ⟨key, ttl, x, hc, hx, hvalid, hturn, -⟩ | ⟨key, ttl, hc, hfree, hturn, -⟩ |
    ⟨lease, hc, hturn, -⟩ := m.turn_cases t
  · -- the key is held: its row is as valid as the lease in memory
    obtain ⟨row, hrow, he⟩ := h.of_lookup hx
    have hnot : ¬ row.expiresAt ≤ instant origin t.now := by
      rw [he, instant_le_iff]
      exact Nat.not_le_of_lt hvalid
    have hcall : (t.rename ρ).call = .obtain_ key ttl := by rw [Turn.rename, hc]; rfl
    rw [hturn, turn_of_obtain origin db hcall]
    rw [show (t.rename ρ).now = t.now from rfl, run_tryObtain ht, hrow,
      found_of_valid key ttl hnot]
    exact ⟨rfl, h⟩
  · have hcall : (t.rename ρ).call = .obtain_ key ttl := by rw [Turn.rename, hc]; rfl
    rw [hc] at httl
    obtain ⟨hr, hm⟩ := mirrors_take t.token ht ho h httl hfree
    rw [hturn, turn_of_obtain origin db hcall]
    refine ⟨?_, hm⟩
    show Answer.ofObtain (Session.run (tryObtain key ttl)
      (visit db (instant origin t.now) (ρ t.token))).1 = _
    rw [hr]
    rfl
  · have hcall : (t.rename ρ).call = .release (lease.rename ρ) := by rw [Turn.rename, hc]; rfl
    rw [hturn, turn_of_release origin db hcall, run_release ht]
    exact ⟨rfl, mirrors_release hρ ht ho h lease⟩

/-- **Turns one after another are answered alike**, and the database mirrors memory after each. -/
theorem play_of_mirrors (hρ : Function.Injective ρ) (h : Mirrors ρ origin m db) {ts : List Turn}
    (httl : ∀ t ∈ ts, InRange t.call) :
    (play (turn origin) (ts.map (Turn.rename ρ)) db).1 =
        (play Memory.turn ts m).1.map (Answer.rename ρ) ∧
      ∀ n, Mirrors ρ origin (play Memory.turn (ts.take n) m).2
        (play (turn origin) ((ts.take n).map (Turn.rename ρ)) db).2 := by
  induction ts generalizing m db with
  | nil => exact ⟨rfl, fun n => by rwa [List.take_nil]⟩
  | cons t ts ih =>
      obtain ⟨ht, hts⟩ := List.forall_mem_cons.mp httl
      obtain ⟨hanswer, hnext⟩ := turn_mirrors hρ h ht
      obtain ⟨hanswers, hrest⟩ := ih hnext hts
      refine ⟨congrArg₂ List.cons hanswer hanswers, fun n => ?_⟩
      cases n with
      | zero => exact h
      | succ n => exact hrest n

/-- Before any lease is granted, a database without rows mirrors memory. -/
theorem Mirrors.empty {tab : Database.Table Row} (ht : db.leases = some tab)
    (hempty : tab.rows = []) : Mirrors ρ origin {} db where
  table := by
    obtain ⟨rows, lastId⟩ := tab
    obtain rfl : rows = [] := hempty
    exact ⟨_, ht, .empty⟩
  row key := by
    rw [Database.lease?, Database.leaseRows_eq ht, hempty]
    rfl

/-- **The two stores answer alike**: any turns on leases that can be asked for, one after another
from no leases at all, have the same answers in memory and in a database, up to the names of the
tokens that each store generates; and after every one of them the database has one row for each
key that memory has a lease on, and no other, with its holder and its expiry. -/
theorem play_mirrors (hρ : Function.Injective ρ) (origin : Int) {ts : List Turn}
    (httl : ∀ t ∈ ts, InRange t.call) {db : Database} {tab : Database.Table Row}
    (ht : db.leases = some tab) (hempty : tab.rows = []) :
    (play (turn origin) (ts.map (Turn.rename ρ)) db).1 =
        (play Memory.turn ts {}).1.map (Answer.rename ρ) ∧
      ∀ n, Mirrors ρ origin (play Memory.turn (ts.take n) {}).2
        (play (turn origin) ((ts.take n).map (Turn.rename ρ)) db).2 :=
  play_of_mirrors hρ (.empty ht hempty) httl

/-- An expired lease is taken over, and released by its first holder in vain and by its second to
effect. -/
theorem play_mirrors_takeover :
    let ts : List Turn :=
      [⟨0, "a", .obtain_ "k" (.ofSecs 30)⟩,
        ⟨Duration.nanosPerSec * 30, "b", .obtain_ "k" (.ofSecs 30)⟩,
        ⟨Duration.nanosPerSec * 31, "", .release ⟨"k", "a"⟩⟩,
        ⟨Duration.nanosPerSec * 32, "c", .obtain_ "k" (.ofSecs 0)⟩,
        ⟨Duration.nanosPerSec * 33, "", .release ⟨"k", "b"⟩⟩,
        ⟨Duration.nanosPerSec * 33, "d", .obtain_ "k" (.ofSecs 0)⟩]
    let ρ (token : String) := "row-" ++ token
    let db : Database := { leases := some .empty }
    (play (turn 0) (ts.map (Turn.rename ρ)) db).1 =
        [.granted ⟨"k", "row-a"⟩, .granted ⟨"k", "row-b"⟩, .released, .held, .released,
          .granted ⟨"k", "row-d"⟩] ∧
      (∀ t ∈ ts, InRange t.call) ∧ Function.Injective ρ ∧
      (play (turn 0) (ts.map (Turn.rename ρ)) db).1 =
        (play Memory.turn ts {}).1.map (Answer.rename ρ) ∧
      ∀ n, Mirrors ρ 0 (play Memory.turn (ts.take n) {}).2
        (play (turn 0) ((ts.take n).map (Turn.rename ρ)) db).2 := by
  intro ts ρ db
  have hρ : Function.Injective ρ := fun a b h => by simpa [ρ] using h
  have httl : ∀ t ∈ ts, InRange t.call := by decide
  have ht : db.leases = some .empty := rfl
  exact ⟨by decide +kernel, httl, hρ, play_mirrors hρ 0 httl ht rfl⟩

end Shared

end Lease

end ImportTracking
