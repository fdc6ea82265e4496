import ImportTracking.Proofs.LeaseRows
import ImportTracking.Proofs.Stores
import ImportTracking.Proofs.Traces

/-!
# Deeds — what calls do to the leases of a database

A database of leases keeps no history, only a row for a key.  A call can do little to it: it looks
on, it deletes a row that had expired, it inserts one for a key that has none, or it deletes the
one whose key and token it presents.  Whoever makes such calls, the rows stay in step with the
history of the leases that were granted, and the history is `Safe`.

* `Does`: all that a call can do to the leases.
* `fits_step`: each of it keeps rows and history in step, and the history safe.
-/

namespace ImportTracking.Lease

open Database (Table Orderly)
open Pool (Exchange)

/-- The lease that a row records. -/
def Row.grant (r : Row) : Grant Timestamp := ⟨⟨r.key, r.token⟩, r.createdAt, r.expiresAt⟩

namespace Shared

/-! ### A database and its calls -/

/-- A database, and how many calls were made of it so far. -/
structure Site where
  database : Database
  made : Nat

/-- A client asks one thing, and is told what came of it. -/
abbrev Deed := Exchange Session Site

variable (clock : Nat → Timestamp) (name : Nat → String)

/-- Answers a call, by the clock as it stands after the calls so far. -/
def Site.answer (c : Session.Call) (s : Site) : Session.Reply c × Site :=
  let r := Session.answer c (visit s.database (clock s.made) (name s.made))
  (r.1, ⟨r.2.database, s.made + 1⟩)

/-- What a call adds to the history of leases: one is granted when its row is inserted. -/
def event? : Deed → Option (Event Timestamp)
  | ⟨_, .query (.insertLease key token expiresAt _), .ok _, s, _⟩ =>
    some (.granted ⟨⟨key, token⟩, clock s.made, expiresAt⟩)
  | ⟨_, .query (.releaseLease key token), .ok _, _, _⟩ => some (.released ⟨key, token⟩)
  | _ => none

/-- The history of some calls of a table: the leases it had at first come first. -/
def log (t : Table Row) (h : List Deed) : List (Event Timestamp) :=
  t.rows.map (fun r => .granted r.grant) ++ h.filterMap (event? clock)

/-- Whether a call releases a lease. -/
def releases : Session.Call → Bool
  | .query (.releaseLease _ _) => true
  | _ => false

/-- What the clock was when the call read it. -/
def reading? : Deed → Option Timestamp
  | ⟨_, .now, t, _, _⟩ => some t
  | _ => none

/-- What the clock was when a place read it last. -/
def lastReading (h : List Deed) (i : Nat) : Option Timestamp :=
  ((h.filter (·.place == i)).filterMap reading?).getLast?

/-- What holds of a history of calls `h` of a database with the leases `t` at first. -/
structure Safe (t : Table Row) (h : List Deed) : Prop where
  /-- At every time there is at most one row for a key. -/
  single : ∀ x ∈ h, (x.after.database.leaseRows.map (·.key)).Nodup
  /-- When a lease is granted, every lease granted on its key before was released since, or has
  expired. -/
  exclusive : Exclusive (log clock t h)
  /-- A row that is not released leaves the table only if it had expired when the client whose
  call removes it last read the clock, as it does when it begins to ask for a lease. -/
  sparing : ∀ before x after, h = before ++ x :: after → releases x.call = false →
    ∀ r ∈ x.before.database.leaseRows, r ∉ x.after.database.leaseRows →
      ∃ now, lastReading before x.place = some now ∧ r.expiresAt ≤ now

variable {clock name} {t : Table Row} {h : List Deed} {s : Site} {i j : Nat} {x : Deed}

theorem log_append (t : Table Row) (h : List Deed) (x : Deed) :
    log clock t (h ++ [x]) = log clock t h ++ (event? clock x).toList := by
  rw [log, log, List.filterMap_append, List.append_assoc]
  cases he : event? clock x <;> simp [he]

theorem lastReading_append_of_ne (h : List Deed) (hx : x.place ≠ i) :
    lastReading (h ++ [x]) i = lastReading h i := by
  simp [lastReading, hx]

theorem lastReading_append_of_none (h : List Deed) (hx : reading? x = none) :
    lastReading (h ++ [x]) i = lastReading h i := by
  by_cases hi : x.place = i <;> simp [lastReading, hi, hx]

theorem lastReading_append_self {now : Timestamp} (h : List Deed) (hx : reading? x = some now) :
    lastReading (h ++ [x]) x.place = some now := by
  simp [lastReading, hx]

/-- A statement, as it is executed. -/
theorem answer_query {q : Database.Statement} {r : Except Database.Error q.Result} {db : Database}
    (he : Database.execute q s.database = (r, db)) :
    Site.answer clock name (.query q) s = (r, ⟨db, s.made + 1⟩) := by
  show ((Database.execute q s.database).1,
    (⟨(Database.execute q s.database).2, s.made + 1⟩ : Site)) = _
  rw [he]

/-! ### What a call does -/

/-- Every row of an id had expired at a time, and none will have that id again. -/
def Expired (t : Table Row) (id : Int) (now : Timestamp) : Prop :=
  id ≤ t.lastId ∧ ∀ r ∈ t.rows, r.id = id → r.expiresAt ≤ now

/-- A lease that was granted has its row still, or has expired. -/
def Stands (t : Table Row) (g : Grant Timestamp) (now : Timestamp) : Prop :=
  (∃ r ∈ t.rows, r.grant.lease = g.lease ∧ r.expiresAt = g.expiresAt) ∨ g.expiresAt ≤ now

theorem Stands.mono {g : Grant Timestamp} {now now' : Timestamp} (hs : Stands t g now)
    (hle : now ≤ now') : Stands t g now' :=
  hs.imp_right fun he => he.trans hle

/-- All that a call can do to the leases: nothing, to delete a row that had expired when the
client read the clock, to insert one for a key without any, or to delete the one it presents. -/
inductive Does (clock : Nat → Timestamp) (h : List Deed) (t : Table Row) (x : Deed) :
    Table Row → Prop where
  | look (he : event? clock x = none) : Does clock h t x t
  | clear {id : Int} {token : String} {now : Timestamp} (he : event? clock x = none)
      (hread : lastReading h x.place = some now) (hnow : now ≤ clock x.before.made)
      (hexpired : Expired t id now) :
      Does clock h t x (t.filter fun l => !(l.id == id && l.token == token))
  | grant {row : Row} (hid : row.id = t.nextId) (hfree : ∀ r ∈ t.rows, r.key ≠ row.key)
      (he : event? clock x =
        some (.granted ⟨⟨row.key, row.token⟩, clock x.before.made, row.expiresAt⟩)) :
      Does clock h t x (t.insert row)
  | release {lease : Lease} (hr : releases x.call = true)
      (he : event? clock x = some (.released lease)) :
      Does clock h t x (t.filter fun l => !(l.key == lease.key && l.token == lease.token))

namespace Does

variable {t' : Table Row}

theorem orderly (hd : Does clock h t x t') (ho : Orderly t) : Orderly t' := by
  cases hd with
  | look => exact ho
  | clear | release => exact ho.filter _
  | grant hid hfree => exact ho.insert hid hfree

/-- What had expired stays so, whatever others do. -/
theorem expired (hd : Does clock h t x t') {id : Int} {now : Timestamp} (he : Expired t id now) :
    Expired t' id now := by
  obtain ⟨hle, hrows⟩ := he
  cases hd with
  | look => exact ⟨hle, hrows⟩
  | clear | release => exact ⟨hle, fun r hr => hrows r (Database.Table.mem_filter.mp hr).1⟩
  | grant hid hfree =>
      refine ⟨hle.trans (Database.Table.lastId_le_insert _ _), fun r hr hrid => ?_⟩
      obtain rfl | hr := Database.Table.mem_insert.mp hr
      · -- the id of the new row is beyond all that were used before
        rw [hid, Database.Table.nextId] at hrid
        omega
      · exact hrows r hr hrid

/-- A row that is not released leaves the table only if it had expired. -/
theorem sparing (hd : Does clock h t x t') (hr : releases x.call = false) {r : Row}
    (hrow : r ∈ t.rows) (hgone : r ∉ t'.rows) :
    ∃ now, lastReading h x.place = some now ∧ r.expiresAt ≤ now := by
  cases hd with
  | look => exact absurd hrow hgone
  | clear _ hread _ hexpired =>
      refine ⟨_, hread, hexpired.2 r hrow ?_⟩
      by_contra hid
      exact hgone (Database.Table.mem_filter.mpr ⟨hrow, by simp [hid]⟩)
  | grant => exact absurd (Database.Table.mem_insert.mpr (.inr hrow)) hgone
  | release h' =>
      rw [h'] at hr
      cases hr

variable {log : List (Event Timestamp)}

/-- Every lease that is unreleased keeps its row, unless it has expired. -/
theorem kept (hd : Does clock h t x t') (hclock : clock x.before.made ≤ clock x.after.made)
    (hkept : ∀ g, Unreleased log g → Stands t g (clock x.before.made)) (g : Grant Timestamp)
    (hg : Unreleased (log ++ (event? clock x).toList) g) : Stands t' g (clock x.after.made) := by
  refine Stands.mono ?_ hclock
  cases hd with
  | look he =>
      rw [he, Option.toList_none, List.append_nil] at hg
      exact hkept g hg
  | @clear id _ _ he _ hnow hexpired =>
      rw [he, Option.toList_none, List.append_nil] at hg
      obtain ⟨r, hr, hlease, hexp⟩ | hexp := hkept g hg
      · by_cases hid : r.id = id
        · exact .inr (hexp ▸ (hexpired.2 r hr hid).trans hnow)
        · exact .inl ⟨r, Database.Table.mem_filter.mpr ⟨hr, by simp [hid]⟩, hlease, hexp⟩
      · exact .inr hexp
  | grant hid hfree he =>
      rw [he] at hg
      obtain rfl | hg := unreleased_append_granted.mp hg
      · exact .inl ⟨_, Database.Table.mem_insert.mpr (.inl rfl), rfl, rfl⟩
      · exact (hkept g hg).imp_left fun ⟨r, hr, he⟩ =>
          ⟨r, Database.Table.mem_insert.mpr (.inr hr), he⟩
  | release _ he =>
      rw [he] at hg
      obtain ⟨hne, hg⟩ := unreleased_append_released.mp hg
      refine (hkept g hg).imp_left fun ⟨r, hr, hlease, hexp⟩ =>
        ⟨r, Database.Table.mem_filter.mpr ⟨hr, ?_⟩, hlease, hexp⟩
      -- a row with the key and the token presented would be of the lease that is released
      by_contra hgone
      refine hne (hlease.symm.trans (eq_of_key_of_token ?_ ?_)) <;> simp_all [Row.grant]

/-- A lease is granted on a key only if none was unreleased on it that had not expired. -/
theorem exclusive (hd : Does clock h t x t')
    (hkept : ∀ g, Unreleased log g → Stands t g (clock x.before.made)) (hex : Exclusive log) :
    Exclusive (log ++ (event? clock x).toList) := by
  cases hd with
  | look he | clear he =>
      rwa [he, Option.toList_none, List.append_nil]
  | grant hid hfree he =>
      rw [he]
      refine hex.append_granted fun g hg hkey => ?_
      obtain ⟨r, hr, hlease, -⟩ | hexp := hkept g hg
      · -- a row of an earlier lease would have kept the key from being granted
        exact absurd ((congrArg Lease.key hlease).trans hkey) (hfree r hr)
      · exact hexp
  | release _ he =>
      rw [he]
      exact hex.append_released

end Does

/-! ### What holds at every time -/

/-- The rows are in step with the history: there is one for each lease that is unreleased, except
that an expired one may have made way. -/
structure Fits (clock : Nat → Timestamp) (t₀ : Table Row) (h : List Deed) (s : Site) : Prop where
  table : ∃ t, s.database.leases = some t ∧ Orderly t
  kept : ∀ t, s.database.leases = some t →
    ∀ g, Unreleased (log clock t₀ h) g → Stands t g (clock s.made)
  safe : Safe clock t₀ h

/-- **A call keeps the rows in step with the history**, and the history safe. -/
theorem fits_step {t₀ t t' : Table Row} (hf : Fits clock t₀ h x.before)
    (ht : x.before.database.leases = some t) (ht' : x.after.database.leases = some t')
    (hclock : clock x.before.made ≤ clock x.after.made) (hd : Does clock h t x t') :
    Fits clock t₀ (h ++ [x]) x.after := by
  obtain ⟨⟨tab, htab, ho⟩, hkept, hsafe⟩ := hf
  obtain rfl : tab = t := Option.some.inj (htab.symm.trans ht)
  have ho' := hd.orderly ho
  refine ⟨⟨t', ht', ho'⟩, ?_, ⟨?_, ?_, ?_⟩⟩
  · intro t₁ ht₁
    obtain rfl : t' = t₁ := Option.some.inj (ht'.symm.trans ht₁)
    rw [log_append]
    exact hd.kept hclock (hkept _ ht)
  · refine List.forall_mem_append.mpr ⟨hsafe.single, List.forall_mem_singleton.mpr ?_⟩
    rw [Database.leaseRows_eq ht']
    exact ho'.keys
  · rw [log_append]
    exact hd.exclusive (hkept _ ht) hsafe.exclusive
  · intro before y after hsplit hr r hrow hgone
    obtain ⟨rfl, rfl, -⟩ | ⟨rest, -, hsplit⟩ := append_singleton_eq_split.mp hsplit
    · rw [Database.leaseRows_eq ht] at hrow
      rw [Database.leaseRows_eq ht'] at hgone
      exact hd.sparing hr hrow hgone
    · exact hsafe.sparing before y rest hsplit hr r hrow hgone

end Shared

end ImportTracking.Lease
