import ImportTracking.Proofs.Deeds

/-!
# Clients — leases contested at one database

Any number of clients ask one database for leases, and release them.  Their calls interleave in
any order: a client reads the row of a key, others come in, it deletes the row if it had expired,
others come in, it reads the clock and inserts a row of its own.

* `does_of_knows`: what a client asks is one of what a call can do.
* `knows_own`, `Knows.mono`: what a client knows, from call to call and while others make theirs.
* `clients_safe`: what holds of every history of such clients.
-/

namespace ImportTracking.Lease.Shared

open Database (Table Orderly)

variable {clock : Nat → Timestamp} {name : Nat → String} {t : Table Row} {h : List Deed} {s : Site}
  {i : Nat}

/-! ### What clients ask -/

/-- The calls by which a row is written. -/
def Writes : Interface.Call Session → Prop
  | .now | .newToken | .query (.insertLease _ _ _ _) => True
  | _ => False

theorem confined_write (key : String) (ttl : Duration) : (write key ttl).Confined Writes := by
  refine .call trivial fun now => .call trivial fun token => ?_
  show Program.Confined Writes (if ttl.nanos ≤ longestTtl then _ else _)
  split
  · refine .call trivial fun r => ?_
    cases r with
    | ok row => exact .done _
    | error e =>
        show Program.Confined Writes (if e.isUniqueViolation then _ else _)
        split <;> exact .done _
  · exact .done _

section
variable {α : Type}

/-- A client goes on with the answer to its call for a lease. -/
def goOn (p : Program Session (Except Cause (Option Lease))) (next : Answer → Program Store α) :
    Program Session α :=
  (p.bind fun r => .done (.ofObtain r)).bind fun a => (next a).expand answering

/-- What a client knows at the program that it is left with. -/
inductive Knows (clock : Nat → Timestamp) (h : List Deed) (s : Site) (i : Nat) :
    Program Session α → Prop where
  | rest (p : Program Store α) : Knows clock h s i (p.expand answering)
  | reading {key : String} {ttl : Duration} {now : Timestamp} {next : Answer → Program Store α}
      (hread : lastReading h i = some now) (hnow : now ≤ clock s.made) :
      Knows clock h s i (goOn (Session.tryQuery (.findLease key) >>= found key ttl now) next)
  | clearing {key : String} {ttl : Duration} {now : Timestamp} {row : Row}
      {next : Answer → Program Store α} (hread : lastReading h i = some now)
      (hnow : now ≤ clock s.made)
      (hexpired : ∀ t, s.database.leases = some t → Expired t row.id now) :
      Knows clock h s i
        (goOn (Session.tryQuery (.deleteLease row.id row.token) >>= cleared key ttl) next)
  | writing {c : Session.Call} {k : Session.Reply c → Program Session _}
      {next : Answer → Program Store α} (hc : Writes c) (hk : ∀ r, (k r).Confined Writes) :
      Knows clock h s i (goOn (.call c k) next)

namespace Knows

/-- Who only has to write a row is told nothing to know. -/
theorem ofConfined {p : Program Session (Except Cause (Option Lease))} (hp : p.Confined Writes)
    (next : Answer → Program Store α) : Knows clock h s i (goOn p next) := by
  cases hp with
  | done r => exact .rest (next (.ofObtain r))
  | call hc hk => exact .writing hc hk

end Knows

/-- What a client asks next is one of what a call can do. -/
theorem does_of_knows (name : Nat → String) {c : Session.Call}
    {next : Session.Reply c → Program Session α} (ht : s.database.leases = some t)
    (hk : Knows clock h s i (.call c next)) :
    ∃ t', (Site.answer clock name c s).2.database.leases = some t' ∧
      Does clock h t (Pool.exchange (Site.answer clock name) i c s) t' := by
  generalize hq : Program.call (I := Session) c next = q at hk
  unfold Pool.exchange
  cases hk with
  | rest p =>
      cases p with
      | done a => cases hq
      | call c k =>
          cases c with
          | obtain_ key ttl =>
              cases hq
              exact ⟨t, ht, .look rfl⟩
          | release lease =>
              cases hq
              rw [answer_query (Database.execute_releaseLease ht lease.key lease.token)]
              exact ⟨_, rfl, .release rfl rfl⟩
  | reading hread hnow =>
      cases hq
      rw [answer_query (Database.execute_findLease ht _)]
      exact ⟨t, ht, .look rfl⟩
  | clearing hread hnow hexpired =>
      cases hq
      rw [answer_query (Database.execute_deleteLease ht _ _)]
      exact ⟨_, rfl, .clear rfl hread hnow (hexpired t ht)⟩
  | writing hc hk =>
      cases hq
      match c, hc with
      | .now, _ => exact ⟨t, ht, .look rfl⟩
      | .newToken, _ => exact ⟨t, ht, .look rfl⟩
      | .query (.insertLease key token expiresAt now), _ =>
          -- of clients that race for a key, the unique index lets one insert its row
          by_cases hfree : ∀ r ∈ t.rows, r.key ≠ key
          · rw [answer_query (Database.execute_insertLease_of_free ht hfree token expiresAt now)]
            exact ⟨_, rfl, .grant rfl hfree rfl⟩
          · push Not at hfree
            obtain ⟨r, hr, hkey⟩ := hfree
            rw [answer_query (Database.execute_insertLease_of_taken ht hr hkey token expiresAt now)]
            exact ⟨t, ht, .look rfl⟩

/-- What a client knows when it was told what came of its call. -/
theorem knows_own (hm : Monotone clock) {c : Session.Call}
    {next : Session.Reply c → Program Session α} (ht : s.database.leases = some t)
    (ho : Orderly t) (hk : Knows clock h s i (.call c next)) :
    Knows clock (h ++ [Pool.exchange (Site.answer clock name) i c s])
      (Site.answer clock name c s).2 i (next (Site.answer clock name c s).1) := by
  generalize hq : Program.call (I := Session) c next = q at hk
  have hlater : clock s.made ≤ clock (s.made + 1) := hm (Nat.le_succ _)
  cases hk with
  | rest p =>
      cases p with
      | done a => cases hq
      | call c k =>
          cases c with
          | obtain_ key ttl =>
              rw [show (Program.call (I := Store) (.obtain_ key ttl) k).expand answering =
                goOn (tryObtain key ttl) k from rfl, tryObtain_eq] at hq
              cases hq
              exact .reading (lastReading_append_self h rfl) hlater
          | release lease =>
              cases hq
              rw [answer_query (Database.execute_releaseLease ht lease.key lease.token)]
              exact .rest (k .released)
  | @reading key ttl now k hread hnow =>
      cases hq
      unfold Pool.exchange
      rw [answer_query (Database.execute_findLease ht _)]
      show Knows clock _ ⟨s.database, s.made + 1⟩ i (goOn (found key ttl now (.ok _)) k)
      cases hrow : s.database.lease? key with
      | none => exact .ofConfined (confined_write key ttl) k
      | some row =>
          by_cases hexpired : row.expiresAt ≤ now
          · rw [found_of_expired key ttl hexpired]
            refine .clearing ((lastReading_append_of_none h rfl).trans hread)
              (hnow.trans hlater) fun t' ht' => ?_
            obtain rfl : t = t' := Option.some.inj (ht.symm.trans ht')
            -- the row that was read is the only one of its id
            obtain ⟨hmem, -⟩ := (ho.lease?_eq_some_iff ht).mp hrow
            refine ⟨ho.numbered row hmem, fun r hr hid => ?_⟩
            rwa [ho.eq_of_id hr hmem hid]
          · rw [found_of_valid key ttl hexpired]
            exact .rest (k .held)
  | @clearing key ttl now row k hread hnow hexpired =>
      cases hq
      rw [answer_query (Database.execute_deleteLease ht _ _)]
      exact .ofConfined (confined_write key ttl) k
  | writing hc hk =>
      cases hq
      exact .ofConfined (hk _) _

/-- What a client knows stays so while another one makes a call. -/
theorem Knows.mono {p : Program Session α} (hk : Knows clock h s i p) {x : Deed}
    (hx : x.place ≠ i) (hs : clock s.made ≤ clock x.after.made)
    (hd : ∀ id now, (∀ t, s.database.leases = some t → Expired t id now) →
      ∀ t, x.after.database.leases = some t → Expired t id now) :
    Knows clock (h ++ [x]) x.after i p := by
  cases hk with
  | rest p => exact .rest p
  | reading hread hnow =>
      exact .reading ((lastReading_append_of_ne h hx).trans hread) (hnow.trans hs)
  | clearing hread hnow hexpired =>
      exact .clearing ((lastReading_append_of_ne h hx).trans hread) (hnow.trans hs)
        (hd _ _ hexpired)
  | writing hc hk => exact .writing hc hk

/-! ### Histories -/

/-- Every call keeps the rows in step with the history, and every client's knowledge right. -/
theorem kept_answer (hm : Monotone clock) (t₀ : Table Row) :
    Pool.Kept (Site.answer clock name) (Fits clock t₀) (Knows (α := α) clock) where
  fits hf hk := by
    obtain ⟨t, ht, -⟩ := hf.table
    obtain ⟨t', ht', hd⟩ := does_of_knows name ht hk
    exact fits_step hf ht ht' (hm (Nat.le_succ _)) hd
  own hf hk := by
    obtain ⟨t, ht, ho⟩ := hf.table
    exact knows_own hm ht ho hk
  others hf hk hj hp := by
    obtain ⟨t, ht, -⟩ := hf.table
    obtain ⟨t', ht', hd⟩ := does_of_knows name ht hk
    refine hp.mono (Ne.symm hj) (hm (Nat.le_succ _)) fun id now he t₁ ht₁ => ?_
    obtain rfl : t' = t₁ := Option.some.inj (ht'.symm.trans ht₁)
    exact hd.expired (he t ht)

/-- The history of a table before any call is of the leases that it has. -/
theorem fits_start {t : Table Row} (ht : s.database.leases = some t) (ho : Orderly t) :
    Fits clock t [] s where
  table := ⟨t, ht, ho⟩
  kept t' ht' g hg := by
    obtain rfl : t = t' := Option.some.inj (ht.symm.trans ht')
    have hmem := hg.mem
    rw [log, List.filterMap_nil, List.append_nil] at hmem
    obtain ⟨r, hr, he⟩ := List.mem_map.mp hmem
    cases he
    exact .inl ⟨r, hr, rfl, rfl⟩
  safe := by
    refine ⟨List.forall_mem_nil _, ?_, fun before x after h => ?_⟩
    · -- no two of the leases are on one key
      intro before g after hlog g' hg' hkey
      have hkeys : ((log clock t []).map Event.key).Nodup := by
        rw [log, List.filterMap_nil, List.append_nil, List.map_map]
        exact ho.keys
      rw [hlog, List.map_append, List.nodup_append] at hkeys
      exact absurd hkey (hkeys.2.2 _ (List.mem_map_of_mem hg'.mem) _ List.mem_cons_self)
    · exact absurd h.symm (List.append_ne_nil_of_right_ne_nil before (List.cons_ne_nil _ after))

/-- **Clients of one database cannot hold a key at once**, whatever leases they ask for and
release, and however their calls interleave, if the clock does not go back. -/
theorem clients_safe (hm : Monotone clock) (name : Nat → String)
    (clients : List (Program Store α)) (sched : List Nat) (s : Site) {t : Table Row}
    (ht : s.database.leases = some t) (ho : Orderly t) :
    Safe clock t
      (Pool.trace (Site.answer clock name) sched (clients.map (·.expand answering)) s) := by
  have hstart : ∀ i p, (clients.map (·.expand answering))[i]? = some p →
      Knows (α := α) clock [] s i p := by
    intro i p hp
    obtain ⟨q, -, rfl⟩ := Option.map_eq_some_iff.mp (List.getElem?_map.symm.trans hp)
    exact .rest q
  exact ((kept_answer hm t).trace sched (fits_start ht ho) hstart).1.safe

end

/-- Two clients find the lease of a crashed holder expired.  Both of them clear it away, and one of
them is granted a lease. -/
theorem clients_safe_race :
    let clock (n : Nat) : Timestamp := .ofSeconds n
    let row : Row := ⟨1, "k", "crashed", .epoch, .epoch⟩
    let s : Site := ⟨{ leases := some ⟨[row], 1⟩ }, 1⟩
    let client : Program Store Answer := .call (.obtain_ "k" (.ofSecs 30)) .done
    let pool := [client, client].map (·.expand answering)
    let sched := [0, 1, 0, 1, 1, 0, 1, 0, 0, 1, 0, 1]
    let answer := Site.answer clock Nat.repr
    Monotone clock ∧ Orderly ⟨[row], 1⟩ ∧
      (Pool.runSchedule answer sched pool s).1.map Program.value? =
        [some (.granted ⟨"k", "9"⟩), some .held] ∧
      Safe clock ⟨[row], 1⟩ (Pool.trace answer sched pool s) := by
  intro clock row s client pool sched answer
  have hm : Monotone clock := fun m n hmn => by
    simp [clock, Timestamp.le_iff, Timestamp.notAfter, Timestamp.ofSeconds]
    omega
  have ho : Orderly ⟨[row], 1⟩ :=
    ⟨List.nodup_singleton _, List.nodup_singleton _, by simp [Table.Numbered, row]⟩
  exact ⟨hm, ho, by decide +kernel, clients_safe hm _ [client, client] sched s rfl ho⟩

end ImportTracking.Lease.Shared
