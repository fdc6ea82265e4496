import ImportTracking.Proofs.Replies

/-!
# Visits — leases that are asked for and given back

One visit to a lease store asks for a lease on a key and, when the work under it is done, releases
it.  Whether the lease is granted depends on what the store holds on that key; and the token that is
generated for it leaves no trace.  So visits for different keys do not meet, in either kind of
store.

* `obtain_of_granting`, `obtain_of_not_granting`: what a visit is answered, and what it leaves.
* `granting_visited_of_ne`: a visit does not change what is granted on another key.
* `visited_comm`: visits for different keys may be made in either order.
-/

namespace ImportTracking.Lease.Keeping

open Database (Orderly)

/-- Whether a valid lease is on the key. -/
def holds (now : Timestamp) (key : String) : Keeping → Bool
  | memory m instant => m.isHeld instant key
  | shared db => (db.lease? key).any fun r => !r.expiresAt.notAfter now

/-- Whether leases can be had for so long. -/
def lends (ttl : Duration) : Keeping → Bool
  | memory _ _ => true
  | shared db => db.leases.isSome && decide (ttl.nanos ≤ Shared.longestTtl)

/-- Whether a lease on the key would be granted. -/
def granting (now : Timestamp) (key : String) (ttl : Duration) (k : Keeping) : Bool :=
  !k.holds now key && k.lends ttl

/-- The store without a lease on the key, after so many rows were written. -/
def without (key : String) (written : Nat) : Keeping → Keeping
  | memory m instant => memory (m.without key) instant
  | shared db => shared { db with leases := db.leases.map fun t =>
      ⟨t.rows.filter fun r => r.key != key, t.lastId + written⟩ }

/-- The store after a visit: an expired lease on the key is gone. -/
def visited (now : Timestamp) (key : String) (ttl : Duration) (k : Keeping) : Keeping :=
  if k.holds now key then k else k.without key (if k.lends ttl then 1 else 0)

variable {now : Timestamp} {key key' token : String} {ttl ttl' : Duration} {k : Keeping}

/-! ### One visit -/

section
variable {db : Database} {t : Database.Table Row}

/-- The rows of leases without the one of a key. -/
def rest (key : String) (t : Database.Table Row) : Database.Table Row :=
  t.filter fun r => r.key != key

theorem rest_of_free (h : ∀ r ∈ t.rows, r.key ≠ key) : rest key t = t := by
  obtain ⟨rows, lastId⟩ := t
  exact congrArg (Database.Table.mk · lastId)
    (List.filter_eq_self.mpr fun r hr => by simpa using h r hr)

theorem free_rest : ∀ r ∈ (rest key t).rows, r.key ≠ key := fun r hr => by
  simpa using (Database.Table.mem_filter.mp hr).2

/-- The row of a key is the only one that the key has. -/
theorem filter_row (ho : Orderly t) (ht : db.leases = some t) {row : Row}
    (hrow : db.lease? key = some row) :
    (t.filter fun l => !(l.id == row.id && l.token == row.token)) = rest key t := by
  obtain ⟨hmem, hkey⟩ := (ho.lease?_eq_some_iff ht).mp hrow
  refine congrArg (Database.Table.mk · t.lastId) (List.filter_congr fun l hl => ?_)
  by_cases hlk : l.key = key
  · obtain rfl := Option.some.inj (((ho.lease?_eq_some_iff ht).mpr ⟨hl, hlk⟩).symm.trans hrow)
    simp [hlk]
  · have hid : l.id ≠ row.id := fun hid => hlk (ho.eq_of_id hl hmem hid ▸ hkey)
    rw [beq_false_of_ne hid, Bool.false_and, bne, beq_false_of_ne hlk]

/-- On a key that no valid lease is on, a lease is written as if there never was one. -/
theorem run_tryObtain_of_free (ho : Orderly t) (ht : db.leases = some t)
    (hfree : (shared db).holds now key = false) :
    Session.run (Shared.tryObtain key ttl) (Shared.visit db now token) =
      Session.run (Shared.write key ttl) (Shared.visit (db.withLeases (rest key t)) now token) := by
  rw [Shared.run_tryObtain ht]
  cases hrow : db.lease? key with
  | none =>
      rw [rest_of_free ((Database.lease?_eq_none_iff ht).mp hrow), Database.withLeases, ← ht]
      rfl
  | some row =>
      have hexpired : row.expiresAt ≤ now := by
        simpa [holds, hrow, Timestamp.le_iff] using hfree
      rw [Shared.run_found_of_expired ht hexpired, filter_row ho ht hrow]

/-- A row that is written and released leaves the number it had. -/
theorem release_insert (ho : Orderly t) (hfree : ∀ r ∈ t.rows, r.key ≠ key) {row : Row}
    (hid : row.id = t.nextId) (hkey : row.key = key) :
    ((t.insert row).filter fun l => !(l.key == key && l.token == row.token)) =
      ⟨t.rows, t.lastId + 1⟩ := by
  have hrows : (t.insert row).rows.filter (fun l => !(l.key == key && l.token == row.token)) =
      t.rows := by
    rw [ho.numbered.rows_insert hid, List.filter_append, List.filter_eq_self.mpr]
    · simp [hkey]
    · intro r hr
      simp [hfree r hr]
  have hlast : (t.insert row).lastId = t.lastId + 1 := by
    show max t.lastId row.id.toNat = _
    rw [hid, Database.Table.nextId]
    omega
  rw [Database.Table.filter, hrows, hlast]

end

/-- **A visit that is granted its lease** leaves the store without it. -/
theorem obtain_of_granting (hk : k.Sound) (h : k.granting now key ttl = true) (token : String) :
    (k.obtain_ now token key ttl).1 = .ok (some ⟨key, token⟩) ∧
      ((k.obtain_ now token key ttl).2.release now ⟨key, token⟩).2 = k.visited now key ttl := by
  obtain ⟨hfree, hlends⟩ : k.holds now key = false ∧ k.lends ttl = true := by
    simpa [granting] using h
  rw [visited, if_neg (by simp [hfree]), if_pos hlends]
  cases k with
  | memory m instant =>
      have hheld : ¬m.isHeld instant key = true := by simpa [holds] using hfree
      simp only [obtain_, Memory.tryObtain, if_neg hheld, release, Memory.release,
        Memory.lookup_set_self, if_true, true_and]
      simp [without, Memory.without, Memory.set]
  | shared db =>
      obtain ⟨hsome, httl⟩ : db.leases.isSome = true ∧ ttl.nanos ≤ Shared.longestTtl := by
        simpa [lends] using hlends
      obtain ⟨t, ht⟩ := Option.isSome_iff_exists.mp hsome
      have ho := hk t ht
      have ht' : (db.withLeases (rest key t)).leases = some (rest key t) := rfl
      obtain ⟨hr, hdb⟩ := Shared.run_write now token ht' free_rest httl
      simp only [obtain_, run_tryObtain_of_free ho ht hfree, hr, hdb, release, true_and]
      rw [Shared.run_release rfl]
      simp only [without, ht]
      exact congrArg (fun t => shared (db.withLeases t))
        (release_insert (ho.filter _) free_rest rfl rfl)

theorem refusal_held : Refusal (.ok none) := fun _ h => nomatch h

theorem refusal_error (cause : Cause) : Refusal (.error cause) := fun _ h => nomatch h

/-- **A visit that is refused its lease** is refused whatever its token. -/
theorem obtain_of_not_granting (hk : k.Sound) (h : k.granting now key ttl = false)
    (token : String) :
    Refusal (k.obtain_ now token key ttl).1 ∧
      (k.obtain_ now token key ttl).2 = k.visited now key ttl := by
  cases k with
  | memory m instant =>
      have hheld : m.isHeld instant key = true := by simpa [granting, holds, lends] using h
      simp only [obtain_, Memory.tryObtain, if_pos hheld, visited, holds]
      exact ⟨refusal_held, (if_pos hheld).symm⟩
  | shared db =>
      cases ht : db.leases with
      | none =>
          obtain ⟨cause, hrun⟩ : ∃ cause, Session.run (Shared.tryObtain key ttl)
              (Shared.visit db now token) = (.error cause, Shared.visit db now token) :=
            Shared.run_tryObtain_of_none ht key ttl token
          have hnone : db.lease? key = none := by simp [Database.lease?, Database.leaseRows, ht]
          simp only [obtain_, hrun, visited, holds, hnone, without, ht]
          refine ⟨refusal_error cause, ?_⟩
          show shared db = shared { db with leases := none }
          rw [← ht]
      | some t =>
          have ho := hk t ht
          cases hfree : (shared db).holds now key with
          | true =>
              obtain ⟨row, hrow, hvalid⟩ : ∃ row, db.lease? key = some row ∧
                  ¬row.expiresAt ≤ now := by
                simpa [holds, Option.any_eq_true, Timestamp.le_iff] using hfree
              simp only [obtain_, Shared.run_tryObtain ht, hrow,
                Shared.found_of_valid key ttl hvalid, visited, hfree]
              exact ⟨refusal_held, rfl⟩
          | false =>
              have httl : ¬ttl.nanos ≤ Shared.longestTtl := by
                simpa [granting, hfree, lends, ht] using h
              obtain ⟨cause, hr, hdb⟩ : ∃ cause,
                  (Session.run (Shared.write key ttl)
                    (Shared.visit (db.withLeases (rest key t)) now token)).1 = .error cause ∧ _ :=
                Shared.run_write_of_long httl (db.withLeases (rest key t)) key token
              simp only [obtain_, run_tryObtain_of_free ho ht hfree, hr, hdb]
              refine ⟨refusal_error cause, ?_⟩
              simp only [visited, hfree, lends, httl, decide_false, Bool.and_false, without, ht]
              rfl

/-! ### Visits for different keys -/

theorem without_comm (k : Keeping) (key key' : String) (m n : Nat) :
    (k.without key m).without key' n = (k.without key' n).without key m := by
  cases k with
  | memory leases instant =>
      refine congrArg (memory ⟨·⟩ instant) ?_
      simp only [Memory.without, List.filter_filter, Bool.and_comm]
  | shared db =>
      refine congrArg (fun t => shared { db with leases := t }) ?_
      simp only [Option.map_map, Function.comp_def, List.filter_filter, Bool.and_comm,
        Nat.add_right_comm _ m n]

theorem lends_without (k : Keeping) (key : String) (n : Nat) (ttl : Duration) :
    (k.without key n).lends ttl = k.lends ttl := by
  cases k with
  | memory => rfl
  | shared db => simp [lends, without]

/-- Whether a lease is on a key does not depend on the leases on others. -/
theorem holds_without_of_ne (k : Keeping) (h : key' ≠ key) (n : Nat) (now : Timestamp) :
    (k.without key n).holds now key' = k.holds now key' := by
  cases k with
  | memory m instant => simp only [holds, without, Memory.isHeld, m.lookup_without_of_ne h]
  | shared db =>
      have hfind (rows : List Row) : (rows.filter fun r => r.key != key).find?
          (fun r => r.key == key') = rows.find? fun r => r.key == key' := by
        rw [List.find?_filter]
        refine congrArg (List.find? · rows) (funext fun r => ?_)
        by_cases hr : r.key = key' <;> simp [hr, h]
      simp only [holds, without, Database.lease?, Database.leaseRows, Option.map_map]
      cases db.leases with
      | none => rfl
      | some t => simp only [Option.map_some, Function.comp_apply, Option.getD_some, hfind]

theorem sound_without (hk : k.Sound) (key : String) (n : Nat) : (k.without key n).Sound := by
  cases k with
  | memory => trivial
  | shared db =>
      intro t ht
      obtain ⟨t₀, ht₀, rfl⟩ := Option.map_eq_some_iff.mp ht
      have ho := (hk t₀ ht₀).filter fun r => r.key != key
      exact ⟨ho.keys, ho.ids, fun r hr =>
        le_trans (ho.numbered r hr) (Int.ofNat_le.mpr (Nat.le_add_right _ n))⟩

theorem sound_visited (hk : k.Sound) : (k.visited now key ttl).Sound := by
  unfold visited
  split
  · exact hk
  · exact sound_without hk _ _

theorem holds_visited_of_ne (k : Keeping) (h : key' ≠ key) :
    (k.visited now key ttl).holds now key' = k.holds now key' := by
  unfold visited
  split
  · rfl
  · exact holds_without_of_ne k h _ now

theorem lends_visited (k : Keeping) : (k.visited now key ttl).lends ttl' = k.lends ttl' := by
  unfold visited
  split
  · rfl
  · exact lends_without k key _ ttl'

/-- **A visit does not change what is granted on another key.** -/
theorem granting_visited_of_ne (k : Keeping) (h : key' ≠ key) :
    (k.visited now key ttl).granting now key' ttl' = k.granting now key' ttl' := by
  rw [granting, granting, holds_visited_of_ne k h, lends_visited]

/-- What a second visit, for another key, leaves depends on what the first one found. -/
theorem visited_visited_of_ne (k : Keeping) (h : key' ≠ key) :
    (k.visited now key ttl).visited now key' ttl' =
      if k.holds now key' then k.visited now key ttl
      else (k.visited now key ttl).without key' (if k.lends ttl' then 1 else 0) := by
  rw [← holds_visited_of_ne k h, ← lends_visited k]
  rfl

/-- **Visits for different keys may be made in either order.** -/
theorem visited_comm (k : Keeping) (h : key ≠ key') :
    (k.visited now key ttl).visited now key' ttl' =
      (k.visited now key' ttl').visited now key ttl := by
  rw [visited_visited_of_ne k h.symm, visited_visited_of_ne k h, visited, visited]
  by_cases hk : k.holds now key = true
  · simp only [if_pos hk]
  · by_cases hk' : k.holds now key' = true
    · simp only [if_pos hk', if_neg hk]
    · simp only [if_neg hk, if_neg hk']
      exact without_comm k key key' _ _

/-! ### Two stores -/

/-- The same became of two stores `k` and `k'`: both stayed as they were, or both were visited. -/
def SameVisit (now : Timestamp) (key : String) (ttl : Duration) (k k' k₁ k₁' : Keeping) : Prop :=
  k₁ = k ∧ k₁' = k' ∨ k₁ = k.visited now key ttl ∧ k₁' = k'.visited now key ttl

namespace SameVisit

variable {k' k₁ k₁' k₂ k₁₂ k₂₁ : Keeping}

theorem sound (h : SameVisit now key ttl k k' k₁ k₁') (hk : k.Sound) : k₁.Sound := by
  obtain ⟨rfl, -⟩ | ⟨rfl, -⟩ := h
  · exact hk
  · exact sound_visited hk

/-- What is granted on another key is granted as before. -/
theorem granting (h : SameVisit now key ttl k k' k₁ k₁') (hkey : key' ≠ key) :
    k₁.granting now key' ttl' = k.granting now key' ttl' := by
  obtain ⟨rfl, -⟩ | ⟨rfl, -⟩ := h
  · rfl
  · exact granting_visited_of_ne k hkey

/-- **Two stores that were visited for two keys, in either order, are the same.** -/
theorem square (h : SameVisit now key ttl k k₂ k₁ k₂₁) (h' : SameVisit now key' ttl' k k₁ k₂ k₁₂)
    (hkey : key ≠ key') : k₂₁ = k₁₂ := by
  obtain ⟨rfl, rfl⟩ | ⟨rfl, rfl⟩ := h <;> obtain ⟨rfl, rfl⟩ | ⟨rfl, rfl⟩ := h'
  · rfl
  · rfl
  · rfl
  · exact (visited_comm k hkey).symm

end SameVisit

end ImportTracking.Lease.Keeping
