import ImportTracking.Export.Snapshot

/-!
# Encodings — reports written and read

What is written is read back.  A record is written as an object, and read from one field by field;
so it is enough that every field takes the member that was written for it (`Fields.Takes`).  What is
read need not have been written so: fields may be left out, and a record may come as an array.  But
whatever the way, what was read can be written again, since every field gives values of its own
range only (`Fields.Gives`).

* `Fields.Takes.fromMembers`, `Fields.Gives.record`: records, by what holds of their fields.
* `Decoder.items_eq_ok_iff`: the items of an array are read one by one, all of them or none.
* `Payload.ofJson_toJson`, `Payload.fits_of_ofJson`: a report is read back; what is read is one.
* `Payload.ofJson_exact`: so of any JSON that is read, what was read is all that counts.
-/

namespace ImportTracking

namespace Json

/-! ### Records -/

namespace Fields

variable {α β : Type} {ms : List (String × Json)}

theorem ofMembers_seq_eq_ok_iff {f : Fields (α → β)} {x : Fields α} {b : β} :
    (f <*> x).ofMembers ms = .ok b ↔
      ∃ g a, f.ofMembers ms = .ok g ∧ x.ofMembers ms = .ok a ∧ g a = b := by
  show (f.ofMembers ms >>= fun g => x.ofMembers ms >>= fun a => pure (g a)) = .ok b ↔ _
  constructor
  · intro h
    cases hg : f.ofMembers ms with
    | error e => rw [hg] at h; cases h
    | ok g =>
        cases ha : x.ofMembers ms with
        | error e => rw [hg, ha] at h; cases h
        | ok a =>
            rw [hg, ha] at h
            exact ⟨g, a, rfl, rfl, Except.ok.inj h⟩
  · rintro ⟨g, a, hg, ha, rfl⟩
    rw [hg, ha]
    rfl

theorem ok_of_ofItems_seq {f : Fields (α → β)} {x : Fields α} {e : Misfit} {js rest : List Json}
    {b : β} (h : (f <*> x).ofItems e js = .ok (b, rest)) :
    ∃ g a js', f.ofItems e js = .ok (g, js') ∧ x.ofItems e js' = .ok (a, rest) ∧ g a = b := by
  change (f.ofItems e js >>= fun r => x.ofItems e r.2 >>= fun s =>
    pure (r.1 s.1, s.2)) = .ok (b, rest) at h
  cases hg : f.ofItems e js with
  | error e => rw [hg] at h; cases h
  | ok r =>
      obtain ⟨g, js'⟩ := r
      rw [hg] at h
      change (x.ofItems e js' >>= fun s => pure (g s.1, s.2)) = .ok (b, rest) at h
      cases ha : x.ofItems e js' with
      | error e => rw [ha] at h; cases h
      | ok r =>
          rw [ha] at h
          cases h
          exact ⟨g, r.1, js', rfl, ha, rfl⟩

/-- The members of an object are a record: each is taken by the field of its name, and together they
are the record `a`. -/
structure Takes (f : Fields α) (ms : List (String × Json)) (a : α) : Prop where
  fits : ∀ r ∈ f.rules, ∀ m ∈ ms, r.1 = m.1 → r.2 m.2 = none
  value : f.ofMembers ms = .ok a

theorem Takes.seq {f : Fields (α → β)} {x : Fields α} {g : α → β} {a : α} (hf : f.Takes ms g)
    (hx : x.Takes ms a) : (f <*> x).Takes ms (g a) where
  fits := List.forall_mem_append.mpr ⟨hf.fits, hx.fits⟩
  value := ofMembers_seq_eq_ok_iff.mpr ⟨g, a, hf.value, hx.value, rfl⟩

theorem Takes.map {x : Fields α} {a : α} (g : α → β) (hx : x.Takes ms a) :
    (g <$> x).Takes ms (g a) :=
  Takes.seq (f := pure g) ⟨List.forall_mem_nil _, rfl⟩ hx

/-- A field takes the member of its name. -/
theorem takes_field {name : String} {d : Decoder α} {absent short : Option α} {j : Json} {a : α}
    (hj : find? name ms = some j) (honly : ∀ m ∈ ms, name = m.1 → m.2 = j) (hd : d j = .ok a) :
    (field name d absent short).Takes ms a where
  fits := List.forall_mem_singleton.mpr fun m hm hname => by
    show misfit? d m.2 = none
    rw [honly m hm hname, misfit?, hd]
  value := by
    simp only [field, hj]
    exact hd

theorem firstMisfit_eq_none {rules : List (String × (Json → Option Misfit))}
    (h : ∀ r ∈ rules, ∀ m ∈ ms, r.1 = m.1 → r.2 m.2 = none) : firstMisfit rules ms = none := by
  induction ms with
  | nil => rfl
  | cons m ms ih =>
      have hrest := ih fun r hr m' hm' => h r hr m' (List.mem_cons_of_mem _ hm')
      unfold firstMisfit
      cases hr : rules.find? fun r => r.1 == m.1 with
      | none => exact hrest
      | some r =>
          have hname : r.1 = m.1 := by simpa using List.find?_some hr
          simp only [h r (List.mem_of_find?_eq_some hr) m List.mem_cons_self hname]
          exact hrest

/-- **A record is read** from the members that its fields take. -/
theorem Takes.fromMembers {f : Fields α} {a : α} (h : f.Takes ms a) : f.fromMembers ms = .ok a := by
  rw [Fields.fromMembers, firstMisfit_eq_none h.fits]
  exact h.value

/-- Whatever is read of the fields has a property. -/
structure Gives (f : Fields α) (P : α → Prop) : Prop where
  ofMembers : ∀ ms a, f.ofMembers ms = .ok a → P a
  ofItems : ∀ e js a rest, f.ofItems e js = .ok (a, rest) → P a

theorem gives_any (f : Fields α) : f.Gives fun _ => True where
  ofMembers _ _ _ := trivial
  ofItems _ _ _ _ _ := trivial

theorem Gives.seq {f : Fields (α → β)} {x : Fields α} {F : (α → β) → Prop} {A : α → Prop}
    {P : β → Prop} (hf : f.Gives F) (hx : x.Gives A) (h : ∀ g a, F g → A a → P (g a)) :
    (f <*> x).Gives P where
  ofMembers ms b hb := by
    obtain ⟨g, a, hg, ha, rfl⟩ := ofMembers_seq_eq_ok_iff.mp hb
    exact h g a (hf.ofMembers ms g hg) (hx.ofMembers ms a ha)
  ofItems e js b rest hb := by
    obtain ⟨g, a, js', hg, ha, rfl⟩ := ok_of_ofItems_seq hb
    exact h g a (hf.ofItems e js g js' hg) (hx.ofItems e js' a rest ha)

theorem Gives.map {x : Fields α} {A : α → Prop} {P : β → Prop} {g : α → β} (hx : x.Gives A)
    (h : ∀ a, A a → P (g a)) : (g <$> x).Gives P := by
  have hg : (pure g : Fields (α → β)).Gives (· = g) :=
    ⟨fun _ _ h => by cases h; rfl, fun _ _ _ _ h => by cases h; rfl⟩
  refine hg.seq hx fun g' a hg' ha => ?_
  subst hg'
  exact h a ha

/-- A field with a default gives what its decoder gives, or the default. -/
theorem gives_withDefault {name : String} {d : Decoder α} {a : α} {P : α → Prop}
    (hd : ∀ j a, d j = .ok a → P a) (ha : P a) : (withDefault name d a).Gives P where
  ofMembers ms b hb := by
    simp only [withDefault, field] at hb
    cases hj : find? name ms with
    | none => rw [hj] at hb; cases hb; exact ha
    | some j => rw [hj] at hb; exact hd j b hb
  ofItems e js b rest hb := by
    cases js with
    | nil => cases hb; exact ha
    | cons j js =>
        simp only [withDefault, field] at hb
        cases hj : d j with
        | error e => rw [hj] at hb; cases hb
        | ok b' =>
            rw [hj] at hb
            cases hb
            exact hd j b hj

/-- **A record that is read** has what its fields give. -/
theorem Gives.record {f : Fields α} {P : α → Prop} (h : f.Gives P) {name : String} {j : Json}
    {a : α} (ha : Decoder.record name f j = .ok a) : P a := by
  cases j with
  | obj ms =>
      simp only [Decoder.record, Fields.fromMembers] at ha
      split at ha
      · cases ha
      · exact h.ofMembers ms a ha
  | arr js =>
      simp only [Decoder.record, Fields.fromItems] at ha
      split at ha
      · cases ha
      · rename_i b hb
        cases ha
        exact h.ofItems _ js a [] hb
      · cases ha
  | null | bool | num | str => cases ha

end Fields

/-! ### Items -/

namespace Decoder

variable {α : Type} {d : Decoder α} {js : List Json} {as : List α}

theorem items_cons_eq_ok_iff {j : Json} :
    items d (j :: js) = .ok as ↔
      ∃ a rest, d j = .ok a ∧ items d js = .ok rest ∧ a :: rest = as := by
  rw [items]
  cases d j with
  | error e => simp
  | ok a => cases items d js <;> simp [Except.map]

/-- **The items of an array** are read one by one, in order. -/
theorem items_eq_ok_iff : items d js = .ok as ↔ js.map d = as.map .ok := by
  induction js generalizing as with
  | nil => cases as <;> simp [items]
  | cons j js ih =>
      simp only [items_cons_eq_ok_iff, ih]
      cases as with
      | nil => simp
      | cons a as => simp

/-- All the items of an array are read, or none. -/
theorem exists_items_iff : (∃ as, items d js = .ok as) ↔ ∀ j ∈ js, ∃ a, d j = .ok a := by
  induction js with
  | nil => simp [items]
  | cons j js ih =>
      rw [List.forall_mem_cons, ← ih]
      simp only [items_cons_eq_ok_iff]
      constructor
      · rintro ⟨_, a, rest, ha, hrest, rfl⟩
        exact ⟨⟨a, ha⟩, rest, hrest⟩
      · rintro ⟨⟨a, ha⟩, rest, hrest⟩
        exact ⟨_, a, rest, ha, hrest, rfl⟩

end Decoder

end Json

/-! ### Reports -/

namespace Export

open Json (Decoder Fields)

/-- The batch count of a status is a number of 64 bits with a sign. -/
def RelationStatus.Fits (s : RelationStatus) : Prop := Word.isSigned64 s.batchCount = true

namespace RelationStatus

theorem orNull_string (s : Option String) : Decoder.string.orNull (.ofText? s) = .ok s := by
  cases s <;> rfl

theorem orNull_state (s : Option State) :
    State.decoder.orNull (.ofText? (s.map State.name)) = .ok s := by
  cases s with
  | none => rfl
  | some s => cases s <;> rfl

theorem int64_int {n : Int} (h : Word.isSigned64 n = true) : Decoder.int64 (.int n) = .ok n := by
  simp only [Decoder.int64, Decoder.wholeWithin, Json.int, h, if_true]

/-- A status is written with its members in the order of their names. -/
theorem toJson_eq (s : RelationStatus) :
    s.toJson = .obj [("batched", .bool s.batched), ("batches_count", .int s.batchCount),
      ("error", .ofText? s.error), ("relation", .ofText? s.relation),
      ("status", .ofText? (s.state.map State.name))] := by
  simp +decide only [toJson, Json.ofMembers, Json.insert, List.foldl_cons, List.foldl_nil,
    if_true, if_false]

/-- **A status is read back.** -/
theorem decoder_toJson {s : RelationStatus} (h : s.Fits) : decoder s.toJson = .ok s := by
  rw [toJson_eq]
  refine Fields.Takes.fromMembers (Fields.Takes.seq (Fields.Takes.seq (Fields.Takes.seq
    (Fields.Takes.seq (Fields.Takes.map _ ?_) ?_) ?_) ?_) ?_)
  · exact Fields.takes_field rfl (by simp) (orNull_string s.relation)
  · exact Fields.takes_field rfl (by simp) (orNull_state s.state)
  · exact Fields.takes_field rfl (by simp) (orNull_string s.error)
  · exact Fields.takes_field rfl (by simp) rfl
  · exact Fields.takes_field rfl (by simp) (int64_int h)

theorem fits_of_int64 {j : Json} {n : Int} (h : Decoder.int64 j = .ok n) :
    Word.isSigned64 n = true := by
  unfold Decoder.int64 Decoder.wholeWithin at h
  split at h
  · split at h
    · cases h
      assumption
    · cases h
  · cases h

/-- **What is read as a status fits**, whatever it was read from. -/
theorem fits_of_decoder {j : Json} {s : RelationStatus} (h : decoder j = .ok s) : s.Fits := by
  refine Fields.Gives.record (f := fields) (P := Fits) ?_ h
  have h₁ := (Fields.gives_any (.withDefault "relation" Decoder.string.orNull none)).map
    (g := RelationStatus.mk) (P := fun g => ∀ state error batched n,
      (g state error batched n).batchCount = n) fun _ _ _ _ _ _ => rfl
  have h₂ := h₁.seq (Fields.gives_any (.withDefault "status" State.decoder.orNull none))
    (P := fun g => ∀ error batched n, (g error batched n).batchCount = n) fun _ a hg _ => hg a
  have h₃ := h₂.seq (Fields.gives_any (.withDefault "error" Decoder.string.orNull none))
    (P := fun g => ∀ batched n, (g batched n).batchCount = n) fun _ a hg _ => hg a
  have h₄ := h₃.seq (Fields.gives_any (.withDefault "batched" .bool false))
    (P := fun g => ∀ n, (g n).batchCount = n) fun _ a hg _ => hg a
  refine h₄.seq (Fields.gives_withDefault (fun _ _ => fits_of_int64) rfl) fun g n hg hn => ?_
  rw [Fits, hg]
  exact hn

end RelationStatus

namespace Payload

/-- The statuses that a report has. -/
def statuses : Payload → List RelationStatus
  | .empty => []
  | .single status => [status]
  | .perRelation statuses => statuses

/-- The batch counts of a report are numbers of 64 bits with a sign. -/
def Fits (p : Payload) : Prop := ∀ s ∈ p.statuses, s.Fits

instance (p : Payload) : Decidable p.Fits :=
  inferInstanceAs (Decidable (∀ s ∈ p.statuses, Word.isSigned64 s.batchCount = true))

theorem ofJson_obj_eq_ok_iff {ms : List (String × Json)} {p : Payload} :
    ofJson (.obj ms) = .ok p ↔
      ∃ status, p = .single status ∧ RelationStatus.decoder (.obj ms) = .ok status := by
  simp only [ofJson]
  generalize RelationStatus.decoder (.obj ms) = r
  cases r with
  | error e => simp
  | ok status => simp [eq_comm]

theorem ofJson_arr_eq_ok_iff {js : List Json} {p : Payload} :
    ofJson (.arr js) = .ok p ↔
      ∃ statuses, p = .perRelation statuses ∧ js.map RelationStatus.decoder = statuses.map .ok := by
  simp only [← Decoder.items_eq_ok_iff]
  simp only [ofJson]
  generalize Decoder.items RelationStatus.decoder js = r
  cases r with
  | error e => simp
  | ok statuses => simp [eq_comm]

/-- **A report is read back.** -/
theorem ofJson_toJson {p : Payload} (h : p.Fits) : ofJson p.toJson = .ok p := by
  cases p with
  | empty => rfl
  | single status =>
      have hs := RelationStatus.decoder_toJson (h status List.mem_cons_self)
      rw [toJson, RelationStatus.toJson_eq, ofJson_obj_eq_ok_iff, ← RelationStatus.toJson_eq]
      exact ⟨status, rfl, hs⟩
  | perRelation statuses =>
      rw [toJson, ofJson_arr_eq_ok_iff]
      refine ⟨statuses, rfl, ?_⟩
      rw [List.map_map]
      exact List.map_congr_left fun s hs => RelationStatus.decoder_toJson (h s hs)

/-- **What is read is a report** that can be written, whatever it was read from. -/
theorem fits_of_ofJson {j : Json} {p : Payload} (h : ofJson j = .ok p) : p.Fits := by
  cases j with
  | null =>
      cases h
      exact List.forall_mem_nil _
  | obj ms =>
      obtain ⟨status, rfl, hs⟩ := ofJson_obj_eq_ok_iff.mp h
      exact List.forall_mem_singleton.mpr (RelationStatus.fits_of_decoder hs)
  | arr js =>
      obtain ⟨statuses, rfl, hs⟩ := ofJson_arr_eq_ok_iff.mp h
      intro s hmem
      have hread : .ok s ∈ js.map RelationStatus.decoder := by
        rw [hs]
        exact List.mem_map_of_mem hmem
      obtain ⟨j, -, hj⟩ := List.mem_map.mp hread
      exact RelationStatus.fits_of_decoder hj
  | bool | num | str => cases h

/-- **Reports are read exactly.**  A report that is written is read back.  An array is read when
all its items are, and gives what they give, in order; a truth value, a number or a text is never
read.  So of whatever is read, the report that it gives says all that there is to know: written and
read again it is the same, and so is the snapshot for every relation. -/
theorem ofJson_exact :
    (∀ p : Payload, p.Fits → ofJson p.toJson = .ok p) ∧
      (∀ js : List Json,
        ((∃ p, ofJson (.arr js) = .ok p) ↔ ∀ j ∈ js, ∃ s, RelationStatus.decoder j = .ok s) ∧
        ∀ p, ofJson (.arr js) = .ok p ↔ ∃ statuses, p = .perRelation statuses ∧
          js.map RelationStatus.decoder = statuses.map .ok) ∧
      (∀ b p, ofJson (.bool b) ≠ .ok p) ∧ (∀ n p, ofJson (.num n) ≠ .ok p) ∧
      (∀ s p, ofJson (.str s) ≠ .ok p) ∧
      ∀ j p, ofJson j = .ok p → ofJson p.toJson = .ok p ∧
        ∀ relation,
          Snapshot.ofReply relation (ofJson p.toJson) = Snapshot.ofReply relation (ofJson j) := by
  refine ⟨fun _ => ofJson_toJson, fun js => ⟨?_, fun _ => ofJson_arr_eq_ok_iff⟩,
    fun _ _ => nofun, fun _ _ => nofun, fun _ _ => nofun, fun j p h => ?_⟩
  · rw [← Decoder.exists_items_iff]
    simp only [ofJson_arr_eq_ok_iff, Decoder.items_eq_ok_iff]
    constructor
    · rintro ⟨_, statuses, -, hs⟩
      exact ⟨statuses, hs⟩
    · rintro ⟨statuses, hs⟩
      exact ⟨_, statuses, rfl, hs⟩
  · have hback := ofJson_toJson (fits_of_ofJson h)
    exact ⟨hback, fun relation => by rw [hback, h]⟩

/-- A report in which one status is an array of the first fields only, and the other one an object
with the least batch count there is. -/
theorem ofJson_exact_terse :
    let j : Json := .arr [.arr [.str "issues", .str "finished"],
      .obj [("batches_count", .int (-9223372036854775808)), ("status", .null)]]
    let p : Payload := .perRelation
      [⟨some "issues", some .finished, none, false, 0⟩,
        ⟨none, none, none, false, -9223372036854775808⟩]
    p.Fits ∧ ofJson j = .ok p ∧ ofJson p.toJson = .ok p ∧
      Snapshot.ofReply "issues" (ofJson p.toJson) = Snapshot.ofReply "issues" (ofJson j) := by
  intro j p
  obtain ⟨hback, -, -, -, -, hread⟩ := ofJson_exact
  have hfits : p.Fits := by decide
  have hj : ofJson j = .ok p := by rfl
  exact ⟨hfits, hj, hback p hfits, (hread j p hj).2 "issues"⟩

end Payload

end Export

end ImportTracking
