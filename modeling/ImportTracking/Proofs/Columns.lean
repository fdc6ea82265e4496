import ImportTracking.Database.Statement
import Mathlib.Data.String.Basic

/-!
# Columns — the order of rows that are read

Rows are read in an order: trackers by stage and id, batches by number, failures by the text of
their times and id.  Times between the years 0 and 9999 are in the order of time, and a year with a
sign comes before all of them, since a sign comes before every digit.

* `isUnsignedYear_iff`: which years are written without a sign.
* `columnNotAfter_trans`, `columnNotAfter_total`: the order of times as columns hold them.
* `pairwise_trackerOrder`, `pairwise_batchOrder`, `pairwise_failureOrder`: rows that are sorted are
  in order.
-/

namespace ImportTracking

namespace Timestamp

/-! ### Years -/

namespace Date

/-- The year of a day, by its 400 years and the day of those, which start in March. -/
theorem year_ofDayNumber (n : Int) :
    ∃ era : Int, ∃ day year : Nat, n + epochOffset = era * 146097 + day ∧ day < 146097 ∧
      (ofDayNumber n).year = era * 400 + year ∧ year ≤ 400 ∧ (year = 400 ↔ 146037 ≤ day) := by
  obtain ⟨day, hday⟩ : ∃ day : Nat,
      n + epochOffset - (n + epochOffset) / 146097 * 146097 = day :=
    Int.eq_ofNat_of_zero_le (by omega)
  have hlt : day < 146097 := by omega
  simp only [ofDayNumber, hday, Int.toNat_natCast]
  generalize n + epochOffset = z at *
  generalize hy : (day - day / 1460 + day / 36524 - day / 146096) / 365 = y
  have hbefore : day < 145731 → y ≤ 398 := by omega
  have hlast : 145731 ≤ day → y = 399 := by omega
  generalize hm : (if (5 * (day - (365 * y + y / 4 - y / 100)) + 2) / 153 < 10 then
    (5 * (day - (365 * y + y / 4 - y / 100)) + 2) / 153 + 3 else
    (5 * (day - (365 * y + y / 4 - y / 100)) + 2) / 153 - 9) = month
  -- January and February are of the year after the one that is counted from March
  have hmonth : y = 399 → 145731 ≤ day → (month ≤ 2 ↔ 146037 ≤ day) := by
    rintro rfl hday
    rw [← hm]
    split <;> omega
  clear hm hy
  by_cases h : month ≤ 2
  · rw [if_pos h]
    exact ⟨z / 146097, day, y + 1, by omega, hlt, by omega, by omega, by omega⟩
  · rw [if_neg h]
    exact ⟨z / 146097, day, y, by omega, hlt, by omega, by omega, by omega⟩

end Date

/-- **The years without a sign** are those from 0 to 9999. -/
theorem isUnsignedYear_iff (t : Timestamp) :
    t.isUnsignedYear = true ↔ 0 ≤ t.parts.date.year ∧ t.parts.date.year ≤ 9999 := by
  obtain ⟨era, day, year, hn, hday, hy, hle, heq⟩ := Date.year_ofDayNumber (t.seconds / 86400)
  show _ ↔ 0 ≤ (Date.ofDayNumber (t.seconds / 86400)).year ∧
    (Date.ofDayNumber (t.seconds / 86400)).year ≤ 9999
  rw [hy]
  simp only [isUnsignedYear, Bool.and_eq_true, decide_eq_true_eq, Date.epochOffset] at *
  omega

/-! ### Texts -/

/-- A number with zeros in front starts with a digit. -/
theorem toList_zeroPadded (width n : Nat) :
    ∃ c cs, (Text.zeroPadded width n).toList = c :: cs ∧ '0' ≤ c := by
  have hdigits : (Text.zeroPadded width n).toList =
      List.replicate (width - (String.ofList (Nat.toDigits 10 n)).length) '0' ++
        Nat.toDigits 10 n := by
    simp only [Text.zeroPadded, String.toList_append, String.toList_ofList]
  have hle : ∀ c ∈ (Text.zeroPadded width n).toList, '0' ≤ c := by
    intro c hc
    rw [hdigits, List.mem_append] at hc
    rcases hc with hc | hc
    · rw [List.eq_of_mem_replicate hc]
    · have hdigit := Nat.isDigit_of_mem_toDigits (by decide) (by decide) hc
      exact (Bool.and_eq_true_iff.mp hdigit).1 |> of_decide_eq_true
  cases h : (Text.zeroPadded width n).toList with
  | nil => exact absurd (List.append_eq_nil_iff.mp (hdigits.symm.trans h)).2 Nat.toDigits_ne_nil
  | cons c cs => exact ⟨c, cs, rfl, hle c (h ▸ List.mem_cons_self)⟩

/-- The text of a column starts with the year. -/
theorem toList_columnText (t : Timestamp) :
    ∃ cs, t.columnText.toList = (yearText t.parts.date.year).toList ++ cs := by
  simp only [columnText, civilText, dateText, String.toList_append, List.append_assoc]
  exact ⟨_, rfl⟩

/-- Without a sign, a column starts with a digit. -/
theorem toList_columnText_of_unsigned {t : Timestamp} (h : t.isUnsignedYear = true) :
    ∃ c cs, t.columnText.toList = c :: cs ∧ '0' ≤ c := by
  obtain ⟨rest, hrest⟩ := toList_columnText t
  rw [yearText, if_pos (t.isUnsignedYear_iff.mp h)] at hrest
  obtain ⟨c, cs, hcs, hc⟩ := toList_zeroPadded 4 t.parts.date.year.toNat
  exact ⟨c, cs ++ rest, by rw [hrest, hcs, List.cons_append], hc⟩

/-- With a sign, a column starts with that. -/
theorem toList_columnText_of_signed {t : Timestamp} (h : t.isUnsignedYear = false) :
    ∃ c cs, t.columnText.toList = c :: cs ∧ c < '0' := by
  obtain ⟨rest, hrest⟩ := toList_columnText t
  have hyear : ¬(0 ≤ t.parts.date.year ∧ t.parts.date.year ≤ 9999) := by
    rw [← t.isUnsignedYear_iff, h]
    exact Bool.false_ne_true
  rw [yearText, if_neg hyear, String.toList_append] at hrest
  split at hrest
  · exact ⟨'-', _, hrest, by decide⟩
  · exact ⟨'+', _, hrest, by decide⟩

/-- A year with a sign comes before every year without one. -/
theorem columnText_lt {a b : Timestamp} (ha : a.isUnsignedYear = false)
    (hb : b.isUnsignedYear = true) : a.columnText < b.columnText := by
  obtain ⟨c, cs, hcs, hc⟩ := toList_columnText_of_signed ha
  obtain ⟨d, ds, hds, hd⟩ := toList_columnText_of_unsigned hb
  rw [String.lt_iff_toList_lt, hcs, hds]
  exact .rel (hc.trans_le hd)

/-! ### Times in columns -/

theorem notAfter_iff {a b : Timestamp} : a.notAfter b = true ↔
    a.seconds < b.seconds ∨ a.seconds = b.seconds ∧ a.nanos ≤ b.nanos := by
  simp only [notAfter, Bool.or_eq_true, Bool.and_eq_true, decide_eq_true_eq, beq_iff_eq]

/-- Between years without a sign, columns are in the order of time. -/
theorem columnNotAfter_of_unsigned {a b : Timestamp} (ha : a.isUnsignedYear = true)
    (hb : b.isUnsignedYear = true) : a.columnNotAfter b = a.notAfter b := by
  rw [columnNotAfter, ha, hb, Bool.and_self, if_pos rfl]

/-- With a sign on either, columns are in the order of their texts. -/
theorem columnNotAfter_of_signed {a b : Timestamp}
    (h : a.isUnsignedYear = false ∨ b.isUnsignedYear = false) :
    a.columnNotAfter b = true ↔ a.columnText ≤ b.columnText := by
  have hor : (a.isUnsignedYear && b.isUnsignedYear) = false := Bool.and_eq_false_iff.mpr h
  rw [columnNotAfter, hor, if_neg Bool.false_ne_true, decide_eq_true_eq]

/-- **Columns can be compared.** -/
theorem columnNotAfter_total (a b : Timestamp) :
    a.columnNotAfter b = true ∨ b.columnNotAfter a = true := by
  by_cases h : a.isUnsignedYear = false ∨ b.isUnsignedYear = false
  · rw [columnNotAfter_of_signed h, columnNotAfter_of_signed h.symm]
    exact le_total ..
  · obtain ⟨ha, hb⟩ : a.isUnsignedYear = true ∧ b.isUnsignedYear = true := by simpa using h
    rw [columnNotAfter_of_unsigned ha hb, columnNotAfter_of_unsigned hb ha, notAfter_iff,
      notAfter_iff]
    omega

/-- **Columns are ordered.** -/
theorem columnNotAfter_trans {a b c : Timestamp} (hab : a.columnNotAfter b = true)
    (hbc : b.columnNotAfter c = true) : a.columnNotAfter c = true := by
  cases ha : a.isUnsignedYear with
  | false =>
      rw [columnNotAfter_of_signed (.inl ha)] at hab ⊢
      cases hb : b.isUnsignedYear with
      | false => exact hab.trans ((columnNotAfter_of_signed (.inl hb)).mp hbc)
      | true =>
          cases hc : c.isUnsignedYear with
          | false => exact hab.trans ((columnNotAfter_of_signed (.inr hc)).mp hbc)
          | true => exact (columnText_lt ha hc).le
  | true =>
      cases hb : b.isUnsignedYear with
      | false =>
          -- a year without a sign does not come before one with a sign
          exact absurd ((columnNotAfter_of_signed (.inr hb)).mp hab) (columnText_lt hb ha).not_ge
      | true =>
          cases hc : c.isUnsignedYear with
          | false =>
              exact absurd ((columnNotAfter_of_signed (.inr hc)).mp hbc)
                (columnText_lt hc hb).not_ge
          | true =>
              rw [columnNotAfter_of_unsigned ha hb, notAfter_iff] at hab
              rw [columnNotAfter_of_unsigned hb hc, notAfter_iff] at hbc
              rw [columnNotAfter_of_unsigned ha hc, notAfter_iff]
              omega

end Timestamp

/-! ### Rows -/

namespace Database

/-- What is sorted by an order is in that order. -/
theorem pairwise_sorted {Row : Type} {le : Row → Row → Bool} {Before : Row → Row → Prop}
    (hle : ∀ a b, le a b = true ↔ Before a b)
    (htrans : ∀ a b c, Before a b → Before b c → Before a c)
    (htotal : ∀ a b, Before a b ∨ Before b a) (rows : List Row) :
    (rows.mergeSort le).Pairwise Before := by
  have hsorted : (rows.mergeSort le).Pairwise fun a b => le a b = true := List.pairwise_mergeSort
    (fun a b c hab hbc => (hle a c).mpr (htrans a b c ((hle a b).mp hab) ((hle b c).mp hbc)))
    (fun a b => Bool.or_eq_true_iff.mpr ((htotal a b).imp (hle a b).mpr (hle b a).mpr)) rows
  exact hsorted.imp fun {a b} => (hle a b).mp

/-- Trackers that are sorted are in the order of their stages and ids. -/
theorem pairwise_trackerOrder (rows : List Tracker) :
    (rows.mergeSort trackerOrder).Pairwise fun a b =>
      a.stage < b.stage ∨ a.stage = b.stage ∧ a.id ≤ b.id := by
  refine pairwise_sorted ?_ (by omega) (by omega) rows
  intro a b
  simp only [trackerOrder, Bool.or_eq_true, Bool.and_eq_true, decide_eq_true_eq, beq_iff_eq]

/-- Batches that are sorted are in the order of their numbers. -/
theorem pairwise_batchOrder (rows : List Batch) :
    (rows.mergeSort batchOrder).Pairwise fun a b => a.number ≤ b.number := by
  refine pairwise_sorted ?_ (by omega) (by omega) rows
  intro a b
  rw [batchOrder, decide_eq_true_iff]

/-- Failures that are sorted are in the order of the columns of their times, and of their ids where
these are alike. -/
theorem pairwise_failureOrder (rows : List Failure) :
    (rows.mergeSort failureOrder).Pairwise fun a b =>
      a.createdAt.columnNotAfter b.createdAt = true ∧
        (b.createdAt.columnNotAfter a.createdAt = true → a.id ≤ b.id) := by
  refine pairwise_sorted ?_ ?_ ?_ rows
  · intro a b
    cases hba : b.createdAt.columnNotAfter a.createdAt <;> simp [failureOrder, hba]
  · rintro a b c ⟨hab, hidab⟩ ⟨hbc, hidbc⟩
    refine ⟨Timestamp.columnNotAfter_trans hab hbc, fun hca => ?_⟩
    -- of three that are alike in a circle every two are
    exact (hidab (Timestamp.columnNotAfter_trans hbc hca)).trans
      (hidbc (Timestamp.columnNotAfter_trans hca hab))
  · intro a b
    have := Timestamp.columnNotAfter_total a.createdAt b.createdAt
    have := Int.le_total a.id b.id
    tauto

end Database

end ImportTracking
