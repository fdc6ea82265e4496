import ImportTracking.Delivery
import Mathlib.Algebra.Group.Nat.Defs
import Mathlib.Order.Interval.Set.Defs
import Mathlib.Order.MinMax
import Mathlib.Order.Monotone.Defs
import Mathlib.Order.Nat

/-!
# Backoff — the delays before retries

The delay before a retry is the fourth power of the number of retries and 15, in seconds.  A power
or a sum that 64 bits do not hold becomes the largest count that they do.  The delay is the exact
sum with this one bound, however often the bound is met on the way.

* `Word.toNat_powCapped`, `toNat_wordBackoff`: words of 64 bits that are kept from overflowing at
  every multiplication count the same delay.
* `retryBackoff_eq_exact_iff`, `retryBackoff_eq_longest_iff`: the delay is exact up to 65535
  retries, and the longest from there on.
* `retryBackoff_course`: so the delays grow with every retry as long as they are exact, and never
  get shorter.
-/

namespace ImportTracking

/-! ### Words that do not overflow -/

namespace Word

variable {w : Nat}

/-- A word, or the largest one in place of an overflow. -/
def capped (overflow : Bool) (a : BitVec w) : BitVec w := if overflow then .allOnes w else a

/-- The product of two words, or the largest word where there is no room for it. -/
def mulCapped (a b : BitVec w) : BitVec w := capped (a.umulOverflow b) (a * b)

/-- The sum of two words, or the largest word where there is no room for it. -/
def addCapped (a b : BitVec w) : BitVec w := capped (a.uaddOverflow b) (a + b)

/-- The power of a word, by one capped multiplication after the other. -/
def powCapped (a : BitVec w) : Nat → BitVec w
  | 0 => 1
  | k + 1 => mulCapped (powCapped a k) a

/-- A word that is capped when it overflows is the exact number with one bound. -/
theorem toNat_capped {overflow : Bool} {a : BitVec w} {x : Nat}
    (hover : overflow = true ↔ 2 ^ w ≤ x) (hexact : ¬ overflow = true → a.toNat = x) :
    (capped overflow a).toNat = min x (2 ^ w - 1) := by
  unfold capped
  split
  · rename_i h
    have hroom : 2 ^ w ≤ x := hover.mp h
    rw [BitVec.toNat_allOnes, Nat.min_eq_right (Nat.le_trans (Nat.sub_le _ _) hroom)]
  · rename_i h
    have hroom : x < 2 ^ w := Nat.lt_of_not_le (hover.not.mp h)
    rw [hexact h, Nat.min_eq_left (Nat.le_sub_one_of_lt hroom)]

theorem toNat_mulCapped (a b : BitVec w) :
    (mulCapped a b).toNat = min (a.toNat * b.toNat) (2 ^ w - 1) :=
  toNat_capped decide_eq_true_iff BitVec.toNat_mul_of_not_umulOverflow

theorem toNat_addCapped (a b : BitVec w) :
    (addCapped a b).toNat = min (a.toNat + b.toNat) (2 ^ w - 1) :=
  toNat_capped decide_eq_true_iff BitVec.toNat_add_of_not_uaddOverflow

/-- A factor that was capped before makes no difference to a capped product. -/
theorem min_min_mul (x y m : Nat) : min (min x m * y) m = min (x * y) m := by
  rcases Nat.le_total x m with hx | hx
  · rw [Nat.min_eq_left hx]
  · rw [Nat.min_eq_right hx]
    cases y with
    | zero => rw [Nat.mul_zero, Nat.mul_zero]
    | succ y =>
        have hm : m ≤ m * (y + 1) := Nat.le_mul_of_pos_right m y.succ_pos
        rw [Nat.min_eq_right hm, Nat.min_eq_right (hm.trans (Nat.mul_le_mul_right _ hx))]

/-- A term that was capped before makes no difference to a capped sum. -/
theorem min_min_add (x y m : Nat) : min (min x m + y) m = min (x + y) m := by
  omega

/-- **Words that are kept from overflowing** at every multiplication hold the capped power. -/
theorem toNat_powCapped (a : BitVec w) (hw : 0 < w) (k : Nat) :
    (powCapped a k).toNat = min (a.toNat ^ k) (2 ^ w - 1) := by
  -- what is capped on the way stays capped, so one bound at the end is enough
  induction k with
  | zero =>
      have hone : 1 < 2 ^ w := Nat.one_lt_two_pow hw.ne'
      rw [powCapped, Nat.pow_zero, Nat.min_eq_left (Nat.le_sub_one_of_lt hone)]
      exact Nat.mod_eq_of_lt hone
  | succ k ih => rw [powCapped, toNat_mulCapped, ih, min_min_mul, Nat.pow_succ]

end Word

/-! ### The delays -/

namespace Delivery

/-- The longest delay, in seconds. -/
theorem maxSecs_eq : Duration.maxSecs = 2 ^ 64 - 1 := rfl

/-- The delay in seconds is the exact sum with one bound. -/
theorem retryBackoff_eq (n : Nat) : retryBackoff n = .ofSecs (min (n ^ 4 + 15) (2 ^ 64 - 1)) := by
  rw [retryBackoff, saturated, saturated, Word.min_min_add, maxSecs_eq]
  rfl

/-- The delay, counted in words of 64 bits. -/
def wordBackoff (n : BitVec 32) : BitVec 64 := Word.addCapped (Word.powCapped (n.setWidth 64) 4) 15

/-- **Words of 64 bits** count the delay. -/
theorem toNat_wordBackoff (n : BitVec 32) :
    (wordBackoff n).toNat = (retryBackoff n.toNat).secs := by
  have hn : (n.setWidth 64).toNat = n.toNat := by
    rw [BitVec.toNat_setWidth]
    exact Nat.mod_eq_of_lt (n.isLt.trans (by decide))
  rw [wordBackoff, Word.toNat_addCapped, Word.toNat_powCapped _ (by decide), hn,
    show (15 : BitVec 64).toNat = 15 from rfl, Word.min_min_add, retryBackoff_eq,
    Duration.secs_ofSecs]

/-- There is room for the fourth power and 15 up to 65535, -/
theorem pow_four_lt {n : Nat} (h : n ≤ 65535) : n ^ 4 + 15 < 2 ^ 64 - 1 := by
  have hpow : n ^ 4 ≤ 65535 ^ 4 := Nat.pow_le_pow_left h 4
  omega

/-- and from 65536 on there is none for the power alone. -/
theorem lt_pow_four {n : Nat} (h : 65536 ≤ n) : 2 ^ 64 - 1 < n ^ 4 := by
  have hpow : 65536 ^ 4 ≤ n ^ 4 := Nat.pow_le_pow_left h 4
  omega

/-- **The delay is exact** up to 65535 retries, -/
theorem retryBackoff_eq_exact_iff {n : Nat} :
    retryBackoff n = .ofSecs (n ^ 4 + 15) ↔ n ≤ 65535 := by
  rw [retryBackoff_eq, Duration.ofSecs_inj]
  refine ⟨fun h => ?_, fun h => Nat.min_eq_left (pow_four_lt h).le⟩
  by_contra hn
  have hpow := lt_pow_four (Nat.lt_of_not_le hn)
  omega

/-- **and the longest** from 65536 retries on. -/
theorem retryBackoff_eq_longest_iff {n : Nat} :
    retryBackoff n = .ofSecs (2 ^ 64 - 1) ↔ 65536 ≤ n := by
  rw [retryBackoff_eq, Duration.ofSecs_inj]
  refine ⟨fun h => ?_, fun h => Nat.min_eq_right (Nat.le_add_right_of_le (lt_pow_four h).le)⟩
  by_contra hn
  have hpow := pow_four_lt (Nat.le_of_lt_succ (Nat.lt_of_not_le hn))
  omega

/-- One more retry takes longer, as long as the delays are exact. -/
theorem retryBackoff_strictMonoOn :
    StrictMonoOn (fun n => (retryBackoff n).nanos) (Set.Iic 65535) := by
  intro m hm n hn hmn
  show (retryBackoff m).nanos < (retryBackoff n).nanos
  rw [retryBackoff_eq_exact_iff.mpr hm, retryBackoff_eq_exact_iff.mpr hn]
  have hpow : m ^ 4 < n ^ 4 := Nat.pow_lt_pow_left hmn (by decide)
  exact Nat.mul_lt_mul_of_pos_right (Nat.add_lt_add_right hpow 15) (by decide)

/-- No delay is shorter than one before it. -/
theorem retryBackoff_monotone : Monotone fun n => (retryBackoff n).nanos := by
  intro m n hmn
  show (retryBackoff m).nanos ≤ (retryBackoff n).nanos
  rw [retryBackoff_eq, retryBackoff_eq]
  have hpow : m ^ 4 ≤ n ^ 4 := Nat.pow_le_pow_left hmn 4
  exact Nat.mul_le_mul_right _ (min_le_min_right _ (Nat.add_le_add_right hpow 15))

/-- **The course of the delays.**  The delay is the exact sum with one bound, and words of 64 bits
count it without overflowing; it is exact up to 65535 retries and the longest from there on; it
grows with every retry as long as it is exact, and never gets shorter. -/
theorem retryBackoff_course :
    (∀ n, retryBackoff n = .ofSecs (min (n ^ 4 + 15) (2 ^ 64 - 1))) ∧
      (∀ n : BitVec 32, (wordBackoff n).toNat = (retryBackoff n.toNat).secs) ∧
      (∀ n, retryBackoff n = .ofSecs (n ^ 4 + 15) ↔ n ≤ 65535) ∧
      (∀ n, retryBackoff n = .ofSecs (2 ^ 64 - 1) ↔ 65536 ≤ n) ∧
      StrictMonoOn (fun n => (retryBackoff n).nanos) (Set.Iic 65535) ∧
      Monotone fun n => (retryBackoff n).nanos :=
  ⟨retryBackoff_eq, toNat_wordBackoff, fun _ => retryBackoff_eq_exact_iff,
    fun _ => retryBackoff_eq_longest_iff, retryBackoff_strictMonoOn, retryBackoff_monotone⟩

/-- Where the delays stop growing, and the delay after the largest count of retries. -/
theorem retryBackoff_course_crossing :
    retryBackoff 65535 = .ofSecs 18445618199572250640 ∧
      (retryBackoff 65534).nanos < (retryBackoff 65535).nanos ∧
      retryBackoff 65536 = .ofSecs 18446744073709551615 ∧
      (retryBackoff 65536).nanos ≤ (retryBackoff 4294967295).nanos ∧
      (wordBackoff 4294967295).toNat = 18446744073709551615 := by
  obtain ⟨-, hwords, hexact, hlongest, hgrow, hkeep⟩ := retryBackoff_course
  have hlast : retryBackoff 4294967295 = .ofSecs (2 ^ 64 - 1) := (hlongest _).mpr (by decide)
  refine ⟨(hexact 65535).mpr (by decide), ?_, (hlongest 65536).mpr (by decide), ?_, ?_⟩
  · exact hgrow (Set.mem_Iic.mpr (by decide)) (Set.mem_Iic.mpr (by decide)) (by decide)
  · exact hkeep (by decide)
  · rw [hwords]
    exact (congrArg Duration.secs hlast).trans (Duration.secs_ofSecs _)

end Delivery

end ImportTracking
