import ImportTracking.Proofs.Listings

/-!
# Numerals — the number that a text denotes

A text denotes a number by decimal digits.  There may be a plus sign in front of the digits, and
blanks at both ends of the text; nothing else is allowed, neither a second sign nor a digit of
another script.  Zeros in front make no difference to the number, so every number has many texts.

* `numeral_iff`: digits that denote a number are its own decimal digits, with zeros in front.
* `denotes_iff_written`: so the texts of a number are the ways to write it.
* `natural?_trim`: a number is read from a text exactly when the text denotes it, and it is within
  the limit.
-/

namespace ImportTracking.Text

variable {cs ds s sign : List Char} {c : Char} {limit m n : Nat}

/-- Decimal digits, at least one of them, and the number that they denote. -/
structure Numeral (ds : List Char) (n : Nat) : Prop where
  ne_nil : ds ≠ []
  digits : ∀ c ∈ ds, c.isDigit = true
  value : Nat.ofDigitChars 10 ds 0 = n

/-- What may stand in front of the digits. -/
def Sign (sign : List Char) : Prop := sign = [] ∨ sign = ['+']

/-- A text that denotes a number: a numeral, perhaps with a sign, and blanks at both ends. -/
inductive Denotes : List Char → Nat → Prop
  | intro {l sign ds r : List Char} {n : Nat} (hl : Blanks l) (hsign : Sign sign)
      (hds : Numeral ds n) (hr : Blanks r) : Denotes (l ++ (sign ++ ds) ++ r) n

/-- A way to write a number: its decimal digits, perhaps with zeros and a sign in front of them,
and blanks at both ends. -/
inductive Written (n : Nat) : List Char → Prop
  | intro {l sign r : List Char} (hl : Blanks l) (hsign : Sign sign) (zeros : Nat)
      (hr : Blanks r) :
      Written n (l ++ (sign ++ (List.replicate zeros '0' ++ (toString n).toList)) ++ r)

/-! ### Digits -/

theorem isDigit_iff : c.isDigit = true ↔ 48 ≤ c.toNat ∧ c.toNat ≤ 57 := by
  rw [Char.isDigit, Bool.and_eq_true, decide_eq_true_iff, decide_eq_true_iff]
  exact Iff.rfl

theorem digitChar_of_isDigit (h : c.isDigit = true) : Nat.digitChar (c.toNat - 48) = c := by
  rw [isDigit_iff] at h
  apply Char.toNat_inj.mp
  rw [Nat.toNat_digitChar_of_lt_ten (by omega)]
  omega

theorem not_isBlank_of_isDigit (h : c.isDigit = true) : isBlank c = false := by
  rw [isDigit_iff] at h
  simp only [isBlank, blankRanges, List.any_cons, List.any_nil, Bool.or_false, Bool.or_eq_false_iff,
    Bool.and_eq_false_iff, decide_eq_false_iff_not]
  omega

/-- The digit behind a number without a zero in front is the last of the longer number. -/
theorem toDigits_concat (hm : 0 < m) (hc : c.isDigit = true) :
    Nat.toDigits 10 m ++ [c] = Nat.toDigits 10 (10 * m + (c.toNat - 48)) := by
  have hlt : c.toNat - 48 < 10 := by
    have := isDigit_iff.mp hc
    omega
  rw [← Nat.toDigits_append_toDigits (by decide) hm hlt, Nat.toDigits_of_lt_base hlt,
    digitChar_of_isDigit hc]

/-- Digits behind a number without a zero in front are the last ones of the longer number. -/
theorem toDigits_append (hm : 0 < m) (hds : ∀ c ∈ ds, c.isDigit = true) :
    Nat.toDigits 10 m ++ ds = Nat.toDigits 10 (Nat.ofDigitChars 10 ds m) := by
  induction ds generalizing m with
  | nil => rw [List.append_nil, Nat.ofDigitChars_nil]
  | cons c ds ih =>
      obtain ⟨hc, hds⟩ := List.forall_mem_cons.mp hds
      calc Nat.toDigits 10 m ++ c :: ds
          = Nat.toDigits 10 m ++ [c] ++ ds := by rw [List.append_assoc, List.singleton_append]
        _ = Nat.toDigits 10 (10 * m + (c.toNat - 48)) ++ ds := by rw [toDigits_concat hm hc]
        _ = Nat.toDigits 10 (Nat.ofDigitChars 10 ds (10 * m + (c.toNat - 48))) :=
            ih (by omega) hds
        _ = Nat.toDigits 10 (Nat.ofDigitChars 10 (c :: ds) m) := by rw [Nat.ofDigitChars_cons]; rfl

/-! ### Numerals -/

namespace Numeral

theorem toList_toString (n : Nat) : (toString n).toList = Nat.toDigits 10 n := by
  rw [Nat.toString_eq_ofList_toDigits, String.toList_ofList]

/-- The decimal digits of a number denote it, with any zeros in front. -/
theorem of_zeros (zeros n : Nat) :
    Numeral (List.replicate zeros '0' ++ (toString n).toList) n where
  ne_nil h := by
    rw [List.append_eq_nil_iff, toList_toString] at h
    exact Nat.toDigits_ne_nil h.2
  digits c hc := by
    rw [List.mem_append, toList_toString] at hc
    rcases hc with hc | hc
    · rw [List.eq_of_mem_replicate hc]
      rfl
    · exact Nat.isDigit_of_mem_toDigits (by decide) (by decide) hc
  value := by
    rw [Nat.ofDigitChars_append, Nat.ofDigitChars_replicate_zero, Nat.mul_zero, toList_toString,
      Nat.ofDigitChars_ten_toDigits]

/-- Digits with a zero in front denote what they denote without it. -/
theorem tail (h : Numeral ('0' :: ds) n) (hne : ds ≠ []) : Numeral ds n where
  ne_nil := hne
  digits c hc := h.digits c (List.mem_cons_of_mem _ hc)
  value := by
    have hvalue := h.value
    rw [Nat.ofDigitChars_cons] at hvalue
    exact hvalue

/-- Digits without a zero in front are those of the number they denote. -/
theorem eq_toDigits (h : Numeral (c :: ds) n) (hc : c ≠ '0') : c :: ds = Nat.toDigits 10 n := by
  obtain ⟨hdigit, hds⟩ := List.forall_mem_cons.mp h.digits
  have hrange := isDigit_iff.mp hdigit
  have hne : c.toNat ≠ 48 := fun h => hc (Char.toNat_inj.mp h)
  have hfirst : Nat.toDigits 10 (c.toNat - 48) = [c] := by
    rw [Nat.toDigits_of_lt_base (by omega), digitChar_of_isDigit hdigit]
  rw [← h.value, Nat.ofDigitChars_cons, Nat.mul_zero, Nat.zero_add]
  show c :: ds = Nat.toDigits 10 (Nat.ofDigitChars 10 ds (c.toNat - 48))
  rw [← toDigits_append (by omega) hds, hfirst, List.singleton_append]

end Numeral

/-- **Digits that denote a number** are its own, with zeros in front. -/
theorem numeral_iff :
    Numeral ds n ↔ ∃ zeros, ds = List.replicate zeros '0' ++ (toString n).toList := by
  constructor
  · intro h
    induction ds with
    | nil => exact absurd rfl h.ne_nil
    | cons c ds ih =>
        by_cases hc : c = '0'
        · subst hc
          by_cases hds : ds = []
          · -- the last zero is no zero in front, but the number itself
            subst hds
            refine ⟨0, ?_⟩
            rw [← h.value, Numeral.toList_toString]
            rfl
          · obtain ⟨zeros, hzeros⟩ := ih (h.tail hds)
            refine ⟨zeros + 1, ?_⟩
            rw [List.replicate_succ, List.cons_append, ← hzeros]
        · exact ⟨0, by rw [h.eq_toDigits hc, Numeral.toList_toString]; rfl⟩
  · rintro ⟨zeros, rfl⟩
    exact .of_zeros zeros n

/-- **A text denotes a number** exactly when it is a way to write it. -/
theorem denotes_iff_written : Denotes s n ↔ Written n s := by
  constructor
  · rintro ⟨hl, hsign, hds, hr⟩
    obtain ⟨zeros, rfl⟩ := numeral_iff.mp hds
    exact ⟨hl, hsign, zeros, hr⟩
  · rintro ⟨hl, hsign, zeros, hr⟩
    exact ⟨hl, hsign, .of_zeros zeros n, hr⟩

/-! ### Reading a number -/

/-- There is nothing to trim of a numeral with its sign. -/
theorem item_of_numeral (hsign : Sign sign) (h : Numeral ds n) : Item (sign ++ ds) where
  ne_nil hnil := h.ne_nil (List.append_eq_nil_iff.mp hnil).2
  comma hc := by
    rcases List.mem_append.mp hc with hc | hc
    · rcases hsign with rfl | rfl
      · cases hc
      · exact absurd hc (by decide)
    · exact absurd (h.digits _ hc) (by decide)
  first c hc := by
    rcases hsign with rfl | rfl
    · exact not_isBlank_of_isDigit (h.digits c (List.mem_of_mem_head? hc))
    · rw [← Option.some.inj hc]
      rfl
  last c hc := by
    rw [List.getLast?_append_of_ne_nil _ h.ne_nil] at hc
    exact not_isBlank_of_isDigit (h.digits c (List.mem_of_mem_getLast? hc))

/-- A text denotes a number exactly when what is left of it, trimmed, is a numeral with its sign. -/
theorem denotes_iff_trim :
    Denotes s n ↔ ∃ sign ds, Sign sign ∧ Numeral ds n ∧ trim s = sign ++ ds := by
  constructor
  · rintro ⟨hl, hsign, hds, hr⟩
    refine ⟨_, _, hsign, hds, ?_⟩
    rw [trim_append_blanks hr, trim_blanks_append hl, (item_of_numeral hsign hds).trim_eq]
  · rintro ⟨sign, ds, hsign, hds, hs⟩
    obtain ⟨l, r, hl, hr, heq⟩ := exists_eq_append_trim s
    rw [hs] at heq
    rw [← heq]
    exact ⟨hl, hsign, hds, hr⟩

theorem isDecimal_eq (c : Char) : isDecimal c = c.isDigit := by
  rw [Bool.eq_iff_iff, isDigit_iff, isDecimal, Bool.and_eq_true, decide_eq_true_iff,
    decide_eq_true_iff]
  exact Iff.rfl

theorem decimalValue_eq (ds : List Char) : decimalValue ds = Nat.ofDigitChars 10 ds 0 := by
  rw [decimalValue, Nat.ofDigitChars_eq_foldl]
  congr 1
  funext n d
  rw [Nat.mul_comm]
  rfl

/-- What is read behind the sign. -/
theorem digits?_eq_some_iff :
    (if !ds.isEmpty && ds.all isDecimal && decimalValue ds ≤ limit then some (decimalValue ds)
      else none) = some n ↔ Numeral ds n ∧ n ≤ limit := by
  rw [Option.ite_none_right_eq_some, Bool.and_eq_true, Bool.and_eq_true, decide_eq_true_iff,
    List.all_eq_true, decimalValue_eq]
  simp only [isDecimal_eq, Bool.not_eq_true', List.isEmpty_eq_false_iff, Option.some.injEq]
  constructor
  · rintro ⟨⟨⟨hne, hdigits⟩, hle⟩, rfl⟩
    exact ⟨⟨hne, hdigits, rfl⟩, hle⟩
  · rintro ⟨⟨hne, hdigits, rfl⟩, hle⟩
    exact ⟨⟨⟨hne, hdigits⟩, hle⟩, rfl⟩

/-- A number is read from a numeral within the limit, with its sign, and from nothing else. -/
theorem natural?_eq_some_iff :
    natural? limit cs = some n ↔
      ∃ sign ds, Sign sign ∧ Numeral ds n ∧ n ≤ limit ∧ cs = sign ++ ds := by
  unfold natural?
  split
  · rename_i ds
    rw [digits?_eq_some_iff]
    constructor
    · rintro ⟨hds, hle⟩
      exact ⟨['+'], ds, .inr rfl, hds, hle, rfl⟩
    · rintro ⟨sign, ds', rfl | rfl, hds, hle, heq⟩
      · -- a sign is no digit
        rw [List.nil_append] at heq
        subst heq
        exact absurd (hds.digits '+' List.mem_cons_self) (by decide)
      · rw [(List.cons.inj heq).2]
        exact ⟨hds, hle⟩
  · rename_i hsigned
    rw [digits?_eq_some_iff]
    constructor
    · rintro ⟨hds, hle⟩
      exact ⟨[], cs, .inl rfl, hds, hle, rfl⟩
    · rintro ⟨sign, ds, rfl | rfl, hds, hle, heq⟩
      · rw [heq]
        exact ⟨hds, hle⟩
      · exact absurd heq (hsigned ds)

/-- **A number is read** from a text exactly when the text denotes it and it is within the limit. -/
theorem natural?_trim : natural? limit (trim s) = some n ↔ Denotes s n ∧ n ≤ limit := by
  rw [natural?_eq_some_iff, denotes_iff_trim]
  constructor
  · rintro ⟨sign, ds, hsign, hds, hle, heq⟩
    exact ⟨⟨sign, ds, hsign, hds, heq⟩, hle⟩
  · rintro ⟨⟨sign, ds, hsign, hds, heq⟩, hle⟩
    exact ⟨sign, ds, hsign, hds, hle, heq⟩

end ImportTracking.Text
