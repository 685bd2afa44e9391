import Mathlib.Data.Nat.Digits.Lemmas

/-!
# Positional numerals

Numerals with leading zeros, most significant digit first.  Such a numeral is
determined by its value and the number of its leading zeros, and, once its
length is known, by its value alone.
-/

namespace LogosRln.Positional

/-- The number a numeral names. -/
def value (base : ℕ) (digits : List ℕ) : ℕ :=
  Nat.ofDigits base digits.reverse

def leadingZeros (digits : List ℕ) : ℕ :=
  (digits.takeWhile (· = 0)).length

/-- The digits of a number, without leading zeros. -/
def significant (base number : ℕ) : List ℕ :=
  (Nat.digits base number).reverse

variable {base : ℕ}

@[simp]
theorem value_nil : value base [] = 0 := rfl

theorem value_append (first second : List ℕ) :
    value base (first ++ second) = value base first * base ^ second.length + value base second := by
  rw [value, value, value, List.reverse_append, Nat.ofDigits_append, List.length_reverse]
  ring

@[simp]
theorem value_zero_cons (digits : List ℕ) : value base (0 :: digits) = value base digits := by
  simp [value, Nat.ofDigits_append]

@[simp]
theorem value_replicate_append (zeros : ℕ) (digits : List ℕ) :
    value base (List.replicate zeros 0 ++ digits) = value base digits := by
  induction zeros with
  | zero => rfl
  | succ zeros ih => rw [List.replicate_succ, List.cons_append, value_zero_cons, ih]

theorem value_lt (hbase : 1 < base) {digits : List ℕ} (hdigits : ∀ digit ∈ digits, digit < base) :
    value base digits < base ^ digits.length := by
  rw [← List.length_reverse]
  exact Nat.ofDigits_lt_base_pow_length hbase fun digit hdigit =>
    hdigits digit (List.mem_reverse.mp hdigit)

/-- A numeral with a leading digit is at least that digit's weight. -/
theorem pow_le_value {digit : ℕ} (hdigit : digit ≠ 0) (digits : List ℕ) :
    base ^ digits.length ≤ value base (digit :: digits) := by
  rw [show digit :: digits = [digit] ++ digits from rfl, value_append]
  have hone : 1 ≤ value base [digit] := by
    simpa [value] using Nat.one_le_iff_ne_zero.mpr hdigit
  calc base ^ digits.length = 1 * base ^ digits.length := (one_mul _).symm
    _ ≤ value base [digit] * base ^ digits.length := Nat.mul_le_mul_right _ hone
    _ ≤ _ := Nat.le_add_right _ _

@[simp]
theorem value_significant (number : ℕ) : value base (significant base number) = number := by
  rw [value, significant, List.reverse_reverse, Nat.ofDigits_digits]

theorem significant_lt (hbase : 1 < base) {number digit : ℕ}
    (hdigit : digit ∈ significant base number) : digit < base :=
  Nat.digits_lt_base hbase (List.mem_reverse.mp hdigit)

@[simp]
theorem leadingZeros_zero_cons (digits : List ℕ) :
    leadingZeros (0 :: digits) = leadingZeros digits + 1 := by
  simp [leadingZeros]

theorem leadingZeros_cons_of_ne {digit : ℕ} (hdigit : digit ≠ 0) (digits : List ℕ) :
    leadingZeros (digit :: digits) = 0 := by
  simp [leadingZeros, hdigit]

theorem leadingZeros_replicate_append (zeros : ℕ) (digits : List ℕ) :
    leadingZeros (List.replicate zeros 0 ++ digits) = zeros + leadingZeros digits := by
  induction zeros with
  | zero => simp
  | succ zeros ih =>
      rw [List.replicate_succ, List.cons_append, leadingZeros_zero_cons, ih]
      omega

/-- The digits of a number have no leading zero. -/
@[simp]
theorem leadingZeros_significant (number : ℕ) : leadingZeros (significant base number) = 0 := by
  by_cases hnumber : number = 0
  · simp [hnumber, significant, leadingZeros]
  · have hlast := Nat.getLast_digit_ne_zero base hnumber
    cases hdigits : significant base number with
    | nil => rfl
    | cons digit digits =>
        apply leadingZeros_cons_of_ne
        have hreverse : Nat.digits base number = digits.reverse ++ [digit] := by
          rw [← List.reverse_cons, ← hdigits, significant, List.reverse_reverse]
        simpa [hreverse] using hlast

/-- A numeral is its leading zeros and the digits of its value. -/
theorem eq_zeros_significant (hbase : 1 < base) {digits : List ℕ}
    (hdigits : ∀ digit ∈ digits, digit < base) :
    digits = List.replicate (leadingZeros digits) 0 ++ significant base (value base digits) := by
  induction digits with
  | nil => simp [leadingZeros, significant]
  | cons digit digits ih =>
      by_cases hzero : digit = 0
      · subst hzero
        have htail := ih fun other hother => hdigits other (List.mem_cons_of_mem _ hother)
        rw [leadingZeros_zero_cons, value_zero_cons, List.replicate_succ, List.cons_append, ← htail]
      · have hexact : Nat.digits base (Nat.ofDigits base (digit :: digits).reverse) =
            (digit :: digits).reverse := by
          apply Nat.digits_ofDigits base hbase
          · exact fun other hother => hdigits other (List.mem_reverse.mp hother)
          · intro hnonempty
            simpa using hzero
        rw [leadingZeros_cons_of_ne hzero, significant, value, hexact, List.reverse_reverse]
        rfl

/-- A numeral is determined by its leading zeros and its value. -/
theorem eq_of_leadingZeros_of_value (hbase : 1 < base) {left right : List ℕ}
    (hleft : ∀ digit ∈ left, digit < base) (hright : ∀ digit ∈ right, digit < base)
    (hzeros : leadingZeros left = leadingZeros right) (hvalue : value base left = value base right) :
    left = right := by
  rw [eq_zeros_significant hbase hleft, eq_zeros_significant hbase hright, hzeros, hvalue]

theorem length_eq (hbase : 1 < base) {digits : List ℕ}
    (hdigits : ∀ digit ∈ digits, digit < base) :
    digits.length = leadingZeros digits + (significant base (value base digits)).length := by
  have hlength := congrArg List.length (eq_zeros_significant hbase hdigits)
  simpa using hlength

/-- Numerals of one length are determined by their values. -/
theorem eq_of_length_of_value (hbase : 1 < base) {left right : List ℕ}
    (hleft : ∀ digit ∈ left, digit < base) (hright : ∀ digit ∈ right, digit < base)
    (hlength : left.length = right.length) (hvalue : value base left = value base right) :
    left = right := by
  apply List.reverse_injective
  exact Nat.ofDigits_inj_of_len_eq hbase (by simpa using hlength)
    (fun digit hdigit => hleft digit (List.mem_reverse.mp hdigit))
    (fun digit hdigit => hright digit (List.mem_reverse.mp hdigit)) hvalue

/-- Digits of one length are ordered as their values are. -/
theorem lt_iff_value_lt {A : Type*} [DecidableEq A] [LT A] (toNat : A → ℕ) (hbase : 1 < base)
    (hlt : ∀ first second, first < second ↔ toNat first < toNat second)
    (hinjective : Function.Injective toNat) (hdigit : ∀ digit, toNat digit < base)
    {left right : List A} (hlength : left.length = right.length) :
    left < right ↔ value base (left.map toNat) < value base (right.map toNat) := by
  have hvalue : ∀ (digit : A) (digits : List A), value base ((digit :: digits).map toNat) =
      toNat digit * base ^ digits.length + value base (digits.map toNat) := by
    intro digit digits
    rw [List.map_cons, show toNat digit :: digits.map toNat = [toNat digit] ++ digits.map toNat
      from rfl, value_append, List.length_map]
    simp [value]
  have hbound : ∀ digits : List A, value base (digits.map toNat) < base ^ digits.length := by
    intro digits
    have hvalueLt := @value_lt base hbase (digits.map toNat) fun digit hmember => by
      obtain ⟨original, -, rfl⟩ := List.mem_map.mp hmember
      exact hdigit original
    rwa [List.length_map] at hvalueLt
  induction left generalizing right with
  | nil => cases right with
      | nil => simp
      | cons digit digits => simp at hlength
  | cons first left ih =>
      cases right with
      | nil => simp at hlength
      | cons second right =>
          have htail : left.length = right.length := by simpa using hlength
          have hrest := ih htail
          rw [List.cons_lt_cons_iff, hvalue, hvalue, htail, hlt]
          simp only [hrest]
          have hleft := hbound left
          have hright := hbound right
          rw [htail] at hleft
          constructor
          · rintro (hless | ⟨rfl, hless⟩)
            · calc toNat first * base ^ right.length + value base (left.map toNat)
                  < toNat first * base ^ right.length + base ^ right.length :=
                    Nat.add_lt_add_left hleft _
                _ = (toNat first + 1) * base ^ right.length := by ring
                _ ≤ toNat second * base ^ right.length := Nat.mul_le_mul_right _ hless
                _ ≤ _ := Nat.le_add_right _ _
            · exact Nat.add_lt_add_left hless _
          · intro hless
            rcases lt_trichotomy (toNat first) (toNat second) with hfirst | hsame | hlarger
            · exact .inl hfirst
            · rw [hsame] at hless
              exact .inr ⟨hinjective hsame, Nat.lt_of_add_lt_add_left hless⟩
            · exfalso
              have hover : toNat second * base ^ right.length + value base (right.map toNat) <
                  toNat first * base ^ right.length := by
                calc toNat second * base ^ right.length + value base (right.map toNat)
                    < toNat second * base ^ right.length + base ^ right.length :=
                      Nat.add_lt_add_left hright _
                  _ = (toNat second + 1) * base ^ right.length := by ring
                  _ ≤ _ := Nat.mul_le_mul_right _ hlarger
              omega

end LogosRln.Positional
