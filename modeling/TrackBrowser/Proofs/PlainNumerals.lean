/-
Module: TrackBrowser.Proofs.PlainNumerals
Purpose: Which numerals are written back as they were read.
-/
import TrackBrowser.Number.Numeral
import Mathlib.Data.List.Induction

/-!
A run of digits is the numeral of its value unless there are zeros in front of it.  So an integer
that is read from a text is written back as that text when there is no plus, no zero in front of
other digits, and no minus in front of a zero.
-/

namespace TrackBrowser.Text

/-! ### Digits -/

theorem digits_of_lt {n : Nat} (small : n < 10) : digits n = [digitChar n] := by
  rw [digits, if_pos small]

theorem digits_of_le {n : Nat} (large : 10 ≤ n) :
    digits n = digits (n / 10) ++ [digitChar (n % 10)] := by
  rw [digits, if_neg (Nat.not_lt.mpr large)]

theorem digits_ne_nil (n : Nat) : digits n ≠ [] := by
  rcases Nat.lt_or_ge n 10 with small | large
  · rw [digits_of_lt small]
    exact List.cons_ne_nil _ _
  · rw [digits_of_le large]
    exact List.append_ne_nil_of_right_ne_nil _ (List.cons_ne_nil _ _)

/-- The ten digits are what `isDigit` accepts, and have their values. -/
theorem digitChar_spec {n : Nat} (small : n < 10) :
    isDigit (digitChar n) = true ∧ digitValue (digitChar n) = n := by
  have all : ∀ n ∈ List.range 10, isDigit (digitChar n) = true ∧ digitValue (digitChar n) = n := by
    decide
  exact all n (List.mem_range.mpr small)

theorem digitChar_digitValue {c : Char} (digit : isDigit c = true) :
    digitValue c < 10 ∧ digitChar (digitValue c) = c := by
  rw [isDigit, Bool.and_eq_true, decide_eq_true_iff, decide_eq_true_iff, Char.le_def, Char.le_def,
    UInt32.le_iff_toNat_le, UInt32.le_iff_toNat_le] at digit
  obtain ⟨low, high⟩ := digit
  change 48 ≤ c.toNat at low
  change c.toNat ≤ 57 at high
  refine ⟨?_, ?_⟩
  · change c.toNat - 48 < 10
    omega
  · change Char.ofNat (48 + (c.toNat - 48)) = c
    rw [Nat.add_sub_cancel' low, Char.ofNat_toNat]

/-- What holds of the ten digits holds of every character that is a digit. -/
theorem of_isDigit (holds : Char → Bool) (all : ∀ n ∈ List.range 10, holds (digitChar n) = true)
    {c : Char} (digit : isDigit c = true) : holds c = true := by
  obtain ⟨small, same⟩ := digitChar_digitValue digit
  rw [← same]
  exact all _ (List.mem_range.mpr small)

theorem isDigit_of_mem_digits {n : Nat} : ∀ c ∈ digits n, isDigit c = true := by
  induction n using Nat.strongRecOn with
  | ind n ih =>
    intro c member
    rcases Nat.lt_or_ge n 10 with small | large
    · rw [digits_of_lt small, List.mem_singleton] at member
      rw [member]
      exact (digitChar_spec small).1
    · rw [digits_of_le large, List.mem_append, List.mem_singleton] at member
      rcases member with member | rfl
      · exact ih (n / 10) (by omega) c member
      · exact (digitChar_spec (Nat.mod_lt n (by decide))).1

theorem head?_digits_of_le {n : Nat} (large : 10 ≤ n) :
    (digits n).head? = (digits (n / 10)).head? := by
  rw [digits_of_le large, List.head?_append]
  cases first : digits (n / 10) with
  | nil => exact absurd first (digits_ne_nil _)
  | cons => rfl

/-- Only the numeral of zero starts with a zero. -/
theorem head?_digits {n : Nat} (positive : 0 < n) : (digits n).head? ≠ some '0' := by
  induction n using Nat.strongRecOn with
  | ind n ih =>
    rcases Nat.lt_or_ge n 10 with small | large
    · intro zero
      rw [digits_of_lt small, List.head?_cons, Option.some.injEq] at zero
      have value := (digitChar_spec small).2
      rw [zero] at value
      exact absurd value.symm (Nat.ne_of_gt positive)
    · rw [head?_digits_of_le large]
      exact ih (n / 10) (by omega) (by omega)

theorem valueOf_concat (text : List Char) (c : Char) :
    valueOf (text ++ [c]) = 10 * valueOf text + digitValue c := by
  rw [valueOf, List.foldl_append]
  rfl

/-- Zeros in front of a run of digits make no difference to its value. -/
theorem valueOf_zeros (zeros : Nat) (text : List Char) :
    valueOf (List.replicate zeros '0' ++ text) = valueOf text := by
  induction zeros with
  | zero => rfl
  | succ zeros ih => exact ih

/-- A number is read from its digits. -/
theorem valueOf_digits (n : Nat) : valueOf (digits n) = n := by
  induction n using Nat.strongRecOn with
  | ind n ih =>
    rcases Nat.lt_or_ge n 10 with small | large
    · have single := valueOf_concat [] (digitChar n)
      rw [(digitChar_spec small).2] at single
      rw [digits_of_lt small]
      exact single.trans (Nat.zero_add n)
    · rw [digits_of_le large, valueOf_concat, ih (n / 10) (by omega),
        (digitChar_spec (Nat.mod_lt n (by decide))).2]
      exact Nat.div_add_mod n 10

/-! ### Digits filled up with zeros -/

theorem isDigit_of_mem_paddedDigits {width n : Nat} :
    ∀ c ∈ paddedDigits width n, isDigit c = true := by
  intro c member
  rcases List.mem_append.mp member with zero | digit
  · rw [List.eq_of_mem_replicate zero]
    rfl
  · exact isDigit_of_mem_digits c digit

theorem paddedDigits_ne_nil (width n : Nat) : paddedDigits width n ≠ [] :=
  List.append_ne_nil_of_right_ne_nil _ (digits_ne_nil n)

theorem valueOf_paddedDigits (width n : Nat) : valueOf (paddedDigits width n) = n := by
  rw [paddedDigits, valueOf_zeros, valueOf_digits]

/-- Numbers below a power of ten have at most that many digits. -/
theorem length_digits_le {width n : Nat} (some_digit : 0 < width) (fits : n < Nat.pow 10 width) :
    (digits n).length ≤ width := by
  induction width generalizing n with
  | zero => exact absurd some_digit (Nat.lt_irrefl 0)
  | succ width ih =>
    rcases Nat.lt_or_ge n 10 with small | large
    · rw [digits_of_lt small]
      exact some_digit
    · have wider : 0 < width := by
        rcases Nat.eq_zero_or_pos width with rfl | positive
        · exact absurd fits (Nat.not_lt.mpr large)
        · exact positive
      have quotient : n / 10 < Nat.pow 10 width :=
        Nat.div_lt_of_lt_mul (Nat.mul_comm _ 10 ▸ fits)
      rw [digits_of_le large, List.length_append, List.length_singleton]
      exact Nat.succ_le_succ (ih wider quotient)

theorem length_paddedDigits {width n : Nat} (some_digit : 0 < width) (fits : n < Nat.pow 10 width) :
    (paddedDigits width n).length = width := by
  rw [paddedDigits, List.length_append, List.length_replicate,
    Nat.sub_add_cancel (length_digits_le some_digit fits)]

/-- A run of digits without zeros in front of it: what numbers are written as. -/
structure PlainDigits (text : List Char) : Prop where
  some_digit : text ≠ []
  all_digits : ∀ c ∈ text, isDigit c = true
  no_spare_zero : text.head? = some '0' → text = ['0']

theorem plainDigits_digits (n : Nat) : PlainDigits (digits n) := by
  refine ⟨digits_ne_nil n, isDigit_of_mem_digits, ?_⟩
  intro zero
  rcases Nat.eq_zero_or_pos n with rfl | positive
  · rw [digits_of_lt (by decide)]
    rfl
  · exact absurd zero (head?_digits positive)

/-- A run of digits without zeros in front of it is the numeral of its value. -/
theorem digits_valueOf {text : List Char} (plain : PlainDigits text) :
    digits (valueOf text) = text := by
  induction text using List.reverseRecOn with
  | nil => exact absurd rfl plain.some_digit
  | append_singleton before c ih =>
    obtain ⟨small, digit⟩ := digitChar_digitValue (plain.all_digits c (by simp))
    rw [valueOf_concat]
    by_cases alone : before = []
    · subst alone
      rw [List.nil_append]
      change digits (0 + digitValue c) = [c]
      rw [Nat.zero_add, digits_of_lt small, digit]
    · have head : (before ++ [c]).head? = before.head? := by
        cases before with
        | nil => exact absurd rfl alone
        | cons => rfl
      -- The digits before the last one have no zero in front either, and they are not just a zero.
      have not_zero : before.head? ≠ some '0' := by
        intro zero
        have single := congrArg List.length (plain.no_spare_zero (head.trans zero))
        have some_before := List.length_pos_iff.mpr alone
        rw [List.length_append, List.length_singleton, List.length_singleton] at single
        omega
      have rest : digits (valueOf before) = before := by
        apply ih
        refine ⟨alone, fun d member => plain.all_digits d (List.mem_append_left _ member), ?_⟩
        intro zero
        exact absurd zero not_zero
      have positive : 0 < valueOf before := by
        apply Nat.pos_of_ne_zero
        intro zero
        rw [zero, digits_of_lt (by decide)] at rest
        rw [← rest] at not_zero
        exact not_zero rfl
      have quotient : (10 * valueOf before + digitValue c) / 10 = valueOf before := by omega
      have remainder : (10 * valueOf before + digitValue c) % 10 = digitValue c := by omega
      rw [digits_of_le (by omega), quotient, remainder, rest, digit]

theorem digits_valueOf_eq_iff {text : List Char} :
    digits (valueOf text) = text ↔ PlainDigits text := by
  refine ⟨?_, digits_valueOf⟩
  intro same
  rw [← same]
  exact plainDigits_digits _

/-- Digits start with no sign. -/
theorem PlainDigits.head_ne_sign {sign : Char} {rest : List Char}
    (plain : PlainDigits (sign :: rest)) : sign ≠ '+' ∧ sign ≠ '-' := by
  have digit := plain.all_digits sign List.mem_cons_self
  constructor
  · rintro rfl
    cases digit
  · rintro rfl
    cases digit

/-- What integers are written as: digits without zeros in front of them, after a minus unless they
are zero. -/
def PlainInteger (text : List Char) : Prop :=
  PlainDigits text ∨
    ∃ magnitude, text = '-' :: magnitude ∧ PlainDigits magnitude ∧ magnitude ≠ ['0']

end TrackBrowser.Text

namespace TrackBrowser.Numeral

open Text

/-- The value of digits, if there are any. -/
theorem natural?_of_digits {text : List Char} (some_digit : text ≠ [])
    (all_digits : ∀ c ∈ text, isDigit c = true) : natural? text = some (valueOf text) := by
  have nonempty : text.isEmpty = false := by simpa using some_digit
  rw [natural?, nonempty, List.all_eq_true.mpr all_digits]
  rfl

theorem natural?_eq_some {text : List Char} {value : Nat} (read : natural? text = some value) :
    value = valueOf text ∧ text ≠ [] ∧ ∀ c ∈ text, isDigit c = true := by
  rw [natural?] at read
  split at read
  · rename_i digits
    rw [Bool.and_eq_true, List.all_eq_true] at digits
    exact ⟨(Option.some.inj read).symm, by simpa using digits.1, digits.2⟩
  · cases read

/-- The numeral of an integer that is not negative. -/
theorem toList_decimalInt_natCast (value : Nat) :
    (decimalInt (value : Int)).toList = digits value := by
  rw [decimalInt, if_neg (by omega), Int.natAbs_natCast, decimal, String.toList_ofList]

/-- The numeral of an integer below zero. -/
theorem toList_decimalInt_neg {value : Nat} (positive : 0 < value) :
    (decimalInt (-(value : Int))).toList = '-' :: digits value := by
  have negative : -(value : Int) < 0 := by omega
  rw [decimalInt, if_pos negative, Int.natAbs_neg, Int.natAbs_natCast, String.toList_append,
    decimal]
  simp

/-- A text is a sign and what follows it, or has no sign. -/
theorem splitSign_cases (text : List Char) :
    text = '-' :: (splitSign text).2 ∧ (splitSign text).1 = true ∨
      (text = '+' :: (splitSign text).2 ∨ text = (splitSign text).2) ∧
        (splitSign text).1 = false := by
  unfold splitSign
  split
  · exact .inl ⟨rfl, rfl⟩
  · exact .inr ⟨.inl rfl, rfl⟩
  · exact .inr ⟨.inr rfl, rfl⟩

/-- An integer is read from digits after a minus, after a plus, or without a sign. -/
theorem integer?_eq_some {text : List Char} {value : Int} (read : integer? text = some value) :
    ∃ digits, digits ≠ [] ∧ (∀ c ∈ digits, isDigit c = true) ∧
      ((text = '-' :: digits ∧ value = -(valueOf digits : Int)) ∨
        ((text = '+' :: digits ∨ text = digits) ∧ value = (valueOf digits : Int))) := by
  have parts := splitSign_cases text
  rw [integer?] at read
  generalize splitSign text = split at parts read
  obtain ⟨negative, digits⟩ := split
  obtain ⟨magnitude, natural, ranged⟩ := Option.bind_eq_some_iff.mp read
  obtain ⟨rfl, some_digit, all_digits⟩ := natural?_eq_some natural
  refine ⟨digits, some_digit, all_digits, ?_⟩
  have signed : (if negative = true then -(valueOf digits : Int) else valueOf digits) = value :=
    Option.some.inj (Option.ite_none_right_eq_some.mp ranged).2
  rcases parts with ⟨minus, rfl⟩ | ⟨bare, rfl⟩
  · exact .inl ⟨minus, signed.symm⟩
  · exact .inr ⟨bare, signed.symm⟩

/-- An integer is written back as it was read if it was read from a plain numeral. -/
theorem decimalInt_eq_iff {text : List Char} {value : Int} (read : integer? text = some value) :
    (decimalInt value).toList = text ↔ PlainInteger text := by
  obtain ⟨digits, some_digit, all_digits, ⟨rfl, rfl⟩ | ⟨rfl | rfl, rfl⟩⟩ := integer?_eq_some read
  · have plain : PlainInteger ('-' :: digits) ↔ PlainDigits digits ∧ digits ≠ ['0'] := by
      constructor
      · rintro (plain | ⟨magnitude, same, plain⟩)
        · exact absurd rfl plain.head_ne_sign.2
        · rw [(List.cons.inj same).2]
          exact plain
      · intro plain
        exact .inr ⟨digits, rfl, plain⟩
    rw [plain, ← digits_valueOf_eq_iff]
    rcases Nat.eq_zero_or_pos (valueOf digits) with zero | positive
    · -- A zero has no minus in front when it is written.
      have zero_digits : Text.digits 0 = ['0'] := digits_of_lt (by decide)
      rw [zero, Int.natCast_zero, Int.neg_zero, ← Int.natCast_zero, toList_decimalInt_natCast,
        zero_digits]
      constructor
      · intro same
        cases (List.cons.inj same).1
      · rintro ⟨same, other⟩
        exact absurd same.symm other
    · rw [toList_decimalInt_neg positive]
      constructor
      · intro same
        refine ⟨(List.cons.inj same).2, ?_⟩
        rintro rfl
        exact absurd positive (by decide)
      · rintro ⟨same, _⟩
        rw [same]
  · rw [toList_decimalInt_natCast]
    constructor
    · intro same
      have plain := plainDigits_digits (valueOf digits)
      rw [same] at plain
      exact absurd rfl plain.head_ne_sign.1
    · rintro (plain | ⟨magnitude, same, _⟩)
      · exact absurd rfl plain.head_ne_sign.1
      · cases (List.cons.inj same).1
  · rw [toList_decimalInt_natCast, digits_valueOf_eq_iff]
    constructor
    · exact .inl
    · rintro (plain | ⟨magnitude, rfl, _⟩)
      · exact plain
      · have sign := all_digits '-' List.mem_cons_self
        cases sign

end TrackBrowser.Numeral
