/-
Module: TrackBrowser.Proofs.Durations
Purpose: Durations are read back from the texts that show them.
-/
import Mathlib.Algebra.GroupWithZero.Nat
import TrackBrowser.Proofs.PlainNumerals
import TrackBrowser.Track.Duration

/-!
A duration is shown on a clock, as minutes and two digits of seconds, and a total in words, each a
number with the letter of its unit.  Both texts are cut at a character that no number contains, and
the parts are read as numbers.  Zeros in front of a number do not change it, so what is read are the
numbers that were written, and the duration is their sum in seconds.
-/

namespace TrackBrowser

open Numeral (natural?)
open Text (digits isDigit paddedDigits valueOf)

/-- A character that is no digit is not in a numeral. -/
theorem not_mem_of_digits {c : Char} {text : List Char} (plain : isDigit c = false)
    (all_digits : ∀ d ∈ text, isDigit d = true) : c ∉ text := by
  intro member
  rw [all_digits c member] at plain
  cases plain

/-! ### Clock texts -/

theorem toList_clockText (seconds : Nat) :
    (clockText (some seconds)).toList =
      digits (seconds / 60) ++ ':' :: paddedDigits 2 (seconds % 60) := by
  simp [clockText]

theorem length_paddedDigits_seconds (seconds : Nat) :
    (paddedDigits 2 (seconds % 60)).length = 2 :=
  Text.length_paddedDigits (by decide) (Nat.lt_trans (Nat.mod_lt _ (by decide)) (by decide))

/-- Reads minutes and seconds from a clock text.  The seconds have two digits. -/
def readClock? (text : String) : Option (Nat × Nat) :=
  match text.toList.splitOn ':' with
  | [minutes, seconds] =>
    if seconds.length = 2 then return (← natural? minutes, ← natural? seconds) else none
  | _ => none

theorem readClock?_clockText (time : Nat) :
    readClock? (clockText (some time)) = some (time / 60, time % 60) := by
  have minutes := Text.isDigit_of_mem_digits (n := time / 60)
  have seconds := @Text.isDigit_of_mem_paddedDigits 2 (time % 60)
  have parts : (clockText (some time)).toList =
      [':'].intercalate [digits (time / 60), paddedDigits 2 (time % 60)] := by
    simp [toList_clockText, List.intercalate]
  have split : (clockText (some time)).toList.splitOn ':' =
      [digits (time / 60), paddedDigits 2 (time % 60)] := by
    rw [parts]
    apply List.splitOn_intercalate
    · intro part member
      rcases List.mem_cons.mp member with rfl | last
      · exact not_mem_of_digits rfl minutes
      · rw [List.mem_singleton.mp last]
        exact not_mem_of_digits rfl seconds
    · exact List.cons_ne_nil _ _
  rw [readClock?, split]
  dsimp only
  rw [if_pos (length_paddedDigits_seconds time),
    Numeral.natural?_of_digits (Text.digits_ne_nil _) minutes,
    Numeral.natural?_of_digits (Text.paddedDigits_ne_nil _ _) seconds, Text.valueOf_digits,
    Text.valueOf_paddedDigits]
  rfl

/-- Dashes are no clock text. -/
theorem readClock?_unknown : readClock? (clockText none) = none := by
  decide

/-- Durations that are shown by the same text are the same. -/
theorem clockText_injective : Function.Injective clockText := by
  intro time other same
  have read := congrArg readClock? same
  cases time with
  | none =>
    cases other with
    | none => rfl
    | some other =>
      rw [readClock?_unknown, readClock?_clockText] at read
      cases read
  | some time =>
    cases other with
    | none =>
      rw [readClock?_unknown, readClock?_clockText] at read
      cases read
    | some other =>
      rw [readClock?_clockText, readClock?_clockText, Option.some.injEq, Prod.mk.injEq] at read
      rw [← Nat.div_add_mod time 60, ← Nat.div_add_mod other 60, read.1, read.2]

/-! ### Totals in words -/

/-- A number of hours, minutes or seconds, with the letter of the unit. -/
structure Quantity where
  amount : Nat
  unit : Char
  deriving DecidableEq, Repr, Inhabited

/-- The seconds in a quantity. -/
def Quantity.seconds (quantity : Quantity) : Nat :=
  match quantity.unit with
  | 'h' => 3600 * quantity.amount
  | 'm' => 60 * quantity.amount
  | 's' => quantity.amount
  | _ => 0

/-- Reads a quantity from a word: digits and the letter of a unit. -/
def readQuantity? (word : List Char) : Option Quantity :=
  return ⟨← natural? word.dropLast, ← word.getLast?⟩

/-- Reads the quantities in a text such as `1h 05m 30s`. -/
def readQuantities? (text : String) : Option (List Quantity) :=
  (text.toList.splitOn ' ').mapM readQuantity?

/-- A quantity as it is written: a numeral, and the letter of the unit. -/
structure Written where
  numeral : List Char
  unit : Char

namespace Written

/-- A word with at least one digit before its letter. -/
structure Proper (written : Written) : Prop where
  some_digit : written.numeral ≠ []
  all_digits : ∀ c ∈ written.numeral, isDigit c = true
  unit : written.unit ≠ ' '

/-- The word that is written. -/
def word (written : Written) : List Char :=
  written.numeral ++ [written.unit]

/-- What the word says. -/
def quantity (written : Written) : Quantity :=
  ⟨valueOf written.numeral, written.unit⟩

theorem readQuantity?_word {written : Written} (proper : written.Proper) :
    readQuantity? written.word = some written.quantity := by
  rw [readQuantity?, word, List.dropLast_concat, List.getLast?_concat,
    Numeral.natural?_of_digits proper.some_digit proper.all_digits]
  rfl

theorem blank_not_mem_word {written : Written} (proper : written.Proper) : ' ' ∉ written.word := by
  intro member
  rcases List.mem_append.mp member with digit | unit
  · exact not_mem_of_digits rfl proper.all_digits digit
  · exact proper.unit (List.mem_singleton.mp unit).symm

/-- Words are read one by one. -/
theorem readQuantities?_words {words : List Written} (some_word : words ≠ [])
    (proper : ∀ written ∈ words, written.Proper) :
    readQuantities? (String.ofList ([' '].intercalate (words.map word))) =
      some (words.map quantity) := by
  have split : ([' '].intercalate (words.map word)).splitOn ' ' = words.map word := by
    apply List.splitOn_intercalate
    · intro part member
      obtain ⟨written, inside, rfl⟩ := List.mem_map.mp member
      exact blank_not_mem_word (proper written inside)
    · simpa using some_word
  rw [readQuantities?, String.toList_ofList, split]
  clear split some_word
  induction words with
  | nil => rfl
  | cons written words ih =>
    obtain ⟨first, others⟩ := List.forall_mem_cons.mp proper
    rw [List.map_cons, List.mapM_cons, readQuantity?_word first, ih others]
    rfl

end Written

/-- The words of a total: the units from the largest one that is not zero down to the seconds. -/
def totalWords (seconds : Nat) : List Written :=
  if 0 < seconds / 3600 then
    [⟨digits (seconds / 3600), 'h'⟩, ⟨paddedDigits 2 (seconds / 60 % 60), 'm'⟩,
      ⟨paddedDigits 2 (seconds % 60), 's'⟩]
  else if 0 < seconds / 60 % 60 then
    [⟨digits (seconds / 60 % 60), 'm'⟩, ⟨paddedDigits 2 (seconds % 60), 's'⟩]
  else [⟨digits (seconds % 60), 's'⟩]

theorem totalText_eq_words (seconds : Nat) :
    totalText seconds =
      String.ofList ([' '].intercalate ((totalWords seconds).map Written.word)) := by
  unfold totalText totalWords
  dsimp only
  split
  · simp [List.intercalate, Written.word]
  · split <;> simp [List.intercalate, Written.word]

theorem proper_totalWords (seconds : Nat) : ∀ written ∈ totalWords seconds, written.Proper := by
  have plain (n : Nat) {unit : Char} (letter : unit ≠ ' ') : Written.Proper ⟨digits n, unit⟩ :=
    ⟨Text.digits_ne_nil n, Text.isDigit_of_mem_digits, letter⟩
  have padded (n : Nat) {unit : Char} (letter : unit ≠ ' ') :
      Written.Proper ⟨paddedDigits 2 n, unit⟩ :=
    ⟨Text.paddedDigits_ne_nil 2 n, Text.isDigit_of_mem_paddedDigits, letter⟩
  unfold totalWords
  split
  · simp [plain, padded]
  · split <;> simp [plain, padded]

/-- The quantities that a total is to be shown by: the units from some one down to the seconds, with
less than sixty minutes and seconds, and no zero in front of other quantities. -/
structure ShowsTotal (quantities : List Quantity) (seconds : Nat) : Prop where
  sum : (quantities.map Quantity.seconds).sum = seconds
  some_unit : quantities ≠ []
  units : quantities.map Quantity.unit <:+ ['h', 'm', 's']
  small : ∀ quantity ∈ quantities, quantity.unit ≠ 'h' → quantity.amount < 60
  leading : ∀ first ∈ quantities.head?, first.amount = 0 → quantities = [first]

theorem showsTotal_totalWords (seconds : Nat) :
    ShowsTotal ((totalWords seconds).map Written.quantity) seconds := by
  have minutes : seconds / 60 % 60 < 60 := Nat.mod_lt _ (by decide)
  have rest : seconds % 60 < 60 := Nat.mod_lt _ (by decide)
  unfold totalWords
  split
  · rename_i hours
    simp only [List.map_cons, List.map_nil, Written.quantity, Text.valueOf_digits,
      Text.valueOf_paddedDigits]
    refine ⟨?_, List.cons_ne_nil _ _, List.suffix_refl _, ?_, ?_⟩
    · simp only [List.map_cons, List.map_nil, List.sum_cons, List.sum_nil, Quantity.seconds]
      omega
    · simp [minutes, rest]
    · rintro first ⟨⟩ zero
      exact absurd zero (Nat.ne_of_gt hours)
  · split
    · rename_i hours some_minutes
      simp only [List.map_cons, List.map_nil, Written.quantity, Text.valueOf_digits,
        Text.valueOf_paddedDigits]
      refine ⟨?_, List.cons_ne_nil _ _, List.suffix_cons _ _, ?_, ?_⟩
      · simp only [List.map_cons, List.map_nil, List.sum_cons, List.sum_nil, Quantity.seconds]
        omega
      · simp [minutes, rest]
      · rintro first ⟨⟩ zero
        exact absurd zero (Nat.ne_of_gt some_minutes)
    · rename_i hours some_minutes
      simp only [List.map_cons, List.map_nil, Written.quantity, Text.valueOf_digits]
      refine ⟨?_, List.cons_ne_nil _ _, ⟨['h', 'm'], rfl⟩, ?_, ?_⟩
      · simp only [List.map_cons, List.map_nil, List.sum_cons, List.sum_nil, Quantity.seconds]
        omega
      · simp [rest]
      · rintro first ⟨⟩ _
        rfl

/-- What is read from the text of a total shows that total. -/
theorem readQuantities?_totalText (seconds : Nat) :
    ∃ quantities, readQuantities? (totalText seconds) = some quantities ∧
      ShowsTotal quantities seconds := by
  have shows_total := showsTotal_totalWords seconds
  refine ⟨_, ?_, shows_total⟩
  rw [totalText_eq_words]
  exact Written.readQuantities?_words (by simpa using shows_total.some_unit)
    (proper_totalWords seconds)

/-- Totals that are shown by the same text are the same. -/
theorem totalText_injective : Function.Injective totalText := by
  intro seconds other same
  obtain ⟨quantities, read, shows_total⟩ := readQuantities?_totalText seconds
  obtain ⟨quantities', read', shows_other⟩ := readQuantities?_totalText other
  rw [same, read'] at read
  rw [← shows_total.sum, ← shows_other.sum, Option.some.inj read]

end TrackBrowser
