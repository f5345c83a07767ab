/-
Module: TrackBrowser.Proofs.Cursor.Moves
Purpose: Moves that wrap are additions modulo the number of rows; the others stop at the ends.
-/
import Mathlib.Algebra.BigOperators.Group.List.Basic
import TrackBrowser.Proofs.Cursor.Checked

/-!
A move first looks whether it stays in the list and only then at the wrapping, and the sum that it
aims at is cut down to the limits of signed numbers.  None of this is seen in where the cursor ends:
`move_index_of_wrap` is one law for moves of every sign and size, as long as the sum fits, and from
it a run of moves goes where the sum of them goes.  Without wrapping no sum has to fit, because the
limits lie outside of every list of at most `maxRows` rows.
-/

namespace TrackBrowser

/-- A number that 64 bits hold with a sign. -/
def FitsSigned (number : Int) : Prop :=
  smallestSigned ≤ number ∧ number ≤ largestSigned

instance (number : Int) : Decidable (FitsSigned number) :=
  inferInstanceAs (Decidable (_ ∧ _))

/-- A sum that fits is not cut down. -/
theorem addSaturating_eq {a b : Int} (fits : FitsSigned (a + b)) : addSaturating a b = a + b := by
  obtain ⟨low, high⟩ := fits
  rw [addSaturating, clampInt, min_eq_right high, max_eq_right low]

namespace Cursor

variable {cursor : Cursor} {size : Nat}

/-! ### One move -/

/-- Where a move ends that aims at a number, and whether it is carried out in full. -/
def landing (cursor : Cursor) (target : Int) (size : Nat) : Int × Bool :=
  if 0 ≤ target ∧ target ≤ size - 1 then (target, true)
  else if cursor.wrap then (target % size, true)
  else (clampInt 0 (size - 1) target, false)

/-- A move from a row of the list aims at the sum, cut down to the signed numbers. -/
theorem move_eq_landing (inside : cursor.index < size) (delta : Int) :
    cursor.move delta size =
      let landed := cursor.landing (addSaturating cursor.index delta) size
      ({ cursor with index := landed.1.toNat }.follow size, landed.2) := by
  have onRow : min cursor.index (size - 1) = cursor.index :=
    Nat.min_eq_left (Nat.le_sub_one_of_lt inside)
  rw [move, if_neg (Nat.ne_zero_of_lt inside), onRow]
  rfl

theorem landing_of_wrap (wraps : cursor.wrap = true) (target : Int) :
    cursor.landing target size = (target % size, true) := by
  rw [landing, if_pos wraps]
  split
  · -- A sum in the list is its own remainder.
    rename_i within
    rw [Int.emod_eq_of_lt within.1 (Int.lt_of_le_sub_one within.2)]
  · rfl

theorem landing_of_not_wrap (stops : cursor.wrap = false) (target : Int) :
    cursor.landing target size =
      (clampInt 0 (size - 1) target, decide (0 ≤ target ∧ target ≤ size - 1)) := by
  unfold landing
  split
  · rename_i within
    rw [clampInt, min_eq_right within.2, max_eq_right within.1, decide_eq_true within]
  · rename_i beyond
    rw [if_neg (by simp [stops]), decide_eq_false beyond]

theorem follow_wrap (cursor : Cursor) (size : Nat) : (cursor.follow size).wrap = cursor.wrap := by
  unfold follow
  split <;> rfl

/-- Moving does not turn wrapping off. -/
theorem move_wrap (inside : cursor.index < size) (delta : Int) :
    (cursor.move delta size).1.wrap = cursor.wrap := by
  rw [move_eq_landing inside]
  exact follow_wrap _ _

/-- A move that wraps is carried out in full, and ends on the row of the sum modulo the size. -/
theorem move_of_wrap (wraps : cursor.wrap = true) (inside : cursor.index < size) {delta : Int}
    (fits : FitsSigned (cursor.index + delta)) :
    ((cursor.move delta size).1.index : Int) = (cursor.index + delta) % size ∧
      (cursor.move delta size).2 = true := by
  have positive : (0 : Int) < size := Int.natCast_pos.mpr (Nat.zero_lt_of_lt inside)
  have natural := Int.emod_nonneg (cursor.index + delta) (Int.ne_of_gt positive)
  rw [move_eq_landing inside, addSaturating_eq fits, landing_of_wrap wraps, follow_index]
  exact ⟨Int.toNat_of_nonneg natural, rfl⟩

/-- A move that does not wrap ends on the row that is nearest to the sum, and is carried out in full
if there is a row of that number. -/
theorem move_of_not_wrap (stops : cursor.wrap = false) (inside : cursor.index < size)
    (small : size ≤ maxRows) (delta : Int) :
    ((cursor.move delta size).1.index : Int) = clampInt 0 (size - 1) (cursor.index + delta) ∧
      ((cursor.move delta size).2 = true ↔
        clampInt 0 (size - 1) (cursor.index + delta) = cursor.index + delta) := by
  have above : (maxRows : Int) < largestSigned := by decide
  have below : smallestSigned < 0 := by decide
  rw [move_eq_landing inside, landing_of_not_wrap stops, follow_index, decide_eq_true_iff]
  -- What lies between the ends of the list is never cut down, and what lies beyond them stays
  -- there.
  simp only [addSaturating, clampInt]
  omega

/-! ### Moves in succession -/

/-- The cursor after one move after the other. -/
def moveEach (cursor : Cursor) (size : Nat) (deltas : List Int) : Cursor :=
  deltas.foldl (fun moved delta => (moved.move delta size).1) cursor

/-- Every move in succession aims at a number that fits, seen from the row that it starts on. -/
def AimsFit (cursor : Cursor) (size : Nat) : List Int → Prop
  | [] => True
  | delta :: rest =>
    FitsSigned (cursor.index + delta) ∧ (cursor.move delta size).1.AimsFit size rest

theorem index_lt_of_wrap (wraps : cursor.wrap = true) (inside : cursor.index < size) {delta : Int}
    (fits : FitsSigned (cursor.index + delta)) : (cursor.move delta size).1.index < size := by
  have positive : (0 : Int) < size := Int.natCast_pos.mpr (Nat.zero_lt_of_lt inside)
  have below := Int.emod_lt_of_pos (cursor.index + delta) positive
  rw [← (move_of_wrap wraps inside fits).1] at below
  exact Int.ofNat_lt.mp below

/-- Moves in succession go where their sum goes: each step adds to the row modulo the size, and the
remainders on the way do not matter. -/
theorem moveEach_of_wrap {deltas : List Int} (wraps : cursor.wrap = true)
    (inside : cursor.index < size) (fit : cursor.AimsFit size deltas) :
    ((cursor.moveEach size deltas).index : Int) = (cursor.index + deltas.sum) % size := by
  induction deltas generalizing cursor with
  | nil =>
    rw [List.sum_nil, Int.add_zero]
    exact (Int.emod_eq_of_lt (Int.natCast_nonneg _) (Int.ofNat_lt.mpr inside)).symm
  | cons delta rest ih =>
    obtain ⟨here, later⟩ := fit
    have moved := (move_of_wrap wraps inside here).1
    have still : (cursor.move delta size).1.wrap = true := (move_wrap inside delta).trans wraps
    have run := ih still (index_lt_of_wrap wraps inside here) later
    calc ((cursor.moveEach size (delta :: rest)).index : Int)
        = ((cursor.move delta size).1.index + rest.sum) % size := run
      _ = ((cursor.index + delta) % size + rest.sum) % size := by rw [moved]
      _ = (cursor.index + (delta :: rest).sum) % size := by
        rw [Int.emod_add_emod, List.sum_cons, Int.add_assoc]

/-- The arithmetic of moves.  From a row of a list of at most `maxRows` rows, a move that wraps ends
on the row of the sum modulo the size, whichever sign and size the move has, and was carried out in
full; this asks only that the sum is a signed number of 64 bits.  So moves in succession go where
their sum goes: two moves where one goes, and a move and its opposite back to the start.  A move
that does not wrap ends on the row that is nearest to the sum, whatever the sum is, and was carried
out in full exactly if the sum is that row. -/
theorem move_arithmetic (inside : cursor.index < size) (small : size ≤ maxRows) :
    (cursor.wrap = true →
      (∀ delta, FitsSigned (cursor.index + delta) →
        ((cursor.move delta size).1.index : Int) = (cursor.index + delta) % size ∧
        (cursor.move delta size).1.index < size ∧
        (cursor.move delta size).2 = true) ∧
      (∀ deltas, cursor.AimsFit size deltas →
        ((cursor.moveEach size deltas).index : Int) = (cursor.index + deltas.sum) % size) ∧
      (∀ first second, cursor.AimsFit size [first, second] →
        FitsSigned (cursor.index + (first + second)) →
        ((cursor.move first size).1.move second size).1.index =
          (cursor.move (first + second) size).1.index) ∧
      (∀ delta, cursor.AimsFit size [delta, -delta] →
        ((cursor.move delta size).1.move (-delta) size).1.index = cursor.index)) ∧
    (cursor.wrap = false → ∀ delta,
      ((cursor.move delta size).1.index : Int) = clampInt 0 (size - 1) (cursor.index + delta) ∧
      ((cursor.move delta size).2 = true ↔
        clampInt 0 (size - 1) (cursor.index + delta) = cursor.index + delta)) := by
  constructor
  · intro wraps
    refine ⟨?_, ?_, ?_, ?_⟩
    · intro delta fits
      obtain ⟨row, complied⟩ := move_of_wrap wraps inside fits
      exact ⟨row, index_lt_of_wrap wraps inside fits, complied⟩
    · intro deltas fit
      exact moveEach_of_wrap wraps inside fit
    · intro first second fit fits
      have two := moveEach_of_wrap wraps inside fit
      have one := (move_of_wrap wraps inside fits).1
      rw [List.sum_cons, List.sum_singleton] at two
      exact Int.ofNat_inj.mp (two.trans one.symm)
    · intro delta fit
      have back := moveEach_of_wrap wraps inside fit
      have start : (cursor.index : Int) % size = cursor.index :=
        Int.emod_eq_of_lt (Int.natCast_nonneg _) (Int.ofNat_lt.mpr inside)
      rw [List.sum_cons, List.sum_singleton, Int.add_right_neg, Int.add_zero, start] at back
      exact Int.ofNat_inj.mp back
  · intro stops delta
    exact move_of_not_wrap stops inside small delta

/-- A cursor that wraps, on the last but one of five rows. -/
def nearEnd : Cursor :=
  { index := 3, wrap := true }

/-- Up by eleven rows goes around the five rows twice and ends on the third; down by four and up by
fifteen is the same move, and up by eleven leads back.  Without wrapping it ends at the top. -/
theorem move_arithmetic_nearEnd :
    nearEnd.index < 5 ∧ 5 ≤ maxRows ∧ nearEnd.wrap = true ∧
      (nearEnd.move (-11) 5).1.index = 2 ∧ (nearEnd.move (-11) 5).2 = true ∧
      ((nearEnd.move 4 5).1.move (-15) 5).1.index = 2 ∧
      ((nearEnd.move (-11) 5).1.move 11 5).1.index = 3 ∧
      ((nearEnd.setWrap false).move (-11) 5).1.index = 0 ∧
      ((nearEnd.setWrap false).move (-11) 5).2 = false := by
  have inside : nearEnd.index < 5 := by decide
  have small : 5 ≤ maxRows := by decide
  obtain ⟨around, _, two, back⟩ := (move_arithmetic inside small).1 rfl
  obtain ⟨row, _, complied⟩ := around (-11) (by decide)
  have direct : (nearEnd.move (-11) 5).1.index = 2 := Int.ofNat_inj.mp row
  have detour := two 4 (-15) ⟨by decide, by decide, trivial⟩ (by decide)
  have undone := back (-11) ⟨by decide, by decide, trivial⟩
  have stays : (nearEnd.setWrap false).index < 5 := inside
  obtain ⟨top, full⟩ := (move_arithmetic stays small).2 rfl (-11)
  refine ⟨inside, small, rfl, direct, complied, detour.trans direct, undone,
    Int.ofNat_inj.mp top, ?_⟩
  exact Bool.eq_false_iff.mpr fun carried => absurd (full.mp carried) (by decide)

end Cursor

end TrackBrowser
