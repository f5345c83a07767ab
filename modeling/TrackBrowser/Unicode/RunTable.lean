/-
Module: TrackBrowser.Unicode.RunTable
Purpose: Tables that assign a value to every code point, stored as runs of equal values.
-/

/-!
A property of characters rarely changes from one code point to the next, so its table is kept as
the list of places where the value changes.  `RunTable.lookup?` finds the run of a code point by
bisection.  Tables are written down as text: the length of each run in lower-case hexadecimal
digits, followed by a code of fixed width for the value.
-/

namespace TrackBrowser.Unicode

/-- The runs of a table in ascending order.  A run starts at its first component and lasts until
the next run starts. -/
structure RunTable (α : Type) where
  runs : Array (Nat × α)

namespace RunTable

variable {α : Type}

/-- The index of the last run in `[low, high)` that starts at or before `point`, given that the
run before `low` does. -/
def bisect (runs : Array (Nat × α)) (point : Nat) (low high : Nat) : Nat :=
  if low < high then
    let middle := (low + high) / 2
    match runs[middle]? with
    | some (start, _) =>
      if start ≤ point then bisect runs point (middle + 1) high else bisect runs point low middle
    | none => low - 1
  else low - 1
termination_by high - low

/-- The value of the run that holds `point`. -/
def lookup? (table : RunTable α) (point : Nat) : Option α :=
  (table.runs[bisect table.runs point 0 table.runs.size]?).map (·.2)

end RunTable

/-- The value of a lower-case hexadecimal digit. -/
def hexDigit? (c : Char) : Option Nat :=
  if '0' ≤ c ∧ c ≤ '9' then some (c.toNat - '0'.toNat)
  else if 'a' ≤ c ∧ c ≤ 'f' then some (c.toNat - 'a'.toNat + 10)
  else none

/-- Reads run lengths and value codes of `width` characters; `start` is where the current run
starts and `length` the part of its length read so far. -/
def readRuns (width : Nat) : (fuel : Nat) → (start length : Nat) → List Char →
    Array (Nat × String) → Array (Nat × String)
  | 0, _, _, _, runs => runs
  | _ + 1, _, _, [], runs => runs
  | fuel + 1, start, length, c :: rest, runs =>
    match hexDigit? c with
    | some digit => readRuns width fuel start (16 * length + digit) rest runs
    | none =>
      let code := String.ofList ((c :: rest).take width)
      readRuns width fuel (start + length) 0 ((c :: rest).drop width) (runs.push (start, code))

/-- The table written in `lines`, with value codes of `width` characters. -/
def RunTable.ofLines (width : Nat) (lines : List String) : RunTable String :=
  let text := (lines.map String.toList).flatten
  ⟨readRuns width text.length 0 0 text #[]⟩

/-- Reads the lengths of alternating runs, which are separated by blanks. -/
def readLengths : (start length : Nat) → (inside : Bool) → List Char → Array (Nat × Bool) →
    Array (Nat × Bool)
  | start, _, inside, [], runs => runs.push (start, inside)
  | start, length, inside, c :: rest, runs =>
    match hexDigit? c with
    | some digit => readLengths start (16 * length + digit) inside rest runs
    | none => readLengths (start + length) 0 (!inside) rest (runs.push (start, inside))

/-- A set of code points, written as the lengths of its alternating gaps and runs.  Code points
after the last run are outside. -/
def RunTable.ofLengths (lines : List String) : RunTable Bool :=
  let text := (lines.map fun line => line.toList ++ [' ']).flatten
  ⟨readLengths 0 0 false text #[]⟩

/-- Membership of a code point in a set. -/
def RunTable.contains (table : RunTable Bool) (point : Nat) : Bool :=
  (table.lookup? point).getD false

end TrackBrowser.Unicode
