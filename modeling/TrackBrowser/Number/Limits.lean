/-
Module: TrackBrowser.Number.Limits
Purpose: The limits of numbers with 64 bits, and sums that stay within them.
-/

namespace TrackBrowser

/-- The number of counts that 64 bits hold. -/
def countLimit : Nat := 0x10000000000000000

/-- The largest signed number of 64 bits. -/
def largestSigned : Int := 0x7fffffffffffffff

/-- The smallest signed number of 64 bits. -/
def smallestSigned : Int := -0x8000000000000000

/-- The sum of two counts of 64 bits, which starts over at the limit. -/
def addWrapping (first second : Nat) : Nat :=
  (first + second) % countLimit

/-- The sum of a list of counts of 64 bits. -/
def sumWrapping (counts : List Nat) : Nat :=
  counts.foldl addWrapping 0

end TrackBrowser
