/-
Module: TrackBrowser.TrackList.Shuffling
Purpose: Random orders.
-/
import TrackBrowser.Number.Limits
import TrackBrowser.TrackList.Basic

/-!
A random order is drawn from a seed by a linear congruential generator: one element after the other
is taken out of those that are left.
-/

namespace TrackBrowser

/-- The state of a generator of random numbers. -/
structure Seed where
  state : Nat
  deriving DecidableEq, Repr, Inhabited

namespace Seed

/-- The state that follows. -/
def next (seed : Seed) : Seed :=
  ⟨(seed.state * 6364136223846793005 + 1442695040888963407) % countLimit⟩

/-- A number below a positive bound.  The high bits of the state are the more random ones. -/
def below (seed : Seed) (bound : Nat) : Nat :=
  seed.state / 0x200000000 % bound

/-- Draws `count` elements one after the other and leaves the rest in order. -/
def draw {α : Type} : (count : Nat) → Seed → List α → List α
  | 0, _, elements => elements
  | count + 1, seed, elements =>
    let index := seed.next.below elements.length
    match elements[index]? with
    | none => elements
    | some chosen => chosen :: draw count seed.next (elements.eraseIdx index)

end Seed

namespace TrackList

/-- Puts the tracks into a random order. -/
def shuffle (list : TrackList) (seed : Seed) : TrackList :=
  { list with tracks := seed.draw list.tracks.length list.tracks }.rebuild list.visible.isEmpty

end TrackList

end TrackBrowser
