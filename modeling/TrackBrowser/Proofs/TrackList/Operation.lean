/-
Module: TrackBrowser.Proofs.TrackList.Operation
Purpose: The operations of a list as data, and the lists that runs of them lead to.
-/
import Mathlib.Data.List.Induction
import Mathlib.Data.List.Perm.Basic
import TrackBrowser.Proofs.Cursor.Viewport
import TrackBrowser.TrackList.Ordering
import TrackBrowser.TrackList.Selection
import TrackBrowser.TrackList.Shuffling

/-!
An `Operation` is a call that may change a list, with its arguments; `perform` makes the call and
`run` makes calls one after the other, starting with an empty list.  A refused call leaves the list
as it was.  What holds of `run operations` for all `operations` holds at every step of a run, since
each beginning of a run is a run.

Shuffling draws its order from a seed.  Here it takes any arrangement, so that what is proved of
runs does not hang on the generator.
-/

namespace TrackBrowser

/-- A way to put tracks into another order. -/
structure Arrangement where
  arrange : List Track → List Track
  perm : ∀ tracks, (arrange tracks).Perm tracks

/-- Drawing takes each element out once. -/
theorem Seed.draw_perm {α : Type} (count : Nat) (seed : Seed) (elements : List α) :
    (seed.draw count elements).Perm elements := by
  induction count generalizing seed elements with
  | zero => exact .refl _
  | succ count ih =>
    simp only [draw]
    split
    · exact .refl _
    · rename_i chosen found
      have rest := ih seed.next (elements.eraseIdx (seed.next.below elements.length))
      obtain ⟨inside, rfl⟩ := List.getElem?_eq_some_iff.mp found
      exact (rest.cons _).trans (List.getElem_cons_eraseIdx_perm inside)

/-- The arrangement that a seed draws. -/
def Seed.arrangement (seed : Seed) : Arrangement where
  arrange tracks := seed.draw tracks.length tracks
  perm tracks := seed.draw_perm tracks.length tracks

namespace TrackList

/-- The calls that may change a list.  `other` is the list that is copied from. -/
inductive Operation where
  | append (track : Track)
  | insertAt (position : Nat) (track : Track)
  | removeAt (index : Nat)
  | load (tracks : List Track)
  | clear
  | copyFrom (other : TrackList)
  | truncate (limit : Nat)
  | sort (keys : List String)
  | sortByFields (fields : List Field)
  | shuffle (arrangement : Arrangement)
  | addFilter (pattern : String) (mask : FieldMask)
  | removeFilter (handle : Nat)
  | popFilter
  | clearFilters
  | setReadOnly (readOnly : Bool)
  | setRegex (regex : Bool)
  | setCaseSensitive (caseSensitive : Bool)
  | markRedraw
  | clearRedraw
  | setSelected (index : Nat) (selected : Bool)
  | select (index : Nat) (action : SelectAction)
  | selectAll (action : SelectAction)
  | selectMatching (pattern : String) (mask : FieldMask) (first : Nat) (action : SelectAction)
  | restartWalks
  | nextSelected
  | previousSelected
  | popSelected
  | setScrollMode (mode : ScrollMode)
  | setScrolloff (scrolloff : Nat)
  | setWrap (wrap : Bool)
  | setHeight (height : Nat)
  | moveCursor (delta : Int)
  | putCursor (index : Nat)
  | scroll (delta : Int)
  | search (pattern : String) (backwards skipCurrent : Bool)

/-- The list after a call that may be refused. -/
def afterCall {α : Type} (list : TrackList) : Except ListError (TrackList × α) → TrackList
  | .ok (changed, _) => changed
  | .error _ => list

/-- Puts the tracks into another order. -/
def rearrange (list : TrackList) (arrangement : Arrangement) : TrackList :=
  { list with tracks := arrangement.arrange list.tracks }.rebuild list.visible.isEmpty

/-- A shuffle is a rearrangement. -/
theorem shuffle_eq_rearrange (list : TrackList) (seed : Seed) :
    list.shuffle seed = list.rearrange seed.arrangement := rfl

/-- The list after an operation. -/
def perform (list : TrackList) : Operation → TrackList
  | .append track => list.afterCall (list.append track)
  | .insertAt position track => list.afterCall (list.insertAt position track)
  | .removeAt index => list.afterCall (list.removeAt index)
  | .load tracks => list.load tracks
  | .clear => list.clear
  | .copyFrom other => list.copyFrom other
  | .truncate limit => list.truncate limit
  | .sort keys => list.sort keys
  | .sortByFields fields => list.sortByFields fields
  | .shuffle arrangement => list.rearrange arrangement
  | .addFilter pattern mask => (list.addFilter pattern mask).1
  | .removeFilter handle => (list.removeFilter handle).1
  | .popFilter => (list.popFilter?.map (·.1)).getD list
  | .clearFilters => list.clearFilters
  | .setReadOnly readOnly => list.setReadOnly readOnly
  | .setRegex regex => list.setRegex regex
  | .setCaseSensitive caseSensitive => list.setCaseSensitive caseSensitive
  | .markRedraw => list.markRedraw
  | .clearRedraw => list.clearRedraw
  | .setSelected index selected => (list.setSelected index selected).1
  | .select index action => (list.select index action).1
  | .selectAll action => (list.selectAll action).1
  | .selectMatching pattern mask first action =>
    (list.selectMatching pattern mask first action).1
  | .restartWalks => list.restartWalks
  | .nextSelected => list.nextSelected.1
  | .previousSelected => list.previousSelected.1
  | .popSelected => list.popSelected.1
  | .setScrollMode mode => list.setScrollMode mode
  | .setScrolloff scrolloff => list.setScrolloff scrolloff
  | .setWrap wrap => list.setWrap wrap
  | .setHeight height => list.setHeight height
  | .moveCursor delta => (list.moveCursor delta).1
  | .putCursor index => (list.putCursor index).1
  | .scroll delta => (list.scroll delta).1
  | .search pattern backwards skipCurrent =>
    list.afterCall (list.search pattern backwards skipCurrent)

/-- The list that a run of operations makes of an empty one. -/
def run (operations : List Operation) : TrackList :=
  operations.foldl perform {}

@[simp] theorem run_concat (operations : List Operation) (operation : Operation) :
    run (operations ++ [operation]) = (run operations).perform operation := by
  simp [run]

/-- What holds of an empty list and is kept by every operation holds after every run. -/
theorem run_induction {invariant : TrackList → Prop} (empty : invariant {})
    (step : ∀ list operation, invariant list → invariant (list.perform operation))
    (operations : List Operation) : invariant (run operations) := by
  induction operations using List.reverseRecOn with
  | nil => exact empty
  | append_singleton operations operation ih =>
    rw [run_concat]
    exact step _ operation ih

end TrackList

end TrackBrowser
