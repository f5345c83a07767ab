/-
Module: TrackBrowser.TrackList.Selection
Purpose: Selecting tracks and walking over the selected ones.
-/
import TrackBrowser.TrackList.Searching

namespace TrackBrowser

/-- What to do with the selection of a track. -/
inductive SelectAction where
  | select
  | deselect
  | toggle
  deriving DecidableEq, Repr, Inhabited

/-- The selection of a track after an action. -/
def SelectAction.apply : SelectAction → Bool → Bool
  | .select, _ => true
  | .deselect, _ => false
  | .toggle, selected => !selected

/-- Where a walk is that has just given this index, or found none. -/
def SelectionWalk.after : Option Nat → SelectionWalk
  | some index => .at index
  | none => .done

namespace TrackList

/-! ### Selecting -/

/-- Selects or deselects the track at a canonical index, whose selection is known to change. -/
def flip (list : TrackList) (canonical : Nat) (track : Track) (selected : Bool) : TrackList :=
  { list with
    tracks := list.tracks.set canonical { track with selected := selected }
    selectedCount := if selected then list.selectedCount + 1 else list.selectedCount - 1
    selectedSeconds :=
      if selected then addWrapping list.selectedSeconds track.seconds
      else list.selectedSeconds - track.seconds
    redraw := true }

/-- Selects or deselects the track at a visible index.  Returns whether that was a change. -/
def setSelected (list : TrackList) (index : Nat) (selected : Bool) : TrackList × Bool :=
  match list.visible[index]? with
  | none => (list, false)
  | some canonical =>
    match list.tracks[canonical]? with
    | none => (list, false)
    | some track =>
      if track.selected = selected then (list, false)
      else (list.flip canonical track selected, true)

/-- Applies an action to the track at a visible index. -/
def select (list : TrackList) (index : Nat) (action : SelectAction) : TrackList × Bool :=
  match list.get? index with
  | some track => list.setSelected index (action.apply track.selected)
  | none => (list, false)

/-- Applies an action to the tracks at some visible indices, one after the other, and counts the
changes. -/
def selectEach (list : TrackList) (indices : List Nat) (action : SelectAction) : TrackList × Nat :=
  indices.foldl
    (fun (state : TrackList × Nat) index =>
      let (list, changed) := state.1.select index action
      (list, state.2 + changed.toNat))
    (list, 0)

/-- Applies an action to every visible track and counts the changes. -/
def selectAll (list : TrackList) (action : SelectAction) : TrackList × Nat :=
  list.selectEach (List.range list.size) action

/-- Applies an action to each hit from `index` on, with at most `fuel` searches.  `changed` counts
the changes made before. -/
def selectHits (matcher : Matcher) (mask : FieldMask) (action : SelectAction) :
    (fuel : Nat) → (index changed : Nat) → TrackList → TrackList × Nat
  | 0, _, changed, list => (list, changed)
  | fuel + 1, index, changed, list =>
    if list.size ≤ index then (list, changed)
    else
      match list.findWith matcher mask index (list.size - 1) false with
      | none => (list, changed)
      | some found =>
        if found < index then (list, changed)
        else
          let (list, isChange) := list.select found action
          selectHits matcher mask action fuel (found + 1) (changed + isChange.toNat) list

/-- Applies an action to every visible track from an index on that has a field in the mask equal to
the pattern, and counts the changes. -/
def selectMatching (list : TrackList) (pattern : String) (mask : FieldMask) (first : Nat)
    (action : SelectAction) : TrackList × Nat :=
  selectHits (Matcher.compile pattern { exact := true }) mask action (list.size + 1) first 0 list

/-! ### Walking over the selection -/

/-- Whether the track at a visible index is selected. -/
def isSelected (list : TrackList) (index : Nat) : Bool :=
  (list.get? index).any (·.selected)

/-- Continues the forward walk from a visible index. -/
def walkForward (list : TrackList) (start : Nat) : TrackList × Option Nat :=
  let found := (List.range' start (list.size - start)).find? list.isSelected
  ({ list with forwardWalk := SelectionWalk.after found, backwardWalk := .fresh }, found)

/-- Continues the backward walk before a visible index. -/
def walkBackward (list : TrackList) (stop : Nat) : TrackList × Option Nat :=
  let found := (List.range stop).reverse.find? list.isSelected
  ({ list with backwardWalk := SelectionWalk.after found, forwardWalk := .fresh }, found)

/-- The visible index of the next selected track.  With nothing selected, a fresh walk gives the
index of the cursor once. -/
def nextSelected (list : TrackList) : TrackList × Option Nat :=
  match list.forwardWalk with
  | .done => ({ list with backwardWalk := .fresh }, none)
  | .fresh =>
    if list.selectedCount = 0 then
      ({ list with forwardWalk := .done, backwardWalk := .fresh }, list.cursorIndex?)
    else list.walkForward 0
  | .at index => list.walkForward (index + 1)

/-- The visible index of the previous selected track, from the end of the list.  With nothing
selected, a fresh walk gives the index of the cursor once. -/
def previousSelected (list : TrackList) : TrackList × Option Nat :=
  match list.backwardWalk with
  | .done => ({ list with forwardWalk := .fresh }, none)
  | .fresh =>
    if list.selectedCount = 0 then
      ({ list with backwardWalk := .done, forwardWalk := .fresh }, list.cursorIndex?)
    else list.walkBackward list.size
  | .at index => list.walkBackward index

/-- Like `nextSelected`, and deselects the track. -/
def popSelected (list : TrackList) : TrackList × Option Nat :=
  match list.nextSelected with
  | (list, none) => (list, none)
  | (list, some index) => ((list.setSelected index false).1, some index)

end TrackList

end TrackBrowser
