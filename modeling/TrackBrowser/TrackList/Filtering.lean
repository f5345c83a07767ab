/-
Module: TrackBrowser.TrackList.Filtering
Purpose: Adding filters to a list and removing them.
-/
import TrackBrowser.TrackList.Basic

namespace TrackBrowser.TrackList

/-- Adds a filter and returns its handle.  A pattern that is no expression can be added as well; it
hides everything. -/
def addFilter (list : TrackList) (pattern : String) (mask : FieldMask) : TrackList × Nat :=
  let filter : Filter :=
    { handle := list.nextHandle
      pattern := pattern
      mask := mask
      matcher := Matcher.compile pattern list.baseOptions }
  let extended :=
    { list with filters := list.filters ++ [filter], nextHandle := list.nextHandle + 1 }
  (extended.rebuild list.visible.isEmpty, list.nextHandle)

/-- Refuses a pattern that is not usable under the settings of the list. -/
def checkPattern (list : TrackList) (pattern : String) : Except ListError Unit :=
  (Matcher.check pattern list.baseOptions).mapError (.invalidPattern pattern)

/-- Removes the filter with a handle; `false` when it is not active. -/
def removeFilter (list : TrackList) (handle : Nat) : TrackList × Bool :=
  match list.filters.findIdx? fun filter => filter.handle == handle with
  | some index =>
    ({ list with filters := list.filters.eraseIdx index }.rebuild list.visible.isEmpty, true)
  | none => (list, false)

/-- Removes the filter added last and returns it. -/
def popFilter? (list : TrackList) : Option (TrackList × Filter) :=
  list.filters.getLast?.map fun filter =>
    ({ list with filters := list.filters.dropLast }.rebuild list.visible.isEmpty, filter)

/-- Removes every filter. -/
def clearFilters (list : TrackList) : TrackList :=
  if list.filters.isEmpty then list
  else { list with filters := [] }.rebuild list.visible.isEmpty

end TrackBrowser.TrackList
