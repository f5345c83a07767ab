/-
Module: TrackBrowser.Proofs.TrackList.Checked
Purpose: Operations that check every index into the tracks, and every sum, before they use it.
-/
import TrackBrowser.Proofs.TrackList.Stage

/-!
The operations of a list are total: reading past the end gives nothing, and subtraction stops at
zero.  The checked operations of this module do the same work but give up, with `none`, where an
index into the tracks is out of range or where a guard refuses a change.  That a checked run comes
to the same list as the plain one then says that no index was out of range and no change was
refused, not even halfway through an operation.

`Admits` collects what has to be known of the stages of an operation for that.
-/

namespace TrackBrowser.TrackList

/-- The changes on which an operation indexes the tracks or counts in its totals. -/
inductive Change where
  | place (canonical : Nat) (track : Track)
  | take (canonical : Nat)
  | mark (canonical : Nat) (selected : Bool)
  | rebuild
  deriving DecidableEq, Repr, Inhabited

/-- Which changes are let through on which lists. -/
abbrev Guard : Type :=
  TrackList → Change → Bool

/-- Lets every change through, so that only indices are checked. -/
def openGuard : Guard := fun _ _ => true

namespace Checked

variable (guard : Guard)

/-- Inserts a track; there is no place for it beyond the end. -/
def place (list : TrackList) (canonical : Nat) (track : Track) : Option TrackList :=
  if canonical ≤ list.tracks.length ∧ guard list (.place canonical track) then
    some (list.place canonical track)
  else none

/-- Removes the track at a canonical index, which there has to be. -/
def take (list : TrackList) (canonical : Nat) : Option TrackList :=
  match list.tracks[canonical]? with
  | some track =>
    if guard list (.take canonical) then some (list.take canonical track) else none
  | none => none

/-- Rebuilds the visible sequence. -/
def rebuild (list : TrackList) (wasEmpty : Bool) : Option TrackList :=
  if guard list .rebuild then some (list.rebuild wasEmpty) else none

/-- Removes the first track that holds a position, if there is one. -/
def vacate (list : TrackList) (position : Nat) : Option TrackList :=
  match list.tracks.findIdx? fun track => track.position == some position with
  | some canonical => take guard list canonical
  | none => some list

/-- Inserts a track at a position of its source, where one with that position is replaced. -/
def insertAt (list : TrackList) (position : Nat) (track : Track) : Option TrackList :=
  if list.readOnly then some list
  else do
    let vacated ← vacate guard list position
    let canonical := min position vacated.tracks.length
    place guard (vacated.shiftFrom canonical) canonical { track with position := some position }

/-- Removes the track at a visible index. -/
def removeAt (list : TrackList) (index : Nat) : Option TrackList :=
  if list.readOnly then some list
  else
    match list.visible[index]? with
    | some canonical => take guard list canonical
    | none => some list

/-- Removes tracks from the end, at most `count` of them, as long as more than `limit` remain. -/
def dropLast (limit : Nat) : (count : Nat) → TrackList → Option TrackList
  | 0, list => some list
  | count + 1, list =>
    if list.tracks.length ≤ limit then some list
    else (take guard list (list.tracks.length - 1)).bind (dropLast limit count)

/-- Selects or deselects the track at a visible index. -/
def setSelected (list : TrackList) (index : Nat) (selected : Bool) : Option TrackList :=
  match list.visible[index]? with
  | none => some list
  | some canonical =>
    match list.tracks[canonical]? with
    | none => none
    | some track =>
      if guard list (.mark canonical selected) then
        if track.selected = selected then some list else some (list.flip canonical track selected)
      else none

/-- Applies an action to the track at a visible index. -/
def select (list : TrackList) (index : Nat) (action : SelectAction) : Option TrackList :=
  match list.get? index with
  | some track => setSelected guard list index (action.apply track.selected)
  | none => some list

/-- Applies an action to the tracks at some visible indices. -/
def selectEach (list : TrackList) (indices : List Nat) (action : SelectAction) :
    Option TrackList :=
  indices.foldlM (fun list index => select guard list index action) list

/-- Applies an action to each hit from `index` on, with at most `fuel` searches. -/
def selectHits (matcher : Matcher) (mask : FieldMask) (action : SelectAction) :
    (fuel index : Nat) → TrackList → Option TrackList
  | 0, _, list => some list
  | fuel + 1, index, list =>
    if list.size ≤ index then some list
    else
      match list.findWith matcher mask index (list.size - 1) false with
      | none => some list
      | some found =>
        if found < index then some list
        else (select guard list found action).bind (selectHits matcher mask action fuel (found + 1))

/-- Deselects the next selected track. -/
def popSelected (list : TrackList) : Option TrackList :=
  match list.nextSelected with
  | (list, none) => some list
  | (list, some index) => setSelected guard list index false

/-- The list after an operation; the operations at the end have nothing to check. -/
def perform (list : TrackList) : Operation → Option TrackList
  | .append track =>
    if list.readOnly then some list else place guard list list.tracks.length track
  | .insertAt position track => insertAt guard list position track
  | .removeAt index => removeAt guard list index
  | .load tracks => rebuild guard (list.loaded tracks) list.visible.isEmpty
  | .copyFrom other =>
    rebuild guard (list.loaded (other.visibleTracks.map Track.detached)) list.visible.isEmpty
  | .truncate limit => dropLast guard limit list.tracks.length list
  | .sort keys =>
    let fields := keys.filterMap fun key => (Field.ofName key).toOption
    if fields.isEmpty then some list
    else rebuild guard (list.sorted fields) list.visible.isEmpty
  | .sortByFields fields =>
    if fields.isEmpty then some list
    else rebuild guard (list.sorted fields) list.visible.isEmpty
  | .shuffle arrangement =>
    rebuild guard { list with tracks := arrangement.arrange list.tracks } list.visible.isEmpty
  | .addFilter pattern mask => rebuild guard (list.extended pattern mask) list.visible.isEmpty
  | .removeFilter handle =>
    match list.filters.findIdx? fun filter => filter.handle == handle with
    | some index =>
      rebuild guard { list with filters := list.filters.eraseIdx index } list.visible.isEmpty
    | none => some list
  | .popFilter =>
    if list.filters.isEmpty then some list
    else rebuild guard { list with filters := list.filters.dropLast } list.visible.isEmpty
  | .clearFilters =>
    if list.filters.isEmpty then some list
    else rebuild guard { list with filters := [] } list.visible.isEmpty
  | .setSelected index selected => setSelected guard list index selected
  | .select index action => select guard list index action
  | .selectAll action => selectEach guard list (List.range list.size) action
  | .selectMatching pattern mask first action =>
    selectHits guard (Matcher.compile pattern { exact := true }) mask action (list.size + 1) first
      list
  | .popSelected => popSelected guard list
  | operation => some (list.perform operation)

/-- The list that a checked run of operations makes of an empty one. -/
def run (operations : List Operation) : Option TrackList :=
  operations.foldlM (perform guard) {}

/-! ### When nothing is refused -/

/-- What a guard and the stages of an operation have to satisfy so that nothing is refused.  A track
is placed, and a sequence rebuilt, only as the last change of an operation. -/
structure Admits (operation : Operation) (start : TrackList) : Prop where
  inside : ∀ {list : TrackList} {canonical : Nat}, Stage start list →
    canonical ∈ list.visible → canonical < list.tracks.length
  place : ∀ {list : TrackList} {canonical : Nat} {track : Track}, Stage start list →
    canonical ≤ list.tracks.length → start.perform operation = list.place canonical track →
      guard list (.place canonical track) = true
  take : ∀ {list : TrackList} {canonical : Nat}, Stage start list →
    canonical < list.tracks.length → guard list (.take canonical) = true
  mark : ∀ {list : TrackList} {canonical : Nat} (selected : Bool), Marking start list →
    canonical ∈ list.visible → guard list (.mark canonical selected) = true
  rebuild : ∀ {list : TrackList}, Draft operation start list →
    start.perform operation = list.rebuild start.visible.isEmpty → guard list .rebuild = true

variable {guard} {operation : Operation} {start list : TrackList}

namespace Admits

theorem take_eq (admits : Admits guard operation start) (stage : Stage start list)
    {canonical : Nat} {track : Track} (found : list.tracks[canonical]? = some track) :
    Checked.take guard list canonical = some (list.take canonical track) := by
  have inside := (List.getElem?_eq_some_iff.mp found).1
  simp only [Checked.take, found, admits.take stage inside, if_true]

theorem place_eq (admits : Admits guard operation start) (stage : Stage start list)
    {canonical : Nat} {track : Track} (inside : canonical ≤ list.tracks.length)
    (ends : start.perform operation = list.place canonical track) :
    Checked.place guard list canonical track = some (list.place canonical track) := by
  rw [Checked.place, if_pos ⟨inside, admits.place stage inside ends⟩]

theorem rebuild_eq (admits : Admits guard operation start) (draft : Draft operation start list)
    (ends : start.perform operation = list.rebuild start.visible.isEmpty) :
    Checked.rebuild guard list start.visible.isEmpty
      = some (list.rebuild start.visible.isEmpty) := by
  rw [Checked.rebuild, if_pos (admits.rebuild draft ends)]

theorem vacate_eq (admits : Admits guard operation start) (stage : Stage start list)
    (position : Nat) : Checked.vacate guard list position = some (list.vacate position) := by
  unfold Checked.vacate TrackList.vacate
  cases holder : list.tracks.findIdx? fun track => track.position == some position with
  | none => rfl
  | some canonical =>
    obtain ⟨inside, _⟩ := List.findIdx?_eq_some_iff_getElem.mp holder
    have found := List.getElem?_eq_getElem inside
    simp only [admits.take_eq stage found, takeAt?, found, Option.map_some, Option.getD_some]

theorem dropLast_eq (admits : Admits guard operation start) (stage : Stage start list)
    (limit count : Nat) :
    Checked.dropLast guard limit count list = some (TrackList.dropLast limit count list) := by
  induction count generalizing list with
  | zero => rfl
  | succ count ih =>
    unfold Checked.dropLast TrackList.dropLast
    split
    · rfl
    · have inside : list.tracks.length - 1 < list.tracks.length := by omega
      have found := List.getElem?_eq_getElem inside
      simp only [admits.take_eq stage found, takeAt?, found, Option.map_some, Option.bind_some]
      exact ih (stage.take found)

theorem setSelected_eq (admits : Admits guard operation start)
    (marking : Marking start list) (index : Nat) (selected : Bool) :
    Checked.setSelected guard list index selected = some (list.setSelected index selected).1 := by
  unfold Checked.setSelected TrackList.setSelected
  cases shown : list.visible[index]? with
  | none => rfl
  | some canonical =>
    have member := List.mem_of_getElem? shown
    have found := List.getElem?_eq_getElem (admits.inside marking.stage member)
    simp only [found, admits.mark selected marking member, if_true]
    split <;> rfl

theorem select_eq (admits : Admits guard operation start)
    (marking : Marking start list) (index : Nat) (action : SelectAction) :
    Checked.select guard list index action = some (list.select index action).1 := by
  unfold Checked.select TrackList.select
  cases list.get? index with
  | none => rfl
  | some track => exact admits.setSelected_eq marking index _

theorem selectEach_eq (admits : Admits guard operation start)
    (marking : Marking start list) (indices : List Nat) (action : SelectAction) :
    Checked.selectEach guard list indices action = some (list.selectEach indices action).1 := by
  unfold Checked.selectEach TrackList.selectEach
  generalize 0 = changed
  induction indices generalizing list changed with
  | nil => rfl
  | cons index indices ih =>
    rw [List.foldlM_cons, admits.select_eq marking]
    exact ih (Marking.survives.select marking index action) _

theorem selectHits_eq (admits : Admits guard operation start)
    (marking : Marking start list) (matcher : Matcher) (mask : FieldMask)
    (action : SelectAction) (fuel index changed : Nat) :
    Checked.selectHits guard matcher mask action fuel index list =
      some (TrackList.selectHits matcher mask action fuel index changed list).1 := by
  induction fuel generalizing list index changed with
  | zero => rfl
  | succ fuel ih =>
    unfold Checked.selectHits TrackList.selectHits
    split
    · rfl
    · cases list.findWith matcher mask index (list.size - 1) false with
      | none => rfl
      | some found =>
        dsimp only
        split
        · rfl
        · rw [admits.select_eq marking, Option.bind_some]
          exact ih (Marking.survives.select marking found action) _ _

theorem popSelected_eq (admits : Admits guard operation start)
    (marking : Marking start list) :
    Checked.popSelected guard list = some list.popSelected.1 := by
  have next := Marking.survives.nextSelected marking
  unfold Checked.popSelected TrackList.popSelected
  cases walk : list.nextSelected with
  | mk walked found =>
    rw [walk] at next
    cases found with
    | none => rfl
    | some index => exact admits.setSelected_eq next index false

/-- An operation of which nothing is refused comes to the same list as the plain one. -/
theorem perform_eq (admits : Admits guard operation start) :
    Checked.perform guard start operation = some (start.perform operation) := by
  cases operation with
  | append track =>
    simp only [Checked.perform]
    cases locked : start.readOnly with
    | true => simp [TrackList.perform, TrackList.append, locked, afterCall]
    | false =>
      have ends : start.perform (.append track) = start.place start.tracks.length track := by
        simp [TrackList.perform, TrackList.append, locked, afterCall]
      simp only [Bool.false_eq_true, if_false]
      rw [admits.place_eq .start (Nat.le_refl _) ends, ends]
  | insertAt position track =>
    simp only [Checked.perform, Checked.insertAt]
    cases locked : start.readOnly with
    | true => simp [TrackList.perform, TrackList.insertAt, locked, afterCall]
    | false =>
      simp only [Bool.false_eq_true, if_false, admits.vacate_eq .start, Option.bind_eq_bind,
        Option.bind_some]
      let canonical := min position (start.vacate position).tracks.length
      let shifted := (start.vacate position).shiftFrom canonical
      have stage : Stage start shifted :=
        (Stage.start.vacate position).shift canonical
      have ends : start.perform (.insertAt position track) =
          shifted.place canonical { track with position := some position } := by
        simp only [TrackList.perform, TrackList.insertAt, locked, Bool.false_eq_true, if_false,
          afterCall]
        rfl
      rw [ends]
      exact admits.place_eq stage (by simp [shifted, canonical, shiftFrom]) ends
  | removeAt index =>
    simp only [Checked.perform, Checked.removeAt, TrackList.perform, TrackList.removeAt]
    split
    · rfl
    · cases shown : start.visible[index]? with
      | none => rfl
      | some canonical =>
        have found := List.getElem?_eq_getElem (admits.inside .start (List.mem_of_getElem? shown))
        simp only [admits.take_eq .start found, Option.bind_some, takeAt?, found, Option.map_some,
          afterCall]
  | truncate limit => exact admits.dropLast_eq .start limit _
  | load tracks => exact admits.rebuild_eq (.load tracks) rfl
  | copyFrom other => exact admits.rebuild_eq (.load _) rfl
  | sort keys =>
    simp only [Checked.perform]
    generalize given : (keys.filterMap fun key => (Field.ofName key).toOption) = fields
    split
    · rename_i none
      simp [TrackList.perform, TrackList.sort, sortByFields, given, none]
    · rename_i some
      have ends : start.perform (.sort keys) =
          (start.sorted fields).rebuild start.visible.isEmpty := by
        simp [TrackList.perform, TrackList.sort, sortByFields, given, some, sorted]
      rw [ends]
      exact admits.rebuild_eq (.reorder (start.sorted_perm fields)) ends
  | sortByFields fields =>
    simp only [Checked.perform]
    split
    · rename_i none
      simp [TrackList.perform, sortByFields, none]
    · rename_i some
      have ends : start.perform (.sortByFields fields) =
          (start.sorted fields).rebuild start.visible.isEmpty := by
        simp [TrackList.perform, sortByFields, some, sorted]
      rw [ends]
      exact admits.rebuild_eq (.reorder (start.sorted_perm fields)) ends
  | shuffle arrangement => exact admits.rebuild_eq (.reorder (arrangement.perm _)) rfl
  | addFilter pattern mask => exact admits.rebuild_eq (.extend rfl) rfl
  | removeFilter handle =>
    simp only [Checked.perform]
    cases holder : start.filters.findIdx? fun filter => filter.handle == handle with
    | none => simp [TrackList.perform, removeFilter, holder]
    | some index =>
      have ends : start.perform (.removeFilter handle) =
          { start with filters := start.filters.eraseIdx index }.rebuild
            start.visible.isEmpty := by
        simp only [TrackList.perform, removeFilter, holder]
      rw [ends]
      exact admits.rebuild_eq (.narrow (List.eraseIdx_sublist _ _)) ends
  | popFilter =>
    simp only [Checked.perform]
    cases last : start.filters.getLast? with
    | none => simp [TrackList.perform, popFilter?, List.getLast?_eq_none_iff.mp last]
    | some filter =>
      have ends : start.perform .popFilter =
          { start with filters := start.filters.dropLast }.rebuild start.visible.isEmpty := by
        simp only [TrackList.perform, popFilter?, last, Option.map_some, Option.getD_some]
      have some : start.filters.isEmpty = false := by
        cases none : start.filters with
        | nil => simp [none] at last
        | cons first rest => rfl
      rw [ends, some]
      exact admits.rebuild_eq (.narrow (List.dropLast_sublist _)) ends
  | clearFilters =>
    simp only [Checked.perform]
    split
    · rename_i none
      simp [TrackList.perform, TrackList.clearFilters, none]
    · rename_i some
      have ends : start.perform .clearFilters =
          { start with filters := [] }.rebuild start.visible.isEmpty := by
        simp [TrackList.perform, TrackList.clearFilters, some]
      rw [ends]
      exact admits.rebuild_eq (.narrow (List.nil_sublist _)) ends
  | setSelected index selected => exact admits.setSelected_eq .refl index selected
  | select index action => exact admits.select_eq .refl index action
  | selectAll action => exact admits.selectEach_eq .refl _ action
  | selectMatching pattern mask first action =>
    exact admits.selectHits_eq .refl _ mask action _ first 0
  | popSelected => exact admits.popSelected_eq .refl
  | clear | setReadOnly | setRegex | setCaseSensitive | markRedraw | clearRedraw | restartWalks
  | nextSelected | previousSelected | setScrollMode | setScrolloff | setWrap | setHeight
  | moveCursor | putCursor | scroll | search => rfl

end Admits

/-- A run of which nothing is refused comes to the same list as the plain one. -/
theorem run_eq (operations : List Operation)
    (admits : ∀ earlier operation, earlier ++ [operation] <+: operations →
      Admits guard operation (TrackList.run earlier)) :
    Checked.run guard operations = some (TrackList.run operations) := by
  induction operations using List.reverseRecOn with
  | nil => rfl
  | append_singleton operations operation ih =>
    have before : Checked.run guard operations = some (TrackList.run operations) :=
      ih fun earlier next part => admits earlier next (part.trans (List.prefix_append _ _))
    have last := admits operations operation (List.prefix_refl _)
    rw [run_concat, ← last.perform_eq]
    rw [Checked.run] at before
    rw [Checked.run, List.foldlM_append, before]
    simp

end Checked

end TrackBrowser.TrackList
