/-
Module: TrackBrowser.Proofs.TrackList.Sorting
Purpose: What sorting makes of a list: its tracks, what it shows of them, and all that follows.
-/
import TrackBrowser.Proofs.TrackList.SortOrder
import TrackBrowser.Proofs.TrackList.Totals
import TrackBrowser.Proofs.TrackList.Viewport

/-!
A sort moves tracks and then rebuilds the visible sequence.  On a list made by operations the
rebuild deselects nothing, since no hidden track is selected, and shows as many tracks as before.
So a sorted list is the list `reordered`: the same but for the order of its tracks and what depends
on that.  Both main statements follow from this and from `StableSort`, the first about what is shown
and the second about sorts in turn.
-/

namespace TrackBrowser.TrackList

variable {exact : Prop} {list : TrackList} {tracks : List Track}

/-! ### Rebuilding in another order -/

/-- A change that shows no track where none was shown only clamps the cursor. -/
theorem settle_of_still_empty (list : TrackList) {wasEmpty : Bool}
    (empty : wasEmpty = true → list.size = 0) :
    list.settle wasEmpty =
      { list.restartWalks with cursor := list.cursor.clamp list.size, redraw := true } := by
  have stays : (wasEmpty && decide (0 < list.size)) = false := by
    cases wasEmpty with
    | true => simp [empty]
    | false => rfl
  simp only [settle, stays, Bool.false_eq_true, if_false]

/-- The list with its tracks in another order, and the visible sequence after them. -/
def reordered (list : TrackList) (tracks : List Track) : TrackList :=
  { list.restartWalks with
    tracks := tracks
    visible := { list with tracks := tracks }.passingIndices
    cursor := list.cursor.clamp list.size
    redraw := true }

/-- As many tracks are visible in one order as in the other. -/
theorem Coherent.size_reordered (coherent : list.Coherent) (perm : tracks.Perm list.tracks) :
    (list.reordered tracks).size = list.size := by
  have counted : (list.reordered tracks).size = (tracks.filter list.passes).length :=
    length_passingIndices { list with tracks := tracks }
  rw [counted, (perm.filter _).length_eq, size, coherent.visible_eq, length_passingIndices]

/-- Moving tracks hides none of the selected ones. -/
theorem Accounted.rebuild_eq_reordered (accounted : list.Accounted exact) (coherent : list.Coherent)
    (perm : tracks.Perm list.tracks) :
    { list with tracks := tracks }.rebuild list.visible.isEmpty = list.reordered tracks := by
  let moved : TrackList := { list with tracks := tracks }
  let shown : TrackList := { moved with visible := moved.passingIndices }
  have size : shown.size = list.size := coherent.size_reordered perm
  have settled := shown.settle_of_still_empty fun empty : list.visible.isEmpty = true =>
    size.trans (List.isEmpty_iff_length_eq_zero.mp empty)
  rw [size] at settled
  calc moved.rebuild list.visible.isEmpty
      = shown.settle list.visible.isEmpty := rebuild_of_passing moved _ fun track member =>
        accounted.passing track (perm.mem_iff.mp member)
    _ = list.reordered tracks := settled

/-- What has been put in order before may as well not have been. -/
theorem Coherent.reordered_reordered {others : List Track} (coherent : list.Coherent)
    (perm : tracks.Perm list.tracks) :
    (list.reordered tracks).reordered others = list.reordered others := by
  have clamped : (list.reordered tracks).cursor.clamp (list.reordered tracks).size =
      list.cursor.clamp list.size := by
    rw [coherent.size_reordered perm]
    exact list.cursor.clamp_clamp list.size
  rw [reordered, clamped]
  rfl

/-! ### Sorting by keys -/

/-- The fields with the given names.  Names of no field are skipped. -/
def fieldsOf (keys : List String) : List Field :=
  keys.filterMap fun key => (Field.ofName key).toOption

/-- How a sort by some keys compares two tracks: by the last field first, and from there back to the
first one. -/
def sortOrder (list : TrackList) (keys : List String) (left right : Track) : Ordering :=
  compare ((fieldsOf keys).reverse.map (left.sortKey list.caseSensitive))
    ((fieldsOf keys).reverse.map (right.sortKey list.caseSensitive))

instance transCmp_sortOrder (list : TrackList) (keys : List String) :
    Std.TransCmp (list.sortOrder keys) :=
  transCmp_image compare fun track : Track =>
    (fieldsOf keys).reverse.map (track.sortKey list.caseSensitive)

/-- Tracks tie if all fields agree. -/
theorem sortOrder_eq_eq {keys : List String} {left right : Track} :
    list.sortOrder keys left right = .eq ↔ ∀ field ∈ fieldsOf keys,
      left.sortKey list.caseSensitive field = right.sortKey list.caseSensitive field := by
  rw [sortOrder, Std.LawfulEqCmp.compare_eq_iff_eq, List.map_inj_left]
  simp only [List.mem_reverse]

theorem tracks_sorted_fieldsOf (list : TrackList) (keys : List String) :
    (list.sorted (fieldsOf keys)).tracks = sortBy (list.sortOrder keys) list.tracks := by
  rw [sorted_tracks]
  congr 1
  funext left right
  exact Track.compareByKeys_eq_compare _ _ _ _

/-- Keys that name no field make no difference to a sort. -/
theorem sort_filter (list : TrackList) (keys : List String) :
    list.sort (keys.filter fun key => (Field.ofName key).toOption.isSome) = list.sort keys := by
  have known : ∀ named : String → Option Field,
      (keys.filter fun key => (named key).isSome).filterMap named = keys.filterMap named := by
    intro named
    rw [List.filterMap_filter]
    congr 1
    funext key
    cases named key <;> rfl
  exact congrArg list.sortByFields (known fun key => (Field.ofName key).toOption)

namespace Accounted

variable (accounted : list.Accounted exact) (coherent : list.Coherent) (keys : List String)

include accounted coherent

theorem sort_eq : list.sort keys =
    if fieldsOf keys = [] then list
    else list.reordered (sortBy (list.sortOrder keys) list.tracks) := by
  rw [← tracks_sorted_fieldsOf, ← accounted.rebuild_eq_reordered coherent (list.sorted_perm _)]
  simp only [sort, sortByFields, ← List.isEmpty_iff]
  rfl

theorem passes_sort : (list.sort keys).passes = list.passes := by
  rw [accounted.sort_eq coherent]
  split <;> rfl

theorem tracks_sort : (list.sort keys).tracks = sortBy (list.sortOrder keys) list.tracks := by
  rw [accounted.sort_eq coherent]
  split
  · rename_i none
    rw [← tracks_sorted_fieldsOf, none]
    rfl
  · rfl

theorem visibleTracks_sort :
    (list.sort keys).visibleTracks = sortBy (list.sortOrder keys) list.visibleTracks := by
  have still : (list.sort keys).Coherent := coherent.outcome (outcome_perform (.sort keys) list)
  rw [still.visibleTracks_eq, coherent.visibleTracks_eq, accounted.passes_sort coherent,
    accounted.tracks_sort coherent]
  exact ((stableSort_sortBy list.tracks).filter list.passes).eq_sortBy

end Accounted

/-- Sorting a list by some keys is one stable sort of its tracks, by the last key first, and one
stable sort of what it shows: its filters show the same of the sorted tracks as sorting makes of the
shown ones.  Keys that name no field make no difference. -/
theorem sort_stable (operations : List Operation) (keys : List String) :
    let list := run operations
    let sorted := list.sort keys
    (∀ tracks, StableSort (list.sortOrder keys) list.tracks tracks ↔ tracks = sorted.tracks) ∧
      (∀ tracks, StableSort (list.sortOrder keys) list.visibleTracks tracks ↔
        tracks = sorted.visibleTracks) ∧
      sorted.visibleTracks = sorted.tracks.filter list.passes ∧
      list.sort (keys.filter fun key => (Field.ofName key).toOption.isSome) = sorted := by
  intro list sorted
  have accounted := Accounted.run operations
  have coherent : list.Coherent := .run operations
  have still : sorted.Coherent := coherent.outcome (outcome_perform (.sort keys) list)
  refine ⟨?_, ?_, ?_, ?_⟩
  · intro tracks
    rw [stableSort_iff, ← accounted.tracks_sort coherent]
  · intro tracks
    rw [stableSort_iff, ← accounted.visibleTracks_sort coherent]
  · rw [still.visibleTracks_eq, accounted.passes_sort coherent]
  · exact list.sort_filter keys

/-- Three tracks, two of them by one artist. -/
def unsortedRun : List Operation :=
  [.append { file := "c.ogg", artist := "Bo", title := "Two" },
    .append { file := "a.ogg", artist := "bo", title := "One" },
    .append { file := "b.ogg", artist := "Ada", title := "two" }]

example : ((run unsortedRun).sort ["title", "artist"]).tracks.map Track.file =
    ["b.ogg", "a.ogg", "c.ogg"] := by cbv

/-! ### Sorts in turn -/

/-- A sort whose fields all occur in a later one leaves no trace in that. -/
theorem Accounted.sort_sort (accounted : list.Accounted exact) (coherent : list.Coherent)
    {first second : List String} (absorbed : ∀ field ∈ fieldsOf first, field ∈ fieldsOf second) :
    (list.sort first).sort second = list.sort second := by
  by_cases none : fieldsOf first = []
  · rw [accounted.sort_eq coherent first, if_pos none]
  have some : fieldsOf second ≠ [] := by
    obtain ⟨field, member⟩ := List.exists_mem_of_ne_nil _ none
    exact List.ne_nil_of_mem (absorbed field member)
  have sorted : list.sort first = list.reordered (sortBy (list.sortOrder first) list.tracks) := by
    rw [accounted.sort_eq coherent, if_neg none]
  have perm := sortBy_perm (list.sortOrder first) list.tracks
  -- What ties in all fields of the later sort ties in those of the earlier one.
  have ties : ∀ left right, list.sortOrder second left right = .eq →
      list.sortOrder first left right = .eq := by
    intro left right tied
    rw [sortOrder_eq_eq] at tied ⊢
    exact fun field member => tied field (absorbed field member)
  have ends : Outcome (.sort first) list (list.sort first) := outcome_perform _ list
  have again : (list.sort first).Accounted False :=
    (accounted.imp False.elim).outcome coherent False.elim False.elim ends
  have still : (list.sort first).Coherent := coherent.outcome ends
  have order : (list.sort first).sortOrder second = list.sortOrder second := by
    rw [sorted]
    rfl
  have tracks : sortBy (list.sortOrder second) (list.sort first).tracks =
      sortBy (list.sortOrder second) list.tracks := by
    rw [accounted.tracks_sort coherent, sortBy_sortBy_of_absorbed ties]
  have once := accounted.sort_eq coherent second
  have twice := again.sort_eq still second
  rw [if_neg some] at once twice
  rw [once, twice, order, tracks, sorted, coherent.reordered_reordered perm]

/-- Sorting by some keys and then by others is sorting by the others, where these name all fields
that the first ones name.  So sorting again changes nothing. -/
theorem sort_absorbed (operations : List Operation) :
    (∀ first second, (∀ field ∈ fieldsOf first, field ∈ fieldsOf second) →
      ((run operations).sort first).sort second = (run operations).sort second) ∧
      ∀ keys, ((run operations).sort keys).sort keys = (run operations).sort keys := by
  have accounted := Accounted.run operations
  have coherent := Coherent.run operations
  constructor
  · intro first second absorbed
    exact accounted.sort_sort coherent absorbed
  · intro keys
    exact accounted.sort_sort coherent fun _ member => member

/-- Sorting by title first, and by a key that names nothing, leaves no trace in a sort by both. -/
theorem sort_absorbed_unsortedRun :
    (∀ field ∈ fieldsOf ["Title", "colour", "title"], field ∈ fieldsOf ["title", "artist"]) ∧
      ((run unsortedRun).sort ["Title", "colour", "title"]).sort ["title", "artist"] =
        (run unsortedRun).sort ["title", "artist"] := by
  have absorbed : ∀ field ∈ fieldsOf ["Title", "colour", "title"],
      field ∈ fieldsOf ["title", "artist"] := by decide +kernel
  exact ⟨absorbed, (sort_absorbed unsortedRun).1 _ _ absorbed⟩

end TrackBrowser.TrackList
