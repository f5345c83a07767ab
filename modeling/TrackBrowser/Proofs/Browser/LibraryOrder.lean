/-
Module: TrackBrowser.Proofs.Browser.LibraryOrder
Purpose: The order in which the library lists its tracks.
-/
import TrackBrowser.Browser.Opening
import TrackBrowser.Proofs.Library.Storage
import TrackBrowser.Proofs.TrackList.Selecting
import TrackBrowser.Proofs.TrackList.SortOrder

/-!
A scan sorts its tracks by path, and opening the library sorts them by the configured fields, one
after the other.  All of these sorts are stable, so together they are one sort: by the last field
first, and by path where all fields agree.  Which order the tracks were delivered in is forgotten.
-/

namespace TrackBrowser

namespace TrackList

/-! ### Unfiltered lists -/

/-- A list that shows all its tracks, with the cursor on the first. -/
structure Whole (list : TrackList) : Prop where
  unfiltered : list.filters = []
  visible : list.visible = List.range list.tracks.length
  atTop : list.cursor.index = 0

/-- A cursor on the first row stays there. -/
theorem index_clamp {cursor : Cursor} (atTop : cursor.index = 0) (size : Nat) :
    (cursor.clamp size).index = 0 := by
  unfold Cursor.clamp
  split
  · rfl
  · rw [Cursor.follow_index, atTop, Nat.zero_min]

/-- Rebuilding an unfiltered list keeps all tracks, in their order. -/
theorem whole_rebuild (list : TrackList) (unfiltered : list.filters = [])
    (atTop : list.cursor.index = 0) (wasEmpty : Bool) :
    (list.rebuild wasEmpty).Whole ∧ (list.rebuild wasEmpty).tracks = list.tracks := by
  have tracks : (list.rebuild wasEmpty).tracks = list.tracks := by
    rw [rebuild_tracks]
    apply List.map_id''
    intro track
    rw [kept, if_pos (passes_of_unfiltered list track unfiltered)]
  refine ⟨⟨unfiltered, ?_, ?_⟩, tracks⟩
  · rw [tracks]
    exact list.visible_rebuild_of_unfiltered wasEmpty unfiltered
  · apply index_clamp
    split
    · rfl
    · exact atTop

/-- Sorting an unfiltered list by several fields sorts its tracks by all of them. -/
theorem whole_sort {list : TrackList} (whole : list.Whole) (keys : List String) :
    let fields := keys.filterMap fun key => (Field.ofName key).toOption
    (list.sort keys).Whole ∧ (list.sort keys).tracks =
      sortBy (Track.compareByKeys list.caseSensitive fields.reverse) list.tracks := by
  intro fields
  rw [← sorted_tracks, sort, sortByFields]
  split
  · rename_i none
    have none : fields = [] := List.isEmpty_iff.mp none
    exact ⟨whole, by rw [none]; rfl⟩
  · exact whole_rebuild (list.sorted fields) whole.unfiltered whole.atTop _

/-- An unfiltered list shows its tracks in their order. -/
theorem Whole.visibleTracks {list : TrackList} (whole : list.Whole) :
    list.visibleTracks = list.tracks := by
  rw [TrackList.visibleTracks, whole.visible, List.range_eq_range', filterMap_range'_getElem?,
    List.drop_zero, List.take_length]

end TrackList

/-- Compares two tracks by several fields, and by their paths where the fields agree. -/
def Track.compareForLibrary (caseSensitive : Bool) (fields : List Field) :
    Track → Track → Ordering :=
  compareLex (compareByKeys caseSensitive fields) fun left right =>
    compareTexts left.file.toList right.file.toList

instance transCmp_compareFile :
    Std.TransCmp fun left right : Track => compareTexts left.file.toList right.file.toList := by
  have byPath := transCmp_image compare fun track : Track => track.file.toList.map Char.toNat
  simpa only [compareTexts_eq_compare] using byPath

instance transCmp_compareForLibrary (caseSensitive : Bool) (fields : List Field) :
    Std.TransCmp (Track.compareForLibrary caseSensitive fields) :=
  inferInstanceAs (Std.TransCmp (compareLex _ _))

/-- Ordering by path is ordering by the code points of the path. -/
theorem Library.byPath_eq_sortBy (tracks : List Track) :
    byPath tracks =
      sortBy (fun left right => compareTexts left.file.toList right.file.toList) tracks := by
  rw [byPath, sortBy]
  congr 1
  funext left right
  rw [Bool.eq_iff_iff, bne_iff_ne, compareTexts_ne_gt_iff, decide_eq_true_iff]

/-- Where the path says which track it is, the order of the tracks does not matter. -/
theorem Library.byPath_eq_of_perm {tracks order : List Track}
    (distinct : ∀ track ∈ tracks, ∀ other ∈ tracks, track.file = other.file → track = other)
    (perm : order.Perm tracks) : byPath order = byPath tracks := by
  have sorted : ∀ tracks, (byPath tracks).Pairwise fun left right => left.file ≤ right.file := by
    intro tracks
    rw [byPath_eq_sortBy]
    exact (pairwise_sortBy _ tracks).imp fun ordered => (compareTexts_ne_gt_iff _ _).mp ordered
  have members : ∀ tracks, (byPath tracks).Perm tracks := fun tracks => List.mergeSort_perm _ _
  refine List.Perm.eq_of_pairwise ?_ (sorted order) (sorted tracks)
    ((members order).trans (perm.trans (members tracks).symm))
  intro track other member again below above
  refine distinct track ?_ other ?_ (String.le_antisymm below above)
  · exact perm.mem_iff.mp ((members order).mem_iff.mp member)
  · exact (members tracks).mem_iff.mp again

/-- The fields that the library is sorted by, in the order of the settings.  Unknown names are
skipped. -/
def Settings.sortFields (settings : Settings) : List Field :=
  settings.list.sort.filterMap fun key => (Field.ofName key).toOption

/-- What the library lists of the tracks that were delivered: all of them, with the cursor on the
first one, by the last field first and by path where all fields agree. -/
structure ListsLibrary (settings : Settings) (delivered : List Track) (list : TrackList) :
    Prop where
  readOnly : list.readOnly = true
  unfiltered : list.filters = []
  atTop : list.cursor.index = 0
  shown : list.visibleTracks = list.tracks
  perm : list.tracks.Perm delivered
  sorted : list.tracks.Pairwise fun earlier later =>
    Track.compareForLibrary settings.list.caseSensitiveSort settings.sortFields.reverse
      earlier later ≠ .gt

namespace Browser

/-- The list of the library before it is made to scroll as wanted. -/
theorem listsLibrary_sort (settings : Settings) (delivered : List Track) :
    let list := (ListDefaults.ofSettings settings.list).newList
    ListsLibrary settings delivered
      (((list.load (Library.byPath delivered)).sort settings.list.sort).setReadOnly true) := by
  intro list
  obtain ⟨loaded, held⟩ := TrackList.whole_rebuild (list.loaded (Library.byPath delivered))
    rfl rfl list.visible.isEmpty
  obtain ⟨whole, sorted⟩ := TrackList.whole_sort loaded settings.list.sort
  have tracks : ((list.load (Library.byPath delivered)).sort settings.list.sort).tracks =
      sortBy (Track.compareForLibrary settings.list.caseSensitiveSort settings.sortFields.reverse)
        delivered := by
    refine sorted.trans ?_
    rw [held, Track.compareForLibrary, ← sortBy_sortBy, ← Library.byPath_eq_sortBy]
    rfl
  have perm := sortBy_perm
    (Track.compareForLibrary settings.list.caseSensitiveSort settings.sortFields.reverse) delivered
  have ordered := pairwise_sortBy
    (Track.compareForLibrary settings.list.caseSensitiveSort settings.sortFields.reverse)
    delivered
  rw [← tracks] at perm ordered
  exact ⟨rfl, whole.unfiltered, whole.atTop, whole.visibleTracks, perm, ordered⟩

/-- Making a list scroll as wanted changes neither its tracks nor the row of its cursor. -/
theorem listsLibrary_apply {settings : Settings} {delivered : List Track} {list : TrackList}
    (lists : ListsLibrary settings delivered list) (defaults : ListDefaults) :
    ∃ later, defaults.apply (View.ofTracks .library "Library" list) =
      View.ofTracks .library "Library" later ∧ ListsLibrary settings delivered later := by
  refine ⟨_, rfl, lists.readOnly, lists.unfiltered, ?_, lists.shown, lists.perm, lists.sorted⟩
  have index : (((list.cursor.setMode defaults.scrollMode list.size).setScrolloff
      defaults.scrolloff list.size).setWrap defaults.wrap).index = list.cursor.index := by
    simp only [Cursor.setWrap, Cursor.setScrolloff, Cursor.setMode, Cursor.follow_index]
  exact index.trans lists.atTop

/-- The library over the tracks that a walk delivered, in whatever order, is the first view of the
program.  It is read-only and unfiltered, has the cursor on its first row, and lists exactly these
tracks by the last of the configured fields first, and by the code points of the path where all
fields agree.  After another order of delivery it agrees with this row by row, in these fields and
in the path.  Where the path of a track says which one it is, another order of delivery even gives
the same program, and so it does for the tracks of every folder with names that are text. -/
theorem openFolder_library (settings : Settings) :
    (∀ delivered : List Track,
      (∃ list, (ofLibrary settings (Library.byPath delivered)).views[0]? =
          some (View.ofTracks .library "Library" list) ∧
        ListsLibrary settings delivered list ∧
        ∀ order : List Track, order.Perm delivered → ∃ other,
          (ofLibrary settings (Library.byPath order)).views[0]? =
            some (View.ofTracks .library "Library" other) ∧
          List.Forall₂ (fun track again => Track.compareForLibrary
            settings.list.caseSensitiveSort settings.sortFields.reverse track again = .eq)
            list.tracks other.tracks) ∧
      ((∀ track ∈ delivered, ∀ other ∈ delivered, track.file = other.file → track = other) →
        ∀ order : List Track, order.Perm delivered →
          ofLibrary settings (Library.byPath order) =
            ofLibrary settings (Library.byPath delivered))) ∧
    ∀ (top : Entry) (start : OsText),
      let delivered := Library.delivered top start settings.library
      openFolder top start settings = ofLibrary settings (Library.byPath delivered) ∧
        (top.SlashFree → top.Readable →
          ∀ track ∈ delivered, ∀ other ∈ delivered, track.file = other.file → track = other) := by
  have opened (delivered : List Track) :
      ∃ list, (ofLibrary settings (Library.byPath delivered)).views[0]? =
        some (View.ofTracks .library "Library" list) ∧ ListsLibrary settings delivered list := by
    obtain ⟨list, applied, lists⟩ := listsLibrary_apply (listsLibrary_sort settings delivered)
      (ListDefaults.ofSettings settings.list)
    exact ⟨list, congrArg some applied, lists⟩
  constructor
  · intro delivered
    constructor
    · obtain ⟨list, first, lists⟩ := opened delivered
      refine ⟨list, first, lists, ?_⟩
      intro order perm
      obtain ⟨other, again, others⟩ := opened order
      refine ⟨other, again, forall₂_ties_of_countP lists.sorted others.sorted fun track => ?_⟩
      exact (lists.perm.trans (perm.symm.trans others.perm.symm)).countP_eq _
    · intro distinct order perm
      rw [Library.byPath_eq_of_perm distinct perm]
  · intro top start
    refine ⟨rfl, ?_⟩
    intro plain readable track member other again same
    exact Library.eq_of_file_eq plain readable member again same

/-- Two audio files in two folders.  By their names they come in the other order than by their
paths. -/
def shelf : Entry :=
  .folder [("1", .folder [("b.ogg", .file [])]), ("2", .folder [("a.ogg", .file [])])]

/-- Tracks are sorted by their titles, after a key that no field has. -/
def byTitle : Settings :=
  { list := { sort := ["rating", "title"] } }

/-- Both files are delivered, each with its name for a title. -/
theorem delivered_shelf :
    Library.delivered shelf "." byTitle.library =
      [{ file := "1/b.ogg", title := "b" }, { file := "2/a.ogg", title := "a" }] := by
  have resolved : shelf.resolve? "." = some [] := Entry.resolve?_here rfl
  rw [Library.delivered, Library.filesFrom, resolved]
  decide +kernel

/-- The library over such a folder lists the second path first, as its title comes first, whether
the files were delivered in the one order or in the other. -/
theorem openFolder_library_shelf :
    shelf.SlashFree ∧ shelf.Readable ∧
      (Library.delivered shelf "." byTitle.library).map Track.file = ["1/b.ogg", "2/a.ogg"] ∧
      (∃ list, (openFolder shelf "." byTitle).views[0]? =
          some (View.ofTracks .library "Library" list) ∧
        ListsLibrary byTitle (Library.delivered shelf "." byTitle.library) list ∧
        list.tracks.map Track.file = ["2/a.ogg", "1/b.ogg"]) ∧
      ofLibrary byTitle
          (Library.byPath (Library.delivered shelf "." byTitle.library).reverse) =
        openFolder shelf "." byTitle := by
  have plain : shelf.SlashFree :=
    (Entry.wellNamed_of_everyEntry (by decide +kernel)).slashFree
  have readable : shelf.Readable := Entry.readable_of_everyEntry (by decide +kernel)
  obtain ⟨library, folder⟩ := openFolder_library byTitle
  obtain ⟨opened, distinct⟩ := folder shelf "."
  obtain ⟨⟨list, first, lists, _⟩, ordered⟩ :=
    library (Library.delivered shelf "." byTitle.library)
  refine ⟨plain, readable, ?_, ⟨list, ?_, lists, ?_⟩, ?_⟩
  · rw [delivered_shelf]
    decide
  · rw [opened, first]
  · have perm : list.tracks.Perm
        [{ file := "2/a.ogg", title := "a" }, { file := "1/b.ogg", title := "b" }] :=
      lists.perm.trans (delivered_shelf ▸ .swap ..)
    have order := perm.eq_of_pairwise ?_ lists.sorted (by decide +kernel)
    · rw [order]
      decide
    · intro track other member again below above
      have among := perm.mem_iff.mp member
      simp only [List.mem_cons, List.not_mem_nil, or_false] at among again
      rcases among with rfl | rfl <;> rcases again with rfl | rfl
      · rfl
      · exact absurd above (by decide +kernel)
      · exact absurd below (by decide +kernel)
      · rfl
  · rw [opened]
    exact ordered (distinct plain readable) _ (List.reverse_perm _)

end Browser

end TrackBrowser
