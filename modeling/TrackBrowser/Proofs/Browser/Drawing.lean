/-
Module: TrackBrowser.Proofs.Browser.Drawing
Purpose: What drawing puts into the box of the active view, and what it leaves of the program.
-/
import TrackBrowser.Proofs.Browser.Reachable
import TrackBrowser.Proofs.Browser.Shown
import TrackBrowser.Proofs.TrackList.VisibleSequence

/-!
Drawing hands the active view its height and then asks it for its offset.  Since the cursors of all
sessions that are reached are settled, whatever height they had before, giving them the height
settles them for the new one, and a settled cursor is on the screen.  Drawing once more finds the
height in place and changes nothing.
-/

namespace TrackBrowser

/-- Where nothing is left out, filtering and mapping is mapping. -/
theorem map_some_filterMap {α β : Type} {look : α → Option β} {elements : List α}
    (found : ∀ element ∈ elements, (look element).isSome) :
    (elements.filterMap look).map some = elements.map look := by
  induction elements with
  | nil => rfl
  | cons element rest ih =>
    obtain ⟨value, here⟩ := Option.isSome_iff_exists.mp (found element List.mem_cons_self)
    rw [List.filterMap_cons_some here, List.map_cons, List.map_cons, here,
      ih fun later member => found later (List.mem_cons_of_mem _ member)]

/-! ### Resized views -/

namespace View

/-- The second view is the first one with another height and another offset of its viewport; its
list may ask for a redraw.  Nothing else differs. -/
inductive Resized : View → View → Prop where
  | tracks (kind : ViewKind) (title : String) (list : TrackList) (height offset : Nat)
      (redraw : Bool) :
      Resized ⟨kind, title, .tracks list⟩
        ⟨kind, title, .tracks
          { list with
            cursor := { list.cursor with height := height, offset := offset }
            redraw := redraw }⟩
  | rows (kind : ViewKind) (title : String) (rows : List String) (cursor : Cursor)
      (height offset : Nat) :
      Resized ⟨kind, title, .rows rows cursor⟩
        ⟨kind, title, .rows rows { cursor with height := height, offset := offset }⟩

namespace Resized

variable {before after : View}

theorem size_eq (resized : before.Resized after) : after.size = before.size := by
  cases resized <;> rfl

theorem row?_eq (resized : before.Resized after) (index : Nat) (columns : List Field)
    (separator : String) :
    after.row? index columns separator = before.row? index columns separator := by
  cases resized <;> rfl

theorem cursorIndex?_eq (resized : before.Resized after) :
    after.cursorIndex? = before.cursorIndex? := by
  cases resized <;> rfl

end Resized

/-- A height changes the height and the offset of a cursor. -/
theorem setHeight_eq (cursor : Cursor) (height size : Nat) :
    cursor.setHeight height size =
      { cursor with height := height, offset := (cursor.setHeight height size).offset } :=
  Cursor.follow_eq _ _

/-- A height changes the viewport only. -/
theorem resized_setHeight (view : View) (height : Nat) : view.Resized (view.setHeight height) := by
  obtain ⟨kind, title, content⟩ := view
  cases content with
  | tracks list =>
    unfold setHeight TrackList.setHeight
    dsimp only
    split
    · exact .tracks kind title list list.cursor.height list.cursor.offset list.redraw
    · rw [setHeight_eq]
      exact .tracks kind title list height _ true
  | rows rows cursor =>
    change Resized _ ⟨kind, title, .rows rows (cursor.setHeight height rows.length)⟩
    rw [setHeight_eq]
    exact .rows kind title rows cursor height _

theorem height_setHeight (view : View) (height : Nat) :
    (view.setHeight height).height = height := by
  obtain ⟨kind, title, content⟩ := view
  cases content with
  | tracks list =>
    unfold setHeight TrackList.setHeight
    dsimp only
    split
    · rename_i same
      exact same.symm
    · exact Cursor.follow_height _ _
  | rows rows cursor => exact Cursor.follow_height _ _

namespace Sound

variable {view : View}

/-- A sound view that is given the height that it has stays as it is. -/
theorem setHeight_eq_self (sound : view.Sound) : view.setHeight view.height = view := by
  cases sound with
  | tracks kind title operations =>
    exact congrArg (fun list => (⟨kind, title, .tracks list⟩ : View)) (if_pos rfl)
  | rows kind title rows settled =>
    exact congrArg (fun cursor => (⟨kind, title, .rows rows cursor⟩ : View)) settled.follow_eq_self

/-- A sound view has a row for each index below its size. -/
theorem isSome_row? (sound : view.Sound) {index : Nat} (inside : index < view.size)
    (columns : List Field) (separator : String) :
    (view.row? index columns separator).isSome := by
  cases sound with
  | tracks kind title operations =>
    have coherent := TrackList.Coherent.run operations
    exact Option.isSome_map.trans ((coherent.isSome_get? index).mpr inside)
  | rows kind title rows settled =>
    have there : rows[index]?.isSome :=
      Option.isSome_iff_exists.mpr ⟨_, List.getElem?_eq_getElem inside⟩
    exact Option.isSome_map.trans there

/-- The cursor of a sound view that has rows is one of those that its viewport shows. -/
theorem cursorIndex?_shown (sound : view.Sound) (nonempty : 0 < view.size)
    (tall : 0 < view.height) :
    ∃ row, view.cursorIndex? = some row ∧ row < view.size ∧ view.offset ≤ row ∧
      row < view.offset + view.height := by
  have inside := sound.settled.inside nonempty
  have here : view.cursorIndex? = some view.cursor.index := by
    rw [cursorIndex?, Cursor.position?, if_pos nonempty,
      Nat.min_eq_left (Nat.le_sub_one_of_lt inside)]
  obtain ⟨above, below⟩ := sound.settled.shown_window nonempty tall
  exact ⟨_, here, inside, above, below⟩

end Sound

end View

/-! ### The box of the active view -/

namespace Screen

/-- The line that a row is drawn as. -/
def rowItem (row : Row) : Item :=
  ⟨(if row.selected then "* " else "  ") ++ row.text, row.selected⟩

variable {view : View}

/-- The items of a sound view are its rows from the offset on, as far as the height and the size go,
in order and with none left out. -/
theorem viewItems_eq (sound : view.Sound) (settings : ListSettings) (height : Nat) :
    (viewItems view settings height).1.map some =
      (List.range' view.offset (min (view.offset + height) view.size - view.offset)).map
        fun index => (view.row? index settings.columns settings.columnSeparator).map rowItem := by
  have all : ∀ index ∈ List.range' view.offset
      (min (view.offset + height) view.size - view.offset),
      (view.row? index settings.columns settings.columnSeparator).isSome := by
    intro index member
    have bounds := List.mem_range'_1.mp member
    exact sound.isSome_row? (by omega) _ _
  have rows := congrArg (List.map (Option.map rowItem)) (map_some_filterMap all)
  rw [List.map_map, List.map_map] at rows
  rw [viewItems, List.map_map]
  exact rows

theorem length_viewItems (sound : view.Sound) (settings : ListSettings) (height : Nat) :
    (viewItems view settings height).1.length =
      min (view.offset + height) view.size - view.offset := by
  have lengths := congrArg List.length (viewItems_eq sound settings height)
  rwa [List.length_map, List.length_map, List.length_range'] at lengths

/-- The rows that are left inside the box of the active view. -/
def rowsHeight (width height : Nat) : Nat :=
  (boxAreas width height).2.1.height - 2

/-- The screen of a program with some items and a highlight in the box of the active view. -/
def paint (browser : Browser) (settings : Settings) (width height : Nat) (items : List Item)
    (highlight : Option Nat) : Canvas :=
  let (headerArea, rowsArea, statusArea, hintsArea) := boxAreas width height
  let header := ((Canvas.blank width height).drawBox headerArea .center " tracklist ").drawParagraph
    (headerArea.inside 0) .center false settings.screen.headerText
  let rows := (header.drawBox rowsArea .left (" " ++ browser.activeView.title ++ " ")).drawRows
    (rowsArea.inside 0) items highlight
  let status := (rows.drawBox statusArea .left " status ").drawParagraph
    (statusArea.inside 1) .left true (statusText browser)
  (status.drawBox hintsArea .left " controls ").drawParagraph
    (hintsArea.inside 1) .left true hintsText

/-- Drawing hands the active view its height, and paints what that view shows then. -/
theorem draw_eq_paint (browser : Browser) (settings : Settings) (width height : Nat) :
    draw browser settings width height =
      let drawn := browser.modifyActive fun view => view.setHeight (rowsHeight width height)
      let shown := viewItems drawn.activeView settings.list (rowsHeight width height)
      (paint drawn settings width height shown.1 shown.2, drawn) := rfl

end Screen

namespace Browser.Sound

variable {browser : Browser}

/-- Changing the active view of a sound program replaces it. -/
theorem modifyActive_eq (sound : browser.Sound) (change : View → View) :
    browser.modifyActive change =
      { browser with
        views := browser.views.set browser.active (change browser.activeView) } := by
  obtain ⟨there, _⟩ := sound.activeView
  rw [modifyActive, List.modify_eq_set_getElem?, there]
  rfl

/-- A change that the active view does not notice changes nothing. -/
theorem modifyActive_eq_self (sound : browser.Sound) {change : View → View}
    (same : change browser.activeView = browser.activeView) :
    browser.modifyActive change = browser := by
  obtain ⟨there, _⟩ := sound.activeView
  have kept : browser.views.set browser.active browser.activeView = browser.views := by
    obtain ⟨inside, here⟩ := List.getElem?_eq_some_iff.mp there
    rw [← here, List.set_getElem_self]
  rw [sound.modifyActive_eq, same, kept]

end Browser.Sound

namespace Session

variable {session : Session}

/-- Drawing shows the cursor and a full window.  Of every session that key presses and calls on the
program lead to, drawing with at least one row inside the box of the active view: gives that view
this height; paints as its items the rows from its offset on, as many as the height allows and the
view has, in order and with none left out, so that the box is full where the view has enough rows;
and highlights the row of the cursor, which is one of the items, or nothing in an empty view.  It
changes no more than the height and the offset of the active view, so no track, no selection, no
filter, no row of a cursor and no other view; and drawing once more gives the same. -/
theorem draw_shows (reached : session.Reached) (settings : Settings) {width height : Nat}
    (tall : 0 < Screen.rowsHeight width height) :
    let before := session.browser.activeView
    let rows := Screen.rowsHeight width height
    let drawn := (Screen.draw session.browser settings width height).2
    let after := drawn.activeView
    let shown := Screen.viewItems after settings.list rows
    (Screen.draw session.browser settings width height).1 =
        Screen.paint drawn settings width height shown.1 shown.2 ∧
      after.height = rows ∧
      shown.1.map some =
        (List.range' after.offset (min (after.offset + rows) before.size - after.offset)).map
          (fun index => (before.row? index settings.list.columns
            settings.list.columnSeparator).map Screen.rowItem) ∧
      (rows ≤ before.size → shown.1.length = rows) ∧
      (before.size = 0 → shown = ([], none)) ∧
      (0 < before.size → ∃ row, before.cursorIndex? = some row ∧ after.offset ≤ row ∧
        shown.2 = some (row - after.offset) ∧ row - after.offset < shown.1.length) ∧
      before.Resized after ∧
      drawn = { session.browser with
        views := session.browser.views.set session.browser.active after } ∧
      Screen.draw drawn settings width height =
        Screen.draw session.browser settings width height := by
  intro before rows drawn after shown
  have sound := reached.sound
  have still : drawn.Sound := sound.call (.draw settings width height)
  have replaced : after = before.setHeight rows :=
    Browser.activeView_modifyActive sound.active fun view => view.setHeight rows
  have whole : after.Sound := still.activeView.2
  have resized : before.Resized after := by
    rw [replaced]
    exact before.resized_setHeight rows
  have heights : after.height = rows := by
    rw [replaced]
    exact before.height_setHeight rows
  have items := Screen.viewItems_eq whole settings.list rows
  have length := Screen.length_viewItems whole settings.list rows
  have fits : after.offset ≤ after.size - rows := by
    rw [← heights]
    exact Cursor.shownOffset_le _ _
  simp only [resized.row?_eq] at items
  rw [resized.size_eq] at items length fits
  refine ⟨rfl, heights, items, ?_, ?_, ?_, resized, ?_, ?_⟩
  · intro full
    exact length.trans (by omega)
  · intro empty
    have none_shown : shown.1 = [] := List.eq_nil_of_length_eq_zero (length.trans (by omega))
    have nowhere : after.cursorIndex? = none := by
      rw [View.cursorIndex?, Cursor.position?, resized.size_eq, empty]
      rfl
    have dark : shown.2 = none := congrArg (Option.map (· - after.offset)) nowhere
    exact Prod.ext none_shown dark
  · intro nonempty
    rw [← resized.size_eq] at nonempty
    obtain ⟨row, here, inside, above, below⟩ := whole.cursorIndex?_shown nonempty (by omega)
    have lit : shown.2 = some (row - after.offset) :=
      congrArg (Option.map (· - after.offset)) here
    rw [resized.cursorIndex?_eq] at here
    rw [resized.size_eq] at inside
    refine ⟨row, here, above, lit, Nat.lt_of_lt_of_eq ?_ length.symm⟩
    omega
  · rw [replaced]
    exact sound.modifyActive_eq _
  · -- The view has its height already, so that the second drawing starts from what it ends with.
    have settled : drawn.modifyActive (fun view => view.setHeight rows) = drawn := by
      apply still.modifyActive_eq_self
      have kept := whole.setHeight_eq_self
      rwa [heights] at kept
    have again := Screen.draw_eq_paint drawn settings width height
    rw [settled] at again
    exact again

/-- A library of three tracks, with the cursor on the last one before anything was drawn. -/
def lastTrack : Session :=
  respond {} ⟨.ofViews [.ofTracks .library "Library" (TrackList.run
    [.append { file := "a.ogg" }, .append { file := "b.ogg" },
      .append { file := "c.ogg" }])], false⟩
    (.key { code := .char 'G' })

theorem lastTrack_reached : lastTrack.Reached := by
  apply Reached.press
  apply Reached.start
  intro view member
  cases List.mem_singleton.mp member
  exact .ofTracks _ _ _

/-- On a screen of thirteen rows the box has room for two of them: the last two tracks are drawn and
the second one is highlighted. -/
theorem draw_shows_lastTrack :
    let drawn := (Screen.draw lastTrack.browser {} 20 13).2
    let shown := Screen.viewItems drawn.activeView {} 2
    lastTrack.Reached ∧ Screen.rowsHeight 20 13 = 2 ∧ drawn.activeView.height = 2 ∧
      drawn.activeView.offset = 1 ∧ shown.1.length = 2 ∧ shown.2 = some 1 ∧
      drawn.views.length = 2 ∧ drawn.views[1]? = lastTrack.browser.views[1]? ∧
      Screen.draw drawn {} 20 13 = Screen.draw lastTrack.browser {} 20 13 := by
  intro drawn shown
  have tall : 0 < Screen.rowsHeight 20 13 := by decide
  obtain ⟨_, heights, _, full, _, lit, _, others, again⟩ := draw_shows lastTrack_reached {} tall
  have third : lastTrack.browser.activeView.cursorIndex? = some 2 := by decide
  have offset : drawn.activeView.offset = 1 := by decide
  obtain ⟨row, here, _, highlight, _⟩ := lit (by decide)
  rw [third] at here
  cases here
  refine ⟨lastTrack_reached, by decide, heights, offset, full (by decide), ?_, by decide, ?_, again⟩
  · exact highlight.trans (congrArg (fun first => some (2 - first)) offset)
  · exact congrArg (fun browser => browser.views[1]?) others

end Session

end TrackBrowser
