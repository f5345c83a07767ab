/-
Module: TrackBrowser.Proofs.Browser.Shown
Purpose: What is on the screen, and the changes of it that ask for a redraw.
-/
import TrackBrowser.Browser.Keys
import TrackBrowser.Screen.Draw

/-!
The screen is drawn again only when a redraw is wanted.  A change of the program is `Noticed` when
it leaves the screen as it is or a redraw is wanted after it, and when it does not take back a
redraw that was wanted before.  Noticed changes compose, so a key press is noticed when its parts
are.

Most commands report what they have done, and a report asks for a redraw.  The others change the
active list and leave it to the list to ask.
-/

namespace TrackBrowser

/-- The rows of a view that are inside its viewport. -/
def View.drawnRows (view : View) (settings : ListSettings) : List Row :=
  (List.range' view.offset
    (min (view.offset + view.height) view.size - view.offset)).filterMap fun index =>
      view.row? index settings.columns settings.columnSeparator

/-- The drawn rows are those that drawing puts into the box of the view. -/
theorem Screen.viewItems_eq_drawnRows (view : View) (settings : ListSettings) :
    Screen.viewItems view settings view.height =
      ((view.drawnRows settings).map fun row =>
        ⟨(if row.selected then "* " else "  ") ++ row.text, row.selected⟩,
          view.cursorIndex?.map (· - view.offset)) := rfl

/-- What the screen tells about the program. -/
structure Shown where
  active : Nat
  title : String
  cursorIndex? : Option Nat
  offset : Nat
  rows : List Row
  inputMode : InputMode
  input : String
  status : Option String
  summary? : Option String
  deriving DecidableEq, Repr, Inhabited

/-- What is on the screen once the program is drawn. -/
def Browser.shown (browser : Browser) (settings : ListSettings) : Shown where
  active := browser.active
  title := browser.activeView.title
  cursorIndex? := browser.activeView.cursorIndex?
  offset := browser.activeView.offset
  rows := browser.activeView.drawnRows settings
  inputMode := browser.inputMode
  input := browser.input
  status := browser.status
  summary? := browser.summary?

/-! ### Views and lists -/

namespace View

variable {view : View}

theorem list?_modifyList (change : TrackList → TrackList) :
    (view.modifyList change).list? = view.list?.map change := by
  obtain ⟨kind, title, content⟩ := view
  cases content with
  | tracks list => rfl
  | rows rows cursor => rfl

/-- Changing the list of a view changes nothing when its list stays the same or there is none. -/
theorem modifyList_eq_self {change : TrackList → TrackList}
    (same : ∀ list, view.list? = some list → change list = list) :
    view.modifyList change = view := by
  obtain ⟨kind, title, content⟩ := view
  cases content with
  | tracks list => simp only [modifyList, same list rfl]
  | rows rows cursor => rfl

end View

namespace TrackList

/-- The second list is the first one, or it asks for a redraw. -/
def Redrawn (before after : TrackList) : Prop :=
  after = before ∨ after.redraw = true

namespace Redrawn

theorem trans {first second third : TrackList} (before : Redrawn first second)
    (after : Redrawn second third) : Redrawn first third := by
  rcases after with rfl | redraw
  · exact before
  · exact .inr redraw

variable (list : TrackList)

theorem setSelected (index : Nat) (selected : Bool) :
    Redrawn list (list.setSelected index selected).1 := by
  unfold TrackList.setSelected
  split
  · exact .inl rfl
  · split
    · exact .inl rfl
    · split
      · exact .inl rfl
      · exact .inr rfl

theorem select (index : Nat) (action : SelectAction) :
    Redrawn list (list.select index action).1 := by
  unfold TrackList.select
  split
  · exact setSelected list index _
  · exact .inl rfl

theorem selectEach (indices : List Nat) (action : SelectAction) :
    Redrawn list (list.selectEach indices action).1 := by
  unfold TrackList.selectEach
  generalize 0 = changed
  induction indices generalizing list changed with
  | nil => exact .inl rfl
  | cons index indices ih => exact (select list index action).trans (ih _ _)

theorem clearFilters : Redrawn list list.clearFilters := by
  unfold TrackList.clearFilters
  split
  · exact .inl rfl
  · exact .inr rfl

theorem sort (keys : List String) : Redrawn list (list.sort keys) := by
  unfold TrackList.sort sortByFields
  split
  · exact .inl rfl
  · exact .inr rfl

end Redrawn

end TrackList

/-! ### Noticed changes -/

namespace Browser

/-- A change of the program after which nothing on the screen is out of date unnoticed. -/
structure Noticed (settings : ListSettings) (before after : Browser) : Prop where
  keeps : before.wantsRedraw = true → after.wantsRedraw = true
  shows : after.wantsRedraw = true ∨ after.shown settings = before.shown settings

variable {settings : ListSettings}

/-- The program itself may ask for a redraw. -/
theorem wantsRedraw_of_redraw {browser : Browser} (redraw : browser.redraw = true) :
    browser.wantsRedraw = true := by
  simp [wantsRedraw, redraw]

/-- The active list may ask for a redraw. -/
theorem wantsRedraw_of_list {browser : Browser} {list : TrackList}
    (active : browser.activeList? = some list) (redraw : list.redraw = true) :
    browser.wantsRedraw = true := by
  simp [wantsRedraw, active, redraw]

namespace Noticed

variable {before middle after : Browser}

theorem refl (browser : Browser) : Noticed settings browser browser :=
  ⟨id, .inr rfl⟩

theorem trans (first : Noticed settings before middle) (second : Noticed settings middle after) :
    Noticed settings before after := by
  constructor
  · intro wanted
    exact second.keeps (first.keeps wanted)
  · rcases second.shows with wanted | same
    · exact .inl wanted
    · rcases first.shows with wanted | earlier
      · exact .inl (second.keeps wanted)
      · exact .inr (same.trans earlier)

/-- A change after which a redraw is wanted. -/
theorem of_wantsRedraw (wanted : after.wantsRedraw = true) : Noticed settings before after :=
  ⟨fun _ => wanted, .inl wanted⟩

/-- Nothing on the screen depends on the seed. -/
theorem withSeed (noticed : Noticed settings before after) (seed : Seed) :
    Noticed settings before { after with seed := seed } :=
  ⟨noticed.keeps, noticed.shows⟩

/-- A change that asks for a redraw. -/
theorem of_redraw (redraw : after.redraw = true) : Noticed settings before after :=
  of_wantsRedraw (wantsRedraw_of_redraw redraw)

end Noticed

/-! ### The active view -/

theorem activeView_modifyActive {browser : Browser} (inside : browser.active < browser.views.length)
    (change : View → View) :
    (browser.modifyActive change).activeView = change browser.activeView := by
  unfold modifyActive activeView
  simp [inside]

/-- A change of the active view is seen there, unless there is no active view. -/
theorem modifyActive_cases (browser : Browser) (change : View → View) :
    (browser.modifyActive change).activeView = change browser.activeView ∨
      browser.modifyActive change = browser := by
  by_cases inside : browser.active < browser.views.length
  · exact .inl (activeView_modifyActive inside change)
  · right
    have same : browser.views.modify browser.active change = browser.views := by
      apply List.ext_getElem?
      intro index
      rw [List.getElem?_modify]
      split
      · rename_i here
        rw [← here, List.getElem?_eq_none (by omega)]
        rfl
      · simp
    rw [modifyActive, same]

namespace Noticed

variable {browser : Browser}

/-- A change that leaves the active view as it was. -/
theorem of_activeView {change : View → View}
    (same : (browser.modifyActive change).activeView = browser.activeView) :
    Noticed settings browser (browser.modifyActive change) := by
  have lists : (browser.modifyActive change).activeList? = browser.activeList? := by
    rw [activeList?, same, activeList?]
  have wanted : (browser.modifyActive change).wantsRedraw = browser.wantsRedraw := by
    rw [wantsRedraw, lists]
    rfl
  constructor
  · rw [wanted]
    exact id
  · right
    simp only [shown, summary?, lists, same]
    rfl

/-- Changing the active list is noticed when the list asks for a redraw of what has changed. -/
theorem modifyActiveList {change : TrackList → TrackList}
    (redrawn : ∀ list, browser.activeList? = some list → TrackList.Redrawn list (change list)) :
    Noticed settings browser (browser.modifyActiveList change) := by
  rcases browser.modifyActive_cases fun view => view.modifyList change with changed | same
  · cases active : browser.activeList? with
    | none =>
      apply of_activeView
      rw [changed]
      apply View.modifyList_eq_self
      intro list present
      rw [activeList?, present] at active
      cases active
    | some list =>
      rcases redrawn list active with unchanged | redraw
      · apply of_activeView
        rw [changed]
        apply View.modifyList_eq_self
        intro other present
        rw [activeList?, present] at active
        cases active
        exact unchanged
      · have after : (browser.modifyActiveList change).activeList? = some (change list) := by
          unfold Browser.modifyActiveList
          rw [activeList?, changed, View.list?_modifyList, ← activeList?, active]
          rfl
        exact of_wantsRedraw (wantsRedraw_of_list after redraw)
  · unfold Browser.modifyActiveList
    rw [same]
    exact refl browser

/-- Replacing the active list by one that asks for a redraw is noticed. -/
theorem setActiveList {list : TrackList} (redraw : list.redraw = true) :
    Noticed settings browser (browser.setActiveList list) :=
  modifyActiveList fun _ _ => .inr redraw

end Noticed

end Browser

end TrackBrowser
