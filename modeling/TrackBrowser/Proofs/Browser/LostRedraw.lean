/-
Module: TrackBrowser.Proofs.Browser.LostRedraw
Purpose: The key presses that change the screen without asking for a redraw.
-/
import TrackBrowser.Proofs.Browser.Steering

/-!
A redraw should be wanted whenever the screen may have changed since it was drawn last.  Lists of
tracks ask for one when their cursor is steered.  Views of plain rows have a cursor of their own,
and nothing asks when that is steered: the screen is then out of date unnoticed.  `losesRedraw_iff`
says that this happens whenever plain rows are steered elsewhere, and that it never happens
otherwise.
-/

namespace TrackBrowser

namespace View

variable {view : View}

/-- A view without a list has plain rows. -/
theorem rows_of_list?_eq_none (plain : view.list? = none) :
    ∃ rows cursor, view.content = .rows rows cursor := by
  obtain ⟨kind, title, content⟩ := view
  cases content with
  | tracks list => cases plain
  | rows rows cursor => exact ⟨rows, cursor, rfl⟩

/-- Plain rows are drawn alike as long as the viewport is the same. -/
theorem drawnRows_of_rows {settings : ListSettings} {rows : List String} {before after : Cursor}
    (plain : view.content = .rows rows before) (height : after.height = before.height)
    (offset : View.offset { view with content := .rows rows after } = view.offset) :
    View.drawnRows { view with content := .rows rows after } settings =
      view.drawnRows settings := by
  obtain ⟨kind, title, content⟩ := view
  cases plain
  unfold drawnRows
  rw [offset]
  have tall : View.height ⟨kind, title, .rows rows after⟩ =
      View.height ⟨kind, title, .rows rows before⟩ := height
  rw [tall]
  rfl

end View

namespace Browser

variable {settings : ListSettings} {browser : Browser}

/-- Without an active view there is no view of plain rows. -/
theorem active_lt_of_rows (plain : browser.activeView.list? = none) :
    browser.active < browser.views.length := by
  by_contra outside
  rw [activeView, List.getElem?_eq_none (by omega)] at plain
  cases plain

/-- Steering plain rows without moving cursor and viewport leaves the screen as it is. -/
theorem shown_modifyActive_of_rows {change : View → View} {steering : Steering}
    (plain : browser.activeView.list? = none)
    (steered : browser.activeView.steer? steering = some (change browser.activeView))
    (index : (change browser.activeView).cursorIndex? = browser.activeView.cursorIndex?)
    (offset : (change browser.activeView).offset = browser.activeView.offset) :
    (browser.modifyActive change).shown settings = browser.shown settings := by
  have changed := activeView_modifyActive (active_lt_of_rows plain) change
  obtain ⟨rows, before, content⟩ := View.rows_of_list?_eq_none plain
  obtain ⟨after, moved, height⟩ := View.steer?_rows content steered
  have drawn : (change browser.activeView).drawnRows settings =
      browser.activeView.drawnRows settings := by
    rw [moved] at offset ⊢
    exact View.drawnRows_of_rows content height offset
  have title : (change browser.activeView).title = browser.activeView.title := by rw [moved]
  have lists : (browser.modifyActive change).activeList? = browser.activeList? := by
    rw [activeList?, changed, activeList?, plain, moved]
    rfl
  simp only [shown, summary?, lists, changed, title, index, offset, drawn]
  rfl

/-- Clearing the redraws changes no view of plain rows. -/
theorem clearRedraw_activeView (plain : browser.activeView.list? = none) :
    browser.clearRedraw.activeView = browser.activeView := by
  have inside := active_lt_of_rows plain
  unfold activeView at plain ⊢
  simp only [clearRedraw, List.getElem?_map, List.getElem?_eq_getElem inside, Option.map_some,
    Option.getD_some] at plain ⊢
  apply View.modifyList_eq_self
  intro list tracks
  rw [plain] at tracks
  cases tracks

/-- Clearing the redraws turns no view of tracks into one of plain rows. -/
theorem clearRedraw_list?_eq_none :
    browser.clearRedraw.activeView.list? = none ↔ browser.activeView.list? = none := by
  constructor
  · intro plain
    have inside : browser.active < (browser.views.map fun view =>
        view.modifyList TrackList.clearRedraw).length := active_lt_of_rows plain
    rw [List.length_map] at inside
    unfold activeView at plain ⊢
    simpa [clearRedraw, inside, View.list?_modifyList] using plain
  · intro plain
    rw [clearRedraw_activeView plain, plain]

end Browser

namespace Session

variable {settings : Settings} {session : Session} {key : Key}

/-- A key press after which the screen is out of date although no redraw is wanted. -/
def LosesRedraw (session : Session) (settings : Settings) (key : Key) : Prop :=
  (session.after settings key).shown settings.list ≠ session.browser.shown settings.list ∧
    (session.after settings key).wantsRedraw = false

/-- A key press that moves the cursor or the viewport of a view of plain rows. -/
structure MovesRows (browser : Browser) (pendingTop : Bool) (key : Key) : Prop where
  normal : browser.inputMode = .normal
  silent : browser.status = none
  plain : browser.activeView.list? = none
  moves : ∃ steering moved, key.steering? browser.activeView pendingTop = some steering ∧
    browser.activeView.steer? steering = some moved ∧
      (moved.cursorIndex? ≠ browser.activeView.cursorIndex? ∨
        moved.offset ≠ browser.activeView.offset)

namespace LosesRedraw

theorem unnoticed (loses : session.LosesRedraw settings key) :
    ¬ session.browser.Noticed settings.list (session.after settings key) := by
  intro noticed
  rcases noticed.shows with wanted | same
  · rw [loses.2] at wanted
    cases wanted
  · exact loses.1 same

theorem quiet (loses : session.LosesRedraw settings key) :
    (session.after settings key).redraw = false := by
  by_contra redraw
  have wanted := Browser.wantsRedraw_of_redraw (by simpa using redraw)
  rw [loses.2] at wanted
  cases wanted

/-- Only where plain rows are moved is a redraw lost. -/
theorem movesRows (loses : session.LosesRedraw settings key) :
    MovesRows session.browser session.pendingTop key := by
  have unnoticed := loses.unnoticed
  have quiet := loses.quiet
  have normal : session.browser.inputMode = .normal := by
    by_contra typing
    exact unnoticed (after_noticed_of_input typing)
  cases steers : key.steering? session.browser.activeView session.pendingTop with
  | none => exact absurd (after_noticed_of_no_steering normal steers) unnoticed
  | some steering =>
    have pressed : session.after settings key = session.browser.clearStatus.steer steering :=
      after_of_steering normal steers
    rw [pressed] at quiet
    -- A status would have been cleared by the key, and that is drawn.
    obtain ⟨silent, cleared⟩ :=
      session.browser.clearStatus_eq_self (Browser.redraw_of_steer _ quiet)
    rw [cleared] at pressed quiet
    have plain : session.browser.activeView.list? = none := by
      cases lists : session.browser.activeView.list? with
      | none => rfl
      | some list =>
        rw [pressed] at unnoticed
        exact absurd (session.browser.steer_noticed lists steering) unnoticed
    refine ⟨normal, silent, plain, steering, ?_⟩
    cases steered : session.browser.activeView.steer? steering with
    | none =>
      rw [Browser.steer_redraw _ steered] at quiet
      cases quiet
    | some moved =>
      refine ⟨moved, steers, rfl, ?_⟩
      obtain ⟨change, same, rfl⟩ := session.browser.steer_eq_modifyActive steered
      by_contra unmoved
      rw [not_or, not_not, not_not] at unmoved
      apply loses.1
      rw [pressed, same]
      exact Browser.shown_modifyActive_of_rows plain steered unmoved.1 unmoved.2

end LosesRedraw

/-- Wherever plain rows are moved a redraw is lost, unless one was wanted already. -/
theorem MovesRows.losesRedraw (quiet : session.browser.redraw = false)
    (moves : MovesRows session.browser session.pendingTop key) :
    session.LosesRedraw settings key := by
  obtain ⟨normal, silent, plain, steering, moved, steers, steered, differs⟩ := moves
  have cleared : session.browser.clearStatus = session.browser := by
    simp [Browser.clearStatus, silent]
  obtain ⟨change, same, rfl⟩ := session.browser.steer_eq_modifyActive steered
  have pressed : session.after settings key = session.browser.modifyActive change := by
    rw [after_of_steering normal steers, cleared, same]
  have changed := Browser.activeView_modifyActive (Browser.active_lt_of_rows plain) change
  constructor
  · intro unchanged
    have index := congrArg Shown.cursorIndex? unchanged
    have offset := congrArg Shown.offset unchanged
    rw [pressed] at index offset
    simp only [Browser.shown, changed] at index offset
    rcases differs with other | other
    · exact other index
    · exact other offset
  · obtain ⟨rows, cursor, content⟩ := View.rows_of_list?_eq_none plain
    obtain ⟨after, moved, _⟩ := View.steer?_rows content steered
    have lists : (session.browser.modifyActive change).activeList? = none := by
      rw [Browser.activeList?, changed, moved]
      rfl
    have unasked : (session.browser.modifyActive change).redraw = false := quiet
    rw [pressed, Browser.wantsRedraw, lists, unasked]
    rfl

/-- Right after the redraws were cleared, a key press changes the screen without a redraw being
wanted exactly when it moves the cursor or the viewport of a view of plain rows: a key that steers
them, while the input line is closed, no status is shown and scrolling is not refused.  So none is
lost while the active view shows tracks. -/
theorem losesRedraw_iff (browser : Browser) (pendingTop : Bool) (settings : Settings) (key : Key) :
    LosesRedraw ⟨browser.clearRedraw, pendingTop⟩ settings key ↔
      MovesRows browser pendingTop key := by
  constructor
  · intro loses
    obtain ⟨normal, silent, plain, moves⟩ := loses.movesRows
    rw [Browser.clearRedraw_list?_eq_none] at plain
    rw [Browser.clearRedraw_activeView plain] at moves
    exact ⟨normal, silent, plain, moves⟩
  · intro moves
    apply MovesRows.losesRedraw rfl
    have same := Browser.clearRedraw_activeView moves.plain
    refine ⟨moves.normal, moves.silent, Browser.clearRedraw_list?_eq_none.mpr moves.plain, ?_⟩
    rw [same]
    exact moves.moves

/-- A program that shows a list of key bindings. -/
def bindingsBrowser : Browser :=
  .ofViews [.ofRows .bindings "Keys" ["a", "b"]]

/-- Going one row down in the list of key bindings does not reach the screen. -/
theorem losesRedraw_down :
    LosesRedraw ⟨bindingsBrowser.clearRedraw, false⟩ {} { code := .char 'j' } := by
  apply MovesRows.losesRedraw rfl
  exact ⟨rfl, rfl, rfl, .move 1, _, rfl, rfl, .inl (by decide)⟩

end Session

end TrackBrowser