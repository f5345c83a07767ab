/-
Module: TrackBrowser.Proofs.Browser.Steering
Purpose: The keys that steer the cursor of the active view, and all other keys.
-/
import TrackBrowser.Proofs.Browser.Commands
import TrackBrowser.Proofs.Cursor.Viewport

/-!
A key press either steers the cursor of the active view, and then it does nothing else but take the
status away, or it is noticed.  Steering itself is noticed where the view shows tracks, since a list
asks for a redraw when its cursor is steered, and where a view refuses to scroll, since a refusal is
reported.
-/

namespace TrackBrowser

/-! ### Steering -/

/-- What a key may ask of the cursor of a view. -/
inductive Steering where
  | move (delta : Int)
  | put (index : Nat)
  | scroll (delta : Int)
  deriving DecidableEq, Repr, Inhabited

/-- What a character key asks of the cursor of the active view, if it is a key that steers. -/
def charSteering? (view : View) (pendingTop : Bool) (c : Char) (control : Bool) :
    Option Steering :=
  let page := signedRows (max view.height 1)
  let half := max (page.tdiv 2) 1
  match c with
  | 'd' => if control then some (.scroll half) else none
  | 'u' => if control then some (.scroll (-half)) else none
  | 'e' => if control then some (.scroll 1) else none
  | 'y' => if control then some (.scroll (-1)) else none
  | 'j' => some (.move 1)
  | 'k' => some (.move (-1))
  | 'g' => if pendingTop then some (.put 0) else none
  | 'G' => some (.put (view.size - 1))
  | _ => none

/-- What a key asks of the cursor of the active view, if it is a key that steers. -/
def Key.steering? (key : Key) (view : View) (pendingTop : Bool) : Option Steering :=
  let page := signedRows (max view.height 1)
  match key.code with
  | .char c => charSteering? view pendingTop c key.control
  | .pageDown => some (.scroll page)
  | .pageUp => some (.scroll (-page))
  | .down => some (.move 1)
  | .up => some (.move (-1))
  | .escape | .enter | .backspace | .tab | .backTab | .other => none

/-- The view after its cursor was steered, unless it refused to scroll that far. -/
def View.steer? (view : View) : Steering → Option View
  | .move delta => some (view.moveCursor delta).1
  | .put index => some (view.putCursor index).1
  | .scroll delta => if (view.scroll delta).2 then some (view.scroll delta).1 else none

/-! ### Steered cursors -/

namespace View

variable {view moved : View} {steering : Steering}

/-- A list asks for a redraw when its cursor is steered. -/
theorem steer?_list {list : TrackList} (tracks : view.list? = some list)
    (steered : view.steer? steering = some moved) :
    ∃ after, moved.list? = some after ∧ after.redraw = true := by
  obtain ⟨kind, title, content⟩ := view
  cases content with
  | rows rows cursor => cases tracks
  | tracks list =>
    cases steering with
    | move delta =>
      cases steered
      exact ⟨(list.moveCursor delta).1, rfl, rfl⟩
    | put index =>
      cases steered
      exact ⟨(list.putCursor index).1, rfl, rfl⟩
    | scroll delta =>
      simp only [steer?] at steered
      split at steered
      · cases steered
        exact ⟨(list.scroll delta).1, rfl, rfl⟩
      · cases steered

/-- Steering the cursor of plain rows changes nothing else. -/
theorem steer?_rows {rows : List String} {cursor : Cursor}
    (plain : view.content = .rows rows cursor) (steered : view.steer? steering = some moved) :
    ∃ after : Cursor, moved = { view with content := .rows rows after } ∧
      after.height = cursor.height := by
  obtain ⟨kind, title, content⟩ := view
  cases plain
  cases steering with
  | move delta =>
    cases steered
    exact ⟨_, rfl, cursor.move_height rows.length delta⟩
  | put index =>
    cases steered
    exact ⟨_, rfl, cursor.put_height rows.length index⟩
  | scroll delta =>
    simp only [steer?] at steered
    split at steered
    · cases steered
      exact ⟨_, rfl, cursor.scroll_height rows.length delta⟩
    · cases steered

end View

namespace Browser

variable {settings : ListSettings} (browser : Browser)

/-- Steers the cursor of the active view. -/
def steer (browser : Browser) : Steering → Browser
  | .move delta => browser.moveActive delta
  | .put index => browser.putActive index
  | .scroll delta => browser.scrollActive delta

/-- A refusal to scroll is reported. -/
theorem steer_redraw {steering : Steering} (refused : browser.activeView.steer? steering = none) :
    (browser.steer steering).redraw = true := by
  cases steering with
  | move delta => cases refused
  | put index => cases refused
  | scroll delta =>
    have complied : (browser.activeView.scroll delta).2 = false := by
      simpa [View.steer?] using refused
    simp only [steer, scrollActive, onActive, complied]
    rfl

/-- Steering is a change of the active view alone unless it is refused. -/
theorem steer_eq_modifyActive {steering : Steering} {moved : View}
    (steered : browser.activeView.steer? steering = some moved) :
    ∃ change, browser.steer steering = browser.modifyActive change ∧
      change browser.activeView = moved := by
  cases steering with
  | move delta => exact ⟨_, rfl, Option.some.inj steered⟩
  | put index => exact ⟨_, rfl, Option.some.inj steered⟩
  | scroll delta =>
    simp only [View.steer?] at steered
    split at steered
    · rename_i complied
      refine ⟨fun view => (view.scroll delta).1, ?_, Option.some.inj steered⟩
      simp only [steer, scrollActive, onActive, complied]
    · cases steered

/-- Steering does not take back that a redraw is wanted. -/
theorem redraw_of_steer {steering : Steering} (quiet : (browser.steer steering).redraw = false) :
    browser.redraw = false := by
  cases steered : browser.activeView.steer? steering with
  | none =>
    rw [browser.steer_redraw steered] at quiet
    cases quiet
  | some moved =>
    obtain ⟨change, same, _⟩ := browser.steer_eq_modifyActive steered
    rw [same] at quiet
    exact quiet

/-- Steering the cursor of a list is noticed. -/
theorem steer_noticed {list : TrackList} (tracks : browser.activeView.list? = some list)
    (steering : Steering) : Noticed settings browser (browser.steer steering) := by
  cases steered : browser.activeView.steer? steering with
  | none => exact .of_redraw (browser.steer_redraw steered)
  | some moved =>
    obtain ⟨after, there, redraw⟩ := View.steer?_list tracks steered
    obtain ⟨change, same, rfl⟩ := browser.steer_eq_modifyActive steered
    rw [same]
    rcases browser.modifyActive_cases change with changed | unchanged
    · apply Noticed.of_wantsRedraw
      apply wantsRedraw_of_list _ redraw
      rw [activeList?, changed, there]
    · rw [unchanged]
      exact .refl browser

end Browser

/-! ### Keys -/

namespace Browser

variable {settings : Settings} {browser : Browser} {pendingTop : Bool}

/-- A character that steers does nothing else. -/
theorem pressChar_of_steering {c : Char} {control : Bool} {steering : Steering} (other : c ≠ 'g')
    (steers : charSteering? browser.activeView pendingTop c control = some steering) :
    browser.pressChar settings c control = browser.steer steering := by
  unfold charSteering? at steers
  dsimp only at steers
  split at steers
  · cases control with
    | false => cases steers
    | true =>
      cases steers
      rfl
  · cases control with
    | false => cases steers
    | true =>
      cases steers
      rfl
  · cases control with
    | false => cases steers
    | true =>
      cases steers
      rfl
  · cases control with
    | false => cases steers
    | true =>
      cases steers
      rfl
  · cases steers
    rfl
  · cases steers
    rfl
  · exact absurd rfl other
  · cases steers
    rfl
  · cases steers

/-- What a character does that does not steer is noticed. -/
theorem pressChar_noticed {c : Char} {control : Bool}
    (none : charSteering? browser.activeView pendingTop c control = none) :
    Noticed settings.list browser (browser.pressChar settings c control) := by
  unfold pressChar
  dsimp only
  split
  · cases control with
    | false => exact .of_redraw browser.removeSelected_redraw
    | true => cases none
  · cases control with
    | false => exact .refl browser
    | true => cases none
  · cases control with
    | false => exact .refl browser
    | true => cases none
  · cases control with
    | false => exact .refl browser
    | true => cases none
  · cases none
  · cases none
  · cases none
  · exact .of_redraw rfl
  · exact .of_redraw (browser.repeatSearch_redraw false)
  · exact .of_redraw (browser.repeatSearch_redraw true)
  · exact .of_redraw browser.beginFilter_redraw
  · exact .of_redraw browser.popFilter_redraw
  · exact browser.jumpGroup_noticed .artist true
  · exact browser.jumpGroup_noticed .artist false
  · exact browser.jumpGroup_noticed .album true
  · exact browser.jumpGroup_noticed .album false
  · exact browser.toggleSelect_noticed
  · exact .of_redraw (browser.selectSame_redraw .artist)
  · exact .modifyActiveList fun list _ => .selectEach list _ _
  · exact browser.addToPlaylist_noticed
  · exact .modifyActiveList fun list _ => .sort list _
  · exact browser.shuffleActive_noticed
  · exact .of_redraw rfl
  · exact .of_redraw browser.saveAsPlaylist_redraw
  · exact .refl browser

/-- A key that steers does nothing else. -/
theorem pressNormal_of_steering {key : Key} {steering : Steering} (other : key.code ≠ .char 'g')
    (steers : key.steering? browser.activeView pendingTop = some steering) :
    browser.pressNormal settings key = browser.steer steering := by
  obtain ⟨code, control⟩ := key
  cases code with
  | char c =>
    apply pressChar_of_steering _ steers
    rintro rfl
    exact other rfl
  | pageDown | pageUp | down | up =>
    cases steers
    rfl
  | escape | enter | backspace | tab | backTab | other => cases steers

/-- What a key does that does not steer is noticed. -/
theorem pressNormal_noticed {key : Key}
    (none : key.steering? browser.activeView pendingTop = none) :
    Noticed settings.list browser (browser.pressNormal settings key) := by
  obtain ⟨code, control⟩ := key
  cases code with
  | char c => exact pressChar_noticed none
  | pageDown | pageUp | down | up => cases none
  | escape => exact .modifyActiveList fun list _ => .clearFilters list
  | tab => exact browser.activate_noticed _
  | backTab => exact browser.activate_noticed _
  | enter => exact browser.openWindow_noticed
  | backspace | other => exact .refl browser

end Browser

namespace Session

variable {settings : Settings} {session : Session} {key : Key}

/-- The program after a key press. -/
def after (session : Session) (settings : Settings) (key : Key) : Browser :=
  (session.press settings key).1.browser

/-- A key that feeds the input line is noticed. -/
theorem after_noticed_of_input (typing : session.browser.inputMode ≠ .normal) :
    session.browser.Noticed settings.list (session.after settings key) := by
  unfold after press
  rw [if_pos typing]
  exact session.browser.pressInput_noticed key

/-- Every other key takes the status away first. -/
theorem after_of_normal (normal : session.browser.inputMode = .normal) :
    session.after settings key =
      if key.code = .char 'g' then
        if session.pendingTop then session.browser.clearStatus.putActive 0
        else session.browser.clearStatus
      else if key.code = .char 'q' then session.browser.clearStatus
      else session.browser.clearStatus.pressNormal settings key := by
  unfold after press
  rw [if_neg (by simp [normal])]
  dsimp only
  split
  · rename_i top
    rw [if_pos top]
    split <;> rfl
  · rename_i quit
    rw [if_neg (by simp [quit]), if_pos quit]
  · rename_i other another
    rw [if_neg other, if_neg another]

/-- A key that steers takes the status away and steers. -/
theorem after_of_steering (normal : session.browser.inputMode = .normal) {steering : Steering}
    (steers : key.steering? session.browser.activeView session.pendingTop = some steering) :
    session.after settings key = session.browser.clearStatus.steer steering := by
  rw [after_of_normal normal]
  rw [← session.browser.clearStatus_activeView] at steers
  obtain ⟨code, control⟩ := key
  split
  · rename_i top
    cases top
    cases pending : session.pendingTop with
    | true =>
      simp only [Key.steering?, charSteering?, pending, if_true] at steers
      cases steers
      rfl
    | false => simp [Key.steering?, charSteering?, pending] at steers
  · rename_i other
    split
    · rename_i quit
      cases quit
      cases steers
    · exact Browser.pressNormal_of_steering other steers

/-- A key that does not steer is noticed. -/
theorem after_noticed_of_no_steering (normal : session.browser.inputMode = .normal)
    (none : key.steering? session.browser.activeView session.pendingTop = none) :
    session.browser.Noticed settings.list (session.after settings key) := by
  have cleared : session.browser.Noticed settings.list session.browser.clearStatus :=
    session.browser.clearStatus_noticed
  rw [after_of_normal normal]
  rw [← session.browser.clearStatus_activeView] at none
  obtain ⟨code, control⟩ := key
  split
  · rename_i top
    cases top
    cases pending : session.pendingTop with
    | true => simp [Key.steering?, charSteering?, pending] at none
    | false => exact cleared
  · split
    · exact cleared
    · exact cleared.trans (Browser.pressNormal_noticed none)

end Session

end TrackBrowser
