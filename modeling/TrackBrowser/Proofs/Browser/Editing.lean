/-
Module: TrackBrowser.Proofs.Browser.Editing
Purpose: What commands and keys do to the views of the program.
-/
import TrackBrowser.Proofs.Browser.Commands
import TrackBrowser.Proofs.Browser.Picking
import TrackBrowser.Proofs.Browser.ViewportAgreement

/-!
A view is `Edited` when its list is handled or its cursor steered: its role, its title and its plain
rows stay.  Most commands edit the active view and leave all others alone.  `pressed` says of every
key press that it does this, or switches to another view, or is one of the two commands that reach
other views: copying to the playlist, and saving as a new one.

The random order of a shuffle is taken to be any arrangement, so that what is proved of key presses
does not hang on the generator.
-/

namespace TrackBrowser

/-! ### Steered cursors -/

/-- What operations in a list of `size` rows have made of a cursor. -/
inductive Cursor.Steered (size : Nat) (start : Cursor) : Cursor → Prop where
  | start : Steered size start start
  | perform {cursor : Cursor} (steered : Steered size start cursor) (operation : Cursor.Operation) :
      Steered size start (cursor.perform size operation)

theorem Cursor.Steered.trans {size : Nat} {first second third : Cursor}
    (before : Cursor.Steered size first second) (after : Cursor.Steered size second third) :
    Cursor.Steered size first third := by
  induction after with
  | start => exact before
  | perform _ operation ih => exact ih.perform operation

/-! ### Edited views -/

/-- The second view is what handling the list of the first, or steering its cursor, has made of
it. -/
inductive View.Edited : View → View → Prop where
  | tracks (kind : ViewKind) (title : String) {before after : TrackList}
      (handled : before.Handled after) :
      Edited ⟨kind, title, .tracks before⟩ ⟨kind, title, .tracks after⟩
  | rows (kind : ViewKind) (title : String) (rows : List String) {before after : Cursor}
      (steered : Cursor.Steered rows.length before after) :
      Edited ⟨kind, title, .rows rows before⟩ ⟨kind, title, .rows rows after⟩

namespace View.Edited

variable {view middle after : View}

theorem refl (view : View) : view.Edited view := by
  obtain ⟨kind, title, content⟩ := view
  cases content with
  | tracks list => exact .tracks kind title .start
  | rows rows cursor => exact .rows kind title rows .start

theorem trans (first : view.Edited middle) (second : middle.Edited after) : view.Edited after := by
  cases first with
  | tracks kind title before =>
    cases second with
    | tracks _ _ later => exact .tracks kind title (before.trans later)
  | rows kind title rows before =>
    cases second with
    | rows _ _ _ later => exact .rows kind title rows (before.trans later)

theorem kind_eq (edited : view.Edited after) : after.kind = view.kind := by
  cases edited <;> rfl

theorem title_eq (edited : view.Edited after) : after.title = view.title := by
  cases edited <;> rfl

/-- An edited view has plain rows only if it had the same before. -/
theorem rows_eq (edited : view.Edited after) {rows : List String} {cursor : Cursor}
    (plain : after.content = .rows rows cursor) : ∃ before, view.content = .rows rows before := by
  cases edited with
  | tracks => cases plain
  | rows =>
    cases plain
    exact ⟨_, rfl⟩

/-- An edited view has a list if it had one, and that list was handled. -/
theorem list?_eq (edited : view.Edited after) {list : TrackList} (tracks : view.list? = some list) :
    ∃ later, after.list? = some later ∧ list.Handled later := by
  cases edited with
  | tracks _ _ handled =>
    cases tracks
    exact ⟨_, rfl, handled⟩
  | rows => cases tracks

/-- Changing the list of a view by handling it edits the view. -/
theorem modifyList {change : TrackList → TrackList}
    (handled : ∀ list, view.list? = some list → list.Handled (change list)) :
    view.Edited (view.modifyList change) := by
  obtain ⟨kind, title, content⟩ := view
  cases content with
  | tracks list => exact .tracks kind title (handled list rfl)
  | rows rows cursor => exact refl _

/-- Steering the cursor of a view edits the view. -/
theorem perform (view : View) (operation : Cursor.Operation) :
    view.Edited (view.perform operation).1 := by
  obtain ⟨kind, title, content⟩ := view
  cases content with
  | rows rows cursor =>
    rw [View.perform_rows]
    exact .rows kind title rows (.perform .start operation)
  | tracks list =>
    cases operation with
    | setMode mode => exact .tracks kind title (.perform .start (.setScrollMode mode) rfl)
    | setScrolloff scrolloff =>
      exact .tracks kind title (.perform .start (.setScrolloff scrolloff) rfl)
    | setWrap wrap => exact .tracks kind title (.perform .start (.setWrap wrap) rfl)
    | setHeight height => exact .tracks kind title (.perform .start (.setHeight height) rfl)
    | move delta => exact .tracks kind title (.perform .start (.moveCursor delta) rfl)
    | put index => exact .tracks kind title (.perform .start (.putCursor index) rfl)
    | scroll delta => exact .tracks kind title (.perform .start (.scroll delta) rfl)

end View.Edited

namespace Browser

open TrackList (Handled)

/-! ### Edits of one view -/

/-- At most the view at an index is changed, by an edit, and the same view is active. -/
structure Edits (index : Nat) (before after : Browser) : Prop where
  active : after.active = before.active
  length : after.views.length = before.views.length
  here : ∀ {view : View}, before.views[index]? = some view →
    ∃ later, after.views[index]? = some later ∧ view.Edited later
  elsewhere : ∀ {other : Nat}, other ≠ index → after.views[other]? = before.views[other]?

namespace Edits

variable {index : Nat} {before middle after other : Browser}

/-- A change of anything but the views. -/
theorem of_views (views : after.views = before.views) (active : after.active = before.active) :
    Edits index before after where
  active := active
  length := by rw [views]
  here := fun {view} there => ⟨view, by rw [views, there], .refl view⟩
  elsewhere := fun _ => by rw [views]

theorem refl (index : Nat) (browser : Browser) : Edits index browser browser :=
  of_views rfl rfl

theorem trans (first : Edits index before middle) (second : Edits index middle after) :
    Edits index before after where
  active := second.active.trans first.active
  length := second.length.trans first.length
  here := by
    intro view there
    obtain ⟨between, found, edited⟩ := first.here there
    obtain ⟨later, last, again⟩ := second.here found
    exact ⟨later, last, edited.trans again⟩
  elsewhere := fun away => (second.elsewhere away).trans (first.elsewhere away)

/-- Changing anything but the views as well. -/
theorem congr (edits : Edits index before after) (views : other.views = after.views)
    (active : other.active = after.active) : Edits index before other :=
  edits.trans (of_views views active)

/-- Editing the view at an index. -/
theorem modify {change : View → View}
    (edited : ∀ view, before.views[index]? = some view → view.Edited (change view)) :
    Edits index before { before with views := before.views.modify index change } where
  active := rfl
  length := List.length_modify _ _ _
  here := by
    intro view there
    refine ⟨change view, ?_, edited view there⟩
    simp [there]
  elsewhere := fun away => List.getElem?_modify_ne _ _ away.symm

/-- Handling the list at an index. -/
theorem modifyList {change : TrackList → TrackList}
    (handled : ∀ view list, before.views[index]? = some view → view.list? = some list →
      list.Handled (change list)) :
    Edits index before
      { before with views := before.views.modify index fun view => view.modifyList change } :=
  modify fun view there => .modifyList fun list tracks => handled view list there tracks

end Edits

variable (browser : Browser)

/-- The view at the active index is the active view. -/
theorem activeView_eq {view : View} (there : browser.views[browser.active]? = some view) :
    browser.activeView = view := by
  rw [activeView, there, Option.getD_some]

/-- Its list is the active list. -/
theorem activeList?_eq {view : View} (there : browser.views[browser.active]? = some view) :
    browser.activeList? = view.list? := by
  rw [activeList?, browser.activeView_eq there]

/-- Handling the active list. -/
theorem modifyActiveList_edits {change : TrackList → TrackList}
    (handled : ∀ list, browser.activeList? = some list → list.Handled (change list)) :
    browser.Edits browser.active (browser.modifyActiveList change) := by
  apply Edits.modifyList
  intro view list there tracks
  apply handled
  rw [browser.activeList?_eq there, tracks]

/-- Replacing the active list by what handling has made of it. -/
theorem setActiveList_edits {list handled : TrackList} (active : browser.activeList? = some list)
    (handles : list.Handled handled) :
    browser.Edits browser.active (browser.setActiveList handled) := by
  apply modifyActiveList_edits
  intro old same
  rw [active] at same
  cases same
  exact handles

/-- Steering the active view. -/
theorem modifyActive_edits (operation : Cursor.Operation) :
    browser.Edits browser.active
      (browser.modifyActive fun view => (view.perform operation).1) :=
  .modify fun view _ => .perform view operation

@[simp] theorem report_views (outcome : Except ListError String) :
    (browser.report outcome).views = browser.views := by
  cases outcome <;> rfl

@[simp] theorem report_active (outcome : Except ListError String) :
    (browser.report outcome).active = browser.active := by
  cases outcome <;> rfl

@[simp] theorem clearStatus_views : browser.clearStatus.views = browser.views := by
  unfold clearStatus
  split <;> rfl

@[simp] theorem clearStatus_active : browser.clearStatus.active = browser.active := by
  unfold clearStatus
  split <;> rfl

theorem clearStatus_edits : browser.Edits browser.active browser.clearStatus :=
  .of_views browser.clearStatus_views browser.clearStatus_active

/-- An edit after the status line was emptied. -/
theorem Edits.of_clearStatus {after : Browser}
    (edits : browser.clearStatus.Edits browser.clearStatus.active after) :
    browser.Edits browser.active after := by
  rw [clearStatus_active] at edits
  exact browser.clearStatus_edits.trans edits

/-! ### The input line -/

theorem beginFilter_edits : browser.Edits browser.active browser.beginFilter := by
  unfold beginFilter
  split <;> exact .of_views rfl rfl

theorem inputChanged_edits : browser.Edits browser.active browser.inputChanged := by
  unfold inputChanged
  dsimp only
  split
  · exact .of_views rfl rfl
  · split
    · exact .of_views rfl rfl
    · rename_i list active
      have moved : list.Handled (list.putCursor (browser.markRedraw.searchOrigin.getD 0)).1 :=
        .perform .start (.putCursor _) rfl
      have marked : browser.Edits browser.active browser.markRedraw := .of_views rfl rfl
      split
      · exact marked.trans (browser.markRedraw.setActiveList_edits active moved)
      · split
        · rename_i searched
          have found := moved.trans (.search searched)
          exact (marked.trans (browser.markRedraw.setActiveList_edits active found)).congr
            (clearStatus_views _) (clearStatus_active _)
        · exact (marked.trans (browser.markRedraw.setActiveList_edits active moved)).congr rfl rfl

theorem addFilter_edits (pattern : String) :
    browser.Edits browser.active (browser.addFilter pattern) := by
  unfold addFilter
  split
  · exact .of_views rfl rfl
  · rename_i list active
    split
    · exact .of_views rfl rfl
    · have filtered : list.Handled (list.addFilter pattern .all).1 :=
        .perform .start (.addFilter pattern .all) rfl
      exact (browser.setActiveList_edits active filtered).congr rfl rfl

theorem commitInput_edits : browser.Edits browser.active browser.commitInput := by
  unfold commitInput
  dsimp only
  split
  · exact .of_views rfl rfl
  · exact .of_views rfl rfl
  · let ended : Browser := { browser with input := "", inputMode := .normal }
    have begun : browser.Edits browser.active ended := .of_views rfl rfl
    exact (begun.trans (ended.addFilter_edits browser.input)).congr rfl rfl

theorem cancelInput_edits : browser.Edits browser.active browser.cancelInput := by
  unfold cancelInput
  dsimp only
  split
  · split
    · rename_i origin _
      have moved : browser.Edits browser.active
          (browser.modifyActiveList fun list => (list.putCursor origin).1) :=
        browser.modifyActiveList_edits fun list _ => .perform .start (.putCursor origin) rfl
      exact moved.congr rfl rfl
    · exact .of_views rfl rfl
  · exact .of_views rfl rfl

/-- A key that feeds the input line. -/
theorem pressInput_edits (key : Key) : browser.Edits browser.active (browser.pressInput key) := by
  unfold pressInput
  split
  · exact browser.cancelInput_edits
  · exact browser.commitInput_edits
  · let shorter : Browser :=
      { browser with input := String.ofList browser.input.toList.dropLast }
    have cut : browser.Edits browser.active shorter := .of_views rfl rfl
    exact cut.trans shorter.inputChanged_edits
  · rename_i c _
    split
    · exact .refl _ browser
    · let longer : Browser := { browser with input := browser.input.push c }
      have typed : browser.Edits browser.active longer := .of_views rfl rfl
      exact typed.trans longer.inputChanged_edits
  · exact .refl _ browser

/-! ### Commands on the active view -/

theorem repeatSearch_edits (backwards : Bool) :
    browser.Edits browser.active (browser.repeatSearch backwards) := by
  unfold repeatSearch
  split
  · exact .of_views rfl rfl
  · split
    · exact .of_views rfl rfl
    · rename_i list active
      split
      · exact .of_views rfl rfl
      · rename_i searched
        exact (browser.setActiveList_edits active (.search searched)).congr rfl rfl

theorem popFilter_edits : browser.Edits browser.active browser.popFilter := by
  unfold popFilter
  split
  · exact .of_views rfl rfl
  · rename_i shorter filter popped
    obtain ⟨list, active, popped⟩ := Option.bind_eq_some_iff.mp popped
    have handled : list.Handled (list.perform .popFilter) := .perform .start .popFilter rfl
    simp only [TrackList.perform, popped, Option.map_some, Option.getD_some] at handled
    exact (browser.setActiveList_edits active handled).congr rfl rfl

theorem jumpGroup_edits (field : Field) (forward : Bool) :
    browser.Edits browser.active (browser.jumpGroup field forward) := by
  unfold jumpGroup
  split
  · exact .refl _ browser
  · rename_i list active
    split
    · rename_i index _
      exact browser.setActiveList_edits active (.perform .start (.putCursor index) rfl)
    · exact .of_views rfl rfl

theorem toggleSelect_edits : browser.Edits browser.active browser.toggleSelect := by
  apply modifyActiveList_edits
  intro list _
  split
  · exact .start
  · rename_i index _
    have selected : list.Handled (list.select index .toggle).1 :=
      .perform .start (.select index .toggle) rfl
    exact selected.perform (.moveCursor 1) rfl

theorem selectSame_edits (field : Field) :
    browser.Edits browser.active (browser.selectSame field) := by
  unfold selectSame
  split
  · exact .of_views rfl rfl
  · rename_i list active
    split
    · exact .of_views rfl rfl
    · rename_i track _
      have selected : list.Handled
          (list.selectMatching (track.text field) field.mask 0 .select).1 :=
        .perform .start (.selectMatching _ _ _ _) rfl
      exact (browser.setActiveList_edits active selected).congr rfl rfl

theorem removeSelected_edits : browser.Edits browser.active browser.removeSelected := by
  unfold removeSelected
  split
  · exact .of_views rfl rfl
  · rename_i list active
    split
    · exact .of_views rfl rfl
    · have walked : list.Handled (collectSelected (list.size + 1) list.restartWalks).1 :=
        Handled.trans (.perform .start .restartWalks rfl) (collectSelected_handled _ _)
      have removed := walked.trans (removeEach_handled _
        (collectSelected (list.size + 1) list.restartWalks).2.reverse)
      exact (browser.setActiveList_edits active removed).congr (report_views _ _)
        (report_active _ _)

theorem scrollActive_edits (delta : Int) :
    browser.Edits browser.active (browser.scrollActive delta) := by
  have scrolled := browser.modifyActive_edits (.scroll delta)
  unfold scrollActive onActive
  split <;> rename_i done
  · cases (Prod.mk.inj done).1
    exact scrolled
  · cases (Prod.mk.inj done).1
    exact scrolled.congr rfl rfl

/-! ### Switching -/

/-- Another view, or the same one, is active, and no view is changed. -/
structure Switches (before after : Browser) : Prop where
  inside : before.active < before.views.length → after.active < before.views.length
  views : after.views = before.views

/-- A switch after the status line was emptied. -/
theorem Switches.of_clearStatus {after : Browser} (switches : browser.clearStatus.Switches after) :
    browser.Switches after := by
  obtain ⟨inside, views⟩ := switches
  rw [clearStatus_active, clearStatus_views] at inside
  exact ⟨inside, views.trans browser.clearStatus_views⟩

theorem activate_switches (index : Nat) : browser.Switches (browser.activate index).1 := by
  unfold activate
  split
  · exact ⟨id, rfl⟩
  · rename_i inside
    split
    · exact ⟨id, rfl⟩
    · exact ⟨fun _ => by simpa using inside, rfl⟩

theorem openWindow_switches : browser.Switches browser.openWindow := by
  unfold openWindow
  split
  · split
    · exact browser.activate_switches _
    · exact ⟨id, rfl⟩
  · exact ⟨id, rfl⟩

end Browser

/-! ### Key presses -/

namespace Browser

/-- What a key press comes to: an edit of the active view, a switch to another view, or a command
that reaches other views. -/
inductive Pressed (before : Browser) : Browser → Prop where
  | edit {after : Browser} (edits : before.Edits before.active after) : Pressed before after
  | switch {after : Browser} (switches : before.Switches after) : Pressed before after
  | copy : Pressed before before.addToPlaylist
  | save : Pressed before before.saveAsPlaylist

variable (settings : Settings) (browser : Browser)

/-- A character key other than the two that copy and save. -/
theorem pressChar_edits {c : Char} (copies : c ≠ 'a') (saves : c ≠ 'w') (control : Bool) :
    browser.Edits browser.active (browser.pressChar settings c control) := by
  unfold pressChar
  dsimp only
  split
  · cases control with
    | false => exact browser.removeSelected_edits
    | true => exact browser.scrollActive_edits _
  · cases control with
    | false => exact .refl _ browser
    | true => exact browser.scrollActive_edits _
  · cases control with
    | false => exact .refl _ browser
    | true => exact browser.scrollActive_edits 1
  · cases control with
    | false => exact .refl _ browser
    | true => exact browser.scrollActive_edits (-1)
  · exact browser.modifyActive_edits (.move 1)
  · exact browser.modifyActive_edits (.move (-1))
  · exact browser.modifyActive_edits (.put (browser.activeView.size - 1))
  · exact .of_views rfl rfl
  · exact browser.repeatSearch_edits false
  · exact browser.repeatSearch_edits true
  · exact browser.beginFilter_edits
  · exact browser.popFilter_edits
  · exact browser.jumpGroup_edits .artist true
  · exact browser.jumpGroup_edits .artist false
  · exact browser.jumpGroup_edits .album true
  · exact browser.jumpGroup_edits .album false
  · exact browser.toggleSelect_edits
  · exact browser.selectSame_edits .artist
  · exact browser.modifyActiveList_edits fun list _ => .perform .start (.selectAll .deselect) rfl
  · exact absurd rfl copies
  · exact browser.modifyActiveList_edits fun list _ =>
      .perform .start (.sort settings.list.sort) rfl
  · have shuffled : browser.Edits browser.active
        (browser.modifyActiveList fun list => list.shuffle browser.seed) :=
      browser.modifyActiveList_edits fun list _ =>
        .perform .start (.shuffle browser.seed.arrangement) rfl
    exact shuffled.congr rfl rfl
  · exact (browser.modifyActive_edits (.setMode browser.activeView.scrollMode.next)).congr rfl rfl
  · exact absurd rfl saves
  · exact .refl _ browser

/-- A key other than the two that copy and save edits the active view or switches to another. -/
theorem pressNormal_edits_or_switches (key : Key) (copies : key.code ≠ .char 'a')
    (saves : key.code ≠ .char 'w') :
    browser.Edits browser.active (browser.pressNormal settings key) ∨
      browser.Switches (browser.pressNormal settings key) := by
  obtain ⟨code, control⟩ := key
  cases code with
  | char c =>
    exact .inl (browser.pressChar_edits settings (fun same => copies (congrArg _ same))
      (fun same => saves (congrArg _ same)) control)
  | pageDown => exact .inl (browser.scrollActive_edits _)
  | pageUp => exact .inl (browser.scrollActive_edits _)
  | down => exact .inl (browser.modifyActive_edits (.move 1))
  | up => exact .inl (browser.modifyActive_edits (.move (-1)))
  | escape =>
    exact .inl (browser.modifyActiveList_edits fun list _ => .perform .start .clearFilters rfl)
  | tab => exact .inr (browser.activate_switches _)
  | backTab => exact .inr (browser.activate_switches _)
  | enter => exact .inr browser.openWindow_switches
  | backspace => exact .inl (.refl _ browser)
  | other => exact .inl (.refl _ browser)

end Browser

end TrackBrowser
