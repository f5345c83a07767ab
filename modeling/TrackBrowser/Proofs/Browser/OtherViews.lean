/-
Module: TrackBrowser.Proofs.Browser.OtherViews
Purpose: What a key press leaves of the views that are not active.
-/
import TrackBrowser.Proofs.Browser.FailedCommand
import TrackBrowser.Proofs.Browser.Operation

/-!
Most keys edit the active view or switch to another one, and leave all other views as they are.  Two
reach further: copying appends to the first playlist, and copying without a playlist and saving add
one.  A new view changes the rows of the lists of windows, and with more rows their viewports may
move to where the cursor asks for them, so even there only the row of the cursor is sure to stay.

While the input line is open, no key does any of this, and no key but the one that ends the input
changes more of a list than where its cursor is.
-/

namespace TrackBrowser

/-! ### Appended tracks -/

/-- Detached copies of tracks were appended to a list, and its filters and its selection are as
before. -/
structure TrackList.Appended (before after : TrackList) (copied : List Track) : Prop where
  editable : before.readOnly = false
  appended : after = (Browser.appendAll before (copied.map Track.detached)).1
  tracks : after.tracks = before.tracks ++ copied.map Track.detached
  filters : after.filters = before.filters
  selectedCount : after.selectedCount = before.selectedCount
  selectedSeconds : after.selectedSeconds = before.selectedSeconds

namespace Browser

open TrackList (Appended)

/-- Appending detached copies to a list that may be edited. -/
theorem appendAll_detached {list : TrackList} (editable : list.readOnly = false)
    (copied : List Track) :
    list.Appended (appendAll list (copied.map Track.detached)).1 copied := by
  induction copied using List.reverseRecOn with
  | nil => exact ⟨editable, rfl, (List.append_nil _).symm, rfl, rfl, rfl⟩
  | append_singleton copied track ih =>
    have whole : (copied ++ [track]).map Track.detached =
        copied.map Track.detached ++ [track.detached] := by simp
    have last := appendAll_concat editable (copied.map Track.detached) track.detached
    rw [← whole] at last
    refine ⟨editable, rfl, ?_, ?_, ?_, ?_⟩
    · have kept : (appendAll list (copied.map Track.detached)).1.kept track.detached =
          track.detached := by
        unfold TrackList.kept
        split <;> rfl
      rw [last, TrackList.place_tracks, List.insertIdx_length_self, kept, ih.tracks, whole,
        List.append_assoc]
    · rw [last]
      exact ih.filters
    · rw [last, ← ih.selectedCount]
      simp only [TrackList.place]
      split <;> rfl
    · rw [last, ← ih.selectedSeconds]
      simp only [TrackList.place]
      split <;> rfl

/-! ### Where only cursors move -/

end Browser

/-- The list without its cursor, and with no redraw asked for. -/
def TrackList.withoutCursor (list : TrackList) : TrackList :=
  { list with cursor := {}, redraw := false }

/-- The view without the cursor of its list. -/
def View.withoutCursor (view : View) : View :=
  view.modifyList TrackList.withoutCursor

namespace Browser

variable {browser : Browser}

/-- Moving no more than the cursor of the active list. -/
theorem withoutCursor_modifyActiveList (change : TrackList → TrackList)
    (same : ∀ list, browser.activeList? = some list →
      (change list).withoutCursor = list.withoutCursor) :
    (browser.modifyActiveList change).views.map View.withoutCursor =
      browser.views.map View.withoutCursor := by
  apply map_modify_of_forall
  intro view there
  apply View.modifyList_of_same
  intro list tracks
  apply same
  rw [browser.activeList?_eq there, tracks]

/-- Replacing the active list by one with the cursor elsewhere. -/
theorem withoutCursor_setActiveList (browser : Browser) {list later : TrackList}
    (active : browser.activeList? = some list)
    (same : later.withoutCursor = list.withoutCursor) :
    (browser.setActiveList later).views.map View.withoutCursor =
      browser.views.map View.withoutCursor := by
  apply withoutCursor_modifyActiveList (fun _ => later)
  intro held there
  rw [active] at there
  cases there
  exact same

/-- Searching as the input changes moves no more than cursors. -/
theorem withoutCursor_inputChanged (browser : Browser) :
    browser.inputChanged.views.map View.withoutCursor = browser.views.map View.withoutCursor := by
  unfold inputChanged
  dsimp only
  split
  · rfl
  · split
    · rfl
    · rename_i list active
      split
      · exact browser.markRedraw.withoutCursor_setActiveList active rfl
      · split
        · rename_i searched
          rw [clearStatus_views, TrackList.search_ok searched]
          exact browser.markRedraw.withoutCursor_setActiveList active rfl
        · exact browser.markRedraw.withoutCursor_setActiveList active rfl

/-- A key that does not end the input moves no more than cursors. -/
theorem withoutCursor_pressInput {key : Key} (goes_on : key.code ≠ .enter) :
    (browser.pressInput key).views.map View.withoutCursor =
      browser.views.map View.withoutCursor := by
  unfold pressInput
  split
  · unfold cancelInput
    dsimp only
    split
    · split
      · exact withoutCursor_modifyActiveList _ fun list _ => rfl
      · rfl
    · rfl
  · rename_i enter
    exact absurd enter goes_on
  · exact withoutCursor_inputChanged _
  · split
    · rfl
    · exact withoutCursor_inputChanged _
  · rfl

/-! ### Other views -/

/-- What becomes of a view that is not active.  It stays as it is; or it is a list of windows, a
view was added, its rows are new, and its cursor was clamped to their number, which may move the
viewport; or it is the first playlist, and copies of tracks were appended to it. -/
inductive Spared (before after : Browser) (added : Nat) (copied : List Track) (index : Nat) :
    View → View → Prop where
  | same (view : View) : Spared before after added copied index view view
  | windows (title : String) (rows : List String) (cursor : Cursor) (grown : added = 1) :
      Spared before after added copied index ⟨.windows, title, .rows rows cursor⟩
        ⟨.windows, title, .rows after.windowRows
          { cursor with
            index := min cursor.index (after.windowRows.length - 1)
            offset := (cursor.clamp after.windowRows.length).offset }⟩
  | playlist (title : String) {list later : TrackList} (alone : added = 0)
      (first : before.findView? .playlist = some index) (appended : list.Appended later copied) :
      Spared before after added copied index ⟨.playlist, title, .tracks list⟩
        ⟨.playlist, title, .tracks later⟩

/-- At most one view was added, a playlist at the place for new views, and every view that was not
active is found at its place and spared. -/
structure Spares (added : Nat) (copied : List Track) (before after : Browser) : Prop where
  length : after.views.length = before.views.length + added
  new : added = 0 ∨
    added = 1 ∧ ∃ view, after.views[before.addPlace]? = some view ∧ view.kind = .playlist
  others : ∀ {index : Nat} {view : View}, index ≠ before.active →
    before.views[index]? = some view →
      ∃ later, after.views[before.placeAfter added index]? = some later ∧
        Spared before after added copied index view later

/-- A view with its rows brought up to date is the same, or a list of windows with these rows. -/
theorem refreshed_cases (view : View) (rows : List String) :
    view.refreshed rows = view ∨
      ∃ title old cursor, view = ⟨.windows, title, .rows old cursor⟩ ∧
        view.refreshed rows = ⟨.windows, title, .rows rows
          { cursor with
            index := min cursor.index (rows.length - 1)
            offset := (cursor.clamp rows.length).offset }⟩ := by
  obtain ⟨kind, title, content⟩ := view
  by_cases windows : kind = .windows
  · subst windows
    cases content with
    | tracks list => exact .inl rfl
    | rows old cursor =>
      refine .inr ⟨title, old, cursor, rfl, ?_⟩
      have clamped : cursor.clamp rows.length =
          { cursor with
            index := min cursor.index (rows.length - 1)
            offset := (cursor.clamp rows.length).offset } := by
        unfold Cursor.clamp
        split
        · rename_i none
          rw [none, Nat.zero_sub, Nat.min_zero]
          rfl
        · exact Cursor.follow_eq _ _
      rw [← clamped]
      rfl
  · exact .inl (if_neg windows)

namespace Spares

variable {before middle after : Browser} {added : Nat} {copied : List Track}

/-- Where all other views stay as they are, they are spared. -/
theorem of_elsewhere (length : after.views.length = before.views.length)
    (elsewhere : ∀ index, index ≠ before.active → after.views[index]? = before.views[index]?) :
    before.Spares 0 copied after where
  length := length
  new := .inl rfl
  others := by
    intro index view other there
    refine ⟨view, ?_, .same view⟩
    rw [placeAfter_zero, elsewhere index other, there]

theorem of_edits (edits : before.Edits before.active after) : before.Spares 0 [] after :=
  of_elsewhere edits.length fun _ other => edits.elsewhere other

theorem of_views (same : after.views = before.views) : before.Spares 0 copied after :=
  of_elsewhere (congrArg List.length same) fun _ _ => congrArg (·[_]?) same

/-- What is spared after an edit of the active view was spared before it. -/
theorem after_edits (edits : before.Edits before.active middle)
    (spares : middle.Spares added copied after) : before.Spares added copied after := by
  have place := edits.reworks.addPlace_eq
  have playlist := edits.reworks.findView?_eq .playlist
  constructor
  · rw [spares.length, edits.length]
  · rw [← place]
    exact spares.new
  · intro index view other there
    obtain ⟨later, found, spared⟩ :=
      spares.others (by rwa [edits.active]) ((edits.elsewhere other).trans there)
    refine ⟨later, ?_, ?_⟩
    · rwa [placeAfter, ← place]
    · cases spared with
      | same => exact .same view
      | windows title rows cursor grown => exact .windows title rows cursor grown
      | playlist title alone first appended =>
        exact .playlist title alone (playlist.symm.trans first) appended

/-- A new playlist spares all views. -/
theorem addView (browser : Browser) (view : View) (copied : List Track)
    (playlist : view.kind = .playlist) : browser.Spares 1 copied (browser.addView view).1 where
  length := browser.addView_length view
  new := by
    refine .inr ⟨rfl, _, browser.addView_getElem?_addPlace view, ?_⟩
    rw [View.kind_refreshed, (browser.defaults.apply_edited view).kind_eq, playlist]
  others := by
    intro index old _ there
    refine ⟨old.refreshed (browser.addView view).1.windowRows, ?_, ?_⟩
    · rw [addView_getElem?_placeAfter, there, Option.map_some]
    · rcases refreshed_cases old (browser.addView view).1.windowRows with
        same | ⟨title, rows, cursor, rfl, relisted⟩
      · rw [same]
        exact .same old
      · rw [relisted]
        exact .windows title rows cursor rfl

/-- So does an edit of the new playlist. -/
theorem edit_new (spares : before.Spares 1 copied middle)
    (edits : middle.Edits before.addPlace after) : before.Spares 1 copied after := by
  have rows : after.windowRows = middle.windowRows := by
    apply edits.reworks.map_eq
    intro view later edited
    rw [edited.title_eq, edited.kind_eq]
  constructor
  · rw [edits.length, spares.length]
  · obtain none | ⟨one, view, there, playlist⟩ := spares.new
    · exact .inl none
    · obtain ⟨later, found, edited⟩ := edits.here there
      exact .inr ⟨one, later, found, edited.kind_eq.trans playlist⟩
  · intro index view other there
    obtain ⟨later, found, spared⟩ := spares.others other there
    have away := before.placeAfter_one_ne index
    refine ⟨later, (edits.elsewhere away).trans found, ?_⟩
    cases spared with
    | same => exact .same view
    | windows title old cursor grown =>
      rw [← rows]
      exact .windows title old cursor grown
    | playlist title alone first appended => exact .playlist title alone first appended

end Spares

/-! ### Copying and saving -/

/-- The first view of a role has this role. -/
theorem kind_of_findView? {kind : ViewKind} {index : Nat} {view : View}
    (found : browser.findView? kind = some index) (there : browser.views[index]? = some view) :
    view.kind = kind := by
  obtain ⟨inside, has_kind, _⟩ := List.findIdx?_eq_some_iff_getElem.mp found
  obtain ⟨_, rfl⟩ := List.getElem?_eq_some_iff.mp there
  simpa using has_kind

/-- Delivering to a playlist that is there appends to it, or fails and changes no view. -/
theorem deliver_spares_of_some {target : Nat} (found : browser.findView? .playlist = some target)
    (picked : List Track) : browser.Spares 0 picked (browser.deliver picked) := by
  have ensured := (ensurePlaylist_of_some found).1
  cases held : browser.views[target]?.bind View.list? with
  | none =>
    apply Spares.of_views
    rw [browser.deliver_of_none ensured held, report_views]
  | some playlist =>
    have views : (browser.deliver picked).views = browser.views.modify target fun view =>
        view.modifyList fun _ => (appendAll playlist (picked.map Track.detached)).1 := by
      rw [browser.deliver_of_some ensured held, report_views]
    refine ⟨by rw [views, List.length_modify, Nat.add_zero], .inl rfl, ?_⟩
    intro index view _ there
    rw [placeAfter_zero, views]
    by_cases here : index = target
    · subst here
      obtain ⟨kind, title, content⟩ := view
      obtain rfl : kind = .playlist := kind_of_findView? found there
      rw [there, Option.bind_some] at held
      cases content with
      | rows rows cursor => cases held
      | tracks list =>
        cases held
        refine ⟨⟨.playlist, title, .tracks (appendAll playlist (picked.map Track.detached)).1⟩, ?_,
          ?_⟩
        · rw [List.getElem?_modify_eq, there]
          rfl
        · cases locked : playlist.readOnly with
          | true =>
            rw [appendAll_of_readOnly locked]
            exact .same _
          | false => exact .playlist title rfl found (appendAll_detached locked picked)
    · exact ⟨view, by rw [List.getElem?_modify_ne _ _ (Ne.symm here), there], .same view⟩

/-- Delivering without a playlist adds one and appends to that. -/
theorem deliver_spares_of_none (none_yet : browser.findView? .playlist = none)
    (picked : List Track) : browser.Spares 1 [] (browser.deliver picked) := by
  have added := Spares.addView browser
    (View.ofTracks .playlist "Playlist" browser.defaults.newList) [] rfl
  rcases ensured : browser.ensurePlaylist with ⟨extended, target⟩
  have grown := (ensurePlaylist_of_none none_yet).1.symm.trans ensured
  have place : target = browser.addPlace := congrArg Prod.snd grown.symm
  rw [grown] at added
  refine added.edit_new ?_
  rw [← place]
  cases held : extended.views[target]?.bind View.list? with
  | none =>
    rw [browser.deliver_of_none ensured held]
    exact .of_views (report_views _ _) (report_active _ _)
  | some playlist =>
    rw [browser.deliver_of_some ensured held]
    refine Edits.congr (Edits.modifyList ?_) (report_views _ _) (report_active _ _)
    intro view kept there tracks
    rw [there, Option.bind_some, tracks] at held
    cases held
    exact appendAll_handled _ _

/-- Copying spares the other views: it adds a playlist only where there is none. -/
theorem addToPlaylist_spares (browser : Browser) :
    ∃ added copied, browser.Spares added copied browser.addToPlaylist ∧
      (added = 1 → browser.findView? .playlist = none) := by
  cases active : browser.activeList? with
  | none =>
    rw [addToPlaylist_of_none active]
    exact ⟨0, [], .of_edits (.refl _ browser), nofun⟩
  | some list =>
    have edits := drained_edits active
    rw [addToPlaylist_eq active, ← edits.reworks.findView?_eq .playlist]
    cases found : (browser.setActiveList
        (drainSelection (list.size + 1) list.restartWalks).1).findView? .playlist with
    | none => exact ⟨1, [], .after_edits edits (deliver_spares_of_none found _), fun _ => rfl⟩
    | some target =>
      exact ⟨0, _, .after_edits edits (deliver_spares_of_some found _), nofun⟩

/-- Saving spares the other views. -/
theorem saveAsPlaylist_spares (browser : Browser) :
    ∃ added, browser.Spares added [] browser.saveAsPlaylist := by
  unfold saveAsPlaylist
  split
  · exact ⟨0, .of_edits (.of_views rfl rfl)⟩
  · rename_i source _
    have added := Spares.addView browser
      (View.ofTracks .playlist ("Playlist " ++ Text.decimal browser.views.length)
        (browser.defaults.newList.copyFrom source)) [] rfl
    exact ⟨1, added.edit_new (.of_views rfl rfl)⟩

end Browser

/-! ### Presses -/

namespace Session

variable (settings : Settings) (session : Session)

/-- While the input line is open, a press feeds it and does not end the program. -/
theorem respond_of_typing (typing : session.browser.inputMode ≠ .normal) (press : Press) :
    session.browser.Edits session.browser.active (session.respond settings press).browser ∧
      (¬ press.IsKey .enter →
        (session.respond settings press).browser.views.map View.withoutCursor =
          session.browser.views.map View.withoutCursor) := by
  cases press with
  | key key =>
    rw [respond, session.press_of_typing settings typing]
    refine ⟨session.browser.pressInput_edits key, ?_⟩
    intro goes_on
    apply Browser.withoutCursor_pressInput
    intro enter
    obtain ⟨code, control⟩ := key
    cases enter
    exact goes_on ⟨control, rfl⟩
  | shuffle arrangement =>
    rw [respond, shuffleBy, if_pos typing, session.press_of_typing settings typing]
    exact ⟨session.browser.pressInput_edits ⟨.char 'S', false⟩,
      fun _ => Browser.withoutCursor_pressInput KeyCode.noConfusion⟩

/-- Every press spares the views that are not active.  It adds a playlist only with the input line
closed and on two keys, the one that saves and the one that copies when there is no playlist; and it
appends to a playlist only with the input line closed and on the key that copies.  While the input
line is open, no key ends the program, the views and the active one stay, and all keys but the one
that ends the input change nothing of any list but its cursor. -/
theorem respond_spares (press : Press) :
    (∃ added copied,
      session.browser.Spares added copied (session.respond settings press).browser ∧
      (added = 1 → session.browser.inputMode = .normal ∧
        (press.IsKey (.char 'w') ∨
          press.IsKey (.char 'a') ∧ session.browser.findView? .playlist = none)) ∧
      (copied ≠ [] → session.browser.inputMode = .normal ∧ press.IsKey (.char 'a'))) ∧
    (session.browser.inputMode ≠ .normal →
      (∀ key, (session.press settings key).2 = false) ∧
      (session.respond settings press).browser.active = session.browser.active ∧
      (session.respond settings press).browser.views.map View.kind =
        session.browser.views.map View.kind ∧
      (session.respond settings press).browser.views.map View.title =
        session.browser.views.map View.title ∧
      (¬ press.IsKey .enter →
        (session.respond settings press).browser.views.map View.withoutCursor =
          session.browser.views.map View.withoutCursor)) := by
  constructor
  · have cleared := session.browser.clearStatus_edits
    rcases session.respond_cases settings press with
      edits | switches | ⟨closed, ⟨copies, copied⟩ | ⟨saves, saved⟩⟩
    · exact ⟨0, [], .of_edits edits, nofun, nofun⟩
    · exact ⟨0, [], .of_views switches.views, nofun, nofun⟩
    · obtain ⟨added, tracks, spares, none_yet⟩ := session.browser.clearStatus.addToPlaylist_spares
      rw [copied]
      refine ⟨added, tracks, .after_edits cleared spares, ?_, fun _ => ⟨closed, copies⟩⟩
      intro one
      refine ⟨closed, .inr ⟨copies, ?_⟩⟩
      rw [← none_yet one, Browser.findView?, Browser.findView?, session.browser.clearStatus_views]
    · obtain ⟨added, spares⟩ := session.browser.clearStatus.saveAsPlaylist_spares
      rw [saved]
      exact ⟨added, [], .after_edits cleared spares, fun _ => ⟨closed, .inl saves⟩, nofun⟩
  · intro typing
    obtain ⟨edits, held⟩ := session.respond_of_typing settings typing press
    refine ⟨?_, edits.active, edits.reworks.map_eq View.Edited.kind_eq,
      edits.reworks.map_eq View.Edited.title_eq, held⟩
    intro key
    rw [session.press_of_typing settings typing]

/-- A library, the key bindings and a list of windows.  The library is shown, and the list of
windows was left on its last row, with a viewport of three rows. -/
def leftWindows : Session :=
  let opened := (Browser.ofViews
    [View.ofTracks .library "Library" (TrackList.run [.append { file := "a.ogg" }]),
      View.ofRows .bindings "Keys" ["a"], View.ofRows .windows "Windows" []]).setDefaults
        { scrolloff := 1 }
  let listed := (opened.activate 2).1.modifyActive fun view => view.setHeight 3
  ⟨((listed.putActive 2).activate 0).1, false⟩

/-- With the pattern of a filter being typed over such a library, a letter spares all other views
and changes no list. -/
theorem respond_spares_leftWindows :
    let typing : Session := ⟨leftWindows.browser.beginFilter, false⟩
    let press : Press := .key ⟨.char 'q', false⟩
    typing.browser.inputMode ≠ .normal ∧ ¬ press.IsKey .enter ∧
      (∃ added copied, typing.browser.Spares added copied (typing.respond {} press).browser) ∧
      (typing.press {} ⟨.char 'q', false⟩).2 = false ∧
      (typing.respond {} press).browser.views.map View.withoutCursor =
        typing.browser.views.map View.withoutCursor := by
  intro typing press
  have open_line : typing.browser.inputMode ≠ .normal := by decide
  have letter : ¬ press.IsKey .enter := by
    rintro ⟨control, same⟩
    have same : Press.key ⟨.char 'q', false⟩ = .key ⟨.enter, control⟩ := same
    cases same
  obtain ⟨⟨added, copied, spares, _⟩, held⟩ := respond_spares {} typing press
  obtain ⟨goes_on, _, _, _, lists⟩ := held open_line
  exact ⟨open_line, letter, ⟨added, copied, spares⟩, goes_on _, lists letter⟩

/-- Saving the library moves the viewport of the list of windows, which is not active. -/
theorem press_moves_leftWindows :
    leftWindows.browser.active = 0 ∧
      leftWindows.browser.views[2]?.map View.cursor =
        some { index := 2, offset := 0, height := 3, scrolloff := 1 } ∧
      (leftWindows.press {} ⟨.char 'w', false⟩).1.browser.views[3]?.map View.kind =
        some .windows ∧
      (leftWindows.press {} ⟨.char 'w', false⟩).1.browser.views[3]?.map View.cursor =
        some { index := 2, offset := 1, height := 3, scrolloff := 1 } := by
  decide

end Session

end TrackBrowser
