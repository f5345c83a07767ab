/-
Module: TrackBrowser.Proofs.Browser.Reachable
Purpose: The views and programs that operations, calls and key presses lead to, and what holds of
  all of them.
-/
import TrackBrowser.Proofs.Browser.FailedCommand
import TrackBrowser.Proofs.Browser.Operation
import TrackBrowser.Proofs.TrackList.Viewport
import TrackBrowser.Screen.Draw

/-!
A view is `Reached` from a new one by operations on it, and a session from a program over such views
by key presses and calls on the program.  The calls are all that the program offers, and among them
is every operation on any of its views; drawing is one of them too.  A shuffle may bring about any
order.

`Reached.sound` says what holds of every session that is reached: some view is active, there is a
list of windows, every list of tracks is one that a run of operations leads to, and the cursor of
plain rows is settled among them.
-/

namespace TrackBrowser

/-! ### Views -/

namespace View

/-- What may be done to a view: its cursor is steered, an operation is performed on its list, or its
plain rows are replaced. -/
inductive Operation where
  | steer (operation : Cursor.Operation)
  | onList (operation : TrackList.Operation)
  | setRows (rows : List String)

/-- The view after an operation. -/
def operate (view : View) : Operation → View
  | .steer operation => (view.perform operation).1
  | .onList operation => view.modifyList fun list => list.perform operation
  | .setRows rows => view.setRows rows

@[simp] theorem kind_setRows (view : View) (rows : List String) :
    (view.setRows rows).kind = view.kind := by
  obtain ⟨kind, title, content⟩ := view
  cases content <;> rfl

/-- No operation changes the role of a view. -/
theorem kind_operate (view : View) (operation : Operation) :
    (view.operate operation).kind = view.kind := by
  cases operation with
  | steer operation => exact (Edited.perform view operation).kind_eq
  | onList operation => exact view.kind_modifyList _
  | setRows rows => exact view.kind_setRows rows

/-- The views that operations make of new ones. -/
inductive Reached : View → Prop where
  | ofTracks (kind : ViewKind) (title : String) (operations : List TrackList.Operation) :
      Reached (ofTracks kind title (TrackList.run operations))
  | ofRows (kind : ViewKind) (title : String) (rows : List String) :
      Reached (ofRows kind title rows)
  | operate {view : View} (reached : Reached view) (operation : Operation) :
      Reached (view.operate operation)

/-- A view of a list that a run leads to, or of plain rows with a settled cursor. -/
inductive Sound : View → Prop where
  | tracks (kind : ViewKind) (title : String) (operations : List TrackList.Operation) :
      Sound ⟨kind, title, .tracks (TrackList.run operations)⟩
  | rows (kind : ViewKind) (title : String) (rows : List String) {cursor : Cursor}
      (settled : cursor.Settled rows.length) : Sound ⟨kind, title, .rows rows cursor⟩

end View

theorem TrackList.Handled.exists_run {operations : List TrackList.Operation} {after : TrackList}
    (handled : (TrackList.run operations).Handled after) :
    ∃ longer, after = TrackList.run longer := by
  induction handled with
  | start => exact ⟨operations, rfl⟩
  | perform _ operation _ ih =>
    obtain ⟨longer, rfl⟩ := ih
    exact ⟨longer ++ [operation], (TrackList.run_concat longer operation).symm⟩

theorem Cursor.Steered.settled {size : Nat} {before after : Cursor}
    (steered : Cursor.Steered size before after) (settled : before.Settled size) :
    after.Settled size := by
  induction steered with
  | start => exact settled
  | perform _ operation ih => exact Cursor.settled_perform ih operation

namespace View.Sound

variable {view later : View}

theorem edited (sound : view.Sound) (edited : view.Edited later) : later.Sound := by
  cases edited with
  | tracks kind title handled =>
    cases sound
    obtain ⟨longer, rfl⟩ := handled.exists_run
    exact .tracks kind title longer
  | rows kind title rows steered =>
    cases sound with
    | rows _ _ _ settled => exact .rows kind title rows (steered.settled settled)

theorem setRows (sound : view.Sound) (rows : List String) : (view.setRows rows).Sound := by
  cases sound with
  | tracks kind title operations => exact .tracks kind title operations
  | rows kind title _ _ => exact .rows kind title rows (Cursor.settled_clamp _ _)

theorem refreshed (sound : view.Sound) (rows : List String) : (view.refreshed rows).Sound := by
  unfold View.refreshed
  split
  · exact sound.setRows rows
  · exact sound

/-- Performing an operation on the list, also one by which it follows its source. -/
theorem onList (sound : view.Sound) (operation : TrackList.Operation) :
    (view.modifyList fun list => list.perform operation).Sound := by
  cases sound with
  | tracks kind title operations =>
    have longer := View.Sound.tracks kind title (operations ++ [operation])
    rwa [TrackList.run_concat] at longer
  | rows kind title rows settled => exact .rows kind title rows settled

theorem operate (sound : view.Sound) (operation : View.Operation) :
    (view.operate operation).Sound := by
  cases operation with
  | steer operation => exact sound.edited (.perform view operation)
  | onList operation => exact sound.onList operation
  | setRows rows => exact sound.setRows rows

theorem ofTracks (kind : ViewKind) (title : String) (operations : List TrackList.Operation) :
    (View.ofTracks kind title (TrackList.run operations)).Sound :=
  .tracks kind title operations

/-- A new cursor is settled in any rows, since it has no height yet. -/
theorem ofRows (kind : ViewKind) (title : String) (rows : List String) :
    (View.ofRows kind title rows).Sound := by
  apply View.Sound.rows
  constructor
  · exact id
  · exact fun _ => Nat.zero_le _
  · exact fun _ tall => absurd tall (Nat.lt_irrefl 0)
  · exact fun _ tall => absurd tall (Nat.lt_irrefl 0)

/-- The list of a sound view is one that a run leads to. -/
theorem exists_run (sound : view.Sound) {list : TrackList} (tracks : view.list? = some list) :
    ∃ operations, list = TrackList.run operations := by
  cases sound with
  | tracks _ _ operations =>
    cases tracks
    exact ⟨operations, rfl⟩
  | rows => cases tracks

/-- The cursor of a sound view is settled in its rows. -/
theorem settled (sound : view.Sound) : view.cursor.Settled view.size := by
  cases sound with
  | tracks kind title operations => exact TrackList.settled_run operations
  | rows kind title rows settled => exact settled

end View.Sound

theorem View.Reached.sound {view : View} (reached : view.Reached) : view.Sound := by
  induction reached with
  | ofTracks kind title operations => exact .ofTracks kind title operations
  | ofRows kind title rows => exact .ofRows kind title rows
  | operate _ operation ih => exact ih.operate operation

/-! ### Programs -/

namespace Browser

/-- What the program offers to be called, with arguments.  A shuffle comes with the order that it
brings about and the seed that it leaves.  `assign` is what may be written to directly, and `onView`
is an operation on the view at an index. -/
inductive Call where
  | activate (index : Nat)
  | nextView
  | previousView
  | setDefaults (defaults : ListDefaults)
  | addView (view : View) (reached : view.Reached)
  | refreshWindows
  | setStatus (message : String)
  | clearStatus
  | markRedraw
  | clearRedraw
  | assign (status : Option String) (inputMode : InputMode) (input : String)
  | beginSearch
  | beginFilter
  | pushInput (c : Char)
  | popInput
  | commitInput
  | cancelInput
  | repeatSearch (backwards : Bool)
  | popFilter
  | clearFilters
  | jumpGroup (field : Field) (forward : Bool)
  | cycleScrollMode
  | toggleSelect
  | selectSame (field : Field)
  | deselectAll
  | addToPlaylist
  | removeSelected
  | saveAsPlaylist
  | sort (keys : List String)
  | shuffle (arrangement : Arrangement) (seed : Seed)
  | onView (index : Nat) (operation : View.Operation)
  | draw (settings : Settings) (width height : Nat)

/-- The program after a call. -/
def call (browser : Browser) : Call → Browser
  | .activate index => (browser.activate index).1
  | .nextView => browser.nextView
  | .previousView => browser.previousView
  | .setDefaults defaults => browser.setDefaults defaults
  | .addView view _ => (browser.addView view).1
  | .refreshWindows => browser.refreshWindows
  | .setStatus message => browser.setStatus message
  | .clearStatus => browser.clearStatus
  | .markRedraw => browser.markRedraw
  | .clearRedraw => browser.clearRedraw
  | .assign status inputMode input =>
    { browser with status := status, inputMode := inputMode, input := input }
  | .beginSearch => browser.beginSearch
  | .beginFilter => browser.beginFilter
  | .pushInput c => browser.pushInput c
  | .popInput => browser.popInput
  | .commitInput => browser.commitInput
  | .cancelInput => browser.cancelInput
  | .repeatSearch backwards => browser.repeatSearch backwards
  | .popFilter => browser.popFilter
  | .clearFilters => browser.clearFilters
  | .jumpGroup field forward => browser.jumpGroup field forward
  | .cycleScrollMode => browser.cycleScrollMode
  | .toggleSelect => browser.toggleSelect
  | .selectSame field => browser.selectSame field
  | .deselectAll => browser.deselectAll
  | .addToPlaylist => browser.addToPlaylist
  | .removeSelected => browser.removeSelected
  | .saveAsPlaylist => browser.saveAsPlaylist
  | .sort keys => browser.sortActive keys
  | .shuffle arrangement seed =>
    { browser.modifyActiveList fun list => list.rearrange arrangement with seed := seed }
  | .onView index operation =>
    { browser with views := browser.views.modify index fun view => view.operate operation }
  | .draw settings width height => (Screen.draw browser settings width height).2

/-- A shuffle by the seed of the program is one of the shuffles. -/
theorem shuffleActive_eq_call (browser : Browser) :
    browser.shuffleActive = browser.call (.shuffle browser.seed.arrangement browser.seed.next) :=
  rfl

/-- Some view is active, there is a list of windows, and all views are sound. -/
structure Sound (browser : Browser) : Prop where
  active : browser.active < browser.views.length
  windows : ∃ view ∈ browser.views, view.kind = .windows
  views : ∀ view ∈ browser.views, view.Sound

namespace Sound

variable {browser after : Browser} (sound : browser.Sound)

include sound

/-- The active view is found among the views, and it is sound. -/
theorem activeView :
    browser.views[browser.active]? = some browser.activeView ∧ browser.activeView.Sound := by
  have there := List.getElem?_eq_getElem sound.active
  rw [browser.activeView_eq there]
  exact ⟨there, sound.views _ (List.getElem_mem sound.active)⟩

theorem reworks (reworks : browser.Reworks after) : after.Sound where
  active := by
    rw [reworks.active, reworks.length]
    exact sound.active
  windows := by
    obtain ⟨view, member, kind⟩ := sound.windows
    obtain ⟨index, there⟩ := List.mem_iff_getElem?.mp member
    obtain ⟨later, found, edited⟩ := reworks.views there
    exact ⟨later, List.mem_of_getElem? found, edited.kind_eq.trans kind⟩
  views := by
    intro later member
    obtain ⟨view, before, edited⟩ := reworks.exists_before member
    exact (sound.views view before).edited edited

theorem edits {index : Nat} (edits : Edits index browser after) : after.Sound :=
  sound.reworks edits.reworks

/-- A change of anything but the views. -/
theorem of_views (views : after.views = browser.views) (active : after.active = browser.active) :
    after.Sound :=
  sound.reworks (.of_views views active)

theorem switches (switches : browser.Switches after) : after.Sound where
  active := by
    rw [switches.views]
    exact switches.inside sound.active
  windows := by
    rw [switches.views]
    exact sound.windows
  views := by
    rw [switches.views]
    exact sound.views

/-- Changing every view into a sound one of the same role. -/
theorem map {change : View → View} (kept : ∀ view : View, view.Sound → (change view).Sound)
    (kinds : ∀ view, (change view).kind = view.kind)
    (views : after.views = browser.views.map change) (active : after.active = browser.active) :
    after.Sound where
  active := by
    rw [views, active, List.length_map]
    exact sound.active
  windows := by
    obtain ⟨view, member, kind⟩ := sound.windows
    rw [views]
    exact ⟨change view, List.mem_map_of_mem member, (kinds view).trans kind⟩
  views := by
    rw [views]
    intro later member
    obtain ⟨view, before, rfl⟩ := List.mem_map.mp member
    exact kept view (sound.views view before)

theorem refreshWindows : browser.refreshWindows.Sound :=
  sound.map (fun _ whole => whole.refreshed browser.windowRows)
    (fun view => view.kind_refreshed browser.windowRows) rfl rfl

/-- Forgetting redraws is an operation on each list. -/
theorem clearRedraw : browser.clearRedraw.Sound :=
  sound.map (fun _ whole => whole.onList .clearRedraw) (fun view => view.kind_modifyList _) rfl rfl

theorem addView {view : View} (whole : view.Sound) : (browser.addView view).1.Sound where
  active := by
    rw [addView_active, addView_length, placeAfter]
    have inside := sound.active
    split <;> omega
  windows := by
    obtain ⟨old, member, kind⟩ := sound.windows
    obtain ⟨index, there⟩ := List.mem_iff_getElem?.mp member
    have moved := browser.addView_getElem?_placeAfter view index
    rw [there] at moved
    exact ⟨_, List.mem_of_getElem? moved, (old.kind_refreshed _).trans kind⟩
  views := by
    intro later member
    rw [addView_views] at member
    obtain ⟨old, before, rfl⟩ := List.mem_map.mp member
    apply View.Sound.refreshed
    rcases List.eq_or_mem_of_mem_insertIdx before with rfl | old
    · exact whole.edited (browser.defaults.apply_edited view)
    · exact sound.views _ old

theorem ensurePlaylist : browser.ensurePlaylist.1.Sound := by
  cases found : browser.findView? .playlist with
  | some target =>
    rw [(ensurePlaylist_of_some found).1]
    exact sound
  | none =>
    rw [(ensurePlaylist_of_none found).1]
    exact sound.addView (.ofTracks .playlist "Playlist"
      [.setRegex browser.defaults.regex, .setCaseSensitive browser.defaults.caseSensitive])

theorem addToPlaylist : browser.addToPlaylist.Sound := by
  cases active : browser.activeList? with
  | none =>
    rw [addToPlaylist_of_none active]
    exact sound
  | some list =>
    rw [addToPlaylist_eq active]
    have drained := sound.edits (drained_edits active)
    exact drained.ensurePlaylist.reworks (deliver_reworks _ _)

theorem saveAsPlaylist : browser.saveAsPlaylist.Sound := by
  unfold Browser.saveAsPlaylist
  split
  · exact sound.of_views rfl rfl
  · rename_i source _
    have copied := View.Sound.ofTracks .playlist
      ("Playlist " ++ Text.decimal browser.views.length)
      [.setRegex browser.defaults.regex, .setCaseSensitive browser.defaults.caseSensitive,
        .copyFrom source]
    exact (sound.addView copied).of_views rfl rfl

/-- An operation on the view at an index. -/
theorem onView (index : Nat) (operation : View.Operation) :
    (browser.call (.onView index operation)).Sound where
  active := by
    rw [call, List.length_modify]
    exact sound.active
  windows := by
    obtain ⟨view, member, kind⟩ := sound.windows
    obtain ⟨place, there⟩ := List.mem_iff_getElem?.mp member
    have found : (browser.call (.onView index operation)).views[place]? =
        some (if index = place then view.operate operation else view) := by
      rw [call, List.getElem?_modify, there]
      rfl
    refine ⟨_, List.mem_of_getElem? found, ?_⟩
    split
    · exact (view.kind_operate operation).trans kind
    · exact kind
  views := by
    intro later member
    obtain ⟨place, found⟩ := List.mem_iff_getElem?.mp member
    rw [call, List.getElem?_modify] at found
    obtain ⟨view, there, rfl⟩ := Option.map_eq_some_iff.mp found
    have whole := sound.views view (List.mem_of_getElem? there)
    split
    · exact whole.operate operation
    · exact whole

/-- Every call leaves the program sound. -/
theorem call (call : Call) : (browser.call call).Sound := by
  cases call with
  | activate index => exact sound.switches (browser.activate_switches index)
  | nextView => exact sound.switches (browser.activate_switches _)
  | previousView => exact sound.switches (browser.activate_switches _)
  | setDefaults defaults => exact sound.reworks (browser.setDefaults_reworks defaults)
  | addView view reached => exact sound.addView reached.sound
  | refreshWindows => exact sound.refreshWindows
  | setStatus message => exact sound.of_views rfl rfl
  | clearStatus => exact sound.edits browser.clearStatus_edits
  | markRedraw => exact sound.of_views rfl rfl
  | clearRedraw => exact sound.clearRedraw
  | assign status inputMode input => exact sound.of_views rfl rfl
  | beginSearch => exact sound.of_views rfl rfl
  | beginFilter => exact sound.edits browser.beginFilter_edits
  | pushInput c =>
    let longer : Browser := { browser with input := browser.input.push c }
    have typed : longer.Sound := sound.of_views rfl rfl
    exact typed.edits longer.inputChanged_edits
  | popInput =>
    let shorter : Browser := { browser with input := String.ofList browser.input.toList.dropLast }
    have cut : shorter.Sound := sound.of_views rfl rfl
    exact cut.edits shorter.inputChanged_edits
  | commitInput => exact sound.edits browser.commitInput_edits
  | cancelInput => exact sound.edits browser.cancelInput_edits
  | repeatSearch backwards => exact sound.edits (browser.repeatSearch_edits backwards)
  | popFilter => exact sound.edits browser.popFilter_edits
  | clearFilters =>
    exact sound.edits
      (browser.modifyActiveList_edits fun list _ => .perform .start .clearFilters rfl)
  | jumpGroup field forward => exact sound.edits (browser.jumpGroup_edits field forward)
  | cycleScrollMode =>
    have cycled := browser.modifyActive_edits (.setMode browser.activeView.scrollMode.next)
    exact (sound.edits cycled).of_views rfl rfl
  | toggleSelect => exact sound.edits browser.toggleSelect_edits
  | selectSame field => exact sound.edits (browser.selectSame_edits field)
  | deselectAll =>
    exact sound.edits (browser.modifyActiveList_edits fun list _ =>
      .perform .start (.selectAll .deselect) rfl)
  | addToPlaylist => exact sound.addToPlaylist
  | removeSelected => exact sound.edits browser.removeSelected_edits
  | saveAsPlaylist => exact sound.saveAsPlaylist
  | sort keys =>
    exact sound.edits (browser.modifyActiveList_edits fun list _ =>
      .perform .start (.sort keys) rfl)
  | shuffle arrangement seed =>
    have shuffled : browser.Edits browser.active
        (browser.modifyActiveList fun list => list.rearrange arrangement) :=
      browser.modifyActiveList_edits fun list _ => .perform .start (.shuffle arrangement) rfl
    exact (sound.edits shuffled).of_views rfl rfl
  | onView index operation => exact sound.onView index operation
  | draw settings width height => exact sound.edits (browser.modifyActive_edits (.setHeight _))

end Sound

/-- The views that a program is made of: a list of windows is added if there is none. -/
def withWindows (views : List View) : List View :=
  if views.any fun view => view.kind == .windows then views
  else views ++ [View.ofRows .windows "Windows" []]

theorem ofViews_views (views : List View) :
    (ofViews views).views =
      (withWindows views).map fun view =>
        view.refreshed ({ views := withWindows views } : Browser).windowRows := rfl

theorem exists_windows (views : List View) : ∃ view ∈ withWindows views, view.kind = .windows := by
  unfold withWindows
  split
  · rename_i found
    obtain ⟨view, member, kind⟩ := List.any_eq_true.mp found
    exact ⟨view, member, beq_iff_eq.mp kind⟩
  · exact ⟨_, List.mem_append_right views (List.mem_singleton_self _), rfl⟩

/-- A program over sound views is sound. -/
theorem ofViews_sound {views : List View} (sound : ∀ view ∈ views, view.Sound) :
    (ofViews views).Sound where
  active := (ofViews_made fun view member _ tracks => (sound view member).exists_run tracks).active
  windows := by
    obtain ⟨view, member, kind⟩ := exists_windows views
    exact ⟨view.refreshed _, List.mem_map_of_mem member, (view.kind_refreshed _).trans kind⟩
  views := by
    intro later member
    rw [ofViews_views] at member
    obtain ⟨view, before, rfl⟩ := List.mem_map.mp member
    apply View.Sound.refreshed
    unfold withWindows at before
    split at before
    · exact sound view before
    · rcases List.mem_append.mp before with old | added
      · exact sound view old
      · cases List.mem_singleton.mp added
        exact .ofRows .windows "Windows" []

end Browser

/-! ### Sessions -/

namespace Session

variable {session : Session}

/-- The sessions that key presses and calls on the program make of a program over views that are
reached. -/
inductive Reached : Session → Prop where
  | start {views : List View} (reached : ∀ view ∈ views, view.Reached) (pendingTop : Bool) :
      Reached ⟨.ofViews views, pendingTop⟩
  | press {session : Session} (reached : Reached session) (settings : Settings) (press : Press) :
      Reached (session.respond settings press)
  | call {session : Session} (reached : Reached session) (call : Browser.Call) :
      Reached { session with browser := session.browser.call call }

/-- Every press leaves the program sound. -/
theorem respond_sound (sound : session.browser.Sound) (settings : Settings) (press : Press) :
    (session.respond settings press).browser.Sound := by
  have cleared := sound.edits session.browser.clearStatus_edits
  rcases session.respond_cases settings press with
    edits | switches | ⟨_, ⟨_, copied⟩ | ⟨_, saved⟩⟩
  · exact sound.edits edits
  · exact sound.switches switches
  · rw [copied]
    exact cleared.addToPlaylist
  · rw [saved]
    exact cleared.saveAsPlaylist

/-- Every session that is reached has a sound program. -/
theorem Reached.sound (reached : session.Reached) : session.browser.Sound := by
  induction reached with
  | start reached pendingTop =>
    exact Browser.ofViews_sound fun view member => (reached view member).sound
  | press _ settings press ih => exact respond_sound ih settings press
  | call _ call ih => exact ih.call call

end Session

end TrackBrowser
