/-
Module: TrackBrowser.Proofs.Browser.FailedCommand
Purpose: When a command that fails has changed something all the same.
-/
import TrackBrowser.Proofs.Browser.Places

/-!
Commands report failures in the status line.  All but one find out that they fail before they change
anything.  Copying to the playlist drains the selection first and asks the playlist afterwards: when
that takes no tracks, the selection is lost.  `failed_and_changed_iff` says that this is the only
way, and exactly when it happens.
-/

namespace TrackBrowser

/-- The text begins with a character. -/
def Begins (first : Char) (text : String) : Prop :=
  text.toList.head? = some first

/-- What follows does not change how a text begins. -/
theorem Begins.append {first : Char} {text : String} (begins : Begins first text)
    (rest : String) : Begins first (text ++ rest) := by
  rw [Begins, String.toList_append, List.head?_append, begins, Option.some_or]

/-- The letters with which the messages of failures begin. -/
theorem ListError.message_begins (failure : ListError) :
    ∃ first ∈ ['p', 'i', 'l'], Begins first failure.message := by
  have index : Begins 'i' "index " := rfl
  have invalid : Begins 'i' "invalid pattern: " := rfl
  cases failure with
  | notFound => exact ⟨'p', by decide, rfl⟩
  | outOfRange position length =>
    exact ⟨'i', by decide, ((index.append _).append _).append _⟩
  | readOnly => exact ⟨'l', by decide, rfl⟩
  | invalidPattern pattern cause => exact ⟨'i', by decide, invalid.append _⟩

/-! ### What views hold -/

/-- The list as far as its tracks, its filters, its totals and its cursor go. -/
def TrackList.contents (list : TrackList) : TrackList :=
  { tracks := list.tracks
    filters := list.filters
    totalSeconds := list.totalSeconds
    selectedCount := list.selectedCount
    selectedSeconds := list.selectedSeconds
    cursor := list.cursor }

theorem TrackList.Walked.contents_eq {list next : TrackList} (walked : list.Walked next) :
    next.contents = list.contents := by
  cases walked
  rfl

namespace View

/-- What a view holds: its rows and its cursor, or what its list holds. -/
def contents (view : View) : View :=
  view.modifyList TrackList.contents

variable {view : View} {list : TrackList}

@[simp] theorem kind_modifyList (view : View) (change : TrackList → TrackList) :
    (view.modifyList change).kind = view.kind := by
  unfold modifyList
  split <;> rfl

/-- Changing a list into one that reduces to the same. -/
theorem modifyList_of_same {change reduce : TrackList → TrackList}
    (same : ∀ list, view.list? = some list → reduce (change list) = reduce list) :
    (view.modifyList change).modifyList reduce = view.modifyList reduce := by
  obtain ⟨kind, title, content⟩ := view
  cases content with
  | tracks held => simp only [modifyList, same held rfl]
  | rows rows cursor => rfl

/-- Changing a list into one that holds the same. -/
theorem contents_modifyList (tracks : view.list? = some list) {change : TrackList → TrackList}
    (same : (change list).contents = list.contents) :
    (view.modifyList change).contents = view.contents := by
  apply modifyList_of_same
  intro held there
  rw [tracks] at there
  cases there
  exact same

end View

namespace Browser

/-- What the views hold. -/
def contents (browser : Browser) : List View :=
  browser.views.map View.contents

/-- The status line shows the message of a failure. -/
def Failed (browser : Browser) : Prop :=
  ∃ failure : ListError, browser.status = some failure.message

variable {browser : Browser} {list later : TrackList}

/-- A message that begins otherwise is not that of a failure. -/
theorem not_failed {message : String} {first : Char} (status : browser.status = some message)
    (begins : Begins first message) (other : first ∉ ['p', 'i', 'l']) : ¬ browser.Failed := by
  rintro ⟨failure, shown⟩
  obtain ⟨letter, member, head⟩ := failure.message_begins
  rw [status] at shown
  cases shown
  rw [Begins, begins] at head
  cases head
  exact other member

@[simp] theorem contents_report (outcome : Except ListError String) :
    (browser.report outcome).contents = browser.contents := by
  rw [contents, report_views, contents]

/-- Changing the view at an index, if there is one, changes nothing of what is the same of it. -/
theorem map_modify_of_forall {α : Type} {look : View → α} {index : Nat} {views : List View}
    {change : View → View}
    (same : ∀ view, views[index]? = some view → look (change view) = look view) :
    (views.modify index change).map look = views.map look := by
  rw [List.modify_eq_set_getElem?]
  cases there : views[index]? with
  | none => rfl
  | some view => exact TrackList.map_set_of_same look there (same view there)

/-- Changing the view at an index changes nothing of what is the same of that view. -/
theorem map_modify_of_same {α : Type} {look : View → α} {index : Nat} {view : View}
    {views : List View} {change : View → View} (there : views[index]? = some view)
    (same : look (change view) = look view) : (views.modify index change).map look =
      views.map look := by
  apply map_modify_of_forall
  intro found here
  rw [there] at here
  cases here
  exact same

/-- Replacing the active list by one that holds the same. -/
theorem contents_setActiveList {view : View}
    (there : browser.views[browser.active]? = some view) (tracks : view.list? = some list)
    (same : later.contents = list.contents) :
    (browser.setActiveList later).contents = browser.contents :=
  map_modify_of_same there (View.contents_modifyList tracks same)

/-- Replacing the active list by one that holds something else. -/
theorem contents_setActiveList_ne {view : View}
    (there : browser.views[browser.active]? = some view) (tracks : view.list? = some list)
    (differs : later.contents ≠ list.contents) :
    (browser.setActiveList later).contents ≠ browser.contents := by
  intro same
  have held : (browser.setActiveList later).contents[browser.active]? =
      browser.contents[browser.active]? := by rw [same]
  simp only [contents, setActiveList, modifyActive, List.getElem?_map, List.getElem?_modify, there,
    if_true, Option.map_eq_map, Option.map_some, Option.some.injEq] at held
  have lists := congrArg View.list? held
  simp only [View.contents, View.list?_modifyList, tracks, Option.map_some,
    Option.some.injEq] at lists
  exact differs lists

/-! ### Playlists that take no tracks -/

/-- Whether there is a playlist and the first one takes no tracks: it is read-only, or its view has
plain rows. -/
def refuses (browser : Browser) : Bool :=
  ((browser.findView? .playlist).bind fun index => browser.views[index]?).any fun view =>
    view.list?.all (·.readOnly)

/-- Replacing the active list by one that is as read-only makes no playlist take tracks or refuse
them. -/
theorem refuses_setActiveList {view : View} (there : browser.views[browser.active]? = some view)
    (tracks : view.list? = some list) (same : later.readOnly = list.readOnly) :
    (browser.setActiveList later).refuses = browser.refuses := by
  have kinds : (browser.setActiveList later).views.map View.kind = browser.views.map View.kind :=
    map_modify_of_same there (view.kind_modifyList _)
  have locks : (browser.setActiveList later).views.map (fun view => view.list?.all (·.readOnly)) =
      browser.views.map fun view => view.list?.all (·.readOnly) := by
    apply map_modify_of_same there
    rw [View.list?_modifyList, tracks, Option.map_some, Option.all_some, Option.all_some, same]
  have look : ∀ other : Browser, other.refuses =
      ((other.findView? .playlist).bind fun index =>
        (other.views.map fun view => view.list?.all (·.readOnly))[index]?).any id := by
    intro other
    rw [refuses]
    cases other.findView? .playlist with
    | none => rfl
    | some index => simp [Option.any_map]
  rw [look, look, locks, findView?_eq_findIdx?, kinds, ← findView?_eq_findIdx?]

/-- What is delivered to a playlist that refuses it changes no view, and fails. -/
theorem deliver_of_refuses (refused : browser.refuses = true) (picked : List Track) :
    (browser.deliver picked).contents = browser.contents ∧
      (picked ≠ [] → (browser.deliver picked).Failed) := by
  obtain ⟨target, found, locked⟩ := (Option.any_eq_true _ _).mp refused
  obtain ⟨index, place, there⟩ := Option.bind_eq_some_iff.mp found
  have ensured := (ensurePlaylist_of_some place).1
  cases tracks : target.list? with
  | none =>
    have plain : browser.views[index]?.bind View.list? = none := by
      rw [there, Option.bind_some, tracks]
    rw [deliver_of_none browser ensured plain]
    exact ⟨contents_report _, fun _ => ⟨.notFound, rfl⟩⟩
  | some playlist =>
    have held : browser.views[index]?.bind View.list? = some playlist := by
      rw [there, Option.bind_some, tracks]
    rw [tracks] at locked
    rw [deliver_of_some browser ensured held, appendAll_of_readOnly locked]
    constructor
    · rw [contents_report]
      exact map_modify_of_same there (View.contents_modifyList tracks rfl)
    · intro nonempty
      have more : picked.map Track.detached ≠ [] := by simpa using nonempty
      rw [if_neg more]
      exact ⟨.readOnly, rfl⟩

/-- A new playlist takes tracks. -/
theorem newPlaylist_editable (browser : Browser) :
    ∃ playlist, (browser.addView (View.ofTracks .playlist "Playlist"
        browser.defaults.newList)).1.views[browser.addPlace]?.bind View.list? = some playlist ∧
      playlist.readOnly = false := by
  rw [addView_getElem?_addPlace, Option.bind_some]
  exact ⟨_, rfl, rfl⟩

/-- A playlist that does not refuse tracks is there or is added. -/
theorem ensurePlaylist_of_accepts (accepted : browser.refuses = false) :
    ∃ playlist,
      browser.ensurePlaylist.1.views[browser.ensurePlaylist.2]?.bind View.list? = some playlist ∧
        playlist.readOnly = false := by
  cases place : browser.findView? .playlist with
  | some index =>
    obtain ⟨inside, _⟩ := List.findIdx?_eq_some_iff_getElem.mp place
    have there := List.getElem?_eq_getElem inside
    rw [refuses, place, Option.bind_some, there, Option.any_some] at accepted
    obtain ⟨playlist, tracks, editable⟩ := (Option.all_eq_false _ _).mp accepted
    refine ⟨playlist, ?_, by simpa using editable⟩
    rw [(ensurePlaylist_of_some place).1, there, Option.bind_some, tracks]
  | none =>
    rw [(ensurePlaylist_of_none place).1]
    exact browser.newPlaylist_editable

/-- What is delivered to a playlist that takes it does not fail. -/
theorem deliver_of_accepts (accepted : browser.refuses = false) (picked : List Track) :
    ¬ (browser.deliver picked).Failed := by
  obtain ⟨playlist, held, editable⟩ := ensurePlaylist_of_accepts accepted
  obtain ⟨_, appended, _⟩ := appendAll_of_editable editable (picked.map Track.detached)
  have status : (browser.deliver picked).status =
      some ("added " ++ Text.decimal (picked.map Track.detached).length ++ " to playlist") := by
    rw [deliver_of_some browser rfl held, appended]
    rfl
  have begins : Begins 'a' "added " := rfl
  exact not_failed status ((begins.append _).append _) (by decide)

/-! ### Commands that fail before they change anything -/

/-- How programs come about: some view is active, and every list was made by operations. -/
structure Made (browser : Browser) : Prop where
  active : browser.active < browser.views.length
  lists : ∀ view ∈ browser.views, ∀ list, view.list? = some list →
    ∃ operations, list = TrackList.run operations

/-- A program over some views is made if the lists of these are. -/
theorem ofViews_made {views : List View} (lists : ∀ view ∈ views, ∀ list,
    view.list? = some list → ∃ operations, list = TrackList.run operations) :
    (ofViews views).Made := by
  constructor
  · have active : (ofViews views).active = 0 := rfl
    rw [active, ofViews, refreshWindows, List.length_map]
    cases views with
    | nil => exact Nat.one_pos
    | cons view views => dsimp only; split <;> exact Nat.succ_pos _
  · intro view member list tracks
    rw [ofViews, refreshWindows] at member
    obtain ⟨before, held, rfl⟩ := List.mem_map.mp member
    have same : before.list? = some list := by
      rw [← tracks]
      split
      · rw [View.list?_setRows]
      · rfl
    -- The view that may have been added has no list.
    split at held
    · exact lists before held list same
    · rcases List.mem_append.mp held with old | added
      · exact lists before old list same
      · cases List.mem_singleton.mp added
        cases same

/-- So is a program over the list of a run. -/
theorem ofRun_made (kind : ViewKind) (title : String) (operations : List TrackList.Operation) :
    (ofViews [View.ofTracks kind title (TrackList.run operations)]).Made := by
  refine ofViews_made fun view member list tracks => ?_
  cases List.mem_singleton.mp member
  cases tracks
  exact ⟨operations, rfl⟩

/-- The active view has the active list, which is coherent and accounted but for durations that are
maybe too long for 64 bits. -/
theorem Made.activeList (made : browser.Made) (active : browser.activeList? = some list) :
    ∃ view, browser.views[browser.active]? = some view ∧ view.list? = some list ∧
      list.Coherent ∧ list.Accounted False := by
  have there := List.getElem?_eq_getElem made.active
  have tracks := active
  rw [browser.activeList?_eq there] at tracks
  obtain ⟨operations, rfl⟩ := made.lists _ (List.getElem_mem made.active) list tracks
  exact ⟨_, there, tracks, .run operations, (TrackList.Accounted.run operations).imp False.elim⟩

/-- Where a command fails, the views hold what they held before. -/
def Harmless (before after : Browser) : Prop :=
  after.Failed → after.contents = before.contents

/-- A command that ends with another message has not failed. -/
theorem Harmless.of_message {after : Browser} {message : String} {first : Char}
    (status : after.status = some message) (begins : Begins first message)
    (other : first ∉ ['p', 'i', 'l']) : browser.Harmless after := by
  intro failed
  exact absurd failed (not_failed status begins other)

theorem Harmless.not_failed_and_changed {after : Browser} (harmless : browser.Harmless after) :
    ¬ (after.Failed ∧ after.contents ≠ browser.contents) := by
  rintro ⟨failed, changed⟩
  exact changed (harmless failed)

/-- A command that does nothing but report is harmless. -/
theorem report_harmless (outcome : Except ListError String) :
    browser.Harmless (browser.report outcome) :=
  fun _ => contents_report outcome

theorem repeatSearch_harmless (backwards : Bool) :
    browser.Harmless (browser.repeatSearch backwards) := by
  unfold repeatSearch
  split
  · exact report_harmless (.ok _)
  · split
    · exact report_harmless _
    · split
      · exact report_harmless _
      · have begins : Begins '/' "/" := rfl
        exact .of_message rfl (((begins.append _).append _).append _) (by decide)

theorem addFilter_harmless (pattern : String) : browser.Harmless (browser.addFilter pattern) := by
  unfold addFilter
  split
  · exact report_harmless _
  · split
    · exact report_harmless _
    · have begins : Begins 'f' "filter `" := rfl
      exact .of_message rfl ((((begins.append _).append _).append _).append _) (by decide)

theorem commitInput_harmless : browser.Harmless browser.commitInput := by
  unfold commitInput
  dsimp only
  split
  · exact fun _ => rfl
  · exact fun _ => rfl
  · let ended : Browser := { browser with input := "", inputMode := .normal }
    exact ended.addFilter_harmless browser.input

theorem popFilter_harmless : browser.Harmless browser.popFilter := by
  unfold popFilter
  split
  · exact report_harmless _
  · have begins : Begins 'r' "removed filter `" := rfl
    exact .of_message rfl ((begins.append _).append _) (by decide)

theorem selectSame_harmless (field : Field) : browser.Harmless (browser.selectSame field) := by
  unfold selectSame
  split
  · exact report_harmless _
  · split
    · exact report_harmless _
    · have begins : Begins 's' "selected " := rfl
      exact .of_message rfl (((begins.append _).append _).append _) (by decide)

/-- Removing the selection asks the list first, and no removal fails after that. -/
theorem removeSelected_harmless (made : browser.Made) :
    browser.Harmless browser.removeSelected := by
  unfold removeSelected
  split
  · exact report_harmless _
  · rename_i list active
    split
    · exact report_harmless _
    · rename_i editable
      obtain ⟨view, _, _, coherent, _⟩ := made.activeList active
      have unlocked : list.readOnly = false := by simpa using editable
      obtain ⟨_, removed, _⟩ := removeEach_collectSelected coherent unlocked (list.size + 1)
      have begins : Begins 'r' "removed " := rfl
      dsimp only
      rw [removed]
      exact .of_message rfl (begins.append _) (by decide)

/-! ### Copying to the playlist -/

/-- Copying fails and changes something exactly when there is a selection to drain and a playlist
that refuses it. -/
theorem addToPlaylist_failed_and_changed_iff (made : browser.Made) :
    browser.addToPlaylist.Failed ∧ browser.addToPlaylist.contents ≠ browser.contents ↔
      browser.refuses = true ∧
        ∃ list, browser.activeList? = some list ∧ 0 < list.selectedCount := by
  cases active : browser.activeList? with
  | none =>
    simp [addToPlaylist_of_none active]
  | some list =>
    obtain ⟨view, there, tracks, coherent, accounted⟩ := made.activeList active
    -- Draining does not change whether the playlist refuses, even where that is the list drained.
    have restarted := list.restartWalks_walked
    have locks := refuses_setActiveList there tracks
      (drainSelection_readOnly (list.size + 1) list.restartWalks)
    rw [addToPlaylist_eq active]
    cases refused : browser.refuses with
    | false =>
      rw [refused] at locks
      have taken := deliver_of_accepts locks
        (drainSelection (list.size + 1) list.restartWalks).2
      simp [taken]
    | true =>
      rw [refused] at locks
      obtain ⟨held, failed⟩ := deliver_of_refuses locks
        (drainSelection (list.size + 1) list.restartWalks).2
      -- With nothing selected the track under the cursor is offered, and keeps its place.
      rcases Nat.eq_zero_or_pos list.selectedCount with unmarked | marks
      · have walked := restarted.trans (drainSelection_walked
          (restarted.unselected (accounted.unselected unmarked)) (list.size + 1))
        have same := contents_setActiveList there tracks walked.contents_eq
        simp [held, same, unmarked]
      · obtain ⟨fewer, picked⟩ := drainSelection_of_fresh (restarted.accounted accounted)
          (restarted.coherent coherent) rfl marks list.size
        have differs : (drainSelection (list.size + 1) list.restartWalks).1.contents ≠
            list.contents := by
          intro same
          have counts := congrArg TrackList.selectedCount same
          exact Nat.ne_of_lt fewer counts
        have changed := contents_setActiveList_ne there tracks differs
        simp [held, failed picked, changed, marks]

/-! ### The statement -/

/-- The commands that report failures. -/
inductive Command where
  | repeatSearch (backwards : Bool)
  | commitInput
  | popFilter
  | selectSame (field : Field)
  | addToPlaylist
  | removeSelected
  deriving DecidableEq

/-- The program after a command. -/
def perform (browser : Browser) : Command → Browser
  | .repeatSearch backwards => browser.repeatSearch backwards
  | .commitInput => browser.commitInput
  | .popFilter => browser.popFilter
  | .selectSame field => browser.selectSame field
  | .addToPlaylist => browser.addToPlaylist
  | .removeSelected => browser.removeSelected

/-- A command fails after it has changed what the views hold in one case only: tracks are selected,
they are copied to the playlist, and the first playlist refuses them. -/
theorem failed_and_changed_iff (browser : Browser) (made : browser.Made) (command : Command) :
    (browser.perform command).Failed ∧ (browser.perform command).contents ≠ browser.contents ↔
      command = .addToPlaylist ∧ browser.refuses = true ∧
        ∃ list, browser.activeList? = some list ∧ 0 < list.selectedCount := by
  cases command with
  | repeatSearch backwards =>
    exact iff_of_false (repeatSearch_harmless backwards).not_failed_and_changed nofun
  | commitInput => exact iff_of_false commitInput_harmless.not_failed_and_changed nofun
  | popFilter => exact iff_of_false popFilter_harmless.not_failed_and_changed nofun
  | selectSame field =>
    exact iff_of_false (selectSame_harmless field).not_failed_and_changed nofun
  | removeSelected =>
    exact iff_of_false (removeSelected_harmless made).not_failed_and_changed nofun
  | addToPlaylist =>
    have copied := addToPlaylist_failed_and_changed_iff made
    simpa only [perform, true_and] using copied

/-- A read-only playlist, and a library of which one track is selected, with the library shown. -/
def lockedQueue : Browser :=
  ((ofViews [View.ofTracks .playlist "Queue" (TrackList.run [.setReadOnly true]),
    View.ofTracks .library "Library" (TrackList.run
      [.append { file := "a.ogg", time := some 5, selected := true },
        .append { file := "b.ogg" }])]).activate 1).1

theorem lockedQueue_made : lockedQueue.Made := by
  refine ⟨by decide, (ofViews_made fun view member list tracks => ?_).lists⟩
  simp only [List.mem_cons, List.not_mem_nil, or_false] at member
  rcases member with rfl | rfl
  · cases tracks
    exact ⟨_, rfl⟩
  · cases tracks
    exact ⟨_, rfl⟩

/-- Copying the selection of such a library loses it. -/
theorem failed_and_changed_lockedQueue :
    lockedQueue.Made ∧ lockedQueue.refuses = true ∧
      (∃ list, lockedQueue.activeList? = some list ∧ 0 < list.selectedCount) ∧
      (lockedQueue.perform .addToPlaylist).Failed ∧
      (lockedQueue.perform .addToPlaylist).contents ≠ lockedQueue.contents := by
  have refused : lockedQueue.refuses = true := by decide
  have marks : ∃ list, lockedQueue.activeList? = some list ∧ 0 < list.selectedCount :=
    ⟨_, rfl, by decide⟩
  exact ⟨lockedQueue_made, refused, marks,
    (failed_and_changed_iff lockedQueue lockedQueue_made .addToPlaylist).mpr
      ⟨rfl, refused, marks⟩⟩

/-- Not every command that fails leaves everything as it was. -/
theorem not_failed_imp_unchanged :
    ¬ ∀ (browser : Browser) (command : Command), browser.Made →
      (browser.perform command).Failed → (browser.perform command).contents = browser.contents := by
  intro unchanged
  have failed : (lockedQueue.perform .addToPlaylist).Failed := ⟨.readOnly, by decide⟩
  have same := unchanged lockedQueue .addToPlaylist lockedQueue_made failed
  have differs : (lockedQueue.perform .addToPlaylist).contents ≠ lockedQueue.contents := by decide
  exact differs same

end Browser

end TrackBrowser
