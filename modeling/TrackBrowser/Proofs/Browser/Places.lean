/-
Module: TrackBrowser.Proofs.Browser.Places
Purpose: Where the views of the program are found after others were added.
-/
import Mathlib.Data.List.InsertIdx
import TrackBrowser.Proofs.Browser.Editing

/-!
Views are added in front of the first list of windows, at the `addPlace` of the program, so the
views before it stay where they are and those from it on move up.  `placeAfter` tells where; what is
called the same view before and after a command is the view at that place.  `Grown` collects what
commands leave of the views that were there: each continues at its place, and playlists are all that
is added.
-/

namespace TrackBrowser

/-- A new element in front of the first one of a kind moves that one up. -/
theorem findIdx_insertIdx_findIdx {α : Type} (test : α → Bool) {added : α}
    (other : test added = false) (elements : List α) :
    (elements.insertIdx (elements.findIdx test) added).findIdx test =
      elements.findIdx test + 1 := by
  induction elements with
  | nil => simp [List.findIdx_cons, other]
  | cons element rest ih =>
    cases found : test element with
    | true => simp [List.findIdx_cons, found, other]
    | false => simp [List.findIdx_cons, found, ih]

/-! ### Views that go on -/

namespace View

/-- A view with its rows brought up to date, if it is a list of windows. -/
def refreshed (view : View) (rows : List String) : View :=
  if view.kind = .windows then view.setRows rows else view

variable {view : View} {rows : List String}

theorem list?_setRows (view : View) (rows : List String) :
    (view.setRows rows).list? = view.list? := by
  obtain ⟨kind, title, content⟩ := view
  cases content <;> rfl

@[simp] theorem kind_refreshed (view : View) (rows : List String) :
    (view.refreshed rows).kind = view.kind := by
  unfold refreshed setRows
  split
  · split <;> rfl
  · rfl

@[simp] theorem title_refreshed (view : View) (rows : List String) :
    (view.refreshed rows).title = view.title := by
  unfold refreshed setRows
  split
  · split <;> rfl
  · rfl

@[simp] theorem list?_refreshed (view : View) (rows : List String) :
    (view.refreshed rows).list? = view.list? := by
  unfold refreshed
  split
  · exact list?_setRows view rows
  · rfl

/-- The second view is the first one later on: it has the same role and title, and its list was
handled. -/
structure Continues (before after : View) : Prop where
  kind : after.kind = before.kind
  title : after.title = before.title
  list : ∀ {list : TrackList}, before.list? = some list →
    ∃ later, after.list? = some later ∧ list.Handled later

theorem Edited.continues {after : View} (edited : view.Edited after) : view.Continues after :=
  ⟨edited.kind_eq, edited.title_eq, edited.list?_eq⟩

namespace Continues

variable {first second third : View}

theorem trans (before : first.Continues second) (after : second.Continues third) :
    first.Continues third where
  kind := after.kind.trans before.kind
  title := after.title.trans before.title
  list := by
    intro list tracks
    obtain ⟨middle, between, handled⟩ := before.list tracks
    obtain ⟨later, last, again⟩ := after.list between
    exact ⟨later, last, handled.trans again⟩

/-- Bringing rows up to date leaves lists alone. -/
theorem refreshed (view : View) (rows : List String) : view.Continues (view.refreshed rows) where
  kind := view.kind_refreshed rows
  title := view.title_refreshed rows
  list := by
    intro list tracks
    exact ⟨list, (view.list?_refreshed rows).trans tracks, .start⟩

end Continues

end View

/-- Making a view scroll as wanted edits it. -/
theorem ListDefaults.apply_edited (defaults : ListDefaults) (view : View) :
    view.Edited (defaults.apply view) :=
  ((View.Edited.perform view (.setMode defaults.scrollMode)).trans
    (.perform _ (.setScrolloff defaults.scrolloff))).trans (.perform _ (.setWrap defaults.wrap))

namespace Browser

/-! ### Views that are edited where they are -/

/-- Views are edited, none is added, and the same one is active. -/
structure Reworks (before after : Browser) : Prop where
  active : after.active = before.active
  length : after.views.length = before.views.length
  views : ∀ {index : Nat} {view : View}, before.views[index]? = some view →
    ∃ later, after.views[index]? = some later ∧ view.Edited later

theorem Edits.reworks {index : Nat} {before after : Browser} (edits : Edits index before after) :
    before.Reworks after where
  active := edits.active
  length := edits.length
  views := by
    intro other view there
    by_cases here : other = index
    · subst here
      exact edits.here there
    · exact ⟨view, by rw [edits.elsewhere here, there], .refl view⟩

/-- A change of anything but the views. -/
theorem Reworks.of_views {before after : Browser} (views : after.views = before.views)
    (active : after.active = before.active) : before.Reworks after :=
  (Edits.of_views views active : Edits 0 before after).reworks

theorem setDefaults_reworks (browser : Browser) (defaults : ListDefaults) :
    browser.Reworks (browser.setDefaults defaults) where
  active := rfl
  length := List.length_map _
  views := by
    intro index view there
    refine ⟨defaults.apply view, ?_, defaults.apply_edited view⟩
    rw [setDefaults, List.getElem?_map, there, Option.map_some]

namespace Reworks

variable {before after : Browser}

/-- What an edit keeps of each view is the same for all views. -/
theorem map_eq (reworks : before.Reworks after) {α : Type} {look : View → α}
    (kept : ∀ {view later : View}, view.Edited later → look later = look view) :
    after.views.map look = before.views.map look := by
  apply List.ext_getElem?
  intro index
  rw [List.getElem?_map, List.getElem?_map]
  cases there : before.views[index]? with
  | none =>
    have beyond : before.views.length ≤ index := List.getElem?_eq_none_iff.mp there
    rw [List.getElem?_eq_none (by rw [reworks.length]; exact beyond)]
  | some view =>
    obtain ⟨later, found, edited⟩ := reworks.views there
    rw [found, Option.map_some, Option.map_some, kept edited]

/-- A view after edits was one before. -/
theorem exists_before (reworks : before.Reworks after) {later : View}
    (member : later ∈ after.views) : ∃ view ∈ before.views, view.Edited later := by
  obtain ⟨index, found⟩ := List.mem_iff_getElem?.mp member
  have inside := (List.getElem?_eq_some_iff.mp found).1
  rw [reworks.length] at inside
  obtain ⟨same, there, edited⟩ := reworks.views (List.getElem?_eq_getElem inside)
  rw [found] at there
  cases there
  exact ⟨_, List.getElem_mem inside, edited⟩

end Reworks

/-! ### Places -/

/-- Where views are added: in front of the first list of windows. -/
def addPlace (browser : Browser) : Nat :=
  (browser.findView? .windows).getD browser.views.length

/-- Where the view at an index is found after `added` views were added. -/
def placeAfter (browser : Browser) (added index : Nat) : Nat :=
  if index < browser.addPlace then index else index + added

theorem placeAfter_zero (browser : Browser) (index : Nat) : browser.placeAfter 0 index = index := by
  rw [placeAfter, Nat.add_zero, ite_self]

/-- No view is moved to the place where one is added. -/
theorem placeAfter_one_ne (browser : Browser) (index : Nat) :
    browser.placeAfter 1 index ≠ browser.addPlace := by
  unfold placeAfter
  split <;> omega

/-- How many playlists are added when one is needed. -/
def missingPlaylists (browser : Browser) : Nat :=
  if browser.findView? .playlist = none then 1 else 0

theorem missingPlaylists_le (browser : Browser) : browser.missingPlaylists ≤ 1 := by
  unfold missingPlaylists
  split
  · exact le_rfl
  · exact Nat.zero_le 1

/-- The first view of a role is found among the roles of the views. -/
theorem findView?_eq_findIdx? (browser : Browser) (kind : ViewKind) :
    browser.findView? kind = (browser.views.map View.kind).findIdx? (· == kind) := by
  rw [findView?, List.findIdx?_map]
  rfl

theorem addPlace_eq_findIdx (browser : Browser) :
    browser.addPlace = (browser.views.map View.kind).findIdx (· == .windows) := by
  rw [addPlace, findView?_eq_findIdx?, List.findIdx_eq_getD_findIdx?, List.length_map]

namespace Reworks

variable {before after : Browser} (reworks : before.Reworks after)

include reworks

/-- Edits change no roles, so the first view of a role and the place for new ones stay. -/
theorem findView?_eq (kind : ViewKind) : after.findView? kind = before.findView? kind := by
  rw [findView?_eq_findIdx?, reworks.map_eq View.Edited.kind_eq, ← findView?_eq_findIdx?]

theorem addPlace_eq : after.addPlace = before.addPlace := by
  rw [addPlace_eq_findIdx, reworks.map_eq View.Edited.kind_eq, ← addPlace_eq_findIdx]

theorem placeAfter_eq (added index : Nat) :
    after.placeAfter added index = before.placeAfter added index := by
  rw [placeAfter, placeAfter, reworks.addPlace_eq]

theorem missingPlaylists_eq : after.missingPlaylists = before.missingPlaylists := by
  simp only [missingPlaylists, reworks.findView?_eq]

end Reworks

theorem addPlace_le (browser : Browser) : browser.addPlace ≤ browser.views.length := by
  have bound : (browser.views.map View.kind).findIdx (· == .windows) ≤
      (browser.views.map View.kind).length := List.findIdx_le_length
  rwa [← addPlace_eq_findIdx, List.length_map] at bound

/-! ### Lists of windows -/

/-- Bringing the lists of windows up to date renames no view. -/
theorem windowRows_refreshWindows (browser : Browser) :
    browser.refreshWindows.windowRows = browser.windowRows := by
  have named : ∀ view : View, (view.refreshed browser.windowRows).title ++ " (" ++
      (view.refreshed browser.windowRows).kind.name ++ ")" =
        view.title ++ " (" ++ view.kind.name ++ ")" := by
    intro view
    rw [View.title_refreshed, View.kind_refreshed]
  have views : browser.refreshWindows.views =
      browser.views.map fun view => view.refreshed browser.windowRows := rfl
  rw [windowRows, views, List.map_map]
  exact List.map_congr_left fun view _ => named view

/-! ### Adding a view -/

section AddView

variable (browser : Browser) (view : View)

/-- The views with a new one at its place, before the lists of windows are brought up to date. -/
theorem addView_views : (browser.addView view).1.views =
    (browser.views.insertIdx browser.addPlace (browser.defaults.apply view)).map fun shown =>
      shown.refreshed (browser.addView view).1.windowRows := by
  have rows : (browser.addView view).1.windowRows = _ := windowRows_refreshWindows _
  rw [rows]
  rfl

/-- Every view is found at its place, as it was but for the rows of a list of windows. -/
theorem addView_getElem?_placeAfter (index : Nat) :
    (browser.addView view).1.views[browser.placeAfter 1 index]? =
      browser.views[index]?.map fun old => old.refreshed (browser.addView view).1.windowRows := by
  rw [addView_views, List.getElem?_map, placeAfter]
  split
  · rename_i before
    rw [List.getElem?_insertIdx_of_lt before]
  · rename_i after
    rw [List.getElem?_insertIdx_of_gt (by omega), Nat.add_sub_cancel]

/-- The new view is at the place where views are added. -/
theorem addView_getElem?_addPlace :
    (browser.addView view).1.views[browser.addPlace]? =
      some ((browser.defaults.apply view).refreshed (browser.addView view).1.windowRows) := by
  rw [addView_views, List.getElem?_map, List.getElem?_insertIdx_self, if_pos browser.addPlace_le,
    Option.map_some]

theorem addView_length : (browser.addView view).1.views.length = browser.views.length + 1 := by
  rw [addView_views, List.length_map, List.length_insertIdx, if_pos browser.addPlace_le]

/-- The active index moves with the active view. -/
theorem addView_active :
    (browser.addView view).1.active = browser.placeAfter 1 browser.active := by
  have moved : (browser.addView view).1.active =
      if browser.addPlace ≤ browser.active then browser.active + 1 else browser.active := rfl
  rw [moved, placeAfter]
  split <;> split <;> omega

/-- A new view that is no list of windows is followed by the place of the next one. -/
theorem addView_addPlace (other : view.kind ≠ .windows) :
    (browser.addView view).1.addPlace = browser.addPlace + 1 := by
  have kept : (fun old : View => (old.refreshed (browser.addView view).1.windowRows).kind) =
      View.kind := funext fun old => old.kind_refreshed _
  have kind : (browser.defaults.apply view).kind = view.kind :=
    (browser.defaults.apply_edited view).kind_eq
  have passed : (view.kind == .windows) = false := by simpa using other
  rw [addPlace_eq_findIdx, addView_views, List.map_map]
  change (List.map (fun old : View => (old.refreshed (browser.addView view).1.windowRows).kind)
    _).findIdx _ = _
  -- Only the roles count, and the new one is in front of the first list of windows.
  rw [kept, List.map_insertIdx, kind, addPlace_eq_findIdx]
  exact findIdx_insertIdx_findIdx (· == ViewKind.windows) passed _

end AddView

/-! ### Growing programs -/

/-- Views were edited and `added` playlists put where views are added. -/
structure Grown (added : Nat) (before after : Browser) : Prop where
  length : after.views.length = before.views.length + added
  addPlace : after.addPlace = before.addPlace + added
  views : ∀ {index : Nat} {view : View}, before.views[index]? = some view →
    ∃ later, after.views[before.placeAfter added index]? = some later ∧ view.Continues later

theorem Reworks.grown {before after : Browser} (reworks : before.Reworks after) :
    Grown 0 before after where
  length := reworks.length
  addPlace := by rw [reworks.addPlace_eq, Nat.add_zero]
  views := by
    intro index view there
    obtain ⟨later, found, edited⟩ := reworks.views there
    refine ⟨later, ?_, edited.continues⟩
    rw [placeAfter_zero, found]

theorem Switches.grown {before after : Browser} (switches : before.Switches after) :
    Grown 0 before after where
  length := by rw [switches.views, Nat.add_zero]
  addPlace := by rw [addPlace_eq_findIdx, switches.views, ← addPlace_eq_findIdx, Nat.add_zero]
  views := by
    intro index view there
    refine ⟨view, ?_, (View.Edited.refl view).continues⟩
    rw [placeAfter_zero, switches.views, there]

theorem addView_grown (browser : Browser) {view : View} (other : view.kind ≠ .windows) :
    Grown 1 browser (browser.addView view).1 where
  length := browser.addView_length view
  addPlace := browser.addView_addPlace view other
  views := by
    intro index old there
    refine ⟨old.refreshed (browser.addView view).1.windowRows, ?_, .refreshed old _⟩
    rw [addView_getElem?_placeAfter, there, Option.map_some]

/-- Places after one growth and then another. -/
theorem Grown.placeAfter_placeAfter {before after : Browser} {added : Nat}
    (grown : Grown added before after) (more index : Nat) :
    after.placeAfter more (before.placeAfter added index) =
      before.placeAfter (added + more) index := by
  have moved := grown.addPlace
  unfold placeAfter
  split
  · split <;> omega
  · split <;> omega

theorem Grown.trans {first second third : Browser} {before after : Nat}
    (earlier : Grown before first second) (later : Grown after second third) :
    Grown (before + after) first third where
  length := by rw [later.length, earlier.length, Nat.add_assoc]
  addPlace := by rw [later.addPlace, earlier.addPlace, Nat.add_assoc]
  views := by
    intro index view there
    obtain ⟨middle, between, continues⟩ := earlier.views there
    obtain ⟨last, found, again⟩ := later.views between
    rw [earlier.placeAfter_placeAfter] at found
    exact ⟨last, found, continues.trans again⟩

/-! ### Extended programs -/

/-- Views are edited and playlists added, one after the other.  The active view stays active. -/
inductive Extends (before : Browser) : Nat → Browser → Prop where
  | start : Extends before 0 before
  | rework {added : Nat} {middle after : Browser} (extended : Extends before added middle)
      (reworks : middle.Reworks after) : Extends before added after
  | add {added : Nat} {middle : Browser} (extended : Extends before added middle) (view : View)
      (playlist : view.kind = .playlist) : Extends before (added + 1) (middle.addView view).1

namespace Extends

variable {before middle after : Browser} {added more : Nat}

theorem trans (first : before.Extends added middle) (second : middle.Extends more after) :
    before.Extends (added + more) after := by
  induction second with
  | start => exact first
  | rework _ reworks ih => exact ih.rework reworks
  | add _ view playlist ih => exact ih.add view playlist

theorem of_edits {index : Nat} (edits : Edits index before after) : before.Extends 0 after :=
  Extends.start.rework edits.reworks

theorem grown (extended : before.Extends added after) : Grown added before after := by
  induction extended with
  | start => exact (Reworks.of_views rfl rfl).grown
  | rework _ reworks ih => exact ih.trans reworks.grown
  | @add _ middle _ view playlist ih =>
    have other : view.kind ≠ .windows := by
      rw [playlist]
      decide
    exact ih.trans (middle.addView_grown other)

/-- The active index is the place of the view that was active. -/
theorem active (extended : before.Extends added after) :
    after.active = before.placeAfter added before.active := by
  induction extended with
  | start => rw [placeAfter_zero]
  | rework _ reworks ih => rw [reworks.active, ih]
  | add earlier view _ ih => rw [addView_active, ih, earlier.grown.placeAfter_placeAfter]

end Extends

variable (browser : Browser)

/-- A playlist that is there is used. -/
theorem ensurePlaylist_of_some {browser : Browser} {target : Nat}
    (found : browser.findView? .playlist = some target) :
    browser.ensurePlaylist = (browser, target) ∧ browser.missingPlaylists = 0 := by
  rw [missingPlaylists, found, if_neg (Option.some_ne_none target)]
  unfold ensurePlaylist
  rw [found]
  exact ⟨rfl, rfl⟩

/-- Without one, one is added. -/
theorem ensurePlaylist_of_none {browser : Browser}
    (none_yet : browser.findView? .playlist = none) :
    browser.ensurePlaylist =
        browser.addView (View.ofTracks .playlist "Playlist" browser.defaults.newList) ∧
      browser.missingPlaylists = 1 := by
  rw [missingPlaylists, none_yet, if_pos rfl]
  unfold ensurePlaylist
  rw [none_yet]
  exact ⟨rfl, rfl⟩

theorem ensurePlaylist_extends :
    browser.Extends browser.missingPlaylists browser.ensurePlaylist.1 := by
  cases found : browser.findView? .playlist with
  | some target =>
    obtain ⟨ensured, missing⟩ := ensurePlaylist_of_some found
    rw [ensured, missing]
    exact .start
  | none =>
    obtain ⟨ensured, missing⟩ := ensurePlaylist_of_none found
    rw [ensured, missing]
    exact .add .start _ rfl

/-- The second half of copying: the picked tracks are appended to the first playlist. -/
def deliver (picked : List Track) : Browser :=
  let (browser, target) := browser.ensurePlaylist
  match browser.views[target]?.bind View.list? with
  | none => browser.report (.error .notFound)
  | some playlist =>
    let (playlist, outcome) := appendAll playlist (picked.map Track.detached)
    let browser :=
      { browser with
        views := browser.views.modify target fun view => view.modifyList fun _ => playlist }
    browser.report (outcome.map fun count => "added " ++ Text.decimal count ++ " to playlist")

/-- Copying drains the selection and delivers what was drained. -/
theorem addToPlaylist_eq {browser : Browser} {list : TrackList}
    (active : browser.activeList? = some list) :
    browser.addToPlaylist =
      (browser.setActiveList (drainSelection (list.size + 1) list.restartWalks).1).deliver
        (drainSelection (list.size + 1) list.restartWalks).2 := by
  unfold addToPlaylist
  rw [active]
  rfl

theorem deliver_of_none {extended : Browser} {target : Nat}
    (ensured : browser.ensurePlaylist = (extended, target))
    (plain : extended.views[target]?.bind View.list? = none) (picked : List Track) :
    browser.deliver picked = extended.report (.error .notFound) := by
  unfold deliver
  rw [ensured]
  dsimp only
  rw [plain]

theorem deliver_of_some {extended : Browser} {target : Nat} {playlist : TrackList}
    (ensured : browser.ensurePlaylist = (extended, target))
    (held : extended.views[target]?.bind View.list? = some playlist) (picked : List Track) :
    browser.deliver picked =
      { extended with
        views := extended.views.modify target fun view =>
          view.modifyList fun _ => (appendAll playlist (picked.map Track.detached)).1 }.report
        ((appendAll playlist (picked.map Track.detached)).2.map fun count =>
          "added " ++ Text.decimal count ++ " to playlist") := by
  unfold deliver
  rw [ensured]
  dsimp only
  rw [held]

/-- Once there is a playlist, delivering edits it. -/
theorem deliver_reworks (picked : List Track) :
    browser.ensurePlaylist.1.Reworks (browser.deliver picked) := by
  rcases ensured : browser.ensurePlaylist with ⟨extended, target⟩
  cases held : extended.views[target]?.bind View.list? with
  | none =>
    rw [browser.deliver_of_none ensured held]
    exact .of_views (report_views _ _) (report_active _ _)
  | some playlist =>
    rw [browser.deliver_of_some ensured held]
    refine Edits.reworks (Edits.congr (Edits.modifyList ?_) (report_views _ _) (report_active _ _))
    intro view kept there tracks
    rw [there, Option.bind_some, tracks] at held
    cases held
    exact appendAll_handled _ _

theorem deliver_extends (picked : List Track) :
    browser.Extends browser.missingPlaylists (browser.deliver picked) :=
  browser.ensurePlaylist_extends.rework (browser.deliver_reworks picked)

section Copying

variable {browser : Browser} {list : TrackList}

theorem addToPlaylist_of_none (nothing : browser.activeList? = none) :
    browser.addToPlaylist = browser := by
  unfold addToPlaylist
  rw [nothing]

/-- Draining the active list edits it. -/
theorem drained_edits (active : browser.activeList? = some list) :
    browser.Edits browser.active
      (browser.setActiveList (drainSelection (list.size + 1) list.restartWalks).1) :=
  browser.setActiveList_edits active
    (.trans (.perform .start .restartWalks rfl) (drainSelection_handled _ _))

/-- Copying from a list edits it, adds a playlist if there is none, and edits the playlist. -/
theorem addToPlaylist_extends_of_some (active : browser.activeList? = some list) :
    browser.Extends browser.missingPlaylists browser.addToPlaylist := by
  have edits := drained_edits active
  have extended := (Extends.of_edits edits).trans (deliver_extends _
    (drainSelection (list.size + 1) list.restartWalks).2)
  rwa [Nat.zero_add, edits.reworks.missingPlaylists_eq, ← addToPlaylist_eq active] at extended

end Copying

/-- Copying to the playlist adds at most one. -/
theorem addToPlaylist_extends : ∃ added ≤ 1, browser.Extends added browser.addToPlaylist := by
  cases active : browser.activeList? with
  | none =>
    rw [addToPlaylist_of_none active]
    exact ⟨0, Nat.zero_le 1, .start⟩
  | some list => exact ⟨_, browser.missingPlaylists_le, addToPlaylist_extends_of_some active⟩

/-- Saving the active view adds a playlist. -/
theorem saveAsPlaylist_extends : ∃ added ≤ 1, browser.Extends added browser.saveAsPlaylist := by
  unfold saveAsPlaylist
  split
  · exact ⟨0, Nat.zero_le 1, .rework .start (.of_views rfl rfl)⟩
  · rename_i source _
    have added : browser.Extends 1 (browser.addView (View.ofTracks .playlist
        ("Playlist " ++ Text.decimal browser.views.length)
        (browser.defaults.newList.copyFrom source))).1 := .add .start _ rfl
    exact ⟨1, le_rfl, added.rework (.of_views rfl rfl)⟩

/-- Any key press switches to another view, or leaves the active one active and adds at most one
playlist. -/
theorem Pressed.switches_or_extends {before after : Browser} (pressed : before.Pressed after) :
    before.Switches after ∨ ∃ added ≤ 1, before.Extends added after := by
  cases pressed with
  | edit edits => exact .inr ⟨0, Nat.zero_le 1, .of_edits edits⟩
  | switch switches => exact .inl switches
  | copy => exact .inr before.addToPlaylist_extends
  | save => exact .inr before.saveAsPlaylist_extends

end Browser

end TrackBrowser
