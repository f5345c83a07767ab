/-
Module: TrackBrowser.Proofs.Browser.Windows
Purpose: The list of windows names the views of the program, and opens the view it names.
-/
import TrackBrowser.Proofs.Browser.Operation

/-!
Whatever is done to the program, some view is active, there is a list of windows, and each list of
windows names every view in order.  `Listed` says so of one moment; editing, switching and adding
keep it, and so does every operation.
-/

namespace TrackBrowser

/-- A list of windows that was brought up to date shows the new rows. -/
theorem View.rows_eq_of_refreshed {view : View} {shown rows : List String} {cursor : Cursor}
    (windows : view.kind = .windows) (plain : (view.refreshed shown).content = .rows rows cursor) :
    rows = shown := by
  obtain ⟨kind, title, content⟩ := view
  rw [View.refreshed, if_pos windows] at plain
  cases content with
  | tracks list => cases plain
  | rows old cursor =>
    cases plain
    rfl

namespace Browser

/-! ### The invariant -/

/-- There is an active view and a list of windows, and each list of windows that is made of plain
rows names the views. -/
structure Listed (browser : Browser) : Prop where
  active : browser.active < browser.views.length
  windows : ∃ view ∈ browser.views, view.kind = .windows
  rows : ∀ {view : View}, view ∈ browser.views → view.kind = .windows →
    ∀ {rows : List String} {cursor : Cursor}, view.content = .rows rows cursor →
      rows = browser.windowRows

/-- The program is listed once all lists of windows are brought up to date. -/
theorem listed_of_refreshed {browser : Browser} {views : List View}
    (active : browser.active < browser.views.length)
    (windows : ∃ view ∈ views, view.kind = .windows)
    (shown : browser.views = views.map fun view => view.refreshed browser.windowRows) :
    browser.Listed where
  active := active
  windows := by
    obtain ⟨view, member, kind⟩ := windows
    refine ⟨view.refreshed browser.windowRows, ?_, ?_⟩
    · rw [shown]
      exact List.mem_map_of_mem member
    · rw [View.kind_refreshed, kind]
  rows := by
    intro later member kind rows cursor plain
    rw [shown] at member
    obtain ⟨view, _, rfl⟩ := List.mem_map.mp member
    rw [View.kind_refreshed] at kind
    exact View.rows_eq_of_refreshed kind plain

theorem ofViews_listed (views : List View) : (ofViews views).Listed := by
  let listed : List View :=
    if views.any fun view => view.kind == .windows then views
    else views ++ [View.ofRows .windows "Windows" []]
  have windows : ∃ view ∈ listed, view.kind = .windows := by
    by_cases present : views.any fun view => view.kind == .windows
    · obtain ⟨view, member, kind⟩ := List.any_eq_true.mp present
      exact ⟨view, by simpa only [listed, if_pos present] using member, by simpa using kind⟩
    · refine ⟨View.ofRows .windows "Windows" [], ?_, rfl⟩
      simp only [listed, if_neg present]
      exact List.mem_append_right views List.mem_cons_self
  have rows : (ofViews views).windowRows = ({ views := listed : Browser }).windowRows :=
    windowRows_refreshWindows _
  have shown : (ofViews views).views =
      listed.map fun view => view.refreshed (ofViews views).windowRows := by
    rw [rows]
    rfl
  refine listed_of_refreshed ?_ windows shown
  obtain ⟨view, member, _⟩ := windows
  rw [shown, List.length_map]
  exact List.length_pos_of_mem member

theorem Reworks.listed {before after : Browser} (reworks : before.Reworks after)
    (listed : before.Listed) : after.Listed where
  active := by
    rw [reworks.active, reworks.length]
    exact listed.active
  windows := by
    obtain ⟨view, member, kind⟩ := listed.windows
    obtain ⟨index, there⟩ := List.mem_iff_getElem?.mp member
    obtain ⟨later, found, edited⟩ := reworks.views there
    exact ⟨later, List.mem_of_getElem? found, edited.kind_eq.trans kind⟩
  rows := by
    intro later member kind rows cursor plain
    obtain ⟨view, earlier, edited⟩ := reworks.exists_before member
    obtain ⟨old, same⟩ := edited.rows_eq plain
    have named : after.windowRows = before.windowRows := reworks.map_eq fun edited => by
      rw [edited.title_eq, edited.kind_eq]
    rw [named]
    exact listed.rows earlier (edited.kind_eq.symm.trans kind) same

theorem Switches.listed {before after : Browser} (switches : before.Switches after)
    (listed : before.Listed) : after.Listed where
  active := by
    rw [switches.views]
    exact switches.inside listed.active
  windows := by
    rw [switches.views]
    exact listed.windows
  rows := by
    intro view member kind rows cursor plain
    rw [windowRows, switches.views]
    rw [switches.views] at member
    exact listed.rows member kind plain

/-- Adding a view of any role keeps the lists of windows up to date. -/
theorem Listed.addView {browser : Browser} (listed : browser.Listed) (view : View) :
    (browser.addView view).1.Listed := by
  refine listed_of_refreshed ?_ ?_ (browser.addView_views view)
  · have inside := listed.active
    rw [addView_active, addView_length, placeAfter]
    split <;> omega
  · obtain ⟨windows, member, kind⟩ := listed.windows
    refine ⟨windows, ?_, kind⟩
    exact (List.mem_insertIdx browser.addPlace_le).mpr (.inr member)

theorem Extends.listed {before after : Browser} {added : Nat}
    (extended : before.Extends added after) (listed : before.Listed) : after.Listed := by
  induction extended with
  | start => exact listed
  | rework _ reworks ih => exact reworks.listed ih
  | add _ view _ ih => exact ih.addView view

/-! ### Naming and opening -/

/-- The rows that name the views: as many as there are views, each with the title and the role of
the view at its index. -/
theorem windowRows_spec (browser : Browser) :
    browser.windowRows.length = browser.views.length ∧
      ∀ (index : Nat) (view : View), browser.views[index]? = some view →
        browser.windowRows[index]? = some (view.title ++ " (" ++ view.kind.name ++ ")") := by
  refine ⟨List.length_map _, ?_⟩
  intro index view there
  rw [windowRows, List.getElem?_map, there, Option.map_some]

namespace Listed

variable {browser : Browser}

theorem getElem?_active (listed : browser.Listed) :
    browser.views[browser.active]? = some browser.activeView := by
  rw [activeView, List.getElem?_eq_getElem listed.active, Option.getD_some]

/-- Adding a view keeps the active view active, as it was but for the rows of a list of windows. -/
theorem activeView_addView (listed : browser.Listed) (view : View) :
    (browser.addView view).1.activeView =
      browser.activeView.refreshed (browser.addView view).1.windowRows := by
  apply activeView_eq
  rw [addView_active, addView_getElem?_placeAfter, listed.getElem?_active, Option.map_some]

/-- The cursor of a list of windows is on the row of a view. -/
theorem cursorIndex?_windows (listed : browser.Listed) {rows : List String} {cursor : Cursor}
    (windows : browser.activeView.kind = .windows)
    (plain : browser.activeView.content = .rows rows cursor) :
    ∃ index < browser.views.length, browser.activeView.cursorIndex? = some index := by
  have same : rows = browser.windowRows :=
    listed.rows (List.mem_of_getElem? listed.getElem?_active) windows plain
  have size : browser.activeView.size = browser.views.length := by
    rw [View.size, plain, same]
    exact browser.windowRows_spec.1
  have nonempty : 0 < browser.views.length := Nat.zero_lt_of_lt listed.active
  refine ⟨min browser.activeView.cursor.index (browser.views.length - 1), by omega, ?_⟩
  rw [View.cursorIndex?, Cursor.position?, size, if_pos nonempty]

end Listed

/-- Switching to a view that is there. -/
theorem activate_active {browser : Browser} {index : Nat} (inside : index < browser.views.length) :
    (browser.activate index).1.active = index := by
  unfold activate
  rw [if_neg (Nat.not_le.mpr inside)]
  split
  · assumption
  · rfl

end Browser

namespace Session

theorem perform_listed {session : Session} (listed : session.browser.Listed)
    (operation : Operation) : (session.perform operation).browser.Listed := by
  cases session.perform_cases operation with
  | inl switches => exact switches.listed listed
  | inr others =>
    cases others with
    | inl extended =>
      obtain ⟨added, _, extended⟩ := extended
      exact extended.listed listed
    | inr addition =>
      obtain ⟨view, added⟩ := addition
      rw [added]
      exact listed.addView view

theorem run_listed (views : List View) (operations : List Operation) :
    (run views operations).browser.Listed := by
  induction operations using List.reverseRecOn with
  | nil => exact Browser.ofViews_listed views
  | append_singleton operations operation ih =>
    rw [run_append]
    exact perform_listed ih operation

/-- An operation that adds a view leaves the same view active, at its place and handled at most. -/
theorem active_of_grown {session : Session} (listed : session.browser.Listed)
    (operation : Operation)
    (grew : (session.perform operation).browser.views.length ≠ session.browser.views.length) :
    ∃ added,
      (session.perform operation).browser.views.length = session.browser.views.length + added ∧
      (session.perform operation).browser.active =
        session.browser.placeAfter added session.browser.active ∧
      session.browser.activeView.Continues (session.perform operation).browser.activeView := by
  cases session.perform_cases operation with
  | inl switches => exact absurd (congrArg List.length switches.views) grew
  | inr others =>
    cases others with
    | inl extended =>
      obtain ⟨added, _, extended⟩ := extended
      obtain ⟨later, found, continues⟩ := extended.grown.views listed.getElem?_active
      rw [← extended.active] at found
      exact ⟨added, extended.grown.length, extended.active, by
        rw [Browser.activeView_eq _ found]
        exact continues⟩
    | inr addition =>
      obtain ⟨view, added⟩ := addition
      rw [added]
      refine ⟨1, session.browser.addView_length view, session.browser.addView_active view, ?_⟩
      rw [listed.activeView_addView view]
      exact .refreshed _ _

/-- Enter on a list of windows opens the view on which the cursor stands, and changes no view. -/
theorem press_enter_windows {session : Session} (listed : session.browser.Listed)
    (settings : Settings) (control : Bool) (closed : session.browser.inputMode = .normal)
    (windows : session.browser.activeView.kind = .windows) {rows : List String} {cursor : Cursor}
    (plain : session.browser.activeView.content = .rows rows cursor) :
    ∃ index named,
      session.browser.activeView.cursorIndex? = some index ∧
      session.browser.views[index]? = some named ∧
      rows[index]? = some (named.title ++ " (" ++ named.kind.name ++ ")") ∧
      (session.press settings ⟨.enter, control⟩).1.browser.active = index ∧
      (session.press settings ⟨.enter, control⟩).1.browser.views = session.browser.views := by
  obtain ⟨index, inside, stands⟩ := listed.cursorIndex?_windows windows plain
  have same : rows = session.browser.windowRows :=
    listed.rows (List.mem_of_getElem? listed.getElem?_active) windows plain
  have there := List.getElem?_eq_getElem inside
  have opened : (session.press settings ⟨.enter, control⟩).1.browser =
      (session.browser.clearStatus.activate index).1 := by
    simp only [press, closed, ne_eq, not_true, if_false, Browser.pressNormal, Browser.openWindow,
      Browser.clearStatus_activeView, windows, if_true, stands]
  refine ⟨index, session.browser.views[index], stands, there, ?_, ?_, ?_⟩
  · rw [same]
    exact session.browser.windowRows_spec.2 index _ there
  · rw [opened]
    exact Browser.activate_active (by rw [Browser.clearStatus_views]; exact inside)
  · rw [opened, (Browser.activate_switches _ index).views, Browser.clearStatus_views]

/-- After any operations on a program over any views: a view is active, there is a list of windows,
and those made of plain rows name every view at its index.  Adding a view then leaves the same view
active; and Enter on such a list opens the view that the row of the cursor names. -/
theorem run_windows (views : List View) (operations : List Operation) :
    let session := run views operations
    let browser := session.browser
    browser.active < browser.views.length ∧
    (∃ view ∈ browser.views, view.kind = .windows) ∧
    (∀ view ∈ browser.views, view.kind = .windows →
      ∀ rows cursor, view.content = .rows rows cursor →
        rows.length = browser.views.length ∧
        ∀ (index : Nat) (named : View), browser.views[index]? = some named →
          rows[index]? = some (named.title ++ " (" ++ named.kind.name ++ ")")) ∧
    (∀ view, (browser.addView view).1.activeView =
      browser.activeView.refreshed (browser.addView view).1.windowRows) ∧
    (∀ operation, (session.perform operation).browser.views.length ≠ browser.views.length →
      ∃ added,
        (session.perform operation).browser.views.length = browser.views.length + added ∧
        (session.perform operation).browser.active = browser.placeAfter added browser.active ∧
        browser.activeView.Continues (session.perform operation).browser.activeView) ∧
    ∀ settings control, browser.inputMode = .normal → browser.activeView.kind = .windows →
      ∀ rows cursor, browser.activeView.content = .rows rows cursor →
        ∃ index named,
          browser.activeView.cursorIndex? = some index ∧ browser.views[index]? = some named ∧
          rows[index]? = some (named.title ++ " (" ++ named.kind.name ++ ")") ∧
          (session.press settings ⟨.enter, control⟩).1.browser.active = index ∧
          (session.press settings ⟨.enter, control⟩).1.browser.views = browser.views := by
  intro session browser
  have listed : browser.Listed := run_listed views operations
  refine ⟨listed.active, listed.windows, ?_, listed.activeView_addView, ?_, ?_⟩
  · intro view member windows rows cursor plain
    rw [listed.rows member windows plain]
    exact browser.windowRows_spec
  · intro operation grew
    exact active_of_grown listed operation grew
  · intro settings control closed windows rows cursor plain
    exact press_enter_windows listed settings control closed windows plain

/-- A run in which the active list of windows is moved by two new views, after which the cursor goes
to the second view. -/
def movedRun : List Operation :=
  [.press {} (.key ⟨.tab, false⟩), .addView (View.ofRows .bindings "Keys" ["q  quit"]),
    .addView (View.ofRows .windows "Others" []), .press {} (.key ⟨.char 'j', false⟩)]

/-- After such a run the second view is opened. -/
theorem run_windows_movedRun :
    let session := run [View.ofTracks .library "Library" {}] movedRun
    session.browser.inputMode = .normal ∧ session.browser.activeView.kind = .windows ∧
      session.browser.activeView.content =
        .rows ["Library (library)", "Keys (bindings)", "Others (windows)", "Windows (windows)"]
          { ({} : Cursor) with index := 1 } ∧
      session.browser.active = 3 ∧
      (session.press {} ⟨.enter, false⟩).1.browser.active = 1 := by
  intro session
  have closed : session.browser.inputMode = .normal := by decide
  have windows : session.browser.activeView.kind = .windows := by decide
  have plain : session.browser.activeView.content =
      .rows ["Library (library)", "Keys (bindings)", "Others (windows)", "Windows (windows)"]
        { ({} : Cursor) with index := 1 } := by decide
  have stands : session.browser.activeView.cursorIndex? = some 1 := by decide
  obtain ⟨_, _, _, _, _, opens⟩ := run_windows [View.ofTracks .library "Library" {}] movedRun
  obtain ⟨index, named, there, _, _, active, _⟩ := opens {} false closed windows _ _ plain
  rw [stands] at there
  cases there
  exact ⟨closed, windows, plain, by decide, active⟩

end Session

end TrackBrowser
