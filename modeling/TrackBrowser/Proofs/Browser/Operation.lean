/-
Module: TrackBrowser.Proofs.Browser.Operation
Purpose: The operations of the program as data, and the sessions that runs of them lead to.
-/
import TrackBrowser.Proofs.Browser.Places

/-!
A `Press` is a key press, or a shuffle into an order of its own, so that what is proved of presses
does not hang on the generator of random orders.  An `Operation` is a press or a call on the program
itself.  Runs begin with any views; a press that ends the program does not end the run.
-/

namespace TrackBrowser

namespace Session

/-! ### Presses -/

/-- A key press, or the key press that shuffles, with the order that comes of it. -/
inductive Press where
  | key (key : Key)
  | shuffle (arrangement : Arrangement)

/-- Whether a press is that of a key. -/
def Press.IsKey (press : Press) (code : KeyCode) : Prop :=
  ∃ control, press = .key ⟨code, control⟩

/-- The session after the key that shuffles, when this brings about the given order. -/
def shuffleBy (settings : Settings) (session : Session) (arrangement : Arrangement) : Session :=
  if session.browser.inputMode ≠ .normal then (session.press settings ⟨.char 'S', false⟩).1
  else
    ⟨session.browser.clearStatus.modifyActiveList fun list => list.rearrange arrangement, false⟩

/-- The session after a press. -/
def respond (settings : Settings) (session : Session) : Press → Session
  | .key key => (session.press settings key).1
  | .shuffle arrangement => session.shuffleBy settings arrangement

/-- The session after some presses. -/
def respondAll (settings : Settings) (session : Session) (presses : List Press) : Session :=
  presses.foldl (respond settings) session

variable (settings : Settings) (session : Session)

/-- The key that shuffles brings about the order that the seed draws, and moves the seed on. -/
theorem press_shuffle (closed : session.browser.inputMode = .normal) (control : Bool) :
    (session.press settings ⟨.char 'S', control⟩).1 =
      let shuffled := session.shuffleBy settings session.browser.clearStatus.seed.arrangement
      { shuffled with
        browser := { shuffled.browser with seed := session.browser.clearStatus.seed.next } } := by
  simp [press, shuffleBy, closed, Browser.pressNormal, Browser.pressChar, Browser.shuffleActive,
    TrackList.shuffle_eq_rearrange]

/-- While the input line is open, a key feeds it and does not end the program. -/
theorem press_of_typing (typing : session.browser.inputMode ≠ .normal) (key : Key) :
    session.press settings key = (⟨session.browser.pressInput key, false⟩, false) :=
  if_pos typing

/-- A key press edits the active view, or switches to another view, or is one of the two that copy
and save, with the input line closed. -/
theorem press_cases (key : Key) :
    session.browser.Edits session.browser.active (session.press settings key).1.browser ∨
      session.browser.Switches (session.press settings key).1.browser ∨
      session.browser.inputMode = .normal ∧
        (key.code = .char 'a' ∧
            (session.press settings key).1.browser = session.browser.clearStatus.addToPlaylist ∨
          key.code = .char 'w' ∧
            (session.press settings key).1.browser =
              session.browser.clearStatus.saveAsPlaylist) := by
  unfold press
  dsimp only
  split
  · exact .inl (session.browser.pressInput_edits key)
  · rename_i closed
    have closed : session.browser.inputMode = .normal := not_not.mp closed
    split
    · split
      · exact .inl (.of_clearStatus _ (Browser.modifyActive_edits _ (.put 0)))
      · exact .inl session.browser.clearStatus_edits
    · exact .inl session.browser.clearStatus_edits
    · by_cases copies : key.code = .char 'a'
      · refine .inr (.inr ⟨closed, .inl ⟨copies, ?_⟩⟩)
        rw [Browser.pressNormal, copies]
        rfl
      by_cases saves : key.code = .char 'w'
      · refine .inr (.inr ⟨closed, .inr ⟨saves, ?_⟩⟩)
        rw [Browser.pressNormal, saves]
        rfl
      rcases session.browser.clearStatus.pressNormal_edits_or_switches settings key copies saves
        with edits | switches
      · exact .inl (.of_clearStatus _ edits)
      · exact .inr (.inl (.of_clearStatus _ switches))

/-- Any press does one of these. -/
theorem respond_cases (press : Press) :
    session.browser.Edits session.browser.active (session.respond settings press).browser ∨
      session.browser.Switches (session.respond settings press).browser ∨
      session.browser.inputMode = .normal ∧
        (press.IsKey (.char 'a') ∧
            (session.respond settings press).browser = session.browser.clearStatus.addToPlaylist ∨
          press.IsKey (.char 'w') ∧
            (session.respond settings press).browser =
              session.browser.clearStatus.saveAsPlaylist) := by
  cases press with
  | key key =>
    obtain ⟨code, control⟩ := key
    rcases session.press_cases settings ⟨code, control⟩ with
      edits | switches | ⟨closed, ⟨rfl, copied⟩ | ⟨rfl, saved⟩⟩
    · exact .inl edits
    · exact .inr (.inl switches)
    · exact .inr (.inr ⟨closed, .inl ⟨⟨control, rfl⟩, copied⟩⟩)
    · exact .inr (.inr ⟨closed, .inr ⟨⟨control, rfl⟩, saved⟩⟩)
  | shuffle arrangement =>
    left
    unfold respond shuffleBy
    dsimp only
    split
    · rename_i typing
      rw [session.press_of_typing settings typing]
      exact session.browser.pressInput_edits ⟨.char 'S', false⟩
    · exact .of_clearStatus _ (Browser.modifyActiveList_edits _ fun list _ =>
        .perform .start (.shuffle arrangement) rfl)

/-- A press is handled as it is, or with the status line emptied. -/
theorem respond_pressed (press : Press) :
    session.browser.Pressed (session.respond settings press).browser ∨
      session.browser.clearStatus.Pressed (session.respond settings press).browser := by
  rcases session.respond_cases settings press with
    edits | switches | ⟨_, ⟨_, copied⟩ | ⟨_, saved⟩⟩
  · exact .inl (.edit edits)
  · exact .inl (.switch switches)
  · exact .inr (copied ▸ .copy)
  · exact .inr (saved ▸ .save)

/-- Any press switches to another view, or leaves the active one active and adds at most one
playlist. -/
theorem respond_switches_or_extends (press : Press) :
    session.browser.Switches (session.respond settings press).browser ∨
      ∃ added ≤ 1, session.browser.Extends added (session.respond settings press).browser := by
  cases session.respond_pressed settings press with
  | inl pressed => exact pressed.switches_or_extends
  | inr pressed =>
    cases pressed.switches_or_extends with
    | inl switches => exact .inl (.of_clearStatus _ switches)
    | inr extended =>
      obtain ⟨added, few, extended⟩ := extended
      have cleared : session.browser.Extends 0 session.browser.clearStatus :=
        .of_edits session.browser.clearStatus_edits
      have both := cleared.trans extended
      rw [Nat.zero_add] at both
      exact .inr ⟨added, few, both⟩

/-- Presses leave the views in place but for at most one new playlist each. -/
theorem respondAll_grown (presses : List Press) :
    ∃ added ≤ presses.length,
      Browser.Grown added session.browser (session.respondAll settings presses).browser := by
  -- Each press moves the places that the presses after it start from.
  induction presses generalizing session with
  | nil => exact ⟨0, Nat.zero_le _, (Browser.Reworks.of_views rfl rfl).grown⟩
  | cons press presses ih =>
    obtain ⟨first, one, grown⟩ : ∃ added ≤ 1,
        Browser.Grown added session.browser (session.respond settings press).browser := by
      cases session.respond_switches_or_extends settings press with
      | inl switches => exact ⟨0, Nat.zero_le 1, switches.grown⟩
      | inr extended =>
        obtain ⟨added, few, extended⟩ := extended
        exact ⟨added, few, extended.grown⟩
    obtain ⟨rest, few, later⟩ := ih (session.respond settings press)
    exact ⟨first + rest, by rw [List.length_cons]; omega, grown.trans later⟩

/-! ### Operations -/

/-- What may be done to the program: a press, under any settings, or a call on the program. -/
inductive Operation where
  | press (settings : Settings) (press : Press)
  | activate (index : Nat)
  | nextView
  | previousView
  | addView (view : View)
  | saveAsPlaylist
  | addToPlaylist
  | setDefaults (defaults : ListDefaults)

/-- The session after an operation.  Calls on the program leave a pending key press pending. -/
def perform (session : Session) : Operation → Session
  | .press settings press => session.respond settings press
  | .activate index => { session with browser := (session.browser.activate index).1 }
  | .nextView => { session with browser := session.browser.nextView }
  | .previousView => { session with browser := session.browser.previousView }
  | .addView view => { session with browser := (session.browser.addView view).1 }
  | .saveAsPlaylist => { session with browser := session.browser.saveAsPlaylist }
  | .addToPlaylist => { session with browser := session.browser.addToPlaylist }
  | .setDefaults defaults => { session with browser := session.browser.setDefaults defaults }

/-- The session over some views after operations. -/
def run (views : List View) (operations : List Operation) : Session :=
  operations.foldl perform ⟨.ofViews views, false⟩

theorem run_append (views : List View) (operations : List Operation) (operation : Operation) :
    run views (operations ++ [operation]) = (run views operations).perform operation := by
  rw [run, List.foldl_append]
  rfl

/-- What an operation comes to: a switch, a growth by at most one playlist, or a new view. -/
theorem perform_cases (session : Session) (operation : Operation) :
    session.browser.Switches (session.perform operation).browser ∨
      (∃ added ≤ 1, session.browser.Extends added (session.perform operation).browser) ∨
      ∃ view, (session.perform operation).browser = (session.browser.addView view).1 := by
  cases operation with
  | press settings press =>
    rw [← or_assoc]
    exact .inl (session.respond_switches_or_extends settings press)
  | activate index => exact .inl (session.browser.activate_switches index)
  | nextView => exact .inl (session.browser.activate_switches _)
  | previousView => exact .inl (session.browser.activate_switches _)
  | addView view => exact .inr (.inr ⟨view, rfl⟩)
  | saveAsPlaylist => exact .inr (.inl session.browser.saveAsPlaylist_extends)
  | addToPlaylist => exact .inr (.inl session.browser.addToPlaylist_extends)
  | setDefaults defaults =>
    have reworks := session.browser.setDefaults_reworks defaults
    exact .inr (.inl ⟨0, Nat.zero_le 1, .rework .start reworks⟩)

end Session

end TrackBrowser
