/-
Module: TrackBrowser.Proofs.Browser.Commands
Purpose: Every command asks for a redraw of what it changes on the screen.
-/
import TrackBrowser.Proofs.Browser.Shown

/-!
Most commands end with a message in the status line, and a message asks for a redraw, whatever has
become of the list before.  For the other commands it is the list that asks.
-/

namespace TrackBrowser

namespace Browser

variable {settings : ListSettings} (browser : Browser)

theorem report_redraw (outcome : Except ListError String) :
    (browser.report outcome).redraw = true := by
  cases outcome with
  | ok message => rfl
  | error failure => rfl

theorem clearStatus_redraw (redraw : browser.redraw = true) :
    browser.clearStatus.redraw = true := by
  unfold clearStatus
  split
  · rfl
  · exact redraw

/-- Where no redraw is wanted after it, there was no status to clear. -/
theorem clearStatus_eq_self (quiet : browser.clearStatus.redraw = false) :
    browser.status = none ∧ browser.clearStatus = browser := by
  unfold clearStatus at quiet ⊢
  split at quiet
  · cases quiet
  · rename_i shown
    exact ⟨by simpa using shown, if_neg shown⟩

theorem clearStatus_noticed : Noticed settings browser browser.clearStatus := by
  unfold clearStatus
  split
  · exact .of_redraw rfl
  · exact .refl browser

theorem clearStatus_activeView : browser.clearStatus.activeView = browser.activeView := by
  unfold clearStatus
  split <;> rfl

/-- Editing the input line asks for a redraw, whatever the search finds. -/
theorem inputChanged_redraw : browser.inputChanged.redraw = true := by
  unfold inputChanged
  dsimp only
  split
  · rfl
  · split
    · rfl
    · split
      · rfl
      · split
        · exact clearStatus_redraw _ rfl
        · rfl

theorem pressInput_noticed (key : Key) : Noticed settings browser (browser.pressInput key) := by
  unfold pressInput
  split
  · exact .of_redraw rfl
  · exact .of_redraw rfl
  · exact .of_redraw (inputChanged_redraw _)
  · split
    · exact .refl browser
    · exact .of_redraw (inputChanged_redraw _)
  · exact .refl browser

theorem beginFilter_redraw : browser.beginFilter.redraw = true := by
  unfold beginFilter
  split <;> rfl

theorem repeatSearch_redraw (backwards : Bool) :
    (browser.repeatSearch backwards).redraw = true := by
  unfold repeatSearch
  split
  · rfl
  · split
    · rfl
    · split
      · rfl
      · rfl

theorem popFilter_redraw : browser.popFilter.redraw = true := by
  unfold popFilter
  split <;> rfl

theorem jumpGroup_noticed (field : Field) (forward : Bool) :
    Noticed settings browser (browser.jumpGroup field forward) := by
  unfold jumpGroup
  split
  · exact .refl browser
  · split
    · exact .setActiveList rfl
    · exact .of_redraw rfl

theorem toggleSelect_noticed : Noticed settings browser browser.toggleSelect := by
  apply Noticed.modifyActiveList
  intro list _
  split
  · exact .inl rfl
  · exact .inr rfl

theorem selectSame_redraw (field : Field) : (browser.selectSame field).redraw = true := by
  unfold selectSame
  split
  · rfl
  · split <;> rfl

theorem addToPlaylist_noticed : Noticed settings browser browser.addToPlaylist := by
  unfold addToPlaylist
  split
  · exact .refl browser
  · apply Noticed.of_redraw
    dsimp only
    split
    · rfl
    · exact report_redraw _ _

theorem removeSelected_redraw : browser.removeSelected.redraw = true := by
  unfold removeSelected
  dsimp only
  split
  · exact report_redraw _ _
  · split
    · exact report_redraw _ _
    · exact report_redraw _ _

theorem saveAsPlaylist_redraw : browser.saveAsPlaylist.redraw = true := by
  unfold saveAsPlaylist
  split <;> rfl

theorem shuffleActive_noticed : Noticed settings browser browser.shuffleActive := by
  apply Noticed.withSeed
  apply Noticed.modifyActiveList
  intro list _
  exact .inr rfl

theorem activate_noticed (index : Nat) : Noticed settings browser (browser.activate index).1 := by
  unfold activate
  split
  · exact .refl browser
  · split
    · exact .refl browser
    · exact .of_redraw rfl

theorem openWindow_noticed : Noticed settings browser browser.openWindow := by
  unfold openWindow
  split
  · split
    · exact browser.activate_noticed _
    · exact .refl browser
  · exact .refl browser

end Browser

end TrackBrowser
