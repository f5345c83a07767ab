/-
Module: TrackBrowser.Proofs.Browser.TypeAhead
Purpose: Where a search that is being typed leaves the cursor, whatever was typed before.
-/
import TrackBrowser.Proofs.Browser.OtherViews
import TrackBrowser.Proofs.Browser.SelectSame
import TrackBrowser.Proofs.TrackList.Searching

/-!
Each change of the input line puts the cursor back to where the search began and searches anew from
there.  So it does not matter where earlier input has led: `typeAhead` says on which row the cursor
is, from the list, the row on which the search began and the text in the input line alone.  One
change of the input line establishes this, from any row, and a run of them keeps it.
-/

namespace TrackBrowser

namespace TrackList

variable {list later : TrackList} {start : Nat} {text : String}

/-- The row to which typing a text leads from a row: the first match on the way around the list that
begins there.  With no text, with one that is no pattern, and without a match it is the row
itself. -/
def typeAhead (list : TrackList) (start : Nat) (text : String) : Nat :=
  if text.isEmpty || !(list.checkPattern text).isOk then start
  else (((List.range list.size).rotate start).find? (list.matchesAt text)).getD start

/-- The row does not depend on the cursor. -/
theorem typeAhead_congr (same : later.withoutCursor = list.withoutCursor) (start : Nat)
    (text : String) : later.typeAhead start text = list.typeAhead start text := by
  have rows := congrArg (fun held : TrackList => held.typeAhead start text) same
  exact rows

theorem typeAhead_empty (list : TrackList) (start : Nat) : list.typeAhead start "" = start := rfl

theorem typeAhead_of_error {failure : ListError}
    (invalid : list.checkPattern text = .error failure) : list.typeAhead start text = start := by
  rw [typeAhead, invalid, if_pos]
  exact Bool.or_true _

theorem typeAhead_of_ok (some_text : text ≠ "") (valid : list.checkPattern text = .ok ()) :
    list.typeAhead start text =
      (((List.range list.size).rotate start).find? (list.matchesAt text)).getD start := by
  have unmet : (text.isEmpty || !(list.checkPattern text).isOk) = false := by
    rw [valid, Bool.or_eq_false_iff]
    exact ⟨Bool.eq_false_iff.mpr fun empty => some_text (String.isEmpty_iff.mp empty), rfl⟩
  rw [typeAhead, unmet, if_neg Bool.false_ne_true]

/-- Without a match the row is the one from which the search began. -/
theorem typeAhead_of_no_match (nothing : ∀ index < list.size, list.matchesAt text index = false) :
    list.typeAhead start text = start := by
  have missed : ((List.range list.size).rotate start).find? (list.matchesAt text) = none := by
    refine List.find?_eq_none.mpr fun index member => ?_
    rw [nothing index (List.mem_range.mp (List.mem_rotate.mp member))]
    exact Bool.false_ne_true
  rw [typeAhead, missed, Option.getD_none, ite_self]

/-- With a match it is the first one on the way around. -/
theorem find?_typeAhead (some_text : text ≠ "") (valid : list.checkPattern text = .ok ())
    {index : Nat} (inside : index < list.size) (hit : list.matchesAt text index = true) :
    ((List.range list.size).rotate start).find? (list.matchesAt text) =
      some (list.typeAhead start text) := by
  have met : index ∈ (List.range list.size).rotate start :=
    List.mem_rotate.mpr (List.mem_range.mpr inside)
  rw [typeAhead_of_ok some_text valid]
  cases found : ((List.range list.size).rotate start).find? (list.matchesAt text) with
  | none => exact absurd hit (List.find?_eq_none.mp found index met)
  | some first => rfl

/-- Searching from the cursor on goes to the row for the text, or fails where that is the row of the
cursor. -/
theorem search_typeAhead (onCursor : list.cursorIndex? = some start) (some_text : text ≠ "") :
    (list.search text false false =
        .ok ((list.putCursor (list.typeAhead start text)).1, list.typeAhead start text) ∧
        list.typeAhead start text < list.size) ∨
      (∃ failure, list.search text false false = .error failure) ∧
        list.typeAhead start text = start := by
  cases valid : list.checkPattern text with
  | error failure =>
    refine .inr ⟨⟨failure, ?_⟩, typeAhead_of_error valid⟩
    simp only [search, onCursor, valid, bind, Except.bind]
  | ok _ =>
    have searched := search_eq onCursor valid false false
    rw [if_neg Bool.false_ne_true, Bool.not_false, lap_true, List.reverse_reverse] at searched
    rw [searched, typeAhead_of_ok some_text valid]
    cases hit : ((List.range list.size).rotate start).find? (list.matchesAt text) with
    | none => exact .inr ⟨⟨_, rfl⟩, rfl⟩
    | some found =>
      have member := List.mem_rotate.mp (List.mem_of_find?_eq_some hit)
      exact .inl ⟨rfl, List.mem_range.mp member⟩

/-- Putting the cursor of such a list on a row moves nothing else. -/
theorem putCursor_lands {row : Nat} (same : later.withoutCursor = list.withoutCursor)
    (inside : row < list.size) :
    (later.putCursor row).1.cursorIndex? = some row ∧
      (later.putCursor row).1.withoutCursor = list.withoutCursor := by
  have size := congrArg TrackList.size same
  exact ⟨cursorIndex?_putCursor (inside.trans_eq size.symm), same⟩

end TrackList

namespace Browser

open TrackList (putCursor_lands)

variable {browser : Browser} {list : TrackList} {start row : Nat}

/-! ### One change of the input line -/

/-- The active list is this one, with the cursor on a row. -/
def CursorAt (browser : Browser) (list : TrackList) (row : Nat) : Prop :=
  ∃ later, browser.activeList? = some later ∧ later.cursorIndex? = some row ∧
    later.withoutCursor = list.withoutCursor

/-- A change of an active list with rows is seen there. -/
theorem activeList?_modifyActiveList (active : browser.activeList? = some list)
    (nonempty : 0 < list.size) (change : TrackList → TrackList) :
    (browser.modifyActiveList change).activeList? = some (change list) := by
  by_cases inside : browser.active < browser.views.length
  · have tracks : browser.activeView.list? = some list := active
    rw [activeList?, modifyActiveList, activeView_modifyActive inside, View.list?_modifyList,
      tracks, Option.map_some]
  · -- Without an active view, the active list is empty.
    rw [activeList?, activeView, List.getElem?_eq_none (Nat.not_lt.mp inside)] at active
    cases active
    exact absurd nonempty (Nat.lt_irrefl 0)

/-- Where nothing but the status changes, the cursor stays. -/
theorem CursorAt.congr {other : Browser} (held : browser.CursorAt list row)
    (views : other.views = browser.views) (active : other.active = browser.active) :
    other.CursorAt list row := by
  obtain ⟨later, found, stands, same⟩ := held
  refine ⟨later, ?_, stands, same⟩
  rw [activeList?, activeView, views, active]
  exact found

/-- Changing the active list in such a way that only its cursor goes to another row. -/
theorem CursorAt.modify {before : Nat} (held : browser.CursorAt list before)
    (nonempty : 0 < list.size) {change : TrackList → TrackList}
    (lands : ∀ current : TrackList, current.withoutCursor = list.withoutCursor →
      (change current).cursorIndex? = some row ∧
        (change current).withoutCursor = list.withoutCursor) :
    (browser.modifyActiveList change).CursorAt list row := by
  obtain ⟨current, active, _, same⟩ := held
  have size := congrArg TrackList.size same
  obtain ⟨stands, still⟩ := lands current same
  exact ⟨_, activeList?_modifyActiveList active (nonempty.trans_eq size.symm) change, stands, still⟩

/-- However the input line was changed, the cursor goes to the row for its text. -/
theorem inputChanged_cursorAt (searching : browser.inputMode = .search)
    (origin : browser.searchOrigin = some start) (inside : start < list.size)
    (held : browser.CursorAt list row) :
    browser.inputChanged.CursorAt list (list.typeAhead start browser.input) := by
  have kept : browser.markRedraw.CursorAt list row := held.congr rfl rfl
  obtain ⟨current, active, _, same⟩ := held
  have marked : browser.markRedraw.activeList? = some current := active
  have mode : browser.markRedraw.inputMode = .search := searching
  have text : browser.markRedraw.input = browser.input := rfl
  have from_origin : browser.markRedraw.searchOrigin.getD 0 = start := by
    rw [markRedraw, origin, Option.getD_some]
  have nonempty := Nat.zero_lt_of_lt inside
  -- The search starts from the list with its cursor put back.
  obtain ⟨placed, again⟩ := putCursor_lands same inside
  have rows := TrackList.typeAhead_congr again start browser.input
  unfold inputChanged
  simp only [mode, marked, text, from_origin, ne_eq, not_true_eq_false, if_false]
  by_cases empty : browser.input = ""
  · rw [empty, TrackList.typeAhead_empty]
    exact kept.modify nonempty fun _ _ => ⟨placed, again⟩
  · rw [if_neg fun none => empty (String.isEmpty_iff.mp none)]
    rcases TrackList.search_typeAhead placed empty with
      ⟨searched, there⟩ | ⟨⟨failure, failed⟩, stays⟩
    · rw [rows] at searched there
      simp only [searched]
      have size := congrArg TrackList.size again
      have found := putCursor_lands again (there.trans_eq size)
      exact (kept.modify nonempty fun _ _ => found).congr (clearStatus_views _)
        (clearStatus_active _)
    · rw [rows] at stays
      simp only [failed]
      rw [stays]
      exact (kept.modify nonempty fun _ _ => ⟨placed, again⟩).congr rfl rfl

/-! ### Typing -/

/-- A change of the input line: a character is added, or the last one removed. -/
inductive Keystroke where
  | push (c : Char)
  | pop
  deriving DecidableEq, Repr, Inhabited

/-- The text in the input line after a keystroke. -/
def Keystroke.edit (text : String) : Keystroke → String
  | .push c => text.push c
  | .pop => String.ofList text.toList.dropLast

/-- The program after a keystroke. -/
def stroke (browser : Browser) : Keystroke → Browser
  | .push c => browser.pushInput c
  | .pop => browser.popInput

/-- The program after some keystrokes. -/
def type (browser : Browser) (strokes : List Keystroke) : Browser :=
  strokes.foldl stroke browser

/-- A search that began on a row of a list is being typed: the cursor is on the row for the text in
the input line. -/
structure Typing (browser : Browser) (list : TrackList) (start : Nat) : Prop where
  mode : browser.inputMode = .search
  origin : browser.searchOrigin = some start
  cursor : browser.CursorAt list (list.typeAhead start browser.input)

/-- Searching anew changes neither the text nor where the search began. -/
theorem inputChanged_input (browser : Browser) :
    browser.inputChanged.input = browser.input ∧
      browser.inputChanged.inputMode = browser.inputMode ∧
      browser.inputChanged.searchOrigin = browser.searchOrigin := by
  have cleared : ∀ other : Browser, other.clearStatus.input = other.input ∧
      other.clearStatus.inputMode = other.inputMode ∧
      other.clearStatus.searchOrigin = other.searchOrigin := by
    intro other
    unfold clearStatus
    split <;> exact ⟨rfl, rfl, rfl⟩
  unfold inputChanged
  dsimp only
  split
  · exact ⟨rfl, rfl, rfl⟩
  · split
    · exact ⟨rfl, rfl, rfl⟩
    · split
      · exact ⟨rfl, rfl, rfl⟩
      · split
        · exact cleared _
        · exact ⟨rfl, rfl, rfl⟩

theorem stroke_eq (browser : Browser) (stroke : Keystroke) :
    browser.stroke stroke = { browser with input := stroke.edit browser.input }.inputChanged := by
  cases stroke <;> rfl

namespace Typing

/-- One keystroke. -/
theorem stroke (typing : browser.Typing list start) (inside : start < list.size)
    (stroke : Keystroke) : (browser.stroke stroke).Typing list start := by
  rw [stroke_eq]
  let edited : Browser := { browser with input := stroke.edit browser.input }
  obtain ⟨text, mode, origin⟩ := edited.inputChanged_input
  have searching : edited.inputMode = .search := typing.mode
  have began : edited.searchOrigin = some start := typing.origin
  have moved := inputChanged_cursorAt searching began inside (typing.cursor.congr rfl rfl)
  rw [← text] at moved
  exact ⟨mode.trans searching, origin.trans began, moved⟩

theorem type (typing : browser.Typing list start) (inside : start < list.size)
    (strokes : List Keystroke) : (browser.type strokes).Typing list start := by
  unfold Browser.type
  induction strokes generalizing browser with
  | nil => exact typing
  | cons first rest ih => exact ih (typing.stroke inside first)

end Typing

theorem input_type (browser : Browser) (strokes : List Keystroke) :
    (browser.type strokes).input = strokes.foldl Keystroke.edit browser.input := by
  unfold type
  induction strokes generalizing browser with
  | nil => rfl
  | cons first rest ih =>
    have text : (browser.stroke first).input = first.edit browser.input := by
      rw [stroke_eq]
      exact (inputChanged_input _).1
    rw [List.foldl_cons, List.foldl_cons, ih, text]

/-- Beginning a search begins with no text, on the row of the cursor. -/
theorem beginSearch_typing (active : browser.activeList? = some list)
    (onCursor : list.cursorIndex? = some start) : browser.beginSearch.Typing list start where
  mode := rfl
  origin := by
    have stands : browser.activeView.cursorIndex? = list.cursorIndex? := by
      unfold activeList? View.list? at active
      split at active
      · rename_i held content
        cases active
        simp only [View.cursorIndex?, View.cursor, View.size, content]
        rfl
      · cases active
    exact stands.trans onCursor
  cursor := ⟨list, active, onCursor, rfl⟩

/-- Giving the input up puts the cursor back to where the search began. -/
theorem Typing.cancel (typing : browser.Typing list start) (inside : start < list.size) :
    browser.cancelInput.CursorAt list start := by
  have back : (browser.modifyActiveList fun held => (held.putCursor start).1).CursorAt list start :=
    typing.cursor.modify (Nat.zero_lt_of_lt inside) fun _ same => putCursor_lands same inside
  unfold cancelInput
  simp only [typing.mode, typing.origin, if_true]
  exact back.congr rfl rfl

/-! ### The statement -/

/-- A search that is typed over a list with rows.  However the text in the input line came about,
the cursor is on a row that the list, the row on which the search began and this text determine: the
first match on the way around from that row, or that row itself without a text, with one that is no
pattern, or without a match.  So wherever the same search was begun and whatever was typed, with the
same text in the end the cursor is on the same row.  Giving the input up puts it back.  Nothing of
the list but its cursor ever changes. -/
theorem typeAhead_run (active : browser.activeList? = some list)
    (onCursor : list.cursorIndex? = some start) (strokes : List Keystroke) :
    let typed := browser.beginSearch.type strokes
    typed.input = strokes.foldl Keystroke.edit "" ∧
    ∃ row, typed.CursorAt list row ∧
      (typed.input = "" ∨ (∃ failure, list.checkPattern typed.input = .error failure) ∨
        (∀ index < list.size, list.matchesAt typed.input index = false) → row = start) ∧
      (typed.input ≠ "" → list.checkPattern typed.input = .ok () →
        (∃ index < list.size, list.matchesAt typed.input index = true) →
          ((List.range list.size).rotate start).find? (list.matchesAt typed.input) = some row) ∧
      (∀ (other : Browser) (same : TrackList) (others : List Keystroke),
        other.activeList? = some same → same.withoutCursor = list.withoutCursor →
        same.cursorIndex? = some start → (other.beginSearch.type others).input = typed.input →
          (other.beginSearch.type others).CursorAt list row) ∧
      typed.cancelInput.CursorAt list start := by
  intro typed
  have inside := TrackList.cursorIndex?_lt onCursor
  have typing : typed.Typing list start := (beginSearch_typing active onCursor).type inside strokes
  refine ⟨input_type _ strokes, _, typing.cursor, ?_, ?_, ?_, typing.cancel inside⟩
  · rintro (empty | ⟨failure, invalid⟩ | nothing)
    · rw [empty, TrackList.typeAhead_empty]
    · exact TrackList.typeAhead_of_error invalid
    · exact TrackList.typeAhead_of_no_match nothing
  · rintro some_text valid ⟨index, within, hit⟩
    exact TrackList.find?_typeAhead some_text valid within hit
  · intro other same others active_there equal onCursor_there text
    have inside_there := TrackList.cursorIndex?_lt onCursor_there
    have typing_there := (beginSearch_typing active_there onCursor_there).type inside_there others
    obtain ⟨later, found, stands, still⟩ := typing_there.cursor
    rw [text, TrackList.typeAhead_congr equal] at stands
    exact ⟨later, found, stands, still.trans equal⟩

/-- A library of three tracks, the first and the last by Ada, with the cursor on the second. -/
def duetLibrary : Browser :=
  ofViews [View.ofTracks .library "Library" (TrackList.run (TrackList.duet ++ [.putCursor 1]))]

/-- Two ways to type `ad` there, one of them with a detour, lead to the last track; giving the input
up leads back to the second. -/
theorem typeAhead_run_duetLibrary :
    ∃ list, duetLibrary.activeList? = some list ∧ list.cursorIndex? = some 1 ∧
      (duetLibrary.beginSearch.type [.push 'f', .pop, .push 'a', .push 'd']).CursorAt list 2 ∧
      (duetLibrary.beginSearch.type [.push 'a', .push 'd']).CursorAt list 2 ∧
      (duetLibrary.beginSearch.type [.push 'a', .push 'd']).cancelInput.CursorAt list 1 := by
  have active : duetLibrary.activeList? =
      some (TrackList.run (TrackList.duet ++ [.putCursor 1])) := rfl
  have onCursor : (TrackList.run (TrackList.duet ++ [.putCursor 1])).cursorIndex? = some 1 := by
    decide
  have valid : (TrackList.run (TrackList.duet ++ [.putCursor 1])).checkPattern "ad" = .ok () := by
    decide
  have hit : (TrackList.run (TrackList.duet ++ [.putCursor 1])).matchesAt "ad" 2 = true := by
    decide +kernel
  have round : ((List.range 3).rotate 1).find?
      ((TrackList.run (TrackList.duet ++ [.putCursor 1])).matchesAt "ad") = some 2 := by
    decide +kernel
  have direct : [Keystroke.push 'a', .push 'd'].foldl Keystroke.edit "" = "ad" := by decide +kernel
  have detour :
      [Keystroke.push 'f', .pop, .push 'a', .push 'd'].foldl Keystroke.edit "" = "ad" := by
    decide +kernel
  obtain ⟨text, row, there, _, first, again, back⟩ :=
    typeAhead_run active onCursor [.push 'a', .push 'd']
  rw [text, direct] at first again
  obtain rfl : 2 = row :=
    Option.some_inj.mp (round.symm.trans (first (by decide) valid ⟨2, by decide, hit⟩))
  have round_about : (duetLibrary.beginSearch.type
      [.push 'f', .pop, .push 'a', .push 'd']).input = "ad" := by
    rw [input_type]
    exact detour
  exact ⟨_, active, onCursor, again _ _ _ active rfl onCursor round_about, there, back⟩

end Browser

end TrackBrowser
