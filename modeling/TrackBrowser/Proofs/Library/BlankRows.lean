/-
Module: TrackBrowser.Proofs.Library.BlankRows
Purpose: Which tracks of a scan are shown by a row without anything to see.
-/
import TrackBrowser.Proofs.Library.Finding
import Mathlib.Data.List.TakeWhile

/-!
A row shows the fields that are not blank, and the last name of the path when there are none.  The
last name of the path of an audio file has a dot, so it is not blank.  But a scan that begins at a
file has no path to it: then nothing stands in for the fields.
-/

namespace TrackBrowser

/-! ### Blank texts -/

namespace Text

/-- There is nothing to see in a text. -/
def Blank (text : String) : Prop :=
  ∀ c ∈ text.toList, isBlank c = true

theorem trimStart_eq_nil_iff {text : List Char} :
    trimStart text = [] ↔ ∀ c ∈ text, isBlank c = true := by
  rw [trimStart, List.dropWhile_eq_nil_iff]

/-- What is left of a text ends with a character that is not blank. -/
theorem exists_not_blank_of_trimEnd {text : List Char} (left : trimEnd text ≠ []) :
    ∃ c ∈ trimEnd text, isBlank c = false := by
  have head := List.head?_dropWhile_not isBlank text.reverse
  rw [trimEnd] at left ⊢
  cases rest : text.reverse.dropWhile isBlank with
  | nil =>
    rw [rest] at left
    exact absurd rfl left
  | cons c rest' =>
    rw [rest] at head
    exact ⟨c, by simp, by simpa using head⟩

/-- Trimming leaves nothing of a text just when it is blank. -/
theorem trimmed_eq_empty_iff {text : String} : trimmed text = "" ↔ Blank text := by
  have chars : trimmed text = "" ↔ trim text.toList = [] := by
    rw [trimmed, ← String.toList_inj, String.toList_ofList]
    rfl
  rw [chars, trim, trimEnd, List.reverse_eq_nil_iff, List.dropWhile_eq_nil_iff, Blank]
  constructor
  · intro blank
    rw [← trimStart_eq_nil_iff]
    -- What trimming at the start leaves would begin with a character that is not blank.
    have head := List.head?_dropWhile_not isBlank text.toList
    rw [← trimStart] at head
    cases rest : trimStart text.toList with
    | nil => rfl
    | cons c rest' =>
      rw [rest] at head blank
      have first := blank c (by simp)
      simp [first] at head
  · intro blank c member
    rw [trimStart_eq_nil_iff.mpr blank] at member
    cases member

/-- A trimmed text is empty or not blank. -/
theorem not_blank_trimmed {text : String} (left : trimmed text ≠ "") :
    ∃ c ∈ (trimmed text).toList, isBlank c = false := by
  rw [trimmed, String.toList_ofList]
  apply exists_not_blank_of_trimEnd
  intro none
  rw [trimmed, trim, none] at left
  exact left rfl

/-- The parts of a joined text are in it. -/
theorem mem_intercalate_of_mem_head {separator part : String} {rest : List String} {c : Char}
    (member : c ∈ part.toList) : c ∈ (separator.intercalate (part :: rest)).toList := by
  cases rest with
  | nil => simpa using member
  | cons next rest =>
    rw [String.intercalate_cons_cons, String.toList_append, String.toList_append]
    exact List.mem_append_left _ (List.mem_append_left _ member)

end Text

/-! ### Last names -/

namespace Track

/-- The last name of a path comes after its last slash. -/
theorem lastComponent_append_slash (before after : String) :
    lastComponent (before ++ "/" ++ after) = lastComponent after := by
  have reversed : (before ++ "/" ++ after).toList.reverse =
      after.toList.reverse ++ '/' :: before.toList.reverse := by
    simp
  rw [lastComponent, lastComponent, reversed, List.takeWhile_append]
  split
  · rename_i whole
    have all := List.takeWhile_sublist (l := after.toList.reverse) (fun c : Char => c != '/')
    rw [all.eq_of_length whole]
    simp
  · rfl

theorem lastComponent_of_no_slash {name : String} (plain : '/' ∉ name.toList) :
    lastComponent name = name := by
  have whole : name.toList.reverse.takeWhile (fun c : Char => c != '/') = name.toList.reverse := by
    rw [List.takeWhile_eq_self_iff]
    intro c member
    simpa using fun (slash : c = '/') => plain (slash ▸ List.mem_reverse.mp member)
  rw [lastComponent, whole, List.reverse_reverse, String.ofList_toList]

/-- The last name of a path that was joined from names is the last of these names. -/
theorem lastComponent_intercalate {names : List OsText} (some_name : names ≠ [])
    (plain : ∀ name ∈ names, .char '/' ∉ name) :
    lastComponent (OsText.lossy (List.intercalate [.char '/'] names)) =
      (names.getLastD "").lossy := by
  induction names with
  | nil => exact absurd rfl some_name
  | cons name names ih =>
    cases names with
    | nil =>
      rw [List.intercalate_singleton]
      apply lastComponent_of_no_slash
      rw [OsText.mem_lossy_iff (by decide)]
      exact plain name List.mem_cons_self
    | cons next names =>
      have slash : OsText.lossy [.char '/'] = "/" := rfl
      rw [List.intercalate_cons_cons, OsText.lossy_append, OsText.lossy_append, slash,
        lastComponent_append_slash, ih (List.cons_ne_nil next names) fun later member =>
          plain later (List.mem_cons_of_mem name member)]
      simp

/-! ### Blank rows -/

/-- A row is blank when all its fields are and the last name of the path is. -/
theorem blank_row_iff (track : Track) (columns : List Field) (separator : String) :
    Text.Blank (track.row columns separator) ↔
      (∀ field ∈ columns, Text.Blank (track.text field)) ∧
        Text.Blank (lastComponent track.file) := by
  have trimmed_blank : (∀ part ∈ columns.map fun field => Text.trimmed (track.text field),
      part.isEmpty = true) ↔ ∀ field ∈ columns, Text.Blank (track.text field) := by
    simp only [List.mem_map, forall_exists_index, and_imp, forall_apply_eq_imp_iff₂,
      String.isEmpty_iff, Text.trimmed_eq_empty_iff]
  rw [row]
  cases kept : (columns.map fun field => Text.trimmed (track.text field)).filter (!·.isEmpty) with
  | nil =>
    have blank := trimmed_blank.mp (by simpa [List.filter_eq_nil_iff] using kept)
    simpa using fun _ : Text.Blank (lastComponent track.file) => blank
  | cons part rest =>
    have member : part ∈ (columns.map fun field => Text.trimmed (track.text field)).filter
        (!·.isEmpty) := by
      rw [kept]
      exact List.mem_cons_self
    obtain ⟨among, some_text⟩ := List.mem_filter.mp member
    have not_empty : part.isEmpty = false := by simpa using some_text
    constructor
    · intro blank
      obtain ⟨field, _, rfl⟩ := List.mem_map.mp among
      have some_part : Text.trimmed (track.text field) ≠ "" := by
        intro none
        rw [none] at not_empty
        cases not_empty
      obtain ⟨c, inside, seen⟩ := Text.not_blank_trimmed some_part
      have hidden := blank c (Text.mem_intercalate_of_mem_head inside)
      rw [seen] at hidden
      cases hidden
    · rintro ⟨blank, _⟩
      have empty := trimmed_blank.mpr blank part among
      rw [not_empty] at empty
      cases empty

end Track

namespace Library

variable {top : Entry} {start : OsText} {settings : LibrarySettings}

/-- The name of an audio file has a dot, so it is not blank. -/
theorem not_blank_of_isAudioName {name : OsText} (audio : isAudioName settings name = true) :
    ¬ Text.Blank name.lossy := by
  obtain ⟨extension, ⟨before, _, _, whole⟩, _⟩ := isAudioName_iff.mp audio
  have dot : OsUnit.char '.' ∈ name := by simp [whole]
  intro blank
  exact absurd (blank '.' ((OsText.mem_lossy_iff (by decide)).mpr dot)) (by decide)

/-- A row of a scanned track has nothing to see exactly when the scan began at a file and all chosen
columns are blank.  Whatever a scan finds in a folder has a row that is not blank. -/
theorem blankRow_iff (plain : top.SlashFree) {track : Track}
    (scanned : track ∈ scan top start settings) (columns : List Field) (separator : String) :
    Text.Blank (track.row columns separator) ↔
      (∃ place content, top.resolve? start = some place ∧
        top.at? place = some (.file content)) ∧
      ∀ field ∈ columns, Text.Blank (track.text field) := by
  rw [scan_eq_byPath] at scanned
  obtain ⟨found, kept, rfl⟩ := List.mem_map.mp ((List.mergeSort_perm _ _).mem_iff.mp scanned)
  obtain ⟨across, kept⟩ := List.mem_filter.mp kept
  rw [Track.blank_row_iff, file_trackOf, and_comm]
  refine and_congr_left' ?_
  rw [filesFrom] at across
  split at across
  · cases across
  · rename_i place resolved
    split at across
    · rename_i content there
      rw [List.mem_singleton.mp across]
      have nothing : Track.lastComponent (FoundFile.path ⟨[], content⟩).lossy = "" := by
        simp [FoundFile.path, OsText.lossy, Track.lastComponent]
      rw [nothing]
      exact ⟨fun _ => ⟨place, content, resolved, there⟩, fun _ => by simp [Text.Blank]⟩
    · rename_i entries there
      obtain ⟨some_name, names⟩ := names_of_mem_filesBelow plain across
      have audio := (Bool.and_eq_true_iff.mp kept).2
      rw [FoundFile.name_eq some_name] at audio
      rw [FoundFile.path, Track.lastComponent_intercalate some_name names]
      constructor
      · intro blank
        exact absurd blank (not_blank_of_isAudioName audio)
      · rintro ⟨other, content, again, file⟩
        rw [resolved] at again
        cases again
        rw [there] at file
        cases file
    · cases across

/-- A folder with one file. -/
def loneFile : Entry :=
  .folder [("a.mp3", .file [])]

theorem slashFree_loneFile : loneFile.SlashFree :=
  (Entry.wellNamed_of_everyEntry (by decide +kernel)).slashFree

theorem resolve?_loneFile : loneFile.resolve? "a.mp3" = some (["a.mp3"] : Place) := by
  have parts : FileName.ofPath "a.mp3" = (["a.mp3"] : Place) := by decide
  rw [Entry.resolve?, parts, Entry.follow?_down (by decide) rfl rfl, Entry.follow?_nil]
  rfl

/-- A scan that begins at the file itself lists it with a title, but without a path. -/
theorem scan_loneFile : scan loneFile "a.mp3" {} = [{ title := "a" }] := by
  have listed : delivered loneFile "a.mp3" {} = [{ title := "a" }] := by
    rw [delivered, filesFrom, resolve?_loneFile]
    decide +kernel
  rw [scan_eq_byPath, listed, byPath, List.mergeSort_singleton]

/-- The rows of such a track: blank when only its album and its artist are shown, and not blank when
its title is. -/
theorem blankRow_iff_loneFile :
    loneFile.SlashFree ∧ { title := "a" } ∈ scan loneFile "a.mp3" {} ∧
      Text.Blank (Track.row { title := "a" } [.album, .artist] " | ") ∧
      ¬ Text.Blank (Track.row { title := "a" } [.album, .title] " | ") := by
  have scanned : { title := "a" } ∈ scan loneFile "a.mp3" {} := by
    rw [scan_loneFile]
    exact List.mem_singleton_self _
  refine ⟨slashFree_loneFile, scanned, ?_, ?_⟩
  · refine (blankRow_iff slashFree_loneFile scanned _ _).mpr
      ⟨⟨["a.mp3"], [], resolve?_loneFile, rfl⟩, ?_⟩
    intro field member
    simp only [List.mem_cons, List.not_mem_nil, or_false] at member
    rcases member with rfl | rfl <;> simp [Text.Blank, Track.text]
  · intro blank
    have shown := ((blankRow_iff slashFree_loneFile scanned _ _).mp blank).2 .title (by simp)
    exact absurd (shown 'a' (by simp [Track.text])) (by decide)

/-- A file that was given as the folder to scan is shown by an empty row when its album is the only
column. -/
theorem row_of_loneFile :
    ∃ track ∈ scan loneFile "a.mp3" {}, track.row [.album] " | " = "" := by
  refine ⟨{ title := "a" }, ?_, by decide +kernel⟩
  rw [scan_loneFile]
  exact List.mem_singleton_self _

end Library

end TrackBrowser
