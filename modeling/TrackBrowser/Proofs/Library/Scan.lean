/-
Module: TrackBrowser.Proofs.Library.Scan
Purpose: A scan comes across each path once at most, and delivers its tracks for sorting by path.
-/
import TrackBrowser.Library.Scan

/-!
The names that lead to a file say which file it is, and as no name contains a slash, the path says
which names these are.  A track has its path as it is shown, which still tells names apart that are
text.  So where all names are text, two tracks of a scan with the same path are the same track, in
whatever order the files were come across.
-/

namespace TrackBrowser

/-! ### Paths and names -/

namespace FileName

/-- A part without a slash is one part. -/
theorem ofPath_of_no_slash {part : OsText} (plain : .char '/' ∉ part) : ofPath part = [part] := by
  induction part with
  | nil => rfl
  | cons unit part ih =>
    obtain ⟨other, plain⟩ := not_or.mp (mt List.mem_cons.mpr plain)
    have not_slash : ¬ (unit == .char '/') = true := by simpa using Ne.symm other
    rw [ofPath, if_neg not_slash, ih plain]

/-- The first slash ends the first part. -/
theorem ofPath_append_slash {part : OsText} (plain : .char '/' ∉ part) (rest : OsText) :
    ofPath (part ++ [.char '/'] ++ rest) = part :: ofPath rest := by
  induction part with
  | nil => rfl
  | cons unit part ih =>
    obtain ⟨other, plain⟩ := not_or.mp (mt List.mem_cons.mpr plain)
    have not_slash : ¬ (unit == .char '/') = true := by simpa using Ne.symm other
    rw [List.cons_append, List.cons_append, ofPath, if_neg not_slash, ih plain]

/-- Breaking a path that was joined from names gives these names. -/
theorem ofPath_intercalate {names : List OsText} (some_name : names ≠ [])
    (plain : ∀ name ∈ names, .char '/' ∉ name) :
    ofPath (List.intercalate [.char '/'] names) = names := by
  induction names with
  | nil => exact absurd rfl some_name
  | cons name names ih =>
    have first := plain name List.mem_cons_self
    cases names with
    | nil => rw [List.intercalate_singleton, ofPath_of_no_slash first]
    | cons next names =>
      have rest := ih (List.cons_ne_nil next names) fun later member =>
        plain later (List.mem_cons_of_mem name member)
      rw [List.intercalate_cons_cons, ofPath_append_slash first, rest]

end FileName

namespace Entry

/-- Every name in a storage has a property. -/
def EveryName (top : Entry) (property : OsText → Prop) : Prop :=
  ∀ place entry, top.at? place = some entry → ∀ name ∈ entry.names, property name

/-- No name in a storage contains a slash. -/
def SlashFree (top : Entry) : Prop :=
  top.EveryName fun name => .char '/' ∉ name

/-- Every name in a storage is text. -/
def Readable (top : Entry) : Prop :=
  top.EveryName OsText.IsText

end Entry

namespace Library

variable {top : Entry}

/-! ### Files below a folder -/

/-- What a scan comes across at a name in a folder: the file that the name stands for, or the files
below its folder, seen from there. -/
def filesAt (top : Entry) (followLinks : Bool) (levels : Nat) (above : List Place)
    (path : List OsText) (here : Place) (name : OsText) : List FoundFile :=
  let there := here ++ [name]
  let enter := filesBelow top followLinks levels (here :: above) (path ++ [name])
  match top.at? there with
  | some (.file content) => [⟨[], content⟩]
  | some (.folder _) => enter there
  | some (.link _) =>
    match top.follow? Entry.linkLimit [] (path ++ [name]) with
    | none => []
    | some place =>
      match top.at? place with
      | some (.file content) => [⟨[], content⟩]
      | some (.folder _) =>
        if followLinks && !(here :: above).contains place then enter place else []
      | _ => []
  | none => []

section Below

variable {followLinks : Bool} {levels : Nat} {above : List Place} {path : List OsText}
  {here : Place} {found other : FoundFile}

theorem mem_filesBelow_succ :
    found ∈ filesBelow top followLinks (levels + 1) above path here ↔
      ∃ name ∈ ((top.at? here).map Entry.names).getD [],
        ∃ inner ∈ filesAt top followLinks levels above path here name,
          inner.under name = found := by
  rw [filesBelow, List.mem_flatMap]
  simp only [List.mem_map]
  rfl

theorem filesAt_cases (top : Entry) (followLinks : Bool) (levels : Nat) (above : List Place)
    (path : List OsText) (here : Place) (name : OsText) :
    (∃ content, filesAt top followLinks levels above path here name = [⟨[], content⟩]) ∨
      (∃ place, filesAt top followLinks levels above path here name =
        filesBelow top followLinks levels (here :: above) (path ++ [name]) place) ∨
      filesAt top followLinks levels above path here name = [] := by
  unfold filesAt
  dsimp only
  split
  · exact .inl ⟨_, rfl⟩
  · exact .inr (.inl ⟨_, rfl⟩)
  · split
    · exact .inr (.inr rfl)
    · split
      · exact .inl ⟨_, rfl⟩
      · split
        · exact .inr (.inl ⟨_, rfl⟩)
        · exact .inr (.inr rfl)
      · exact .inr (.inr rfl)
  · exact .inr (.inr rfl)

/-- The names that lead to a file below a folder are names of the storage. -/
theorem names_of_mem_filesBelow {property : OsText → Prop} (every : top.EveryName property)
    (member : found ∈ filesBelow top followLinks levels above path here) :
    found.names ≠ [] ∧ ∀ name ∈ found.names, property name := by
  induction levels generalizing above path here found with
  | zero => cases member
  | succ levels ih =>
    obtain ⟨name, listed, inner, there, rfl⟩ := mem_filesBelow_succ.mp member
    have first : property name := by
      cases entry : top.at? here with
      | none =>
        rw [entry] at listed
        cases listed
      | some folder =>
        rw [entry] at listed
        exact every here folder entry name listed
    have rest : ∀ later ∈ inner.names, property later := by
      rcases filesAt_cases top followLinks levels above path here name with
        ⟨content, at_name⟩ | ⟨place, at_name⟩ | at_name
      · rw [at_name, List.mem_singleton] at there
        subst there
        intro later none_left
        cases none_left
      · rw [at_name] at there
        exact (ih there).2
      · rw [at_name] at there
        cases there
    refine ⟨List.cons_ne_nil _ _, ?_⟩
    intro later among
    rcases List.mem_cons.mp among with rfl | among
    · exact first
    · exact rest later among

/-- The names that lead to a file below a folder say which file it is. -/
theorem eq_of_names_eq (member : found ∈ filesBelow top followLinks levels above path here)
    (again : other ∈ filesBelow top followLinks levels above path here)
    (same : found.names = other.names) : found = other := by
  induction levels generalizing above path here found other with
  | zero => cases member
  | succ levels ih =>
    obtain ⟨name, _, inner, there, rfl⟩ := mem_filesBelow_succ.mp member
    obtain ⟨_, _, second, beside, rfl⟩ := mem_filesBelow_succ.mp again
    obtain ⟨rfl, names⟩ := List.cons.inj same
    have equal : inner = second := by
      rcases filesAt_cases top followLinks levels above path here name with
        ⟨content, at_name⟩ | ⟨place, at_name⟩ | at_name
      · rw [at_name, List.mem_singleton] at there beside
        rw [there, beside]
      · rw [at_name] at there beside
        exact ih there beside names
      · rw [at_name] at there
        cases there
    rw [equal]

end Below

/-! ### Tracks of a scan -/

/-- The path of a found file says which file it is. -/
theorem eq_of_path_eq (plain : top.SlashFree) {start : OsText} {settings : LibrarySettings}
    {found other : FoundFile} (member : found ∈ filesFrom top start settings)
    (again : other ∈ filesFrom top start settings) (same : found.path = other.path) :
    found = other := by
  unfold filesFrom at member again
  split at member
  · cases member
  · rename_i place resolved
    simp only [resolved] at again
    split at member <;> rename_i entry <;> simp only [entry] at again
    · rw [List.mem_singleton.mp member, List.mem_singleton.mp again]
    · obtain ⟨some_name, names⟩ := names_of_mem_filesBelow plain member
      obtain ⟨other_name, others⟩ := names_of_mem_filesBelow plain again
      apply eq_of_names_eq member again
      rw [← FileName.ofPath_intercalate some_name names,
        ← FileName.ofPath_intercalate other_name others]
      exact congrArg FileName.ofPath same
    · cases member

/-- The tracks of the audio files that a scan comes across, in the order in which it does. -/
def delivered (top : Entry) (start : OsText) (settings : LibrarySettings) : List Track :=
  let name := FileName.ofPathEnd start
  ((filesFrom top start settings).filter (keeps settings name)).map (trackOf name)

/-- Tracks in the order of their paths. -/
def byPath (tracks : List Track) : List Track :=
  tracks.mergeSort fun a b => a.file ≤ b.file

/-- A scan puts what it delivers in the order of the paths. -/
theorem scan_eq_byPath (top : Entry) (start : OsText) (settings : LibrarySettings) :
    scan top start settings = byPath (delivered top start settings) := rfl

theorem file_trackOf (start : OsText) (found : FoundFile) :
    (trackOf start found).file = found.path.lossy := by
  unfold trackOf
  dsimp only
  split <;> rfl

/-- Where all names are text, so is the path of a found file. -/
theorem isText_path (readable : top.Readable) {start : OsText} {settings : LibrarySettings}
    {found : FoundFile} (member : found ∈ filesFrom top start settings) : found.path.IsText := by
  apply OsText.IsText.intercalate ⟨"/", rfl⟩
  unfold filesFrom at member
  split at member
  · cases member
  · split at member
    · rw [List.mem_singleton.mp member]
      intro name none
      cases none
    · exact (names_of_mem_filesBelow readable member).2
    · cases member

/-- Tracks of a scan with the same path are the same track, where all names are text. -/
theorem eq_of_file_eq (plain : top.SlashFree) (readable : top.Readable) {start : OsText}
    {settings : LibrarySettings} {track other : Track}
    (member : track ∈ delivered top start settings)
    (again : other ∈ delivered top start settings) (same : track.file = other.file) :
    track = other := by
  obtain ⟨found, kept, rfl⟩ := List.mem_map.mp member
  obtain ⟨second, also, rfl⟩ := List.mem_map.mp again
  have across := (List.mem_filter.mp kept).1
  have beside := (List.mem_filter.mp also).1
  rw [file_trackOf, file_trackOf] at same
  have paths := (isText_path readable across).eq_of_lossy_eq (isText_path readable beside) same
  rw [eq_of_path_eq plain across beside paths]

end Library

end TrackBrowser
