/-
Module: TrackBrowser.Proofs.Library.Inventory
Purpose: A scan makes one track of each file that it is to find, in the order of their paths; links
  that are not followed still stand for the files that they lead to.
-/
import TrackBrowser.Proofs.Library.Finding

/-!
The tracks of a scan are an inventory of certain files: one track for each of them, in the order of
their paths as they are shown.  Names that are text give different paths, so among such files the
paths strictly ascend; of other names two may look the same.  Without links the wanted files are the
audio files below the folder that the settings admit.  Where there are links and they are not
followed, a link to a file is still taken for that file.
-/

namespace TrackBrowser.Library

variable {top : Entry} {start : OsText} {path : List OsText} {place : Place}
  {entries : List (OsText × Entry)} {settings : LibrarySettings} {found file : FoundFile}

/-! ### What a scan comes across -/

/-- As many levels as a scan may go down, there is no deeper file that it could miss. -/
theorem length_le_levelBound (leads : Leads top path place found) :
    found.names.length ≤ levelBound top := by
  obtain ⟨entry, there⟩ := leads.at?
  have inside := Entry.length_add_size_le there
  rw [List.length_append] at inside
  have square : top.size ≤ levelBound top := by
    rw [levelBound, Nat.succ_mul_succ_eq]
    omega
  omega

theorem filesFrom_of_folder (resolved : top.resolve? start = some place)
    (folder : top.at? place = some (.folder entries)) :
    filesFrom top start settings =
      filesBelow top settings.followLinks
        (((depthLimit? settings).map (min (levelBound top))).getD (levelBound top)) []
        (FileName.ofPath start) place := by
  rw [filesFrom, resolved]
  dsimp only
  rw [folder]

/-- A scan that follows no links comes across a file by the names that lead to it, as far down as
the settings let it go. -/
theorem mem_filesFrom_unfollowed (found : FoundFile)
    (resolved : top.resolve? start = some place)
    (folder : top.at? place = some (.folder entries)) (unfollowed : settings.followLinks = false) :
    found ∈ filesFrom top start settings ↔
      Leads top (FileName.ofPath start) place found ∧ ∀ depth, depthLimit? settings = some depth →
        found.names.length ≤ depth := by
  rw [filesFrom_of_folder resolved folder, unfollowed, mem_filesBelow_unfollowed]
  refine and_congr_right fun leads => ?_
  have inside := length_le_levelBound leads
  cases depthLimit? settings with
  | none => simpa using inside
  | some depth =>
    rw [Option.map_some, Option.getD_some, Nat.le_min]
    simp [inside]

/-- What a scan keeps depends on the names alone. -/
theorem keeps_iff (some_name : found.names ≠ []) :
    keeps settings start found = true ↔
      (settings.includeHidden = false → ∀ name ∈ found.names, ¬ FileName.Hidden name) ∧
        ∃ extension, FileName.HasExtension (found.names.getLastD "") extension ∧
          Lists settings extension ∧ extension ≠ "" := by
  have member : found.names.getLastD "" ∈ found.names := by
    rw [List.getLastD_eq_getLast?, List.getLast?_eq_some_getLast some_name]
    exact List.getLast_mem some_name
  have shown : ((found.names.getLastD "" :: found.names).all fun name => !FileName.isHidden name) =
      true ↔ ∀ name ∈ found.names, ¬ FileName.Hidden name := by
    simp only [List.all_eq_true, Bool.not_eq_true', Bool.eq_false_iff, ne_eq,
      FileName.isHidden_iff]
    constructor
    · intro all name among
      exact all name (List.mem_cons_of_mem _ among)
    · intro all name among
      rcases List.mem_cons.mp among with rfl | among
      · exact all _ member
      · exact all name among
  rw [keeps, FoundFile.name_eq some_name, Bool.and_eq_true, isAudioName_iff, Bool.or_eq_true, shown]
  cases settings.includeHidden with
  | true => simp
  | false => simp

/-- The depth that a scan keeps to, and the names that it looks at, are those of the settings. -/
theorem admits_iff (some_name : found.names ≠ []) :
    ((∀ depth, depthLimit? settings = some depth → found.names.length ≤ depth) ∧
      keeps settings start found = true) ↔ Admits settings found.names := by
  rw [keeps_iff some_name]
  constructor
  · rintro ⟨depth, shown, audio⟩
    refine ⟨⟨?_, ?_, shown⟩, audio⟩
    · intro flat
      apply depth 1
      rw [depthLimit?, flat]
      rfl
    · intro recursive limit capped
      apply depth limit
      rw [depthLimit?, if_pos recursive, capped]
  · rintro ⟨⟨flat, capped, shown⟩, audio⟩
    refine ⟨?_, shown, audio⟩
    intro depth limited
    rw [depthLimit?] at limited
    split at limited
    · rename_i recursive
      exact capped recursive depth limited
    · rename_i recursive
      cases limited
      exact flat (Bool.not_eq_true _ ▸ recursive)

/-! ### Inventories -/

/-- The names that lead to a file are text. -/
def TextNamed (file : FoundFile) : Prop :=
  ∀ name ∈ file.names, name.IsText

/-- The tracks are those of the wanted files below a folder: one for each, with its path from that
folder as it is shown, in ascending order of the code points of these paths.  Between files whose
names are text the order is strict. -/
structure Inventory (wanted : FoundFile → Prop) (tracks : List Track) (found : List FoundFile) :
    Prop where
  tracks_eq : tracks = found.map (trackOf "")
  files_eq : tracks.map Track.file = found.map fun file => file.path.lossy
  ascending : (tracks.map Track.file).Pairwise (· ≤ ·)
  strict : found.Pairwise fun earlier later =>
    TextNamed earlier → TextNamed later → earlier.path.lossy < later.path.lossy
  nodup : found.Nodup
  mem_iff : ∀ file, file ∈ found ↔ wanted file

namespace Inventory

variable {wanted other : FoundFile → Prop} {tracks : List Track} {first : List FoundFile}

/-- Only which files are wanted counts, not how that is said. -/
theorem congr (inventory : Inventory wanted tracks first)
    (same : ∀ file, wanted file ↔ other file) : Inventory other tracks first :=
  ⟨inventory.tracks_eq, inventory.files_eq, inventory.ascending, inventory.strict,
    inventory.nodup, fun file => (inventory.mem_iff file).trans (same file)⟩

/-- The paths of an inventory are those of the wanted files, as they are shown. -/
theorem mem_files (inventory : Inventory wanted tracks first) {shown : String} :
    shown ∈ tracks.map Track.file ↔ ∃ file, wanted file ∧ file.path.lossy = shown := by
  rw [inventory.files_eq, List.mem_map]
  simp only [inventory.mem_iff]

end Inventory

/-- The track of a file below a folder does not depend on how the folder is called. -/
theorem trackOf_eq (some_name : found.names ≠ []) : trackOf start found = trackOf "" found := by
  rw [trackOf, trackOf, FoundFile.name_eq some_name, FoundFile.name_eq some_name]

/-- Sorting by path makes an inventory of files that have different paths. -/
theorem inventory_byPath (start : OsText) {kept : List FoundFile}
    (named : ∀ file ∈ kept, file.names ≠ []) (nodup : kept.Nodup)
    (distinct : ∀ file ∈ kept, ∀ other ∈ kept, file.path = other.path → file = other) :
    ∃ found, Inventory (· ∈ kept) (byPath (kept.map (trackOf start))) found := by
  let found := kept.mergeSort fun file other => file.path.lossy ≤ other.path.lossy
  have perm : found.Perm kept := List.mergeSort_perm _ _
  have sorted : found.Pairwise fun file other => file.path.lossy ≤ other.path.lossy := by
    refine (List.pairwise_mergeSort ?_ ?_ kept).imp fun ordered => of_decide_eq_true ordered
    · intro a b c below above
      exact decide_eq_true (String.le_trans (of_decide_eq_true below) (of_decide_eq_true above))
    · intro a b
      rw [Bool.or_eq_true, decide_eq_true_iff, decide_eq_true_iff]
      exact String.le_total _ _
  have different : found.Nodup := perm.nodup_iff.mpr nodup
  have strict : found.Pairwise fun earlier later =>
      TextNamed earlier → TextNamed later → earlier.path.lossy < later.path.lossy := by
    refine List.Pairwise.imp_of_mem ?_ (sorted.and different)
    rintro file other member again ⟨below, differ⟩ text too
    by_contra above
    -- Two texts that look the same are the same.
    have same := String.le_antisymm below (String.not_lt.mp above)
    have paths : file.path = other.path :=
      (OsText.IsText.intercalate ⟨"/", rfl⟩ text).eq_of_lossy_eq
        (OsText.IsText.intercalate ⟨"/", rfl⟩ too) same
    exact differ (distinct _ (perm.mem_iff.mp member) _ (perm.mem_iff.mp again) paths)
  have tracks : byPath (kept.map (trackOf start)) = found.map (trackOf "") := by
    have bare : kept.map (trackOf start) = kept.map (trackOf "") :=
      List.map_congr_left fun file member => trackOf_eq (named file member)
    rw [byPath, bare]
    refine (List.map_mergeSort ?_).symm
    intro file _ other _
    rw [file_trackOf, file_trackOf]
  have files : (found.map (trackOf "")).map Track.file = found.map fun file => file.path.lossy := by
    rw [List.map_map]
    exact List.map_congr_left fun file _ => file_trackOf "" file
  refine ⟨found, tracks, ?_, ?_, strict, different, fun file => perm.mem_iff⟩
  · rw [tracks, files]
  · rw [tracks, files]
    exact List.pairwise_map.mpr sorted

/-! ### Scans -/

/-- The files that a scan makes tracks of, in the order in which it comes across them. -/
def keptFiles (top : Entry) (start : OsText) (settings : LibrarySettings) : List FoundFile :=
  (filesFrom top start settings).filter (keeps settings (FileName.ofPathEnd start))

/-- A scan that follows no links keeps the files that names lead to and that the settings admit. -/
theorem mem_keptFiles_unfollowed (resolved : top.resolve? start = some place)
    (folder : top.at? place = some (.folder entries)) (unfollowed : settings.followLinks = false) :
    file ∈ keptFiles top start settings ↔
      Leads top (FileName.ofPath start) place file ∧ Admits settings file.names := by
  rw [keptFiles, List.mem_filter, mem_filesFrom_unfollowed file resolved folder unfollowed,
    and_assoc]
  exact and_congr_right fun leads => admits_iff leads.names_ne_nil

/-- A scan that follows no links sorts the tracks of the files that it keeps. -/
theorem scan_unfollowed_eq_byPath (resolved : top.resolve? start = some place)
    (folder : top.at? place = some (.folder entries)) (unfollowed : settings.followLinks = false) :
    scan top start settings = byPath ((keptFiles top start settings).map (trackOf "")) := by
  rw [scan_eq_byPath]
  refine congrArg byPath (List.map_congr_left fun file member => trackOf_eq ?_)
  exact ((mem_keptFiles_unfollowed resolved folder unfollowed).mp member).1.names_ne_nil

/-- Where links are not followed, a scan makes an inventory of the files that names lead to and
that the settings admit. -/
theorem inventory_unfollowed (named : top.WellNamed) (resolved : top.resolve? start = some place)
    (folder : top.at? place = some (.folder entries)) (unfollowed : settings.followLinks = false) :
    ∃ found, Inventory
      (fun file => Leads top (FileName.ofPath start) place file ∧ Admits settings file.names)
      (scan top start settings) found := by
  have member (file : FoundFile) : file ∈ keptFiles top start settings ↔
      Leads top (FileName.ofPath start) place file ∧ Admits settings file.names :=
    mem_keptFiles_unfollowed resolved folder unfollowed
  have nodup : (keptFiles top start settings).Nodup := by
    rw [keptFiles, filesFrom_of_folder resolved folder]
    exact (nodup_filesBelow named.distinct _).filter _
  have distinct : ∀ file ∈ keptFiles top start settings,
      ∀ other ∈ keptFiles top start settings, file.path = other.path → file = other := by
    intro file held other again same
    exact eq_of_path_eq named.slashFree (List.mem_of_mem_filter held)
      (List.mem_of_mem_filter again) same
  obtain ⟨found, inventory⟩ := inventory_byPath (FileName.ofPathEnd start)
    (fun file held => ((member file).mp held).1.names_ne_nil) nodup distinct
  exact ⟨found, inventory.congr member⟩

/-- Names lead to the file that lies there. -/
theorem leads_of_at? (folder : top.at? place = some (.folder entries))
    (there : top.at? (place ++ file.names) = some (.file file.content)) :
    Leads top path place file := by
  have some_name : file.names ≠ [] := by
    intro none
    rw [none, List.append_nil, folder] at there
    cases there
  refine ⟨file.names.dropLast, file.names.getLast some_name,
    (List.dropLast_concat_getLast some_name).symm, .file ?_⟩
  rw [List.append_assoc, List.dropLast_concat_getLast, there]

/-- Without links, names lead to nothing but the files that lie there. -/
theorem leads_iff_of_linkFree (folder : top.at? place = some (.folder entries))
    (linkFree : top.LinkFreeBelow place) :
    Leads top path place file ↔ top.at? (place ++ file.names) = some (.file file.content) := by
  refine ⟨?_, leads_of_at? folder⟩
  rintro ⟨folders, name, names, yields⟩
  cases yields with
  | file own =>
    rw [List.append_assoc, ← names] at own
    exact own
  | link linked _ _ =>
    rw [List.append_assoc] at linked
    exact absurd linked (linkFree _ _)

/-- Where there are no links, the setting for them makes no difference. -/
theorem scan_of_linkFree (resolved : top.resolve? start = some place)
    (folder : top.at? place = some (.folder entries)) (linkFree : top.LinkFreeBelow place)
    (settings : LibrarySettings) :
    scan top start settings = scan top start { settings with followLinks := false } := by
  have across : filesFrom top start settings =
      filesFrom top start { settings with followLinks := false } := by
    rw [filesFrom_of_folder resolved folder, filesFrom_of_folder resolved folder]
    exact filesBelow_of_linkFree _ linkFree
  rw [scan, scan, across]
  rfl

/-- Which names the settings admit has nothing to do with links. -/
theorem admits_unfollowed {names : Place} :
    Admits { settings with followLinks := false } names ↔ Admits settings names := by
  constructor
  · rintro ⟨⟨flat, capped, shown⟩, audio⟩
    exact ⟨⟨flat, capped, shown⟩, audio⟩
  · rintro ⟨⟨flat, capped, shown⟩, audio⟩
    exact ⟨⟨flat, capped, shown⟩, audio⟩

/-- Where there are no links, a scan makes an inventory of the files that lie there and that the
settings admit. -/
theorem inventory_linkFree (named : top.WellNamed) (resolved : top.resolve? start = some place)
    (folder : top.at? place = some (.folder entries)) (linkFree : top.LinkFreeBelow place)
    (settings : LibrarySettings) :
    ∃ found, Inventory
      (fun file => top.at? (place ++ file.names) = some (.file file.content) ∧
        Admits settings file.names)
      (scan top start settings) found := by
  have unfollowed :
      ({ settings with followLinks := false } : LibrarySettings).followLinks = false := rfl
  obtain ⟨found, inventory⟩ := inventory_unfollowed named resolved folder unfollowed
  refine ⟨found, ?_⟩
  rw [scan_of_linkFree resolved folder linkFree settings]
  refine inventory.congr fun file => and_congr (leads_iff_of_linkFree folder linkFree) ?_
  exact admits_unfollowed

/-- A scan of a folder without links below it makes exactly one track of each file that lies below
it: down to the depth limit, with no hidden name on the way unless hidden ones are included, and
with a listed extension, where an empty extension counts as none.  A name that is not text is never
hidden, and it has an extension if what comes after its last dot is text.  The tracks have the paths
from the folder as they are shown.  These ascend, and strictly so between files whose names are
text. -/
theorem scan_finds (named : top.WellNamed) (resolved : top.resolve? start = some place)
    (folder : top.at? place = some (.folder entries)) (linkFree : top.LinkFreeBelow place)
    (settings : LibrarySettings) :
    ∃ found, Inventory
      (fun file => top.at? (place ++ file.names) = some (.file file.content) ∧
        (settings.recursive = false → file.names.length ≤ 1) ∧
        (settings.recursive = true → ∀ depth, settings.maxDepth = some depth →
          file.names.length ≤ depth) ∧
        (settings.includeHidden = false → ∀ name ∈ file.names, ¬ FileName.Hidden name) ∧
        ∃ extension, FileName.HasExtension (file.names.getLastD "") extension ∧
          Lists settings extension ∧ extension ≠ "")
      (scan top start settings) found := by
  obtain ⟨found, inventory⟩ := inventory_linkFree named resolved folder linkFree settings
  refine ⟨found, inventory.congr fun file => and_congr_right' ?_⟩
  constructor
  · rintro ⟨⟨flat, capped, shown⟩, audio⟩
    exact ⟨flat, capped, shown, audio⟩
  · rintro ⟨flat, capped, shown, audio⟩
    exact ⟨⟨flat, capped, shown⟩, audio⟩

/-- A name that starts with a dot and is not text, since the byte after it begins no character. -/
def brokenName (byte : UInt8) : OsText :=
  .char '.' :: .malformed [byte] :: ".mp3"

/-- A folder of music with hidden files, other files and folders inside each other. -/
def cabinet : Entry :=
  .folder [("music", .folder [
    ("b.Mp3", .file []), (".c.mp3", .file []), ("cover.png", .file []),
    (brokenName 0xFF, .file []),
    ("a", .folder [("live.ogg", .file []), ("deep", .folder [("d.mp3", .file [])])]),
    (".cache", .folder [("e.mp3", .file [])])])]

/-- Two levels of what is not hidden, with extensions that are not written plainly. -/
def twoLevels : LibrarySettings :=
  { extensions := [" .MP3", "ogg"], includeHidden := false, maxDepth := some 2 }

theorem resolve?_cabinet : cabinet.resolve? "music" = some (["music"] : Place) := by
  have parts : FileName.ofPath "music" = (["music"] : Place) := by decide
  rw [Entry.resolve?, parts, Entry.follow?_down (by decide) rfl rfl, Entry.follow?_nil]
  rfl

theorem delivered_cabinet :
    (delivered cabinet "music" twoLevels).map Track.file =
      ["b.Mp3", ".\uFFFD.mp3", "a/live.ogg"] := by
  rw [delivered, filesFrom, resolve?_cabinet]
  decide +kernel

/-- What a scan of such a folder finds: the file whose name is not text although that starts with a
dot, one inside a folder, and one in the folder itself. -/
theorem scan_finds_cabinet :
    cabinet.WellNamed ∧ cabinet.resolve? "music" = some (["music"] : Place) ∧
      cabinet.LinkFreeBelow ["music"] ∧
      ∃ entries, cabinet.at? ["music"] = some (.folder entries) ∧
        (∃ found, Inventory
          (fun file => cabinet.at? ((["music"] : Place) ++ file.names) =
              some (.file file.content) ∧
            (twoLevels.recursive = false → file.names.length ≤ 1) ∧
            (twoLevels.recursive = true → ∀ depth, twoLevels.maxDepth = some depth →
              file.names.length ≤ depth) ∧
            (twoLevels.includeHidden = false → ∀ name ∈ file.names, ¬ FileName.Hidden name) ∧
            ∃ extension, FileName.HasExtension (file.names.getLastD "") extension ∧
              Lists twoLevels extension ∧ extension ≠ "")
          (scan cabinet "music" twoLevels) found) ∧
        (scan cabinet "music" twoLevels).map Track.file =
          [".\uFFFD.mp3", "a/live.ogg", "b.Mp3"] := by
  have named : cabinet.WellNamed := Entry.wellNamed_of_everyEntry (by decide +kernel)
  obtain ⟨entries, folder⟩ : ∃ entries, cabinet.at? ["music"] = some (.folder entries) := ⟨_, rfl⟩
  have linkFree : cabinet.LinkFreeBelow ["music"] :=
    Entry.linkFreeBelow_of_everyEntry folder (by cases folder; decide +kernel)
  obtain ⟨found, inventory⟩ := scan_finds named resolve?_cabinet folder linkFree twoLevels
  refine ⟨named, resolve?_cabinet, linkFree, entries, folder, ⟨found, inventory⟩, ?_⟩
  have perm : ((scan cabinet "music" twoLevels).map Track.file).Perm
      ["b.Mp3", ".\uFFFD.mp3", "a/live.ogg"] := by
    rw [← delivered_cabinet]
    exact (List.mergeSort_perm _ _).map _
  refine (perm.trans (by decide)).eq_of_pairwise ?_ inventory.ascending (by decide +kernel)
  exact fun _ _ _ _ => String.le_antisymm

/-- A file whose name ends with a dot, and two whose names start with a dot and are not text. -/
def oddNames : Entry :=
  .folder [("a.", .file []), (brokenName 0xFF, .file []), (brokenName 0xFE, .file [])]

/-- Hidden files are left out.  Of the first listed extension nothing is left without its dot. -/
def bareDot : LibrarySettings :=
  { extensions := [".", "mp3"], includeHidden := false }

theorem files_oddNames :
    (scan oddNames "." bareDot).map Track.file = [".\uFFFD.mp3", ".\uFFFD.mp3"] := by
  have resolved : oddNames.resolve? "." = some [] := Entry.resolve?_here rfl
  have listed : (delivered oddNames "." bareDot).map Track.file =
      List.replicate 2 ".\uFFFD.mp3" := by
    rw [delivered, filesFrom, resolved]
    decide +kernel
  have perm : ((scan oddNames "." bareDot).map Track.file).Perm
      (List.replicate 2 ".\uFFFD.mp3") := by
    rw [← listed]
    exact (List.mergeSort_perm _ _).map _
  exact List.perm_replicate.mp perm

/-- An empty extension does not count as listed, even where nothing is left of a listed one, and a
dot before a name hides it only if the name is text: a scan does not find the file whose name ends
with a dot, and finds the two others, which look the same. -/
theorem not_scan_finds_oddNames :
    oddNames.WellNamed ∧ oddNames.resolve? "." = some [] ∧ oddNames.LinkFreeBelow [] ∧
      (scan oddNames "." bareDot).map Track.file = [".\uFFFD.mp3", ".\uFFFD.mp3"] ∧
      ¬ ∃ found : List FoundFile, scan oddNames "." bareDot = found.map (trackOf "") ∧
        ∀ file, file ∈ found ↔ oddNames.at? ([] ++ file.names) = some (.file file.content) ∧
          (bareDot.recursive = false → file.names.length ≤ 1) ∧
          (bareDot.recursive = true → ∀ depth, bareDot.maxDepth = some depth →
            file.names.length ≤ depth) ∧
          (bareDot.includeHidden = false → ∀ name ∈ file.names, ¬ [OsUnit.char '.'] <+: name) ∧
          ∃ extension, FileName.HasExtension (file.names.getLastD "") extension ∧
            Lists bareDot extension := by
  have there : oddNames.at? [] = some oddNames := rfl
  refine ⟨Entry.wellNamed_of_everyEntry (by decide +kernel), Entry.resolve?_here rfl,
    Entry.linkFreeBelow_of_everyEntry there (by decide +kernel), files_oddNames, ?_⟩
  rintro ⟨found, tracks, wanted⟩
  have listed : ⟨["a."], []⟩ ∈ found := by
    refine (wanted _).mpr ⟨rfl, ?_, ?_, ?_, "", ⟨"a", ?_, ?_, rfl⟩, ".", ?_, rfl⟩
    · simp
    · intro _ depth capped
      cases capped
    · intro _ name member
      rw [List.mem_singleton.mp member]
      decide
    · decide
    · simp
    · simp [bareDot]
  have file : "a." ∈ (scan oddNames "." bareDot).map Track.file := by
    rw [tracks, List.map_map]
    exact List.mem_map.mpr ⟨_, listed, by decide +kernel⟩
  rw [files_oddNames] at file
  exact absurd file (by decide)

end TrackBrowser.Library
