/-
Module: TrackBrowser.Proofs.Library.Links
Purpose: What a scan that follows no links makes of the links that it comes across.
-/
import TrackBrowser.Proofs.Library.Inventory
import Mathlib.Data.List.Perm.Subperm

/-!
When links are not followed, the walk does not go through them, but whether a name is that of a file
is asked of the path, and a path leads through links.  So a link to a file is listed like a file of
its own, and this is all that the links of a folder add: the scan is that of the folder with its
links deleted just when none of them leads to a file under a name that the settings admit.
-/

namespace TrackBrowser.Library

variable {top : Entry} {start : OsText} {path : List OsText} {place : Place}
  {entries : List (OsText × Entry)} {levels : Nat} {above : List Place}
  {settings : LibrarySettings} {file : FoundFile}

/-- A link lies at the names of a file, and the path that ends with these names leads to a file of
its content. -/
def LinksTo (top : Entry) (path : List OsText) (here : Place) (file : FoundFile) : Prop :=
  ∃ target goal, top.at? (here ++ file.names) = some (.link target) ∧
    top.follow? Entry.linkLimit [] (path ++ file.names) = some goal ∧
    top.at? goal = some (.file file.content)

/-- Names lead to the file that lies there, or to the file that a link there leads to. -/
theorem leads_iff (folder : top.at? place = some (.folder entries)) :
    Leads top path place file ↔
      top.at? (place ++ file.names) = some (.file file.content) ∨ LinksTo top path place file := by
  constructor
  · rintro ⟨folders, name, names, yields⟩
    cases yields with
    | file own =>
      rw [List.append_assoc, ← names] at own
      exact .inl own
    | link linked reached there =>
      rw [List.append_assoc, ← names] at linked reached
      exact .inr ⟨_, _, linked, reached, there⟩
  · rintro (own | ⟨target, goal, linked, reached, there⟩)
    · exact leads_of_at? folder own
    · have some_name : file.names ≠ [] := by
        intro none
        rw [none, List.append_nil, folder] at linked
        cases linked
      rw [← List.dropLast_concat_getLast some_name, ← List.append_assoc] at linked reached
      exact ⟨_, _, (List.dropLast_concat_getLast some_name).symm, .link linked reached there⟩

/-! ### Deleted links -/

/-- No link lies at the names of a file. -/
def unlinkedAt (top : Entry) (here : Place) (file : FoundFile) : Bool :=
  !(top.at? (here ++ file.names)).any Entry.isLink

/-- A walk through a folder with its links deleted comes across the files that it came across under
other names than those of links, in the same order. -/
theorem filesBelow_withoutLinks {bare : Entry}
    (distinct : ∀ place entry, top.at? place = some entry → entry.names.Nodup)
    (left : ∀ names, bare.at? names =
      ((top.at? (place ++ names)).filter fun entry => !entry.isLink).map Entry.withoutLinks)
    (names : Place) (other : List Place) (another : List OsText) :
    filesBelow bare false levels other another names =
      (filesBelow top false levels above path (place ++ names)).filter
        (unlinkedAt top (place ++ names)) := by
  induction levels generalizing above path names other another with
  | zero => rfl
  | succ levels ih =>
    rw [filesBelow, filesBelow, List.filter_flatMap, left]
    cases there : top.at? (place ++ names) with
    | none => rfl
    | some entry =>
      cases entry with
      | file content => rfl
      | link target => rfl
      | folder listed =>
        have held {name : OsText} {entry : Entry} (member : (name, entry) ∈ listed) :
            top.at? (place ++ names ++ [name]) = some entry := by
          rw [Entry.at?_concat, there]
          exact Entry.lookup_of_mem (distinct _ _ there) member
        refine Entry.flatMap_keepUnlinked ?_ ?_
        · -- Under the name of a link there is at most the file that it leads to.
          rintro ⟨name, entry⟩ member linked
          have here := held member
          change ((filesAt top false levels above path (place ++ names) name).map _).filter _ = []
          rcases filesAt_unfollowed_cases top path (place ++ names) name with
            none | ⟨content, single⟩ | ⟨⟨entries, folder⟩, _⟩
          · rw [none]
            rfl
          · rw [single]
            simp [FoundFile.under, unlinkedAt, here, linked, -List.append_assoc]
          · rw [here] at folder
            cases folder
            cases linked
        · rintro ⟨name, entry⟩ member real
          have here := held member
          have same := left (names ++ [name])
          rw [← List.append_assoc, here] at same
          change (filesAt bare false levels other another names name).map _ =
            ((filesAt top false levels above path (place ++ names) name).map _).filter _
          cases entry with
          | link target => cases real
          | file content =>
            rw [filesAt_of_file same, filesAt_of_file here]
            simp [FoundFile.under, unlinkedAt, here, Entry.isLink, -List.append_assoc]
          | folder inner =>
            rw [filesAt_of_folder same, filesAt_of_folder here, List.filter_map, ih,
              List.append_assoc]
            refine congrArg (List.map _) (List.filter_congr ?_)
            intro file _
            simp [FoundFile.under, unlinkedAt]

/-- Of a folder with its links deleted, a scan keeps the files that lie there. -/
theorem mem_keptFiles_withoutLinks (named : top.WellNamed)
    (folder : top.at? place = some (.folder entries)) (unfollowed : settings.followLinks = false) :
    file ∈ keptFiles (Entry.folder entries).withoutLinks "." settings ↔
      top.at? (place ++ file.names) = some (.file file.content) ∧ Admits settings file.names := by
  have below : (Entry.folder entries).WellNamed := named.at? folder
  have whole := Entry.at?_nil_withoutLinks entries
  rw [mem_keptFiles_unfollowed (Entry.resolve?_here whole) whole unfollowed,
    leads_iff_of_linkFree whole (Entry.linkFree_withoutLinks below.distinct rfl), List.nil_append,
    Entry.at?_withoutLinks_file below.distinct rfl, Entry.at?_append_of_at? folder]

/-- Deleting the links changes nothing about the files that a scan keeps, if none of the links leads
to a file under a name that the settings admit. -/
theorem keptFiles_eq_withoutLinks (named : top.WellNamed)
    (resolved : top.resolve? start = some place)
    (folder : top.at? place = some (.folder entries)) (unfollowed : settings.followLinks = false)
    (none : ∀ file, LinksTo top (FileName.ofPath start) place file → ¬ Admits settings file.names) :
    keptFiles top start settings =
      keptFiles (Entry.folder entries).withoutLinks "." settings := by
  have same (file : FoundFile) : file ∈ keptFiles top start settings ↔
      file ∈ keptFiles (Entry.folder entries).withoutLinks "." settings := by
    rw [mem_keptFiles_unfollowed resolved folder unfollowed,
      mem_keptFiles_withoutLinks named folder unfollowed, leads_iff folder]
    constructor
    · rintro ⟨own | links, admitted⟩
      · exact ⟨own, admitted⟩
      · exact absurd admitted (none file links)
    · rintro ⟨own, admitted⟩
      exact ⟨.inl own, admitted⟩
  have left (names : Place) : (Entry.folder entries).withoutLinks.at? names =
      ((top.at? (place ++ names)).filter fun entry => !entry.isLink).map Entry.withoutLinks := by
    rw [Entry.at?_withoutLinks (named.at? folder).distinct rfl, Entry.at?_append_of_at? folder]
  have whole := Entry.at?_nil_withoutLinks entries
  obtain ⟨levels, walk⟩ : ∃ levels, filesFrom top start settings =
      filesBelow top false levels [] (FileName.ofPath start) place :=
    ⟨_, by rw [filesFrom_of_folder resolved folder, unfollowed]⟩
  obtain ⟨others, bare⟩ : ∃ levels, filesFrom (Entry.folder entries).withoutLinks "." settings =
      filesBelow (Entry.folder entries).withoutLinks false levels [] (FileName.ofPath ".") [] :=
    ⟨_, by rw [filesFrom_of_folder (Entry.resolve?_here whole) whole, unfollowed]⟩
  -- Both walks are parts of one that goes further down, so it is enough that they have the same
  -- members.
  have bareWalk : filesFrom (Entry.folder entries).withoutLinks "." settings =
      (filesBelow top false others [] (FileName.ofPath start) place).filter
        (unlinkedAt top place) := by
    rw [bare, filesBelow_withoutLinks named.distinct left [] [], List.append_nil]
  rw [filesBelow_unfollowed_levels others] at walk
  rw [filesBelow_unfollowed_levels levels, Nat.add_comm] at bareWalk
  rw [keptFiles, keptFiles, walk, bareWalk, List.filter_filter, List.filter_filter,
    List.filter_filter] at same ⊢
  refine List.filter_congr fun file member => Bool.eq_iff_iff.mpr ?_
  have here := same file
  rw [List.mem_filter, List.mem_filter] at here
  exact ⟨fun first => (here.mp ⟨member, first⟩).2, fun second => (here.mpr ⟨member, second⟩).2⟩

/-- A scan of a folder with its links deleted makes an inventory of the files that lie there. -/
theorem inventory_withoutLinks (named : top.WellNamed)
    (folder : top.at? place = some (.folder entries)) (settings : LibrarySettings) :
    ∃ found, Inventory
      (fun file => top.at? (place ++ file.names) = some (.file file.content) ∧
        Admits settings file.names)
      (scan (Entry.folder entries).withoutLinks "." settings) found := by
  have below : (Entry.folder entries).WellNamed := named.at? folder
  have whole := Entry.at?_nil_withoutLinks entries
  obtain ⟨found, inventory⟩ := inventory_linkFree (below.withoutLinks rfl)
    (Entry.resolve?_here whole) whole (Entry.linkFree_withoutLinks below.distinct rfl) settings
  refine ⟨found, inventory.congr fun file => and_congr_left' ?_⟩
  rw [List.nil_append, Entry.at?_withoutLinks_file below.distinct rfl,
    Entry.at?_append_of_at? folder]

/-- When links are not followed, a scan makes one track of each file below the folder that the
settings admit, and also one of each link that leads to a file under a name that they admit,
wherever that file lies.  Of the folder with its links deleted it makes tracks of the files alone.
So the two scans agree exactly when no link leads to a file under a name that the settings admit:
links to folders, links that lead nowhere, and links in circles make no difference. -/
theorem scan_unfollowed (named : top.WellNamed) (resolved : top.resolve? start = some place)
    (folder : top.at? place = some (.folder entries)) (unfollowed : settings.followLinks = false) :
    (∃ found, Inventory
      (fun file => (top.at? (place ++ file.names) = some (.file file.content) ∨
        LinksTo top (FileName.ofPath start) place file) ∧ Admits settings file.names)
      (scan top start settings) found) ∧
    (∃ found, Inventory
      (fun file => top.at? (place ++ file.names) = some (.file file.content) ∧
        Admits settings file.names)
      (scan (Entry.folder entries).withoutLinks "." settings) found) ∧
    (scan top start settings = scan (Entry.folder entries).withoutLinks "." settings ↔
      ∀ file, LinksTo top (FileName.ofPath start) place file → ¬ Admits settings file.names) := by
  obtain ⟨found, scanned⟩ := inventory_unfollowed named resolved folder unfollowed
  have inventory := scanned.congr fun file => and_congr_left' (leads_iff folder)
  obtain ⟨others, unlinked⟩ := inventory_withoutLinks named folder settings
  refine ⟨⟨found, inventory⟩, ⟨others, unlinked⟩, ?_⟩
  constructor
  · -- As many tracks are too few for a link beside the files.
    intro same file links admitted
    have subset : others ⊆ found := by
      intro file member
      obtain ⟨own, admitted⟩ := (unlinked.mem_iff file).mp member
      exact (inventory.mem_iff file).mpr ⟨.inl own, admitted⟩
    have length : found.length = others.length := by
      have tracks := inventory.tracks_eq.symm.trans (same.trans unlinked.tracks_eq)
      simpa using congrArg List.length tracks
    have perm :=
      (List.subperm_of_subset unlinked.nodup subset).perm_of_length_le (Nat.le_of_eq length)
    have listed := perm.mem_iff.mpr ((inventory.mem_iff file).mpr ⟨.inr links, admitted⟩)
    obtain ⟨own, _⟩ := (unlinked.mem_iff file).mp listed
    obtain ⟨_, _, linked, _⟩ := links
    rw [linked] at own
    cases own
  · intro none
    have whole := Entry.at?_nil_withoutLinks entries
    rw [scan_unfollowed_eq_byPath resolved folder unfollowed,
      scan_unfollowed_eq_byPath (Entry.resolve?_here whole) whole unfollowed,
      keptFiles_eq_withoutLinks named resolved folder unfollowed none]

/-- Links in a folder: to a file elsewhere, once from the folder and once from the top, to a folder
elsewhere, to the folder around it, and to nothing. -/
def linkedShelf : Entry :=
  .folder [
    ("shelf", .folder [("a.mp3", .file []), ("b.mp3", .link "../store/b.mp3"),
      ("c.mp3", .link "/store/b.mp3"), ("store", .link "../store"), ("around", .link ".."),
      ("lost.mp3", .link "nowhere")]),
    ("store", .folder [("b.mp3", .file [])])]

/-- No links are to be followed. -/
def unlinked : LibrarySettings :=
  { followLinks := false }

theorem wellNamed_linkedShelf : linkedShelf.WellNamed :=
  Entry.wellNamed_of_everyEntry (by decide +kernel)

theorem ofPath_shelf : FileName.ofPath "shelf" = (["shelf"] : Place) := by
  decide

theorem resolve?_linkedShelf : linkedShelf.resolve? "shelf" = some (["shelf"] : Place) := by
  rw [Entry.resolve?, ofPath_shelf, Entry.follow?_down (by decide) rfl rfl, Entry.follow?_nil]
  rfl

/-- The link that leads on from its folder stands for the file. -/
theorem linksTo_relative :
    LinksTo linkedShelf (FileName.ofPath "shelf") ["shelf"] ⟨["b.mp3"], []⟩ := by
  have parts : FileName.ofPath "../store/b.mp3" = (["..", "store", "b.mp3"] : Place) := by decide
  have relative : ¬ FileName.isAbsolute "../store/b.mp3" = true := by decide
  have limit : Entry.linkLimit = 39 + 1 := rfl
  refine ⟨"../store/b.mp3", ["store", "b.mp3"], rfl, ?_, rfl⟩
  rw [ofPath_shelf, limit, List.singleton_append, Entry.follow?_down (by decide) rfl rfl,
    Entry.follow?_link (by decide) rfl, if_neg relative, parts, List.append_nil,
    Entry.follow?_up rfl, Entry.follow?_down (by decide) rfl rfl,
    Entry.follow?_down (by decide) rfl rfl, Entry.follow?_nil]
  rfl

/-- The link that leads on from the top stands for the same file. -/
theorem linksTo_absolute :
    LinksTo linkedShelf (FileName.ofPath "shelf") ["shelf"] ⟨["c.mp3"], []⟩ := by
  have parts : FileName.ofPath "/store/b.mp3" = (["", "store", "b.mp3"] : Place) := by decide
  have absolute : FileName.isAbsolute "/store/b.mp3" = true := by decide
  have limit : Entry.linkLimit = 39 + 1 := rfl
  refine ⟨"/store/b.mp3", ["store", "b.mp3"], rfl, ?_, rfl⟩
  rw [ofPath_shelf, limit, List.singleton_append, Entry.follow?_down (by decide) rfl rfl,
    Entry.follow?_link (by decide) rfl, if_pos absolute, parts, List.append_nil,
    Entry.follow?_empty rfl, Entry.follow?_down (by decide) rfl rfl,
    Entry.follow?_down (by decide) rfl rfl, Entry.follow?_nil]
  rfl

theorem admits_unlinked {names : Place} {before : OsText} (some_before : before ≠ [])
    (last : names.getLastD "" = before ++ ".mp3") : Admits unlinked names := by
  refine ⟨⟨?_, ?_, ?_⟩, "mp3", ⟨before, some_before, ?_, last⟩, ⟨"mp3", ?_, rfl⟩, ?_⟩
  · intro flat
    cases flat
  · intro _ depth capped
    cases capped
  · intro hidden
    cases hidden
  · decide
  · decide
  · decide

/-- In such a folder the scans differ: the one that follows no links lists both links to the
file. -/
theorem scan_unfollowed_linkedShelf :
    linkedShelf.WellNamed ∧ linkedShelf.resolve? "shelf" = some (["shelf"] : Place) ∧
      unlinked.followLinks = false ∧
      ∃ entries, linkedShelf.at? ["shelf"] = some (.folder entries) ∧
        (∃ found, Inventory
          (fun file => (linkedShelf.at? ((["shelf"] : Place) ++ file.names) =
              some (.file file.content) ∨
            LinksTo linkedShelf (FileName.ofPath "shelf") ["shelf"] file) ∧
            Admits unlinked file.names)
          (scan linkedShelf "shelf" unlinked) found) ∧
        LinksTo linkedShelf (FileName.ofPath "shelf") ["shelf"] ⟨["b.mp3"], []⟩ ∧
        LinksTo linkedShelf (FileName.ofPath "shelf") ["shelf"] ⟨["c.mp3"], []⟩ ∧
        scan linkedShelf "shelf" unlinked ≠
          scan (Entry.folder entries).withoutLinks "." unlinked := by
  obtain ⟨entries, folder⟩ : ∃ entries, linkedShelf.at? ["shelf"] = some (.folder entries) :=
    ⟨_, rfl⟩
  have unfollowed : unlinked.followLinks = false := rfl
  obtain ⟨inventory, _, agree⟩ :=
    scan_unfollowed wellNamed_linkedShelf resolve?_linkedShelf folder unfollowed
  refine ⟨wellNamed_linkedShelf, resolve?_linkedShelf, rfl, entries, folder, inventory,
    linksTo_relative, linksTo_absolute, ?_⟩
  intro same
  exact agree.mp same _ linksTo_relative (admits_unlinked (List.cons_ne_nil (.char 'b') []) rfl)

/-- A scan that follows no links lists two tracks that lie there as links only, and whose paths the
scan of the folder with its links deleted does not list. -/
theorem not_scan_unfollowed_eq_withoutLinks :
    ∃ entries, linkedShelf.at? ["shelf"] = some (.folder entries) ∧
      linkedShelf.at? ["shelf", "b.mp3"] = some (.link "../store/b.mp3") ∧
      linkedShelf.at? ["shelf", "c.mp3"] = some (.link "/store/b.mp3") ∧
      "b.mp3" ∈ (scan linkedShelf "shelf" unlinked).map Track.file ∧
      "c.mp3" ∈ (scan linkedShelf "shelf" unlinked).map Track.file ∧
      (scan (Entry.folder entries).withoutLinks "." unlinked).map Track.file = ["a.mp3"] := by
  obtain ⟨entries, folder⟩ : ∃ entries, linkedShelf.at? ["shelf"] = some (.folder entries) :=
    ⟨_, rfl⟩
  have unfollowed : unlinked.followLinks = false := rfl
  obtain ⟨_, scanned⟩ :=
    inventory_unfollowed wellNamed_linkedShelf resolve?_linkedShelf folder unfollowed
  have listed {file : FoundFile} {before : OsText}
      (links : LinksTo linkedShelf (FileName.ofPath "shelf") ["shelf"] file)
      (some_before : before ≠ []) (last : file.names.getLastD "" = before ++ ".mp3") :
      file.path.lossy ∈ (scan linkedShelf "shelf" unlinked).map Track.file :=
    scanned.mem_files.mpr
      ⟨file, ⟨(leads_iff folder).mpr (.inr links), admits_unlinked some_before last⟩, rfl⟩
  have bare : (delivered (Entry.folder entries).withoutLinks "." unlinked).map Track.file =
      ["a.mp3"] := by
    rw [delivered, filesFrom, Entry.resolve?_here (Entry.at?_nil_withoutLinks entries)]
    cases folder
    decide +kernel
  refine ⟨entries, folder, rfl, rfl, listed linksTo_relative (List.cons_ne_nil (.char 'b') []) rfl,
    listed linksTo_absolute (List.cons_ne_nil (.char 'c') []) rfl, ?_⟩
  rw [← List.perm_singleton, ← bare]
  exact (List.mergeSort_perm _ _).map _

end TrackBrowser.Library
