/-
Module: TrackBrowser.Proofs.Library.Finding
Purpose: Which files a scan makes tracks of, and in which order, when links are not followed or
  there are none.
-/
import TrackBrowser.Proofs.Library.Storage
import Mathlib.Data.List.Nodup

/-!
A walk that follows no links goes down the folders of a storage by their own names, so it comes
across a file by exactly the names that lead to it, as far down as it is allowed to go.  A name in a
folder yields a file if it is the name of one, and also if it is the name of a link that leads to
one: only a link to a folder is passed over.  The tracks that remain after the names are looked at
are put in the order of their paths, which are all different.
-/

namespace TrackBrowser

/-! ### Names -/

namespace FileName

/-- The extension of a name is the text after its last dot, if something comes before that dot.
Nothing needs to come after it. -/
def HasExtension (name : OsText) (extension : String) : Prop :=
  ∃ before : OsText, before ≠ [] ∧ '.' ∉ extension.toList ∧
    name = before ++ .char '.' :: OsText.ofText extension

/-- A name is hidden if it is text and starts with a dot. -/
def Hidden (name : OsText) : Prop :=
  ∃ text : String, name = OsText.ofText text ∧ ['.'] <+: text.toList

theorem splitAtDot?_eq_some_iff {name before after : OsText} :
    splitAtDot? name = some (before, after) ↔
      before ≠ [] ∧ .char '.' ∉ after ∧ name = before ++ .char '.' :: after := by
  have divided := List.takeWhile_append_dropWhile (p := (· != .char '.')) (l := name.reverse)
  constructor
  · intro split
    rw [splitAtDot?] at split
    split at split
    · cases split
    · cases split
    · rename_i dot rest first left
      obtain ⟨rfl, rfl⟩ := Prod.mk.inj (Option.some.inj split)
      have is_dot : dot = .char '.' := by
        have head := List.head?_dropWhile_not (· != OsUnit.char '.') name.reverse
        rw [left] at head
        simpa using head
      refine ⟨?_, ?_, ?_⟩
      · simpa using first
      · intro member
        have other := List.all_eq_true.mp List.all_takeWhile _ (List.mem_reverse.mp member)
        simp at other
      · rw [left, is_dot] at divided
        have whole := congrArg List.reverse divided
        simpa using whole.symm
  · rintro ⟨some_before, plain, rfl⟩
    have others : ∀ unit ∈ after.reverse, (unit != .char '.') = true := by
      intro unit member
      simpa using fun (dot : unit = .char '.') => plain (dot ▸ List.mem_reverse.mp member)
    have reversed : (before ++ .char '.' :: after).reverse =
        after.reverse ++ .char '.' :: before.reverse := by
      simp
    have left : (after.reverse ++ .char '.' :: before.reverse).dropWhile (· != .char '.') =
        .char '.' :: before.reverse := by
      rw [List.dropWhile_append_of_pos others]
      simp
    have taken : (after.reverse ++ .char '.' :: before.reverse).takeWhile (· != .char '.') =
        after.reverse := by
      rw [List.takeWhile_append_of_pos others]
      simp
    rw [splitAtDot?, reversed, left, taken]
    cases first : before.reverse with
    | nil => exact absurd (List.reverse_eq_nil_iff.mp first) some_before
    | cons unit rest => simp [← first]

theorem char_mem_ofText_iff {text : String} {c : Char} :
    .char c ∈ OsText.ofText text ↔ c ∈ text.toList := by
  simp [OsText.ofText]

theorem extension?_eq_some_iff {name : OsText} {extension : String} :
    extension? name = some extension ↔ HasExtension name extension := by
  rw [extension?, Option.bind_eq_some_iff]
  constructor
  · rintro ⟨⟨before, after⟩, split, text⟩
    obtain ⟨some_before, plain, whole⟩ := splitAtDot?_eq_some_iff.mp split
    rw [OsText.text?_eq_some_iff.mp text] at plain whole
    exact ⟨before, some_before, mt char_mem_ofText_iff.mpr plain, whole⟩
  · rintro ⟨before, some_before, plain, whole⟩
    exact ⟨(before, OsText.ofText extension),
      splitAtDot?_eq_some_iff.mpr ⟨some_before, mt char_mem_ofText_iff.mp plain, whole⟩,
      OsText.text?_ofText extension⟩

theorem isHidden_iff {name : OsText} : isHidden name = true ↔ Hidden name := by
  have starts (text : String) :
      (text.toList.head? == some '.') = true ↔ ['.'] <+: text.toList := by
    cases text.toList with
    | nil => simp
    | cons c rest =>
      rw [List.head?_cons, List.cons_prefix_cons, beq_iff_eq, Option.some.injEq]
      exact ⟨fun dot => ⟨dot.symm, List.nil_prefix⟩, fun starts => starts.1.symm⟩
  rw [isHidden]
  constructor
  · intro hidden
    split at hidden
    · rename_i text read
      exact ⟨text, OsText.text?_eq_some_iff.mp read, (starts text).mp hidden⟩
    · cases hidden
  · rintro ⟨text, rfl, dot⟩
    rw [OsText.text?_ofText]
    exact (starts text).mpr dot

end FileName

/-- Seen from one folder further out, different files are still different. -/
theorem FoundFile.under_injective (name : OsText) :
    Function.Injective fun file : FoundFile => file.under name := by
  rintro ⟨names, content⟩ ⟨others, other⟩ same
  simp only [under, FoundFile.mk.injEq, List.cons.injEq, true_and] at same
  obtain ⟨rfl, rfl⟩ := same
  rfl

/-- The name of a file below a folder is the last of its names, whatever the folder is called. -/
theorem FoundFile.name_eq {found : FoundFile} (some_name : found.names ≠ []) (start : OsText) :
    found.name start = found.names.getLastD "" := by
  rw [name, List.getLastD_eq_getLast?, List.getLastD_eq_getLast?,
    List.getLast?_eq_some_getLast some_name]
  rfl

namespace Library

/-- An extension of the settings without the blanks around it and the dots before it. -/
def bareExtension (listed : String) : String :=
  String.ofList ((Text.trim listed.toList).dropWhile (· == '.'))

/-- The settings list an extension, if blanks, dots before it and the case of ASCII letters do not
count. -/
def Lists (settings : LibrarySettings) (extension : String) : Prop :=
  ∃ listed ∈ settings.extensions,
    Text.asciiLower extension = Text.asciiLower (bareExtension listed)

theorem asciiLower_eq_empty_iff {text : String} : Text.asciiLower text = "" ↔ text = "" := by
  rw [Text.asciiLower, ← String.toList_inj, ← String.toList_inj]
  simp

/-- A name is that of an audio file if its extension is text that is listed.  One that ends with a
dot never is, even if a listed extension has nothing but dots and blanks. -/
theorem isAudioName_iff {settings : LibrarySettings} {name : OsText} :
    isAudioName settings name = true ↔
      ∃ extension, FileName.HasExtension name extension ∧ Lists settings extension ∧
        extension ≠ "" := by
  have wanted : ∀ extension,
      (wantedExtensions settings).contains (Text.asciiLower extension) = true ↔
        Lists settings extension ∧ extension ≠ "" := by
    intro extension
    rw [wantedExtensions, List.contains_iff_mem, List.mem_filter, List.mem_map, bne_iff_ne, ne_eq,
      asciiLower_eq_empty_iff]
    refine and_congr_left' ⟨?_, ?_⟩
    · rintro ⟨listed, member, same⟩
      exact ⟨listed, member, same.symm⟩
    · rintro ⟨listed, member, same⟩
      exact ⟨listed, member, same.symm⟩
  constructor
  · intro audio
    rw [isAudioName] at audio
    split at audio
    · rename_i extension has
      exact ⟨extension, FileName.extension?_eq_some_iff.mp has, (wanted extension).mp audio⟩
    · cases audio
  · rintro ⟨extension, has, listed⟩
    rw [isAudioName, FileName.extension?_eq_some_iff.mpr has]
    exact (wanted extension).mpr listed

/-- A scan looks at the names that lead to a file from the folder where it began: not too many of
them, and none that is hidden unless hidden files are asked for. -/
structure InReach (settings : LibrarySettings) (names : Place) : Prop where
  flat : settings.recursive = false → names.length ≤ 1
  capped : settings.recursive = true → ∀ depth, settings.maxDepth = some depth →
    names.length ≤ depth
  shown : settings.includeHidden = false → ∀ name ∈ names, ¬ FileName.Hidden name

/-- The names lead to an audio file that the settings admit. -/
def Admits (settings : LibrarySettings) (names : Place) : Prop :=
  InReach settings names ∧
    ∃ extension, FileName.HasExtension (names.getLastD "") extension ∧
      Lists settings extension ∧ extension ≠ ""

/-! ### Files that a walk comes across -/

/-- A name in a folder yields the content of a file: the file of that name, or, if a link has that
name, the file that its path leads to. -/
inductive Yields (top : Entry) (path : List OsText) (here : Place) (name : OsText)
    (content : List UInt8) : Prop where
  | file (own : top.at? (here ++ [name]) = some (.file content))
  | link {target : OsText} {place : Place}
      (linked : top.at? (here ++ [name]) = some (.link target))
      (reached : top.follow? Entry.linkLimit [] (path ++ [name]) = some place)
      (there : top.at? place = some (.file content))

/-- The names of a found file lead on from a path through folders, and the last of them yields its
content. -/
def Leads (top : Entry) (path : List OsText) (here : Place) (found : FoundFile) : Prop :=
  ∃ folders name, found.names = folders ++ [name] ∧
    Yields top (path ++ folders) (here ++ folders) name found.content

section Walk

variable {top : Entry} {levels : Nat} {above : List Place} {path : List OsText} {here : Place}
  {name : OsText} {found inner : FoundFile}

theorem Yields.at?_concat {content : List UInt8} (yields : Yields top path here name content) :
    ∃ entry, top.at? (here ++ [name]) = some entry := by
  cases yields with
  | file own => exact ⟨_, own⟩
  | link linked _ _ => exact ⟨_, linked⟩

theorem Leads.names_ne_nil (leads : Leads top path here found) : found.names ≠ [] := by
  obtain ⟨folders, name, names, _⟩ := leads
  rw [names]
  exact List.append_ne_nil_of_right_ne_nil folders (List.cons_ne_nil name [])

/-- Something lies at the names of a file that they lead to. -/
theorem Leads.at? (leads : Leads top path here found) :
    ∃ entry, top.at? (here ++ found.names) = some entry := by
  obtain ⟨folders, name, names, yields⟩ := leads
  obtain ⟨entry, there⟩ := yields.at?_concat
  exact ⟨entry, by rw [names, ← List.append_assoc, there]⟩

theorem filesAt_of_file {followLinks : Bool} {content : List UInt8}
    (own : top.at? (here ++ [name]) = some (.file content)) :
    filesAt top followLinks levels above path here name = [⟨[], content⟩] := by
  rw [filesAt, own]

theorem filesAt_of_folder {followLinks : Bool} {entries : List (OsText × Entry)}
    (folder : top.at? (here ++ [name]) = some (.folder entries)) :
    filesAt top followLinks levels above path here name =
      filesBelow top followLinks levels (here :: above) (path ++ [name]) (here ++ [name]) := by
  rw [filesAt, folder]

/-- What a walk that follows no links comes across at a name: nothing, one file, or what lies below
the folder of this name.  Only the last depends on how far down the walk may go. -/
theorem filesAt_unfollowed_cases (top : Entry) (path : List OsText) (here : Place) (name : OsText) :
    (∀ levels above, filesAt top false levels above path here name = []) ∨
    (∃ content, ∀ levels above,
      filesAt top false levels above path here name = [⟨[], content⟩]) ∨
    ((∃ entries, top.at? (here ++ [name]) = some (.folder entries)) ∧ ∀ levels above,
      filesAt top false levels above path here name =
        filesBelow top false levels (here :: above) (path ++ [name]) (here ++ [name])) := by
  simp only [filesAt]
  cases top.at? (here ++ [name]) with
  | none => exact .inl fun _ _ => rfl
  | some entry =>
    cases entry with
    | file content => exact .inr (.inl ⟨content, fun _ _ => rfl⟩)
    | folder entries => exact .inr (.inr ⟨⟨entries, rfl⟩, fun _ _ => rfl⟩)
    | link target =>
      dsimp only
      cases top.follow? Entry.linkLimit [] (path ++ [name]) with
      | none => exact .inl fun _ _ => rfl
      | some goal =>
        dsimp only
        cases top.at? goal with
        | none => exact .inl fun _ _ => rfl
        | some entry =>
          cases entry with
          | file content => exact .inr (.inl ⟨content, fun _ _ => rfl⟩)
          | folder entries => exact .inl fun _ _ => rfl
          | link target => exact .inl fun _ _ => rfl

/-- What a walk that follows no links comes across at a name: what the name yields, or the files
below its folder. -/
theorem mem_filesAt_unfollowed :
    inner ∈ filesAt top false levels above path here name ↔
      (inner.names = [] ∧ Yields top path here name inner.content) ∨
        ((∃ entries, top.at? (here ++ [name]) = some (.folder entries)) ∧
          inner ∈ filesBelow top false levels (here :: above) (path ++ [name])
            (here ++ [name])) := by
  have single : ∀ content, inner ∈ [(⟨[], content⟩ : FoundFile)] ↔
      inner.names = [] ∧ inner.content = content := by
    intro content
    rw [List.mem_singleton, FoundFile.mk.injEq]
  rw [filesAt]
  constructor
  · intro member
    split at member
    · rename_i own
      obtain ⟨names, rfl⟩ := (single _).mp member
      exact .inl ⟨names, .file own⟩
    · rename_i entries there
      exact .inr ⟨⟨entries, there⟩, member⟩
    · rename_i target linked
      split at member
      · cases member
      · rename_i place resolved
        split at member
        · rename_i there
          obtain ⟨names, rfl⟩ := (single _).mp member
          exact .inl ⟨names, .link linked resolved there⟩
        · cases member
        · cases member
    · cases member
  · rintro (⟨names, yields⟩ | ⟨⟨entries, there⟩, member⟩)
    · cases yields with
      | file own =>
        rw [own]
        exact (single _).mpr ⟨names, rfl⟩
      | link linked resolved there =>
        rw [linked]
        dsimp only
        rw [resolved]
        dsimp only
        rw [there]
        exact (single _).mpr ⟨names, rfl⟩
    · rw [there]
      exact member

/-- A walk that follows no links comes across a file by the names that lead to it, as many as it is
allowed to go down. -/
theorem mem_filesBelow_unfollowed :
    found ∈ filesBelow top false levels above path here ↔
      Leads top path here found ∧ found.names.length ≤ levels := by
  induction levels generalizing above path here found with
  | zero =>
    constructor
    · intro member
      cases member
    · rintro ⟨leads, none⟩
      exact absurd (List.eq_nil_of_length_eq_zero (Nat.le_zero.mp none)) leads.names_ne_nil
  | succ levels ih =>
    rw [mem_filesBelow_succ]
    constructor
    · rintro ⟨name, -, inner, member, rfl⟩
      rcases mem_filesAt_unfollowed.mp member with ⟨names, yields⟩ | ⟨-, below⟩
      · refine ⟨⟨[], name, ?_, ?_⟩, ?_⟩
        · rw [FoundFile.under, names, List.nil_append]
        · rw [List.append_nil, List.append_nil]
          exact yields
        · simp [FoundFile.under, names]
      · obtain ⟨⟨folders, last, names, yields⟩, short⟩ := ih.mp below
        refine ⟨⟨name :: folders, last, ?_, ?_⟩, ?_⟩
        · rw [FoundFile.under, names, List.cons_append]
        · rw [List.append_assoc, List.append_assoc] at yields
          exact yields
        · exact Nat.succ_le_succ short
    · rintro ⟨⟨folders, last, names, yields⟩, short⟩
      obtain ⟨found_names, content⟩ := found
      cases names
      cases folders with
      | nil =>
        rw [List.append_nil, List.append_nil] at yields
        exact ⟨last, Entry.mem_names_at?_iff.mpr yields.at?_concat, ⟨[], content⟩,
          mem_filesAt_unfollowed.mpr (.inl ⟨rfl, yields⟩), rfl⟩
      | cons name folders =>
        have leads : Leads top (path ++ [name]) (here ++ [name]) ⟨folders ++ [last], content⟩ := by
          refine ⟨folders, last, rfl, ?_⟩
          rw [List.append_assoc, List.append_assoc]
          exact yields
        obtain ⟨entry, there⟩ := leads.at?
        have folder := Entry.folder_of_at?_append leads.names_ne_nil there
        obtain ⟨entries, listed⟩ := folder
        have inside : FoundFile.mk (folders ++ [last]) content ∈
            filesAt top false levels above path here name :=
          mem_filesAt_unfollowed.mpr
            (.inr ⟨⟨entries, listed⟩, ih.mpr ⟨leads, Nat.le_of_succ_le_succ short⟩⟩)
        exact ⟨name, Entry.mem_names_at?_iff.mpr ⟨_, listed⟩, _, inside, rfl⟩

/-- A walk that may go less far down comes across the files of one that may go further, as far as
they are not too deep, in the same order. -/
theorem filesBelow_unfollowed_levels (more : Nat) :
    filesBelow top false levels above path here =
      (filesBelow top false (levels + more) above path here).filter
        fun file => file.names.length ≤ levels := by
  induction levels generalizing above path here with
  | zero =>
    refine (List.filter_eq_nil_iff.mpr ?_).symm
    intro file member
    have leads := (mem_filesBelow_unfollowed.mp member).1
    simpa using leads.names_ne_nil
  | succ levels ih =>
    rw [Nat.add_right_comm, filesBelow, filesBelow, List.filter_flatMap]
    refine List.flatMap_congr fun name _ => ?_
    rw [List.filter_map]
    refine congrArg (List.map _) ?_
    change filesAt top false levels above path here name =
      (filesAt top false (levels + more) above path here name).filter _
    rcases filesAt_unfollowed_cases top path here name with none | ⟨content, single⟩ | ⟨_, below⟩
    · rw [none, none]
      rfl
    · rw [single, single]
      simp [FoundFile.under]
    · rw [below, below, ih]
      refine List.filter_congr fun file _ => ?_
      simp [FoundFile.under]

/-- Where there are no links it does not matter whether they are followed. -/
theorem filesBelow_of_linkFree (followLinks : Bool) (linkFree : top.LinkFreeBelow here) :
    filesBelow top followLinks levels above path here =
      filesBelow top false levels above path here := by
  induction levels generalizing above path here with
  | zero => rfl
  | succ levels ih =>
    rw [filesBelow, filesBelow]
    congr 1
    funext name
    dsimp only
    congr 1
    have below : top.LinkFreeBelow (here ++ [name]) := by
      intro names
      rw [List.append_assoc]
      exact linkFree ([name] ++ names)
    split
    · rfl
    · exact ih below
    · rename_i target linked
      exact absurd linked (linkFree [name] target)
    · rfl

/-- A walk comes across no file twice, as a folder lists no name twice. -/
theorem nodup_filesBelow
    (distinct : ∀ place entry, top.at? place = some entry → entry.names.Nodup)
    (followLinks : Bool) : (filesBelow top followLinks levels above path here).Nodup := by
  induction levels generalizing above path here with
  | zero => exact List.nodup_nil
  | succ levels ih =>
    have listed : (((top.at? here).map Entry.names).getD []).Nodup := by
      cases there : top.at? here with
      | none => exact List.nodup_nil
      | some entry => exact distinct here entry there
    rw [filesBelow]
    refine List.nodup_flatMap.mpr ⟨?_, ?_⟩
    · intro name _
      refine List.Nodup.map (FoundFile.under_injective name) ?_
      change (filesAt top followLinks levels above path here name).Nodup
      rcases filesAt_cases top followLinks levels above path here name with
        ⟨content, at_name⟩ | ⟨place, at_name⟩ | at_name
      · rw [at_name]
        exact List.nodup_singleton _
      · rw [at_name]
        exact ih
      · rw [at_name]
        exact List.nodup_nil
    · refine listed.imp ?_
      intro name other differ file member again
      obtain ⟨inner, _, rfl⟩ := List.mem_map.mp member
      obtain ⟨second, _, same⟩ := List.mem_map.mp again
      have names : other :: second.names = name :: inner.names := congrArg FoundFile.names same
      exact differ (List.cons.inj names).1.symm

end Walk

end Library

end TrackBrowser
