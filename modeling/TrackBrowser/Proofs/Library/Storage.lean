/-
Module: TrackBrowser.Proofs.Library.Storage
Purpose: Places in a storage: how deep they lie, where the names on the way come from, and what is
  left when the links are deleted.
-/
import TrackBrowser.Proofs.Library.Scan

/-!
Only a folder has anything below it.  So every place on the way to an entry is a folder, there are
no more names on the way than the storage has entries, and deleting links takes away nothing but
the links themselves, for no place leads through one.
-/

namespace TrackBrowser.Entry

/-- The names in a storage are those of a file system: none contains a slash, and no folder lists a
name twice. -/
structure WellNamed (top : Entry) : Prop where
  slashFree : top.SlashFree
  distinct : ∀ place entry, top.at? place = some entry → entry.names.Nodup

/-- No name below a place is that of a link. -/
def LinkFreeBelow (top : Entry) (place : Place) : Prop :=
  ∀ names target, top.at? (place ++ names) ≠ some (.link target)

/-- Whether an entry is a link. -/
def isLink : Entry → Bool
  | link _ => true
  | _ => false

/-! ### Places -/

variable {top entry inner : Entry} {place : Place} {name : OsText}

@[simp] theorem at?_nil (entry : Entry) : entry.at? [] = some entry := rfl

theorem at?_cons (entry : Entry) (name : OsText) (place : Place) :
    entry.at? (name :: place) = (entry.child? name).bind fun child => child.at? place := rfl

theorem at?_append (entry : Entry) (place names : Place) :
    entry.at? (place ++ names) = (entry.at? place).bind fun inner => inner.at? names :=
  List.foldlM_append

/-- What lies below a place is what lies below its entry. -/
theorem at?_append_of_at? (there : top.at? place = some entry) (names : Place) :
    top.at? (place ++ names) = entry.at? names := by
  rw [at?_append, there, Option.bind_some]

theorem at?_concat (top : Entry) (place : Place) (name : OsText) :
    top.at? (place ++ [name]) = (top.at? place).bind fun entry => entry.child? name := by
  rw [at?_append]
  congr 1
  funext entry
  rw [at?_cons]
  exact Option.bind_fun_some _

/-- Only a folder has a child. -/
theorem folder_of_child? (found : entry.child? name = some inner) :
    ∃ entries, entry = folder entries ∧ entries.lookup name = some inner := by
  cases entry with
  | file => cases found
  | link => cases found
  | folder entries => exact ⟨entries, rfl, found⟩

/-- A folder lists the names of its children. -/
theorem mem_names_iff : name ∈ entry.names ↔ ∃ inner, entry.child? name = some inner := by
  cases entry with
  | file => simp [names, child?]
  | link => simp [names, child?]
  | folder entries =>
    rw [names, child?, ← Option.isSome_iff_exists, List.lookup_isSome_iff, List.mem_map]
    constructor
    · rintro ⟨held, member, rfl⟩
      exact ⟨held, member, beq_self_eq_true _⟩
    · rintro ⟨held, member, same⟩
      exact ⟨held, member, (eq_of_beq same).symm⟩

/-- A name is listed at a place when something lies there under this name. -/
theorem mem_names_at?_iff :
    name ∈ ((top.at? place).map names).getD [] ↔
      ∃ inner, top.at? (place ++ [name]) = some inner := by
  rw [at?_concat]
  cases top.at? place with
  | none => simp
  | some entry => exact mem_names_iff

/-- A place on the way to an entry is that of a folder. -/
theorem folder_of_at?_append {names : Place} (further : names ≠ [])
    (there : top.at? (place ++ names) = some inner) :
    ∃ entries, top.at? place = some (folder entries) := by
  rw [at?_append] at there
  obtain ⟨entry, before, below⟩ := Option.bind_eq_some_iff.mp there
  cases names with
  | nil => exact absurd rfl further
  | cons name names =>
    obtain ⟨child, found, _⟩ := Option.bind_eq_some_iff.mp below
    obtain ⟨entries, rfl, _⟩ := folder_of_child? found
    exact ⟨entries, before⟩

/-- The names on the way to an entry are names of the storage. -/
theorem EveryName.names {property : OsText → Prop} (every : top.EveryName property) {names : Place}
    (there : top.at? (place ++ names) = some entry) : ∀ name ∈ names, property name := by
  induction names generalizing place with
  | nil =>
    intro name member
    cases member
  | cons first names ih =>
    have holds : property first := by
      rw [at?_append] at there
      obtain ⟨inner, before, below⟩ := Option.bind_eq_some_iff.mp there
      obtain ⟨child, found, _⟩ := Option.bind_eq_some_iff.mp below
      exact every place inner before first (mem_names_iff.mpr ⟨child, found⟩)
    rw [← List.singleton_append, ← List.append_assoc] at there
    intro name member
    rcases List.mem_cons.mp member with rfl | member
    · exact holds
    · exact ih there name member

/-! ### Paths -/

section Paths

variable {links : Nat} {rest : List OsText}

theorem follow?_nil : top.follow? links place [] = some place := by
  rw [follow?]

/-- A name leads down to what lies under it, unless this is a link. -/
theorem follow?_down (plain : name ∉ (["", ".", ".."] : List OsText))
    (there : top.at? (place ++ [name]) = some entry) (real : entry.isLink = false) :
    top.follow? links place (name :: rest) = top.follow? links (place ++ [name]) rest := by
  obtain ⟨entries, folder⟩ := folder_of_at?_append (List.cons_ne_nil name []) there
  simp only [List.mem_cons, List.not_mem_nil, or_false, not_or] at plain
  obtain ⟨not_empty, not_here, not_up⟩ := plain
  rw [follow?, folder, there]
  cases entry with
  | file => simp [isFolder, not_empty, not_here, not_up]
  | link => cases real
  | folder => simp [isFolder, not_empty, not_here, not_up]

/-- The name of a link leads on from the folder that holds it, or from the top folder if the target
of the link is absolute. -/
theorem follow?_link {target : OsText} (plain : name ∉ (["", ".", ".."] : List OsText))
    (linked : top.at? (place ++ [name]) = some (.link target)) :
    top.follow? (links + 1) place (name :: rest) =
      top.follow? links (if FileName.isAbsolute target then [] else place)
        (FileName.ofPath target ++ rest) := by
  obtain ⟨entries, folder⟩ := folder_of_at?_append (List.cons_ne_nil name []) linked
  simp only [List.mem_cons, List.not_mem_nil, or_false, not_or] at plain
  obtain ⟨not_empty, not_here, not_up⟩ := plain
  rw [follow?, folder, linked]
  simp [isFolder, not_empty, not_here, not_up]

/-- Two dots lead up to the folder around, and at the top stay there. -/
theorem follow?_up {entries : List (OsText × Entry)}
    (folder : top.at? place = some (.folder entries)) :
    top.follow? links place (".." :: rest) = top.follow? links place.dropLast rest := by
  have not_here : ((".." : OsText) == "" || (".." : OsText) == ".") = false := by decide
  rw [follow?, folder, not_here]
  simp [isFolder]

/-- Nothing between two slashes leads nowhere else. -/
theorem follow?_empty {entries : List (OsText × Entry)}
    (folder : top.at? place = some (.folder entries)) :
    top.follow? links place ("" :: rest) = top.follow? links place rest := by
  rw [follow?, folder]
  simp [isFolder]

/-- A single dot leads nowhere else either. -/
theorem follow?_here {entries : List (OsText × Entry)}
    (folder : top.at? place = some (.folder entries)) :
    top.follow? links place ("." :: rest) = top.follow? links place rest := by
  have here : (("." : OsText) == "" || ("." : OsText) == ".") = true := by decide
  rw [follow?, folder, here]
  simp [isFolder]

theorem resolve?_here {entries : List (OsText × Entry)}
    (folder : top.at? [] = some (.folder entries)) : top.resolve? "." = some [] := by
  have parts : FileName.ofPath "." = (["."] : Place) := by decide
  rw [resolve?, parts, follow?_here folder, follow?_nil]

end Paths

/-! ### Depth -/

/-- An entry of a list is no larger than the list. -/
theorem size_le_sizeOfAll {entries : List (OsText × Entry)}
    (found : entries.lookup name = some inner) : inner.size ≤ size.sizeOfAll entries := by
  induction entries with
  | nil => cases found
  | cons first rest ih =>
    obtain ⟨held, entry⟩ := first
    rw [List.lookup_cons] at found
    rw [size.sizeOfAll]
    split at found
    · cases found
      exact Nat.le_add_right _ _
    · exact Nat.le_trans (ih found) (Nat.le_add_left _ _)

/-- There are fewer names on the way to an entry than there are entries. -/
theorem length_add_size_le (there : top.at? place = some entry) :
    place.length + entry.size ≤ top.size := by
  induction place generalizing top with
  | nil =>
    cases there
    simp
  | cons name place ih =>
    rw [at?_cons] at there
    obtain ⟨child, found, below⟩ := Option.bind_eq_some_iff.mp there
    obtain ⟨entries, rfl, listed⟩ := folder_of_child? found
    have inside := ih below
    have smaller := size_le_sizeOfAll listed
    rw [size, List.length_cons]
    omega

/-! ### Deleting links -/

/-- An entry with all links below it deleted. -/
def withoutLinks : Entry → Entry
  | folder entries => folder (keepUnlinked entries)
  | entry => entry
where
  /-- The entries that are no links, with all links below them deleted. -/
  keepUnlinked : List (OsText × Entry) → List (OsText × Entry)
    | [] => []
    | (name, entry) :: rest =>
      if entry.isLink then keepUnlinked rest else (name, entry.withoutLinks) :: keepUnlinked rest

/-- A folder without links is a folder. -/
theorem at?_nil_withoutLinks (entries : List (OsText × Entry)) :
    (folder entries).withoutLinks.at? [] = some (folder (withoutLinks.keepUnlinked entries)) := rfl

theorem isLink_withoutLinks (entry : Entry) : entry.withoutLinks.isLink = entry.isLink := by
  cases entry with
  | file => rfl
  | link => rfl
  | folder => rfl

/-- The names that are left are names that were there, in the order in which they were. -/
theorem names_keepUnlinked (entries : List (OsText × Entry)) :
    ((withoutLinks.keepUnlinked entries).map Prod.fst).Sublist (entries.map Prod.fst) := by
  induction entries with
  | nil => exact List.Sublist.slnil
  | cons first rest ih =>
    rw [withoutLinks.keepUnlinked]
    split
    · exact ih.cons _
    · exact ih.cons_cons _

theorem names_withoutLinks (entry : Entry) : entry.withoutLinks.names.Sublist entry.names := by
  cases entry with
  | file => exact List.Sublist.refl _
  | link => exact List.Sublist.refl _
  | folder entries =>
    rw [withoutLinks]
    exact names_keepUnlinked entries

/-- An entry is found under its name, as no other has this name. -/
theorem lookup_of_mem {entries : List (OsText × Entry)} (distinct : (entries.map Prod.fst).Nodup)
    (member : (name, entry) ∈ entries) : entries.lookup name = some entry := by
  obtain ⟨before, after, rfl⟩ := List.append_of_mem member
  rw [List.map_append, List.map_cons] at distinct
  have other := (List.nodup_append.mp distinct).2.2
  refine List.lookup_eq_some_iff.mpr ⟨before, after, rfl, ?_⟩
  intro earlier among
  simpa using (other _ (List.mem_map_of_mem among) _ List.mem_cons_self).symm

/-- What a name stands for once the links are deleted.  It must not be listed twice: behind a
deleted link a second entry of the name would come up. -/
theorem lookup_keepUnlinked {entries : List (OsText × Entry)}
    (distinct : (entries.map Prod.fst).Nodup) :
    (withoutLinks.keepUnlinked entries).lookup name =
      ((entries.lookup name).filter fun entry => !entry.isLink).map withoutLinks := by
  induction entries with
  | nil => rfl
  | cons first rest ih =>
    obtain ⟨held, entry⟩ := first
    obtain ⟨once, distinct⟩ := List.nodup_cons.mp distinct
    rw [withoutLinks.keepUnlinked, List.lookup_cons]
    by_cases same : name = held
    · subst same
      have absent : (withoutLinks.keepUnlinked rest).lookup name = none := by
        rw [List.lookup_eq_none_iff]
        intro other member
        have listed := (names_keepUnlinked rest).subset (List.mem_map_of_mem member)
        simpa using fun (equal : name = other.1) => once (equal ▸ listed)
      cases linked : entry.isLink <;> simp [linked, absent, Option.filter_some]
    · have differs : (name == held) = false := by simpa using same
      cases linked : entry.isLink <;> simp [List.lookup_cons, differs, ih distinct]

/-- A list over the names that are left is one over all names, if it has nothing under the names of
links. -/
theorem flatMap_keepUnlinked {α : Type} {entries : List (OsText × Entry)}
    {left all : OsText → List α}
    (linked : ∀ listed ∈ entries, listed.2.isLink = true → all listed.1 = [])
    (real : ∀ listed ∈ entries, listed.2.isLink = false → left listed.1 = all listed.1) :
    ((withoutLinks.keepUnlinked entries).map Prod.fst).flatMap left =
      (entries.map Prod.fst).flatMap all := by
  induction entries with
  | nil => rfl
  | cons first rest ih =>
    have after := ih (fun listed member => linked listed (List.mem_cons_of_mem _ member))
      (fun listed member => real listed (List.mem_cons_of_mem _ member))
    rw [withoutLinks.keepUnlinked, List.map_cons, List.flatMap_cons]
    cases link : first.2.isLink with
    | true =>
      rw [if_pos rfl, after, linked first List.mem_cons_self link, List.nil_append]
    | false =>
      rw [if_neg Bool.false_ne_true, List.map_cons, List.flatMap_cons, after,
        real first List.mem_cons_self link]

/-- Deleting the links takes away the links, and nothing else changes but what lies below. -/
theorem at?_withoutLinks (distinct : ∀ place entry, top.at? place = some entry → entry.names.Nodup)
    (real : top.isLink = false) (place : Place) :
    top.withoutLinks.at? place =
      ((top.at? place).filter fun entry => !entry.isLink).map withoutLinks := by
  induction place generalizing top with
  | nil => simp [real, Option.filter_some]
  | cons name place ih =>
    rw [at?_cons, at?_cons]
    cases top with
    | file => rfl
    | link => rfl
    | folder entries =>
      have here := distinct [] (folder entries) rfl
      rw [withoutLinks, child?, child?, lookup_keepUnlinked here]
      cases listed : entries.lookup name with
      | none => rfl
      | some child =>
        have below : ∀ place entry, child.at? place = some entry → entry.names.Nodup := by
          intro place entry there
          apply distinct (name :: place) entry
          rw [at?_cons, child?, listed, Option.bind_some, there]
        cases linked : child.isLink with
        | false => simpa [linked, Option.filter_some] using ih below linked
        | true =>
          -- A link leads on to nothing, so there was nothing below it to lose.
          cases child with
          | file => cases linked
          | folder => cases linked
          | link target => cases place <;> simp [isLink, at?_cons, child?, Option.filter_some]

/-- The files are still where they were. -/
theorem at?_withoutLinks_file
    (distinct : ∀ place entry, top.at? place = some entry → entry.names.Nodup)
    (real : top.isLink = false) (place : Place) (content : List UInt8) :
    top.withoutLinks.at? place = some (.file content) ↔ top.at? place = some (.file content) := by
  rw [at?_withoutLinks distinct real]
  constructor
  · intro there
    obtain ⟨entry, kept, bare⟩ := Option.map_eq_some_iff.mp there
    obtain ⟨there, _⟩ := Option.filter_eq_some_iff.mp kept
    cases entry with
    | file => exact there.trans (congrArg some bare)
    | link => cases bare
    | folder => cases bare
  · intro there
    rw [there]
    rfl

/-- Where the links are deleted, there are none. -/
theorem linkFree_withoutLinks
    (distinct : ∀ place entry, top.at? place = some entry → entry.names.Nodup)
    (real : top.isLink = false) : top.withoutLinks.LinkFreeBelow [] := by
  intro names target there
  rw [List.nil_append, at?_withoutLinks distinct real] at there
  obtain ⟨entry, kept, bare⟩ := Option.map_eq_some_iff.mp there
  obtain ⟨_, unlinked⟩ := Option.filter_eq_some_iff.mp kept
  rw [← isLink_withoutLinks, bare] at unlinked
  cases unlinked

/-- What is left has the names of a file system. -/
theorem WellNamed.withoutLinks (named : top.WellNamed) (real : top.isLink = false) :
    top.withoutLinks.WellNamed := by
  have before : ∀ place entry, top.withoutLinks.at? place = some entry →
      ∃ old, top.at? place = some old ∧ entry.names.Sublist old.names := by
    intro place entry there
    rw [at?_withoutLinks named.distinct real] at there
    obtain ⟨old, kept, rfl⟩ := Option.map_eq_some_iff.mp there
    exact ⟨old, (Option.filter_eq_some_iff.mp kept).1, names_withoutLinks old⟩
  constructor
  · intro place entry there name member
    obtain ⟨old, held, sublist⟩ := before place entry there
    exact named.slashFree place old held name (sublist.subset member)
  · intro place entry there
    obtain ⟨old, held, sublist⟩ := before place entry there
    exact sublist.nodup (named.distinct place old held)

/-- What lies at a place has the names of a file system if the whole storage has. -/
theorem WellNamed.at? (named : top.WellNamed) (there : top.at? place = some entry) :
    entry.WellNamed := by
  constructor
  · intro names inner below
    apply named.slashFree (place ++ names) inner
    rw [at?_append_of_at? there, below]
  · intro names inner below
    apply named.distinct (place ++ names) inner
    rw [at?_append_of_at? there, below]

/-! ### Checking a storage -/

/-- Whether an entry and all entries below it pass a check. -/
def everyEntry (check : Entry → Bool) : Entry → Bool
  | folder entries => check (folder entries) && eachEntry entries
  | entry => check entry
where
  /-- Whether the entries of a list and all entries below them pass a check. -/
  eachEntry : List (OsText × Entry) → Bool
    | [] => true
    | (_, entry) :: rest => entry.everyEntry check && eachEntry rest

variable {check : Entry → Bool}

theorem everyEntry_of_mem {entries : List (OsText × Entry)}
    (checked : everyEntry.eachEntry check entries = true) :
    ∀ listed ∈ entries, listed.2.everyEntry check = true := by
  induction entries with
  | nil =>
    intro listed member
    cases member
  | cons first rest ih =>
    rw [everyEntry.eachEntry, Bool.and_eq_true] at checked
    intro listed member
    rcases List.mem_cons.mp member with rfl | member
    · exact checked.1
    · exact ih checked.2 listed member

/-- What lies at a place passes a check that all entries pass. -/
theorem check_of_everyEntry (checked : top.everyEntry check = true)
    (there : top.at? place = some entry) : check entry = true := by
  induction place generalizing top with
  | nil =>
    cases there
    cases entry with
    | file => exact checked
    | link => exact checked
    | folder entries =>
      rw [everyEntry, Bool.and_eq_true] at checked
      exact checked.1
  | cons name place ih =>
    rw [at?_cons] at there
    obtain ⟨inner, found, below⟩ := Option.bind_eq_some_iff.mp there
    obtain ⟨entries, rfl, listed⟩ := folder_of_child? found
    obtain ⟨before, after, rfl, _⟩ := List.lookup_eq_some_iff.mp listed
    rw [everyEntry, Bool.and_eq_true] at checked
    exact ih (everyEntry_of_mem checked.2 (name, inner) (by simp)) below

/-- Whether the names that an entry lists are different and have no slashes. -/
def hasPlainNames (entry : Entry) : Bool :=
  decide entry.names.Nodup && entry.names.all fun name => !name.contains (.char '/')

/-- Whether the names that an entry lists are text. -/
def hasReadableNames (entry : Entry) : Bool :=
  entry.names.all fun name => name.text?.isSome

/-- A storage that passes the check has the names of a file system. -/
theorem wellNamed_of_everyEntry (checked : top.everyEntry hasPlainNames = true) :
    top.WellNamed := by
  constructor
  · intro place entry there name member
    have plain := (Bool.and_eq_true_iff.mp (check_of_everyEntry checked there)).2
    simpa using List.all_eq_true.mp plain name member
  · intro place entry there
    have distinct := (Bool.and_eq_true_iff.mp (check_of_everyEntry checked there)).1
    exact of_decide_eq_true distinct

/-- A storage that passes the check has names that are text. -/
theorem readable_of_everyEntry (checked : top.everyEntry hasReadableNames = true) :
    top.Readable := by
  intro place entry there name member
  have text := List.all_eq_true.mp (check_of_everyEntry checked there) name member
  obtain ⟨text, read⟩ := Option.isSome_iff_exists.mp text
  exact ⟨text, OsText.text?_eq_some_iff.mp read⟩

/-- Below an entry that holds no links there are none. -/
theorem linkFreeBelow_of_everyEntry (there : top.at? place = some entry)
    (linkless : entry.everyEntry (!isLink ·) = true) : top.LinkFreeBelow place := by
  intro names target linked
  rw [at?_append_of_at? there] at linked
  exact Bool.false_ne_true (check_of_everyEntry linkless linked)

end TrackBrowser.Entry
