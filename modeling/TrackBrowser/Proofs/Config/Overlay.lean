/-
Module: TrackBrowser.Proofs.Config.Overlay
Purpose: One value more in a source, and what it changes in the configuration.
-/
import TrackBrowser.Config.Environment
import TrackBrowser.Config.KeyPath
import Mathlib.Data.List.Induction

/-!
Sources are laid over a configuration value by value, so a value in the middle of a source is
followed by others that could reach what it has set.  Where none of the others does, the
configuration ends up as it would without the value, except for that value itself and for a list in
the place of its section.
-/

namespace TrackBrowser

namespace Named

variable {α : Type} {name other : String} {thing held : α}

/-- The names after a put are the ones before and the one that was put. -/
theorem mem_put {things : Named α} {entry : String × α} (member : entry ∈ things.put name thing) :
    entry.1 = name ∨ entry ∈ things := by
  induction things with
  | nil =>
    rw [put, List.mem_singleton] at member
    rw [member]
    exact .inl rfl
  | cons first rest ih =>
    obtain ⟨taken, old⟩ := first
    rw [put] at member
    split at member
    · rcases List.mem_cons.mp member with rfl | member
      · exact .inl rfl
      · exact .inr (List.mem_cons_of_mem _ member)
    · rcases List.mem_cons.mp member with rfl | member
      · exact .inr List.mem_cons_self
      · exact (ih member).imp_right (List.mem_cons_of_mem _)

/-- The second list has one thing more, at any place. -/
inductive Inserted (name : String) (thing : α) : Named α → Named α → Prop where
  | here (rest : Named α) : Inserted name thing rest ((name, thing) :: rest)
  | later (first : String × α) {old new : Named α} (inserted : Inserted name thing old new) :
      Inserted name thing (first :: old) (first :: new)

/-- A thing under a new name goes to the end. -/
theorem inserted_put {things : Named α} (fresh : ∀ entry ∈ things, entry.1 ≠ name) :
    Inserted name thing things (things.put name thing) := by
  induction things with
  | nil => exact .here []
  | cons first rest ih =>
    have differs : ¬(first.1 == name) = true := by
      rw [beq_iff_eq]
      exact fresh first List.mem_cons_self
    rw [put, if_neg differs]
    exact .later first (ih fun entry member => fresh entry (List.mem_cons_of_mem _ member))

/-- Things under other names are put beside it. -/
theorem Inserted.put {old new : Named α} (inserted : Inserted name thing old new)
    (differs : other ≠ name) :
    Inserted name thing (old.put other held) (new.put other held) := by
  have behind : ¬(name == other) = true := by
    rw [beq_iff_eq]
    exact differs.symm
  induction inserted with
  | here rest =>
    rw [Named.put, if_neg behind]
    exact .here _
  | later first inserted ih =>
    rw [Named.put, Named.put]
    split
    · exact .later _ inserted
    · exact .later _ ih

end Named

namespace KeyPath

/-- A name at the top is read as a path that starts with a name. -/
theorem ofName_eq_cons (text : String) : ∃ name rest, ofName text = .name name :: rest := by
  rw [ofName]
  cases read : parse? text with
  | none => exact ⟨text, [], rfl⟩
  | some path =>
    rw [parse?] at read
    split at read
    · cases read
    · obtain ⟨rest, _, rfl⟩ := Option.map_eq_some_iff.mp read
      exact ⟨_, rest, rfl⟩

/-- What is set at the end of the path leaves the setting `key` of a section alone: it is in another
section, or under another name in this one. -/
def Spares (section_ key : String) : KeyPath → Prop
  | .name outer :: rest =>
    outer ≠ section_ ∨ ∃ inner deeper, rest = .name inner :: deeper ∧ inner ≠ key
  | _ => False

/-- The path of a setting does not spare it. -/
theorem not_spares_self {section_ key : String} :
    ¬Spares section_ key [.name section_, .name key] := by
  rintro (differs | ⟨inner, deeper, same, differs⟩)
  · exact differs rfl
  · cases same
    exact differs rfl

end KeyPath

namespace ConfigValue

variable {section_ key : String} {value : ConfigValue}

@[simp] theorem get?_table (entries : Named ConfigValue) (name : String) :
    (table entries).get? name = entries.lookup name := rfl

/-- A value that is put under a name is found there, and nothing else at the top has changed. -/
theorem get?_put (config new : ConfigValue) (name other : String) (rest : KeyPath) :
    (config.put (.name name :: rest) new).get? other =
      if other = name then some (((config.get? name).getD absent).put rest new)
      else config.get? other := by
  rw [put, get?_table, Named.lookup_put]
  rfl

/-- A configuration is a table. -/
def IsTable (config : ConfigValue) : Prop :=
  ∃ entries, config = table entries

theorem isTable_put (config new : ConfigValue) (name : String) (rest : KeyPath) :
    (config.put (.name name :: rest) new).IsTable :=
  ⟨_, by rw [put]⟩

theorem addSource_cons (config : ConfigValue) (entry : String × ConfigValue)
    (source : Named ConfigValue) :
    config.addSource (entry :: source) =
      (config.put (KeyPath.ofName entry.1) entry.2).addSource source := rfl

theorem isTable_addSource {config : ConfigValue} (isTable : config.IsTable)
    (source : Named ConfigValue) : (config.addSource source).IsTable := by
  induction source generalizing config with
  | nil => exact isTable
  | cons entry source ih =>
    obtain ⟨name, rest, path⟩ := KeyPath.ofName_eq_cons entry.1
    rw [addSource_cons, path]
    exact ih (isTable_put config entry.2 name rest)

/-- The second configuration has the value under `key` in a section, and is the same as the first
everywhere else.  Whatever was in the place of the section and is no table is gone. -/
structure SetTo (section_ key : String) (value old new : ConfigValue) : Prop where
  others : ∀ name, name ≠ section_ → new.get? name = old.get? name
  inside : ∃ entries, new.get? section_ = some (table entries) ∧ entries.lookup key = some value ∧
    ∀ name, name ≠ key → entries.lookup name = ((old.get? section_).getD absent).get? name

/-- Putting a value that is no table sets it. -/
theorem setTo_put (config : ConfigValue) (plain : ∀ old : ConfigValue, old.merge value = value) :
    SetTo section_ key value config (config.put [.name section_, .name key] value) := by
  constructor
  · intro name differs
    rw [get?_put, if_neg differs]
  · have there : (config.put [.name section_, .name key] value).get? section_ =
        some (((config.get? section_).getD absent).put [.name key] value) := by
      rw [get?_put, if_pos rfl]
    rw [there, put]
    refine ⟨_, rfl, ?_, ?_⟩
    · rw [Named.lookup_put, if_pos rfl, put, plain]
    · intro name differs
      rw [Named.lookup_put, if_neg differs]
      rfl

/-- Of two values that are set in the same configuration, the one is set in the place of the
other. -/
theorem SetTo.replaced {other old new new' : ConfigValue}
    (first : SetTo section_ key other old new) (second : SetTo section_ key value old new') :
    SetTo section_ key value new new' := by
  obtain ⟨entries, inside, _, rest⟩ := first.inside
  obtain ⟨entries', inside', found, rest'⟩ := second.inside
  constructor
  · intro name differs
    rw [second.others name differs, first.others name differs]
  · refine ⟨entries', inside', found, ?_⟩
    intro name differs
    rw [inside, Option.getD_some, get?_table, rest name differs, rest' name differs]

/-- What spares the setting can be put into both configurations. -/
theorem SetTo.put {old new : ConfigValue} (set : SetTo section_ key value old new)
    {path : KeyPath} (spares : path.Spares section_ key) (added : ConfigValue) :
    SetTo section_ key value (old.put path added) (new.put path added) := by
  obtain ⟨entries, inside, found, rest⟩ := set.inside
  match path, spares with
  | .name outer :: deeper, spares =>
    by_cases within : outer = section_
    · -- Inside the section, only what is under the name that the path goes on with changes.
      subst within
      obtain ⟨inner, deeper, rfl, differs⟩ := spares.resolve_left fun other => other rfl
      constructor
      · intro name other
        rw [get?_put, get?_put, if_neg other, if_neg other, set.others name other]
      · have there : (new.put (.name outer :: .name inner :: deeper) added).get? outer =
            some ((table entries).put (.name inner :: deeper) added) := by
          rw [get?_put, if_pos rfl, inside]
          rfl
        rw [there, ConfigValue.put]
        refine ⟨_, rfl, ?_, ?_⟩
        · rw [Named.lookup_put, if_neg differs.symm]
          exact found
        · intro name other
          rw [get?_put, if_pos rfl, Option.getD_some, get?_put, Named.lookup_put, get?_table,
            rest inner differs]
          split
          · rfl
          · exact rest name other
    · constructor
      · intro name other
        rw [get?_put, get?_put]
        split
        · rename_i same
          rw [set.others outer within]
        · exact set.others name other
      · rw [get?_put, if_neg (Ne.symm within), get?_put, if_neg (Ne.symm within)]
        exact set.inside

theorem SetTo.addSource {old new : ConfigValue} (set : SetTo section_ key value old new)
    {source : Named ConfigValue}
    (spares : ∀ entry ∈ source, (KeyPath.ofName entry.1).Spares section_ key) :
    SetTo section_ key value (old.addSource source) (new.addSource source) := by
  induction source generalizing old new with
  | nil => exact set
  | cons entry source ih =>
    rw [addSource_cons, addSource_cons]
    exact ih (set.put (spares entry List.mem_cons_self) entry.2)
      fun other member => spares other (List.mem_cons_of_mem _ member)

/-- One value more in a source is set in the configuration, if nothing else in the source reaches
it. -/
theorem setTo_of_inserted {name : String} {old new : Named ConfigValue}
    (inserted : Named.Inserted name value old new) (config : ConfigValue)
    (path : KeyPath.ofName name = [.name section_, .name key])
    (plain : ∀ old : ConfigValue, old.merge value = value)
    (spares : ∀ entry ∈ old, (KeyPath.ofName entry.1).Spares section_ key) :
    SetTo section_ key value (config.addSource old) (config.addSource new) := by
  induction inserted generalizing config with
  | here rest =>
    rw [addSource_cons, path]
    exact (setTo_put config plain).addSource spares
  | later first inserted ih =>
    rw [addSource_cons, addSource_cons]
    exact ih _ fun entry member => spares entry (List.mem_cons_of_mem _ member)

end ConfigValue

namespace Environment

theorem source_concat (environment : Variables) (variable_ : String × String) :
    source (environment ++ [variable_]) =
      match pathOf? variable_.1 with
      | some path => (source environment).put path (valueOf variable_.2)
      | none => source environment := by
  rw [source, List.foldl_append]
  rfl

/-- What an environment sets, its variables set. -/
theorem mem_source {environment : Variables} {entry : String × ConfigValue}
    (member : entry ∈ source environment) :
    ∃ variable_ ∈ environment, pathOf? variable_.1 = some entry.1 := by
  induction environment using List.reverseRecOn with
  | nil => cases member
  | append_singleton environment variable_ ih =>
    have earlier (member : entry ∈ source environment) :
        ∃ other ∈ environment ++ [variable_], pathOf? other.1 = some entry.1 := by
      obtain ⟨other, among, path⟩ := ih member
      exact ⟨other, List.mem_append_left _ among, path⟩
    rw [source_concat] at member
    cases path : pathOf? variable_.1 with
    | none =>
      rw [path] at member
      exact earlier member
    | some set =>
      rw [path] at member
      rcases Named.mem_put member with same | member
      · refine ⟨variable_, List.mem_append_right _ List.mem_cons_self, ?_⟩
        rw [path, same]
      · exact earlier member

/-- One variable more is one value more, if no other variable sets the same. -/
theorem inserted_source {before after : Variables} {name path text : String}
    (sets : pathOf? name = some path)
    (others : ∀ variable_ ∈ before ++ after, pathOf? variable_.1 ≠ some path) :
    Named.Inserted path (valueOf text) (source (before ++ after))
      (source (before ++ (name, text) :: after)) := by
  induction after using List.reverseRecOn with
  | nil =>
    rw [List.append_nil, source_concat, sets]
    apply Named.inserted_put
    intro entry member same
    obtain ⟨variable_, among, set⟩ := mem_source member
    rw [same] at set
    exact others variable_ (List.mem_append_left _ among) set
  | append_singleton after last ih =>
    have inserted := ih fun variable_ member => others variable_ (by
      rw [← List.append_assoc]
      exact List.mem_append_left _ member)
    have other := others last (by simp)
    rw [← List.cons_append, ← List.append_assoc, ← List.append_assoc, source_concat, source_concat]
    cases set : pathOf? last.1 with
    | none => exact inserted
    | some path' =>
      rw [set] at other
      exact inserted.put fun same => other (congrArg some same)

end Environment

end TrackBrowser
