/-
Module: TrackBrowser.Proofs.Settings.FromEnvironment
Purpose: What the settings that are texts get from environment variables.
-/
import TrackBrowser.Proofs.Config.Overlay
import TrackBrowser.Proofs.PlainNumerals
import TrackBrowser.Settings.Load
import Mathlib.Data.Option.Basic

/-!
The text of a variable stands for a truth value or a number where it is one, and a setting that
wants a text gets the text of that value.  So a variable for such a setting arrives as it is unless
its text is another spelling of a truth value or of a number.  All other settings stay as they are,
except for those of a section that is given as a list: the list gives way to the variable.
-/

namespace TrackBrowser

namespace Environment

/-- What a setting gets that wants a text and is set by a variable. -/
def asText (text : String) : String :=
  (valueOf text).toText?.getD text

/-- The texts that arrive as they are: those that are no other spelling of a truth value or of a
number. -/
def Verbatim (text : String) : Prop :=
  match valueOf text with
  | .flag _ => text = "true" ∨ text = "false"
  | .integer _ => Text.PlainInteger text.toList
  | .real number => number.text = text
  | _ => True

/-- The text of a variable is a word, an integer, another number, or nothing but a text. -/
theorem valueOf_cases (text : String) :
    (∃ value, flag? text = some value ∧ valueOf text = .flag value) ∨
      (∃ value, Numeral.integer? text.toList = some value ∧ valueOf text = .integer value) ∨
      (∃ number, valueOf text = .real number) ∨ valueOf text = .text text := by
  rw [valueOf]
  cases flag? text with
  | some value => exact .inl ⟨value, rfl, rfl⟩
  | none =>
    cases Numeral.integer? text.toList with
    | some value => exact .inr (.inl ⟨value, rfl, rfl⟩)
    | none =>
      cases Numeral.double? text.toList with
      | some number => exact .inr (.inr (.inl ⟨number, rfl⟩))
      | none => exact .inr (.inr (.inr rfl))

/-- The value of a variable is none that is merged. -/
theorem merge_valueOf (text : String) (old : ConfigValue) :
    old.merge (valueOf text) = valueOf text := by
  rcases valueOf_cases text with ⟨_, _, is⟩ | ⟨_, _, is⟩ | ⟨_, is⟩ | is <;> rw [is] <;> rfl

/-- The value of a variable can always be had as a text. -/
theorem toText?_valueOf (text : String) : (valueOf text).toText? = some (asText text) := by
  rw [asText]
  rcases valueOf_cases text with ⟨_, _, is⟩ | ⟨_, _, is⟩ | ⟨_, is⟩ | is <;> rw [is] <;> rfl

theorem asText_eq_iff (text : String) : asText text = text ↔ Verbatim text := by
  rw [asText, Verbatim]
  rcases valueOf_cases text with ⟨value, word, is⟩ | ⟨value, numeral, is⟩ | ⟨number, is⟩ | is
  · rw [is]
    change (if value then "true" else "false") = text ↔ text = "true" ∨ text = "false"
    constructor
    · rintro rfl
      cases value
      · exact .inr rfl
      · exact .inl rfl
    · have true_word : flag? "true" = some true := by decide +kernel
      have false_word : flag? "false" = some false := by decide +kernel
      rintro (rfl | rfl)
      · rw [Option.some.inj (word.symm.trans true_word)]
        rfl
      · rw [Option.some.inj (word.symm.trans false_word)]
        rfl
  · rw [is, ← Numeral.decimalInt_eq_iff numeral]
    exact String.toList_inj.symm
  · rw [is]
    rfl
  · rw [is]
    exact iff_of_true rfl trivial

end Environment

namespace ConfigValue

section Reading

variable {α : Type} {section_ key name : String} {position : Nat} {value old new : ConfigValue}
  {convert : ConfigValue → Option α} {default settings : α}

theorem read?_of_isTable {config : ConfigValue} (isTable : config.IsTable) :
    config.read? position name convert default =
      ((config.get? name).map convert).getD (some default) := by
  obtain ⟨entries, rfl⟩ := isTable
  have field : (table entries).field? position name = (table entries).get? name := rfl
  rw [read?, field]
  cases (table entries).get? name <;> rfl

/-- A list, whose items are the fields of a section by their positions. -/
def isList : ConfigValue → Bool
  | list _ => true
  | _ => false

/-- Sections that are not set are read as before. -/
theorem SetTo.read?_other (set : SetTo section_ key value old new) (isTable : old.IsTable)
    (isTable' : new.IsTable) (other : name ≠ section_) :
    new.read? position name convert default = old.read? position name convert default := by
  rw [read?_of_isTable isTable', read?_of_isTable isTable, set.others name other]

/-- The section with a new value is read as before with the new value put in, or as nothing but the
new value if it was a list. -/
theorem SetTo.read?_section (put : α → α) (set : SetTo section_ key value old new)
    (isTable : old.IsTable) (isTable' : new.IsTable)
    (fields : ∀ config settings, convert config = some settings → config.holdsFields = true)
    (empty : convert (table []) = some default)
    (puts : ∀ {entries held : Named ConfigValue} {settings : α},
      entries.lookup key = some value →
      (∀ other, other ≠ key → entries.lookup other = held.lookup other) →
      convert (table held) = some settings → convert (table entries) = some (put settings))
    (read : old.read? position section_ convert default = some settings) :
    new.read? position section_ convert default =
      some (put (if ((old.get? section_).getD absent).isList then default else settings)) := by
  obtain ⟨entries, inside, found, rest⟩ := set.inside
  rw [read?_of_isTable isTable', inside]
  change convert (table entries) = _
  rw [read?_of_isTable isTable] at read
  cases held : old.get? section_ with
  | none =>
    rw [held] at read rest
    rw [← Option.some.inj read]
    exact puts found rest empty
  | some config =>
    rw [held] at read rest
    match config, fields config settings read with
    | list items, _ => exact puts found rest empty
    | table entries, _ => exact puts found rest read

end Reading

/-- A section holds the settings of lists if each of them can be read from it. -/
theorem toListSettings?_eq_some_iff {config : ConfigValue} {settings : ListSettings} :
    config.toListSettings? = some settings ↔
      config.holdsFields = true ∧
        config.read? 0 "scroll_mode" toScrollMode? .normal = some settings.scrollMode ∧
        config.read? 1 "scrolloff" toCount? 2 = some settings.scrolloff ∧
        config.read? 2 "wrap" toFlag? false = some settings.wrap ∧
        config.read? 3 "case_sensitive_sort" toFlag? false = some settings.caseSensitiveSort ∧
        config.read? 4 "regex_search" toFlag? false = some settings.regexSearch ∧
        config.read? 5 "sort" toTexts? ({} : ListSettings).sort = some settings.sort ∧
        config.read? 6 "columns" toFields? ({} : ListSettings).columns = some settings.columns ∧
        config.read? 7 "column_separator" toText? " | " = some settings.columnSeparator := by
  simp only [toListSettings?, Option.bind_eq_bind, Option.bind_eq_some_iff, Option.pure_def,
    Option.some.injEq, Option.guard_eq_some', exists_const]
  constructor
  · rintro ⟨fits, _, mode, _, margin, _, wrap, _, exact_, _, regex, _, sort, _, columns, _,
      separator, rfl⟩
    exact ⟨fits, mode, margin, wrap, exact_, regex, sort, columns, separator⟩
  · rintro ⟨fits, mode, margin, wrap, exact_, regex, sort, columns, separator⟩
    exact ⟨fits, _, mode, _, margin, _, wrap, _, exact_, _, regex, _, sort, _, columns, _,
      separator, rfl⟩

theorem toScreenSettings?_eq_some_iff {config : ConfigValue} {settings : ScreenSettings} :
    config.toScreenSettings? = some settings ↔
      config.holdsFields = true ∧
        config.read? 0 "header_text" toText? ({} : ScreenSettings).headerText =
          some settings.headerText := by
  simp only [toScreenSettings?, Option.bind_eq_bind, Option.bind_eq_some_iff, Option.pure_def,
    Option.some.injEq, Option.guard_eq_some', exists_const]
  constructor
  · rintro ⟨fits, _, header, rfl⟩
    exact ⟨fits, header⟩
  · rintro ⟨fits, header⟩
    exact ⟨fits, _, header, rfl⟩

theorem toSettings?_eq_some_iff {config : ConfigValue} {settings : Settings} :
    config.toSettings? = some settings ↔
      config.read? 0 "list" toListSettings? {} = some settings.list ∧
        config.read? 1 "library" toLibrarySettings? {} = some settings.library ∧
        config.read? 2 "ui" toScreenSettings? {} = some settings.screen ∧
        config.read? 3 "log" toLogSettings? {} = some settings.log := by
  simp only [toSettings?, Option.bind_eq_bind, Option.bind_eq_some_iff, Option.pure_def,
    Option.some.injEq]
  constructor
  · rintro ⟨_, list, _, library, _, screen, _, log, rfl⟩
    exact ⟨list, library, screen, log⟩
  · rintro ⟨list, library, screen, log⟩
    exact ⟨_, list, _, library, _, screen, _, log, rfl⟩

/-- Lists are read with the new separator. -/
theorem toListSettings?_puts {value : ConfigValue} {text : String}
    (told : value.toText? = some text) {entries held : Named ConfigValue}
    {settings : ListSettings} (found : entries.lookup "column_separator" = some value)
    (rest : ∀ other, other ≠ "column_separator" → entries.lookup other = held.lookup other)
    (read : (table held).toListSettings? = some settings) :
    (table entries).toListSettings? = some { settings with columnSeparator := text } := by
  have others (position : Nat) {α : Type} {convert : ConfigValue → Option α} {default : α}
      {name : String} (other : name ≠ "column_separator") :
      (table entries).read? position name convert default =
        (table held).read? position name convert default := by
    rw [read?_of_isTable ⟨_, rfl⟩, read?_of_isTable ⟨_, rfl⟩, get?_table, get?_table,
      rest name other]
  obtain ⟨_, mode, margin, wrap, exact_, regex, sort, columns, _⟩ :=
    toListSettings?_eq_some_iff.mp read
  rw [toListSettings?_eq_some_iff, others 0 (by decide), others 1 (by decide),
    others 2 (by decide), others 3 (by decide), others 4 (by decide), others 5 (by decide),
    others 6 (by decide)]
  refine ⟨rfl, mode, margin, wrap, exact_, regex, sort, columns, ?_⟩
  rw [read?_of_isTable ⟨_, rfl⟩, get?_table, found]
  exact told

/-- The screen is read with the new header. -/
theorem toScreenSettings?_puts {value : ConfigValue} {text : String}
    (told : value.toText? = some text) {entries : Named ConfigValue}
    (found : entries.lookup "header_text" = some value) :
    (table entries).toScreenSettings? = some { headerText := text } := by
  rw [toScreenSettings?_eq_some_iff]
  refine ⟨rfl, ?_⟩
  rw [read?_of_isTable ⟨_, rfl⟩, get?_table, found]
  exact told

end ConfigValue

/-- The settings that are texts and that any text fits. -/
inductive TextSetting where
  | headerText
  | columnSeparator

namespace TextSetting

/-- The section of a setting. -/
def section_ : TextSetting → String
  | headerText => "ui"
  | columnSeparator => "list"

/-- The name of a setting in its section. -/
def key : TextSetting → String
  | headerText => "header_text"
  | columnSeparator => "column_separator"

/-- The variable of a setting. -/
def variableName : TextSetting → String
  | headerText => "TRACKLIST__UI__HEADER_TEXT"
  | columnSeparator => "TRACKLIST__LIST__COLUMN_SEPARATOR"

/-- The path that the variable of a setting stands for. -/
def path : TextSetting → String
  | headerText => "ui.header_text"
  | columnSeparator => "list.column_separator"

/-- Gives a setting a text. -/
def set (setting : TextSetting) (settings : Settings) (text : String) : Settings :=
  match setting with
  | headerText => { settings with screen := { settings.screen with headerText := text } }
  | columnSeparator => { settings with list := { settings.list with columnSeparator := text } }

/-- Gives the whole section of a setting its defaults. -/
def resetSection (setting : TextSetting) (settings : Settings) : Settings :=
  match setting with
  | headerText => { settings with screen := {} }
  | columnSeparator => { settings with list := {} }

/-- Whether the section of a setting is given as a list, with the settings by their positions. -/
def isPositional (setting : TextSetting) (config : ConfigValue) : Bool :=
  ((config.get? setting.section_).getD .absent).isList

/-- A variable leaves a setting alone: it sets nothing, or something else. -/
def SparedBy (setting : TextSetting) (name : String) : Prop :=
  ∀ path, Environment.pathOf? name = some path →
    (KeyPath.ofName path).Spares setting.section_ setting.key

theorem pathOf?_variableName (setting : TextSetting) :
    Environment.pathOf? setting.variableName = some setting.path := by
  have small : Unicode.lowerText setting.variableName.toList =
      match setting with
      | headerText => "tracklist__ui__header_text".toList
      | columnSeparator => "tracklist__list__column_separator".toList := by
    cases setting <;> decide +kernel
  rw [Environment.pathOf?, small]
  cases setting <;> decide +kernel

theorem ofName_path (setting : TextSetting) :
    KeyPath.ofName setting.path = [.name setting.section_, .name setting.key] := by
  cases setting <;>
    simp [path, section_, key, KeyPath.ofName, KeyPath.parse?, KeyPath.steps?, KeyPath.isNameChar]

theorem set_inj {setting : TextSetting} {settings others : Settings} {text told : String}
    (same : setting.set settings text = setting.set others told) : text = told := by
  cases setting
  · exact congrArg (·.screen.headerText) same
  · exact congrArg (·.list.columnSeparator) same

/-- The checks do not look at the settings that are texts. -/
theorem problem?_set (setting : TextSetting) (settings : Settings) (text : String) :
    (setting.set settings text).problem? = settings.problem? := by
  cases setting <;> rfl

/-- Settings that pass the checks pass them with a section of defaults. -/
theorem problem?_resetSection (setting : TextSetting) {settings : Settings}
    (fine : settings.problem? = none) : (setting.resetSection settings).problem? = none := by
  cases setting with
  | headerText => exact fine
  | columnSeparator =>
    have known : LogSettings.isLevel settings.log.level = true := by
      rw [Settings.problem?] at fine
      split at fine
      · cases fine
      · split at fine
        · cases fine
        · split at fine
          · assumption
          · cases fine
    have keys : ({} : Settings).unknownSortKey? = none := by decide +kernel
    have same : (columnSeparator.resetSection settings).unknownSortKey? =
        ({} : Settings).unknownSortKey? := rfl
    rw [Settings.problem?, same, keys, resetSection, known]
    rfl

/-- The settings of a configuration with a new value for a setting are the ones without it, with the
text of the value put in. -/
theorem toSettings?_setTo {setting : TextSetting} {value old new : ConfigValue} {text : String}
    {settings : Settings}
    (set : ConfigValue.SetTo setting.section_ setting.key value old new) (isTable : old.IsTable)
    (isTable' : new.IsTable) (told : value.toText? = some text)
    (read : old.toSettings? = some settings) :
    new.toSettings? = some (setting.set
      (if setting.isPositional old then setting.resetSection settings else settings) text) := by
  obtain ⟨list, library, screen, log⟩ := ConfigValue.toSettings?_eq_some_iff.mp read
  rw [ConfigValue.toSettings?_eq_some_iff]
  cases setting with
  | headerText =>
    have list' := (set.read?_other isTable isTable' (by decide)).trans list
    have library' := (set.read?_other isTable isTable' (by decide)).trans library
    have log' := (set.read?_other isTable isTable' (by decide)).trans log
    have screen' := set.read?_section (fun _ => { headerText := text }) isTable isTable'
      (fun _ _ fits => (ConfigValue.toScreenSettings?_eq_some_iff.mp fits).1) rfl
      (fun found _ _ => ConfigValue.toScreenSettings?_puts told found) screen
    split
    · exact ⟨list', library', screen', log'⟩
    · exact ⟨list', library', screen', log'⟩
  | columnSeparator =>
    have library' := (set.read?_other isTable isTable' (by decide)).trans library
    have screen' := (set.read?_other isTable isTable' (by decide)).trans screen
    have log' := (set.read?_other isTable isTable' (by decide)).trans log
    have list' := set.read?_section (fun held => { held with columnSeparator := text })
      isTable isTable' (fun _ _ fits => (ConfigValue.toListSettings?_eq_some_iff.mp fits).1) rfl
      (fun found rest fits => ConfigValue.toListSettings?_puts told found rest fits) list
    rw [isPositional]
    split
    · rename_i positional
      rw [if_pos positional] at list'
      exact ⟨list', library', screen', log'⟩
    · rename_i named
      rw [if_neg named] at list'
      exact ⟨list', library', screen', log'⟩

end TextSetting

namespace Settings

/-- What a file sets. -/
def fileSource? (file : Option String) : Option (Named ConfigValue) :=
  match file with
  | none => some []
  | some text => Toml.parse? text

/-- The file is laid over nothing, and the environment over the file. -/
theorem configOf?_eq (file : Option String) (environment : Environment.Variables) :
    configOf? file environment = (fileSource? file).map fun fromFile =>
      ((ConfigValue.table []).addSource fromFile).addSource (Environment.source environment) := by
  cases file with
  | none => rfl
  | some text =>
    change (Toml.parse? text).bind _ = (Toml.parse? text).map _
    cases Toml.parse? text <;> rfl

theorem isTable_configOf? {file : Option String} {environment : Environment.Variables}
    {config : ConfigValue} (given : configOf? file environment = some config) : config.IsTable := by
  rw [configOf?_eq] at given
  obtain ⟨fromFile, _, rfl⟩ := Option.map_eq_some_iff.mp given
  exact ConfigValue.isTable_addSource (ConfigValue.isTable_addSource ⟨[], rfl⟩ fromFile) _

/-- Whether there is a configuration is up to the file. -/
theorem exists_configOf? {file : Option String} {environment : Environment.Variables}
    {config : ConfigValue} (given : configOf? file environment = some config)
    (others : Environment.Variables) : ∃ other, configOf? file others = some other := by
  rw [configOf?_eq] at given ⊢
  obtain ⟨fromFile, read, _⟩ := Option.map_eq_some_iff.mp given
  exact ⟨_, by rw [read, Option.map_some]⟩

/-- Settings are used as they were given if they can be read and pass the checks. -/
theorem load_eq_iff {file : Option String} {environment : Environment.Variables}
    {settings : Settings} :
    load file environment = (settings, none) ↔
      read? file environment = some settings ∧ settings.problem? = none := by
  rw [load]
  constructor
  · intro given
    split at given
    · cases congrArg Prod.snd given
    · rename_i others read
      split at given
      · cases congrArg Prod.snd given
      · rename_i fine
        obtain rfl : others = settings := congrArg Prod.fst given
        exact ⟨read, fine⟩
  · rintro ⟨read, fine⟩
    rw [read]
    simp only [fine]

end Settings

namespace TextSetting

/-- Whether the section of a setting is given as a list by a file and an environment. -/
def isGivenByPosition (setting : TextSetting) (file : Option String)
    (environment : Environment.Variables) : Bool :=
  (Settings.configOf? file environment).any setting.isPositional

variable {setting : TextSetting} {file : Option String} {before after : Environment.Variables}
  {settings : Settings}

/-- One variable more sets its value in the configuration, if no other variable reaches it. -/
theorem setTo_configOf? (text : String)
    (spared : ∀ other ∈ before ++ after, setting.SparedBy other.1) {old : ConfigValue}
    (given : Settings.configOf? file (before ++ after) = some old) :
    ∃ new, Settings.configOf? file (before ++ (setting.variableName, text) :: after) = some new ∧
      ConfigValue.SetTo setting.section_ setting.key (Environment.valueOf text) old new := by
  rw [Settings.configOf?_eq] at given ⊢
  obtain ⟨fromFile, read, rfl⟩ := Option.map_eq_some_iff.mp given
  rw [read]
  refine ⟨_, rfl, ?_⟩
  have others : ∀ other ∈ before ++ after, Environment.pathOf? other.1 ≠ some setting.path := by
    intro other among same
    have reaches := spared other among _ same
    rw [setting.ofName_path] at reaches
    exact KeyPath.not_spares_self reaches
  refine ConfigValue.setTo_of_inserted
    (Environment.inserted_source setting.pathOf?_variableName others) _ setting.ofName_path
    (Environment.merge_valueOf text) ?_
  intro entry member
  obtain ⟨other, among, path⟩ := Environment.mem_source member
  exact spared other among _ path

/-- Where a configuration has a new value for a setting, the settings that were used have its text
put in. -/
theorem load_setTo {text : String} {environment others : Environment.Variables}
    {old new : ConfigValue}
    (set : ConfigValue.SetTo setting.section_ setting.key (Environment.valueOf text) old new)
    (config : Settings.configOf? file environment = some old)
    (config' : Settings.configOf? file others = some new)
    (given : Settings.load file environment = (settings, none)) :
    Settings.load file others = (setting.set
      (if setting.isPositional old then setting.resetSection settings else settings)
      (Environment.asText text), none) := by
  obtain ⟨read, fine⟩ := Settings.load_eq_iff.mp given
  rw [Settings.read?, config] at read
  rw [Settings.load_eq_iff, problem?_set]
  constructor
  · rw [Settings.read?, config']
    exact toSettings?_setTo set (Settings.isTable_configOf? config)
      (Settings.isTable_configOf? config') (Environment.toText?_valueOf text) read
  · split
    · exact setting.problem?_resetSection fine
    · exact fine

/-- Settings that are used without a variable for a text setting are used with it. -/
theorem load_added (text : String) (spared : ∀ other ∈ before ++ after, setting.SparedBy other.1)
    (given : Settings.load file (before ++ after) = (settings, none)) :
    Settings.load file (before ++ (setting.variableName, text) :: after) =
      (setting.set (if setting.isGivenByPosition file (before ++ after) then
        setting.resetSection settings else settings) (Environment.asText text), none) := by
  obtain ⟨old, config, _⟩ := Option.bind_eq_some_iff.mp (Settings.load_eq_iff.mp given).1
  obtain ⟨new, config', set⟩ := setTo_configOf? text spared config
  rw [isGivenByPosition, config]
  exact load_setTo set config config' given

/-- Settings that are used with one text for a setting are used with any other. -/
theorem load_replaced (text : String) {other : String}
    (spared : ∀ other ∈ before ++ after, setting.SparedBy other.1)
    (given : Settings.load file (before ++ (setting.variableName, other) :: after) =
      (settings, none)) :
    Settings.load file (before ++ (setting.variableName, text) :: after) =
      (setting.set settings (Environment.asText text), none) := by
  obtain ⟨held, config, _⟩ := Option.bind_eq_some_iff.mp (Settings.load_eq_iff.mp given).1
  obtain ⟨old, bare⟩ := Settings.exists_configOf? config (before ++ after)
  obtain ⟨held', again, first⟩ := setTo_configOf? other spared bare
  obtain ⟨new, config', second⟩ := setTo_configOf? text spared bare
  obtain rfl : held = held' := Option.some.inj (config.symm.trans again)
  -- The section holds the other text under its name, so it is no list.
  have named : setting.isPositional held = false := by
    obtain ⟨entries, inside, _⟩ := first.inside
    rw [isPositional, inside]
    rfl
  have loaded := load_setTo (first.replaced second) config config' given
  rw [named] at loaded
  exact loaded

/-- Settings that are used without a variable for a text setting are used with it.  It changes that
setting alone, unless the settings of its section are given by their positions: those fall back to
the defaults.  So the variable arrives as it is if and only if its text is no other spelling of a
truth value or of a number, and there is nothing to lose in its section.  And whatever text the
variable has, the settings are used if they are with some text. -/
theorem load_textVariable (setting : TextSetting) (file : Option String) (text : String)
    (spared : ∀ other ∈ before ++ after, setting.SparedBy other.1) :
    (∀ settings, Settings.load file (before ++ after) = (settings, none) →
      Settings.load file (before ++ (setting.variableName, text) :: after) =
          (setting.set (if setting.isGivenByPosition file (before ++ after) then
            setting.resetSection settings else settings) (Environment.asText text), none) ∧
        (Settings.load file (before ++ (setting.variableName, text) :: after) =
            (setting.set settings text, none) ↔
          Environment.Verbatim text ∧
            (setting.isGivenByPosition file (before ++ after) = true →
              setting.set (setting.resetSection settings) text = setting.set settings text))) ∧
      ∀ other settings,
        Settings.load file (before ++ (setting.variableName, other) :: after) = (settings, none) →
          Settings.load file (before ++ (setting.variableName, text) :: after) =
            (setting.set settings (Environment.asText text), none) := by
  refine ⟨fun settings given => ?_, fun other settings given => load_replaced text spared given⟩
  have loaded := load_added text spared given
  refine ⟨loaded, ?_⟩
  rw [loaded, ← Environment.asText_eq_iff]
  constructor
  · intro same
    have same := congrArg Prod.fst same
    have verbatim := set_inj same
    refine ⟨verbatim, fun positional => ?_⟩
    rw [if_pos positional, verbatim] at same
    exact same
  · rintro ⟨verbatim, nothing_lost⟩
    rw [verbatim]
    split
    · rename_i positional
      rw [nothing_lost positional]
    · rfl

/-- A file that sets the header and the wrapping of lists. -/
def headerFile : String :=
  "[list]\nwrap = true\n[ui]\nheader_text = \"from the file\"\n"

/-- The settings of that file and a variable for the margin. -/
def headerFileSettings : Settings :=
  { list := { wrap := true, scrolloff := 4 }, screen := { headerText := "from the file" } }

/-- A minus and digits arrive as they are, over the header of a file and beside other variables. -/
theorem load_textVariable_headerFile :
    (∀ other ∈ [("TRACKLIST__LIST__SCROLLOFF", "4")] ++ [("HOME", "/home")],
        headerText.SparedBy other.1) ∧
      Settings.load (some headerFile)
          ([("TRACKLIST__LIST__SCROLLOFF", "4")] ++ [("HOME", "/home")]) =
        (headerFileSettings, none) ∧
      Settings.load (some headerFile)
          ([("TRACKLIST__LIST__SCROLLOFF", "4")] ++
            ("TRACKLIST__UI__HEADER_TEXT", "-7") :: [("HOME", "/home")]) =
        (headerText.set headerFileSettings "-7", none) := by
  have spared : ∀ other ∈ [("TRACKLIST__LIST__SCROLLOFF", "4")] ++ [("HOME", "/home")],
      headerText.SparedBy other.1 := by
    have margin : headerText.SparedBy "TRACKLIST__LIST__SCROLLOFF" := by
      have path : Environment.pathOf? "TRACKLIST__LIST__SCROLLOFF" = some "list.scrolloff" := by
        decide +kernel
      have steps : KeyPath.ofName "list.scrolloff" = [.name "list", .name "scrolloff"] := by
        decide +kernel
      intro other same
      rw [path] at same
      rw [← Option.some.inj same, steps]
      exact .inl (by decide)
    have home : headerText.SparedBy "HOME" := by
      have path : Environment.pathOf? "HOME" = none := by decide +kernel
      intro other same
      rw [path] at same
      cases same
    intro other among
    rcases List.mem_cons.mp among with rfl | among
    · exact margin
    · rw [List.mem_singleton.mp among]
      exact home
  have given : Settings.load (some headerFile)
      ([("TRACKLIST__LIST__SCROLLOFF", "4")] ++ [("HOME", "/home")]) =
        (headerFileSettings, none) := by
    decide +kernel
  refine ⟨spared, given, ?_⟩
  have named : headerText.isGivenByPosition (some headerFile)
      ([("TRACKLIST__LIST__SCROLLOFF", "4")] ++ [("HOME", "/home")]) = false := by
    decide +kernel
  have arrives := ((load_textVariable headerText (some headerFile) "-7" spared).1 _ given).2
  rw [named] at arrives
  refine arrives.mpr ⟨?_, nofun⟩
  exact (Environment.asText_eq_iff _).mp (by decide +kernel)

/-- A header of digits loses the zeros in front of it if it comes from a variable, but not if it
comes from a file. -/
theorem not_load_textVariable_digits :
    Settings.load none [] = ({}, none) ∧
      Settings.load none [("TRACKLIST__UI__HEADER_TEXT", "007")] =
        ({ screen := { headerText := "7" } }, none) ∧
      Settings.load none [("TRACKLIST__UI__HEADER_TEXT", "007")] ≠
        (headerText.set {} "007", none) ∧
      Settings.load (some "[ui]\nheader_text = \"007\"\n") [] =
        (headerText.set {} "007", none) := by
  decide +kernel

end TextSetting

end TrackBrowser
