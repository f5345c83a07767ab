/-
Module: TrackBrowser.Library.OsText
Purpose: Names and paths as the operating system keeps them, which need not be text.
-/

/-!
To the operating system a name is a sequence of bytes, and nothing says that they are valid UTF-8.
A name is held here as it reads: as characters, with the bytes that belong to no character in
between.  A name of characters alone is text.  Wherever text is wanted of another name, there is
none, or a mark stands in for what is no character.
-/

namespace TrackBrowser

/-- What a name reads as in one place: a character, or bytes that belong to none.  These are a byte
that begins no character, or the beginning of one that breaks off. -/
inductive OsUnit where
  | char (c : Char)
  | malformed (bytes : List UInt8)
  deriving DecidableEq, Repr, Inhabited

/-- A name or a path. -/
abbrev OsText := List OsUnit

namespace OsText

/-- Text as a name. -/
def ofText (text : String) : OsText :=
  text.toList.map .char

instance : Coe String OsText := ⟨ofText⟩

/-- The characters of a name that has nothing but characters. -/
def chars? : OsText → Option (List Char)
  | [] => some []
  | .char c :: rest => (chars? rest).map (c :: ·)
  | .malformed _ :: _ => none

/-- The text that a name is, if it is text. -/
def text? (name : OsText) : Option String :=
  (chars? name).map String.ofList

/-- A name as it is shown, with a mark for what is no character. -/
def lossy (name : OsText) : String :=
  String.ofList (name.map fun
    | .char c => c
    | .malformed _ => '\uFFFD')

/-! ### Names that are text -/

/-- A name is text. -/
def IsText (name : OsText) : Prop :=
  ∃ text : String, name = ofText text

theorem chars?_eq_some_iff {name : OsText} {chars : List Char} :
    chars? name = some chars ↔ name = chars.map .char := by
  induction name generalizing chars with
  | nil => simp [chars?, eq_comm]
  | cons unit rest ih =>
    cases unit with
    | char c =>
      constructor
      · intro read
        obtain ⟨others, after, rfl⟩ := Option.map_eq_some_iff.mp read
        rw [ih.mp after, List.map_cons]
      · intro whole
        cases chars with
        | nil => cases whole
        | cons first others =>
          obtain ⟨same, after⟩ := List.cons.inj whole
          cases same
          exact Option.map_eq_some_iff.mpr ⟨others, ih.mpr after, rfl⟩
    | malformed bytes => cases chars <;> simp [chars?]

/-- A name is text if it is made from that text. -/
theorem text?_eq_some_iff {name : OsText} {text : String} :
    name.text? = some text ↔ name = ofText text := by
  rw [text?, Option.map_eq_some_iff]
  constructor
  · rintro ⟨chars, read, rfl⟩
    rw [ofText, String.toList_ofList, chars?_eq_some_iff.mp read]
  · rintro rfl
    exact ⟨text.toList, chars?_eq_some_iff.mpr rfl, String.ofList_toList⟩

@[simp] theorem text?_ofText (text : String) : (ofText text).text? = some text :=
  text?_eq_some_iff.mpr rfl

/-- Text is shown as it is. -/
@[simp] theorem lossy_ofText (text : String) : (ofText text).lossy = text := by
  rw [lossy, ofText, List.map_map]
  exact (congrArg String.ofList (List.map_id _)).trans String.ofList_toList

/-- Names that are text are told apart by what is shown of them. -/
theorem IsText.eq_of_lossy_eq {name other : OsText} (text : name.IsText) (too : other.IsText)
    (same : name.lossy = other.lossy) : name = other := by
  obtain ⟨first, rfl⟩ := text
  obtain ⟨second, rfl⟩ := too
  rw [lossy_ofText, lossy_ofText] at same
  rw [same]

theorem IsText.append {name other : OsText} (text : name.IsText) (too : other.IsText) :
    (name ++ other).IsText := by
  obtain ⟨first, rfl⟩ := text
  obtain ⟨second, rfl⟩ := too
  exact ⟨first ++ second, by simp [ofText]⟩

/-- Names that are text are joined to a text. -/
theorem IsText.intercalate {separator : OsText} (between : separator.IsText) {names : List OsText}
    (text : ∀ name ∈ names, name.IsText) : IsText (List.intercalate separator names) := by
  induction names with
  | nil => exact ⟨"", rfl⟩
  | cons name names ih =>
    have first := text name List.mem_cons_self
    have rest := ih fun later member => text later (List.mem_cons_of_mem name member)
    cases names with
    | nil => simpa using first
    | cons next names =>
      rw [List.intercalate_cons_cons]
      exact (first.append between).append rest

/-! ### Names as they are shown -/

theorem lossy_append (name other : OsText) : (name ++ other).lossy = name.lossy ++ other.lossy := by
  rw [lossy, List.map_append, String.ofList_append]
  rfl

/-- The characters of a name are shown, and beside them nothing but the mark. -/
theorem mem_lossy_iff {name : OsText} {c : Char} (no_mark : c ≠ '\uFFFD') :
    c ∈ name.lossy.toList ↔ .char c ∈ name := by
  rw [lossy, String.toList_ofList, List.mem_map]
  constructor
  · rintro ⟨unit, member, shown⟩
    cases unit with
    | char => rwa [← shown]
    | malformed => exact absurd shown.symm no_mark
  · intro member
    exact ⟨.char c, member, rfl⟩

end OsText

end TrackBrowser
