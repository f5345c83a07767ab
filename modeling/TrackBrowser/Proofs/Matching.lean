/-
Module: TrackBrowser.Proofs.Matching
Purpose: What a pattern that is no expression matches.
-/
import TrackBrowser.Matching

/-!
A pattern is looked for in a field, or compared with all of it, character by character in lower
case.  The empty pattern is the exception: it passes every value, not only the empty one.
`Passes` says this without a search, and matching a track is a matter of which fields of the mask
pass: one has to, or with negation one must not.
-/

namespace TrackBrowser

/-! ### Fields and masks -/

/-- Of all fields, the set of a single one selects that one for matching. -/
theorem Field.filter_mask (field : Field) : Field.all.filter field.mask.contains = [field] := by
  cases field <;> rfl

theorem Field.mem_all (field : Field) : field ∈ Field.all := by
  cases field <;> decide

theorem Field.contains_mask {field other : Field} :
    field.mask.contains other = true ↔ other = field := by
  have listed : other ∈ Field.all.filter field.mask.contains ↔ other = field := by
    rw [filter_mask, List.mem_singleton]
  rw [← listed, List.mem_filter, and_iff_right (mem_all other)]

namespace FieldMask

@[simp] theorem contains_union (left right : FieldMask) (field : Field) :
    (left.union right).contains field = (left.contains field || right.contains field) :=
  BitVec.getLsbD_or

@[simp] theorem contains_empty (field : Field) : FieldMask.empty.contains field = false :=
  BitVec.getLsbD_zero

end FieldMask

/-! ### Texts -/

/-- Looking for a sequence of characters at every place finds it where it is a part. -/
theorem occursIn_iff (needle text : List Char) :
    occursIn needle text = true ↔ needle <:+: text := by
  induction text with
  | nil => rw [occursIn, List.isEmpty_iff, List.infix_nil]
  | cons c rest ih =>
    rw [occursIn, Bool.or_eq_true, List.isPrefixOf_iff_prefix, ih, List.infix_cons_iff]

/-- What a pattern demands of a text, with each character in lower case: that it is a part of it, or
the whole of it.  An empty pattern demands nothing. -/
def Passes (exact : Bool) (pattern value : String) : Prop :=
  pattern = "" ∨
    if exact then foldText value = foldText pattern else foldText pattern <:+: foldText value

/-- The whole is a part. -/
theorem Passes.part {pattern value : String} (passes : Passes true pattern value) :
    Passes false pattern value := by
  rcases passes with blank | same
  · exact .inl blank
  · rw [if_pos rfl] at same
    exact .inr (same ▸ List.infix_rfl)

/-- A part of a part is a part.  In between there may be an empty text only if the pattern is empty
as well: as a pattern it would demand nothing. -/
theorem Passes.trans {pattern middle value : String} (inner : Passes false pattern middle)
    (outer : Passes false middle value) (filled : middle ≠ "" ∨ pattern = "") :
    Passes false pattern value := by
  rcases filled with filled | blank
  · rcases inner with blank | inner
    · exact .inl blank
    · rcases outer with hollow | outer
      · exact absurd hollow filled
      · exact .inr (inner.trans outer)
  · exact .inl blank

namespace Matcher

/-- A text passes a pattern if it is as the pattern demands. -/
theorem passes_iff (pattern value : String) (options : MatchOptions)
    (plain : options.regex = false) :
    (compile pattern options).passes value = true ↔ Passes options.exact pattern value := by
  by_cases blank : pattern = ""
  · simp [passes, compile, compileWith, Passes, blank]
  · cases exact : options.exact with
    | true => simp [passes, compile, compileWith, Passes, blank, exact, plain]
    | false => simp [passes, compile, compileWith, Passes, blank, exact, plain, occursIn_iff]

/-- What a matcher, unless its pattern is to be an expression and is none, demands of a track: that
some field of the mask passes, or with negation that some field of the mask fails. -/
theorem accepts_iff_exists {matcher : Matcher} (usable : matcher.needle ≠ .regex none)
    (track : Track) (mask : FieldMask) :
    matcher.accepts track mask = true ↔ ∃ field, mask.contains field = true ∧
      (matcher.passes (track.text field) = true ↔ matcher.options.negate = false) := by
  have tested : matcher.accepts track mask =
      (Field.all.filter mask.contains).any fun field =>
        matcher.passes (track.text field) != matcher.options.negate := by
    unfold accepts
    split
    · next none => exact absurd none usable
    · rfl
  rw [tested]
  simp only [List.any_eq_true, List.mem_filter, Field.mem_all, true_and]
  apply exists_congr
  intro field
  cases matcher.passes (track.text field) <;> cases matcher.options.negate <;> simp

/-- A track matches a text pattern by what the pattern demands of the fields. -/
theorem accepts_iff (track : Track) (mask : FieldMask) (pattern : String) (options : MatchOptions)
    (plain : options.regex = false) :
    (compile pattern options).accepts track mask = true ↔
      ∃ field, mask.contains field = true ∧
        (Passes options.exact pattern (track.text field) ↔ options.negate = false) := by
  have usable : (compile pattern options).needle ≠ .regex none := by
    simp [compile, compileWith, plain]
  simp only [accepts_iff_exists usable, passes_iff pattern _ options plain]
  rfl

/-- The fields of two masks are tested together. -/
theorem accepts_union (matcher : Matcher) (track : Track) (left right : FieldMask) :
    matcher.accepts track (left.union right) =
      (matcher.accepts track left || matcher.accepts track right) := by
  unfold accepts
  split
  · rfl
  · rw [Bool.eq_iff_iff, Bool.or_eq_true]
    simp only [List.any_eq_true, List.mem_filter, FieldMask.contains_union, Bool.or_eq_true]
    simp only [and_or_left, or_and_right, exists_or]

/-- Where no field is tested, none passes. -/
theorem accepts_empty (matcher : Matcher) (track : Track) :
    matcher.accepts track .empty = false := by
  unfold accepts
  split
  · rfl
  · simp

/-- Whether a text passes an exact pattern, negation aside. -/
theorem passes_exact (pattern value : String) (options : MatchOptions)
    (exact : options.exact = true) (plain : options.regex = false) :
    (compile pattern options).passes value =
      (pattern.isEmpty || foldText value == foldText pattern) := by
  cases empty : pattern.isEmpty with
  | true => simp [passes, compile, compileWith, empty]
  | false => simp [passes, compile, compileWith, empty, exact, plain]

/-- Whether a track matches an exact pattern on one field. -/
theorem accepts_exact (track : Track) (field : Field) (pattern : String) (options : MatchOptions)
    (exact : options.exact = true) (plain : options.regex = false) :
    (compile pattern options).accepts track field.mask =
      ((pattern.isEmpty || foldText (track.text field) == foldText pattern) !=
        options.negate) := by
  have needle : (compile pattern options).needle = .text (foldText pattern) := by
    simp [compile, compileWith, plain]
  have negate : (compile pattern options).options.negate = options.negate := rfl
  simp only [accepts, needle, Field.filter_mask, List.any_cons, List.any_nil, Bool.or_false,
    passes_exact pattern _ options exact plain, negate]

end Matcher

/-! ### Tracks -/

/-- Text matching.  A field passes a pattern exactly when it is as the pattern demands; a track
matches when some field of the mask passes, and under negation when some field fails.  So two masks
match what either of them does, the empty mask matches nothing, what matches exactly contains the
pattern, negation refuses a track when all fields pass, and what is found in a text is found where
the text is. -/
theorem matchesPattern_text (pattern : String) (track : Track) (mask other : FieldMask)
    (exact reverse : Bool) :
    let options (negate : Bool) : MatchOptions :=
      { negate := negate, exact := exact, reverse := reverse }
    let part : MatchOptions := { reverse := reverse }
    (∀ negate value, (Matcher.compile pattern (options negate)).passes value = true ↔
      Passes exact pattern value) ∧
    (track.matchesPattern pattern mask (options false) = true ↔
      ∃ field, mask.contains field = true ∧ Passes exact pattern (track.text field)) ∧
    (track.matchesPattern pattern mask (options true) = true ↔
      ∃ field, mask.contains field = true ∧ ¬ Passes exact pattern (track.text field)) ∧
    (track.matchesPattern pattern mask (options true) = false ↔
      ∀ field, mask.contains field = true → Passes exact pattern (track.text field)) ∧
    (∀ negate, track.matchesPattern pattern (mask.union other) (options negate) =
      (track.matchesPattern pattern mask (options negate) ||
        track.matchesPattern pattern other (options negate))) ∧
    (∀ negate, track.matchesPattern pattern .empty (options negate) = false) ∧
    (track.matchesPattern pattern mask (options false) = true →
      track.matchesPattern pattern mask part = true) ∧
    (∀ middle value, (Matcher.compile pattern part).passes middle = true →
      (Matcher.compile middle part).passes value = true → (middle ≠ "" ∨ pattern = "") →
        (Matcher.compile pattern part).passes value = true) := by
  intro options part
  have positive : track.matchesPattern pattern mask (options false) = true ↔
      ∃ field, mask.contains field = true ∧ Passes exact pattern (track.text field) := by
    simpa [Track.matchesPattern, options] using
      Matcher.accepts_iff track mask pattern (options false) rfl
  have negated : track.matchesPattern pattern mask (options true) = true ↔
      ∃ field, mask.contains field = true ∧ ¬ Passes exact pattern (track.text field) := by
    simpa [Track.matchesPattern, options] using
      Matcher.accepts_iff track mask pattern (options true) rfl
  have contained : track.matchesPattern pattern mask part = true ↔
      ∃ field, mask.contains field = true ∧ Passes false pattern (track.text field) := by
    simpa [Track.matchesPattern, part] using Matcher.accepts_iff track mask pattern part rfl
  refine ⟨?_, positive, negated, ?_, ?_, ?_, ?_, ?_⟩
  · intro negate value
    exact Matcher.passes_iff pattern value (options negate) rfl
  · rw [← Bool.not_eq_true, negated]
    simp only [not_exists, not_and, Classical.not_not]
  · intro negate
    exact Matcher.accepts_union _ track mask other
  · intro negate
    exact Matcher.accepts_empty _ track
  · rw [positive, contained]
    rintro ⟨field, selected, passes⟩
    cases exact with
    | true => exact ⟨field, selected, passes.part⟩
    | false => exact ⟨field, selected, passes⟩
  · intro middle value inner outer filled
    rw [Matcher.passes_iff pattern _ part rfl] at inner ⊢
    rw [Matcher.passes_iff middle _ part rfl] at outer
    exact inner.trans outer filled

end TrackBrowser
