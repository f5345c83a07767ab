/-
Module: TrackBrowser.Proofs.WholeText
Purpose: What exact patterns match that are regular expressions.
-/
import TrackBrowser.Proofs.Matching
import TrackBrowser.Proofs.Pattern.Anchored
import TrackBrowser.Proofs.Pattern.Spans

/-!
An exact regular expression is read from the pattern between `^(?:` and `)$`.  It matches the fields
that the pattern spans from end to end, and it is refused where the pattern is refused, but for one
kind of pattern.  A pattern that closes a group it has not opened ends the group around it early.
By itself it is refused; between the anchors it can be an expression, and one whose branches are
anchored at one end only.

Which automata are too large is left open: all that is said here holds whatever texts fit.
-/

namespace TrackBrowser

open Pattern

namespace Pattern

/-- The anchor in front holds at the first place only. -/
theorem textStart_holds_iff {text : List Char} {place : Nat} (inside : place ≤ text.length) :
    Condition.textStart.holds (before? text place) text[place]? = true ↔ place = 0 := by
  cases place with
  | zero => exact ⟨fun _ => rfl, fun _ => rfl⟩
  | succ place => simp [Condition.holds, before?, List.getElem?_eq_getElem inside]

/-- The anchor behind holds at the last place only. -/
theorem textEnd_holds_iff {text : List Char} {place : Nat} (inside : place ≤ text.length) :
    Condition.textEnd.holds (before? text place) text[place]? = true ↔ place = text.length := by
  rw [Condition.holds, Option.isNone_iff_eq_none, List.getElem?_eq_none_iff]
  exact ⟨fun beyond => Nat.le_antisymm inside beyond, fun last => Nat.le_of_eq last.symm⟩

/-- Between the anchors an expression matches the texts that it spans from end to end. -/
theorem Expr.whole_matchesIn (expr : Expr) (text : List Char) :
    expr.whole.matchesIn text = true ↔ expr.Spans text 0 text.length := by
  rw [matchesIn_iff]
  constructor
  · rintro ⟨first, last, -, middle, ⟨rfl, within, start⟩, ending, spans, rfl, inside, stop⟩
    rw [(textStart_holds_iff within).mp start, (textEnd_holds_iff inside).mp stop] at spans
    exact spans
  · intro spans
    have start := (textStart_holds_iff (Nat.zero_le text.length)).mpr rfl
    have stop := (textEnd_holds_iff (Nat.le_refl text.length)).mpr rfl
    exact ⟨0, text.length, Nat.zero_le _, 0, ⟨rfl, Nat.zero_le _, start⟩,
      text.length, spans, rfl, Nat.le_refl _, stop⟩

/-- A pattern that is an expression by itself is read as the same one between the anchors. -/
theorem parse_anchored_of_ok {text : List Char} {expr own : Expr} (alone : parse text = .ok own)
    (read : parse (anchored text) = .ok expr) : expr = own.whole := by
  rcases parse_anchored read with refused | ⟨same, found, whole⟩
  · cases alone.symm.trans refused
  · cases alone.symm.trans found
    exact whole

section Fits

variable {fits : List Char → Bool} {text : List Char}

/-- What is read is an expression that fits. -/
theorem readWith_eq_ok {expr : Expr} :
    readWith fits text = .ok expr ↔ parse text = .ok expr ∧ fits text = true := by
  rw [readWith]
  cases parse text with
  | error error => simp [Bind.bind, Except.bind]
  | ok own =>
    cases fits text with
    | true => simp [Bind.bind, Except.bind, pure, Except.pure]
    | false => simp [Bind.bind, Except.bind, throw, throwThe, MonadExceptOf.throw]

/-- What is refused is no expression, or too large. -/
theorem readWith_eq_error {error : PatternError} (other : error ≠ .tooLarge) :
    readWith fits text = .error error ↔ parse text = .error error := by
  rw [readWith]
  cases parse text with
  | error found => simp [Bind.bind, Except.bind]
  | ok own =>
    cases fits text with
    | true => simp [Bind.bind, Except.bind, pure, Except.pure]
    | false => simp [Bind.bind, Except.bind, throw, throwThe, MonadExceptOf.throw, other.symm]

end Fits

end Pattern

namespace Matcher

variable (fits : List Char → Bool)

/-- A pattern that is to be an expression is refused for the error it is read with. -/
theorem check_regex (pattern : String) (options : MatchOptions) (regex : options.regex = true) :
    checkWith fits pattern options =
      (readRegex fits pattern options.exact).map fun _ => () := by
  rw [checkWith, if_pos regex]

theorem check_regex_ok (pattern : String) (options : MatchOptions) (regex : options.regex = true) :
    checkWith fits pattern options = .ok () ↔
      ∃ expr, readRegex fits pattern options.exact = .ok expr := by
  rw [check_regex fits pattern options regex]
  cases readRegex fits pattern options.exact with
  | error error => exact ⟨nofun, nofun⟩
  | ok expr => exact ⟨fun _ => ⟨expr, rfl⟩, fun _ => rfl⟩

theorem check_regex_error (pattern : String) (options : MatchOptions) (regex : options.regex = true)
    (error : PatternError) :
    checkWith fits pattern options = .error error ↔
      readRegex fits pattern options.exact = .error error := by
  rw [check_regex fits pattern options regex]
  cases readRegex fits pattern options.exact with
  | error other =>
    exact ⟨fun same => congrArg _ (Except.error.inj same),
      fun same => congrArg _ (Except.error.inj same)⟩
  | ok expr => exact ⟨nofun, nofun⟩

/-- A track matches a regular expression if the pattern is one and some field of the mask matches,
or with negation fails. -/
theorem accepts_regex (track : Track) (mask : FieldMask) (pattern : String) (options : MatchOptions)
    (regex : options.regex = true) (some : pattern ≠ "") :
    (compileWith fits pattern options).accepts track mask = true ↔
      ∃ expr, readRegex fits pattern options.exact = .ok expr ∧
        ∃ field, mask.contains field = true ∧
          (expr.matchesIn (track.text field).toList = true ↔ options.negate = false) := by
  have needle : (compileWith fits pattern options).needle =
      .regex (readRegex fits pattern options.exact).toOption := by
    simp only [compileWith, regex, if_true]
  cases read : readRegex fits pattern options.exact with
  | error error =>
    rw [read] at needle
    simp [accepts, needle, Except.toOption]
  | ok expr =>
    rw [read] at needle
    have usable : (compileWith fits pattern options).needle ≠ .regex none := by
      simp [needle, Except.toOption]
    have filled : (compileWith fits pattern options).isEmpty = false := by
      simpa [compileWith] using some
    have passes (value : String) :
        (compileWith fits pattern options).passes value = expr.matchesIn value.toList := by
      simp [passes, filled, needle, Except.toOption]
    simp only [accepts_iff_exists usable, passes, Except.ok.injEq, exists_eq_left']
    rfl

end Matcher

/-! ### Tracks -/

/-- A track matches an expression between the anchors on the fields that the expression spans. -/
theorem accepts_anchored_iff (fits : List Char → Bool) (track : Track) (mask : FieldMask)
    (pattern : String) (options : MatchOptions) (regex : options.regex = true)
    (exact : options.exact = true) (positive : options.negate = false) (some : pattern ≠ "")
    {own : Expr} (alone : parse pattern.toList = .ok own) :
    (Matcher.compileWith fits pattern options).accepts track mask = true ↔
      Matcher.checkWith fits pattern options = .ok () ∧ ∃ field, mask.contains field = true ∧
        own.Spans (track.text field).toList 0 (track.text field).toList.length := by
  rw [Matcher.accepts_regex fits track mask pattern options regex some,
    Matcher.check_regex_ok fits pattern options regex, readRegex, if_pos exact, positive]
  simp only [iff_true, readWith_eq_ok]
  constructor
  · rintro ⟨expr, ⟨read, room⟩, field, selected, found⟩
    rw [parse_anchored_of_ok alone read, Expr.whole_matchesIn] at found
    exact ⟨⟨expr, read, room⟩, field, selected, found⟩
  · rintro ⟨⟨expr, read, room⟩, field, selected, spans⟩
    refine ⟨expr, ⟨read, room⟩, field, selected, ?_⟩
    rw [parse_anchored_of_ok alone read, Expr.whole_matchesIn]
    exact spans

/-- Exact regular expressions, whichever automata fit.  Between the anchors a pattern is accepted
only if it is accepted by itself, closes a group that it has not opened, or is an expression that by
itself does not fit.  The second aside, a track matches exactly when the pattern is accepted and,
read by itself, spans some field of the mask from end to end.  A pattern that is refused by itself
matches nothing, negated or not, and one that is no expression by itself, unless it closes such a
group, not exactly either. -/
theorem matchesPattern_wholeText (fits : List Char → Bool) (pattern : String) (track : Track)
    (mask : FieldMask) (reverse : Bool) (some : pattern ≠ "") :
    let alone (negate : Bool) : MatchOptions :=
      { negate := negate, regex := true, reverse := reverse }
    let exact (negate : Bool) : MatchOptions :=
      { negate := negate, exact := true, regex := true, reverse := reverse }
    let check := Matcher.checkWith fits pattern
    let found := track.matchesPatternWith fits pattern mask
    (check (exact false) = .ok () →
      check (alone false) = .ok () ∨ check (alone false) = .error .unopenedGroup ∨
        fits pattern.toList = false ∧ ∃ expr, parse pattern.toList = .ok expr) ∧
    (check (alone false) ≠ .error .unopenedGroup →
      (found (exact false) = true ↔
        check (exact false) = .ok () ∧
        ∃ expr, parse pattern.toList = .ok expr ∧ ∃ field, mask.contains field = true ∧
          expr.Spans (track.text field).toList 0 (track.text field).toList.length)) ∧
    (check (alone false) ≠ .ok () → ∀ negate,
      found (alone negate) = false ∧
      (check (alone false) ≠ .error .unopenedGroup →
        (∀ expr, parse pattern.toList ≠ .ok expr) → found (exact negate) = false)) := by
  intro alone exact check found
  have accepted : check (alone false) = .ok () ↔
      (∃ own, parse pattern.toList = .ok own ∧ fits pattern.toList = true) := by
    have read : check (alone false) = .ok () ↔ ∃ own, readWith fits pattern.toList = .ok own :=
      Matcher.check_regex_ok fits pattern (alone false) rfl
    simp only [read, readWith_eq_ok]
  have refused : check (alone false) = .error .unopenedGroup ↔
      parse pattern.toList = .error .unopenedGroup := by
    have read : check (alone false) = .error .unopenedGroup ↔
        readWith fits pattern.toList = .error .unopenedGroup :=
      Matcher.check_regex_error fits pattern (alone false) rfl .unopenedGroup
    rw [read, readWith_eq_error (by decide)]
  have acceptedExact : check (exact false) = .ok () ↔
      ∃ expr, readWith fits (anchored pattern.toList) = .ok expr :=
    Matcher.check_regex_ok fits pattern (exact false) rfl
  have own_of_exact (closed : ¬ parse pattern.toList = .error .unopenedGroup) {expr : Expr}
      (read : readWith fits (anchored pattern.toList) = .ok expr) :
      ∃ own, parse pattern.toList = .ok own := by
    rcases parse_anchored (readWith_eq_ok.mp read).1 with unopened | ⟨own, found, -⟩
    · exact absurd unopened closed
    · exact ⟨own, found⟩
  refine ⟨?_, ?_, ?_⟩
  · rw [acceptedExact]
    rintro ⟨expr, read⟩
    by_cases unopened : parse pattern.toList = .error .unopenedGroup
    · exact .inr (.inl (refused.mpr unopened))
    obtain ⟨own, alone⟩ := own_of_exact unopened read
    cases room : fits pattern.toList with
    | true => exact .inl (accepted.mpr ⟨own, alone, room⟩)
    | false => exact .inr (.inr ⟨rfl, own, alone⟩)
  · rw [ne_eq, refused]
    intro closed
    constructor
    · intro hit
      obtain ⟨expr, read, -⟩ :=
        (Matcher.accepts_regex fits track mask pattern (exact false) rfl some).mp hit
      obtain ⟨own, alone⟩ := own_of_exact closed read
      obtain ⟨checked, field, selected, spans⟩ :=
        (accepts_anchored_iff fits track mask pattern (exact false) rfl rfl rfl some alone).mp hit
      exact ⟨checked, own, alone, field, selected, spans⟩
    · rintro ⟨checked, own, alone, spanned⟩
      exact (accepts_anchored_iff fits track mask pattern (exact false) rfl rfl rfl some alone).mpr
        ⟨checked, spanned⟩
  · intro invalid negate
    constructor
    · refine Bool.eq_false_iff.mpr fun hit => invalid (accepted.mpr ?_)
      obtain ⟨own, read, -⟩ :=
        (Matcher.accepts_regex fits track mask pattern (alone negate) rfl some).mp hit
      exact ⟨own, readWith_eq_ok.mp read⟩
    · rw [ne_eq, refused]
      refine fun closed nothing => Bool.eq_false_iff.mpr fun hit => ?_
      obtain ⟨expr, read, -⟩ :=
        (Matcher.accepts_regex fits track mask pattern (exact negate) rfl some).mp hit
      obtain ⟨own, alone⟩ := own_of_exact closed read
      exact nothing own alone

/-- A track whose title is the second of two alternatives, and whose artist begins with one. -/
def voicedTrack : Track :=
  { file := "x.ogg", artist := "axyz", title := "ab" }

/-- The alternatives are tried at the whole title, not only at its beginning. -/
theorem matchesPattern_wholeText_alternatives :
    "a|ab" ≠ "" ∧
    Matcher.check "a|ab" { regex := true } = .ok () ∧
    Matcher.check "a|ab" { exact := true, regex := true } = .ok () ∧
    ∃ expr, parse "a|ab".toList = .ok expr ∧ ∃ field, Field.title.mask.contains field = true ∧
      expr.Spans (voicedTrack.text field).toList 0 (voicedTrack.text field).toList.length := by
  have filled : "a|ab" ≠ "" := by decide
  have alone : Matcher.check "a|ab" { regex := true } = .ok () := rfl
  have exact : Matcher.check "a|ab" { exact := true, regex := true } = .ok () := rfl
  have closed : Matcher.check "a|ab" { regex := true } ≠ .error .unopenedGroup := by
    rw [alone]
    exact nofun
  have found : voicedTrack.matchesPattern "a|ab" Field.title.mask
      { exact := true, regex := true } = true := by decide +kernel
  obtain ⟨-, spanned, -⟩ :=
    matchesPattern_wholeText seemsToFit "a|ab" voicedTrack Field.title.mask false filled
  exact ⟨filled, alone, exact, ((spanned closed).mp found).2⟩

/-- Between the anchors `a)|(?:b` is `^(?:a)|(?:b)$`: an expression, and found where a field begins
with its first branch.  By itself it is none, whatever fits. -/
theorem matchesPattern_wholeText_unopened :
    (∀ fits, Matcher.checkWith fits "a)|(?:b" { regex := true } = .error .unopenedGroup) ∧
    Matcher.check "a)|(?:b" { exact := true, regex := true } = .ok () ∧
    voicedTrack.text .artist = "axyz" ∧
    voicedTrack.matchesPattern "a)|(?:b" Field.artist.mask
      { exact := true, regex := true } = true := by
  refine ⟨fun _ => rfl, rfl, rfl, ?_⟩
  decide +kernel

end TrackBrowser
