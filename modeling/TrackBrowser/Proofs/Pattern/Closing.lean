/-
Module: TrackBrowser.Proofs.Pattern.Closing
Purpose: What the readers of a pattern do with a closing parenthesis behind it.
-/
import TrackBrowser.Pattern.Parser

/-!
An expression that has to match a whole text is the pattern between `^(?:` and `)$`.  The readers
take characters from the left, so the question is how a text is read with `)$` behind it.  `Keeps`
names the three ways this can go: the reader fails, or it reads what it would read of the text
alone and leaves the closing behind, or it takes the parenthesis for something else, a literal
after a backslash or the end of a group of flags.  In the third way at most the dollar sign is left,
and nothing closes the group that `(?:` has opened.

One reading is in none of these ways.  `\b` in front of a brace looks at the character behind the
brace, and fails where there is none.  The parenthesis is such a character, but then the brace is
left for a counted repetition that does not come: the reading is stranded.
-/

namespace TrackBrowser.Pattern

open TrackBrowser.Text (isBlank isDigit)

/-- What stands behind a pattern that is to match whole texts. -/
def closing : List Char :=
  [')', '$']

/-- How a reader fares with the closing behind a text, as against the text `alone`: it is refused,
or it reads the same from the text, or it has taken the parenthesis. -/
inductive Keeps {α : Type} (text : List Char) (alone : Except PatternError (WithRest α)) :
    Except PatternError (WithRest α) → Prop where
  | refused (error : PatternError) : Keeps text alone (.error error)
  | same (value : α) (rest : List Char) (part : rest <:+ text) (read : alone = .ok (value, rest)) :
      Keeps text alone (.ok (value, rest ++ closing))
  | spent (value : α) (rest : List Char) (beyond : rest <:+ ['$']) :
      Keeps text alone (.ok (value, rest))

/-- A reader has stopped in front of a brace, with nothing but the closing behind it. -/
inductive Stranded {α : Type} (verbose : Bool) (value : α) :
    Except PatternError (WithRest α) → Prop where
  | brace (rest : List Char) (hidden : spaced verbose rest = closing) :
      Stranded verbose value (.ok (value, '{' :: rest))

/-! ### How texts start -/

/-- A text that does not start with a certain character does not start with it either when a
parenthesis is put behind it. -/
theorem starts_or_not (c : Char) (text : List Char) (other : c ≠ ')') :
    (∃ rest, text = c :: rest) ∨
      (∀ rest, text ≠ c :: rest) ∧ ∀ rest, text ++ closing ≠ c :: rest := by
  rcases text with _ | ⟨first, rest⟩
  · refine .inr ⟨fun rest => nofun, fun rest same => other ?_⟩
    exact (List.cons.inj same).1.symm
  · by_cases same : first = c
    · exact .inl ⟨rest, by rw [same]⟩
    · exact .inr ⟨fun rest start => same (List.cons.inj start).1,
        fun rest start => same (List.cons.inj start).1⟩

theorem starts_or_not_pair (c d : Char) (text : List Char) (first : c ≠ ')') (second : d ≠ ')') :
    (∃ rest, text = c :: d :: rest) ∨
      (∀ rest, text ≠ c :: d :: rest) ∧ ∀ rest, text ++ closing ≠ c :: d :: rest := by
  rcases starts_or_not c text first with ⟨text, rfl⟩ | ⟨other, otherBefore⟩
  · rcases starts_or_not d text second with ⟨rest, rfl⟩ | ⟨other, otherBefore⟩
    · exact .inl ⟨rest, rfl⟩
    · exact .inr ⟨fun rest start => other rest (List.cons.inj start).2,
        fun rest start => otherBefore rest (List.cons.inj start).2⟩
  · exact .inr ⟨fun rest => other _, fun rest => otherBefore _⟩

theorem spent_cases {rest : List Char} (beyond : rest <:+ ['$']) : rest = [] ∨ rest = ['$'] := by
  rcases List.suffix_cons_iff.mp beyond with all | none
  · exact .inr all
  · exact .inl (List.suffix_nil.mp none)

/-- Dropping characters either stops within the text, or goes on with the closing. -/
theorem dropWhile_closing (keep : Char → Bool) (text : List Char) :
    (∃ c left, c :: left <:+ text ∧ text.dropWhile keep = c :: left ∧
      (text ++ closing).dropWhile keep = c :: (left ++ closing) ∧
      (text ++ closing).takeWhile keep = text.takeWhile keep) ∨
    (text.dropWhile keep = [] ∧ (text ++ closing).dropWhile keep = closing.dropWhile keep) := by
  cases behind : text.dropWhile keep with
  | nil =>
    refine .inr ⟨rfl, ?_⟩
    rw [List.dropWhile_append, behind]
    rfl
  | cons c left =>
    refine .inl ⟨c, left, behind ▸ List.dropWhile_suffix _, rfl, ?_, ?_⟩
    · rw [List.dropWhile_append, behind]
      rfl
    · have lengths := congrArg List.length (List.takeWhile_append_dropWhile (p := keep) (l := text))
      rw [behind, List.length_append, List.length_cons] at lengths
      rw [List.takeWhile_append, if_neg (by omega)]

theorem dropBlanks_closing (text : List Char) :
    (text ++ closing).dropWhile isBlank = text.dropWhile isBlank ++ closing := by
  rcases dropWhile_closing isBlank text with ⟨c, left, _, alone, before, _⟩ | ⟨alone, before⟩
  · rw [alone, before]
    rfl
  · rw [alone, before]
    rfl

/-! ### The three ways -/

namespace Keeps

variable {α β : Type} {text whole : List Char}
  {alone before : Except PatternError (WithRest α)}

/-- The three ways as equations. -/
theorem ways (keeps : Keeps text alone before) :
    (∃ error, before = .error error) ∨
    (∃ value rest, rest <:+ text ∧ alone = .ok (value, rest) ∧
      before = .ok (value, rest ++ closing)) ∨
    ∃ value rest, rest <:+ ['$'] ∧ before = .ok (value, rest) := by
  cases keeps with
  | refused error => exact .inl ⟨error, rfl⟩
  | same value rest part read => exact .inr (.inl ⟨value, rest, part, read, rfl⟩)
  | spent value rest beyond => exact .inr (.inr ⟨value, rest, beyond, rfl⟩)

theorem widen (part : text <:+ whole) (keeps : Keeps text alone before) :
    Keeps whole alone before := by
  cases keeps with
  | refused error => exact .refused error
  | same value rest inside read => exact .same value rest (inside.trans part) read
  | spent value rest beyond => exact .spent value rest beyond

/-- Two readers in a row.  The second one may have seen nothing but the rest of the closing. -/
theorem bind {next nextBefore : WithRest α → Except PatternError (WithRest β)}
    (keeps : Keeps text alone before)
    (goesOn : ∀ value rest, rest <:+ text →
      Keeps rest (next (value, rest)) (nextBefore (value, rest ++ closing)))
    (isSpent : ∀ value rest, rest <:+ ['$'] →
      Keeps text (alone >>= next) (nextBefore (value, rest))) :
    Keeps text (alone >>= next) (before >>= nextBefore) := by
  cases keeps with
  | refused error => exact .refused error
  | same value rest part read =>
    subst read
    exact (goesOn value rest part).widen part
  | spent value rest beyond => exact isSpent value rest beyond

/-- A test that does not look at the rest of the text. -/
theorem ite {condition : Prop} [Decidable condition]
    {alone' before' : Except PatternError (WithRest α)}
    (yes : condition → Keeps text alone before) (no : ¬ condition → Keeps text alone' before') :
    Keeps text (if condition then alone else alone') (if condition then before else before') := by
  by_cases holds : condition
  · rw [if_pos holds, if_pos holds]
    exact yes holds
  · rw [if_neg holds, if_neg holds]
    exact no holds

/-- A test on what was read of the text with the closing. -/
theorem either {condition : Prop} [Decidable condition]
    {before' : Except PatternError (WithRest α)}
    (yes : condition → Keeps text alone before) (no : ¬ condition → Keeps text alone before') :
    Keeps text alone (if condition then before else before') := by
  by_cases holds : condition
  · rw [if_pos holds]
    exact yes holds
  · rw [if_neg holds]
    exact no holds

/-- Something made of what was read, where this can fail. -/
theorem outcome (outcome : Except PatternError α) (form : α → β) (rest : List Char) :
    Keeps rest (do let value ← outcome; return (form value, rest))
      (do let value ← outcome; return (form value, rest ++ closing)) := by
  cases outcome with
  | error error => exact .refused error
  | ok value => exact .same (form value) rest List.suffix_rfl rfl

theorem outcome_of_spent (outcome : Except PatternError α) (form : α → β) {rest : List Char}
    (beyond : rest <:+ ['$']) {alone : Except PatternError (WithRest β)} :
    Keeps text alone (do let value ← outcome; return (form value, rest)) := by
  cases outcome with
  | error error => exact .refused error
  | ok value => exact .spent (form value) rest beyond

end Keeps

theorem Stranded.exists_rest {α : Type} {verbose : Bool} {value : α}
    {before : Except PatternError (WithRest α)} (stranded : Stranded verbose value before) :
    ∃ rest, spaced verbose rest = closing ∧ before = .ok (value, '{' :: rest) := by
  cases stranded with
  | brace rest hidden => exact ⟨rest, hidden, rfl⟩

/-! ### Blanks and comments -/

theorem skipBlanks_suffix (inComment : Bool) (text : List Char) :
    skipBlanks inComment text <:+ text := by
  induction text generalizing inComment with
  | nil => simp [skipBlanks]
  | cons c rest ih =>
    cases inComment with
    | true => exact (ih _).trans (List.suffix_cons c rest)
    | false =>
      simp only [skipBlanks]
      split
      · exact (ih _).trans (List.suffix_cons c rest)
      · split
        · exact (ih _).trans (List.suffix_cons c rest)
        · exact List.suffix_rfl

theorem spaced_suffix (verbose : Bool) (text : List Char) : spaced verbose text <:+ text := by
  cases verbose with
  | true => exact skipBlanks_suffix false text
  | false => exact List.suffix_rfl

theorem skipBlanks_closing (inComment : Bool) (text : List Char) :
    skipBlanks inComment (text ++ closing) = skipBlanks inComment text ++ closing ∨
      skipBlanks inComment (text ++ closing) = [] := by
  induction text generalizing inComment with
  | nil => cases inComment <;> decide
  | cons c rest ih =>
    cases inComment with
    | true => exact ih _
    | false =>
      simp only [List.cons_append, skipBlanks]
      split
      · exact ih _
      · split
        · exact ih _
        · exact .inl rfl

/-- Blanks and comments are dropped as from the text alone, unless a comment takes the closing. -/
theorem spaced_closing (verbose : Bool) (text : List Char) :
    ∃ left, left <:+ text ∧ spaced verbose text = left ∧
      (spaced verbose (text ++ closing) = left ++ closing ∨
        spaced verbose (text ++ closing) = []) := by
  refine ⟨_, spaced_suffix verbose text, rfl, ?_⟩
  cases verbose with
  | true => exact skipBlanks_closing false text
  | false => exact .inl rfl

theorem takeSpaced_suffix (verbose : Bool) (wanted : Char → Bool) (inComment : Bool)
    (text : List Char) : (takeSpaced verbose wanted inComment text).2 <:+ text := by
  fun_induction takeSpaced verbose wanted inComment text with
  | case1 => exact List.suffix_rfl
  | case2 c rest ih => exact ih.trans (List.suffix_cons c rest)
  | case3 c rest _ ih => exact ih.trans (List.suffix_cons c rest)
  | case4 c rest _ _ ih => exact ih.trans (List.suffix_cons c rest)
  | case5 c rest _ _ _ taken left read ih =>
    rw [read] at ih
    exact ih.trans (List.suffix_cons c rest)
  | case6 => exact List.suffix_rfl

theorem takeSpaced_append (verbose : Bool) (wanted : Char → Bool) (inComment : Bool)
    (text : List Char) (stops : wanted ')' = false ∨ wanted '$' = true) :
    (takeSpaced verbose wanted inComment (text ++ closing) =
      ((takeSpaced verbose wanted inComment text).1,
        (takeSpaced verbose wanted inComment text).2 ++ closing)) ∨
      (takeSpaced verbose wanted inComment (text ++ closing)).2 = [] := by
  fun_induction takeSpaced verbose wanted inComment text with
  | case1 inComment =>
    cases inComment with
    | true => exact .inr rfl
    | false =>
      have blank (c : Char) (visible : isBlank c = false) : (verbose && isBlank c) = false := by
        rw [visible, Bool.and_false]
      cases first : wanted ')' with
      | false => simp [closing, takeSpaced, blank ')' rfl, first]
      | true =>
        have second : wanted '$' = true := stops.resolve_left (by simp [first])
        simp [closing, takeSpaced, blank ')' rfl, blank '$' rfl, first, second]
  | case2 c rest ih => exact ih
  | case3 c rest blank ih => simpa only [List.cons_append, takeSpaced, blank, if_true] using ih
  | case4 c rest blank comment ih =>
    simpa only [List.cons_append, takeSpaced, blank, comment, Bool.false_eq_true, if_true,
      if_false] using ih
  | case5 c rest blank comment want taken left read ih =>
    rw [read] at ih
    simp only [List.cons_append, takeSpaced, blank, comment, want, Bool.false_eq_true, if_true,
      if_false]
    rcases ih with same | gone
    · exact .inl (by rw [same])
    · exact .inr gone
  | case6 c rest blank comment want => simp [takeSpaced, blank, comment, want]

/-- Characters are taken as from the text alone, unless the closing goes with them or with a
comment.  Where the parenthesis is wanted the dollar sign has to be wanted as well. -/
theorem takeSpaced_closing (verbose : Bool) (wanted : Char → Bool) (text : List Char)
    (stops : wanted ')' = false ∨ wanted '$' = true) :
    ∃ taken left, left <:+ text ∧ takeSpaced verbose wanted false text = (taken, left) ∧
      (takeSpaced verbose wanted false (text ++ closing) = (taken, left ++ closing) ∨
        ∃ taken, takeSpaced verbose wanted false (text ++ closing) = (taken, [])) := by
  refine ⟨_, _, takeSpaced_suffix verbose wanted false text, rfl, ?_⟩
  rcases takeSpaced_append verbose wanted false text stops with same | gone
  · exact .inl same
  · exact .inr ⟨_, Prod.ext rfl gone⟩

/-! ### Escapes -/

theorem fixedHex_keeps (verbose inComment : Bool) (count value : Nat) (text : List Char) :
    Keeps text (fixedHex verbose inComment count value text)
      (fixedHex verbose inComment count value (text ++ closing)) := by
  fun_induction fixedHex verbose inComment count value text with
  | case1 inComment value rest =>
    rw [fixedHex]
    exact .same value rest List.suffix_rfl rfl
  | case2 inComment value count =>
    have refusal :
        fixedHex verbose inComment (count + 1) value closing = .error .invalidEscape := by
      cases inComment <;> cases verbose <;> rfl
    simp only [List.nil_append, Nat.succ_eq_add_one, refusal]
    exact .refused _
  | case3 count value c rest ih => exact ih.widen (List.suffix_cons c rest)
  | case4 count value c rest blank ih =>
    rw [List.cons_append, fixedHex, if_pos blank]
    exact ih.widen (List.suffix_cons c rest)
  | case5 count value c rest blank comment ih =>
    rw [List.cons_append, fixedHex, if_neg blank, if_pos comment]
    exact ih.widen (List.suffix_cons c rest)
  | case6 count value c rest blank comment digit found ih =>
    rw [List.cons_append, fixedHex, if_neg blank, if_neg comment, found]
    exact ih.widen (List.suffix_cons c rest)
  | case7 count value c rest blank comment found =>
    rw [List.cons_append, fixedHex, if_neg blank, if_neg comment, found]
    exact .refused _

/-- A name that has to end with a brace. -/
theorem Keeps.braced {α : Type} (verbose : Bool) (wanted : Char → Bool) (text : List Char)
    (stops : wanted ')' = false ∨ wanted '$' = true)
    {body : List Char → List Char → Except PatternError (WithRest α)}
    (goesOn : ∀ name rest, Keeps rest (body name rest) (body name (rest ++ closing))) :
    Keeps text
      (match takeSpaced verbose wanted false text with
      | (name, '}' :: rest) => body name rest
      | (_, _) => .error .invalidEscape)
      (match takeSpaced verbose wanted false (text ++ closing) with
      | (name, '}' :: rest) => body name rest
      | (_, _) => .error .invalidEscape) := by
  obtain ⟨name, left, part, alone, before | ⟨other, before⟩⟩ :=
    takeSpaced_closing verbose wanted text stops
  · rw [alone, before]
    refine Keeps.widen part ?_
    rcases left with _ | ⟨c, left⟩
    · exact .refused _
    by_cases close : c = '}'
    · subst close
      exact (goesOn name left).widen (List.suffix_cons _ _)
    · simp only [List.cons.injEq, close, false_and, imp_self, implies_true, List.cons_append]
      exact .refused _
  · rw [before]
    exact .refused _

theorem hexEscape_keeps (verbose : Bool) (count : Nat) (text : List Char) (some : count ≠ 0) :
    Keeps text (hexEscape verbose count text) (hexEscape verbose count (text ++ closing)) := by
  unfold hexEscape
  obtain ⟨left, part, alone, before | before⟩ := spaced_closing verbose text
  · rw [alone, before]
    refine Keeps.widen part ?_
    rcases starts_or_not '{' left (by decide) with ⟨rest, rfl⟩ | ⟨aloneNot, beforeNot⟩
    · refine (Keeps.braced verbose (· != '}') rest (by decide) fun name left => ?_).widen
        (List.suffix_cons _ _)
      split
      · exact .refused _
      · exact .refused _
      · exact Keeps.outcome _ _ _
    · split
      · exact absurd rfl (aloneNot _)
      · refine (fixedHex_keeps verbose false count 0 left).bind (fun value rest part => ?_)
          (fun value rest beyond => ?_)
        · exact Keeps.outcome _ _ _
        · exact Keeps.outcome_of_spent _ _ beyond
  · rw [alone, before]
    rcases count with _ | count
    · exact absurd rfl some
    · exact .refused _

theorem propertyEscape_keeps (verbose negated : Bool) (text : List Char) :
    Keeps text (propertyEscape verbose negated text)
      (propertyEscape verbose negated (text ++ closing)) := by
  unfold propertyEscape
  obtain ⟨left, part, alone, before | before⟩ := spaced_closing verbose text
  · rw [alone, before]
    refine Keeps.widen part ?_
    rcases left with _ | ⟨c, rest⟩
    · -- the parenthesis is no property
      exact .refused _
    by_cases brace : c = '{'
    · subst brace
      refine (Keeps.braced verbose (· != '}') rest (by decide) fun name left => ?_).widen
        (List.suffix_cons _ _)
      split
      · exact .same _ left List.suffix_rfl rfl
      · exact .refused _
    · simp only [List.cons_append]
      split
      · exact .same _ rest (List.suffix_cons _ _) rfl
      · exact .refused _
  · rw [alone, before]
    exact .refused _

theorem boundaryEscape_keeps (verbose : Bool) (text : List Char) :
    Keeps text (boundaryEscape verbose text) (boundaryEscape verbose (text ++ closing)) ∨
      Stranded verbose (.condition (.boundary true))
        (boundaryEscape verbose (text ++ closing)) := by
  rcases starts_or_not '{' text (by decide) with ⟨rest, rfl⟩ | ⟨other, otherBefore⟩
  · simp only [boundaryEscape, List.cons_append]
    obtain ⟨left, part, alone, before | before⟩ := spaced_closing verbose rest
    · rcases left with _ | ⟨c, left⟩
      · right
        rw [before]
        exact .brace _ before
      · left
        rw [alone, before]
        refine .ite (fun _ => ?_) fun _ => .same _ ('{' :: rest) List.suffix_rfl rfl
        refine (Keeps.braced verbose (fun c => c.isAlpha || c == '-') rest (by decide)
          fun name left => ?_).widen (List.suffix_cons _ _)
        have found (atom : Atom) : Keeps left (.ok (atom, left)) (.ok (atom, left ++ closing)) :=
          .same atom left List.suffix_rfl rfl
        refine .ite (fun _ => found _) fun _ => ?_
        refine .ite (fun _ => found _) fun _ => ?_
        refine .ite (fun _ => found _) fun _ => ?_
        exact .ite (fun _ => found _) fun _ => .refused _
    · rw [before]
      exact .inl (.refused _)
  · left
    unfold boundaryEscape
    split
    · exact absurd rfl (other _)
    · exact .same _ text List.suffix_rfl rfl

/-- A backslash at the end of a text makes a literal of the parenthesis. -/
theorem escape_keeps (verbose : Bool) (text : List Char) :
    Keeps text (escape verbose text) (escape verbose (text ++ closing)) ∨
      Stranded verbose (.condition (.boundary true)) (escape verbose (text ++ closing)) := by
  rcases text with _ | ⟨c, rest⟩
  · exact .inl (.spent _ ['$'] List.suffix_rfl)
  have behind : rest <:+ c :: rest := List.suffix_cons c rest
  have found (atom : Atom) : Keeps (c :: rest) (.ok (atom, rest)) (.ok (atom, rest ++ closing)) :=
    .same atom rest behind rfl
  by_cases boundary : c = 'b'
  · subst boundary
    exact (boundaryEscape_keeps verbose rest).imp (.widen behind) id
  · left
    refine .ite (fun _ => .refused _) fun _ => ?_
    refine .ite (fun _ => (hexEscape_keeps verbose 2 rest (by decide)).widen behind) fun _ => ?_
    refine .ite (fun _ => (hexEscape_keeps verbose 4 rest (by decide)).widen behind) fun _ => ?_
    refine .ite (fun _ => (hexEscape_keeps verbose 8 rest (by decide)).widen behind) fun _ => ?_
    refine .ite (fun _ => (propertyEscape_keeps verbose _ rest).widen behind) fun _ => ?_
    cases letterClass? c with
    | some kind => exact found _
    | none =>
      cases controlEscape? c with
      | some control => exact found _
      | none =>
        refine .ite (fun _ => found _) fun _ => ?_
        refine .ite (fun _ => found _) fun _ => ?_
        refine .ite (fun same => absurd (beq_iff_eq.mp same) boundary) fun _ => ?_
        refine .ite (fun _ => found _) fun _ => ?_
        refine .ite (fun _ => found _) fun _ => ?_
        refine .ite (fun _ => found _) fun _ => ?_
        exact .ite (fun _ => found _) fun _ => .refused _

/-! ### Repetitions -/

theorem count?_keeps (verbose : Bool) (text : List Char) :
    Keeps text (count? verbose text) (count? verbose (text ++ closing)) := by
  unfold count?
  rw [dropBlanks_closing]
  obtain ⟨digits, left, part, alone, before | ⟨others, before⟩⟩ :=
    takeSpaced_closing verbose isDigit (text.dropWhile isBlank) (by decide)
  · rw [alone, before]
    have behind : left.dropWhile isBlank <:+ text :=
      (List.dropWhile_suffix _).trans (part.trans (List.dropWhile_suffix _))
    simp only [dropBlanks_closing]
    refine .ite (fun _ => .same _ _ behind rfl) fun _ => ?_
    exact .ite (fun _ => .same _ _ behind rfl) fun _ => .refused _
  · rw [before]
    exact .either (fun _ => .spent _ [] List.nil_suffix) fun _ =>
      .either (fun _ => .spent _ [] List.nil_suffix) fun _ => .refused _

theorem dropReluctance_closing (text : List Char) :
    dropReluctance (text ++ closing) = dropReluctance text ++ closing := by
  rcases text with _ | ⟨c, rest⟩
  · rfl
  · by_cases mark : c = '?'
    · subst mark
      rfl
    · simp [dropReluctance, mark]

theorem dropReluctance_suffix (text : List Char) : dropReluctance text <:+ text := by
  unfold dropReluctance
  split
  · exact List.suffix_cons _ _
  · exact List.suffix_rfl

/-- Reads the end of a counted repetition whose bounds have been read. -/
def repetitionEnd (verbose : Bool) (least most : Option Nat) (text : List Char) :
    Except PatternError (WithRest Token) :=
  match least, text with
  | some least, '}' :: rest =>
    if most.all (least ≤ ·) then
      pure (Token.repetition least most, dropReluctance (spaced verbose rest))
    else throw .invalidRepetition
  | _, _ => throw .invalidRepetition

theorem repetitionEnd_keeps (verbose : Bool) (least most : Option Nat) (text : List Char) :
    Keeps text (repetitionEnd verbose least most text)
      (repetitionEnd verbose least most (text ++ closing)) := by
  unfold repetitionEnd
  rcases least with _ | least
  · exact .refused _
  rcases starts_or_not '}' text (by decide) with ⟨rest, rfl⟩ | ⟨aloneNot, beforeNot⟩
  · simp only [List.cons_append]
    refine .ite (fun _ => ?_) fun _ => .refused _
    obtain ⟨left, part, alone, before | before⟩ := spaced_closing verbose rest
    · rw [alone, before, dropReluctance_closing]
      have behind := (dropReluctance_suffix left).trans (part.trans (List.suffix_cons '}' rest))
      exact .same _ _ behind rfl
    · rw [before]
      exact .spent _ [] List.nil_suffix
  · split
    · exact absurd rfl (aloneNot _)
    · split
      · next start => exact absurd start (beforeNot _)
      · exact .refused _

theorem countedRepetition_of_stranded {verbose : Bool} {rest : List Char}
    (hidden : spaced verbose rest = closing) :
    countedRepetition verbose rest = .error .invalidRepetition := by
  rw [countedRepetition, hidden]
  cases verbose <;> rfl

theorem countedRepetition_keeps (verbose : Bool) (text : List Char) :
    Keeps text (countedRepetition verbose text) (countedRepetition verbose (text ++ closing)) := by
  unfold countedRepetition
  obtain ⟨left, part, alone, before | before⟩ := spaced_closing verbose text
  · rw [alone, before]
    refine ((count?_keeps verbose left).bind (fun least rest part => ?_)
      (fun least rest beyond => ?_)).widen part
    · dsimp only
      rcases starts_or_not ',' rest (by decide) with ⟨more, rfl⟩ | ⟨aloneNot, beforeNot⟩
      · refine Keeps.widen (List.suffix_cons _ _) ?_
        obtain ⟨left, part, alone, before | before⟩ := spaced_closing verbose more
        · simp only [List.cons_append, alone, before]
          refine Keeps.widen part ?_
          rcases starts_or_not '}' left (by decide) with ⟨more, rfl⟩ | ⟨aloneNot, beforeNot⟩
          · exact repetitionEnd_keeps verbose least none _
          · split
            · exact absurd rfl (aloneNot _)
            · refine (count?_keeps verbose left).bind (fun most rest part => ?_)
                (fun most rest beyond => ?_)
              · cases most with
                | none => exact .refused _
                | some most => exact repetitionEnd_keeps verbose least (some most) rest
              · cases most with
                | none => exact .refused _
                | some most =>
                  rcases spent_cases beyond with rfl | rfl <;> cases least <;> exact .refused _
        · simp only [List.cons_append, before]
          exact .refused _
      · split
        · exact absurd rfl (aloneNot _)
        · exact repetitionEnd_keeps verbose least least rest
    · rcases spent_cases beyond with rfl | rfl <;> cases least <;> exact .refused _
  · rw [before]
    exact .refused _

/-! ### Groups -/

theorem groupName_keeps (text : List Char) :
    Keeps text (groupName text) (groupName (text ++ closing)) := by
  unfold groupName
  rcases dropWhile_closing (· != '>') text with ⟨c, rest, part, alone, before, name⟩ | ⟨_, before⟩
  · rw [alone, before, name]
    have behind : rest <:+ text := (List.suffix_cons c rest).trans part
    cases text.takeWhile (· != '>') with
    | nil => exact .refused _
    | cons first others => exact .ite (fun _ => .same _ rest behind rfl) fun _ => .refused _
  · have none : (text ++ closing).dropWhile (· != '>') = [] := before
    rw [none]
    cases (text ++ closing).takeWhile (· != '>') <;> exact .refused _

/-- Flags at the end of a text are ended by the parenthesis. -/
theorem flags_keeps (changes : ModeChanges) (negated dangling : Bool) (text : List Char) :
    Keeps text (flags changes negated dangling text)
      (flags changes negated dangling (text ++ closing)) := by
  induction text generalizing changes negated dangling with
  | nil =>
    cases dangling with
    | true => exact .refused _
    | false =>
      cases changes with
      | nil => exact .refused _
      | cons change changes => exact .spent _ ['$'] List.suffix_rfl
  | cons c rest ih =>
    have behind : rest <:+ c :: rest := List.suffix_cons c rest
    refine .ite (fun _ => .ite (fun _ => .refused _) fun _ => .same _ rest behind rfl) fun _ => ?_
    refine .ite (fun _ => ?_) fun _ => ?_
    · refine .ite (fun _ => .refused _) fun _ => ?_
      exact .ite (fun _ => .refused _) fun _ => .same _ rest behind rfl
    refine .ite (fun _ => ?_) fun _ => ?_
    · exact .ite (fun _ => .refused _) fun _ => (ih changes true true).widen behind
    cases Mode.ofLetter? c with
    | none => exact .refused _
    | some mode => exact .ite (fun _ => .refused _) fun _ => (ih _ _ _).widen behind

theorem group_of_plain {verbose : Bool} {text left : List Char} (start : spaced verbose text = left)
    (plain : ∀ rest, left ≠ '?' :: rest) : group verbose text = .ok (.openGroup none [], left) := by
  grind [group]

theorem group_of_flags {verbose : Bool} {text left : List Char}
    (start : spaced verbose text = '?' :: left) (ahead : ∀ rest, left ≠ '=' :: rest)
    (notAhead : ∀ rest, left ≠ '!' :: rest) (unnamed : ∀ rest, left ≠ '<' :: rest)
    (alsoUnnamed : ∀ rest, left ≠ 'P' :: '<' :: rest) :
    group verbose text = flags [] false false left := by
  grind [group]

theorem group_of_name {verbose : Bool} {text left : List Char}
    (start : spaced verbose text = '?' :: '<' :: left) (behind : ∀ rest, left ≠ '=' :: rest)
    (notBehind : ∀ rest, left ≠ '!' :: rest) : group verbose text = groupName left := by
  grind [group]

theorem group_keeps (verbose : Bool) (text : List Char) :
    Keeps text (group verbose text) (group verbose (text ++ closing)) := by
  obtain ⟨left, part, alone, before | before⟩ := spaced_closing verbose text
  · refine Keeps.widen part ?_
    rcases starts_or_not '?' left (by decide) with ⟨left, rfl⟩ | ⟨plain, plainBefore⟩
    · refine Keeps.widen (List.suffix_cons _ _) ?_
      rcases starts_or_not '=' left (by decide) with ⟨left, rfl⟩ | ⟨ahead, aheadBefore⟩
      · rw [group, group, before]
        exact .refused _
      rcases starts_or_not '!' left (by decide) with ⟨left, rfl⟩ | ⟨notAhead, notAheadBefore⟩
      · rw [group, group, before]
        exact .refused _
      rcases starts_or_not '<' left (by decide) with ⟨left, rfl⟩ | ⟨unnamed, unnamedBefore⟩
      · refine Keeps.widen (List.suffix_cons _ _) ?_
        rcases starts_or_not '=' left (by decide) with ⟨left, rfl⟩ | ⟨behind, behindBefore⟩
        · rw [group, group, before]
          exact .refused _
        rcases starts_or_not '!' left (by decide) with ⟨left, rfl⟩ | ⟨notBehind, notBehindBefore⟩
        · rw [group, group, before]
          exact .refused _
        rw [group_of_name alone behind notBehind,
          group_of_name before behindBefore notBehindBefore]
        exact groupName_keeps left
      · rcases starts_or_not_pair 'P' '<' left (by decide) (by decide) with
          ⟨rest, rfl⟩ | ⟨alsoUnnamed, alsoUnnamedBefore⟩
        · rw [group, group, alone, before]
          exact (groupName_keeps rest).widen ((List.suffix_cons _ _).trans (List.suffix_cons _ _))
        · rw [group_of_flags alone ahead notAhead unnamed alsoUnnamed,
            group_of_flags before aheadBefore notAheadBefore unnamedBefore alsoUnnamedBefore]
          exact flags_keeps [] false false left
    · rw [group_of_plain alone plain, group_of_plain before plainBefore]
      exact .same _ left List.suffix_rfl rfl
  · rw [group_of_plain before nofun]
    exact .spent _ [] List.nil_suffix

end TrackBrowser.Pattern
