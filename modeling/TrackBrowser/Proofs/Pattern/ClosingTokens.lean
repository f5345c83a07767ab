/-
Module: TrackBrowser.Proofs.Pattern.ClosingTokens
Purpose: Bracketed classes and tokens with a closing parenthesis behind them.
-/
import TrackBrowser.Proofs.Pattern.Closing

/-!
Inside brackets a parenthesis is a member like any other, and a class that is still open takes the
whole closing.  But then it finds no closing bracket, so a class is only read to its end where it
would have ended in the text alone (`classRest_spent`, `classRest_keeps`).  With this every token
keeps to its text or has taken the closing parenthesis, and no token but the parenthesis itself
closes a group.
-/

namespace TrackBrowser.Pattern

open TrackBrowser.Text (isBlank isDigit)

/-! ### Named classes -/

/-- Reads the name of an ASCII class after the sign of negation. -/
def asciiClassNamed? (negated : Bool) (text : List Char) : Option (Bracket × List Char) :=
  match text.dropWhile (· != ':') with
  | ':' :: ']' :: after =>
    (AsciiClass.ofName? (String.ofList (text.takeWhile (· != ':')))).map fun kind =>
      (.asciiClass kind negated, after)
  | _ => none

theorem asciiClass?_of_plain {text : List Char} (plain : ∀ rest, text ≠ '^' :: rest) :
    asciiClass? (':' :: text) = asciiClassNamed? false text := by
  simp only [asciiClass?]
  rfl

theorem asciiClassNamed?_closing (negated : Bool) (text : List Char) :
    (asciiClassNamed? negated text = none ∧ asciiClassNamed? negated (text ++ closing) = none) ∨
    ∃ member rest, rest <:+ text ∧ asciiClassNamed? negated text = some (member, rest) ∧
      asciiClassNamed? negated (text ++ closing) = some (member, rest ++ closing) := by
  unfold asciiClassNamed?
  rcases dropWhile_closing (· != ':') text with
    ⟨c, left, part, alone, before, name⟩ | ⟨alone, before⟩
  · rw [alone, before, name]
    rcases starts_or_not ']' left (by decide) with ⟨left, rfl⟩ | ⟨noClose, noCloseBefore⟩
    · have behind : left <:+ text :=
        ((List.suffix_cons _ _).trans (List.suffix_cons _ _)).trans part
      by_cases colon : c = ':'
      · subst colon
        cases AsciiClass.ofName? (String.ofList (text.takeWhile (· != ':'))) with
        | none => exact .inl ⟨rfl, rfl⟩
        | some kind => exact .inr ⟨_, left, behind, rfl, rfl⟩
      · simp [colon]
    · simp [noClose, noCloseBefore]
  · rw [alone, before]
    exact .inl ⟨rfl, rfl⟩

theorem asciiClass?_closing (text : List Char) :
    (asciiClass? text = none ∧ asciiClass? (text ++ closing) = none) ∨
    ∃ member rest, rest <:+ text ∧ asciiClass? text = some (member, rest) ∧
      asciiClass? (text ++ closing) = some (member, rest ++ closing) := by
  rcases starts_or_not ':' text (by decide) with ⟨text, rfl⟩ | ⟨other, otherBefore⟩
  · have behind : text <:+ ':' :: text := List.suffix_cons _ _
    rcases starts_or_not '^' text (by decide) with ⟨text, rfl⟩ | ⟨plain, plainBefore⟩
    · refine (asciiClassNamed?_closing true text).imp id ?_
      rintro ⟨member, rest, part, alone, before⟩
      exact ⟨member, rest, part.trans ((List.suffix_cons _ _).trans behind), alone, before⟩
    · rw [List.cons_append, asciiClass?_of_plain plain, asciiClass?_of_plain plainBefore]
      refine (asciiClassNamed?_closing false text).imp id ?_
      rintro ⟨member, rest, part, alone, before⟩
      exact ⟨member, rest, part.trans behind, alone, before⟩
  · simp [asciiClass?]

/-! ### Members of a class -/

theorem classAtom_keeps (verbose : Bool) (c : Char) (text : List Char) :
    Keeps text (classAtom verbose (c :: text)) (classAtom verbose (c :: (text ++ closing))) ∨
      Stranded verbose (.condition (.boundary true))
        (classAtom verbose (c :: (text ++ closing))) := by
  by_cases backslash : c = '\\'
  · subst backslash
    exact escape_keeps verbose text
  · left
    simp only [classAtom]
    exact .same _ text List.suffix_rfl rfl

theorem skipBlanks_dropWhile (text : List Char) :
    skipBlanks false text = skipBlanks false (text.dropWhile isBlank) := by
  induction text with
  | nil => rfl
  | cons c rest ih =>
    cases blank : isBlank c with
    | true => rw [skipBlanks, if_pos blank, List.dropWhile_cons, if_pos blank, ih]
    | false => rw [List.dropWhile_cons, if_neg (by simp [blank])]

theorem skipBlanks_blank {text : List Char} (inComment : Bool)
    (blank : text.dropWhile isBlank = []) : skipBlanks inComment text = [] := by
  induction text generalizing inComment with
  | nil => cases inComment <;> rfl
  | cons c rest ih =>
    rw [List.dropWhile_cons] at blank
    split at blank
    · next first =>
      cases inComment with
      | true => exact ih _ blank
      | false => rw [skipBlanks, if_pos first, ih _ blank]
    · cases blank

/-- Looking past blanks sees the parenthesis only where nothing else follows in the text. -/
theorem peekSpaced_closing (verbose : Bool) (text : List Char) :
    peekSpaced verbose (text ++ closing) = peekSpaced verbose text ∨
      peekSpaced verbose (text ++ closing) = some ')' ∧ spaced verbose text = [] := by
  cases verbose with
  | false =>
    cases text with
    | nil => exact .inr ⟨rfl, rfl⟩
    | cons c rest => exact .inl rfl
  | true =>
    have start := skipBlanks_dropWhile text
    simp only [peekSpaced, spaced, dropBlanks_closing, if_true, start]
    cases text.dropWhile isBlank with
    | nil => exact .inr ⟨rfl, rfl⟩
    | cons c rest =>
      by_cases comment : c = '#'
      · subst comment
        simp only [List.cons_append, dropBlanks_closing]
        cases blank : rest.dropWhile isBlank with
        | nil => exact .inr ⟨rfl, skipBlanks_blank true blank⟩
        | cons d rest => exact .inl rfl
      · simp

theorem spaced_brace (verbose : Bool) (text : List Char) :
    spaced verbose ('{' :: text) = '{' :: text := by
  cases verbose <;> rfl

theorem spaced_beyond (verbose : Bool) {rest : List Char} (beyond : rest <:+ closing) :
    spaced verbose rest = rest := by
  rcases List.suffix_cons_iff.mp beyond with rfl | beyond
  · cases verbose <;> rfl
  · rcases spent_cases beyond with rfl | rfl <;> cases verbose <;> rfl

/-- Reads the end of a range whose first character has been read. -/
def rangeEnd (verbose : Bool) (first : Atom) (text : List Char) :
    Except PatternError (WithRest Bracket) := do
  let (last, rest) ← classAtom verbose (spaced verbose text)
  match first, last with
  | .literal first, .literal last =>
    if first.char ≤ last.char then return (.range first last, rest)
    else throw .invalidClassRange
  | _, _ => throw .invalidClassRange

/-- Where nothing follows a hyphen, the parenthesis is taken for the end of a range. -/
theorem rangeEnd_spent (verbose : Bool) (first : Atom) {text : List Char}
    (nothing : spaced verbose text = []) (alone : Except PatternError (WithRest Bracket)) :
    Keeps text alone (rangeEnd verbose first (text ++ closing)) := by
  unfold rangeEnd
  obtain ⟨left, part, same, before | before⟩ := spaced_closing verbose text
  · rw [before, ← same, nothing]
    cases first with
    | literal first => exact .either (fun _ => .spent _ ['$'] List.suffix_rfl) fun _ => .refused _
    | _ => exact .refused _
  · rw [before]
    exact .refused _

theorem rangeEnd_keeps (verbose : Bool) (first : Atom) (text : List Char) :
    Keeps text (rangeEnd verbose first text) (rangeEnd verbose first (text ++ closing)) := by
  obtain ⟨left, part, alone, before | before⟩ := spaced_closing verbose text
  · rcases left with _ | ⟨c, left⟩
    · exact rangeEnd_spent verbose first alone _
    · unfold rangeEnd
      rw [alone, before]
      refine Keeps.widen ((List.suffix_cons c left).trans part) ?_
      rcases classAtom_keeps verbose c left with keeps | stranded
      · refine keeps.bind (fun last rest part => ?_) (fun last rest beyond => ?_)
        · cases first with
          | literal first =>
            cases last with
            | literal last =>
              exact .ite (fun _ => .same _ rest List.suffix_rfl rfl) fun _ => .refused _
            | _ => exact .refused _
          | _ => exact .refused _
        · cases first with
          | literal first =>
            cases last with
            | literal last => exact .either (fun _ => .spent _ rest beyond) fun _ => .refused _
            | _ => exact .refused _
          | _ => exact .refused _
      · obtain ⟨rest, _, before⟩ := stranded.exists_rest
        rw [List.cons_append, before]
        cases first <;> exact .refused _
  · rw [rangeEnd, rangeEnd, before]
    exact .refused _

/-- The last member before the closing is read although it would be the last of a class that is not
closed; the whole closing is left. -/
theorem classMember_keeps (verbose : Bool) (c : Char) (text : List Char) :
    Keeps text (classMember verbose (c :: text)) (classMember verbose (c :: (text ++ closing))) ∨
      ∃ member, classMember verbose (c :: (text ++ closing)) = .ok (member, closing) := by
  unfold classMember
  rcases classAtom_keeps verbose c text with keeps | stranded
  · rcases keeps.ways with ⟨error, before⟩ | ⟨first, rest, part, alone, before⟩ |
      ⟨first, rest, beyond, before⟩
    · rw [before]
      exact .inl (.refused _)
    · rw [alone, before]
      simp only [Bind.bind, Except.bind]
      obtain ⟨left, inside, spacedAlone, spacedBefore | spacedBefore⟩ := spaced_closing verbose rest
      · rw [spacedAlone, spacedBefore]
        rcases left with _ | ⟨d, more⟩
        · cases read : first.toMember with
          | error error => exact .inl (.refused _)
          | ok member => exact .inr ⟨member, rfl⟩
        · left
          refine Keeps.widen (inside.trans part) ?_
          simp only [List.cons_append]
          have behind : more <:+ d :: more := List.suffix_cons d more
          rcases peekSpaced_closing verbose more with same | ⟨paren, nothing⟩
          · rw [same]
            refine .ite (fun _ => ?_) fun _ => ?_
            · exact .outcome first.toMember id (d :: more)
            · exact (rangeEnd_keeps verbose first more).widen behind
          · rw [paren]
            by_cases hyphen : d = '-'
            · subst hyphen
              exact (rangeEnd_spent verbose first nothing _).widen behind
            · have single (next : Option Char) :
                  (d != '-' || next == some ']' || next == some '-') = true := by
                rw [bne_iff_ne.mpr hyphen, Bool.true_or, Bool.true_or]
              rw [if_pos (single _), if_pos (single _)]
              exact .outcome first.toMember id (d :: more)
      · rw [spacedBefore]
        exact .inl (.refused _)
    · rw [before]
      left
      have unspaced := spaced_beyond verbose (beyond.trans (List.suffix_cons ')' _))
      simp only [Bind.bind, Except.bind, unspaced]
      rcases spent_cases beyond with rfl | rfl
      · exact .refused _
      · exact .outcome_of_spent first.toMember id beyond
  · obtain ⟨rest, _, before⟩ := stranded.exists_rest
    rw [before]
    left
    simp only [Bind.bind, Except.bind, spaced_brace]
    exact .refused _

/-- Reads the hyphens that a class starts with, and a closing bracket if it is the first member. -/
def firstMembers (verbose negated : Bool) (text : List Char) :
    Except PatternError (WithRest OpenClass) :=
  let (hyphens, text) := takeSpaced verbose (· == '-') false text
  let members : List Bracket := hyphens.map fun c => .literal ⟨c, false⟩
  match members, text with
  | _, [] => .error .unclosedClass
  | [], ']' :: rest => .ok (⟨negated, none, [.literal ⟨']', false⟩]⟩, spaced verbose rest)
  | members, text => .ok (⟨negated, none, members⟩, text)

theorem openClass_of_negated {verbose : Bool} {text left : List Char}
    (start : spaced verbose text = '^' :: left) :
    openClass verbose text = firstMembers verbose true (spaced verbose left) := by
  simp only [openClass, start]
  rfl

theorem openClass_of_plain {verbose : Bool} {text left : List Char}
    (start : spaced verbose text = left) (plain : ∀ rest, left ≠ '^' :: rest) :
    openClass verbose text = firstMembers verbose false left := by
  simp only [openClass, start]
  rfl

theorem firstMembers_keeps (verbose negated : Bool) (text : List Char) :
    Keeps text (firstMembers verbose negated text)
        (firstMembers verbose negated (text ++ closing)) ∨
      ∃ opened, firstMembers verbose negated (text ++ closing) = .ok (opened, closing) := by
  unfold firstMembers
  obtain ⟨hyphens, left, part, alone, before | ⟨others, before⟩⟩ :=
    takeSpaced_closing verbose (· == '-') text (by decide)
  · rw [alone, before]
    rcases left with _ | ⟨c, rest⟩
    · cases hyphens with
      | nil => exact .inr ⟨_, rfl⟩
      | cons hyphen hyphens => exact .inr ⟨_, rfl⟩
    · left
      refine Keeps.widen part ?_
      cases hyphens with
      | nil =>
        by_cases bracket : c = ']'
        · subst bracket
          obtain ⟨left, part, alone, before | before⟩ := spaced_closing verbose rest
          · simp only [List.map_nil, List.cons_append, alone, before]
            exact .same _ left (part.trans (List.suffix_cons _ rest)) rfl
          · simp only [List.map_nil, List.cons_append, before]
            exact .spent _ [] List.nil_suffix
        · simp only [List.map_nil, List.cons.injEq, bracket, false_and, imp_self, implies_true,
            List.cons_append]
          exact .same _ (c :: rest) List.suffix_rfl rfl
      | cons hyphen hyphens =>
        simp only [List.map_cons, List.cons_append]
        exact .same _ (c :: rest) List.suffix_rfl rfl
  · rw [before]
    exact .inl (.refused _)

theorem openClass_keeps (verbose : Bool) (text : List Char) :
    Keeps text (openClass verbose text) (openClass verbose (text ++ closing)) ∨
      ∃ opened, openClass verbose (text ++ closing) = .ok (opened, closing) := by
  obtain ⟨left, part, alone, before | before⟩ := spaced_closing verbose text
  · rcases starts_or_not '^' left (by decide) with ⟨rest, rfl⟩ | ⟨plain, plainBefore⟩
    · rw [List.cons_append] at before
      rw [openClass_of_negated alone, openClass_of_negated before]
      obtain ⟨left, inside, alone, before | before⟩ := spaced_closing verbose rest
      · rw [alone, before]
        refine (firstMembers_keeps verbose true left).imp (.widen ?_) id
        exact inside.trans ((List.suffix_cons '^' rest).trans part)
      · rw [before]
        exact .inl (.refused _)
    · rw [openClass_of_plain alone plain, openClass_of_plain before plainBefore]
      exact (firstMembers_keeps verbose false left).imp (.widen part) id
  · rw [openClass_of_plain before nofun]
    exact .inl (.refused _)

theorem classRest_congr {verbose : Bool} {text other : List Char}
    (same : spaced verbose text = spaced verbose other) (fuel : Nat) (current : OpenClass)
    (outer : List OpenClass) :
    classRest verbose fuel current outer text = classRest verbose fuel current outer other := by
  cases fuel with
  | zero => rfl
  | succ fuel => rw [classRest, classRest, same]

/-- There is no closing bracket in the closing. -/
theorem classRest_spent (verbose : Bool) (fuel : Nat) (current : OpenClass) (outer : List OpenClass)
    {rest : List Char} (beyond : rest <:+ closing) :
    ∃ error, classRest verbose fuel current outer rest = .error error := by
  have nothing (fuel : Nat) (current : OpenClass) :
      classRest verbose fuel current outer [] = .error .unclosedClass := by
    cases fuel <;> cases verbose <;> rfl
  have dollar (fuel : Nat) (current : OpenClass) :
      classRest verbose fuel current outer ['$'] = .error .unclosedClass := by
    cases fuel <;> cases verbose <;> rfl
  rcases List.suffix_cons_iff.mp beyond with rfl | beyond
  · rcases fuel with _ | fuel
    · exact ⟨_, rfl⟩
    · have paren : classRest verbose (fuel + 1) current outer closing =
          classRest verbose fuel (current.add (.literal ⟨')', false⟩)) outer ['$'] := by
        cases verbose <;> rfl
      exact ⟨_, paren.trans (dollar _ _)⟩
  · rcases spent_cases beyond with rfl | rfl
    · exact ⟨_, nothing _ _⟩
    · exact ⟨_, dollar _ _⟩

/-- What stands in front of the rest of a class may have left the whole closing, but then the class
fails. -/
theorem classRest_after {α : Type} {verbose : Bool} (fuel other : List Char → Nat)
    (current : α → OpenClass) {outer : List OpenClass} {text : List Char}
    {alone before : Except PatternError (WithRest α)}
    (keeps : Keeps text alone before ∨ ∃ value, before = .ok (value, closing))
    (goesOn : ∀ value rest, rest <:+ text →
      Keeps rest (classRest verbose (fuel rest) (current value) outer rest)
        (classRest verbose (other (rest ++ closing)) (current value) outer (rest ++ closing))) :
    Keeps text
      (alone >>= fun read => classRest verbose (fuel read.2) (current read.1) outer read.2)
      (before >>= fun read => classRest verbose (other read.2) (current read.1) outer read.2) := by
  have fails (value : α) (rest : List Char) (beyond : rest <:+ closing)
      {alone : Except PatternError (WithRest Bracket)} :
      Keeps text alone (classRest verbose (other rest) (current value) outer rest) := by
    obtain ⟨error, failing⟩ := classRest_spent verbose (other rest) (current value) outer beyond
    rw [failing]
    exact .refused error
  rcases keeps with keeps | ⟨value, whole⟩
  · refine keeps.bind goesOn fun value rest beyond => ?_
    exact fails value rest (beyond.trans (List.suffix_cons ')' _))
  · rw [whole]
    exact fails value closing List.suffix_rfl

theorem classRest_of_member {verbose : Bool} {fuel : Nat} {current : OpenClass}
    {outer : List OpenClass} {text left : List Char} (start : spaced verbose text = left)
    (some : left ≠ []) (noOpen : ∀ rest, left ≠ '[' :: rest) (noClose : ∀ rest, left ≠ ']' :: rest)
    (noAnd : ∀ rest, left ≠ '&' :: '&' :: rest) (noMinus : ∀ rest, left ≠ '-' :: '-' :: rest)
    (noTilde : ∀ rest, left ≠ '~' :: '~' :: rest) :
    classRest verbose (fuel + 1) current outer text =
      classMember verbose left >>= fun read =>
        classRest verbose fuel (current.add read.1) outer read.2 := by
  grind [classRest]

/-- A class is read to its end where it ends in the text alone.  The induction is on the fuel of the
longer text; the fuel of the text alone only has to be enough. -/
theorem classRest_keeps (verbose : Bool) (fuel : Nat) (current : OpenClass) (outer : List OpenClass)
    (text : List Char) (enough : text.length < fuel) (other : Nat) :
    Keeps text (classRest verbose fuel current outer text)
      (classRest verbose other current outer (text ++ closing)) := by
  induction other generalizing fuel current outer text with
  | zero => exact .refused _
  | succ other ih =>
    obtain ⟨fuel, rfl⟩ : ∃ less, fuel = less + 1 := ⟨fuel - 1, by omega⟩
    obtain ⟨left, part, alone, before | before⟩ := spaced_closing verbose text
    · refine Keeps.widen part ?_
      have goesOn (current : OpenClass) (outer : List OpenClass) {rest : List Char}
          (shorter : rest.length < left.length) :
          Keeps rest (classRest verbose fuel current outer rest)
            (classRest verbose other current outer (rest ++ closing)) := by
        have := part.length_le
        exact ih fuel current outer rest (by omega)
      -- two operators of one character each start a right operand
      have operand (operation : SetOperation) {c : Char} {rest : List Char}
          (start : left = c :: c :: rest) :
          Keeps left (classRest verbose fuel (current.operate operation) outer rest)
            (classRest verbose other (current.operate operation) outer (rest ++ closing)) := by
        subst start
        refine Keeps.widen ((List.suffix_cons c rest).trans (List.suffix_cons c _)) ?_
        exact goesOn _ outer (Nat.lt_succ_of_lt (Nat.lt_succ_self _))
      rcases starts_or_not '[' left (by decide) with ⟨rest, rfl⟩ | ⟨noOpen, noOpenBefore⟩
      · rw [classRest, classRest, alone, before]
        refine Keeps.widen (List.suffix_cons '[' rest) ?_
        simp only [List.cons_append]
        rcases asciiClass?_closing rest with ⟨alone, before⟩ | ⟨member, left, part, alone, before⟩
        · rw [alone, before]
          refine classRest_after (fun _ => fuel) (fun _ => other) id (openClass_keeps verbose rest)
            fun opened left part => ?_
          exact goesOn opened (current :: outer) (Nat.lt_succ_of_le part.length_le)
        · rw [alone, before]
          exact (goesOn _ outer (Nat.lt_succ_of_le part.length_le)).widen part
      rcases starts_or_not ']' left (by decide) with ⟨rest, rfl⟩ | ⟨noClose, noCloseBefore⟩
      · rw [classRest, classRest, alone, before]
        refine Keeps.widen (List.suffix_cons ']' rest) ?_
        cases outer with
        | nil => exact .same _ rest List.suffix_rfl rfl
        | cons enclosing outer => exact goesOn _ outer (Nat.lt_succ_self _)
      rcases starts_or_not_pair '&' '&' left (by decide) (by decide) with
        ⟨rest, rfl⟩ | ⟨noAnd, noAndBefore⟩
      · rw [classRest, classRest, alone, before]
        exact operand .intersection rfl
      rcases starts_or_not_pair '-' '-' left (by decide) (by decide) with
        ⟨rest, rfl⟩ | ⟨noMinus, noMinusBefore⟩
      · rw [classRest, classRest, alone, before]
        exact operand .difference rfl
      rcases starts_or_not_pair '~' '~' left (by decide) (by decide) with
        ⟨rest, rfl⟩ | ⟨noTilde, noTildeBefore⟩
      · rw [classRest, classRest, alone, before]
        exact operand .symmetricDifference rfl
      rcases left with _ | ⟨c, left⟩
      · have same : spaced verbose (text ++ closing) = spaced verbose closing :=
          before.trans (spaced_beyond verbose List.suffix_rfl).symm
        obtain ⟨error, failing⟩ :=
          classRest_spent verbose (other + 1) current outer closing.suffix_rfl
        rw [classRest_congr same, failing]
        exact .refused _
      rw [classRest_of_member alone nofun noOpen noClose noAnd noMinus noTilde,
        classRest_of_member before nofun noOpenBefore noCloseBefore noAndBefore noMinusBefore
          noTildeBefore]
      refine Keeps.widen (List.suffix_cons c left) ?_
      refine classRest_after (fun _ => fuel) (fun _ => other) current.add
        (classMember_keeps verbose c left) fun member rest part => ?_
      exact goesOn _ outer (Nat.lt_succ_of_le part.length_le)
    · rw [classRest, classRest, before]
      exact .refused _

theorem bracketClass_keeps (verbose : Bool) (text : List Char) :
    Keeps text (bracketClass verbose text) (bracketClass verbose (text ++ closing)) :=
  classRest_after (fun rest => rest.length + 1) (fun rest => rest.length + 1) id
    (openClass_keeps verbose text) fun opened rest _ =>
      classRest_keeps verbose (rest.length + 1) opened [] rest (Nat.lt_succ_self _) _

/-! ### Tokens -/

/-- The token that a text starts with. -/
theorem token_keeps (verbose : Bool) (c : Char) (text : List Char) :
    Keeps text (token verbose (c :: text)) (token verbose (c :: (text ++ closing))) ∨
      Stranded verbose (.atom (.condition (.boundary true)))
        (token verbose (c :: (text ++ closing))) := by
  have found (next : Token) : Keeps text (.ok (next, text)) (.ok (next, text ++ closing)) :=
    .same next text List.suffix_rfl rfl
  have mark (least : Nat) (most : Option Nat) :
      Keeps text (.ok (Token.repetition least most, dropReluctance text))
        (.ok (Token.repetition least most, dropReluctance (text ++ closing))) := by
    rw [dropReluctance_closing]
    exact .same _ _ (dropReluctance_suffix text) rfl
  by_cases backslash : c = '\\'
  · subst backslash
    rcases escape_keeps verbose text with keeps | stranded
    · left
      refine keeps.bind (fun atom rest part => ?_) (fun atom rest beyond => ?_)
      · exact .same _ rest List.suffix_rfl rfl
      · exact .spent _ rest beyond
    · right
      obtain ⟨rest, hidden, before⟩ := stranded.exists_rest
      show Stranded _ _
        (do let (atom, rest) ← escape verbose (text ++ closing); return (Token.atom atom, rest))
      rw [before]
      exact .brace rest hidden
  · left
    refine .ite (fun _ => group_keeps verbose text) fun _ => ?_
    refine .ite (fun _ => found _) fun _ => ?_
    refine .ite (fun _ => found _) fun _ => ?_
    refine .ite (fun _ => ?_) fun _ => ?_
    · refine (bracketClass_keeps verbose text).bind (fun tree rest part => ?_)
        (fun tree rest beyond => ?_)
      · exact .same _ rest List.suffix_rfl rfl
      · exact .spent _ rest beyond
    refine .ite (fun _ => mark _ _) fun _ => ?_
    refine .ite (fun _ => mark _ _) fun _ => ?_
    refine .ite (fun _ => mark _ _) fun _ => ?_
    refine .ite (fun _ => countedRepetition_keeps verbose text) fun _ => ?_
    refine .ite (fun same => absurd (beq_iff_eq.mp same) backslash) fun _ => ?_
    refine .ite (fun _ => found _) fun _ => ?_
    refine .ite (fun _ => found _) fun _ => ?_
    exact .ite (fun _ => found _) fun _ => found _

/-! ### What closes a group -/

theorem flags_ne_closeGroup (changes : ModeChanges) (negated dangling : Bool)
    (text rest : List Char) : flags changes negated dangling text ≠ .ok (.closeGroup, rest) := by
  induction text generalizing changes negated dangling with
  | nil => nofun
  | cons c text ih =>
    unfold flags
    grind

theorem group_ne_closeGroup (verbose : Bool) (text rest : List Char) :
    group verbose text ≠ .ok (.closeGroup, rest) := by
  have named (text : List Char) : groupName text ≠ .ok (.closeGroup, rest) := by
    unfold groupName
    grind
  have flagged := flags_ne_closeGroup [] false false
  unfold group
  grind

theorem countedRepetition_ne_closeGroup (verbose : Bool) (text rest : List Char) :
    countedRepetition verbose text ≠ .ok (.closeGroup, rest) := by
  have bounds (least most : Option Nat) (text : List Char) :
      repetitionEnd verbose least most text ≠ .ok (.closeGroup, rest) := by
    unfold repetitionEnd
    split
    · split <;> nofun
    · nofun
  intro closes
  simp only [countedRepetition, Bind.bind, Except.bind] at closes
  split at closes
  · cases closes
  split at closes
  · split at closes
    · exact bounds _ _ _ closes
    · split at closes
      · cases closes
      · split at closes
        · cases closes
        · exact bounds _ _ _ closes
  · exact bounds _ _ _ closes

theorem ite_ne {α : Type} {condition : Prop} [Decidable condition] {yes no value : α}
    (yesNot : condition → yes ≠ value) (noNot : ¬ condition → no ≠ value) :
    (if condition then yes else no) ≠ value :=
  iteInduction (motive := (· ≠ value)) yesNot noNot

/-- Only the parenthesis closes a group. -/
theorem eq_paren_of_closeGroup {verbose : Bool} {c : Char} {text rest : List Char}
    (closes : token verbose (c :: text) = .ok (.closeGroup, rest)) : c = ')' ∧ rest = text := by
  by_cases paren : c = ')'
  · subst paren
    cases closes
    exact ⟨rfl, rfl⟩
  · refine absurd closes ?_
    refine ite_ne (fun _ => group_ne_closeGroup verbose text rest) fun _ => ?_
    refine ite_ne (fun same => absurd (beq_iff_eq.mp same) paren) fun _ => ?_
    refine ite_ne (fun _ => nofun) fun _ => ?_
    refine ite_ne (fun _ => ?_) fun _ => ?_
    · cases bracketClass verbose text <;> nofun
    refine ite_ne (fun _ => nofun) fun _ => ?_
    refine ite_ne (fun _ => nofun) fun _ => ?_
    refine ite_ne (fun _ => nofun) fun _ => ?_
    refine ite_ne (fun _ => countedRepetition_ne_closeGroup verbose text rest) fun _ => ?_
    refine ite_ne (fun _ => ?_) fun _ => ?_
    · cases escape verbose text <;> nofun
    refine ite_ne (fun _ => nofun) fun _ => ?_
    refine ite_ne (fun _ => nofun) fun _ => ?_
    exact ite_ne (fun _ => nofun) fun _ => nofun

end TrackBrowser.Pattern
