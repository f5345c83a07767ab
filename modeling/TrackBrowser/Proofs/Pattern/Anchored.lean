/-
Module: TrackBrowser.Proofs.Pattern.Anchored
Purpose: What an anchored pattern is read as.
-/
import TrackBrowser.Proofs.Pattern.ClosingTokens

/-!
The group that `(?:` opens is the outermost one of an anchored pattern.  While the pattern is read,
the assembly is the one of the pattern alone inside that group (`Assembly.within`), token by token,
unless the pattern closes a group that it has not opened: then it ends the outermost group itself.
Where the whole is accepted and this does not happen, the closing ends the group, and the pattern is
an expression by itself (`parse_anchored`).
-/

namespace TrackBrowser.Pattern

namespace Assembly

variable {enclosing : List (Modes × Level)}

/-- An assembly inside groups that were opened before. -/
def within (enclosing : List (Modes × Level)) (assembly : Assembly) : Assembly :=
  { assembly with outer := assembly.outer ++ enclosing }

theorem outer_within_ne_nil (frame : Modes × Level) (assembly : Assembly) :
    (assembly.within [frame]).outer ≠ [] :=
  List.append_ne_nil_of_right_ne_nil _ (List.cons_ne_nil _ _)

/-! ### One token -/

/-- A token is taken in inside other groups as it is without them, unless it closes one of them. -/
theorem take_within (assembly : Assembly) {next : Token}
    (own : next = .closeGroup → assembly.outer ≠ []) :
    (assembly.within enclosing).take next = (assembly.take next).map (within enclosing) := by
  cases next with
  | openGroup name changes =>
    cases name with
    | none => rfl
    | some name =>
      show (if assembly.names.contains name = true then _ else _) =
        Except.map (within enclosing) (if assembly.names.contains name = true then _ else _)
      by_cases known : assembly.names.contains name = true
      · rw [if_pos known, if_pos known]
        rfl
      · rw [if_neg known, if_neg known]
        rfl
  | closeGroup =>
    obtain ⟨frame, outer, opened⟩ := List.exists_cons_of_ne_nil (own rfl)
    simp [take, within, opened, Except.map]
  | bar => rfl
  | setModes changes => rfl
  | repetition least most =>
    simp only [take, within]
    cases assembly.level.repeatLast least most <;> rfl
  | atom written =>
    simp only [take, within]
    cases written.toExpr assembly.modes <;> rfl
  | bracket tree =>
    simp only [take, within]
    cases tree.toSet assembly.modes <;> rfl

theorem take_closeGroup {assembly : Assembly} (bare : assembly.outer = []) :
    assembly.take .closeGroup = .error .unopenedGroup := by
  simp only [take, bare]

/-- What taking in all tokens does with the first one. -/
theorem takeAll_step {assembly : Assembly} {text : List Char} {c : Char} {left : List Char}
    (start : spaced assembly.modes.verbose text = c :: left) (fuel : Nat) :
    takeAll (fuel + 1) assembly text =
      token assembly.modes.verbose (c :: left) >>= fun read =>
        assembly.take read.1 >>= fun after => takeAll fuel after read.2 := by
  rw [takeAll, start]

theorem takeAll_within_step {assembly : Assembly} {text : List Char} {c : Char} {left : List Char}
    (start : spaced assembly.modes.verbose text = c :: left) (fuel : Nat) :
    takeAll (fuel + 1) (assembly.within enclosing) text =
      token assembly.modes.verbose (c :: left) >>= fun read =>
        (assembly.within enclosing).take read.1 >>= fun after => takeAll fuel after read.2 := by
  have start : spaced (assembly.within enclosing).modes.verbose text = c :: left := start
  exact takeAll_step start fuel

/-- A token that was taken in inside other groups can be taken in without them. -/
theorem exists_take {assembly final : Assembly} {next : Token} {rest : List Char} {fuel : Nat}
    (own : next = .closeGroup → assembly.outer ≠ [])
    (read : ((assembly.within enclosing).take next >>= fun after => takeAll fuel after rest) =
      .ok final) :
    ∃ after, assembly.take next = .ok after ∧
      takeAll fuel (after.within enclosing) rest = .ok final := by
  rw [take_within assembly own] at read
  cases taken : assembly.take next with
  | error error =>
    rw [taken] at read
    cases read
  | ok after =>
    rw [taken] at read
    exact ⟨after, rfl, read⟩

theorem takeAll_nil {assembly : Assembly} {text : List Char}
    (start : spaced assembly.modes.verbose text = []) (fuel : Nat) :
    takeAll fuel assembly text = .ok assembly := by
  cases fuel with
  | zero => rfl
  | succ fuel => rw [takeAll, start]

/-- The dollar sign of the closing. -/
theorem takeAll_dollar (assembly : Assembly) (fuel : Nat) :
    takeAll (fuel + 1) assembly ['$'] =
      .ok (assembly.add (.condition (if assembly.modes.multiLine then
        if assembly.modes.crlf then .lineEndCrlf else .lineEnd else .textEnd)) 0) := by
  have start : spaced assembly.modes.verbose ['$'] = ['$'] :=
    spaced_beyond _ (List.suffix_cons ')' _)
  rw [takeAll_step start]
  exact takeAll_nil (spaced_beyond _ List.nil_suffix) fuel

/-- Nothing behind the parenthesis closes a group. -/
theorem takeAll_spent {assembly final : Assembly} {rest : List Char} (beyond : rest <:+ ['$'])
    {fuel : Nat} (read : takeAll fuel assembly rest = .ok final) :
    final.outer = assembly.outer := by
  rcases spent_cases beyond with rfl | rfl
  · rw [takeAll_nil (spaced_beyond _ List.nil_suffix)] at read
    cases read
    rfl
  · rcases fuel with _ | fuel
    · cases read
      rfl
    · rw [takeAll_dollar] at read
      cases read
      rfl

/-- Behind a brace that is left for a repetition the closing is no repetition. -/
theorem takeAll_stranded (assembly : Assembly) {rest : List Char}
    (hidden : spaced assembly.modes.verbose rest = closing) (fuel : Nat) :
    takeAll (fuel + 1) assembly ('{' :: rest) = .error .invalidRepetition := by
  rw [takeAll_step (spaced_brace _ rest)]
  have counted : token assembly.modes.verbose ('{' :: rest) = .error .invalidRepetition :=
    countedRepetition_of_stranded hidden
  rw [counted]
  rfl

/-- The assembly after the end of its last group, which was opened at `level` under the first
modes. -/
def closed (level : Level) (assembly : Assembly) : Assembly :=
  { assembly with
    modes := {}
    level := level.add assembly.level.content.1 (assembly.level.content.2 + 1)
    outer := [] }

/-- The closing itself. -/
theorem takeAll_closing {assembly : Assembly} {text : List Char} (bare : assembly.outer = [])
    (start : spaced assembly.modes.verbose text = closing) (level : Level) (fuel : Nat) :
    takeAll (fuel + 2) (assembly.within [({}, level)]) text =
      .ok ((assembly.closed level).add (.condition .textEnd) 0) := by
  have closes : (assembly.within [({}, level)]).take .closeGroup = .ok (assembly.closed level) := by
    simp only [take, within, bare, List.nil_append, closed]
  have paren : token assembly.modes.verbose (')' :: ['$']) = .ok (.closeGroup, ['$']) := rfl
  rw [takeAll_within_step start, paren]
  simp only [Bind.bind, Except.bind, closes]
  exact takeAll_dollar _ fuel

/-- Where the text has an open group of its own the closing ends that one. -/
theorem outer_ne_nil_of_nested {assembly final : Assembly} {text : List Char}
    {frame : Modes × Level} (nested : assembly.outer ≠ [])
    (start : spaced assembly.modes.verbose text = closing) {fuel : Nat}
    (read : takeAll fuel (assembly.within [frame]) text = .ok final) : final.outer ≠ [] := by
  rcases fuel with _ | fuel
  · cases read
    exact outer_within_ne_nil frame assembly
  · have paren : token assembly.modes.verbose (')' :: ['$']) = .ok (.closeGroup, ['$']) := rfl
    rw [takeAll_within_step start, paren] at read
    obtain ⟨after, -, read⟩ := exists_take (fun _ => nested) read
    rw [takeAll_spent List.suffix_rfl read]
    exact outer_within_ne_nil frame after

/-! ### A whole text -/

/-- What is taken in from a text inside a group that the closing ends.  The text alone may close a
group that it has not opened; else it can be taken in alone, and the closing ends the group.  The
induction is on the fuel of the longer text, over one token after the other. -/
theorem takeAll_within (level : Level) {final : Assembly} (done : final.outer = []) (other : Nat) :
    ∀ (fuel : Nat) (assembly : Assembly) (text : List Char), text.length < fuel →
      text.length + 2 < other →
      takeAll other (assembly.within [({}, level)]) (text ++ closing) = .ok final →
      takeAll fuel assembly text = .error .unopenedGroup ∨
      ∃ own, takeAll fuel assembly text = .ok own ∧ own.outer = [] ∧
        final = (own.closed level).add (.condition .textEnd) 0 := by
  induction other with
  | zero =>
    intro fuel assembly text _ enough
    exact absurd enough (Nat.not_lt_zero _)
  | succ other ih =>
    intro fuel assembly text enough enoughBefore read
    obtain ⟨fuel, rfl⟩ : ∃ less, fuel = less + 1 := ⟨fuel - 1, by omega⟩
    obtain ⟨other, rfl⟩ : ∃ less, other = less + 1 := ⟨other - 1, by omega⟩
    obtain ⟨left, part, alone, before | before⟩ := spaced_closing assembly.modes.verbose text
    · rcases left with _ | ⟨c, left⟩
      · -- the text is over
        rw [takeAll_nil alone]
        by_cases bare : assembly.outer = []
        · rw [takeAll_closing bare before] at read
          cases read
          exact .inr ⟨assembly, rfl, bare, rfl⟩
        · exact absurd done (outer_ne_nil_of_nested bare before read)
      · have shorter : left.length < text.length := part.length_le
        rw [List.cons_append] at before
        rw [takeAll_within_step before] at read
        rw [takeAll_step alone]
        rcases token_keeps assembly.modes.verbose c left with keeps | stranded
        · rcases keeps.ways with ⟨error, before⟩ | ⟨next, rest, inside, alone, before⟩ |
            ⟨next, rest, beyond, before⟩
          · rw [before] at read
            cases read
          · have := inside.length_le
            rw [before] at read
            rw [alone]
            by_cases own : next = .closeGroup → assembly.outer ≠ []
            · obtain ⟨after, taken, read⟩ := exists_take own read
              simp only [Bind.bind, Except.bind, taken]
              exact ih fuel after rest (by omega) (by omega) read
            · obtain ⟨closes, bare⟩ := Classical.not_imp.mp own
              left
              rw [closes]
              simp only [Bind.bind, Except.bind, take_closeGroup (Classical.not_not.mp bare)]
          · -- the parenthesis is gone, so the token is not the one that closes a group
            have own : next = .closeGroup → assembly.outer ≠ [] := by
              rintro rfl
              have two := beyond.length_le
              rw [(eq_paren_of_closeGroup before).2, List.length_append] at two
              exact absurd two (Nat.not_le_of_lt (Nat.lt_add_left left.length (by decide)))
            rw [before] at read
            obtain ⟨after, -, read⟩ := exists_take own read
            rw [takeAll_spent beyond read] at done
            exact absurd done (outer_within_ne_nil _ after)
        · obtain ⟨rest, hidden, before⟩ := stranded.exists_rest
          rw [before] at read
          have fails := takeAll_stranded ((assembly.within [({}, level)]).add
            (.condition (.boundary assembly.modes.unicode)) 0) hidden other
          cases fails.symm.trans read
    · have before : spaced (assembly.within [({}, level)]).modes.verbose (text ++ closing) = [] :=
        before
      rw [takeAll_nil before] at read
      cases read
      exact absurd done (outer_within_ne_nil _ assembly)

end Assembly

/-! ### The pattern as an expression -/

/-- The expression that matches what another one matches, as long as this is the whole text. -/
def Expr.whole (expr : Expr) : Expr :=
  .sequence (.condition .textStart) (.sequence expr (.condition .textEnd))

/-- The group around an anchored pattern. -/
def anchor : Level :=
  { parts := [.expr (.condition .textStart) 0] }

theorem takeAll_anchored (text : List Char) (fuel : Nat) :
    Assembly.takeAll (fuel + 2) {} (anchored text) =
      Assembly.takeAll fuel (({} : Assembly).within [({}, anchor)]) (text ++ closing) := by
  rfl

/-- Anchoring nests an expression two levels deeper. -/
theorem content_closed (own : Assembly) :
    ((own.closed anchor).add (.condition .textEnd) 0).level.content =
      (own.level.content.1.whole, own.level.content.2 + 2) := by
  simp [Assembly.closed, Assembly.add, Level.add, anchor, Level.content, Level.lastBranch,
    Level.partContent, Expr.whole]

/-- A text is an expression if its tokens are taken in, all groups are closed, and the result is not
nested too deeply. -/
theorem parse_of_takeAll {text : List Char} {assembly : Assembly} {expr : Expr} {depth : Nat}
    (taken : Assembly.takeAll (text.length + 1) {} text = .ok assembly)
    (closed : assembly.outer = []) (content : assembly.level.content = (expr, depth))
    (shallow : ¬ depthLimit < depth) : parse text = .ok expr := by
  rw [parse, taken]
  simp only [Bind.bind, Except.bind, closed, content, List.isEmpty_nil, if_true, if_neg shallow]
  rfl

/-- An anchored pattern is an expression only if the pattern is one, with one exception: it may
close a group that it has not opened, which for itself is an error. -/
theorem parse_anchored {text : List Char} {expr : Expr} (read : parse (anchored text) = .ok expr) :
    parse text = .error .unopenedGroup ∨ ∃ own, parse text = .ok own ∧ expr = own.whole := by
  have length : (anchored text).length + 1 = (text.length + 5) + 2 := by
    simp [anchored]
  unfold parse at read
  rw [length, takeAll_anchored] at read
  cases taken : Assembly.takeAll (text.length + 5) (({} : Assembly).within [({}, anchor)])
    (text ++ closing) with
  | error error =>
    rw [taken] at read
    cases read
  | ok final =>
    rw [taken] at read
    simp only [Bind.bind, Except.bind] at read
    split at read
    · next done =>
      rcases Assembly.takeAll_within anchor (List.isEmpty_iff.mp done) _ (text.length + 1) {} text
        (Nat.lt_succ_self _) (by omega) taken with unopened | ⟨own, alone, bare, rfl⟩
      · left
        rw [parse, unopened]
        rfl
      · right
        rw [content_closed] at read
        split at read
        · cases read
        next shallow =>
        cases read
        refine ⟨own.level.content.1, ?_, rfl⟩
        have shallow : ¬ depthLimit < own.level.content.2 := by omega
        exact parse_of_takeAll alone bare rfl shallow
    · cases read

end TrackBrowser.Pattern
