/-
Module: TrackBrowser.Proofs.PlainPatterns
Purpose: An exact pattern without special characters matches itself, as an expression too.
-/
import Mathlib.Data.List.Basic
import TrackBrowser.Proofs.WholeText

/-!
A character is plain if it has no meaning of its own in an expression and no other case.  A pattern
of plain characters is read as the sequence of them, which spans the one text that it is; so between
plain texts an exact match is equality, whether the pattern is an expression or not.  An expression
may be too large, so the pattern has to keep to a limit there.
-/

namespace TrackBrowser

namespace Pattern

/-! ### Plain characters -/

/-- The characters that mean something else in an expression. -/
def specialChars : List Char :=
  ['(', ')', '|', '[', '?', '*', '+', '{', '\\', '.', '^', '$']

/-- Whether a character stands for itself and for no other one. -/
def isPlain (c : Char) : Bool :=
  !specialChars.contains c && variants {} c == .single c && Unicode.lowerChar c == [c]

/-- Whether all characters of a text are plain. -/
def PlainText (text : List Char) : Prop :=
  ∀ c ∈ text, isPlain c = true

section Char

variable {c : Char}

theorem isPlain_iff :
    isPlain c = true ↔
      c ∉ specialChars ∧ variants {} c = .single c ∧ Unicode.lowerChar c = [c] := by
  simp [isPlain, and_assoc]

/-- A character that is not special is an atom. -/
theorem token_of_plain (plain : isPlain c = true) (verbose : Bool) (rest : List Char) :
    token verbose (c :: rest) = .ok (.atom (.literal ⟨c, false⟩), rest) := by
  have ordinary := (isPlain_iff.mp plain).1
  simp only [specialChars, List.mem_cons, List.not_mem_nil, or_false, not_or] at ordinary
  simp [token, ordinary]

theorem CharSet.contains_single {d : Char} : (CharSet.single c).contains d = true ↔ d = c := by
  rw [single, contains, Bool.and_eq_true, decide_eq_true_eq, decide_eq_true_eq]
  constructor
  · rintro ⟨low, high⟩
    exact Char.le_antisymm high low
  · rintro rfl
    exact ⟨Char.le_refl _, Char.le_refl _⟩

/-- A sequence stands at a place of a text if its first character does and the others follow. -/
theorem prefix_drop_cons {rest text : List Char} {place : Nat} :
    c :: rest <+: text.drop place ↔ text[place]? = some c ∧ rest <+: text.drop (place + 1) := by
  rw [← List.head?_drop, ← List.tail_drop]
  cases text.drop place with
  | nil => simp
  | cons d others => simp [List.cons_prefix_cons, eq_comm]

end Char

/-! ### Reading a plain text -/

/-- The sequence of some characters and a last one. -/
def sequenceOf (front : List Char) (last : Char) : Expr :=
  front.foldr (fun c rest => .sequence (.char (.single c)) rest) (.char (.single last))

/-- Such a sequence spans what is the same text, and nothing else. -/
theorem sequenceOf_spans (front : List Char) (last : Char) (text : List Char) (first stop : Nat) :
    (sequenceOf front last).Spans text first stop ↔
      stop = first + (front.length + 1) ∧ front ++ [last] <+: text.drop first := by
  induction front generalizing first with
  | nil =>
    have single (found : Option Char) :
        (∃ c, found = some c ∧ (CharSet.single last).contains c = true) ↔ found = some last := by
      simp [CharSet.contains_single]
    rw [List.nil_append, prefix_drop_cons, ← single]
    simp [sequenceOf, Expr.Spans]
  | cons c front ih =>
    have split : (sequenceOf (c :: front) last).Spans text first stop ↔
        ∃ middle, (Expr.char (.single c)).Spans text first middle ∧
          (sequenceOf front last).Spans text middle stop := Iff.rfl
    rw [split, List.cons_append, prefix_drop_cons]
    simp only [ih, Expr.Spans, CharSet.contains_single]
    rw [List.length_cons]
    constructor
    · rintro ⟨_, ⟨rfl, _, here, rfl⟩, rfl, rest⟩
      exact ⟨by omega, here, rest⟩
    · rintro ⟨rfl, here, rest⟩
      exact ⟨first + 1, ⟨rfl, c, here, rfl⟩, by omega, rest⟩

/-- No character counts for more than 184 bytes, 64 of them for being an expression by itself. -/
theorem sequenceOf_size (front : List Char) (last : Char) :
    (sequenceOf front last).size ≤ 184 * (front.length + 1) := by
  have single (c : Char) : (Expr.char (.single c)).size ≤ 184 := by
    simp only [Expr.size, CharSet.single, CharSet.size]
    split <;> decide
  induction front with
  | nil => exact single last
  | cons c front ih =>
    have split : (sequenceOf (c :: front) last).size =
        (Expr.char (.single c)).size + (sequenceOf front last).size := rfl
    have this := single c
    rw [split, List.length_cons]
    omega

/-- A plain character as a part of a sequence. -/
def plainPart (c : Char) : Part :=
  .expr (.char (.single c)) 0

namespace Assembly

/-- The assembly after some plain characters. -/
def addChars (assembly : Assembly) (text : List Char) : Assembly :=
  { assembly with
    level :=
      { assembly.level with parts := (text.map plainPart).reverse ++ assembly.level.parts } }

theorem addChars_cons (assembly : Assembly) (c : Char) (text : List Char) :
    assembly.addChars (c :: text) = (assembly.add (.char (.single c)) 0).addChars text := by
  simp [addChars, add, Level.add, plainPart]

/-- Plain characters are taken in one by one, each as itself. -/
theorem takeAll_plain {assembly : Assembly} (modes : assembly.modes = {}) {text : List Char}
    (plain : PlainText text) (rest : List Char) (fuel : Nat) :
    takeAll (fuel + text.length) assembly (text ++ rest) =
      takeAll fuel (assembly.addChars text) rest := by
  induction text generalizing assembly with
  | nil => rfl
  | cons c text ih =>
    obtain ⟨here, others⟩ := List.forall_mem_cons.mp plain
    have start : spaced assembly.modes.verbose (c :: (text ++ rest)) = c :: (text ++ rest) := by
      rw [modes]
      rfl
    have taken : assembly.take (.atom (.literal ⟨c, false⟩)) =
        .ok (assembly.add (.char (.single c)) 0) := by
      simp only [take, Atom.toExpr, modes, (isPlain_iff.mp here).2.1]
      rfl
    rw [List.length_cons, ← Nat.add_assoc, List.cons_append, takeAll_step start,
      token_of_plain here, addChars_cons]
    simp only [Bind.bind, Except.bind, taken]
    exact ih modes others

/-- Between the anchors they are taken in as the group around them. -/
theorem takeAll_anchored_plain {text : List Char} (plain : PlainText text) :
    takeAll ((anchored text).length + 1) {} (anchored text) =
      .ok (((({} : Assembly).addChars text).closed anchor).add (.condition .textEnd) 0) := by
  have fuel : (anchored text).length + 1 = (3 + 2) + text.length + 2 := by
    simp [anchored]
    omega
  have inside : ((({} : Assembly).within [({}, anchor)]).addChars text) =
      (({} : Assembly).addChars text).within [({}, anchor)] := rfl
  have start : spaced (({} : Assembly).addChars text).modes.verbose closing = closing := rfl
  rw [fuel, takeAll_anchored, takeAll_plain rfl plain, inside, takeAll_closing rfl start]

/-- What plain characters are read as. -/
theorem content_addChars (front : List Char) (last : Char) :
    (({} : Assembly).addChars (front ++ [last])).level.content =
      (sequenceOf front last, if front.isEmpty then 0 else 1) := by
  have joined : (front.map plainPart).reverse.foldl
      (fun (rest : Expr × Nat) part =>
        (.sequence (Level.partContent part).1 rest.1, max (Level.partContent part).2 rest.2))
      (Level.partContent (plainPart last)) = (sequenceOf front last, 0) := by
    induction front with
    | nil => rfl
    | cons c front ih =>
      rw [List.map_cons, List.reverse_cons, List.foldl_append, ih]
      rfl
  have level : (({} : Assembly).addChars (front ++ [last])).level =
      ⟨plainPart last :: (front.map plainPart).reverse, []⟩ := by
    simp [addChars]
  have several : (front.map plainPart).reverse.isEmpty = front.isEmpty := by simp
  rw [level]
  simp only [Level.content, Level.lastBranch, List.isEmpty_nil, if_true, List.foldl_nil, joined,
    several]
  cases front <;> rfl

end Assembly

/-- A length up to which no plain text is too large an expression. -/
def plainLimit : Nat :=
  50000

/-- A plain text between the anchors is an expression that seems to fit, and matches itself. -/
theorem readWith_anchored_plain {text : List Char} (some : text ≠ []) (plain : PlainText text)
    (short : text.length ≤ plainLimit) :
    ∃ expr, readWith seemsToFit (anchored text) = .ok expr ∧
      ∀ value, expr.matchesIn value = true ↔ value = text := by
  obtain ⟨front, last, rfl⟩ : ∃ front last, text = front ++ [last] :=
    ⟨_, _, (List.dropLast_concat_getLast some).symm⟩
  have size := sequenceOf_size front last
  rw [List.length_append, List.length_singleton] at short
  have content := content_closed (({} : Assembly).addChars (front ++ [last]))
  rw [Assembly.content_addChars] at content
  have shallow : ¬ depthLimit < (if front.isEmpty then 0 else 1) + 2 := by
    split <;> decide
  have small : (sequenceOf front last).whole.size ≤ sizeLimit := by
    simp only [Expr.whole, Expr.size]
    unfold sizeLimit
    unfold plainLimit at short
    omega
  have read : parse (anchored (front ++ [last])) = .ok (sequenceOf front last).whole :=
    parse_of_takeAll (Assembly.takeAll_anchored_plain plain) rfl content shallow
  have fits : seemsToFit (anchored (front ++ [last])) = true := by
    rw [seemsToFit, read]
    exact decide_eq_true small
  refine ⟨(sequenceOf front last).whole, ?_, ?_⟩
  · rw [readWith, read]
    simp only [Bind.bind, Except.bind, fits, if_true]
    rfl
  · intro value
    rw [Expr.whole_matchesIn, sequenceOf_spans, List.drop_zero, Nat.zero_add]
    constructor
    · rintro ⟨length, part⟩
      exact (part.eq_of_length (by simpa using length.symm)).symm
    · rintro rfl
      exact ⟨by simp, List.prefix_refl _⟩

end Pattern

open Pattern

theorem foldText_of_plain {text : String} (plain : PlainText text.toList) :
    foldText text = text.toList := by
  rw [foldText, List.flatMap_congr fun c member => (isPlain_iff.mp (plain c member)).2.2,
    List.flatMap_singleton']

/-- Between plain texts an exact match is equality, also when the pattern is an expression. -/
theorem Matcher.accepts_plain (track : Track) (mask : FieldMask) {pattern : String}
    {options : MatchOptions} (exact : options.exact = true) (some : pattern ≠ "")
    (plain : PlainText pattern.toList)
    (short : options.regex = true → pattern.toList.length ≤ plainLimit)
    (values : ∀ field, mask.contains field = true → PlainText (track.text field).toList) :
    (compile pattern options).accepts track mask = true ↔
      ∃ field, mask.contains field = true ∧
        (track.text field = pattern ↔ options.negate = false) := by
  cases regex : options.regex with
  | false =>
    rw [accepts_iff track mask pattern options regex]
    apply exists_congr
    intro field
    apply and_congr_right
    intro selected
    have passes : Passes options.exact pattern (track.text field) ↔
        track.text field = pattern := by
      rw [Passes, or_iff_right some, if_pos exact, foldText_of_plain (values field selected),
        foldText_of_plain plain, String.toList_inj]
    rw [passes]
  | true =>
    have filled : pattern.toList ≠ [] := by simpa using some
    obtain ⟨expr, read, found⟩ := readWith_anchored_plain filled plain (short regex)
    have reads : readRegex seemsToFit pattern options.exact = .ok expr := by
      rw [readRegex, if_pos exact, read]
    simp only [compile, accepts_regex seemsToFit track mask pattern options regex some, reads,
      Except.ok.injEq, exists_eq_left', found, String.toList_inj]

end TrackBrowser
