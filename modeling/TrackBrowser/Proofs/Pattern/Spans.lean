/-
Module: TrackBrowser.Proofs.Pattern.Spans
Purpose: Which parts of a text an expression spans, and that matching finds them.
-/
import TrackBrowser.Pattern.Expr

/-!
`Expr.Spans` says without any search when an expression spans the part of a text between two places.
Matching works on sets of places instead, and a repetition adds places until none is new or a number
of rounds is over.  Both say the same: a place is reached from a set of starting places exactly when
the expression spans the part between one of them and it (`Expr.takes_ends`).  The number of rounds
is enough because a part that a round spans is empty or brings the end nearer.
-/

namespace TrackBrowser.Pattern

/-! ### Chains -/

/-- A number of steps, one after the other. -/
def Chain (step : Nat → Nat → Prop) : (count : Nat) → (first last : Nat) → Prop
  | 0, first, last => first = last
  | count + 1, first, last => ∃ next, step first next ∧ Chain step count next last

namespace Chain

variable {step : Nat → Nat → Prop} {first last : Nat}

theorem add_iff (count more : Nat) :
    Chain step (count + more) first last ↔
      ∃ middle, Chain step count first middle ∧ Chain step more middle last := by
  induction count generalizing first with
  | zero => simp [Chain]
  | succ count ih =>
    rw [Nat.add_right_comm]
    simp only [Chain, ih]
    constructor
    · rintro ⟨next, start, middle, front, back⟩
      exact ⟨middle, ⟨next, start, front⟩, back⟩
    · rintro ⟨middle, ⟨next, start, front⟩, back⟩
      exact ⟨next, start, middle, front, back⟩

theorem le (forward : ∀ place next, step place next → place ≤ next) {count : Nat}
    (chain : Chain step count first last) : first ≤ last := by
  induction count generalizing first with
  | zero => exact Nat.le_of_eq chain
  | succ count ih =>
    obtain ⟨next, start, rest⟩ := chain
    exact Nat.le_trans (forward first next start) (ih rest)

theorem inside {length : Nat}
    (inside : ∀ place next, step place next → place ≤ length → next ≤ length) {count : Nat}
    (chain : Chain step count first last) (within : first ≤ length) : last ≤ length := by
  induction count generalizing first with
  | zero => exact chain ▸ within
  | succ count ih =>
    obtain ⟨next, start, rest⟩ := chain
    exact ih rest (inside first next start within)

/-- Steps that stay in place can be left out, so no more steps are needed than there are places to
go. -/
theorem shorten (forward : ∀ place next, step place next → place ≤ next) {count : Nat}
    (chain : Chain step count first last) :
    ∃ fewer, fewer ≤ last - first ∧ Chain step fewer first last := by
  induction count generalizing first with
  | zero => exact ⟨0, Nat.zero_le _, chain⟩
  | succ count ih =>
    obtain ⟨next, start, rest⟩ := chain
    obtain ⟨fewer, bound, shorter⟩ := ih rest
    rcases Nat.eq_or_lt_of_le (forward first next start) with rfl | on
    · exact ⟨fewer, bound, shorter⟩
    · have ahead := rest.le forward
      exact ⟨fewer + 1, by omega, next, start, shorter⟩

end Chain

/-! ### Spans -/

/-- The character in front of a place. -/
def before? (text : List Char) : (place : Nat) → Option Char
  | 0 => none
  | place + 1 => text[place]?

namespace Expr

/-- Whether an expression spans the part of a text from one place to another.  A repetition spans
what its body spans in a row; if its bounds are the wrong way round, the first one counts. -/
def Spans (text : List Char) : Expr → (first last : Nat) → Prop
  | .empty, first, last => first = last
  | .char set, first, last =>
    last = first + 1 ∧ ∃ c, text[first]? = some c ∧ set.contains c = true
  | .condition wanted, first, last =>
    first = last ∧ first ≤ text.length ∧ wanted.holds (before? text first) text[first]? = true
  | .sequence front back, first, last =>
    ∃ middle, front.Spans text first middle ∧ back.Spans text middle last
  | .choice left right, first, last => left.Spans text first last ∨ right.Spans text first last
  | .repetition body least most, first, last =>
    ∃ count, least ≤ count ∧ (∀ limit, most = some limit → count ≤ max least limit) ∧
      Chain (body.Spans text) count first last

theorem Spans.le {text : List Char} {expr : Expr} {first last : Nat}
    (spans : expr.Spans text first last) : first ≤ last := by
  induction expr generalizing first last with
  | empty => exact Nat.le_of_eq spans
  | char set => exact spans.1 ▸ Nat.le_succ first
  | condition wanted => exact Nat.le_of_eq spans.1
  | sequence front back ihFront ihBack =>
    obtain ⟨middle, front, back⟩ := spans
    exact Nat.le_trans (ihFront front) (ihBack back)
  | choice left right ihLeft ihRight => exact spans.elim ihLeft ihRight
  | repetition body least most ih =>
    obtain ⟨count, -, -, chain⟩ := spans
    exact chain.le fun _ _ => ih

/-- What starts within a text ends within it. -/
theorem Spans.le_length {text : List Char} {expr : Expr} {first last : Nat}
    (spans : expr.Spans text first last) (inside : first ≤ text.length) : last ≤ text.length := by
  induction expr generalizing first last with
  | empty => exact spans ▸ inside
  | char set =>
    obtain ⟨rfl, c, here, -⟩ := spans
    exact (List.getElem?_eq_some_iff.mp here).1
  | condition wanted => exact spans.1 ▸ inside
  | sequence front back ihFront ihBack =>
    obtain ⟨middle, front, back⟩ := spans
    exact ihBack back (ihFront front inside)
  | choice left right ihLeft ihRight => exact spans.elim (ihLeft · inside) (ihRight · inside)
  | repetition body least most ih =>
    obtain ⟨count, -, -, chain⟩ := spans
    exact chain.inside (fun _ _ => ih) inside

end Expr

/-! ### Sets of places -/

theorem testBit_placeSet (flags : List Bool) (place : Nat) :
    (placeSet flags).testBit place = flags[place]?.getD false := by
  induction flags generalizing place with
  | nil => simp [placeSet]
  | cons flag flags ih =>
    have unfolded : placeSet (flag :: flags) = 2 * placeSet flags + flag.toNat := rfl
    have small : flag.toNat < 2 := Bool.toNat_lt flag
    cases place with
    | zero =>
      rw [unfolded, Nat.testBit_zero]
      cases flag <;> simp
    | succ place =>
      have half : (2 * placeSet flags + flag.toNat) / 2 = placeSet flags := by omega
      rw [unfolded, Nat.testBit_succ, half, ih, List.getElem?_cons_succ]

theorem getElem?_flags (condition : Condition) (before : Option Char) (text : List Char)
    {place : Nat} (inside : place ≤ text.length) :
    (condition.flags before text)[place]? =
      some (condition.holds (if place = 0 then before else before? text place) text[place]?) := by
  induction text generalizing before place with
  | nil =>
    obtain rfl : place = 0 := Nat.le_zero.mp inside
    rfl
  | cons c rest ih =>
    cases place with
    | zero => rfl
    | succ place =>
      rw [Condition.flags, List.getElem?_cons_succ, ih (some c) (Nat.le_of_succ_le_succ inside)]
      cases place <;> rfl

/-- Whether a place is in a set. -/
theorem testBit_union (left right place : Nat) :
    (left ||| right).testBit place = true ↔
      left.testBit place = true ∨ right.testBit place = true := by
  rw [Nat.testBit_or, Bool.or_eq_true]

namespace Places

variable {step : Nat → Nat} {reach : Nat → Nat → Prop} {length : Nat}

/-- A function on sets of places takes the steps of a relation, as long as the places are inside a
text. -/
structure Takes (length : Nat) (step : Nat → Nat) (reach : Nat → Nat → Prop) : Prop where
  testBit : ∀ starts, (∀ place, starts.testBit place = true → place ≤ length) → ∀ last,
    (step starts).testBit last = true ↔ ∃ first, starts.testBit first = true ∧ reach first last
  inside : ∀ first last, reach first last → first ≤ length → last ≤ length

namespace Takes

theorem next_inside (takes : Takes length step reach) {starts : Nat}
    (inside : ∀ place, starts.testBit place = true → place ≤ length) (last : Nat)
    (reached : (step starts).testBit last = true) : last ≤ length := by
  obtain ⟨first, start, steps⟩ := (takes.testBit starts inside last).mp reached
  exact takes.inside first last steps (inside first start)

theorem repeatStep (takes : Takes length step reach) (count : Nat) :
    Takes length (repeatStep step count) (Chain reach count) where
  testBit starts inside last := by
    induction count generalizing starts with
    | zero => simp [Places.repeatStep, Chain]
    | succ count ih =>
      rw [Places.repeatStep]
      split
      · next none => simp [none]
      · rw [ih _ (takes.next_inside inside)]
        simp only [takes.testBit starts inside, Chain]
        constructor
        · rintro ⟨next, ⟨first, start, steps⟩, rest⟩
          exact ⟨first, start, next, steps, rest⟩
        · rintro ⟨first, start, next, steps, rest⟩
          exact ⟨next, ⟨first, start, steps⟩, rest⟩
  inside first last chain within := chain.inside takes.inside within

/-- Where a step leads nowhere else, no number of steps does. -/
theorem chain_of_closed (takes : Takes length step reach) {places : Nat}
    (inside : ∀ place, places.testBit place = true → place ≤ length)
    (closed : places ||| step places = places) {count first last : Nat}
    (start : places.testBit first = true) (chain : Chain reach count first last) :
    places.testBit last = true := by
  induction count generalizing first with
  | zero => exact chain ▸ start
  | succ count ih =>
    obtain ⟨next, steps, rest⟩ := chain
    refine ih ?_ rest
    rw [← closed, testBit_union]
    exact .inr ((takes.testBit places inside next).mpr ⟨first, start, steps⟩)

theorem addReached (takes : Takes length step reach) (count : Nat) :
    Takes length (addReached step count) fun first last =>
      ∃ fewer, fewer ≤ count ∧ Chain reach fewer first last where
  testBit starts inside last := by
    induction count generalizing starts with
    | zero => simp [Places.addReached, Chain]
    | succ count ih =>
      rw [Places.addReached]
      split
      · next closed =>
        constructor
        · intro start
          exact ⟨last, start, 0, Nat.zero_le _, rfl⟩
        · rintro ⟨first, start, fewer, -, chain⟩
          exact takes.chain_of_closed inside closed start chain
      · have widened (place : Nat) (reached : (starts ||| step starts).testBit place = true) :
            place ≤ length :=
          ((testBit_union _ _ place).mp reached).elim (inside place)
            (takes.next_inside inside place)
        rw [ih _ widened]
        simp only [testBit_union, takes.testBit starts inside]
        constructor
        · rintro ⟨place, start | ⟨first, start, steps⟩, fewer, bound, chain⟩
          · exact ⟨place, start, fewer, Nat.le_succ_of_le bound, chain⟩
          · exact ⟨first, start, fewer + 1, Nat.succ_le_succ bound, place, steps, chain⟩
        · rintro ⟨first, start, fewer, bound, chain⟩
          cases fewer with
          | zero => exact ⟨first, .inl start, 0, Nat.zero_le _, chain⟩
          | succ fewer =>
            obtain ⟨next, steps, rest⟩ := chain
            exact ⟨next, .inr ⟨first, start, steps⟩, fewer, Nat.le_of_succ_le_succ bound, rest⟩
  inside first last chain within := by
    obtain ⟨fewer, -, chain⟩ := chain
    exact chain.inside takes.inside within

/-- One function after the other. -/
theorem comp {other : Nat → Nat} {on : Nat → Nat → Prop} (takes : Takes length step reach)
    (next : Takes length other on) :
    Takes length (fun starts => other (step starts)) fun first last =>
      ∃ middle, reach first middle ∧ on middle last where
  testBit starts inside last := by
    rw [next.testBit _ (takes.next_inside inside)]
    simp only [takes.testBit starts inside]
    constructor
    · rintro ⟨middle, ⟨first, start, front⟩, back⟩
      exact ⟨first, start, middle, front, back⟩
    · rintro ⟨first, start, middle, front, back⟩
      exact ⟨middle, ⟨first, start, front⟩, back⟩
  inside first last chain within := by
    obtain ⟨middle, front, back⟩ := chain
    exact next.inside middle last back (takes.inside first middle front within)

theorem congr {other : Nat → Nat → Prop} (takes : Takes length step reach)
    (same : ∀ first last, first ≤ length → (reach first last ↔ other first last)) :
    Takes length step other where
  testBit starts inside last := by
    rw [takes.testBit starts inside]
    constructor
    · rintro ⟨first, start, steps⟩
      exact ⟨first, start, (same first last (inside first start)).mp steps⟩
    · rintro ⟨first, start, steps⟩
      exact ⟨first, start, (same first last (inside first start)).mpr steps⟩
  inside first last steps within :=
    takes.inside first last ((same first last within).mpr steps) within

end Takes

end Places

namespace Expr

variable {text : List Char}

/-- From a set of places matching reaches the ends of what the expression spans. -/
theorem takes_ends (text : List Char) (expr : Expr) :
    Places.Takes text.length ((expr.on text).ends text.length) (expr.Spans text) := by
  induction expr with
  | empty =>
    refine ⟨fun starts inside last => ?_, fun first last same within => same ▸ within⟩
    simp only [on, Places.ends, Spans, exists_eq_right]
  | char set =>
    refine ⟨fun starts inside last => ?_, fun first last spans within => spans.le_length within⟩
    have here (place : Nat) : (placeSet (text.map set.contains)).testBit place = true ↔
        ∃ c, text[place]? = some c ∧ set.contains c = true := by
      rw [testBit_placeSet, List.getElem?_map]
      cases text[place]? <;> simp
    rw [on, Places.ends, Nat.testBit_shiftLeft, Bool.and_eq_true, decide_eq_true_eq,
      Nat.testBit_and, Bool.and_eq_true, here]
    constructor
    · rintro ⟨beyond, start, fits⟩
      exact ⟨last - 1, start, (Nat.sub_add_cancel beyond).symm, fits⟩
    · rintro ⟨first, start, rfl, fits⟩
      exact ⟨Nat.succ_le_succ (Nat.zero_le first), start, fits⟩
  | condition wanted =>
    refine ⟨fun starts inside last => ?_, fun first last spans within => spans.le_length within⟩
    rw [on, Places.ends, Nat.testBit_and, testBit_placeSet, Bool.and_eq_true]
    constructor
    · rintro ⟨start, holds⟩
      rw [getElem?_flags wanted none text (inside last start)] at holds
      refine ⟨last, start, rfl, inside last start, ?_⟩
      cases last <;> exact holds
    · rintro ⟨first, start, rfl, within, holds⟩
      rw [getElem?_flags wanted none text within]
      refine ⟨start, ?_⟩
      cases first <;> exact holds
  | sequence front back ihFront ihBack => exact ihFront.comp ihBack
  | choice left right ihLeft ihRight =>
    refine ⟨fun starts inside last => ?_, fun first last spans within => spans.le_length within⟩
    simp only [on, Places.ends, testBit_union, ihLeft.testBit starts inside,
      ihRight.testBit starts inside, Spans, and_or_left, exists_or]
  | repetition body least most ih =>
    cases most with
    | none =>
      refine ((ih.repeatStep least).comp (ih.addReached (text.length + 1))).congr
        fun first last within => ?_
      constructor
      · rintro ⟨middle, front, fewer, -, back⟩
        have chain := (Chain.add_iff least fewer).mpr ⟨middle, front, back⟩
        exact ⟨least + fewer, Nat.le_add_right _ _, nofun, chain⟩
      · rintro ⟨count, enough, -, chain⟩
        obtain ⟨more, rfl⟩ := Nat.exists_eq_add_of_le enough
        have ended : last ≤ text.length := chain.inside ih.inside within
        obtain ⟨middle, front, back⟩ := (Chain.add_iff _ _).mp chain
        obtain ⟨fewer, bound, back⟩ := back.shorten fun _ _ => Spans.le
        exact ⟨middle, front, fewer, by omega, back⟩
    | some most =>
      refine ((ih.repeatStep least).comp (ih.addReached (most - least))).congr
        fun first last within => ?_
      constructor
      · rintro ⟨middle, front, fewer, bound, back⟩
        have chain := (Chain.add_iff least fewer).mpr ⟨middle, front, back⟩
        refine ⟨least + fewer, Nat.le_add_right _ _, ?_, chain⟩
        rintro limit ⟨⟩
        omega
      · rintro ⟨count, enough, bound, chain⟩
        obtain ⟨more, rfl⟩ := Nat.exists_eq_add_of_le enough
        have limited := bound most rfl
        obtain ⟨middle, front, back⟩ := (Chain.add_iff _ _).mp chain
        exact ⟨middle, front, more, by omega, back⟩

/-- An expression matches where it spans some part of the text. -/
theorem matchesIn_iff (expr : Expr) (text : List Char) :
    expr.matchesIn text = true ↔
      ∃ first last, first ≤ text.length ∧ expr.Spans text first last := by
  have everywhere (place : Nat) :
      (Nat.pow 2 (text.length + 1) - 1).testBit place = true ↔ place ≤ text.length := by
    rw [show Nat.pow 2 (text.length + 1) = 2 ^ (text.length + 1) from rfl,
      Nat.testBit_two_pow_sub_one, decide_eq_true_eq, Nat.lt_succ_iff]
  have takes := (takes_ends text expr).testBit _ fun place start => (everywhere place).mp start
  simp only [everywhere] at takes
  rw [matchesIn, bne_iff_ne]
  constructor
  · intro some
    obtain ⟨last, reached⟩ := Nat.exists_testBit_of_ne_zero some
    obtain ⟨first, within, spans⟩ := (takes last).mp reached
    exact ⟨first, last, within, spans⟩
  · rintro ⟨first, last, within, spans⟩ none
    have reached := (takes last).mpr ⟨first, within, spans⟩
    rw [none, Nat.zero_testBit] at reached
    cases reached

end Expr

end TrackBrowser.Pattern
