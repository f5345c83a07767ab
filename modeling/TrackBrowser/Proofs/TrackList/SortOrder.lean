/-
Module: TrackBrowser.Proofs.TrackList.SortOrder
Purpose: Sorting by several fields in turn is one stable sort by all of them.
-/
import Mathlib.Data.List.Induction
import TrackBrowser.Proofs.TrackList.Stage

/-!
A list has exactly one stable sort by a comparison: its elements in order, equal ones in the order
that they had.  `StableSort` says so without naming an algorithm; `stableSort_sortBy` is that there
is one and `StableSort.unique` that there is no other.  A part of a sorted list is the sorted part,
and two sorts in turn are one sort by both comparisons, the later one first.

Each pass of a sort by several fields is stable, so it breaks its ties by the order that the passes
before it left.  From there on a sorted list is a matter of one comparison, `Track.compareByKeys`.
-/

namespace TrackBrowser

/-! ### Stable sorting -/

section Stable

variable {α : Type} {cmp other : α → α → Ordering} {before after order : List α}

/-- The stable sort of a list by a comparison. -/
def sortBy (cmp : α → α → Ordering) (elements : List α) : List α :=
  elements.mergeSort fun left right => cmp left right != .gt

/-- Whether two elements are equal to a comparison. -/
def ties (cmp : α → α → Ordering) (element compared : α) : Bool :=
  cmp element compared == .eq

/-- The second list is the first one in the order of a comparison, with equal elements in the order
that they had. -/
structure StableSort (cmp : α → α → Ordering) (before after : List α) : Prop where
  perm : after.Perm before
  ordered : after.Pairwise fun left right => cmp left right ≠ .gt
  stable : ∀ element, after.filter (ties cmp element) = before.filter (ties cmp element)

theorem bne_gt_eq_isLE (order : Ordering) : (order != .gt) = order.isLE := by
  cases order <;> rfl

theorem bne_gt_trans (cmp : α → α → Ordering) [Std.TransCmp cmp] (left middle right : α) :
    (cmp left middle != .gt) = true → (cmp middle right != .gt) = true →
      (cmp left right != .gt) = true := by
  simpa only [bne_gt_eq_isLE] using Std.TransCmp.isLE_trans

theorem bne_gt_total [Std.OrientedCmp cmp] (left right : α) :
    (cmp left right != .gt || cmp right left != .gt) = true := by
  have swapped : cmp right left = (cmp left right).swap := Std.OrientedCmp.eq_swap
  rw [swapped]
  cases cmp left right <;> rfl

theorem ties_self [Std.ReflCmp cmp] (element : α) : ties cmp element element = true := by
  simp [ties, Std.ReflCmp.compare_self]

/-- Elements of which neither comes after the other are equal to the comparison. -/
theorem ties_of_ne_gt [Std.OrientedCmp cmp] {left right : α} (below : cmp left right ≠ .gt)
    (above : cmp right left ≠ .gt) : ties cmp left right = true := by
  have swapped : cmp right left = (cmp left right).swap := Std.OrientedCmp.eq_swap
  rw [swapped] at above
  cases compared : cmp left right with
  | lt =>
    rw [compared] at above
    exact absurd rfl above
  | eq => simp [ties, compared]
  | gt => exact absurd compared below

theorem ties_compareLex (element : α) :
    ties (compareLex cmp other) element = fun compared =>
      ties other element compared && ties cmp element compared := by
  funext compared
  rw [Bool.eq_iff_iff]
  simp [ties, compareLex, Ordering.then_eq_eq, and_comm]

/-- Comparing by an image of the elements. -/
theorem transCmp_image {β : Type} (cmp : α → α → Ordering) [Std.TransCmp cmp] (image : β → α) :
    Std.TransCmp fun left right => cmp (image left) (image right) where
  eq_swap := Std.OrientedCmp.eq_swap
  isLE_trans := Std.TransCmp.isLE_trans

/-! ### There is one stable sort -/

theorem sortBy_perm (cmp : α → α → Ordering) (elements : List α) :
    (sortBy cmp elements).Perm elements :=
  List.mergeSort_perm _ _

theorem pairwise_sortBy (cmp : α → α → Ordering) [Std.TransCmp cmp] (elements : List α) :
    (sortBy cmp elements).Pairwise fun left right => cmp left right ≠ .gt := by
  have sorted := List.pairwise_mergeSort (bne_gt_trans cmp) bne_gt_total elements
  exact sorted.imp fun ordered => by simpa using ordered

/-- Elements that are all equal to one are in order, however they stand. -/
theorem pairwise_filter_ties [Std.TransCmp cmp] (element : α) (elements : List α) :
    (elements.filter (ties cmp element)).Pairwise fun left right =>
      (cmp left right != .gt) = true := by
  refine List.pairwise_of_forall_mem_list ?_
  intro left leftMember right rightMember
  have leftTied : cmp element left = .eq := by
    simpa [ties] using (List.mem_filter.mp leftMember).2
  have rightTied : cmp element right = .eq := by
    simpa [ties] using (List.mem_filter.mp rightMember).2
  rw [← Std.TransCmp.congr_left leftTied, rightTied]
  rfl

theorem stableSort_sortBy [Std.TransCmp cmp] (elements : List α) :
    StableSort cmp elements (sortBy cmp elements) where
  perm := sortBy_perm cmp elements
  ordered := pairwise_sortBy cmp elements
  stable element := by
    -- Equal elements were in order before, so sorting leaves them in that order.
    have kept := (List.sublist_mergeSort (bne_gt_trans cmp) bne_gt_total
      (pairwise_filter_ties element elements) List.filter_sublist).filter (ties cmp element)
    simp only [List.filter_filter, Bool.and_self] at kept
    exact (kept.eq_of_length ((sortBy_perm cmp elements).filter _).length_eq.symm).symm

/-- Sorted lists with the same elements are equal if they have equal elements in the same order. -/
theorem eq_of_ordered [Std.OrientedCmp cmp] {first second : List α} (perm : first.Perm second)
    (left : first.Pairwise fun left right => cmp left right ≠ .gt)
    (right : second.Pairwise fun left right => cmp left right ≠ .gt)
    (same : ∀ element, first.filter (ties cmp element) = second.filter (ties cmp element)) :
    first = second := by
  induction first generalizing second with
  | nil => exact perm.symm.eq_nil.symm
  | cons low first ih =>
    cases second with
    | nil => exact absurd perm.eq_nil (List.cons_ne_nil low first)
    | cons least second =>
      obtain ⟨lowest, leftRest⟩ := List.pairwise_cons.mp left
      obtain ⟨leastOf, rightRest⟩ := List.pairwise_cons.mp right
      -- Each list has the first element of the other, so neither of them comes after the other.
      have tied : ties cmp low least = true := by
        rcases List.mem_cons.mp (perm.mem_iff.mpr List.mem_cons_self) with rfl | later
        · exact ties_self least
        · rcases List.mem_cons.mp (perm.mem_iff.mp List.mem_cons_self) with rfl | behind
          · exact ties_self low
          · exact ties_of_ne_gt (lowest least later) (leastOf low behind)
      have heads := congrArg List.head? (same low)
      rw [List.filter_cons_of_pos (ties_self low), List.filter_cons_of_pos tied] at heads
      obtain rfl := Option.some_inj.mp heads
      refine congrArg (low :: ·) (ih (List.Perm.cons_inv perm) leftRest rightRest ?_)
      intro element
      have both := same element
      rw [List.filter_cons, List.filter_cons] at both
      split at both
      · exact List.tail_eq_of_cons_eq both
      · exact both

/-- The first of the elements in order comes before no element that is equal to one of them. -/
theorem ne_gt_of_countP [Std.TransCmp cmp] {low least : α} {first : List α}
    (lowest : ∀ later ∈ first, cmp low later ≠ .gt)
    (some_equal : 0 < (low :: first).countP (ties cmp least)) : cmp low least ≠ .gt := by
  obtain ⟨equal, member, tied⟩ := List.countP_pos_iff.mp some_equal
  have equal_least : cmp least equal = .eq := by simpa [ties] using tied
  rw [Std.TransCmp.congr_right equal_least]
  rcases List.mem_cons.mp member with rfl | later
  · simp [Std.ReflCmp.compare_self]
  · exact lowest equal later

/-- Ordered lists with as many elements equal to each agree element by element. -/
theorem forall₂_ties_of_countP [Std.TransCmp cmp] {first second : List α}
    (left : first.Pairwise fun left right => cmp left right ≠ .gt)
    (right : second.Pairwise fun left right => cmp left right ≠ .gt)
    (same : ∀ element, first.countP (ties cmp element) = second.countP (ties cmp element)) :
    List.Forall₂ (fun left right => cmp left right = .eq) first second := by
  induction first generalizing second with
  | nil =>
    cases second with
    | nil => exact .nil
    | cons least second =>
      have none := same least
      rw [List.countP_cons_of_pos (ties_self least)] at none
      cases none
  | cons low first ih =>
    cases second with
    | nil =>
      have none := same low
      rw [List.countP_cons_of_pos (ties_self low)] at none
      cases none
    | cons least second =>
      obtain ⟨lowest, leftRest⟩ := List.pairwise_cons.mp left
      obtain ⟨leastOf, rightRest⟩ := List.pairwise_cons.mp right
      -- Each list has elements equal to the first of the other, so neither comes after the other.
      have below : cmp low least ≠ .gt := by
        refine ne_gt_of_countP lowest ?_
        rw [same, List.countP_cons_of_pos (ties_self least)]
        exact Nat.succ_pos _
      have above : cmp least low ≠ .gt := by
        refine ne_gt_of_countP leastOf ?_
        rw [← same, List.countP_cons_of_pos (ties_self low)]
        exact Nat.succ_pos _
      have tied : cmp low least = .eq := by simpa [ties] using ties_of_ne_gt below above
      refine .cons tied (ih leftRest rightRest fun element => ?_)
      have counted := same element
      have heads : ties cmp element low = ties cmp element least := by
        rw [ties, ties, Std.TransCmp.congr_right tied]
      rw [List.countP_cons, List.countP_cons, heads] at counted
      exact Nat.add_right_cancel counted

namespace StableSort

theorem unique [Std.OrientedCmp cmp] (sorted : StableSort cmp before after)
    (again : StableSort cmp before order) : order = after :=
  eq_of_ordered (again.perm.trans sorted.perm.symm) again.ordered sorted.ordered
    fun element => (again.stable element).trans (sorted.stable element).symm

theorem eq_sortBy [Std.TransCmp cmp] (sorted : StableSort cmp before after) :
    after = sortBy cmp before :=
  (stableSort_sortBy before).unique sorted

/-! ### Parts and passes -/

/-- A part of the elements is sorted when all of them are. -/
theorem filter (sorted : StableSort cmp before after) (chosen : α → Bool) :
    StableSort cmp (before.filter chosen) (after.filter chosen) where
  perm := sorted.perm.filter chosen
  ordered := sorted.ordered.filter chosen
  stable element := by rw [List.filter_comm, sorted.stable, List.filter_comm]

/-- Equal elements stand in the order that they had. -/
theorem pairwise_of_ties [Std.ReflCmp cmp] {kept : α → α → Prop}
    (sorted : StableSort cmp before after) (held : before.Pairwise kept) :
    after.Pairwise fun left right => ties cmp left right = true → kept left right := by
  rw [List.pairwise_iff_forall_sublist] at held ⊢
  intro left right pair tied
  have both := pair.filter (ties cmp left)
  rw [List.filter_cons_of_pos (ties_self left), List.filter_cons_of_pos tied, List.filter_nil,
    sorted.stable] at both
  exact held (both.trans List.filter_sublist)

/-- Two stable sorts are one, by the later comparison first. -/
theorem trans [Std.ReflCmp cmp] (first : StableSort other before order)
    (second : StableSort cmp order after) : StableSort (compareLex cmp other) before after where
  perm := second.perm.trans first.perm
  ordered := by
    refine (second.ordered.and (second.pairwise_of_ties first.ordered)).imp ?_
    intro left right inOrder
    obtain ⟨notAfter, kept⟩ := inOrder
    cases compared : cmp left right with
    | lt => simp [compareLex, compared]
    | eq => simpa [compareLex, compared] using kept (by simp [ties, compared])
    | gt => exact absurd compared notAfter
  stable element := by
    rw [ties_compareLex, ← List.filter_filter, ← List.filter_filter, second.stable,
      List.filter_comm, first.stable, List.filter_comm]

end StableSort

theorem stableSort_iff [Std.TransCmp cmp] :
    StableSort cmp before after ↔ after = sortBy cmp before := by
  constructor
  · exact StableSort.eq_sortBy
  · rintro rfl
    exact stableSort_sortBy before

theorem sortBy_sortBy [Std.TransCmp cmp] [Std.TransCmp other] (elements : List α) :
    sortBy cmp (sortBy other elements) = sortBy (compareLex cmp other) elements :=
  ((stableSort_sortBy elements).trans (stableSort_sortBy _)).eq_sortBy

/-- A comparison that finds all ties of another one is not refined by it. -/
theorem compareLex_eq_left
    (absorbed : ∀ left right, cmp left right = .eq → other left right = .eq) :
    compareLex cmp other = cmp := by
  funext left right
  rw [compareLex]
  cases compared : cmp left right with
  | lt => rfl
  | eq => exact absorbed left right compared
  | gt => rfl

/-- A sort by which all elements tie that tie in a later one leaves no trace in that. -/
theorem sortBy_sortBy_of_absorbed [Std.TransCmp cmp] [Std.TransCmp other]
    (absorbed : ∀ left right, cmp left right = .eq → other left right = .eq) (elements : List α) :
    sortBy cmp (sortBy other elements) = sortBy cmp elements := by
  rw [sortBy_sortBy, compareLex_eq_left absorbed]

end Stable

/-! ### Comparing tracks -/

theorem compareNumbers_eq_compare (left right : List Nat) :
    compareNumbers left right = compare left right := by
  induction left generalizing right with
  | nil => cases right <;> rfl
  | cons first left ih =>
    cases right with
    | nil => rfl
    | cons second right => rw [compareNumbers, ih, List.compare_cons_cons]

/-- Single numbers are compared like sequences of one. -/
theorem compare_singleton (left right : Nat) : compare left right = compare [left] [right] := by
  rw [← compareNumbers_eq_compare]
  simp [compareNumbers]

/-- An unknown duration comes first, like a sequence that has ended. -/
theorem compareTimes_eq_compare_toList (left right : Option Nat) :
    compareTimes left right = compare left.toList right.toList := by
  rw [← compareNumbers_eq_compare]
  cases left <;> cases right <;> simp [compareTimes, compareNumbers]

/-- Texts are compared by the numbers of their characters. -/
theorem compareTexts_eq_compare (left right : List Char) :
    compareTexts left right = compare (left.map Char.toNat) (right.map Char.toNat) :=
  compareNumbers_eq_compare _ _

theorem compareTexts_eq_gt_iff (left right : List Char) :
    compareTexts left right = .gt ↔ right < left := by
  induction left generalizing right with
  | nil => cases right <;> simp [compareTexts, compareNumbers]
  | cons first left ih =>
    cases right with
    | nil => simp [compareTexts, compareNumbers]
    | cons second right =>
      have rest := ih right
      rw [compareTexts] at rest ⊢
      rw [List.map_cons, List.map_cons, compareNumbers, Ordering.then_eq_gt, rest,
        List.cons_lt_cons_iff, Nat.compare_eq_gt, Nat.compare_eq_eq, Char.toNat_inj,
        eq_comm (a := first)]
      exact Iff.rfl

/-- Of two texts the one that is not later by code points comes first. -/
theorem compareTexts_ne_gt_iff (left right : String) :
    compareTexts left.toList right.toList ≠ .gt ↔ left ≤ right := by
  rw [ne_eq, compareTexts_eq_gt_iff]
  exact String.not_lt

/-- What a track counts as in a sort by a field: a sequence of numbers, of which the first
difference decides.  An unknown duration is the empty sequence, which comes before all others, and a
text is the sequence of its code points. -/
def Track.sortKey (caseSensitive : Bool) (track : Track) : Field → List Nat
  | .time => track.time.toList
  | .date => dateNumbers track.date.toList
  | field =>
    let text := (track.text field).toList
    if field.isNumeric then [leadingNumber text]
    else if caseSensitive then text.map Char.toNat
    else (Unicode.lowerText text).map Char.toNat

theorem Track.compareBy_eq_compare (field : Field) (caseSensitive : Bool) (left right : Track) :
    compareBy field caseSensitive left right =
      compare (left.sortKey caseSensitive field) (right.sortKey caseSensitive field) := by
  cases field with
  | time => exact compareTimes_eq_compare_toList _ _
  | date => exact compareNumbers_eq_compare _ _
  | track | trackShort | disc | year => exact compare_singleton _ _
  | _ => cases caseSensitive <;> exact compareTexts_eq_compare _ _

/-- Every field orders the tracks. -/
instance transCmp_compareBy (field : Field) (caseSensitive : Bool) :
    Std.TransCmp (Track.compareBy field caseSensitive) := by
  have byKey := transCmp_image compare fun track : Track => track.sortKey caseSensitive field
  simpa only [← Track.compareBy_eq_compare] using byKey

/-- Compares two tracks by several fields, the first difference deciding. -/
def Track.compareByKeys (caseSensitive : Bool) : List Field → Track → Track → Ordering
  | [] => fun _ _ => .eq
  | field :: fields =>
    compareLex (compareBy field caseSensitive) (compareByKeys caseSensitive fields)

instance transCmp_compareByKeys (caseSensitive : Bool) (fields : List Field) :
    Std.TransCmp (Track.compareByKeys caseSensitive fields) := by
  induction fields with
  | nil => exact transCmp_image compare fun _ : Track => 0
  | cons field fields ih => exact inferInstanceAs (Std.TransCmp (compareLex _ _))

theorem Track.compareByKeys_eq_compare (caseSensitive : Bool) (fields : List Field)
    (left right : Track) :
    compareByKeys caseSensitive fields left right =
      compare (fields.map (left.sortKey caseSensitive))
        (fields.map (right.sortKey caseSensitive)) := by
  induction fields with
  | nil => rfl
  | cons field fields ih =>
    rw [compareByKeys, compareLex, compareBy_eq_compare, ih, List.map_cons, List.map_cons,
      List.compare_cons_cons]

namespace TrackList

/-- Sorting by several fields in turn is one stable sort, by the last field first. -/
theorem sorted_tracks (list : TrackList) (fields : List Field) :
    (list.sorted fields).tracks =
      sortBy (Track.compareByKeys list.caseSensitive fields.reverse) list.tracks := by
  induction fields using List.reverseRecOn with
  | nil => exact (List.mergeSort_of_pairwise (List.pairwise_of_forall fun _ _ => rfl)).symm
  | append_singleton fields field ih =>
    have last : (list.sorted (fields ++ [field])).tracks =
        sortBy (Track.compareBy field list.caseSensitive) (list.sorted fields).tracks := by
      simp only [sorted, List.foldl_append, List.foldl_cons, List.foldl_nil]
      rfl
    rw [last, ih, sortBy_sortBy, List.reverse_append]
    rfl

end TrackList

end TrackBrowser
