/-
Module: TrackBrowser.Proofs.TrackList.Arc
Purpose: A search visits the indices of an arc of the visible sequence, one after the other.
-/
import Mathlib.Data.List.Rotate
import Mathlib.Data.Nat.ModEq
import TrackBrowser.TrackList.Searching

/-!
The visible sequence is searched as a circle.  `arc` lists the indices from a first one through a
last one, around the end where needed, and `findWith_eq_find?` says that a search takes the first
hit of that list, or of the reversed list.  What a search finds is from there on a matter of lists.
A `lap` is an arc that goes all around, from the index next to the cursor to the cursor itself.

The search of a list is bounded by the number of its tracks.  `Scan` is the same loop without the
bound; that it ends on every arc, before the bound is reached, is what makes the bound harmless.
-/

namespace TrackBrowser

/-! ### The loop of a search -/

/-- The loop of a search, with no bound on its steps.  It tests an index, ends if that is a hit or
is `stop`, and goes on with the next index otherwise.  `tested` are the indices that it tests, in
order, and `result` is what it ends with; a loop that never ends has neither. -/
inductive Scan (hit : Nat → Bool) (step : Nat → Nat) (stop : Nat) :
    (index : Nat) → (tested : List Nat) → (result : Option Nat) → Prop where
  | hit {index : Nat} (here : hit index = true) : Scan hit step stop index [index] (some index)
  | stop (missed : hit stop = false) : Scan hit step stop stop [stop] none
  | next {index : Nat} {tested : List Nat} {result : Option Nat} (missed : hit index = false)
      (going : index ≠ stop) (rest : Scan hit step stop (step index) tested result) :
      Scan hit step stop index (index :: tested) result

/-- Some number of steps that lead to `stop` and not past it, with the indices on the way. -/
structure Walk (step : Nat → Nat) (stop steps : Nat) (place : Nat → Nat) : Prop where
  next : ∀ count < steps, place (count + 1) = step (place count)
  before : ∀ count < steps, place count ≠ stop
  ends : place steps = stop

section Loop

variable {hit : Nat → Bool} {step : Nat → Nat} {stop index : Nat} {tested : List Nat}
  {result : Option Nat}

/-- The loop has one outcome. -/
theorem Scan.unique {others : List Nat} {other : Option Nat}
    (scan : Scan hit step stop index tested result)
    (again : Scan hit step stop index others other) : tested = others ∧ result = other := by
  induction scan generalizing others other with
  | hit here =>
    cases again with
    | hit _ => exact ⟨rfl, rfl⟩
    | stop missed => simp [missed] at here
    | next missed _ _ => simp [missed] at here
  | stop missed =>
    cases again with
    | hit here => simp [missed] at here
    | stop _ => exact ⟨rfl, rfl⟩
    | next _ going _ => exact absurd rfl going
  | next missed going _ ih =>
    cases again with
    | hit here => simp [missed] at here
    | stop _ => exact absurd rfl going
    | next _ _ rest =>
      obtain ⟨rfl, rfl⟩ := ih rest
      exact ⟨rfl, rfl⟩

/-- An outcome of the loop is the only one that it can be run to. -/
theorem Scan.outcome_iff (scan : Scan hit step stop index tested result) (others : List Nat)
    (other : Option Nat) :
    Scan hit step stop index others other ↔ others = tested ∧ other = result := by
  constructor
  · intro again
    exact again.unique scan
  · rintro ⟨rfl, rfl⟩
    exact scan

/-- A bound that the loop does not reach changes nothing. -/
theorem Scan.seek_eq {fuel : Nat} (scan : Scan hit step stop index tested result)
    (enough : tested.length ≤ fuel) : seek hit step stop fuel index = result := by
  induction scan generalizing fuel with
  | hit here =>
    obtain ⟨fuel, rfl⟩ := Nat.exists_eq_succ_of_ne_zero (Nat.ne_of_gt enough)
    rw [seek, if_pos here]
  | stop missed =>
    obtain ⟨fuel, rfl⟩ := Nat.exists_eq_succ_of_ne_zero (Nat.ne_of_gt enough)
    rw [seek, if_neg (by simp [missed]), if_pos rfl]
  | next missed going _ ih =>
    obtain ⟨fuel, rfl⟩ := Nat.exists_eq_succ_of_ne_zero (Nat.ne_of_gt (Nat.zero_lt_of_lt enough))
    rw [seek, if_neg (by simp [missed]), if_neg going]
    exact ih (Nat.le_of_succ_le_succ enough)

/-- On a walk the loop ends.  It finds the first hit, having tested the indices up to there. -/
theorem Walk.scan {steps : Nat} {place : Nat → Nat} (walk : Walk step stop steps place)
    (hit : Nat → Bool) :
    ∃ tested, Scan hit step stop (place 0) tested
      (((List.range (steps + 1)).map place).find? hit) ∧
        tested <+: (List.range (steps + 1)).map place := by
  -- Each step leaves one index less to test, and the numbers of the others move down.
  induction steps generalizing place with
  | zero =>
    have ends : place 0 = stop := walk.ends
    refine ⟨[place 0], ?_, List.prefix_refl _⟩
    cases here : hit (place 0) with
    | true => simpa [here] using Scan.hit here
    | false =>
      rw [ends] at here ⊢
      simpa [ends, here] using Scan.stop here
  | succ steps ih =>
    have shorter : Walk step stop steps fun count => place (count + 1) :=
      { next := fun count below => walk.next (count + 1) (by omega)
        before := fun count below => walk.before (count + 1) (by omega)
        ends := walk.ends }
    obtain ⟨tested, rest, part⟩ := ih shorter
    have split : (List.range (steps + 1 + 1)).map place =
        place 0 :: (List.range (steps + 1)).map fun count => place (count + 1) := by
      rw [List.range_succ_eq_map, List.map_cons, List.map_map]
      rfl
    rw [split, List.find?_cons]
    cases here : hit (place 0) with
    | true => exact ⟨[place 0], .hit here, List.prefix_iff_eq_take.mpr rfl⟩
    | false =>
      rw [walk.next 0 (Nat.succ_pos steps)] at rest
      have going := walk.before 0 (Nat.succ_pos steps)
      exact ⟨place 0 :: tested, .next here going rest, (List.prefix_cons_inj _).mpr part⟩

end Loop

/-! ### Arcs -/

/-- The steps from one index of a circle of `n` to another. -/
def arcSteps (n first last : Nat) : Nat :=
  (last + n - first) % n

/-- The indices of a circle of `n` from a first one through a last one. -/
def arc (n first last : Nat) : List Nat :=
  (List.range (arcSteps n first last + 1)).map fun step => (first + step) % n

section Arc

variable {n first last : Nat}

theorem arcSteps_lt (nonempty : 0 < n) (first last : Nat) : arcSteps n first last < n :=
  Nat.mod_lt _ nonempty

/-- Where the last index is not before the first one, no step goes around the end. -/
theorem arcSteps_of_le (ordered : first ≤ last) (inside : last < n) :
    arcSteps n first last = last - first := by
  have wrapped : last + n - first = last - first + n := by omega
  rw [arcSteps, wrapped, Nat.add_mod_right, Nat.mod_eq_of_lt (by omega)]

theorem arcSteps_of_lt (ordered : last < first) (inside : first < n) :
    arcSteps n first last = last + n - first := by
  rw [arcSteps, Nat.mod_eq_of_lt (by omega)]

/-- After all its steps an arc is at its last index. -/
theorem add_arcSteps_mod (start : first < n) (stop : last < n) :
    (first + arcSteps n first last) % n = last := by
  rcases Nat.lt_or_ge last first with ordered | ordered
  · rw [arcSteps_of_lt ordered start]
    have around : first + (last + n - first) = last + n := by omega
    rw [around, Nat.add_mod_right, Nat.mod_eq_of_lt stop]
  · rw [arcSteps_of_le ordered stop]
    have straight : first + (last - first) = last := by omega
    rw [straight, Nat.mod_eq_of_lt stop]

/-- Steps back from the last index lead where fewer steps from the first one do. -/
theorem back_mod_eq (start : first < n) (stop : last < n) {step : Nat}
    (few : step ≤ arcSteps n first last) :
    (last + n - step) % n = (first + (arcSteps n first last - step)) % n := by
  rcases Nat.lt_or_ge last first with ordered | ordered
  · have steps := arcSteps_of_lt ordered start
    congr 1
    omega
  · have steps := arcSteps_of_le ordered stop
    have around : last + n - step = first + (arcSteps n first last - step) + n := by omega
    rw [around, Nat.add_mod_right]

/-- An arc in reverse. -/
theorem reverse_arc (start : first < n) (stop : last < n) :
    (arc n first last).reverse =
      (List.range (arcSteps n first last + 1)).map fun step => (last + n - step) % n := by
  apply List.ext_getElem
  · simp [arc]
  · intro step inside _
    have few : step ≤ arcSteps n first last := by
      simp only [arc, List.length_reverse, List.length_map, List.length_range] at inside
      omega
    simp [arc, back_mod_eq start stop few]

/-- An arc that starts at the front. -/
theorem arc_zero (inside : last < n) : arc n 0 last = List.range (last + 1) := by
  rw [arc, arcSteps_of_le (Nat.zero_le last) inside, Nat.sub_zero]
  calc (List.range (last + 1)).map (fun step => (0 + step) % n)
      = (List.range (last + 1)).map id := by
        apply List.map_congr_left
        intro step member
        have below := List.mem_range.mp member
        rw [Nat.zero_add, Nat.mod_eq_of_lt (by omega), id]
    _ = List.range (last + 1) := List.map_id _

/-- An arc that ends at the back. -/
theorem arc_last (inside : first < n) : arc n first (n - 1) = List.range' first (n - first) := by
  have steps : arcSteps n first (n - 1) + 1 = n - first := by
    rw [arcSteps_of_le (by omega) (by omega)]
    omega
  rw [arc, steps, List.range'_eq_map_range]
  apply List.map_congr_left
  intro step member
  have below := List.mem_range.mp member
  exact Nat.mod_eq_of_lt (by omega)

/-- An arc visits indices of the circle. -/
theorem lt_of_mem_arc (nonempty : 0 < n) {index : Nat} (member : index ∈ arc n first last) :
    index < n := by
  obtain ⟨step, _, rfl⟩ := List.mem_map.mp member
  exact Nat.mod_lt _ nonempty

/-- An arc visits each of its indices once. -/
theorem nodup_arc (start : first < n) (last : Nat) : (arc n first last).Nodup := by
  have bound := arcSteps_lt (Nat.zero_lt_of_lt start) first last
  refine List.Nodup.map_on ?_ List.nodup_range
  intro step inside other within same
  have few := List.mem_range.mp inside
  have fewer := List.mem_range.mp within
  exact (Nat.ModEq.add_left_cancel' first same).eq_of_lt_of_lt (by omega) (by omega)

theorem length_arc_le (nonempty : 0 < n) (first last : Nat) : (arc n first last).length ≤ n := by
  rw [arc, List.length_map, List.length_range]
  exact arcSteps_lt nonempty first last

/-! ### Walks -/

/-- Going on from the first index of an arc leads to its last one. -/
theorem walk_forward (start : first < n) (stop : last < n) :
    Walk (fun index => (index + 1) % n) last (arcSteps n first last)
      fun step => (first + step) % n where
  next := by
    intro count _
    rw [Nat.mod_add_mod, Nat.add_assoc]
  before := by
    intro count below same
    have bound := arcSteps_lt (Nat.zero_lt_of_lt start) first last
    have met := Nat.ModEq.add_left_cancel' first (same.trans (add_arcSteps_mod start stop).symm)
    have steps := met.eq_of_lt_of_lt (by omega) bound
    omega
  ends := add_arcSteps_mod start stop

/-- Going back from the last index of an arc leads to its first one. -/
theorem walk_backward (start : first < n) (stop : last < n) :
    Walk (fun index => (index + n - 1) % n) first (arcSteps n first last)
      fun step => (last + n - step) % n where
  next := by
    intro count below
    have bound := arcSteps_lt (Nat.zero_lt_of_lt start) first last
    have back : last + n - (count + 1) + n = last + n - count + (n - 1) := by omega
    have around : (last + n - count) % n + n - 1 = (last + n - count) % n + (n - 1) := by omega
    rw [around, Nat.mod_add_mod, ← back, Nat.add_mod_right]
  before := by
    intro count below same
    have bound := arcSteps_lt (Nat.zero_lt_of_lt start) first last
    have front : (first + 0) % n = first := Nat.mod_eq_of_lt start
    rw [back_mod_eq start stop (Nat.le_of_lt below)] at same
    have met := Nat.ModEq.add_left_cancel' first (same.trans front.symm)
    have steps := met.eq_of_lt_of_lt (by omega) (Nat.zero_lt_of_lt start)
    omega
  ends := by
    rw [back_mod_eq start stop (Nat.le_refl _), Nat.sub_self, Nat.add_zero, Nat.mod_eq_of_lt start]

/-- Searching forwards goes along the arc. -/
theorem scan_forward (start : first < n) (stop : last < n) (hit : Nat → Bool) :
    ∃ tested, Scan hit (fun index => (index + 1) % n) last first tested
      ((arc n first last).find? hit) ∧ tested <+: arc n first last := by
  have begins : (first + 0) % n = first := Nat.mod_eq_of_lt start
  have scan := (walk_forward start stop).scan hit
  rwa [begins] at scan

/-- Searching backwards goes along the reversed arc. -/
theorem scan_backward (start : first < n) (stop : last < n) (hit : Nat → Bool) :
    ∃ tested, Scan hit (fun index => (index + n - 1) % n) first last tested
      ((arc n first last).reverse.find? hit) ∧ tested <+: (arc n first last).reverse := by
  have begins : (last + n - 0) % n = last := by
    rw [Nat.sub_zero, Nat.add_mod_right, Nat.mod_eq_of_lt stop]
  have scan := (walk_backward start stop).scan hit
  rwa [begins, ← reverse_arc start stop] at scan

/-! ### Laps -/

/-- All indices of a circle of `n`, in the order in which a search meets them that starts next to
the cursor.  The index of the cursor comes last. -/
def lap (n cursor : Nat) : (backwards : Bool) → List Nat
  | false => (List.range n).map fun step => (cursor + 1 + step) % n
  | true => (List.range n).map fun step => (cursor + n - (step + 1)) % n

variable {cursor : Nat}

/-- From behind the cursor through the cursor. -/
theorem arc_next (inside : cursor < n) : arc n ((cursor + 1) % n) cursor = lap n cursor false := by
  have round : arcSteps n ((cursor + 1) % n) cursor + 1 = n := by
    rcases Nat.lt_or_ge (cursor + 1) n with more | final
    · rw [Nat.mod_eq_of_lt more, arcSteps_of_lt (Nat.lt_succ_self cursor) more]
      omega
    · have around : cursor + 1 = n := Nat.le_antisymm inside final
      rw [around, Nat.mod_self, arcSteps_of_le (Nat.zero_le cursor) inside]
      omega
  rw [arc, round, lap]
  apply List.map_congr_left
  intro step _
  rw [Nat.mod_add_mod]

/-- From before the cursor back through the cursor. -/
theorem reverse_arc_previous (inside : cursor < n) :
    (arc n cursor ((cursor + n - 1) % n)).reverse = lap n cursor true := by
  have previous := Nat.mod_lt (cursor + n - 1) (Nat.zero_lt_of_lt inside)
  have round : arcSteps n cursor ((cursor + n - 1) % n) + 1 = n := by
    rcases Nat.eq_zero_or_pos cursor with rfl | positive
    · rw [arcSteps_of_le (Nat.zero_le _) previous, Nat.zero_add, Nat.mod_eq_of_lt (by omega)]
      omega
    · have back : (cursor + n - 1) % n = cursor - 1 := by
        have around : cursor + n - 1 = cursor - 1 + n := by omega
        rw [around, Nat.add_mod_right, Nat.mod_eq_of_lt (by omega)]
      rw [back, arcSteps_of_lt (by omega) inside]
      omega
  rw [reverse_arc inside previous, round, lap]
  apply List.map_congr_left
  intro step member
  have few := List.mem_range.mp member
  have merged : (cursor + n - 1) % n + n - step = (cursor + n - 1) % n + (n - step) := by omega
  have total : cursor + n - 1 + (n - step) = cursor + n - (step + 1) + n := by omega
  rw [merged, Nat.mod_add_mod, total, Nat.add_mod_right]

theorem lap_false (n cursor : Nat) : lap n cursor false = (List.range n).rotate (cursor + 1) := by
  apply List.ext_getElem
  · simp [lap]
  · intro step _ _
    simp [lap, List.getElem_rotate, Nat.add_comm step]

theorem lap_true (n cursor : Nat) : lap n cursor true = ((List.range n).rotate cursor).reverse := by
  apply List.ext_getElem
  · simp [lap]
  · intro step inside _
    have below : step < n := by simpa [lap] using inside
    have back : n - 1 - step + cursor = cursor + n - (step + 1) := by omega
    simp [lap, List.getElem_rotate, back]

/-- A lap meets every index once. -/
theorem lap_perm (n cursor : Nat) (backwards : Bool) :
    (lap n cursor backwards).Perm (List.range n) := by
  cases backwards with
  | false =>
    rw [lap_false]
    exact List.rotate_perm _ _
  | true =>
    rw [lap_true]
    exact (List.reverse_perm _).trans (List.rotate_perm _ _)

@[simp] theorem mem_lap {index : Nat} {backwards : Bool} :
    index ∈ lap n cursor backwards ↔ index < n := by
  rw [(lap_perm n cursor backwards).mem_iff, List.mem_range]

/-- Both laps end on the cursor, and but for that one is the other in reverse. -/
theorem lap_concat (inside : cursor < n) (backwards : Bool) :
    ∃ others, lap n cursor backwards = others ++ [cursor] ∧
      lap n cursor (!backwards) = others.reverse ++ [cursor] := by
  obtain ⟨before, after, split, length⟩ : ∃ before after,
      List.range n = before ++ cursor :: after ∧ before.length = cursor := by
    have here : cursor < (List.range n).length := by rwa [List.length_range]
    refine ⟨(List.range n).take cursor, (List.range n).drop (cursor + 1), ?_, ?_⟩
    · simpa using (List.take_append_drop cursor (List.range n)).symm.trans
        (congrArg _ (List.drop_eq_getElem_cons here))
    · simpa using Nat.min_eq_left (Nat.le_of_lt inside)
  have onward : lap n cursor false = after ++ before ++ [cursor] := by
    have longer : (before ++ [cursor]).length = cursor + 1 := by simp [length]
    rw [lap_false, split, List.append_cons, ← longer, List.rotate_append_length_eq,
      List.append_assoc]
  have back : lap n cursor true = (after ++ before).reverse ++ [cursor] := by
    have turned : (before ++ cursor :: after).rotate cursor = cursor :: after ++ before := by
      have rotated := List.rotate_append_length_eq before (cursor :: after)
      rwa [length] at rotated
    rw [lap_true, split, turned, List.cons_append, List.reverse_cons]
  cases backwards with
  | false => exact ⟨after ++ before, onward, back⟩
  | true => exact ⟨(after ++ before).reverse, back, by simpa using onward⟩

/-- A rotation of a range that starts with an index is the one by that index. -/
theorem rotate_range_of_cons {turns index : Nat} {rest : List Nat}
    (starts : (List.range n).rotate turns = index :: rest) :
    (List.range n).rotate index = index :: rest := by
  have nonempty : 0 < ((List.range n).rotate turns).length := by simp [starts]
  have first : index = turns % (List.range n).length := by
    have head := List.getElem_rotate (List.range n) turns 0 nonempty
    simpa [starts] using head
  rw [← starts, first, List.rotate_mod]

/-- Starting over next to an index that a lap meets: first comes what the lap met after it, then
what it met before it. -/
theorem lap_next {backwards : Bool} {index : Nat} {before after : List Nat}
    (split : lap n cursor backwards = before ++ index :: after) :
    lap n index backwards = after ++ before ++ [index] := by
  cases backwards with
  | false =>
    rw [lap_false] at split ⊢
    have turned : (List.range n).rotate (cursor + 1 + before.length) =
        index :: (after ++ before) := by
      rw [← List.rotate_rotate, split, List.rotate_append_length_eq, List.cons_append]
    rw [← List.rotate_rotate, rotate_range_of_cons turned, List.rotate_cons_succ, List.rotate_zero]
  | true =>
    rw [lap_true] at split ⊢
    have forwards : (List.range n).rotate cursor =
        after.reverse ++ index :: before.reverse := by
      have twice := congrArg List.reverse split
      simpa using twice
    have turned : (List.range n).rotate (cursor + after.length) =
        index :: (before.reverse ++ after.reverse) := by
      rw [← List.rotate_rotate, forwards, ← List.length_reverse, List.rotate_append_length_eq,
        List.cons_append]
    rw [rotate_range_of_cons turned]
    simp

/-- Turning round at an index that a lap meets: first comes what the lap met before it, in reverse,
then the cursor that the lap started from. -/
theorem lap_turn {backwards : Bool} {index : Nat} {before after : List Nat} (inside : cursor < n)
    (split : lap n cursor backwards = before ++ index :: after) :
    ∃ rest, lap n index (!backwards) = before.reverse ++ cursor :: rest := by
  have met : index < n := by
    have member : index ∈ lap n cursor backwards := by simp [split]
    exact mem_lap.mp member
  obtain ⟨others, onward, _⟩ := lap_concat inside backwards
  obtain ⟨turned, there, reversed⟩ := lap_concat met backwards
  obtain rfl : turned = after ++ before :=
    (List.append_inj' (there.symm.trans (lap_next split)) rfl).1
  have last : (index :: after).getLast? = some cursor := by
    have ends := congrArg List.getLast? (split.symm.trans onward)
    simpa using ends
  obtain ⟨between, final⟩ := List.getLast?_eq_some_iff.mp last
  have flipped : after.reverse ++ [index] = cursor :: between.reverse := by
    rw [← List.reverse_cons, final, List.reverse_concat]
  exact ⟨between.reverse, by rw [reversed, List.reverse_append, List.append_assoc, flipped]⟩

end Arc

namespace TrackList

variable {list : TrackList}

/-- A search takes the first hit of its arc, or of the reversed arc. -/
theorem findWith_eq_find? (nonempty : 0 < list.size) (matcher : Matcher) (mask : FieldMask)
    (first last : Nat) (reverse : Bool) :
    list.findWith matcher mask first last reverse =
      let path := arc list.size (min first (list.size - 1)) (min last (list.size - 1))
      (if reverse then path.reverse else path).find? (list.hits matcher mask) := by
  have start : min first (list.size - 1) < list.size := by omega
  have stop : min last (list.size - 1) < list.size := by omega
  have short := length_arc_le nonempty (min first (list.size - 1)) (min last (list.size - 1))
  unfold findWith
  dsimp only
  rw [if_neg (Nat.ne_of_gt nonempty)]
  cases reverse with
  | true =>
    obtain ⟨tested, scan, part⟩ := scan_backward start stop (list.hits matcher mask)
    exact scan.seek_eq (Nat.le_trans part.length_le (by rwa [List.length_reverse]))
  | false =>
    obtain ⟨tested, scan, part⟩ := scan_forward start stop (list.hits matcher mask)
    exact scan.seek_eq (Nat.le_trans part.length_le short)

variable {cursor : Nat}

/-- A search from behind the cursor to the cursor goes around once. -/
theorem findWith_next (inside : cursor < list.size) (matcher : Matcher) (mask : FieldMask)
    (reverse : Bool) :
    list.findWith matcher mask ((cursor + 1) % list.size) cursor reverse =
      (if reverse then (lap list.size cursor false).reverse
        else lap list.size cursor false).find? (list.hits matcher mask) := by
  have nonempty := Nat.zero_lt_of_lt inside
  have next := Nat.mod_lt (cursor + 1) nonempty
  rw [findWith_eq_find? nonempty]
  simp only [Nat.min_eq_left (Nat.le_sub_one_of_lt inside),
    Nat.min_eq_left (Nat.le_sub_one_of_lt next), arc_next inside]

/-- A search from the cursor to before the cursor goes around once. -/
theorem findWith_previous (inside : cursor < list.size) (matcher : Matcher) (mask : FieldMask)
    (reverse : Bool) :
    list.findWith matcher mask cursor ((cursor + list.size - 1) % list.size) reverse =
      (if reverse then lap list.size cursor true
        else (lap list.size cursor true).reverse).find? (list.hits matcher mask) := by
  have nonempty := Nat.zero_lt_of_lt inside
  have previous := Nat.mod_lt (cursor + list.size - 1) nonempty
  rw [findWith_eq_find? nonempty]
  simp only [Nat.min_eq_left (Nat.le_sub_one_of_lt inside),
    Nat.min_eq_left (Nat.le_sub_one_of_lt previous), ← reverse_arc_previous inside,
    List.reverse_reverse]

end TrackList

end TrackBrowser
