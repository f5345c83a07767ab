/-
Module: TrackBrowser.Proofs.TrackList.Searching
Purpose: Which tracks a search tests, what it finds, and where searching again and again leads.
-/
import TrackBrowser.Proofs.TrackList.Selecting
import TrackBrowser.Proofs.TrackList.Viewport

/-!
`find_scans_arc` says what one search does: it goes along an arc, tests no index twice and none
beside the arc, and ends on the first hit, in either direction.

Type-ahead search goes around the whole list, starting next to the cursor, so what it finds is the
first hit of a lap.  The lap from there on is the old one turned until the hit has become its last
index, and the hits on it are turned with it.  `search_cycles` follows from that: searching again
and again goes through all hits in a circle.
-/

namespace TrackBrowser.TrackList

variable {list : TrackList}

/-! ### One search -/

/-- A search visits the indices of an arc, from the first one on or in reverse, and finds the first
hit among them.  Its loop ends in one way only: with that result, having tested some first part of
the arc, so no index twice and no more indices than there are.  Forwards and in reverse it fails on
the same arcs, and finds the first and the last hit of the others. -/
theorem find_scans_arc (nonempty : 0 < list.size) (pattern : String) (mask : FieldMask)
    (first last : Nat) (options : MatchOptions) :
    let n := list.size
    let start := min first (n - 1)
    let stop := min last (n - 1)
    let path := arc n start stop
    let hit := list.hits (Matcher.compile pattern options) mask
    let forwards := list.find pattern mask first last { options with reverse := false }
    let backwards := list.find pattern mask first last { options with reverse := true }
    (forwards = path.find? hit ∧ backwards = path.reverse.find? hit) ∧
      (forwards = none ↔ ∀ index ∈ path, hit index = false) ∧
      (backwards = none ↔ ∀ index ∈ path, hit index = false) ∧
      (∃ tested, (∀ others result,
          Scan hit (fun index => (index + 1) % n) stop start others result ↔
            others = tested ∧ result = forwards) ∧
        tested <+: path ∧ tested.Nodup ∧ tested.length ≤ n) ∧
      (∃ tested, (∀ others result,
          Scan hit (fun index => (index + n - 1) % n) start stop others result ↔
            others = tested ∧ result = backwards) ∧
        tested <+: path.reverse ∧ tested.Nodup ∧ tested.length ≤ n) ∧
      forwards = (path.filter hit).head? ∧ backwards = (path.filter hit).getLast? := by
  intro n start stop path hit forwards backwards
  have startInside : start < n := by omega
  have stopInside : stop < n := by omega
  have once : path.Nodup := nodup_arc startInside stop
  have short : path.length ≤ n := length_arc_le nonempty start stop
  -- The direction is among the options of a matcher, but what it accepts does not depend on it.
  have onward : forwards = path.find? hit := findWith_eq_find? nonempty _ mask first last false
  have back : backwards = path.reverse.find? hit :=
    findWith_eq_find? nonempty _ mask first last true
  obtain ⟨tested, scan, part⟩ := scan_forward startInside stopInside hit
  obtain ⟨retested, rescan, repart⟩ := scan_backward startInside stopInside hit
  refine ⟨⟨onward, back⟩, ?_, ?_, ⟨tested, ?_, part, ?_, ?_⟩,
    ⟨retested, ?_, repart, ?_, ?_⟩, ?_, ?_⟩
  · simp only [onward, List.find?_eq_none, Bool.not_eq_true]
  · simp only [back, List.find?_eq_none, Bool.not_eq_true, List.mem_reverse]
  · rw [onward]
    exact scan.outcome_iff
  · exact once.sublist part.sublist
  · exact Nat.le_trans part.length_le short
  · rw [back]
    exact rescan.outcome_iff
  · exact (List.nodup_reverse.mpr once).sublist repart.sublist
  · exact Nat.le_trans repart.length_le (by rwa [List.length_reverse])
  · rw [onward, List.head?_filter]
  · rw [back, ← List.head?_filter, List.filter_reverse, List.head?_reverse]

/-- Three tracks, the first and the last by the same artist. -/
def duet : List Operation :=
  [.append { file := "first.ogg", artist := "Ada" },
    .append { file := "second.ogg", artist := "Bo" },
    .append { file := "third.ogg", artist := "Ada" }]

/-- From the last of them around to the second, the third and the first match. -/
theorem find_scans_arc_duet :
    0 < (run duet).size ∧
      (run duet).find "ada" .all 7 1 { reverse := false } = some 2 ∧
      (run duet).find "ada" .all 7 1 { reverse := true } = some 0 ∧
      ∃ tested, tested <+: [2, 0, 1] ∧
        Scan ((run duet).hits (Matcher.compile "ada" {}) .all) (fun index => (index + 1) % 3) 1 2
          tested (some 2) := by
  have nonempty : 0 < (run duet).size := by decide
  have path : arc (run duet).size (min 7 ((run duet).size - 1)) (min 1 ((run duet).size - 1)) =
      [2, 0, 1] := by decide
  have matching : [2, 0, 1].filter ((run duet).hits (Matcher.compile "ada" {}) .all) = [2, 0] := by
    decide +kernel
  obtain ⟨_, _, _, ⟨tested, outcome, part, _⟩, _, onward, back⟩ :=
    find_scans_arc nonempty "ada" .all 7 1 {}
  rw [path, matching] at onward back
  rw [path] at part
  have scan := (outcome tested _).mpr ⟨rfl, rfl⟩
  rw [onward] at scan
  exact ⟨nonempty, onward, back, tested, part, scan⟩

/-! ### Type-ahead search -/

/-- Whether a pattern matches the track at a visible index, on any field. -/
def matchesAt (list : TrackList) (pattern : String) : Nat → Bool :=
  list.hits (Matcher.compile pattern list.baseOptions) .all

/-- The visible indices at which a pattern matches. -/
def matching (list : TrackList) (pattern : String) : List Nat :=
  (List.range list.size).filter (list.matchesAt pattern)

/-- The indices at which a pattern matches, in the order in which a search that starts next to the
cursor meets them. -/
def landings (list : TrackList) (pattern : String) (cursor : Nat) (backwards : Bool) : List Nat :=
  (lap list.size cursor backwards).filter (list.matchesAt pattern)

/-- The visible tracks are those at the visible indices. -/
theorem visibleTracks_eq_filterMap (list : TrackList) :
    list.visibleTracks = (List.range list.size).filterMap list.get? := by
  have indices : (List.range list.size).filterMap (fun index => list.visible[index]?) =
      list.visible := by
    rw [size, List.range_eq_range', filterMap_range'_getElem?, List.drop_zero, List.take_length]
  rw [visibleTracks, ← indices, List.filterMap_filterMap]
  rfl

/-- There are as many indices as tracks that match. -/
theorem length_matching (list : TrackList) (pattern : String) :
    (list.matching pattern).length =
      list.visibleTracks.countP fun track =>
        track.matchesPattern pattern .all list.baseOptions := by
  rw [matching, ← List.countP_eq_length_filter, visibleTracks_eq_filterMap,
    List.countP_filterMap]
  congr 1
  funext index
  rw [matchesAt, hits]
  cases list.get? index <;> rfl

variable {pattern : String} {cursor : Nat}

theorem cursorIndex?_putCursor {found : Nat} (inside : found < list.size) :
    (list.putCursor found).1.cursorIndex? = some found := by
  have nonempty := Nat.zero_lt_of_lt inside
  have there : (list.putCursor found).1.cursor =
      { list.cursor with index := found }.follow list.size := by
    simp only [putCursor, withCursor, Cursor.put, if_neg (Nat.ne_of_gt nonempty),
      Nat.min_eq_left (Nat.le_sub_one_of_lt inside)]
  have same : (list.putCursor found).1.size = list.size := rfl
  rw [cursorIndex?, Cursor.position?, there, same, if_pos nonempty, Cursor.follow_index,
    Nat.min_eq_left (Nat.le_sub_one_of_lt inside)]

/-- Type-ahead search goes around once, from next to the cursor or from the cursor on, and puts the
cursor on the first match. -/
theorem search_eq (onCursor : list.cursorIndex? = some cursor)
    (valid : list.checkPattern pattern = .ok ()) (backwards skipCurrent : Bool) :
    list.search pattern backwards skipCurrent =
      ((if skipCurrent then lap list.size cursor backwards
        else (lap list.size cursor !backwards).reverse).find? (list.matchesAt pattern)).elim
          (.error .notFound) fun found => .ok ((list.putCursor found).1, found) := by
  have inside := cursorIndex?_lt onCursor
  have found :
      (let ends := if backwards = skipCurrent then (cursor, (cursor + list.size - 1) % list.size)
        else ((cursor + 1) % list.size, cursor)
      list.find pattern .all ends.1 ends.2 { list.baseOptions with reverse := backwards }) =
        (if skipCurrent then lap list.size cursor backwards
          else (lap list.size cursor !backwards).reverse).find? (list.matchesAt pattern) := by
    cases backwards <;> cases skipCurrent
    · exact findWith_previous inside _ .all false
    · exact findWith_next inside _ .all false
    · exact findWith_next inside _ .all true
    · exact findWith_previous inside _ .all true
  simp only [search, onCursor, valid, bind, Except.bind, found]
  generalize List.find? _ _ = found?
  cases found? <;> rfl

/-! ### Searching again -/

/-- A match is at a visible index. -/
theorem mem_landings {index : Nat} {backwards : Bool} :
    index ∈ list.landings pattern cursor backwards ↔
      index < list.size ∧ list.matchesAt pattern index = true := by
  rw [landings, List.mem_filter, mem_lap]

/-- The matches on a lap are all matches. -/
theorem landings_perm (list : TrackList) (pattern : String) (cursor : Nat) (backwards : Bool) :
    (list.landings pattern cursor backwards).Perm (list.matching pattern) :=
  (lap_perm list.size cursor backwards).filter _

/-- From the first match on, the lap meets the others first and this one last. -/
theorem landings_next {found : Nat} {rest : List Nat} {backwards : Bool}
    (ahead : list.landings pattern cursor backwards = found :: rest) :
    list.landings pattern found backwards = rest ++ [found] := by
  obtain ⟨before, after, split, missed, here, others⟩ := List.filter_eq_cons_iff.mp ahead
  rw [landings, lap_next split, List.filter_append, List.filter_append, others,
    List.filter_eq_nil_iff.mpr missed, List.append_nil, List.filter_cons_of_pos here,
    List.filter_nil]

/-- A search that starts next to the cursor goes to the first match of its lap. -/
theorem search_next {found : Nat} {rest : List Nat} {backwards : Bool}
    (onCursor : list.cursorIndex? = some cursor) (valid : list.checkPattern pattern = .ok ())
    (ahead : list.landings pattern cursor backwards = found :: rest) :
    list.search pattern backwards true = .ok ((list.putCursor found).1, found) ∧
      list.perform (.search pattern backwards true) = (list.putCursor found).1 ∧
        (list.putCursor found).1.cursorIndex? = some found := by
  have first := congrArg List.head? ahead
  rw [landings, List.head?_filter, List.head?_cons] at first
  have searched : list.search pattern backwards true = .ok ((list.putCursor found).1, found) := by
    rw [search_eq onCursor valid, if_pos rfl, first, Option.elim_some]
  have inside := (mem_landings.mp (ahead ▸ List.mem_cons_self)).1
  exact ⟨searched, by simp only [perform, searched, afterCall], cursorIndex?_putCursor inside⟩

/-- A list to which some number of searches have led: nothing but the cursor has moved, and the
matches on its lap are turned by as many places. -/
structure Midway (list : TrackList) (pattern : String) (cursor : Nat) (backwards : Bool)
    (count : Nat) (reached : TrackList) : Prop where
  moved : ∃ moved redraw, reached = { list with cursor := moved, redraw := redraw }
  turned : ∃ here, reached.cursorIndex? = some here ∧
    list.landings pattern here backwards = (list.landings pattern cursor backwards).rotate count

/-- One more search goes to the match whose turn it is, and turns the lap by one more place. -/
theorem Midway.next {reached : TrackList} {backwards : Bool} {count : Nat}
    (midway : list.Midway pattern cursor backwards count reached)
    (valid : list.checkPattern pattern = .ok ())
    (someMatch : list.landings pattern cursor backwards ≠ []) :
    let after := reached.perform (.search pattern backwards true)
    list.Midway pattern cursor backwards (count + 1) after ∧
      ∃ found, (list.landings pattern cursor backwards)[
          count % (list.landings pattern cursor backwards).length]? = some found ∧
        reached.search pattern backwards true = .ok (after, found) ∧
          after.cursorIndex? = some found := by
  intro after
  obtain ⟨⟨moved, redraw, rfl⟩, here, onHere, turned⟩ := midway
  have aheadSome : list.landings pattern here backwards ≠ [] := by
    rw [turned, ne_eq, List.rotate_eq_nil_iff]
    exact someMatch
  obtain ⟨found, rest, ahead⟩ := List.exists_cons_of_ne_nil aheadSome
  obtain ⟨searched, performed, landed⟩ := search_next onHere valid ahead
  have turn : (list.landings pattern cursor backwards)[
      count % (list.landings pattern cursor backwards).length]? = some found := by
    have below := Nat.mod_lt count (List.length_pos_iff.mpr someMatch)
    rw [← List.head?_rotate below, List.rotate_mod, ← turned, ahead, List.head?_cons]
  have around : list.landings pattern found backwards =
      (list.landings pattern cursor backwards).rotate (count + 1) := by
    rw [landings_next ahead, ← List.rotate_rotate, ← turned, ahead, List.rotate_cons_succ,
      List.rotate_zero]
  rw [← performed] at searched landed
  exact ⟨⟨⟨_, _, performed⟩, found, landed, around⟩, found, turn, searched, landed⟩

theorem midway_iterate (onCursor : list.cursorIndex? = some cursor)
    (valid : list.checkPattern pattern = .ok ()) {backwards : Bool}
    (someMatch : list.landings pattern cursor backwards ≠ []) (count : Nat) :
    list.Midway pattern cursor backwards count
      ((fun list => list.perform (.search pattern backwards true))^[count] list) := by
  induction count with
  | zero => exact ⟨⟨_, _, rfl⟩, cursor, onCursor, (List.rotate_zero _).symm⟩
  | succ count ih =>
    rw [Function.iterate_succ_apply']
    exact (ih.next valid someMatch).1

/-- From a match, searching forth and back again, or back and forth again, leads to it. -/
theorem search_back (onCursor : list.cursorIndex? = some cursor)
    (valid : list.checkPattern pattern = .ok ()) (here : list.matchesAt pattern cursor = true)
    (backwards : Bool) :
    ∃ next found back, list.search pattern backwards true = .ok (next, found) ∧
      next.search pattern (!backwards) true = .ok (back, cursor) ∧
        back.cursorIndex? = some cursor := by
  have inside := cursorIndex?_lt onCursor
  have member : cursor ∈ list.landings pattern cursor backwards := mem_landings.mpr ⟨inside, here⟩
  obtain ⟨found, rest, ahead⟩ := List.exists_cons_of_ne_nil (List.ne_nil_of_mem member)
  obtain ⟨searched, _, landed⟩ := search_next onCursor valid ahead
  obtain ⟨before, after, split, missed, _, _⟩ := List.filter_eq_cons_iff.mp ahead
  obtain ⟨restOfLap, turned⟩ := lap_turn inside split
  have returns : (lap list.size found (!backwards)).find? (list.matchesAt pattern) =
      some cursor := by
    -- The way to the first match passes no other, so the first one on the way back is the cursor.
    have none : before.reverse.find? (list.matchesAt pattern) = none := by
      rw [List.find?_eq_none]
      exact fun index passed => missed index (List.mem_reverse.mp passed)
    rw [turned, List.find?_append, none, Option.none_or, List.find?_cons_of_pos here]
  have same : (list.putCursor found).1.matchesAt pattern = list.matchesAt pattern := rfl
  have size : (list.putCursor found).1.size = list.size := rfl
  have searched_back : (list.putCursor found).1.search pattern (!backwards) true =
      .ok (((list.putCursor found).1.putCursor cursor).1, cursor) := by
    rw [search_eq landed valid, if_pos rfl, same, size, returns, Option.elim_some]
  exact ⟨_, found, _, searched, searched_back, cursorIndex?_putCursor inside⟩

/-- Putting the cursor where it has just been put changes nothing. -/
theorem putCursor_putCursor (list : TrackList) (index : Nat) :
    ((list.putCursor index).1.putCursor index).1 = (list.putCursor index).1 := by
  have same := list.cursor.put_put index list.size
  exact congrArg (fun cursor => { list with cursor := cursor, redraw := true }) same

/-- A search that may stay on the cursor comes to the same when it is repeated. -/
theorem search_again (valid : list.checkPattern pattern = .ok ()) (backwards : Bool) :
    (list.perform (.search pattern backwards false)).search pattern backwards false =
      list.search pattern backwards false := by
  cases onCursor : list.cursorIndex? with
  | none =>
    have failed : list.search pattern backwards false = .error .notFound := by
      rw [search, onCursor]
    simp only [perform, failed, afterCall]
  | some cursor =>
    have inside := cursorIndex?_lt onCursor
    have searched := search_eq onCursor valid backwards false
    simp only [perform]
    cases first : (lap list.size cursor !backwards).reverse.find? (list.matchesAt pattern) with
    | none =>
      rw [if_neg (by simp), first, Option.elim_none] at searched
      simp only [searched, afterCall]
    | some found =>
      rw [if_neg (by simp), first, Option.elim_some] at searched
      simp only [searched, afterCall]
      have here := List.find?_some first
      have there : found < list.size := by
        have member := List.mem_of_find?_eq_some first
        rwa [List.mem_reverse, mem_lap] at member
      obtain ⟨_, _, around⟩ := lap_concat there backwards
      have same : (list.putCursor found).1.matchesAt pattern = list.matchesAt pattern := rfl
      have size : (list.putCursor found).1.size = list.size := rfl
      rw [search_eq (cursorIndex?_putCursor there) valid, if_neg (by simp), same, size, around,
        List.reverse_concat, List.find?_cons_of_pos here, Option.elim_some, putCursor_putCursor]

/-- Without a match every search fails. -/
theorem search_of_matching_eq_nil (valid : list.checkPattern pattern = .ok ())
    (noMatch : list.matching pattern = []) (backwards skipCurrent : Bool) :
    list.search pattern backwards skipCurrent = .error .notFound := by
  cases onCursor : list.cursorIndex? with
  | none => rw [search, onCursor]
  | some cursor =>
    have missed : ∀ index < list.size, list.matchesAt pattern index = false := by
      simpa [matching] using noMatch
    have nothing : (if skipCurrent then lap list.size cursor backwards
        else (lap list.size cursor !backwards).reverse).find? (list.matchesAt pattern) = none := by
      rw [List.find?_eq_none]
      intro index member
      have below : index < list.size := by
        cases skipCurrent <;> simpa using member
      simp [missed index below]
    rw [search_eq onCursor valid, nothing, Option.elim_none]

/-- Searching again and again, for a pattern that can be used.  Where nothing matches, every search
says so and changes nothing.  Otherwise the searches that start next to the cursor lead through all
matches, in the order in which a lap from the cursor meets them and around again from the last to
the first; from a match, one forwards and one backwards undo each other.  A search that may stay on
the cursor changes nothing when it is repeated. -/
theorem search_cycles (list : TrackList) {pattern : String}
    (valid : list.checkPattern pattern = .ok ()) :
    let again := fun (backwards : Bool) (list : TrackList) =>
      list.perform (.search pattern backwards true)
    (list.matching pattern).length = list.visibleTracks.countP
        (fun track => track.matchesPattern pattern .all list.baseOptions) ∧
      (list.matching pattern = [] → ∀ backwards skipCurrent,
        list.search pattern backwards skipCurrent = .error .notFound ∧
          list.perform (.search pattern backwards skipCurrent) = list) ∧
      (list.matching pattern ≠ [] → ∃ cursor, list.cursorIndex? = some cursor ∧ ∀ backwards,
        (list.landings pattern cursor backwards).Perm (list.matching pattern) ∧
          ∀ count, ∃ found,
            (list.landings pattern cursor backwards)[count % (list.matching pattern).length]? =
              some found ∧
            ((again backwards)^[count] list).search pattern backwards true =
              .ok ((again backwards)^[count + 1] list, found) ∧
            ((again backwards)^[count + 1] list).cursorIndex? = some found) ∧
      (∀ cursor ∈ list.matching pattern, list.cursorIndex? = some cursor → ∀ backwards,
        ∃ next found back, list.search pattern backwards true = .ok (next, found) ∧
          next.search pattern (!backwards) true = .ok (back, cursor) ∧
            back.cursorIndex? = some cursor) ∧
      ∀ backwards,
        (list.perform (.search pattern backwards false)).search pattern backwards false =
          list.search pattern backwards false := by
  intro again
  refine ⟨list.length_matching pattern, ?_, ?_, ?_, search_again valid⟩
  · intro noMatch backwards skipCurrent
    have failed := search_of_matching_eq_nil valid noMatch backwards skipCurrent
    simp only [perform, failed, afterCall, and_self]
  · intro someMatch
    obtain ⟨index, member⟩ := List.exists_mem_of_ne_nil _ someMatch
    have nonempty : list.cursorIndex? ≠ none := by
      have inside := List.mem_range.mp (List.mem_filter.mp member).1
      rw [ne_eq, cursorIndex?_eq_none]
      omega
    obtain ⟨cursor, onCursor⟩ := Option.ne_none_iff_exists'.mp nonempty
    refine ⟨cursor, onCursor, fun backwards => ⟨list.landings_perm pattern cursor backwards, ?_⟩⟩
    have perm := list.landings_perm pattern cursor backwards
    have someLanding : list.landings pattern cursor backwards ≠ [] := by
      intro none
      exact someMatch (List.nil_perm.mp (none ▸ perm))
    intro count
    have midway := midway_iterate onCursor valid someLanding count
    rw [← perm.length_eq, Function.iterate_succ_apply']
    exact (midway.next valid someLanding).2
  · intro cursor member onCursor backwards
    exact search_back onCursor valid (List.mem_filter.mp member).2 backwards

/-- Two of those tracks match, so the third search finds what the first one did. -/
theorem search_cycles_duet :
    (run duet).checkPattern "ada" = .ok () ∧ (run duet).matching "ada" ≠ [] ∧
      (run duet).checkPattern "eve" = .ok () ∧ (run duet).matching "eve" = [] ∧
      (run duet).search "eve" false true = .error .notFound ∧
      ∃ cursor, (run duet).cursorIndex? = some cursor ∧
        ∀ count, ∃ found next, [2, 0][count % 2]? = some found ∧
          ((fun list => perform list (.search "ada" false true))^[count] (run duet)).search
            "ada" false true = .ok (next, found) := by
  have valid : (run duet).checkPattern "ada" = .ok () := by decide +kernel
  have matching : (run duet).matching "ada" = [0, 2] := by decide +kernel
  have someMatch : (run duet).matching "ada" ≠ [] := by simp [matching]
  have others_valid : (run duet).checkPattern "eve" = .ok () := by decide +kernel
  have noMatch : (run duet).matching "eve" = [] := by decide +kernel
  obtain ⟨_, failing, _⟩ := search_cycles (run duet) others_valid
  obtain ⟨_, _, cycling, _⟩ := search_cycles (run duet) valid
  obtain ⟨cursor, onCursor, laps⟩ := cycling someMatch
  obtain rfl : 0 = cursor := by
    have stands : (run duet).cursorIndex? = some 0 := by decide
    exact Option.some_inj.mp (stands.symm.trans onCursor)
  have ahead : (run duet).landings "ada" 0 false = [2, 0] := by decide +kernel
  refine ⟨valid, someMatch, others_valid, noMatch, (failing noMatch false true).1, 0, onCursor,
    ?_⟩
  intro count
  obtain ⟨found, turn, searched, _⟩ := (laps false).2 count
  rw [ahead, matching] at turn
  exact ⟨found, _, turn, searched⟩

end TrackBrowser.TrackList
