/-
Module: TrackBrowser.Proofs.TrackList.SelectionWalk
Purpose: What walks over the selected tracks give, and what popping leaves selected.
-/
import Mathlib.Logic.Function.Iterate
import TrackBrowser.Proofs.TrackList.Selecting
import TrackBrowser.Proofs.TrackList.Totals
import TrackBrowser.Proofs.TrackList.Viewport

/-!
A walk is known by the visible indices that it has yet to give: those `ahead` of a forward walk and
those `behind` a backward one.  A call gives the first of them and leaves the others, which is what
`Foretells` says; so calls one after the other give all of them in turn and then nothing.  A walk
that starts has all `chosen` indices before it, those of the selected tracks or else that of the
cursor.

Popping deselects the track that it gives.  This lies behind the walk by then, so popping gives what
walking does.  Every selected track stays ahead until it is popped, so none is left selected when
nothing is ahead any more.
-/

namespace TrackBrowser

/-- The visible indices below this one are behind a forward walk through a list of some size. -/
def SelectionWalk.reached (size : Nat) : SelectionWalk → Nat
  | .fresh => 0
  | .at index => index + 1
  | .done => size

namespace TrackList

variable {exact : Prop} {list : TrackList}

/-! ### Lists that differ in their walks -/

/-- The second list is the first one with its walks at other places. -/
inductive Walked (list : TrackList) : TrackList → Prop where
  | to (forwardWalk backwardWalk : SelectionWalk) :
      Walked list { list with forwardWalk := forwardWalk, backwardWalk := backwardWalk }

namespace Walked

variable {next last : TrackList}

theorem refl : list.Walked list :=
  .to list.forwardWalk list.backwardWalk

theorem trans (first : list.Walked next) (second : next.Walked last) : list.Walked last := by
  cases first
  cases second
  exact .to _ _

theorem size_eq (walked : list.Walked next) : next.size = list.size := by
  cases walked
  rfl

theorem tracks_eq (walked : list.Walked next) : next.tracks = list.tracks := by
  cases walked
  rfl

theorem canonicalIndices_eq (walked : list.Walked next) (indices : List Nat) :
    next.canonicalIndices indices = list.canonicalIndices indices := by
  cases walked
  rfl

theorem unselected (walked : list.Walked next)
    (clear : ∀ track ∈ list.tracks, track.selected = false) :
    ∀ track ∈ next.tracks, track.selected = false := by
  cases walked
  exact clear

theorem selectedCount_eq (walked : list.Walked next) :
    next.selectedCount = list.selectedCount := by
  cases walked
  rfl

theorem isSelected_eq (walked : list.Walked next) : next.isSelected = list.isSelected := by
  cases walked
  rfl

theorem readOnly_eq (walked : list.Walked next) : next.readOnly = list.readOnly := by
  cases walked
  rfl

theorem coherent (walked : list.Walked next) (coherent : list.Coherent) : next.Coherent := by
  cases walked
  exact ⟨coherent.ascending, coherent.mem_visible⟩

theorem accounted (walked : list.Walked next) (accounted : list.Accounted exact) :
    next.Accounted exact := by
  cases walked
  have counts := accounted.counts
  exact ⟨⟨counts.totalSeconds, counts.selectedCount, counts.selectedSeconds⟩, accounted.passing⟩

end Walked

theorem restartWalks_walked (list : TrackList) : list.Walked list.restartWalks :=
  .to .fresh .fresh

theorem nextSelected_walked (list : TrackList) : list.Walked list.nextSelected.1 := by
  unfold nextSelected
  split
  · exact .to list.forwardWalk .fresh
  · split
    · exact .to .done .fresh
    · exact .to _ .fresh
  · exact .to _ .fresh

theorem previousSelected_walked (list : TrackList) : list.Walked list.previousSelected.1 := by
  unfold previousSelected
  split
  · exact .to .fresh list.backwardWalk
  · split
    · exact .to .fresh .done
    · exact .to .fresh _
  · exact .to .fresh _

/-- A step forward makes the backward walk start over. -/
theorem nextSelected_backwardWalk (list : TrackList) :
    list.nextSelected.1.backwardWalk = .fresh := by
  unfold nextSelected
  split
  · rfl
  · split <;> rfl
  · rfl

/-- A step backward makes the forward walk start over. -/
theorem previousSelected_forwardWalk (list : TrackList) :
    list.previousSelected.1.forwardWalk = .fresh := by
  unfold previousSelected
  split
  · rfl
  · split <;> rfl
  · rfl

/-! ### What a walk has yet to give -/

/-- The visible indices of the selected tracks, in ascending order. -/
def selectedIndices (list : TrackList) : List Nat :=
  (List.range list.size).filter list.isSelected

/-- The visible indices of the selected tracks, or else that of the cursor. -/
def chosen (list : TrackList) : List Nat :=
  if list.selectedIndices = [] then list.cursorIndex?.toList else list.selectedIndices

theorem Walked.chosen_eq {next : TrackList} (walked : list.Walked next) :
    next.chosen = list.chosen := by
  cases walked
  rfl

/-- The visible indices that the forward walk has yet to give. -/
def ahead (list : TrackList) : List Nat :=
  match list.forwardWalk with
  | .fresh =>
    if list.selectedCount = 0 then list.cursorIndex?.toList
    else (List.range' 0 (list.size - 0)).filter list.isSelected
  | .at index => (List.range' (index + 1) (list.size - (index + 1))).filter list.isSelected
  | .done => []

/-- The visible indices that the backward walk has yet to give. -/
def behind (list : TrackList) : List Nat :=
  match list.backwardWalk with
  | .fresh =>
    if list.selectedCount = 0 then list.cursorIndex?.toList
    else (List.range list.size).reverse.filter list.isSelected
  | .at index => (List.range index).reverse.filter list.isSelected
  | .done => []

/-- What is ahead is in range and ascends. -/
theorem ahead_sublist (list : TrackList) : list.ahead.Sublist (List.range list.size) := by
  have hits : ∀ start, ((List.range' start (list.size - start)).filter list.isSelected).Sublist
      (List.range list.size) := by
    intro start
    have part : (List.range list.size).drop start = List.range' start (list.size - start) := by
      rw [List.range_eq_range', List.drop_range', Nat.zero_add, Nat.mul_one]
    rw [← part]
    exact List.filter_sublist.trans (List.drop_sublist _ _)
  unfold ahead
  split
  · split
    · cases cursor : list.cursorIndex? with
      | none => exact List.nil_sublist _
      | some index =>
        exact List.singleton_sublist.mpr (List.mem_range.mpr (cursorIndex?_lt cursor))
    · exact hits 0
  · exact hits _
  · exact List.nil_sublist _

/-- `rest` is what the calls have yet to give: a call gives its first and leaves the others. -/
structure Foretells (rest : TrackList → List Nat)
    (call : TrackList → TrackList × Option Nat) : Prop where
  first : ∀ list : TrackList, (call list).2 = (rest list).head?
  others : ∀ {list : TrackList}, list.Coherent → rest (call list).1 = (rest list).tail
  coherent : ∀ {list : TrackList}, list.Coherent → (call list).1.Coherent

/-- The list after some calls. -/
def afterCalls (list : TrackList) (call : TrackList → TrackList × Option Nat) (count : Nat) :
    TrackList :=
  (fun list => (call list).1)^[count] list

/-- What a call gives after some others. -/
def answer (list : TrackList) (call : TrackList → TrackList × Option Nat) (count : Nat) :
    Option Nat :=
  (call (list.afterCalls call count)).2

theorem afterCalls_succ (list : TrackList) (call : TrackList → TrackList × Option Nat)
    (count : Nat) : list.afterCalls call (count + 1) = (call (list.afterCalls call count)).1 :=
  Function.iterate_succ_apply' _ count list

namespace Foretells

variable {rest : TrackList → List Nat} {call : TrackList → TrackList × Option Nat}

theorem coherent_afterCalls (foretells : Foretells rest call) (coherent : list.Coherent)
    (count : Nat) : (list.afterCalls call count).Coherent := by
  induction count with
  | zero => exact coherent
  | succ count ih =>
    rw [afterCalls_succ]
    exact foretells.coherent ih

theorem rest_afterCalls (foretells : Foretells rest call) (coherent : list.Coherent)
    (count : Nat) : rest (list.afterCalls call count) = (rest list).drop count := by
  induction count with
  | zero => rfl
  | succ count ih =>
    rw [afterCalls_succ, foretells.others (foretells.coherent_afterCalls coherent count), ih,
      List.tail_drop]

/-- Calls give in turn what was foretold, and then nothing. -/
theorem answer_eq (foretells : Foretells rest call) (coherent : list.Coherent) (count : Nat) :
    list.answer call count = (rest list)[count]? := by
  rw [answer, foretells.first, foretells.rest_afterCalls coherent, List.head?_drop]

end Foretells

/-! ### Walking -/

/-- The hits below an index, from the last to the first, are the one found and those below it. -/
theorem filter_reverse_range_of_find? {hit : Nat → Bool} {stop found : Nat}
    (search : (List.range stop).reverse.find? hit = some found) :
    (List.range stop).reverse.filter hit = found :: (List.range found).reverse.filter hit := by
  induction stop with
  | zero => cases search
  | succ stop ih =>
    rw [List.range_succ, List.reverse_concat] at search ⊢
    by_cases here : hit stop = true
    · rw [List.find?_cons_of_pos here] at search
      cases search
      rw [List.filter_cons_of_pos here]
    · rw [List.find?_cons_of_neg here] at search
      rw [List.filter_cons_of_neg here, ih search]

theorem walkForward_ahead (list : TrackList) (start : Nat) :
    let hits := (List.range' start (list.size - start)).filter list.isSelected
    (list.walkForward start).2 = hits.head? ∧ (list.walkForward start).1.ahead = hits.tail := by
  refine ⟨List.head?_filter.symm, ?_⟩
  cases search : (List.range' start (list.size - start)).find? list.isSelected with
  | none =>
    rw [List.filter_eq_nil_iff.mpr (List.find?_eq_none.mp search)]
    simp only [walkForward, search]
    rfl
  | some found =>
    rw [filter_range'_of_find? search]
    simp only [walkForward, search]
    rfl

theorem walkBackward_behind (list : TrackList) (stop : Nat) :
    let hits := (List.range stop).reverse.filter list.isSelected
    (list.walkBackward stop).2 = hits.head? ∧ (list.walkBackward stop).1.behind = hits.tail := by
  refine ⟨List.head?_filter.symm, ?_⟩
  cases search : (List.range stop).reverse.find? list.isSelected with
  | none =>
    rw [List.filter_eq_nil_iff.mpr (List.find?_eq_none.mp search)]
    simp only [walkBackward, search]
    rfl
  | some found =>
    rw [filter_reverse_range_of_find? search]
    simp only [walkBackward, search]
    rfl

theorem nextSelected_ahead (list : TrackList) :
    list.nextSelected.2 = list.ahead.head? ∧ list.nextSelected.1.ahead = list.ahead.tail := by
  cases walk : list.forwardWalk with
  | done =>
    simp only [nextSelected, ahead, walk]
    exact ⟨rfl, rfl⟩
  | fresh =>
    by_cases clear : list.selectedCount = 0
    · simp only [nextSelected, ahead, walk, clear, if_true]
      cases list.cursorIndex? <;> exact ⟨rfl, rfl⟩
    · have step := list.walkForward_ahead 0
      simp only [nextSelected, ahead, walk, clear, if_false]
      exact step
  | «at» index =>
    have step := list.walkForward_ahead (index + 1)
    simp only [nextSelected, ahead, walk]
    exact step

theorem previousSelected_behind (list : TrackList) :
    list.previousSelected.2 = list.behind.head? ∧
      list.previousSelected.1.behind = list.behind.tail := by
  cases walk : list.backwardWalk with
  | done =>
    simp only [previousSelected, behind, walk]
    exact ⟨rfl, rfl⟩
  | fresh =>
    by_cases clear : list.selectedCount = 0
    · simp only [previousSelected, behind, walk, clear, if_true]
      cases list.cursorIndex? <;> exact ⟨rfl, rfl⟩
    · have step := list.walkBackward_behind list.size
      simp only [previousSelected, behind, walk, clear, if_false]
      exact step
  | «at» index =>
    have step := list.walkBackward_behind index
    simp only [previousSelected, behind, walk]
    exact step

theorem foretells_nextSelected : Foretells ahead nextSelected where
  first list := list.nextSelected_ahead.1
  others {list} _ := list.nextSelected_ahead.2
  coherent {list} coherent := list.nextSelected_walked.coherent coherent

theorem foretells_previousSelected : Foretells behind previousSelected where
  first list := list.previousSelected_behind.1
  others {list} _ := list.previousSelected_behind.2
  coherent {list} coherent := list.previousSelected_walked.coherent coherent

/-! ### What a walk gives from its start -/

theorem mem_selectedIndices {index : Nat} :
    index ∈ list.selectedIndices ↔ list.isSelected index = true := by
  rw [selectedIndices, List.mem_filter, List.mem_range, and_iff_right_of_imp]
  intro marked
  obtain ⟨track, shown, _⟩ := (Option.any_eq_true _ _).mp marked
  obtain ⟨canonical, visible, _⟩ := Option.bind_eq_some_iff.mp shown
  exact (List.getElem?_eq_some_iff.mp visible).1

/-- Where nothing is counted as selected, nothing is. -/
theorem Accounted.unselected (accounted : list.Accounted exact) (clear : list.selectedCount = 0) :
    ∀ track ∈ list.tracks, track.selected = false := by
  have counted := accounted.counts.selectedCount
  rw [clear] at counted
  have marked := List.filter_eq_nil_iff.mp (List.length_eq_zero_iff.mp counted.symm)
  intro track member
  simpa using marked track member

/-- Where something is counted as selected, something visible is. -/
theorem Accounted.exists_isSelected (accounted : list.Accounted exact) (coherent : list.Coherent)
    (marks : 0 < list.selectedCount) : ∃ index, list.isSelected index = true := by
  rw [accounted.counts.selectedCount] at marks
  obtain ⟨track, member⟩ := List.exists_mem_of_length_pos marks
  obtain ⟨held, marked⟩ := List.mem_filter.mp member
  obtain ⟨canonical, there⟩ := List.mem_iff_getElem?.mp held
  have shown := (coherent.mem_visible canonical).mpr
    ⟨track, there, accounted.passing track held marked⟩
  obtain ⟨index, found⟩ := List.mem_iff_getElem?.mp shown
  refine ⟨index, ?_⟩
  simp only [isSelected, get?, found, Option.bind_some, there, Option.any_some, marked]

/-- The count of selected tracks tells whether a visible one is selected. -/
theorem Accounted.selectedCount_eq_zero_iff (accounted : list.Accounted exact)
    (coherent : list.Coherent) : list.selectedCount = 0 ↔ list.selectedIndices = [] := by
  constructor
  · intro clear
    refine List.eq_nil_iff_forall_not_mem.mpr fun index member => ?_
    obtain ⟨track, shown, marked⟩ := (Option.any_eq_true _ _).mp (mem_selectedIndices.mp member)
    obtain ⟨canonical, _, there⟩ := Option.bind_eq_some_iff.mp shown
    rw [accounted.unselected clear track (List.mem_of_getElem? there)] at marked
    cases marked
  · intro nothing
    by_contra marks
    obtain ⟨index, marked⟩ := accounted.exists_isSelected coherent (Nat.pos_of_ne_zero marks)
    rw [← mem_selectedIndices, nothing] at marked
    cases marked

section Start

variable {next : TrackList} (accounted : list.Accounted exact) (coherent : list.Coherent)

include accounted coherent

/-- A forward walk that starts has all chosen indices ahead. -/
theorem ahead_of_fresh (fresh : list.forwardWalk = .fresh) : list.ahead = list.chosen := by
  rw [ahead, fresh, chosen]
  simp only [accounted.selectedCount_eq_zero_iff coherent]
  rw [selectedIndices, List.range_eq_range', Nat.sub_zero]

/-- A backward walk that starts has all chosen indices behind. -/
theorem behind_of_fresh (fresh : list.backwardWalk = .fresh) :
    list.behind = list.chosen.reverse := by
  rw [behind, fresh, chosen]
  simp only [accounted.selectedCount_eq_zero_iff coherent]
  rw [selectedIndices, apply_ite List.reverse, List.filter_reverse]
  cases list.cursorIndex? <;> rfl

/-- From a restart on all chosen indices are ahead, and there are no more of them than rows. -/
theorem ahead_restartWalks :
    list.restartWalks.ahead = list.chosen ∧ list.chosen.length ≤ list.size := by
  have walked := list.restartWalks_walked
  have start : list.restartWalks.ahead = list.chosen := by
    rw [ahead_of_fresh (walked.accounted accounted) (walked.coherent coherent) rfl,
      walked.chosen_eq]
  have few := list.restartWalks.ahead_sublist.length_le
  rw [start, List.length_range, walked.size_eq] at few
  exact ⟨start, few⟩

theorem answer_nextSelected (walked : list.Walked next) (fresh : next.forwardWalk = .fresh)
    (count : Nat) : next.answer nextSelected count = list.chosen[count]? := by
  have again := walked.coherent coherent
  rw [foretells_nextSelected.answer_eq again,
    ahead_of_fresh (walked.accounted accounted) again fresh, walked.chosen_eq]

theorem answer_previousSelected (walked : list.Walked next) (fresh : next.backwardWalk = .fresh)
    (count : Nat) : next.answer previousSelected count = list.chosen.reverse[count]? := by
  have again := walked.coherent coherent
  rw [foretells_previousSelected.answer_eq again,
    behind_of_fresh (walked.accounted accounted) again fresh, walked.chosen_eq]

/-- With something selected, the first step of a walk finds a selected track. -/
theorem nextSelected_of_fresh (fresh : list.forwardWalk = .fresh)
    (marks : 0 < list.selectedCount) :
    ∃ index, list.nextSelected.2 = some index ∧ list.isSelected index = true := by
  have marked : list.selectedIndices ≠ [] := by
    rw [ne_eq, ← accounted.selectedCount_eq_zero_iff coherent]
    exact Nat.ne_of_gt marks
  obtain ⟨index, rest, parts⟩ := List.exists_cons_of_ne_nil marked
  have member : index ∈ list.selectedIndices := by
    rw [parts]
    exact List.mem_cons_self
  refine ⟨index, ?_, mem_selectedIndices.mp member⟩
  rw [list.nextSelected_ahead.1, ahead_of_fresh accounted coherent fresh, chosen, if_neg marked,
    parts, List.head?_cons]

end Start

/-! ### Popping -/

/-- What a step forward gives is behind the walk then. -/
theorem nextSelected_passes {index : Nat} (given : list.nextSelected.2 = some index) :
    index < list.nextSelected.1.forwardWalk.reached list.size := by
  cases walk : list.forwardWalk with
  | done =>
    simp only [nextSelected, walk] at given
    cases given
  | fresh =>
    by_cases clear : list.selectedCount = 0
    · simp only [nextSelected, walk, clear, if_true] at given ⊢
      exact cursorIndex?_lt given
    · simp only [nextSelected, walk, clear, if_false, walkForward] at given ⊢
      rw [given]
      exact Nat.lt_succ_self index
  | «at» last =>
    simp only [nextSelected, walk, walkForward] at given ⊢
    rw [given]
    exact Nat.lt_succ_self index

theorem select_deselect (list : TrackList) (index : Nat) :
    list.select index .deselect = list.setSelected index false := by
  cases shown : list.visible[index]? with
  | none => simp only [select, get?, setSelected, shown, Option.bind_none]
  | some canonical =>
    cases found : list.tracks[canonical]? with
    | none => simp only [select, get?, setSelected, shown, Option.bind_some, found]
    | some track => simp only [select, get?, shown, Option.bind_some, found, SelectAction.apply]

/-- Deselecting a track deselects no other. -/
theorem isSelected_setSelected (coherent : list.Coherent) (index other : Nat) :
    (list.setSelected index false).1.isSelected other =
      (list.isSelected other && other != index) := by
  cases shown : list.visible[index]? with
  | none =>
    have same : list.setSelected index false = (list, false) := by
      simp only [setSelected, shown]
    rw [same]
    by_cases here : other = index
    · simp only [here, isSelected, get?, shown, Option.bind_none, Option.any_none, Bool.false_and]
    · simp only [bne_iff_ne.mpr here, Bool.and_true]
  | some canonical =>
    rw [← select_deselect, isSelected, isSelected, get?, get?, select_visible]
    cases there : list.visible[other]? with
    | none => rfl
    | some held =>
      -- Indices of the visible sequence name different tracks.
      have same : held = canonical ↔ other = index := by
        have inside := (List.getElem?_eq_some_iff.mp there).1
        have distinct : list.visible.Nodup := coherent.ascending.imp Nat.ne_of_lt
        rw [← List.getElem?_inj inside distinct, there, shown, Option.some_inj]
      simp only [Option.bind_some, select_tracks .deselect shown, same]
      cases list.tracks[held]? with
      | none => rfl
      | some track =>
        by_cases here : other = index
        · simp [here, SelectAction.marked, SelectAction.apply]
        · simp [here]

theorem setSelected_forwardWalk (list : TrackList) (index : Nat) (selected : Bool) :
    (list.setSelected index selected).1.forwardWalk = list.forwardWalk := by
  unfold setSelected
  split
  · rfl
  · split
    · rfl
    · split <;> rfl

/-- Deselecting what is behind a forward walk changes nothing ahead. -/
theorem setSelected_ahead (coherent : list.Coherent) {index : Nat}
    (passed : index < list.forwardWalk.reached list.size) :
    (list.setSelected index false).1.ahead = list.ahead := by
  have size : (list.setSelected index false).1.size = list.size := by
    rw [size, ← select_deselect, select_visible, size]
  rw [ahead, ahead, setSelected_forwardWalk, size]
  cases walk : list.forwardWalk with
  | fresh =>
    rw [walk] at passed
    cases passed
  | done => rfl
  | «at» last =>
    rw [walk] at passed
    apply List.filter_congr
    intro other member
    have beyond : other ≠ index := by
      have above := (List.mem_range'_1.mp member).1
      have below : index < last + 1 := passed
      omega
    rw [isSelected_setSelected coherent, bne_iff_ne.mpr beyond, Bool.and_true]

theorem popSelected_of_none (given : list.nextSelected.2 = none) :
    list.popSelected = (list.nextSelected.1, none) := by
  unfold popSelected
  split <;> rename_i step <;> rw [step] at given ⊢
  cases given

theorem popSelected_of_some {index : Nat} (given : list.nextSelected.2 = some index) :
    list.popSelected = ((list.nextSelected.1.setSelected index false).1, some index) := by
  unfold popSelected
  split <;> rename_i step <;> rw [step] at given ⊢
  · cases given
  · cases given
    rfl

theorem foretells_popSelected : Foretells ahead popSelected where
  first list := by
    rw [← list.nextSelected_ahead.1]
    cases given : list.nextSelected.2 with
    | none => rw [popSelected_of_none given]
    | some index => rw [popSelected_of_some given]
  others {list} coherent := by
    rw [← list.nextSelected_ahead.2]
    cases given : list.nextSelected.2 with
    | none => rw [popSelected_of_none given]
    | some index =>
      have walked := list.nextSelected_walked
      have passed := nextSelected_passes given
      rw [← walked.size_eq] at passed
      rw [popSelected_of_some given, setSelected_ahead (walked.coherent coherent) passed]
  coherent {list} coherent := coherent.stage (Marking.survives.popSelected .refl).stage

/-- Deselecting what is not selected changes nothing. -/
theorem setSelected_of_unselected (clear : ∀ track ∈ list.tracks, track.selected = false)
    (index : Nat) : list.setSelected index false = (list, false) := by
  unfold setSelected
  split
  · rfl
  · split
    · rfl
    · rename_i track found
      rw [if_pos (clear track (List.mem_of_getElem? found))]

/-- Deselecting a selected track counts it out. -/
theorem setSelected_of_isSelected {index : Nat} (marked : list.isSelected index = true) :
    (list.setSelected index false).1.selectedCount = list.selectedCount - 1 ∧
      ((list.setSelected index false).1.get? index).isSome = true := by
  obtain ⟨track, shown, selected⟩ := (Option.any_eq_true _ _).mp marked
  obtain ⟨canonical, visible, found⟩ := Option.bind_eq_some_iff.mp shown
  have inside := (List.getElem?_eq_some_iff.mp found).1
  have flipped : list.setSelected index false = (list.flip canonical track false, true) := by
    simp only [setSelected, visible, found, selected, Bool.true_eq_false, if_false]
  have same : (list.flip canonical track false).visible[index]? = some canonical := visible
  rw [flipped]
  refine ⟨rfl, ?_⟩
  rw [get?, same, Option.bind_some, flip_tracks, List.getElem?_set_self inside, Option.isSome_some]

theorem setSelected_selectedCount_le (list : TrackList) (index : Nat) :
    (list.setSelected index false).1.selectedCount ≤ list.selectedCount := by
  unfold setSelected
  split
  · exact le_rfl
  · split
    · exact le_rfl
    · split
      · exact le_rfl
      · exact Nat.sub_le _ 1

/-- With nothing selected, popping only walks. -/
theorem popSelected_walked (clear : ∀ track ∈ list.tracks, track.selected = false) :
    list.Walked list.popSelected.1 := by
  have walked := list.nextSelected_walked
  cases given : list.nextSelected.2 with
  | none =>
    rw [popSelected_of_none given]
    exact walked
  | some index =>
    rw [popSelected_of_some given, setSelected_of_unselected (walked.unselected clear)]
    exact walked

theorem popSelected_selectedCount_le (list : TrackList) :
    list.popSelected.1.selectedCount ≤ list.selectedCount := by
  have walked := list.nextSelected_walked
  cases given : list.nextSelected.2 with
  | none =>
    rw [popSelected_of_none given]
    exact walked.selectedCount_eq.le
  | some index =>
    rw [popSelected_of_some given]
    exact (setSelected_selectedCount_le _ _).trans walked.selectedCount_eq.le

/-- With something selected, the first step of popping takes a mark away and gives its track. -/
theorem popSelected_of_fresh (accounted : list.Accounted exact) (coherent : list.Coherent)
    (fresh : list.forwardWalk = .fresh) (marks : 0 < list.selectedCount) :
    ∃ popped index, list.popSelected = (popped, some index) ∧
      popped.selectedCount < list.selectedCount ∧ (popped.get? index).isSome = true := by
  obtain ⟨index, found, marked⟩ := nextSelected_of_fresh accounted coherent fresh marks
  have walked := list.nextSelected_walked
  rw [← walked.isSelected_eq] at marked
  obtain ⟨count, held⟩ := setSelected_of_isSelected marked
  refine ⟨_, index, popSelected_of_some found, ?_, held⟩
  rw [count, walked.selectedCount_eq]
  exact Nat.sub_lt marks Nat.one_pos

/-! ### Draining -/

/-- Popping deselects what it gives and nothing else. -/
theorem isSelected_popSelected (coherent : list.Coherent) (index : Nat) :
    list.popSelected.1.isSelected index =
      (list.isSelected index && some index != list.ahead.head?) := by
  have walked := list.nextSelected_walked
  rw [← list.nextSelected_ahead.1]
  cases given : list.nextSelected.2 with
  | none =>
    rw [popSelected_of_none given, walked.isSelected_eq]
    exact (Bool.and_true _).symm
  | some popped =>
    rw [popSelected_of_some given, isSelected_setSelected (walked.coherent coherent),
      walked.isSelected_eq]
    rfl

/-- The walk has yet to give every selected track.  Durations need not be counted exactly. -/
structure Draining (list : TrackList) : Prop where
  accounted : list.Accounted False
  coherent : list.Coherent
  mem_ahead : ∀ index, list.isSelected index = true → index ∈ list.ahead

namespace Draining

theorem of_fresh (accounted : list.Accounted False) (coherent : list.Coherent)
    (fresh : list.forwardWalk = .fresh) : list.Draining := by
  refine ⟨accounted, coherent, fun index marked => ?_⟩
  have member : index ∈ list.selectedIndices := mem_selectedIndices.mpr marked
  rw [ahead_of_fresh accounted coherent fresh, chosen, if_neg (List.ne_nil_of_mem member)]
  exact member

theorem popSelected (draining : list.Draining) : list.popSelected.1.Draining := by
  have coherent := draining.coherent
  have stage : Stage list list.popSelected.1 := (Marking.survives.popSelected .refl).stage
  have accounted := draining.accounted.stage coherent False.elim stage
  refine ⟨accounted, coherent.stage stage, fun index marked => ?_⟩
  rw [isSelected_popSelected coherent, Bool.and_eq_true, bne_iff_ne] at marked
  obtain ⟨before, other⟩ := marked
  have member := draining.mem_ahead index before
  rw [foretells_popSelected.others coherent]
  cases given : list.ahead with
  | nil =>
    rw [given] at member
    cases member
  | cons popped rest =>
    rw [given] at member other
    -- What was selected and has not been popped is among the rest.
    rcases List.mem_cons.mp member with rfl | later
    · exact absurd rfl other
    · exact later

theorem afterCalls (draining : list.Draining) (count : Nat) :
    (list.afterCalls TrackList.popSelected count).Draining := by
  induction count with
  | zero => exact draining
  | succ count ih =>
    rw [afterCalls_succ]
    exact ih.popSelected

/-- With nothing ahead, nothing is selected. -/
theorem cleared (draining : list.Draining) (nothing : list.ahead = []) :
    list.selectedCount = 0 ∧ list.selectedSeconds = 0 ∧
      ∀ track ∈ list.tracks, track.selected = false := by
  have none_left : list.selectedIndices = [] := by
    refine List.eq_nil_iff_forall_not_mem.mpr fun index member => ?_
    have still := draining.mem_ahead index (mem_selectedIndices.mp member)
    rw [nothing] at still
    cases still
  have accounted := draining.accounted
  have count := (accounted.selectedCount_eq_zero_iff draining.coherent).mpr none_left
  have unselected := accounted.unselected count
  have filtered : list.tracks.filter (·.selected) = [] := by
    refine List.filter_eq_nil_iff.mpr fun track member => ?_
    rw [unselected track member]
    exact Bool.false_ne_true
  refine ⟨count, ?_, unselected⟩
  have seconds := accounted.counts.selectedSeconds
  rw [filtered] at seconds
  exact seconds.eq_zero

end Draining

/-! ### Walks through the list of a run -/

/-- After every run, calls for the next selected track give, from a restart on, the visible indices
of the selected tracks in ascending order and then nothing; calls for the previous one give them in
descending order.  With no track selected they give the index of the cursor once, which there is
unless the list is empty.  A step in one direction makes the walk in the other start over.  Popping
gives what walking does, and leaves no track selected when it gives nothing. -/
theorem selectionWalks_run (operations : List Operation) :
    let list := run operations
    let restarted := list.restartWalks
    (∀ count, restarted.answer nextSelected count = list.chosen[count]? ∧
      restarted.answer previousSelected count = list.chosen.reverse[count]? ∧
      list.previousSelected.1.answer nextSelected count = list.chosen[count]? ∧
      list.nextSelected.1.answer previousSelected count = list.chosen.reverse[count]? ∧
      restarted.answer popSelected count = restarted.answer nextSelected count) ∧
    (list.cursorIndex? = none ↔ list.size = 0) ∧
    ∀ count, restarted.answer popSelected count = none →
      let drained := restarted.afterCalls popSelected (count + 1)
      drained.selectedCount = 0 ∧ drained.selectedSeconds = 0 ∧
        ∀ track ∈ drained.tracks, track.selected = false := by
  intro list restarted
  have walked : list.Walked restarted := list.restartWalks_walked
  have accounted : list.Accounted False := (Accounted.run operations).imp False.elim
  have coherent : list.Coherent := .run operations
  have again : restarted.Coherent := walked.coherent coherent
  refine ⟨fun count => ⟨?_, ?_, ?_, ?_, ?_⟩, cursorIndex?_eq_none, ?_⟩
  · exact answer_nextSelected accounted coherent walked rfl count
  · exact answer_previousSelected accounted coherent walked rfl count
  · exact answer_nextSelected accounted coherent list.previousSelected_walked
      list.previousSelected_forwardWalk count
  · exact answer_previousSelected accounted coherent list.nextSelected_walked
      list.nextSelected_backwardWalk count
  · rw [foretells_popSelected.answer_eq again, foretells_nextSelected.answer_eq again]
  · intro count given drained
    have draining : restarted.Draining := .of_fresh (walked.accounted accounted) again rfl
    refine (draining.afterCalls (count + 1)).cleared ?_
    rw [foretells_popSelected.answer_eq again, List.getElem?_eq_none_iff] at given
    rw [foretells_popSelected.rest_afterCalls again, List.drop_eq_nil_iff]
    exact Nat.le_succ_of_le given

/-- Three tracks shown of four, the first and the last of them selected, and a walk begun. -/
def pickedRun : List Operation :=
  [.append { file := "first.ogg", artist := "Ada", time := some 2, position := some 0 },
    .append { file := "second.ogg", artist := "Bo", time := some 3, position := some 1 },
    .append { file := "third.ogg", artist := "Ada", time := some 5, position := some 2 },
    .append { file := "fourth.ogg", artist := "Ada", time := some 7, position := some 3 },
    .addFilter "ada" .all,
    .setSelected 0 true,
    .setSelected 2 true,
    .nextSelected]

/-- Popping there gives both selected tracks and then nothing, and leaves none selected. -/
theorem selectionWalks_pickedRun :
    let restarted := (run pickedRun).restartWalks
    restarted.answer popSelected 1 = some 2 ∧ restarted.answer popSelected 2 = none ∧
      (restarted.afterCalls popSelected 3).selectedCount = 0 ∧
      (restarted.afterCalls popSelected 3).selectedSeconds = 0 ∧
      ∀ track ∈ (restarted.afterCalls popSelected 3).tracks, track.selected = false := by
  have last : (run pickedRun).restartWalks.answer popSelected 1 = some 2 := by decide +kernel
  have nothing : (run pickedRun).restartWalks.answer popSelected 2 = none := by decide +kernel
  exact ⟨last, nothing, (selectionWalks_run pickedRun).2.2 2 nothing⟩

end TrackList

end TrackBrowser
