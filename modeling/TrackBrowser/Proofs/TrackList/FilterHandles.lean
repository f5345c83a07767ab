/-
Module: TrackBrowser.Proofs.TrackList.FilterHandles
Purpose: Which filter a handle stands for, from the call that returns it to the end of a run.
-/
import Mathlib.Data.List.Nodup
import TrackBrowser.Proofs.TrackList.FilterChange

/-!
A call that adds a filter returns its handle, and the caller may keep it for as long as it likes.  A
`Receipt` is what such a call leaves its caller with, and `receipts` are those of a whole run.  The
handles of a run number its receipts, so they are all different, and 64 bits hold each of them as
long as they hold the number of filters ever added.  The active filters are some of those that
receipts were made for, in their order.  So a handle removes the filter of its receipt or nothing,
and when that filter is gone no later one takes its place.
-/

namespace TrackBrowser.TrackList

variable {list : TrackList}

/-! ### Receipts -/

/-- A filter that a call has added, with the handle that the call has returned for it. -/
structure Receipt where
  handle : Nat
  filter : Filter
  deriving DecidableEq, Repr, Inhabited

/-- The receipt for an operation on a list, if it is one that adds a filter. -/
def Operation.receipt? (list : TrackList) : Operation → Option Receipt
  | .addFilter pattern mask =>
    some ⟨(list.addFilter pattern mask).2, list.newFilter pattern mask⟩
  | _ => none

/-- The receipts for operations that are performed one after the other, in order. -/
def receiptsFrom (list : TrackList) : List Operation → List Receipt
  | [] => []
  | operation :: later =>
    (operation.receipt? list).toList ++ receiptsFrom (list.perform operation) later

/-- The receipts of a run. -/
def receipts (operations : List Operation) : List Receipt :=
  receiptsFrom {} operations

theorem receiptsFrom_append (list : TrackList) (earlier later : List Operation) :
    receiptsFrom list (earlier ++ later) =
      receiptsFrom list earlier ++ receiptsFrom (earlier.foldl perform list) later := by
  induction earlier generalizing list with
  | nil => rfl
  | cons operation earlier ih =>
    simp only [List.cons_append, receiptsFrom, ih, List.append_assoc, List.foldl_cons]

@[simp] theorem receipts_concat (operations : List Operation) (operation : Operation) :
    receipts (operations ++ [operation]) =
      receipts operations ++ (operation.receipt? (run operations)).toList := by
  simp only [receipts, receiptsFrom_append, receiptsFrom, List.append_nil]
  rfl

/-! ### Operations and filters -/

/-- Whether an operation is one that takes filters away. -/
def Operation.removesFilters : Operation → Bool
  | .removeFilter _ | .popFilter | .clearFilters => true
  | _ => false

/-- Whether an operation is one that adds a filter. -/
def Operation.addsFilter : Operation → Bool
  | .addFilter _ _ => true
  | _ => false

/-- What the handles of a list depend on: its filters and the handle that comes next. -/
def filtering (list : TrackList) : List Filter × Nat :=
  (list.filters, list.nextHandle)

/-- Marking tracks touches no filter. -/
theorem survivesMarking_filtering (start : TrackList) :
    SurvivesMarking fun list => list.filtering = start.filtering where
  flip := fun same _ _ _ => same
  walks := fun _ _ same => same

theorem filtering_takeAt? (list : TrackList) (canonical : Nat) :
    (((list.takeAt? canonical).map (·.1)).getD list).filtering = list.filtering := by
  unfold takeAt?
  cases list.tracks[canonical]? <;> rfl

theorem filtering_vacate (list : TrackList) (position : Nat) :
    (list.vacate position).filtering = list.filtering := by
  unfold vacate
  split
  · exact list.filtering_takeAt? _
  · rfl

theorem filtering_dropLast (list : TrackList) (limit count : Nat) :
    (dropLast limit count list).filtering = list.filtering := by
  induction count generalizing list with
  | zero => rfl
  | succ count ih =>
    have shorter := list.filtering_takeAt? (list.tracks.length - 1)
    unfold dropLast
    split
    · rfl
    · cases taken : list.takeAt? (list.tracks.length - 1) with
      | none => rfl
      | some result =>
        rw [taken] at shorter
        exact (ih result.1).trans shorter

/-- An operation that neither adds nor removes filters touches none. -/
theorem filtering_perform (list : TrackList) {operation : Operation}
    (adds : operation.addsFilter = false) (removes : operation.removesFilters = false) :
    (list.perform operation).filtering = list.filtering := by
  have marks := list.survivesMarking_filtering
  cases operation with
  | addFilter => cases adds
  | removeFilter | popFilter | clearFilters => cases removes
  | append track =>
    simp only [perform, append]
    split <;> rfl
  | insertAt position track =>
    simp only [perform, insertAt]
    split
    · rfl
    · exact list.filtering_vacate position
  | removeAt index =>
    simp only [perform, removeAt]
    split
    · rfl
    · split
      · rename_i result taken
        obtain ⟨canonical, _, taken⟩ := Option.bind_eq_some_iff.mp taken
        have removed := list.filtering_takeAt? canonical
        rw [taken] at removed
        exact removed
      · rfl
  | truncate limit => exact list.filtering_dropLast limit _
  | sort keys =>
    simp only [perform, sort, sortByFields]
    split <;> rfl
  | sortByFields fields =>
    simp only [perform, sortByFields]
    split <;> rfl
  | setSelected index selected => exact marks.setSelected rfl index selected
  | select index action => exact marks.select rfl index action
  | selectAll action => exact marks.selectEach rfl _ action
  | selectMatching pattern mask first action =>
    exact marks.selectHits rfl _ mask action _ first 0
  | nextSelected => exact marks.nextSelected rfl
  | previousSelected => exact marks.previousSelected rfl
  | popSelected => exact marks.popSelected rfl
  | setHeight height =>
    simp only [perform, setHeight]
    split <;> rfl
  | search pattern backwards skipCurrent =>
    cases searched : list.search pattern backwards skipCurrent with
    | error failure => simp only [perform, searched, afterCall]
    | ok result =>
      simp only [perform, searched, afterCall]
      rw [search_ok searched]
      rfl
  | load | clear | copyFrom | shuffle | setReadOnly | setRegex | setCaseSensitive | markRedraw
  | clearRedraw | restartWalks | setScrollMode | setScrolloff | setWrap | moveCursor | putCursor
  | scroll => rfl

/-- An operation adds a filter, or leaves some of those that there are and gives no receipt. -/
theorem perform_addsFilter_or (list : TrackList) (operation : Operation) :
    (∃ pattern mask, operation = .addFilter pattern mask) ∨
      operation.receipt? list = none ∧ (list.perform operation).nextHandle = list.nextHandle ∧
        (list.perform operation).filters.Sublist list.filters := by
  cases adds : operation.addsFilter with
  | true =>
    cases operation with
    | addFilter pattern mask => exact .inl ⟨pattern, mask, rfl⟩
    | _ => cases adds
  | false =>
    refine .inr ⟨?_, ?_⟩
    · cases operation with
      | addFilter => cases adds
      | _ => rfl
    cases removes : operation.removesFilters with
    | false =>
      have same := list.filtering_perform adds removes
      have kept : (list.perform operation).filters = list.filters := congrArg Prod.fst same
      exact ⟨congrArg Prod.snd same, kept ▸ .refl _⟩
    | true =>
      cases operation with
      | removeFilter handle =>
        simp only [perform, removeFilter]
        split
        · exact ⟨rfl, List.eraseIdx_sublist _ _⟩
        · exact ⟨rfl, .refl _⟩
      | popFilter =>
        simp only [perform, popFilter?]
        cases list.filters.getLast? with
        | none => exact ⟨rfl, .refl _⟩
        | some filter => exact ⟨rfl, List.dropLast_sublist _⟩
      | clearFilters =>
        simp only [perform, clearFilters]
        split
        · exact ⟨rfl, .refl _⟩
        · exact ⟨rfl, List.nil_sublist _⟩
      | _ => cases removes

/-- An operation that is not there to remove filters keeps all of them, and adds the one that it
gives a receipt for. -/
theorem filters_perform (list : TrackList) {operation : Operation}
    (keeps : operation.removesFilters = false) :
    (list.perform operation).filters =
      list.filters ++ (operation.receipt? list).toList.map Receipt.filter := by
  cases adds : operation.addsFilter with
  | true =>
    cases operation with
    | addFilter pattern mask => rfl
    | _ => cases adds
  | false =>
    rcases list.perform_addsFilter_or operation with ⟨pattern, mask, rfl⟩ | ⟨none, _⟩
    · cases adds
    · have kept : (list.perform operation).filters = list.filters :=
        congrArg Prod.fst (list.filtering_perform adds keeps)
      rw [none, kept, Option.toList_none, List.map_nil, List.append_nil]

/-! ### Receipts and active filters -/

/-- What the receipts for everything that was done to a list have to do with its filters. -/
structure Accounts (issued : List Receipt) (list : TrackList) : Prop where
  numbered : issued.map Receipt.handle = List.range issued.length
  next : list.nextHandle = issued.length
  own : ∀ receipt ∈ issued, receipt.filter.handle = receipt.handle
  active : list.filters.Sublist (issued.map Receipt.filter)

namespace Accounts

variable {issued : List Receipt} {receipt other : Receipt}

/-- One operation more. -/
theorem perform (accounts : Accounts issued list) (operation : Operation) :
    Accounts (issued ++ (operation.receipt? list).toList) (list.perform operation) := by
  rcases list.perform_addsFilter_or operation with ⟨pattern, mask, rfl⟩ | ⟨none, next, fewer⟩
  · have receipt : (Operation.addFilter pattern mask).receipt? list =
        some ⟨list.nextHandle, list.newFilter pattern mask⟩ := rfl
    rw [receipt, Option.toList_some]
    refine ⟨?_, ?_, ?_, ?_⟩
    · rw [List.map_append, accounts.numbered, List.length_append, List.length_singleton,
        List.range_succ, List.map_singleton, accounts.next]
    · rw [List.length_append, List.length_singleton, ← accounts.next]
      rfl
    · intro receipt member
      rcases List.mem_append.mp member with old | new
      · exact accounts.own receipt old
      · rw [List.mem_singleton.mp new]
        rfl
    · rw [List.map_append, List.map_singleton]
      exact accounts.active.append (.refl _)
  · rw [none, Option.toList_none, List.append_nil]
    exact ⟨accounts.numbered, next.trans accounts.next, accounts.own,
      fewer.trans accounts.active⟩

/-- The receipts of a run account for its filters. -/
theorem run (operations : List Operation) :
    Accounts (receipts operations) (TrackList.run operations) := by
  induction operations using List.reverseRecOn with
  | nil => exact ⟨rfl, rfl, nofun, .refl _⟩
  | append_singleton operations operation ih =>
    rw [receipts_concat, run_concat]
    exact ih.perform operation

theorem nodup (accounts : Accounts issued list) : (issued.map Receipt.handle).Nodup := by
  rw [accounts.numbered]
  exact List.nodup_range

theorem handle_lt (accounts : Accounts issued list) (member : receipt ∈ issued) :
    receipt.handle < issued.length := by
  have numbered := List.mem_map_of_mem (f := Receipt.handle) member
  rwa [accounts.numbered, List.mem_range] at numbered

/-- A handle belongs to one receipt only. -/
theorem eq_of_handle_eq (accounts : Accounts issued list) (member : receipt ∈ issued)
    (otherMember : other ∈ issued) (same : receipt.handle = other.handle) : receipt = other :=
  List.inj_on_of_nodup_map accounts.nodup member otherMember same

/-- An active filter with the handle of a receipt is the filter of that receipt. -/
theorem eq_filter (accounts : Accounts issued list) (member : receipt ∈ issued) {filter : Filter}
    (active : filter ∈ list.filters) (same : filter.handle = receipt.handle) :
    filter = receipt.filter := by
  obtain ⟨other, otherMember, rfl⟩ := List.mem_map.mp (accounts.active.mem active)
  rw [accounts.own other otherMember] at same
  rw [accounts.eq_of_handle_eq otherMember member same]

/-- A filter that is not active does not become so again. -/
theorem not_active_perform (accounts : Accounts issued list) (member : receipt ∈ issued)
    (gone : receipt.filter ∉ list.filters) (operation : Operation) :
    receipt.filter ∉ (list.perform operation).filters := by
  rcases list.perform_addsFilter_or operation with ⟨pattern, mask, rfl⟩ | ⟨_, _, fewer⟩
  · intro active
    rcases List.mem_append.mp active with old | new
    · exact gone old
    · -- The new filter has a handle that no receipt has had before.
      have fresh := congrArg Filter.handle (List.mem_singleton.mp new)
      rw [accounts.own receipt member] at fresh
      have numbered := accounts.handle_lt member
      rw [← accounts.next, fresh] at numbered
      exact absurd numbered (Nat.lt_irrefl _)
  · exact fun active => gone (fewer.mem active)

/-- A handle of a filter that is not active removes nothing. -/
theorem removeFilter_gone (accounts : Accounts issued list) (member : receipt ∈ issued)
    (gone : receipt.filter ∉ list.filters) :
    list.removeFilter receipt.handle = (list, false) := by
  apply removeFilter_unknown
  intro filter active same
  rw [accounts.eq_filter member active same] at active
  exact gone active

/-- A handle removes something exactly while the filter of its receipt is active. -/
theorem removeFilter_iff (accounts : Accounts issued list) (ordered : list.HandlesInOrder)
    (handle : Nat) : (list.removeFilter handle).2 = true ↔
      ∃ receipt ∈ issued, receipt.handle = handle ∧ receipt.filter ∈ list.filters := by
  constructor
  · intro removed
    by_contra unknown
    have nothing : list.removeFilter handle = (list, false) := by
      apply removeFilter_unknown
      rintro filter active rfl
      obtain ⟨receipt, member, rfl⟩ := List.mem_map.mp (accounts.active.mem active)
      exact unknown ⟨receipt, member, (accounts.own receipt member).symm, active⟩
    rw [nothing] at removed
    cases removed
  · rintro ⟨receipt, member, rfl, active⟩
    obtain ⟨before, after, split⟩ := List.append_of_mem active
    rw [← accounts.own receipt member, ordered.removeFilter_active split]

end Accounts

/-- A filter that has been removed stays away, whatever is done later. -/
theorem not_active_run (operations : List Operation) {receipt : Receipt}
    (member : receipt ∈ receipts operations) (gone : receipt.filter ∉ (run operations).filters)
    (later : List Operation) :
    receipt ∈ receipts (operations ++ later) ∧
      receipt.filter ∉ (run (operations ++ later)).filters := by
  induction later using List.reverseRecOn with
  | nil =>
    rw [List.append_nil]
    exact ⟨member, gone⟩
  | append_singleton later operation ih =>
    obtain ⟨kept, still⟩ := ih
    rw [← List.append_assoc, receipts_concat, run_concat]
    exact ⟨List.mem_append_left _ kept,
      (Accounts.run (operations ++ later)).not_active_perform kept still operation⟩

/-! ### The handles of a run -/

/-- On every list that a run leads to, the handles returned so far are all different, none reaches
the number of filters added so far, and each is the handle of the filter that it was returned for.
The active filters are in the order in which they were added, and only operations that remove
filters take any away.  A handle removes something exactly if it was returned for a filter that is
still active; then that filter goes and the others stay in their order.  A handle whose filter is
gone removes nothing, now or at any later time. -/
theorem filterHandles_run (operations : List Operation) :
    let list := run operations
    let issued := receipts operations
    (issued.map Receipt.handle).Nodup ∧
    (∀ receipt ∈ issued,
      receipt.handle < issued.length ∧ receipt.filter.handle = receipt.handle) ∧
    list.filters.Sublist (issued.map Receipt.filter) ∧
    (∀ operation : Operation, operation.removesFilters = false →
      (list.perform operation).filters =
        list.filters ++ (operation.receipt? list).toList.map Receipt.filter) ∧
    (∀ handle, (list.removeFilter handle).2 = true ↔
      ∃ receipt ∈ issued, receipt.handle = handle ∧ receipt.filter ∈ list.filters) ∧
    (∀ receipt ∈ issued, receipt.filter ∈ list.filters →
      ∃ before after, list.filters = before ++ receipt.filter :: after ∧
        receipt.filter ∉ before ++ after ∧
        (list.removeFilter receipt.handle).1.filters = before ++ after) ∧
    (∀ receipt ∈ issued, receipt.filter ∉ list.filters → ∀ later,
      (run (operations ++ later)).removeFilter receipt.handle =
        (run (operations ++ later), false)) := by
  intro list issued
  have accounts : Accounts issued list := .run operations
  have ordered : list.HandlesInOrder := .run operations
  refine ⟨accounts.nodup, ?_, accounts.active, fun _ => list.filters_perform,
    accounts.removeFilter_iff ordered, ?_, ?_⟩
  · intro receipt member
    exact ⟨accounts.handle_lt member, accounts.own receipt member⟩
  · intro receipt member active
    obtain ⟨before, after, split⟩ := List.append_of_mem active
    refine ⟨before, after, split, ?_, ?_⟩
    · have distinct := ordered.nodup_filters
      rw [split, List.nodup_middle] at distinct
      exact (List.nodup_cons.mp distinct).1
    · rw [← accounts.own receipt member, ordered.removeFilter_active split]
      rfl
  · intro receipt member gone later
    obtain ⟨kept, still⟩ := not_active_run operations member gone later
    exact (Accounts.run (operations ++ later)).removeFilter_gone kept still

/-- A run that removes the first of two filters and adds a third one. -/
def refilteredRun : List Operation :=
  [.addFilter "first" .all, .addFilter "second" .all, .removeFilter 0, .addFilter "third" .all]

/-- Of such a list the second handle removes the second filter, and the first one removes nothing,
whatever follows. -/
theorem filterHandles_run_refilteredRun :
    let list := run refilteredRun
    (receipts refilteredRun).map Receipt.handle = [0, 1, 2] ∧
      list.filters.map Filter.pattern = ["second", "third"] ∧
      (list.perform .clear).filters = list.filters ∧
      (list.removeFilter 1).2 = true ∧
      (∃ receipt ∈ receipts refilteredRun, receipt.handle = 1 ∧ receipt.filter ∈ list.filters ∧
        receipt.filter ∉ (list.removeFilter 1).1.filters ∧
        (list.removeFilter 1).1.filters.length = 1) ∧
      ∀ later, (run (refilteredRun ++ later)).removeFilter 0 =
        (run (refilteredRun ++ later), false) := by
  intro list
  let first : Receipt := ⟨0, (run []).newFilter "first" .all⟩
  let second : Receipt := ⟨1, (run [.addFilter "first" .all]).newFilter "second" .all⟩
  have firstIssued : first ∈ receipts refilteredRun := List.mem_cons_self
  have secondIssued : second ∈ receipts refilteredRun :=
    List.mem_cons_of_mem _ List.mem_cons_self
  have secondActive : second.filter ∈ list.filters := List.mem_cons_self
  have firstGone : first.filter ∉ list.filters := by
    intro active
    have handle : (0 : Nat) ∈ list.filters.map Filter.handle := List.mem_map_of_mem active
    exact absurd handle (by decide)
  obtain ⟨_, _, _, keeps, removes, leaves, lasts⟩ := filterHandles_run refilteredRun
  obtain ⟨before, after, split, others, removed⟩ := leaves second secondIssued secondActive
  have fewer : (list.removeFilter 1).1.filters.length + 1 = list.filters.length := by
    rw [removed, split, List.length_append, List.length_append, List.length_cons, Nat.add_assoc]
  refine ⟨rfl, rfl, (keeps .clear rfl).trans (List.append_nil _),
    (removes 1).mpr ⟨second, secondIssued, rfl, secondActive⟩,
    ⟨second, secondIssued, rfl, secondActive, ?_, Nat.succ.inj fewer⟩,
    lasts first firstIssued firstGone⟩
  rw [removed]
  exact others

end TrackBrowser.TrackList
