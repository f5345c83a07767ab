/-
Module: TrackBrowser.Named
Purpose: Things by name, in the order in which their names came up.
-/

namespace TrackBrowser

/-- Things by name, most often by a text.  The first one of a name counts. -/
abbrev Named (α : Type) (Name : Type := String) : Type :=
  List (Name × α)

namespace Named

/-- Puts a thing under a name, in the place of the one that was there, or else at the end. -/
def put {α Name : Type} [BEq Name] (things : Named α Name) (name : Name) (thing : α) :
    Named α Name :=
  match things with
  | [] => [(name, thing)]
  | (other, old) :: rest =>
    if other == name then (name, thing) :: rest else (other, old) :: put rest name thing

/-- What was put under a name is found there, and nothing else has changed. -/
theorem lookup_put {α Name : Type} [DecidableEq Name] (things : Named α Name) (name other : Name)
    (thing : α) :
    (put things name thing).lookup other =
      if other = name then some thing else things.lookup other := by
  induction things with
  | nil =>
    by_cases same : other = name
    · simp [put, same]
    · have differs : (other == name) = false := by simpa using same
      simp [put, List.lookup_cons, same, differs]
  | cons first rest ih =>
    obtain ⟨held, old⟩ := first
    by_cases taken : held = name
    · by_cases same : other = name
      · simp [put, taken, same]
      · have differs : (other == name) = false := by simpa using same
        simp [put, List.lookup_cons, taken, same, differs]
    · by_cases here : other = held
      · simp [put, here, taken]
      · have differs : (other == held) = false := by simpa using here
        simp [put, List.lookup_cons, taken, differs, ih]

end Named

end TrackBrowser
