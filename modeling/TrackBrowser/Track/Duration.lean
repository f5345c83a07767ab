/-
Module: TrackBrowser.Track.Duration
Purpose: How durations are written.
-/
import TrackBrowser.Text.Digits

namespace TrackBrowser

open Text (digits paddedDigits)

/-- A duration as minutes and seconds; an unknown one as dashes. -/
def clockText : Option Nat → String
  | some seconds =>
    String.ofList (digits (seconds / 60) ++ [':'] ++ paddedDigits 2 (seconds % 60))
  | none => "--:--"

/-- A total duration in hours, minutes and seconds, without leading units that are zero. -/
def totalText (seconds : Nat) : String :=
  let hours := seconds / 3600
  let minutes := seconds / 60 % 60
  let rest := seconds % 60
  if 0 < hours then
    String.ofList (digits hours ++ ['h', ' '] ++ paddedDigits 2 minutes ++ ['m', ' '] ++
      paddedDigits 2 rest ++ ['s'])
  else if 0 < minutes then
    String.ofList (digits minutes ++ ['m', ' '] ++ paddedDigits 2 rest ++ ['s'])
  else String.ofList (digits rest ++ ['s'])

end TrackBrowser
