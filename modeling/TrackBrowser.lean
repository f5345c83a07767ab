import TrackBrowser.Main
import TrackBrowser.Proofs.Cursor.Viewport
import TrackBrowser.Proofs.Cursor.LeastMovement
import TrackBrowser.Proofs.Cursor.DerivedOffset
import TrackBrowser.Proofs.Cursor.Checked
import TrackBrowser.Proofs.Cursor.Moves
import TrackBrowser.Proofs.TrackList.Operation
import TrackBrowser.Proofs.TrackList.Stage
import TrackBrowser.Proofs.TrackList.Viewport
import TrackBrowser.Proofs.TrackList.Checked
import TrackBrowser.Proofs.TrackList.VisibleSequence
import TrackBrowser.Proofs.TrackList.Totals
import TrackBrowser.Proofs.Matching
import TrackBrowser.Proofs.Pattern.Closing
import TrackBrowser.Proofs.Pattern.ClosingTokens
import TrackBrowser.Proofs.Pattern.Anchored
import TrackBrowser.Proofs.Pattern.Spans
import TrackBrowser.Proofs.WholeText
import TrackBrowser.Proofs.PlainPatterns
import TrackBrowser.Proofs.TrackList.Arc
import TrackBrowser.Proofs.TrackList.Groups
import TrackBrowser.Proofs.TrackList.Selecting
import TrackBrowser.Proofs.TrackList.SelectionLoop
import TrackBrowser.Proofs.TrackList.FilterChange
import TrackBrowser.Proofs.TrackList.FilterHandles
import TrackBrowser.Proofs.TrackList.Filling
import TrackBrowser.Proofs.TrackList.SelectionWalk
import TrackBrowser.Proofs.TrackList.Removing
import TrackBrowser.Proofs.TrackList.Searching
import TrackBrowser.Proofs.TrackList.SortOrder
import TrackBrowser.Proofs.TrackList.Sorting
import TrackBrowser.Proofs.TrackList.SortNumbers
import TrackBrowser.Proofs.TrackList.Positions
import TrackBrowser.Proofs.TrackList.Collisions
import TrackBrowser.Proofs.TrackList.Replacing
import TrackBrowser.Proofs.Library.Scan
import TrackBrowser.Proofs.Library.Storage
import TrackBrowser.Proofs.Library.Finding
import TrackBrowser.Proofs.Library.Inventory
import TrackBrowser.Proofs.Library.Links
import TrackBrowser.Proofs.Library.BlankRows
import TrackBrowser.Proofs.PlainNumerals
import TrackBrowser.Proofs.Durations
import TrackBrowser.Proofs.TrackList.EqualTimes
import TrackBrowser.Proofs.Config.Overlay
import TrackBrowser.Proofs.Settings.FromEnvironment
import TrackBrowser.Proofs.Browser.Shown
import TrackBrowser.Proofs.Browser.Commands
import TrackBrowser.Proofs.Browser.Steering
import TrackBrowser.Proofs.Browser.LostRedraw
import TrackBrowser.Proofs.Browser.ViewportAgreement
import TrackBrowser.Proofs.Browser.Editing
import TrackBrowser.Proofs.Browser.Places
import TrackBrowser.Proofs.Browser.Operation
import TrackBrowser.Proofs.Browser.ReadOnly
import TrackBrowser.Proofs.Browser.Picking
import TrackBrowser.Proofs.Browser.Windows
import TrackBrowser.Proofs.Browser.FailedCommand
import TrackBrowser.Proofs.Browser.SelectSame
import TrackBrowser.Proofs.Browser.RemoveSelected
import TrackBrowser.Proofs.Browser.LibraryOrder
import TrackBrowser.Proofs.Browser.OtherViews
import TrackBrowser.Proofs.Browser.TypeAhead
import TrackBrowser.Proofs.Browser.CopySelected
import TrackBrowser.Proofs.Browser.Reachable
import TrackBrowser.Proofs.Browser.Drawing
import TrackBrowser.Proofs.Browser.SavePlaylist
