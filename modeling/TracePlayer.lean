import TracePlayer.Main
import TracePlayer.Viewer.Run
import TracePlayer.Files.Store
import TracePlayer.Proofs.Dump.History
import TracePlayer.Proofs.Session.Exchange
import TracePlayer.Proofs.Session.Navigation
import TracePlayer.Proofs.Session.Restart
import TracePlayer.Proofs.Change.Growth
import TracePlayer.Proofs.Session.CarriedLists
import TracePlayer.Proofs.View.Insertion
import TracePlayer.Proofs.View.Repetition
import TracePlayer.Proofs.Number.Rounding
import TracePlayer.Proofs.Playback.Deadline
import TracePlayer.Proofs.Playback.Interval
import TracePlayer.Proofs.Playback.Overflow
import TracePlayer.Proofs.Wire.RoundTrip
import TracePlayer.Proofs.Carry.Operations
import TracePlayer.Proofs.Playback.Rate
import TracePlayer.Proofs.View.Consistency
import TracePlayer.Proofs.Json.WellFormed
import TracePlayer.Proofs.Number.Order
import TracePlayer.Proofs.Settings.Speed
import TracePlayer.Proofs.Viewer.Run
import TracePlayer.Proofs.Viewer.Speed
import TracePlayer.Proofs.Wire.Answers
import TracePlayer.Proofs.Carry.Table
import TracePlayer.Proofs.Carry.Memory
import TracePlayer.Proofs.Carry.Resolution
import TracePlayer.Proofs.View.Receiver
import TracePlayer.Proofs.Number.Rounded
import TracePlayer.Proofs.Number.Shortest
import TracePlayer.Proofs.Trace.Walk
import TracePlayer.Proofs.Json.Scaling
import TracePlayer.Proofs.Json.Numerals
import TracePlayer.Proofs.Json.Spelling
import TracePlayer.Proofs.Json.Depth
import TracePlayer.Proofs.Wire.Nesting
import TracePlayer.Proofs.Pane.TreeDrawing
import TracePlayer.Proofs.Pane.SourceTokens
import TracePlayer.Proofs.Pane.ArrayCells
import TracePlayer.Proofs.Pane.Drawable
import TracePlayer.Proofs.Pane.Windows
import TracePlayer.Proofs.Playback.Stepping
import TracePlayer.Proofs.Wire.PointerLabels
import TracePlayer.Proofs.Viewer.Drawing
import TracePlayer.Proofs.Viewer.KeyTimes
import TracePlayer.Proofs.Viewer.Keys
import TracePlayer.Proofs.Wire.TreeForms
import TracePlayer.Proofs.Number.Characters
import TracePlayer.Proofs.Number.Nearest
import TracePlayer.Proofs.Number.ReadBack
import TracePlayer.Proofs.Json.Distinct
import TracePlayer.Proofs.Dump.Views
