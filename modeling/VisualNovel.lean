import VisualNovel.Engine.Orders
import VisualNovel.Engine.Report
import VisualNovel.Main
import VisualNovel.Player.Report
import VisualNovel.Script.Command.Json
import VisualNovel.Story.State.Json
import VisualNovel.Proofs.Clock
import VisualNovel.Proofs.Engine.Audio
import VisualNovel.Proofs.Engine.Blockers
import VisualNovel.Proofs.Engine.Change
import VisualNovel.Proofs.Engine.Counter
import VisualNovel.Proofs.Engine.Loading
import VisualNovel.Proofs.Engine.Saving
import VisualNovel.Proofs.Engine.Session
import VisualNovel.Proofs.Engine.Sound
import VisualNovel.Proofs.Engine.Stock
import VisualNovel.Proofs.Engine.Targets
import VisualNovel.Proofs.Engine.Video
import VisualNovel.Proofs.FileTree
import VisualNovel.Proofs.Json.Records
import VisualNovel.Proofs.Json.RoundTrip
import VisualNovel.Proofs.Json.Values
import VisualNovel.Proofs.Number.Comparison
import VisualNovel.Proofs.Number.Difference
import VisualNovel.Proofs.Number.Digits
import VisualNovel.Proofs.Number.Order
import VisualNovel.Proofs.Number.Rounding
import VisualNovel.Proofs.Number.Unsigned
import VisualNovel.Proofs.Number.Whole
import VisualNovel.Proofs.Path
import VisualNovel.Proofs.Relay.Play
import VisualNovel.Proofs.Relay.Relay
import VisualNovel.Proofs.Relay.Rest
import VisualNovel.Proofs.Relay.Told
import VisualNovel.Proofs.Relay.Twin
import VisualNovel.Proofs.Script.Ahead
import VisualNovel.Proofs.Script.Check
import VisualNovel.Proofs.Script.Draft
import VisualNovel.Proofs.Script.Includes
import VisualNovel.Proofs.Script.Labels
import VisualNovel.Proofs.Script.Lexeme
import VisualNovel.Proofs.Script.Library
import VisualNovel.Proofs.Script.Linking
import VisualNovel.Proofs.Script.Modifiers
import VisualNovel.Proofs.Script.Printing
import VisualNovel.Proofs.Script.Reading
import VisualNovel.Proofs.Script.Steady
import VisualNovel.Proofs.Script.WellFormed
import VisualNovel.Proofs.Stateful
import VisualNovel.Proofs.Story.Change
import VisualNovel.Proofs.Story.Regular
import VisualNovel.Proofs.Story.Savable
import VisualNovel.Proofs.Story.SaveFile
import VisualNovel.Proofs.Story.SaveImage
import VisualNovel.Proofs.Story.SaveOutcome
import VisualNovel.Proofs.Story.Snapshot
import VisualNovel.Proofs.Table
import VisualNovel.Proofs.Story.Shift
import VisualNovel.Proofs.Engine.Shift
import VisualNovel.Proofs.Relay.Telling
import VisualNovel.Proofs.Player.Lines
import VisualNovel.Proofs.Engine.Selection
import VisualNovel.Proofs.Player.Screen
import VisualNovel.Proofs.Engine.Files
import VisualNovel.Proofs.Player.Request
import VisualNovel.Proofs.Engine.Aside
import VisualNovel.Proofs.Engine.Deal
import VisualNovel.Proofs.Engine.Guard
import VisualNovel.Proofs.Engine.Inventory
import VisualNovel.Proofs.Engine.Meters
import VisualNovel.Proofs.Engine.Moment
import VisualNovel.Proofs.Engine.Picking
import VisualNovel.Proofs.Number.Clamp
import VisualNovel.Proofs.Number.Integral
import VisualNovel.Proofs.Number.Range
import VisualNovel.Proofs.Story.Reloaded
import VisualNovel.Proofs.Story.Stage
import VisualNovel.Proofs.Engine.Stage
import VisualNovel.Proofs.Number.Monotone
import VisualNovel.Proofs.Engine.Skip
import VisualNovel.Proofs.Engine.Showing
import VisualNovel.Proofs.Engine.Ways
import VisualNovel.Proofs.Player.Typewriter
import VisualNovel.Proofs.Player.Window
import VisualNovel.Proofs.Player.Rows
import VisualNovel.Proofs.Script.Shelf
import VisualNovel.Proofs.Script.Outline
import VisualNovel.Proofs.Script.Nesting
import VisualNovel.Proofs.Story.Interpolation
import VisualNovel.Proofs.Stage.Polygon
import VisualNovel.Proofs.Script.Scanning
import VisualNovel.Proofs.Script.Turns
import VisualNovel.Proofs.Script.Renaming
import VisualNovel.Proofs.Engine.Exits
import VisualNovel.Proofs.Engine.Seeking
import VisualNovel.Proofs.Engine.Taking
import VisualNovel.Proofs.Engine.Names
