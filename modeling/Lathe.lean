import Lathe.Controller.Run
import Lathe.DryRun
import Lathe.Editor.Highlight
import Lathe.Main
import Lathe.Panel.Event
import Lathe.Profile.Document
import Lathe.Proofs.Action
import Lathe.Proofs.Fault
import Lathe.Proofs.Number.Infinite
import Lathe.Proofs.Program.Lines
import Lathe.Proofs.Program.Reading
import Lathe.Proofs.Replay.Compensation
import Lathe.Proofs.Replay.Cursor
import Lathe.Proofs.Replay.Geometry
import Lathe.Proofs.Replay.Halt
import Lathe.Proofs.Replay.Lines
import Lathe.Proofs.Replay.Path
import Lathe.Proofs.Replay.Position
import Lathe.Proofs.Replay.Register
import Lathe.Proofs.Replay.Signal
import Lathe.Startup
import Lathe.Viewport.Drawing
import Lathe.Proofs.Controller.Refresh
import Lathe.Proofs.Controller.Operation
import Lathe.Proofs.Controller.History
import Lathe.Proofs.Controller.Memo
import Lathe.Proofs.Controller.Residue
import Lathe.Proofs.Controller.ToolChange
import Lathe.Proofs.Controller.Prompt
import Lathe.Proofs.Controller.Alarm
import Lathe.Proofs.Controller.Arrival
import Lathe.Proofs.Controller.Completion
import Lathe.Proofs.Controller.Capacity
import Lathe.Proofs.Controller.Display
import Lathe.Proofs.Controller.Failure
import Lathe.Proofs.Wear.Account
import Lathe.Proofs.Wear.Instalment
import Lathe.Proofs.Controller.Charge
import Lathe.Proofs.Controller.Redisplay
import Lathe.Proofs.DryRun.Agreement
import Lathe.Proofs.DryRun.Report
import Lathe.Proofs.DryRun.Check
import Lathe.Proofs.Panel.Event
import Lathe.Proofs.Panel.Opening
import Lathe.Proofs.Panel.Timer
import Lathe.Proofs.Panel.Controls
import Lathe.Proofs.Wear.Attribution
import Lathe.Proofs.Program.Numeral
import Lathe.Proofs.Program.Tiling
import Lathe.Proofs.Program.Layout
import Lathe.Proofs.Program.Respelling
import Lathe.Proofs.Program.Splitting
import Lathe.Proofs.Editor.Highlight
import Lathe.Proofs.Geometry.Offset
import Lathe.Proofs.Machine.ToolTable
import Lathe.Proofs.DryRun.Merge
import Lathe.Proofs.Log.SetUp
import Lathe.Proofs.Wear.Travel
import Lathe.Proofs.Number.Bits
import Lathe.Proofs.Number.Rounding
import Lathe.Proofs.Number.Shortest
import Lathe.Proofs.Json.Number
import Lathe.Proofs.Json.Escaped
import Lathe.Proofs.Json.RoundTrip
import Lathe.Proofs.Json.Order
import Lathe.Proofs.Profile.Document
import Lathe.Proofs.Json.Writable
