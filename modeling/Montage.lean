import Montage.Api.Body
import Montage.Api.ExportRequest
import Montage.Api.Id
import Montage.Api.JobReport
import Montage.Api.Response
import Montage.Api.Service
import Montage.Asset.DataUri
import Montage.Asset.Digest
import Montage.Asset.Fetch
import Montage.Asset.FileName
import Montage.Asset.Locator
import Montage.Asset.MediaType
import Montage.Compile.Compilation
import Montage.Compile.Effect
import Montage.Compile.Options
import Montage.Compile.Picture
import Montage.Compile.Position
import Montage.Compile.Selection
import Montage.Compile.Sound
import Montage.Compression.Container
import Montage.Config.Settings
import Montage.Engine.Process
import Montage.Engine.Run
import Montage.Failure
import Montage.Fault
import Montage.File.Path
import Montage.File.Tree
import Montage.Filter.Basic
import Montage.Filter.Graph
import Montage.HostName.Name
import Montage.Jobs.Cell
import Montage.Jobs.Opening
import Montage.Jobs.Row
import Montage.Jobs.Store
import Montage.Json.Basic
import Montage.Json.Display
import Montage.Json.Encodable
import Montage.Json.Reader
import Montage.Json.Real
import Montage.Json.Writer
import Montage.Number.Binary64
import Montage.Number.Decimal
import Montage.Number.Numeral
import Montage.Number.Rounding
import Montage.Number.Scalar
import Montage.Progress.Meter
import Montage.Progress.Token
import Montage.Proofs.Asset.Completion
import Montage.Proofs.Asset.DataUri
import Montage.Proofs.Asset.FileName
import Montage.Proofs.Asset.Gathering
import Montage.Proofs.Asset.Scheme
import Montage.Proofs.Asset.Separate
import Montage.Proofs.Compile.Inputs
import Montage.Proofs.Compile.Ledger
import Montage.Proofs.Compile.Materialized
import Montage.Proofs.Compile.Meaning
import Montage.Proofs.Compile.Painting
import Montage.Proofs.Compile.Relocation
import Montage.Proofs.Compile.SoundSettings
import Montage.Proofs.Compile.Soundtrack
import Montage.Proofs.Compile.StartTimes
import Montage.Proofs.Compile.Totality
import Montage.Proofs.Compile.Windows
import Montage.Proofs.Compile.Wiring
import Montage.Proofs.Engine.ExitReport
import Montage.Proofs.Engine.Output
import Montage.Proofs.Engine.Reports
import Montage.Proofs.Engine.Trials
import Montage.Proofs.Fault
import Montage.Proofs.File.Faults
import Montage.Proofs.File.Sight
import Montage.Proofs.Filter.Caption
import Montage.Proofs.Filter.Quoting
import Montage.Proofs.Filter.Wiring
import Montage.Proofs.Jobs.Lifecycle
import Montage.Proofs.Jobs.Oldest
import Montage.Proofs.Jobs.Queue
import Montage.Proofs.Json.RoundTrip
import Montage.Proofs.Number.FixedPlaces
import Montage.Proofs.Number.Halves
import Montage.Proofs.Number.Grid
import Montage.Proofs.Number.Monotone
import Montage.Proofs.Number.Shortest
import Montage.Proofs.Progress.Pieces
import Montage.Proofs.Progress.Range
import Montage.Proofs.Progress.Reported
import Montage.Proofs.Storage.Confinement
import Montage.Proofs.Text.Sequences
import Montage.Proofs.Timeline.Accepted
import Montage.Proofs.Timeline.Alike
import Montage.Proofs.Timeline.Faithful
import Montage.Proofs.Timeline.Order
import Montage.Proofs.Timeline.Reloaded
import Montage.Proofs.Timeline.Respelled
import Montage.Proofs.Timeline.Stored
import Montage.Proofs.Validation.Yields
import Montage.Proofs.Web.Refusals
import Montage.Proofs.Worker.Accounts
import Montage.Proofs.Worker.Answers
import Montage.Proofs.Worker.Change
import Montage.Proofs.Worker.Cleanup
import Montage.Proofs.Worker.Confinement
import Montage.Proofs.Worker.Delivery
import Montage.Proofs.Worker.Filling
import Montage.Proofs.Worker.Fleet
import Montage.Proofs.Worker.Forsaken
import Montage.Proofs.Worker.Frame
import Montage.Proofs.Worker.History
import Montage.Proofs.Worker.LeftBehind
import Montage.Proofs.Worker.Lifecycle
import Montage.Proofs.Worker.Lock
import Montage.Proofs.Worker.Moves
import Montage.Proofs.Worker.OldestFirst
import Montage.Proofs.Worker.Passage
import Montage.Proofs.Worker.Processing
import Montage.Proofs.Worker.Rendering
import Montage.Proofs.Worker.Shutdown
import Montage.Proofs.Worker.Slots
import Montage.Proofs.Worker.Stages
import Montage.Proofs.Worker.Task
import Montage.Proofs.Worker.Transient
import Montage.Proofs.Worker.Turn
import Montage.Proofs.Worker.Wakeup
import Montage.Proofs.Worker.Work
import Montage.Simulation.Action
import Montage.Simulation.Agenda
import Montage.Simulation.Scene
import Montage.Simulation.State
import Montage.Storage.Cloud
import Montage.Storage.Lifetime
import Montage.Storage.Local
import Montage.SystemCause
import Montage.Text.Blank
import Montage.Text.Codec
import Montage.Text.Digit
import Montage.Text.Encoding
import Montage.Text.FinalSigma
import Montage.Text.Literal
import Montage.Text.Lowercase
import Montage.Text.Percent
import Montage.Text.Printable
import Montage.Text.Surrogate
import Montage.Text.Uppercase
import Montage.Text.Utf8
import Montage.Timeline.Basic
import Montage.Timeline.Reader
import Montage.Timeline.Schedule
import Montage.Timeline.Writer
import Montage.Validation.Checked
import Montage.Validation.Moment
import Montage.Validation.NumberText
import Montage.Validation.Problem
import Montage.Validation.Scalars
import Montage.Web.Address
import Montage.Web.ContentEncoding
import Montage.Web.Exchange
import Montage.Web.Fetching
import Montage.Web.Reference
import Montage.Web.Url
import Montage.Worker.State
import Montage.Worker.Step
import Montage.Worker.Submission
import Montage.Worker.Task
import Montage.Worker.World
