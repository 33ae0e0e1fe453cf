import DeviceAlerts.Cache
import DeviceAlerts.Config
import DeviceAlerts.Config.Origins
import DeviceAlerts.Config.Uri
import DeviceAlerts.Datum
import DeviceAlerts.Datum.Order
import DeviceAlerts.Datum.Span
import DeviceAlerts.Device
import DeviceAlerts.Directory
import DeviceAlerts.Form
import DeviceAlerts.Form.Checked
import DeviceAlerts.Form.DeviceForm
import DeviceAlerts.Form.Instant
import DeviceAlerts.Form.SubmissionForm
import DeviceAlerts.Form.TagForm
import DeviceAlerts.Form.Value
import DeviceAlerts.Json.Encoding
import DeviceAlerts.Json.Printer
import DeviceAlerts.Json.Reader
import DeviceAlerts.Message
import DeviceAlerts.Mongo.Call
import DeviceAlerts.Mongo.Codec
import DeviceAlerts.Mongo.Document
import DeviceAlerts.Mongo.Request
import DeviceAlerts.Mongo.Script
import DeviceAlerts.Mongo.Session
import DeviceAlerts.Mongo.Store
import DeviceAlerts.Mongo.Tally
import DeviceAlerts.Monitor.Call
import DeviceAlerts.Monitor.Classify
import DeviceAlerts.Monitor.Hysteresis
import DeviceAlerts.Monitor.Intake
import DeviceAlerts.Monitor.Refresh
import DeviceAlerts.Monitor.Reporting
import DeviceAlerts.Monitor.Sweep
import DeviceAlerts.Notice
import DeviceAlerts.Number.Binary64
import DeviceAlerts.Number.Numeral
import DeviceAlerts.Number.Shortest
import DeviceAlerts.Pattern
import DeviceAlerts.Pattern.Chain
import DeviceAlerts.Pattern.Character
import DeviceAlerts.Pattern.Fault
import DeviceAlerts.Pattern.Flags
import DeviceAlerts.Pattern.Leading
import DeviceAlerts.Pattern.Machine
import DeviceAlerts.Pattern.Names
import DeviceAlerts.Pattern.Names.Ancient
import DeviceAlerts.Pattern.Names.Block
import DeviceAlerts.Pattern.Names.Cuneiform
import DeviceAlerts.Pattern.Names.Ideographs
import DeviceAlerts.Pattern.Names.Notation
import DeviceAlerts.Pattern.Names.Pictures
import DeviceAlerts.Pattern.Names.Presentation
import DeviceAlerts.Pattern.Names.Scripts
import DeviceAlerts.Pattern.Names.Shapes
import DeviceAlerts.Pattern.Names.Syllables
import DeviceAlerts.Pattern.Names.Symbols
import DeviceAlerts.Pattern.Reader
import DeviceAlerts.Pattern.Search
import DeviceAlerts.Pattern.Source
import DeviceAlerts.Pattern.Tree
import DeviceAlerts.Program
import DeviceAlerts.Proofs.Datum.Likeness
import DeviceAlerts.Proofs.Monitor.Site
import DeviceAlerts.Proofs.Protocol
import DeviceAlerts.Proofs.Rule.Loading
import DeviceAlerts.Proofs.Table
import DeviceAlerts.Report
import DeviceAlerts.Report.Row
import DeviceAlerts.Rule
import DeviceAlerts.Rule.Book
import DeviceAlerts.Rule.Compilation
import DeviceAlerts.Simulation
import DeviceAlerts.Simulation.Step
import DeviceAlerts.Simulation.World
import DeviceAlerts.Sorting
import DeviceAlerts.Store
import DeviceAlerts.Store.Call
import DeviceAlerts.Store.Devices
import DeviceAlerts.Store.Failure
import DeviceAlerts.Store.Messages
import DeviceAlerts.Store.Tags
import DeviceAlerts.Table
import DeviceAlerts.Tag
import DeviceAlerts.Tag.Comparison
import DeviceAlerts.Tag.Condition
import DeviceAlerts.Text.Alphanumeric
import DeviceAlerts.Text.Blank
import DeviceAlerts.Text.Case
import DeviceAlerts.Text.Cased
import DeviceAlerts.Text.Composition
import DeviceAlerts.Text.Digit
import DeviceAlerts.Text.Direction
import DeviceAlerts.Text.HostLetter
import DeviceAlerts.Text.Identifier
import DeviceAlerts.Text.Joining
import DeviceAlerts.Text.Lowercase
import DeviceAlerts.Text.Printable
import DeviceAlerts.Text.Punycode
import DeviceAlerts.Text.Quoted
import DeviceAlerts.Text.Ranges
import DeviceAlerts.Text.Uppercase
import DeviceAlerts.Text.Utf8
import DeviceAlerts.Time.Date
import DeviceAlerts.Time.Iso
import DeviceAlerts.Time.Moment
import DeviceAlerts.Web.Escape
import DeviceAlerts.Web.Handler
import DeviceAlerts.Web.Host
import DeviceAlerts.Web.Path
import DeviceAlerts.Web.Request
import DeviceAlerts.Web.Url
import DeviceAlerts.Web.View
import DeviceAlerts.Proofs.Monitor.Tickets
import DeviceAlerts.Proofs.Course
import DeviceAlerts.Proofs.Monitor.Overlap
import DeviceAlerts.Proofs.Monitor.Setting
import DeviceAlerts.Proofs.Monitor.Verdict
import DeviceAlerts.Proofs.Store.Tags
import DeviceAlerts.Proofs.Rule.Recovery
import DeviceAlerts.Proofs.Monitor.Effect
import DeviceAlerts.Proofs.Monitor.Cycle
import DeviceAlerts.Proofs.Monitor.Duty
import DeviceAlerts.Proofs.Monitor.Ledger
import DeviceAlerts.Proofs.Monitor.Manager
import DeviceAlerts.Proofs.Monitor.Succession
import DeviceAlerts.Proofs.Monitor.Aftermath
import DeviceAlerts.Proofs.Monitor.Editing
import DeviceAlerts.Proofs.Monitor.Lapses
import DeviceAlerts.Proofs.Monitor.Freshness
import DeviceAlerts.Proofs.Rule.Grouping
import DeviceAlerts.Proofs.Web.Service
import DeviceAlerts.Proofs.Monitor.Exchange
import DeviceAlerts.Proofs.Monitor.Indifference
import DeviceAlerts.Proofs.Monitor.Batch
import DeviceAlerts.Proofs.Monitor.Retry
import DeviceAlerts.Proofs.Monitor.Orphan
import DeviceAlerts.Proofs.Mongo.Agreement
import DeviceAlerts.Proofs.Report.Rows
import DeviceAlerts.Proofs.Monitor.Isolation
import DeviceAlerts.Proofs.Mongo.Interchange
import DeviceAlerts.Proofs.Store.Addresses
import DeviceAlerts.Proofs.Monitor.Precedence
import DeviceAlerts.Proofs.Web.Attribution
import DeviceAlerts.Proofs.Cache
import DeviceAlerts.Proofs.Rule.DeadZone
import DeviceAlerts.Proofs.Monitor.Transition
import DeviceAlerts.Proofs.Monitor.Delivery
import DeviceAlerts.Proofs.Store.Listing
import DeviceAlerts.Proofs.Report.Counts
import DeviceAlerts.Proofs.Report.Cut
import DeviceAlerts.Proofs.Report.Reordering
import DeviceAlerts.Proofs.Monitor.Sweeping
import DeviceAlerts.Proofs.Config.Masking
import DeviceAlerts.Proofs.Config.Usable
import DeviceAlerts.Proofs.Web.Patching
import DeviceAlerts.Proofs.Web.Misses
import DeviceAlerts.Proofs.Mongo.Decoding
import DeviceAlerts.Proofs.Web.Faults
