import ControlPanel.Backend.Status
import ControlPanel.Channel.Event
import ControlPanel.Channel.Frame
import ControlPanel.Channel.Topic
import ControlPanel.Dashboard.Basic
import ControlPanel.Dashboard.Consistency
import ControlPanel.Dashboard.Edit
import ControlPanel.Dashboard.InPlace
import ControlPanel.Dashboard.Issue
import ControlPanel.Dashboard.Placement
import ControlPanel.Dashboard.Request
import ControlPanel.Json.Basic
import ControlPanel.Json.Decoder
import ControlPanel.Json.Fault
import ControlPanel.Json.Node
import ControlPanel.Json.Printer
import ControlPanel.Json.Reader
import ControlPanel.Json.Token
import ControlPanel.Keyed
import ControlPanel.Layout.Grid
import ControlPanel.Layout.Position
import ControlPanel.Listeners.Emitter
import ControlPanel.Listeners.Reaction
import ControlPanel.Listeners.Registry
import ControlPanel.Main
import ControlPanel.Monitor.CommandLine
import ControlPanel.Monitor.Filter
import ControlPanel.Monitor.Monitor
import ControlPanel.Monitor.Notice
import ControlPanel.Monitor.Report
import ControlPanel.Monitor.Watch
import ControlPanel.Number.Binary64
import ControlPanel.Number.Shortest
import ControlPanel.Plugin.Basic
import ControlPanel.Proofs.Channel.Names
import ControlPanel.Proofs.Dashboard.Change
import ControlPanel.Proofs.Dashboard.Commuting
import ControlPanel.Proofs.Dashboard.Consistency
import ControlPanel.Proofs.Dashboard.Correspondence
import ControlPanel.Proofs.Dashboard.Edit
import ControlPanel.Proofs.Dashboard.FirstMatch
import ControlPanel.Proofs.Dashboard.InPlace
import ControlPanel.Proofs.Dashboard.Invariants
import ControlPanel.Proofs.Dashboard.Issues
import ControlPanel.Proofs.Dashboard.NewWidgets
import ControlPanel.Proofs.Dashboard.Placement
import ControlPanel.Proofs.Dashboard.Requests
import ControlPanel.Proofs.Documents
import ControlPanel.Proofs.Json.Members
import ControlPanel.Proofs.Json.Parsed
import ControlPanel.Proofs.Json.Records
import ControlPanel.Proofs.Json.Spelling
import ControlPanel.Proofs.Layout.Bounds
import ControlPanel.Proofs.Layout.Cells
import ControlPanel.Proofs.Listeners.Calls
import ControlPanel.Proofs.Listeners.Delivery
import ControlPanel.Proofs.Listeners.Guests
import ControlPanel.Proofs.Listeners.Presence
import ControlPanel.Proofs.Listeners.Roll
import ControlPanel.Proofs.Listeners.Scribes
import ControlPanel.Proofs.Monitor.Outcome
import ControlPanel.Proofs.Realtime.Acceptance
import ControlPanel.Proofs.Realtime.Arrivals
import ControlPanel.Proofs.Realtime.Attachments
import ControlPanel.Proofs.Realtime.Attempts
import ControlPanel.Proofs.Realtime.Bindings
import ControlPanel.Proofs.Realtime.Bookkeeping
import ControlPanel.Proofs.Realtime.Caches
import ControlPanel.Proofs.Realtime.Cancellation
import ControlPanel.Proofs.Realtime.Contents
import ControlPanel.Proofs.Realtime.Course
import ControlPanel.Proofs.Realtime.Disconnect
import ControlPanel.Proofs.Realtime.Exclusion
import ControlPanel.Proofs.Realtime.Frames
import ControlPanel.Proofs.Realtime.Grammar
import ControlPanel.Proofs.Realtime.Household
import ControlPanel.Proofs.Realtime.Interleaving
import ControlPanel.Proofs.Realtime.Mirror
import ControlPanel.Proofs.Realtime.Mute
import ControlPanel.Proofs.Realtime.Orderly
import ControlPanel.Proofs.Realtime.Phases
import ControlPanel.Proofs.Realtime.Reentrance
import ControlPanel.Proofs.Realtime.Reflection
import ControlPanel.Proofs.Realtime.Routing
import ControlPanel.Proofs.Realtime.Shelves
import ControlPanel.Proofs.Realtime.Shown
import ControlPanel.Proofs.Realtime.Sinks
import ControlPanel.Proofs.Realtime.Threads
import ControlPanel.Proofs.Realtime.View
import ControlPanel.Proofs.Rest.Bases
import ControlPanel.Proofs.Rest.Batches
import ControlPanel.Proofs.Rest.Deletions
import ControlPanel.Proofs.Rest.Paths
import ControlPanel.Proofs.Rest.Refusals
import ControlPanel.Proofs.Rest.Targets
import ControlPanel.Proofs.Rest.Writes
import ControlPanel.Proofs.Settings.Addresses
import ControlPanel.Proofs.Settings.Blanks
import ControlPanel.Proofs.Widget.Schemas
import ControlPanel.Realtime.Backoff
import ControlPanel.Realtime.Binding
import ControlPanel.Realtime.Cache
import ControlPanel.Realtime.Client
import ControlPanel.Realtime.Link
import ControlPanel.Realtime.Loop
import ControlPanel.Realtime.Phase
import ControlPanel.Refusal
import ControlPanel.Rest.Address
import ControlPanel.Rest.Client
import ControlPanel.Rest.Dashboards
import ControlPanel.Rest.Envelope
import ControlPanel.Rest.Exchange
import ControlPanel.Rest.Plugins
import ControlPanel.Settings.Basic
import ControlPanel.Settings.Variables
import ControlPanel.Simulation.Backend
import ControlPanel.Simulation.Endpoint
import ControlPanel.Simulation.Monitoring
import ControlPanel.Simulation.Observer
import ControlPanel.Simulation.Rehearsal
import ControlPanel.Text.Blank
import ControlPanel.Text.Charset
import ControlPanel.Text.Quoted
import ControlPanel.Text.Unprintable
import ControlPanel.Time.Instant
import ControlPanel.Time.Timestamp
import ControlPanel.Widget.Basic
import ControlPanel.Widget.Config
import ControlPanel.Widget.Kind
import ControlPanel.Proofs.Number.Exactness
import ControlPanel.Proofs.Realtime.Delays
