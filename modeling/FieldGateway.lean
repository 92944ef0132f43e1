import FieldGateway.Bus.Announcement
import FieldGateway.Bus.Basic
import FieldGateway.Bus.Channel
import FieldGateway.Command.Basic
import FieldGateway.Command.Error
import FieldGateway.Command.Reply
import FieldGateway.Config.Basic
import FieldGateway.Config.Sources
import FieldGateway.Device.Basic
import FieldGateway.Device.Json
import FieldGateway.Dict
import FieldGateway.Driver.Basic
import FieldGateway.Driver.Error
import FieldGateway.Driver.Simulated
import FieldGateway.Duration
import FieldGateway.Event.Basic
import FieldGateway.Event.Cooked
import FieldGateway.Event.Json
import FieldGateway.Event.Layout
import FieldGateway.Floating.Arithmetic
import FieldGateway.Floating.Format
import FieldGateway.Floating.Rounding
import FieldGateway.Floating.Shortest
import FieldGateway.Floating.Text
import FieldGateway.Json.Basic
import FieldGateway.Json.Reader
import FieldGateway.Json.Record
import FieldGateway.Json.Writer
import FieldGateway.Numbered
import FieldGateway.Profile.Basic
import FieldGateway.Profile.Json
import FieldGateway.Proofs.Bus.Channel
import FieldGateway.Proofs.Bus.Received
import FieldGateway.Proofs.Bus.Waiting
import FieldGateway.Proofs.Caches.Devices
import FieldGateway.Proofs.Caches.Elsewhere
import FieldGateway.Proofs.Caches.Profiles
import FieldGateway.Proofs.Caches.Run
import FieldGateway.Proofs.Caches.Work
import FieldGateway.Proofs.Commands.Access
import FieldGateway.Proofs.Commands.Index
import FieldGateway.Proofs.Commands.Listed
import FieldGateway.Proofs.Commands.Outcome
import FieldGateway.Proofs.Commands.Parsed
import FieldGateway.Proofs.Commands.Queries
import FieldGateway.Proofs.Commands.Refusal
import FieldGateway.Proofs.Commands.Surface
import FieldGateway.Proofs.Event.Faithful
import FieldGateway.Proofs.Event.Json
import FieldGateway.Proofs.Event.Layout
import FieldGateway.Proofs.Event.RoundTrip
import FieldGateway.Proofs.Flight.Begins
import FieldGateway.Proofs.Flight.Founded
import FieldGateway.Proofs.Flight.Health
import FieldGateway.Proofs.Flight.Probes
import FieldGateway.Proofs.Flight.Recovered
import FieldGateway.Proofs.Flight.Run
import FieldGateway.Proofs.Flight.Trespass
import FieldGateway.Proofs.Floating.Closest
import FieldGateway.Proofs.Floating.Exact
import FieldGateway.Proofs.Floating.Gaps
import FieldGateway.Proofs.Floating.Literals
import FieldGateway.Proofs.Floating.Margin
import FieldGateway.Proofs.Floating.Nearest
import FieldGateway.Proofs.Floating.Rounded
import FieldGateway.Proofs.Floating.Shortest
import FieldGateway.Proofs.Floating.Text
import FieldGateway.Proofs.Floating.Words
import FieldGateway.Proofs.Health.Account
import FieldGateway.Proofs.Health.ClosedForm
import FieldGateway.Proofs.Health.Reports
import FieldGateway.Proofs.Health.Stream
import FieldGateway.Proofs.Health.Untouched
import FieldGateway.Proofs.Json.Decimals
import FieldGateway.Proofs.Json.Floats
import FieldGateway.Proofs.Json.Members
import FieldGateway.Proofs.Json.Record
import FieldGateway.Proofs.Json.RoundTrip
import FieldGateway.Proofs.Json.Scaling
import FieldGateway.Proofs.Json.Tokens
import FieldGateway.Proofs.Probing.Attempts
import FieldGateway.Proofs.Probing.Calm
import FieldGateway.Proofs.Probing.Convergence
import FieldGateway.Proofs.Probing.Lost
import FieldGateway.Proofs.Probing.Needed
import FieldGateway.Proofs.Probing.Run
import FieldGateway.Proofs.Probing.Turn
import FieldGateway.Proofs.Profile.RoundTrip
import FieldGateway.Proofs.Registry.Atomic
import FieldGateway.Proofs.Registry.Integrity
import FieldGateway.Proofs.Registry.Owned
import FieldGateway.Proofs.Sampling.Answers
import FieldGateway.Proofs.Sampling.Changes
import FieldGateway.Proofs.Sampling.Cooked
import FieldGateway.Proofs.Sampling.Gate
import FieldGateway.Proofs.Sampling.Ledger
import FieldGateway.Proofs.Sampling.Memory
import FieldGateway.Proofs.Sampling.Orphans
import FieldGateway.Proofs.Sampling.Pushed
import FieldGateway.Proofs.Sampling.Restart
import FieldGateway.Proofs.Sampling.Resumed
import FieldGateway.Proofs.Sampling.Schedules
import FieldGateway.Proofs.Sampling.Sound
import FieldGateway.Proofs.Sampling.Start
import FieldGateway.Proofs.Sampling.Ticks
import FieldGateway.Proofs.Sampling.Untouched
import FieldGateway.Proofs.Service.Action
import FieldGateway.Proofs.Service.Counters
import FieldGateway.Proofs.Service.Due
import FieldGateway.Proofs.Service.Ground
import FieldGateway.Proofs.Service.Idle
import FieldGateway.Proofs.Service.Management
import FieldGateway.Proofs.Service.Noting
import FieldGateway.Proofs.Service.Run
import FieldGateway.Proofs.Service.Within
import FieldGateway.Proofs.Service.Work
import FieldGateway.Proofs.Site.Registry
import FieldGateway.Proofs.Site.Steps
import FieldGateway.Proofs.Text.Base64
import FieldGateway.Proofs.Text.Digits
import FieldGateway.Proofs.Timer.Interleaved
import FieldGateway.Proofs.Transform.Rebuilt
import FieldGateway.Proofs.Transform.Whole
import FieldGateway.Proofs.Value.FloatBytes
import FieldGateway.Proofs.Value.Floats
import FieldGateway.Proofs.Value.Mask
import FieldGateway.Proofs.Value.RoundTrip
import FieldGateway.Proofs.Value.Same
import FieldGateway.Proofs.Writing.HandedOver
import FieldGateway.Proofs.Writing.Limits
import FieldGateway.Proofs.Writing.Refusal
import FieldGateway.Proofs.Writing.Typed
import FieldGateway.Proofs.Writing.Unwritten
import FieldGateway.Proofs.Writing.Values
import FieldGateway.Proofs.Writing.WriteBack
import FieldGateway.Registry
import FieldGateway.Service.Basic
import FieldGateway.Service.Clock
import FieldGateway.Service.Commands
import FieldGateway.Service.Health
import FieldGateway.Service.Management
import FieldGateway.Service.Reading
import FieldGateway.Service.Sampling
import FieldGateway.Service.Writing
import FieldGateway.Site.Basic
import FieldGateway.Site.Journal
import FieldGateway.Site.Trace
import FieldGateway.Text.Base64
import FieldGateway.Text.Blank
import FieldGateway.Text.Hex
import FieldGateway.Text.Hidden
import FieldGateway.Text.Identifier
import FieldGateway.Text.Integer
import FieldGateway.Text.Quoted
import FieldGateway.Text.Utf8
import FieldGateway.Timer.Lifecycle
import FieldGateway.Timer.Rhythm
import FieldGateway.Timer.Run
import FieldGateway.Timer.Waiting
import FieldGateway.Toml.Basic
import FieldGateway.Toml.Reader
import FieldGateway.Transform
import FieldGateway.Value.Basic
import FieldGateway.Value.Codec
import FieldGateway.Value.Exact
import FieldGateway.Value.Mask
import FieldGateway.Value.Type
import FieldGateway.Word
