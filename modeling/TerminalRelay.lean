import TerminalRelay.Attributes
import TerminalRelay.CommandLine.Arrangement
import TerminalRelay.CommandLine.Flag
import TerminalRelay.CommandLine.Mode
import TerminalRelay.CommandLine.Options
import TerminalRelay.CommandLine.Rejection
import TerminalRelay.Descriptor
import TerminalRelay.Errno
import TerminalRelay.Fault
import TerminalRelay.Host.Answering
import TerminalRelay.Host.Device
import TerminalRelay.Host.Files
import TerminalRelay.Host.Signals
import TerminalRelay.Host.State
import TerminalRelay.Invocation
import TerminalRelay.IoFailure
import TerminalRelay.LogFilter
import TerminalRelay.LogFilter.Directive
import TerminalRelay.LogFilter.Pattern
import TerminalRelay.Main
import TerminalRelay.Notice
import TerminalRelay.Pid
import TerminalRelay.Program.Basic
import TerminalRelay.Program.Request
import TerminalRelay.Proofs.Host.Signals
import TerminalRelay.Proofs.Pid
import TerminalRelay.Proofs.Relay.ByteExactness
import TerminalRelay.Proofs.Relay.LossAccounting
import TerminalRelay.Proofs.Relay.Stages
import TerminalRelay.Proofs.Resize.BeforeData
import TerminalRelay.Proofs.Resize.NeverLost
import TerminalRelay.Proofs.Resize.Screens
import TerminalRelay.Proofs.Runs
import TerminalRelay.Proofs.Terminal.Restoration
import TerminalRelay.Proofs.Text.Ascii
import TerminalRelay.Proofs.Text.Decimal
import TerminalRelay.PtraceScope
import TerminalRelay.Relay.Delivery
import TerminalRelay.Relay.Ending
import TerminalRelay.Relay.Rounds
import TerminalRelay.Relay.Script
import TerminalRelay.Session
import TerminalRelay.Signal
import TerminalRelay.Takeover.Backend
import TerminalRelay.Takeover.Execution
import TerminalRelay.Takeover.Printing
import TerminalRelay.Takeover.Spawn
import TerminalRelay.Terminal.Pty
import TerminalRelay.Terminal.RawMode
import TerminalRelay.Terminal.ResizeWatcher
import TerminalRelay.Text.Alphanumeric
import TerminalRelay.Text.Blank
import TerminalRelay.Text.Decimal
import TerminalRelay.Text.Encoding
import TerminalRelay.Text.Hidden
import TerminalRelay.Text.Quoted
import TerminalRelay.Text.Similarity
import TerminalRelay.Text.Visible
import TerminalRelay.WindowSize
import TerminalRelay.Proofs.CommandLine.Arrangement
import TerminalRelay.Proofs.CommandLine.Reading
import TerminalRelay.Proofs.CommandLine.Lookahead
import TerminalRelay.Proofs.CommandLine.ModeSelection
import TerminalRelay.Proofs.Outcomes
import TerminalRelay.Proofs.Takeover.Launching
import TerminalRelay.Proofs.Takeover.Verbatim
import TerminalRelay.Proofs.Allowances
import TerminalRelay.Proofs.Concerns
import TerminalRelay.Proofs.Faults
import TerminalRelay.Proofs.Moments
import TerminalRelay.Proofs.Patience
import TerminalRelay.Proofs.ExitStatus
import TerminalRelay.Proofs.Host.Execution
import TerminalRelay.Proofs.Host.NearSide
import TerminalRelay.Proofs.Resize.SignalHygiene
import TerminalRelay.Proofs.Takeover.Course
import TerminalRelay.Proofs.Takeover.Opening
import TerminalRelay.Proofs.Takeover.Refusals
import TerminalRelay.Proofs.Takeover.SetupFailures
import TerminalRelay.Proofs.Relay.Endings
import TerminalRelay.Proofs.Relay.Foretold
import TerminalRelay.Proofs.Relay.Interruptions
import TerminalRelay.Proofs.Relay.Rounds
import TerminalRelay.Proofs.Relay.WaitingData
import TerminalRelay.Proofs.Relay.WriteIsolation
import TerminalRelay.Proofs.Shapes
import TerminalRelay.Proofs.Resize.Attending
import TerminalRelay.Proofs.Relay.SideBySide
import TerminalRelay.Proofs.Relay.Offers
import TerminalRelay.Proofs.Relay.ScriptedDelivery
import TerminalRelay.Proofs.Relay.RepeatedOffers
import TerminalRelay.Proofs.Relay.BoundedOffers
import TerminalRelay.Proofs.CommandLine.Acceptance
import TerminalRelay.Proofs.CommandLine.Roles
import TerminalRelay.Proofs.CommandLine.Order
import TerminalRelay.Proofs.CommandLine.Clusters
import TerminalRelay.Proofs.CommandLine.FirstOffence
import TerminalRelay.Proofs.Takeover.Creation
import TerminalRelay.Proofs.Resize.Indifference
import TerminalRelay.Proofs.Resize.Coalescing
import TerminalRelay.Proofs.Resize.Settings
import TerminalRelay.Proofs.Resize.TargetSize
import TerminalRelay.Proofs.Text.Encoding
import TerminalRelay.Proofs.PtraceScope
import TerminalRelay.Proofs.Text.Quoted
import TerminalRelay.Proofs.CommandLine.ProcessArguments
