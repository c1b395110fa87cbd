import RaceControl.Main
import RaceControl.Json.Parser
import RaceControl.Json.Printer
import RaceControl.Rehearsal.PluginTrial
import RaceControl.Rehearsal.RelayTrial
import RaceControl.Rehearsal.ServerTrial
import RaceControl.Rehearsal.Session
import RaceControl.Proofs.Address
import RaceControl.Proofs.CommandLine
import RaceControl.Proofs.Data.OptionRecords
import RaceControl.Proofs.Json.Tokens
import RaceControl.Proofs.Json.Grammar
import RaceControl.Proofs.LineReader
import RaceControl.Proofs.LogBuffer
import RaceControl.Proofs.Path
import RaceControl.Proofs.PluginLog
import RaceControl.Proofs.Vigil
import RaceControl.Proofs.Workplace
import RaceControl.Proofs.Settings
import RaceControl.Proofs.Relay.Delivery
import RaceControl.Proofs.Relay.Opening
import RaceControl.Proofs.Supervisor.Coherence
import RaceControl.Proofs.Supervisor.Turn
import RaceControl.Proofs.Supervisor.Steps
import RaceControl.Proofs.Supervisor.Runs
import RaceControl.Proofs.Supervisor.Effects
import RaceControl.Proofs.Supervisor.Integrity
import RaceControl.Proofs.Supervisor.Chapters
import RaceControl.Proofs.Supervisor.Lifecycle
import RaceControl.Proofs.Supervisor.Transitions
import RaceControl.Proofs.Supervisor.Replies
import RaceControl.Proofs.Supervisor.Exits
import RaceControl.Proofs.Supervisor.Requests
import RaceControl.Proofs.Supervisor.Service
import RaceControl.Proofs.Supervisor.Recollection
import RaceControl.Proofs.Supervisor.Restart
import RaceControl.Proofs.Supervisor.FailedLaunch
import RaceControl.Proofs.Supervisor.Children
import RaceControl.Proofs.Supervisor.Tasks
import RaceControl.Proofs.Supervisor.Passages
import RaceControl.Proofs.Supervisor.Console
import RaceControl.Proofs.Supervisor.DoneSignals
import RaceControl.Proofs.Supervisor.Relays
import RaceControl.Proofs.Supervisor.Shutdown
import RaceControl.Proofs.Supervisor.Messages
import RaceControl.Proofs.Supervisor.Moorings
import RaceControl.Proofs.Supervisor.Partings
import RaceControl.Proofs.Supervisor.Renewal
import RaceControl.Proofs.Supervisor.Standoff
import RaceControl.Proofs.Supervisor.Wrapper
import RaceControl.Proofs.Supervisor.Escalation
import RaceControl.Proofs.Supervisor.Outfit
import RaceControl.Proofs.Supervisor.Posts
import RaceControl.Proofs.Supervisor.Commands
import RaceControl.Proofs.Supervisor.Tracker
import RaceControl.Proofs.Supervisor.Installation
import RaceControl.Proofs.Program.Session
import RaceControl.Proofs.Program.Course
