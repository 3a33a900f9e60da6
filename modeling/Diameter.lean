import Diameter.Address.Text
import Diameter.CommandLine.Acceptor
import Diameter.CommandLine.Probe
import Diameter.Connection.Stream
import Diameter.Credential.Loading
import Diameter.Dictionary
import Diameter.Endpoint
import Diameter.Files
import Diameter.Frame
import Diameter.Handshake.Basic
import Diameter.Listener.Scenario
import Diameter.Main
import Diameter.Message.Draft
import Diameter.Queue.Scenario
import Diameter.Settings.Rules
import Diameter.Shutdown.Scenario
import Diameter.Text.Quoted
import Diameter.Proofs.Queue.Course
import Diameter.Proofs.Queue.Outline
import Diameter.Proofs.Queue.Steps
import Diameter.Proofs.Queue.Custody
import Diameter.Proofs.Queue.Routes
import Diameter.Proofs.Queue.Order
import Diameter.Proofs.Queue.Delivery
import Diameter.Proofs.Queue.Lines
import Diameter.Proofs.Queue.Supply
import Diameter.Proofs.Queue.Wakeups
import Diameter.Proofs.Queue.NoLostWakeup
import Diameter.Proofs.Listener.Course
import Diameter.Proofs.Listener.Roster
import Diameter.Proofs.Listener.Steps
import Diameter.Proofs.Listener.Entries
import Diameter.Proofs.Listener.Ownership
import Diameter.Proofs.Listener.Stopping
import Diameter.Proofs.Listener.Runs
import Diameter.Proofs.Message.Words
import Diameter.Proofs.Message.Grammar
import Diameter.Proofs.Message.RoundTrip
import Diameter.Proofs.Message.Making
import Diameter.Proofs.Message.Strict
import Diameter.Proofs.Message.Bounds
import Diameter.Proofs.Frame.Signals
import Diameter.Proofs.Frame.Cutting
import Diameter.Proofs.Queue.Hops
import Diameter.Proofs.Queue.Bystanders
import Diameter.Proofs.Queue.Attempts
import Diameter.Proofs.Queue.Handles
import Diameter.Proofs.Queue.Served
import Diameter.Proofs.Queue.Ledger
import Diameter.Proofs.Queue.Figures
import Diameter.Proofs.Message.Blame
import Diameter.Proofs.Message.Arrangement
import Diameter.Proofs.Listener.Sheet
import Diameter.Proofs.Listener.Blameless
import Diameter.Proofs.Handshake.Script
import Diameter.Proofs.Listener.Verdicts
import Diameter.Proofs.Daemon.Closedown
import Diameter.Proofs.Daemon.Books
import Diameter.Proofs.Daemon.Calls
import Diameter.Proofs.Daemon.Handshakes
import Diameter.Proofs.Daemon.Started
import Diameter.Proofs.Daemon.Listeners
import Diameter.Proofs.Daemon.Moves
import Diameter.Proofs.Daemon.Ending
import Diameter.Proofs.Daemon.Startup
import Diameter.Proofs.Daemon.Unattended
import Diameter.Proofs.Daemon.Abandoned
import Diameter.Proofs.Queue.Refusals
import Diameter.Proofs.Queue.Destruction
import Diameter.Proofs.Queue.LateHandlers
import Diameter.Proofs.Listener.Gate
import Diameter.Proofs.Listener.Service
import Diameter.Proofs.Frame.Agreement
import Diameter.Proofs.Handshake.Opening
import Diameter.Proofs.Handshake.Requests
import Diameter.Proofs.Connection.Phases
import Diameter.Proofs.Listener.Openings
import Diameter.Proofs.Daemon.Plan
import Diameter.Proofs.Queue.Failures
import Diameter.Proofs.Shutdown.Calls
import Diameter.Proofs.Listener.Tokens
import Diameter.Proofs.Daemon.Life
import Diameter.Proofs.Shutdown.Tokens
import Diameter.Proofs.Daemon.Verdict
import Diameter.Proofs.Listener.Lifecycle
import Diameter.Proofs.Listener.Aftermath
import Diameter.Proofs.Daemon.Enlisting
import Diameter.Proofs.Daemon.Stops
import Diameter.Proofs.Daemon.Attempt
import Diameter.Proofs.Daemon.Rollback
import Diameter.Proofs.Daemon.Faults
import Diameter.Proofs.Queue.Answers
import Diameter.Proofs.Daemon.Deadlines
