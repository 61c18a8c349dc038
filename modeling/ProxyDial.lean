import ProxyDial.Main
import ProxyDial.Proofs.Network.Readiness
import ProxyDial.Proofs.Session.Outcome
import ProxyDial.Scenario
import ProxyDial.TimerScenario
import ProxyDial.Proofs.Session.Socket
import ProxyDial.Proofs.Time.Allowance
import ProxyDial.Proofs.Connect.Paths
import ProxyDial.Proofs.Connect.Verdict
import ProxyDial.Proofs.Connect.Traces
import ProxyDial.Proofs.Handshake.Paths
import ProxyDial.Proofs.Session.Reading
import ProxyDial.Proofs.Handshake.Verdict
import ProxyDial.Proofs.Session.Sending
import ProxyDial.Proofs.Handshake.Wire
import ProxyDial.Proofs.Handshake.Traces
import ProxyDial.Proofs.Network.Stream
import ProxyDial.Proofs.Scenario.History
import ProxyDial.Proofs.Scenario.Transfer
import ProxyDial.Proofs.Scenario.Tunnel
import ProxyDial.Proofs.Session.Lockstep
import ProxyDial.Proofs.Session.Instants
import ProxyDial.Proofs.Connect.Deadlines
import ProxyDial.Proofs.Handshake.Deadlines
import ProxyDial.Proofs.Dial.Deadlines
import ProxyDial.Proofs.Dial.Legs
import ProxyDial.Proofs.Session.Timeouts
import ProxyDial.Proofs.Connect.Timeouts
import ProxyDial.Proofs.Handshake.Timeouts
import ProxyDial.Proofs.Dial.Timeouts
import ProxyDial.Proofs.Dial.Composition
import ProxyDial.Proofs.Session.TimerLife
import ProxyDial.Proofs.Json.Quoted
import ProxyDial.Proofs.Json.Token
import ProxyDial.Proofs.Json.Value
import ProxyDial.Proofs.Options.Json
import ProxyDial.Proofs.Scenario.Ownership
import ProxyDial.Proofs.Session.Seen
import ProxyDial.Proofs.Probe.Complaints
import ProxyDial.Proofs.Probe.Agreement
import ProxyDial.Proofs.Dial.Progress
import ProxyDial.Proofs.Dial.Safety
import ProxyDial.Proofs.Session.SharedDeadline
import ProxyDial.Proofs.Json.Grammar
import ProxyDial.Proofs.Json.Reading
import ProxyDial.Proofs.Options.Members
import ProxyDial.Proofs.Session.Logging
import ProxyDial.Proofs.Wire.Acceptance
import ProxyDial.Proofs.Text.Numerals
import ProxyDial.Proofs.Text.Pieces
import ProxyDial.Proofs.Address.IPv4
import ProxyDial.Proofs.Address.Spelling
import ProxyDial.Proofs.Address.Canonical
import ProxyDial.Proofs.Address.Literal
import ProxyDial.Proofs.Address.LetterCase
import ProxyDial.Proofs.Resolver.Literal
import ProxyDial.Proofs.Resolver.History
import ProxyDial.Proofs.Probe.Merging
import ProxyDial.Proofs.Resolver.FirstOccurrences
import ProxyDial.Proofs.Session.Notices
import ProxyDial.Proofs.Handshake.Warnings
import ProxyDial.Proofs.Connect.Candidates
import ProxyDial.Proofs.Dial.Settling
