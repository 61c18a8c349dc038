import ProxyDial.Handshake
import ProxyDial.Probe.Config
import ProxyDial.Probe.Log

/-!
# The probe

The probe connects to a proxy, asks it for a tunnel to a target, and says what it
does in a log.  It succeeds if the tunnel is opened, and then it closes it without
using it.
-/

namespace ProxyDial.Probe

/-- Say something in the log. -/
def say (level : Level) (message : String) : Op Unit := Op.record (.said level message)

/-- A host and port in messages. -/
def hostPort (p : String × UInt16) : String := s!"{p.1}:{p.2.toNat}"

/-- How to connect to the proxy. -/
def connectRequest (a : Arguments) (o : Options) : ConnectRequest where
  host := a.socks.1
  port := a.socks.2
  timeoutSecs := o.connectTimeoutSecs
  family := o.family
  resolveTimeoutSecs := o.resolveTimeoutSecs

/-- How to ask the proxy for the tunnel. -/
def handshakeRequest (a : Arguments) (o : Options) : HandshakeRequest where
  host := a.target.1
  port := a.target.2
  timeoutSecs := o.handshakeTimeoutSecs
  userId := UserId.ofString o.userId

/-- Whether an error may pass, in messages. -/
def hint (e : DialError) : String := if e.isRetryable then "retryable" else "not retryable"

/-- Say to whom the socket is connected. -/
def sayConnected : Op Unit := do
  match ← Op.remoteEndpoint with
  | .ok peer => say .info s!"Connection established to {peer.text}"
  | .error e => say .info s!"Connection established, remote endpoint unknown: {e.message}"

/-- Connect to the proxy and ask for the tunnel.  Gives whether it was opened. -/
def tryTunnel (r : Resolver) (a : Arguments) (o : Options) : Op Bool := do
  say .info s!"Connect to SOCKS4 proxy at {hostPort a.socks}"
  match ← (connectRequest a o).run r with
  | .error e =>
    say .error s!"Connection failed: {e.message}"
    return false
  | .ok () =>
    sayConnected
    say .info s!"Starting handshake for target {hostPort a.target}"
    match ← (handshakeRequest a o).run r with
    | .error e =>
      say .error s!"Handshake failed ({hint e}): {e.message}"
      return false
    | .ok () =>
      say .info s!"Handshake done, tunnel open to {hostPort a.target}"
      Op.close
      return true

/-- Run the probe with arguments that are right.  Gives whether it succeeded. -/
def runWith (faultIn : String → String) (r : Resolver) (a : Arguments) (files : Files) :
    Op Bool := do
  match loadOptions faultIn a files with
  | .error e =>
    say .error e.message
    return false
  | .ok o => tryTunnel r a o

/-! ## Whole runs -/

/-- What can be seen of a run. -/
structure Report where
  /-- The exit code. -/
  exitCode : Nat
  /-- What happened, oldest first. -/
  events : List Event
  /-- What each server has read on each of its connections. -/
  received : List (List (List UInt8))
deriving Repr

/-- The log. -/
def Report.log (r : Report) : List Char := Log.text r.events

/-- The lines of the log. -/
def Report.lines (r : Report) : List String := (ProxyDial.lines r.log).map String.ofList

/-- Run the probe on a network, with the resolver of the operating system.  Gives
none if it never ends. -/
def run? (faultIn : String → String) (names : NameLookup) (net : Network) (files : Files)
    (args : List String) : Option Report :=
  match Arguments.ofList args with
  | .error refusal =>
    some { exitCode := refusal.exitCode, events := [], received := net.received [] }
  | .ok a =>
    ((runWith faultIn (.system names) a files).run? (.start net)).map fun (success, s) =>
      { exitCode := if success then 0 else 1, events := s.log, received := s.received }

end ProxyDial.Probe
