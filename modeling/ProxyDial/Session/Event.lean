import ProxyDial.DialError

/-!
# Events

What happens in a session is recorded as events.  Each has a level and a message.
-/

namespace ProxyDial

/-- How far a timed connect has come. -/
inductive ConnectState where
  /-- Nothing has happened. -/
  | start
  /-- The host is being looked up. -/
  | resolving
  /-- The candidates are being tried. -/
  | connecting
  | done
deriving DecidableEq, Repr, Inhabited

/-- How many steps a timed connect in this state has before it. -/
def ConnectState.left : ConnectState → Nat
  | start => 3
  | resolving => 2
  | connecting => 1
  | done => 0

/-- The state in messages. -/
def ConnectState.text : ConnectState → String
  | start => "Start"
  | resolving => "Resolving"
  | connecting => "Connecting"
  | done => "Done"

/-- How far a handshake has come. -/
inductive HandshakeState where
  /-- Nothing has happened. -/
  | start
  /-- The target is being looked up. -/
  | resolvingTarget
  | writingRequest
  | readingReply
  /-- The tunnel is open. -/
  | done
deriving DecidableEq, Repr, Inhabited

/-- How many steps a handshake in this state has before it. -/
def HandshakeState.left : HandshakeState → Nat
  | start => 4
  | resolvingTarget => 3
  | writingRequest => 2
  | readingReply => 1
  | done => 0

/-- The state in messages. -/
def HandshakeState.text : HandshakeState → String
  | start => "Start"
  | resolvingTarget => "ResolvingTarget"
  | writingRequest => "WritingRequest"
  | readingReply => "ReadingReply"
  | done => "Done"

/-- How important an event is. -/
inductive Level where
  | error
  | warn
  | info
  | debug
  | trace
deriving DecidableEq, Repr, Inhabited

namespace Level

/-- The level as a number, with the most important level first. -/
def rank : Level → Nat
  | error => 1
  | warn => 2
  | info => 3
  | debug => 4
  | trace => 5

/-- The name of the level in a log. -/
def name : Level → String
  | error => "ERROR"
  | warn => "WARN"
  | info => "INFO"
  | debug => "DEBUG"
  | trace => "TRACE"

end Level

/-- Something that happened in a session. -/
inductive Event where
  /-- A timed connect to a host and port went from a state to the next. -/
  | connectStep (host : String) (port : UInt16) (old new : ConnectState)
  /-- A host has these endpoints. -/
  | resolved (host : String) (endpoints : List Endpoint)
  /-- A candidate could not be connected to. -/
  | connectFailed (endpoint : Endpoint) (e : IoError)
  | connected (endpoint : Endpoint)
  /-- A handshake for a host and port went from a state to the next. -/
  | handshakeStep (host : String) (port : UInt16) (old new : HandshakeState)
  /-- An address of the target cannot be used. -/
  | skipped (ip : IPv6) (host : String)
  /-- The proxy opened the tunnel. -/
  | granted (target : Option IPv4) (port : UInt16)
  /-- The socket is closed.  Its peer is unknown if the connection is gone. -/
  | closing (peer : Option Endpoint)
  | timerArmed (timeout : Duration)
  | timerCancelled
  /-- An operation was given up at the deadline. -/
  | deadlineReached (timeout : Duration)
  /-- A program that uses the session says something. -/
  | said (level : Level) (message : String)
deriving DecidableEq, Repr

namespace Event

/-- The level of an event. -/
def level : Event → Level
  | skipped .. => .warn
  | timerArmed _ => .trace
  | timerCancelled => .trace
  | said level _ => level
  | _ => .debug

/-- Texts with commas between them. -/
def commaText (texts : List String) : String := ", ".intercalate texts

/-- A target's address as a debugger writes it. -/
def targetText : Option IPv4 → String
  | some ip => s!"Some({ip.text})"
  | none => "None"

/-- The message of an event. -/
def message : Event → String
  | connectStep host port old new =>
    s!"timed connect to {host}:{port.toNat}: {old.text} -> {new.text}"
  | resolved host endpoints =>
    s!"{host} resolved to [" ++ commaText (endpoints.map Endpoint.text) ++ "]"
  | connectFailed endpoint e => s!"connect to {endpoint.text} failed: {e.message}"
  | connected endpoint => s!"connected to {endpoint.text}"
  | handshakeStep host port old new =>
    s!"socks4 handshake for {host}:{port.toNat}: {old.text} -> {new.text}"
  | skipped ip host => s!"skipping IPv6 address {ip.text} of {host}: SOCKS4 is IPv4 only"
  | granted target port => s!"socks4 proxy granted tunnel to {targetText target}:{port.toNat}"
  | closing (some peer) => s!"closing socket to {peer.text}"
  | closing none => "closing socket to <unconnected>"
  | timerArmed timeout => s!"timer armed for {timeout.text}"
  | timerCancelled => "timer cancelled"
  | deadlineReached timeout => s!"deadline of {timeout.text} reached, aborting operation"
  | said _ message => message

end Event

end ProxyDial
