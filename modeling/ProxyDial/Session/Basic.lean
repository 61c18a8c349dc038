import ProxyDial.Network.Basic
import ProxyDial.Session.Event
import ProxyDial.Time.Timer

/-!
# Sessions

A session is the state of one client: the clock, the network, one socket, the timer
of the attempt in progress, and the events so far.  The socket holds the connection
itself while it is open.

Time passes for the servers and the client alike.  `moveTo` is the only way in
which the clock advances, and it lets every server go on until the new instant.
-/

namespace ProxyDial

/-- The state of a client. -/
structure Session where
  /-- The clock, in milliseconds since the start. -/
  clock : Nat := 0
  /-- The network. -/
  net : Network := {}
  /-- The connection of the socket, if the socket is open. -/
  stream : Option Connection := none
  /-- The timer of the attempt in progress. -/
  timer : Timer := .idle
  /-- The events so far, oldest first. -/
  log : List Event := []
deriving Repr

namespace Session

/-- A client on a network before it does anything. -/
def start (net : Network) : Session := { net }

/-- Whether the socket is open. -/
def isOpen (s : Session) : Bool := s.stream.isSome

theorem isOpen_of_some {s : Session} {c : Connection} (hs : s.stream = some c) :
    s.isOpen = true := by
  rw [isOpen, hs]
  rfl

theorem isOpen_of_none {s : Session} (hs : s.stream = none) : s.isOpen = false := by
  rw [isOpen, hs]
  rfl

/-- Let time pass until an instant. -/
def moveTo (now : Nat) (s : Session) : Session :=
  { s with
    clock := now
    net := s.net.advance now
    stream := s.stream.map (Connection.advance now) }

/-- Record an event. -/
def record (e : Event) (s : Session) : Session := { s with log := s.log ++ [e] }

/-- What each server has read. -/
def received (s : Session) : List (List (List UInt8)) := s.net.received s.stream.toList

end Session

end ProxyDial
