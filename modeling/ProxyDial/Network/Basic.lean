import ProxyDial.Network.Connection

/-!
# Networks

A network is a list of servers at addresses.  A server accepts every connection,
answers none, or fails every attempt with an error of its own.  An attempt takes some
time to reach a server.  At an address without a server every attempt is refused at
once.

A client may also be on a host without any route.  Then every attempt fails before
anything is sent.

Connections that the client has closed stay with the network, since the servers'
scripts go on reading what was sent.
-/

namespace ProxyDial

/-- What a server does with attempts to connect. -/
inductive Behaviour where
  /-- Accept each.  The scripts are those of the connections to come, and a
  connection beyond them has the empty script. -/
  | accepts (scripts : List (List Action))
  /-- Answer none. -/
  | hangs
  /-- Fail each. -/
  | fails (e : IoError)
deriving DecidableEq, Repr

/-- A server. -/
structure Server where
  /-- Its address. -/
  address : Endpoint
  /-- What it does with attempts to connect. -/
  behaviour : Behaviour
  /-- The number of connections it has accepted. -/
  accepted : Nat := 0
  /-- How many milliseconds it takes to accept or fail an attempt. -/
  latency : Nat := 0
  /-- How many bytes the network holds at most on each of its connections that its script
  has not read. -/
  capacity : Option Nat := none
deriving DecidableEq, Repr

/-- A network as one client sees it. -/
structure Network where
  /-- The servers. -/
  servers : List Server := []
  /-- Whether the client's host has a route to them. -/
  routed : Bool := true
  /-- The connections that the client has closed, oldest first. -/
  closed : List Connection := []
deriving DecidableEq, Repr

/-- What an attempt to connect meets. -/
inductive Contact where
  /-- There is no way to the address. -/
  | noRoute
  /-- The attempt fails. -/
  | failed (e : IoError)
  /-- No answer comes. -/
  | silent
  /-- A server accepts. -/
  | accepted (c : Connection) (net : Network)

namespace Network

/-- The network of servers, if it can be set up.  An address has one server.  A
server that answers nobody is a listener whose queue is full, and filling a queue
takes a connection and so a route. -/
def setUp? (routed : Bool) (servers : List Server) : Option Network :=
  if (servers.map Server.address).Nodup ∧ (routed ∨ ∀ s ∈ servers, s.behaviour ≠ .hangs) then
    some { servers, routed }
  else none

/-- The server at an address. -/
def serverAt? (net : Network) (address : Endpoint) : Option Server :=
  net.servers.find? fun s => s.address = address

/-- In a network that was set up every server is found at its address. -/
theorem serverAt?_of_setUp? {routed : Bool} {servers : List Server} {net : Network} {s : Server}
    (h : setUp? routed servers = some net) (hs : s ∈ servers) :
    net.serverAt? s.address = some s := by
  rw [setUp?] at h
  split at h
  · rename_i hset
    cases h
    obtain ⟨before, after, rfl⟩ := List.append_of_mem hs
    have hfresh : ∀ t ∈ before, t.address ≠ s.address := by
      intro t ht heq
      have hnodup := hset.1
      rw [List.map_append, List.map_cons, List.nodup_append] at hnodup
      exact hnodup.2.2 _ (List.mem_map_of_mem ht) _ (.head _) heq
    rw [serverAt?, List.find?_append, List.find?_eq_none.2 (by simpa using hfresh)]
    simp
  · cases h

/-- The network after a server has accepted a connection. -/
def countAccepted (net : Network) (s : Server) (scripts : List (List Action)) : Network :=
  { net with
    servers := net.servers.map fun other =>
      if other.address = s.address then
        { other with behaviour := .accepts scripts.tail, accepted := other.accepted + 1 }
      else other }

/-- How many milliseconds it takes until an attempt to connect to an address meets
something. -/
def latency (net : Network) (address : Endpoint) : Nat :=
  if net.routed then (net.serverAt? address).elim 0 Server.latency else 0

/-- What an attempt to connect to an address meets. -/
def contact (net : Network) (now : Nat) (address : Endpoint) : Contact :=
  if net.routed then
    match net.serverAt? address with
    | none => .failed .refused
    | some s =>
      match s.behaviour with
      | .hangs => .silent
      | .fails e => .failed e
      | .accepts scripts =>
        .accepted
          { peer := address, ordinal := s.accepted, script := scripts.headD [], since := now,
            capacity := s.capacity }
          (net.countAccepted s scripts)
  else .noRoute

/-- The network after the client has closed a connection. -/
def close (net : Network) (c : Connection) : Network :=
  { net with closed := net.closed ++ [c.finish] }

/-- Let the servers of closed connections go on until an instant. -/
def advance (now : Nat) (net : Network) : Network :=
  { net with closed := net.closed.map (Connection.advance now) }

/-- What each server has read on each connection it accepted, given the
connections that are open still. -/
def received (net : Network) (opened : List Connection) : List (List (List UInt8)) :=
  net.servers.map fun s =>
    (List.range s.accepted).map fun i =>
      match (net.closed ++ opened).find? fun c => c.peer = s.address ∧ c.ordinal = i with
      | some c => c.received
      | none => []

end Network

end ProxyDial
