import ProxyDial.TimedConnect
import ProxyDial.Options
import ProxyDial.Wire.Reply

/-!
# The handshake

A handshake asks the proxy at the other end of the session's socket for a tunnel to
a target.  It looks the target up, since a request carries an IPv4 address and no
name, and takes the first IPv4 address of the answer.  Writing the request and
reading the reply share one timeout.

It reads the eight bytes of the reply and not one more, so the first byte of the
tunnel is the next byte that is read.  Afterwards the socket is open if the proxy
granted the request and closed otherwise.

A handshake under way stores its state and, once they are known, the address of the
target and the bytes of the request.  `Handshake.round` does what is due in the state
that is stored.
-/

namespace ProxyDial

/-- Which tunnel to ask for, and how long to take. -/
structure HandshakeRequest where
  /-- The host of the target. -/
  host : String
  /-- The port of the target. -/
  port : UInt16
  /-- The timeout for the request and its reply, in seconds. -/
  timeoutSecs : UInt64
  /-- The user id. -/
  userId : List UInt8 := UserId.ofString defaultUserId
deriving DecidableEq, Repr

/-- The first IPv4 address of a list of endpoints. -/
def firstIPv4? : List Endpoint → Option IPv4
  | [] => none
  | .v4 ip _ :: _ => some ip
  | .v6 .. :: rest => firstIPv4? rest

/-- The IPv6 addresses that stand before the first IPv4 address. -/
def skippedIPv6 : List Endpoint → List IPv6
  | [] => []
  | .v4 .. :: _ => []
  | .v6 ip .. :: rest => ip :: skippedIPv6 rest

namespace HandshakeRequest

/-- The timeout for the request and its reply. -/
def timeout (q : HandshakeRequest) : Duration := .ofSecs q.timeoutSecs

/-- The error of a handshake that took too long. -/
def timedOut (q : HandshakeRequest) : DialError := .timedOut .handshake q.timeout

/-- The request for a target at an address. -/
def requestFor (q : HandshakeRequest) (ip : IPv4) : Request := .connect ip q.port q.userId

/-- Record a step from one state to the next. -/
def step (q : HandshakeRequest) (old new : HandshakeState) : Op Unit :=
  Op.record (.handshakeStep q.host q.port old new)

/-- Refuse to start on a socket that is not open or with a user id that cannot be
sent. -/
def start (q : HandshakeRequest) : Attempt Unit := do
  if (← Op.get).isOpen then
    match checkUserId q.userId with
    | .ok () => return ()
    | .error e => throw e
  else throw (.transport .noProxy)

/-- Record the addresses that were skipped. -/
def warnSkipped (q : HandshakeRequest) : List IPv6 → Op Unit
  | [] => return ()
  | ip :: rest => do
    Op.record (.skipped ip q.host)
    q.warnSkipped rest

/-- Look up the address of the target. -/
def target (q : HandshakeRequest) (r : Resolver) : Attempt IPv4 := do
  let endpoints ← ExceptT.mk (r.resolve q.host q.port .any)
  q.warnSkipped (skippedIPv6 endpoints)
  match firstIPv4? endpoints with
  | none => throw (.hostNotFound q.host)
  | some ip => return ip

/-- The result of a race, in view of whether the socket is open. -/
def settled {α : Type} (q : HandshakeRequest) (outcome : Race α) : Attempt α := do
  match outcome.settle (← Op.get).isOpen with
  | .completed (.ok a) => return a
  | .completed (.error e) => throw (.transport e)
  | .aborted => throw q.timedOut

/-- Write the bytes of the request before the timer expires. -/
def writeRequest (q : HandshakeRequest) (bytes : List UInt8) : Attempt Unit := do
  let outcome ← Op.race (Op.writeAll bytes)
  q.settled outcome

/-- Read the reply before the timer expires, and end the timer. -/
def readReply (q : HandshakeRequest) : Attempt Unit := do
  let outcome ← Op.race (Op.readExact Reply.length)
  let _ ← Op.cancelTimer
  let bytes ← q.settled outcome
  match Reply.decode bytes with
  | .error e => throw e
  | .ok reply =>
    match reply.outcome with
    | .error e => throw e
    | .ok () => return ()

end HandshakeRequest

/-- A handshake under way. -/
structure Handshake where
  /-- Which tunnel to ask for. -/
  request : HandshakeRequest
  /-- How to look its target up. -/
  resolver : Resolver
  /-- How far it has come. -/
  state : HandshakeState := .start
  /-- The address of the target, once it is known. -/
  target : Option IPv4 := none
  /-- The bytes of the request, from when the target is known to when the reply is. -/
  requestBytes : List UInt8 := []

namespace Handshake

/-- A handshake that has not begun. -/
def prepare (request : HandshakeRequest) (resolver : Resolver) : Handshake :=
  { request, resolver }

/-- What comes of a handshake in a round.  It has less before it. -/
abbrev Next (op : Handshake) : Type := { next : Handshake // next.state.left < op.state.left }

/-- Go on to a state. -/
def advance (op : Handshake) (new : HandshakeState) (h : new.left < op.state.left) :
    Op op.Next := do
  op.request.step op.state new
  return ⟨{ op with state := new }, h⟩

/-- Begin, if that makes sense. -/
def start (op : Handshake) (h : op.state = .start) : Attempt op.Next := do
  op.request.start
  op.advance .resolvingTarget (by rw [h]; decide)

/-- Look up the target, make the request for it and start the timer. -/
def resolveTarget (op : Handshake) (h : op.state = .resolvingTarget) : Attempt op.Next := do
  let ip ← op.request.target op.resolver
  let requestBytes := (op.request.requestFor ip).encode
  Op.armTimer op.request.timeout
  advance { op with target := some ip, requestBytes } .writingRequest (by rw [h]; decide)

/-- Write the request. -/
def writeRequest (op : Handshake) (h : op.state = .writingRequest) : Attempt op.Next := do
  op.request.writeRequest op.requestBytes
  op.advance .readingReply (by rw [h]; decide)

/-- Read the reply. -/
def readReply (op : Handshake) (h : op.state = .readingReply) : Attempt op.Next := do
  op.request.readReply
  Op.record (.granted op.target op.request.port)
  advance { op with requestBytes := [] } .done (by rw [h]; decide)

/-- Do what is due in the state that is stored. -/
def round (op : Handshake) : Attempt (Option op.Next) :=
  match h : op.state with
  | .start => some <$> op.start h
  | .resolvingTarget => some <$> op.resolveTarget h
  | .writingRequest => some <$> op.writeRequest h
  | .readingReply => some <$> op.readReply h
  | .done => return none

/-- Go through all states. -/
def drive (op : Handshake) : Attempt Unit := Attempt.loop round op

/-- Run a handshake from beginning to end. -/
def run (op : Handshake) : Op (Except DialError Unit) := Attempt.run op.drive

end Handshake

/-- Ask the proxy at the session's socket for the tunnel. -/
def HandshakeRequest.run (q : HandshakeRequest) (r : Resolver) : Op (Except DialError Unit) :=
  (Handshake.prepare q r).run

end ProxyDial
