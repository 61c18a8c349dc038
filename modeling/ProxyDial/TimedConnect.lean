import ProxyDial.Resolver.Basic
import ProxyDial.Session.Attempt

/-!
# The timed connect

A timed connect looks a host up and connects the session's socket to the first
endpoint of the right family that accepts.  The lookup has a timeout of its own.
The timeout of the connect starts when the candidates are known, so the lookup is
never charged to it.

Afterwards the socket is open if the connect succeeded and closed if it failed, and
the timer is ended.

A timed connect under way stores its state and, once they are known, its candidates.
`TimedConnect.round` does what is due in the state that is stored.
-/

namespace ProxyDial

/-- Look a host up. -/
def Resolver.resolve (r : Resolver) (host : String) (port : UInt16) (family : Family) :
    Op Answer :=
  let lookup := r.lookup host port family
  Op.ready lookup.delay lookup.answer

/-- What to connect to, and how long to take. -/
structure ConnectRequest where
  /-- The host: a name or the text of an address. -/
  host : String
  /-- The port. -/
  port : UInt16
  /-- The timeout of the connect, in seconds. -/
  timeoutSecs : UInt64
  /-- The endpoints that may be used. -/
  family : Family := .any
  /-- The timeout of the lookup, in seconds, or none. -/
  resolveTimeoutSecs : Option UInt64 := none
deriving DecidableEq, Repr

namespace ConnectRequest

/-- The timeout of the connect. -/
def timeout (q : ConnectRequest) : Duration := .ofSecs q.timeoutSecs

/-- The timeout of the lookup, if there is one. -/
def resolveTimeout (q : ConnectRequest) : Option Duration :=
  q.resolveTimeoutSecs.map .ofSecs

/-- The error of a connect that took too long. -/
def timedOut (q : ConnectRequest) : DialError := .timedOut .connect q.timeout

/-- The error of a lookup that left no endpoint. -/
def noCandidates (q : ConnectRequest) : DialError :=
  match q.family with
  | .any => .hostNotFound q.host
  | .v4Only => .noMatchingFamily q.host .v4Only
  | .v6Only => .noMatchingFamily q.host .v6Only

/-- Record a step from one state to the next. -/
def step (q : ConnectRequest) (old new : ConnectState) : Op Unit :=
  Op.record (.connectStep q.host q.port old new)

/-- Look up the endpoints that may be used. -/
def candidates (q : ConnectRequest) (r : Resolver) : Attempt (List Endpoint) := do
  let answer ← Op.bounded q.resolveTimeout (r.resolve q.host q.port q.family)
  match answer with
  | none => throw (.timedOut .resolve (q.resolveTimeout.getD .zero))
  | some (.error e) => throw e
  | some (.ok endpoints) =>
    match q.family.filter endpoints with
    | [] => throw q.noCandidates
    | kept => return kept

/-- Connect to one of the candidates before the timer expires. -/
def connectTo (q : ConnectRequest) (candidates : List Endpoint) : Attempt Unit := do
  match ← Op.race (Op.connect candidates) with
  | .completed (.ok endpoint) =>
    let _ ← Op.cancelTimer
    if (← Op.get).isOpen then Op.record (.connected endpoint)
    else throw q.timedOut
  | .completed (.error e) =>
    let _ ← Op.cancelTimer
    throw (.transport e)
  | .aborted => throw q.timedOut

end ConnectRequest

/-- A timed connect under way. -/
structure TimedConnect where
  /-- What to connect to. -/
  request : ConnectRequest
  /-- How to look it up. -/
  resolver : Resolver
  /-- How far it has come. -/
  state : ConnectState := .start
  /-- The endpoints to try, once they are known. -/
  candidates : List Endpoint := []

namespace TimedConnect

/-- A timed connect that has not begun. -/
def prepare (request : ConnectRequest) (resolver : Resolver) : TimedConnect :=
  { request, resolver }

/-- What comes of a timed connect in a round.  It has less before it. -/
abbrev Next (op : TimedConnect) : Type := { next : TimedConnect // next.state.left < op.state.left }

/-- Go on to a state. -/
def advance (op : TimedConnect) (new : ConnectState) (h : new.left < op.state.left) :
    Op op.Next := do
  op.request.step op.state new
  return ⟨{ op with state := new }, h⟩

/-- Look up the candidates and start the timer. -/
def resolve (op : TimedConnect) (h : op.state = .resolving) : Attempt op.Next := do
  let candidates ← op.request.candidates op.resolver
  Op.record (.resolved op.request.host candidates)
  Op.armTimer op.request.timeout
  advance { op with candidates } .connecting (by rw [h]; decide)

/-- Connect to one of the candidates. -/
def connect (op : TimedConnect) (h : op.state = .connecting) : Attempt op.Next := do
  op.request.connectTo op.candidates
  advance { op with candidates := [] } .done (by rw [h]; decide)

/-- Do what is due in the state that is stored. -/
def round (op : TimedConnect) : Attempt (Option op.Next) :=
  match h : op.state with
  | .start => some <$> op.advance .resolving (by rw [h]; decide)
  | .resolving => some <$> op.resolve h
  | .connecting => some <$> op.connect h
  | .done => return none

/-- Go through all states. -/
def drive (op : TimedConnect) : Attempt Unit := Attempt.loop round op

/-- Run a timed connect from beginning to end. -/
def run (op : TimedConnect) : Op (Except DialError Unit) := Attempt.run op.drive

end TimedConnect

/-- Connect the session's socket as requested. -/
def ConnectRequest.run (q : ConnectRequest) (r : Resolver) : Op (Except DialError Unit) :=
  (TimedConnect.prepare q r).run

end ProxyDial
