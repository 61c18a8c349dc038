import ProxyDial.Dialer
import ProxyDial.Options.Json

/-!
# Scenarios

A scenario is a list of steps that one client takes on its socket.  Between two
steps the servers go on until they have to wait.

A client may take the connection out of its socket and keep it.  Then it is part of the
outcome of that step, and a later step may wrap it.
-/

namespace ProxyDial

/-- A step of a scenario. -/
inductive Step where
  | timedConnect (q : ConnectRequest) (r : Resolver)
  | handshake (q : HandshakeRequest) (r : Resolver)
  /-- A timed connect that is prepared and never run. -/
  | prepareConnect (q : ConnectRequest) (r : Resolver)
  /-- A handshake that is prepared and never run. -/
  | prepareHandshake (q : HandshakeRequest) (r : Resolver)
  /-- A dial through a proxy, with options in JSON. -/
  | dial (host : String) (port : UInt16) (options : String) (r : Resolver)
      (targetHost : String) (targetPort : UInt16)
  /-- Connecting without a timeout. -/
  | connect (endpoints : List Endpoint)
  | writeAll (bytes : List UInt8)
  /-- Reading so many bytes. -/
  | readExact (count : Nat)
  /-- Reading what is there, at most so many bytes. -/
  | read (count : Nat)
  /-- Reading up to the end of the stream. -/
  | readToEnd
  /-- Writing bytes once. -/
  | write (bytes : List UInt8)
  /-- Waiting until everything is written. -/
  | flush
  | shutdown
  | close
  /-- Asking for the server's address. -/
  | remote
  /-- Asking for the client's own address. -/
  | local
  /-- Taking the connection out of the socket, and putting it back at once or dropping
  it. -/
  | takeStream (putBack : Bool)
  /-- Taking the connection out of the socket and keeping it. -/
  | keepStream
  /-- Making a connection that was kept the socket's again. -/
  | wrapStream (c : Connection)
  /-- Doing nothing for so many milliseconds. -/
  | sleep (millis : Nat)

/-- What a socket operation gives. -/
inductive Gain where
  /-- Nothing but its success. -/
  | nothing
  | endpoint (e : Endpoint)
  | bytes (bs : List UInt8)
  | count (n : Nat)
  | flag (b : Bool)
deriving DecidableEq, Repr

/-- The outcome of a step. -/
inductive Outcome where
  /-- There is nothing to tell. -/
  | silent
  /-- A timed connect is in this state. -/
  | connectState (state : ConnectState)
  /-- A handshake is in this state. -/
  | handshakeState (state : HandshakeState)
  /-- The outcome of a connect, handshake or dial. -/
  | attempt (result : Except DialError Unit)
  /-- The options are not written as they should be. -/
  | badOptions
  /-- The outcome of a socket operation. -/
  | io (result : Except IoError Gain)
  /-- Whether there was a connection. -/
  | hadStream (b : Bool)
  /-- The connection that is kept, if there was one. -/
  | kept (stream : Option Connection)
deriving Repr

namespace Step

/-- Take a step. -/
def run : Step → Op Outcome
  | timedConnect q r => return .attempt (← q.run r)
  | handshake q r => return .attempt (← q.run r)
  | prepareConnect q r => return .connectState (TimedConnect.prepare q r).state
  | prepareHandshake q r => return .handshakeState (Handshake.prepare q r).state
  | dial host port options r targetHost targetPort =>
    match Options.ofJson? options with
    | none => return .badOptions
    | some options =>
      match Dialer.withOptions host port options with
      | .error e => return .attempt (.error e)
      | .ok dialer => return .attempt (← dialer.dial r targetHost targetPort)
  | connect endpoints => return .io ((← Op.connect endpoints).map .endpoint)
  | writeAll bytes => return .io ((← Op.writeAll bytes).map fun () => .nothing)
  | readExact count => return .io ((← Op.readExact count).map .bytes)
  | read count => return .io ((← Op.read count).map .bytes)
  | readToEnd => return .io ((← Op.readToEnd).map .bytes)
  | write bytes => return .io ((← Op.write bytes).map .count)
  | flush => return .io ((← Op.flush).map fun () => .nothing)
  | shutdown => return .io ((← Op.shutdown).map fun () => .nothing)
  | close => do
    Op.close
    return .silent
  | remote => return .io ((← Op.remoteEndpoint).map .endpoint)
  | Step.local => return .io ((← Op.localIsIPv4).map .flag)
  | takeStream putBack => do
    match ← Op.takeStream with
    | none => return .hadStream false
    | some c =>
      if putBack then Op.setStream (some c) else Op.discard c
      return .hadStream true
  | keepStream => return .kept (← Op.takeStream)
  | wrapStream c => do
    Op.wrapStream c
    return .silent
  | sleep millis => do
    Op.sleep millis
    return .silent

end Step

/-- What can be seen after a step. -/
structure StepReport where
  outcome : Outcome
  /-- Whether the socket is open. -/
  isOpen : Bool
  clock : Nat
deriving Repr

/-- Take a step and look at the session after it. -/
def Step.report (step : Step) : Op StepReport := do
  let outcome ← step.run
  Op.settle
  let s ← Op.get
  return { outcome, isOpen := s.isOpen, clock := s.clock }

/-- Take steps one after the other. -/
def Step.reportAll : List Step → Op (List StepReport)
  | [] => return []
  | step :: steps => do
    let report ← step.report
    let reports ← reportAll steps
    return report :: reports

end ProxyDial
