import ProxyDial.Handshake

/-!
# Dialers

A dialer knows a proxy and the options for reaching it.  There is no dialer whose
user id cannot be sent: `validate_options` says so of every dialer, and the only ways
to make one are `make`, `withOptions` and `withUserId`.

Dialing connects a fresh socket to the proxy and then asks the proxy for a tunnel.
The options' family and lookup timeout have to do with the proxy alone.
-/

namespace ProxyDial

/-- A dialer. -/
structure Dialer where
  /-- The host of the proxy. -/
  host : String
  /-- The port of the proxy. -/
  port : UInt16
  /-- How to dial. -/
  options : Options
  /-- The user id can be sent unchanged. -/
  validate_options : options.validate = .ok ()

namespace Dialer

/-- The default options are valid. -/
theorem validate_default : ({} : Options).validate = .ok () := by rfl

/-- The dialer with default options. -/
def make (host : String) (port : UInt16) : Dialer := ⟨host, port, {}, validate_default⟩

/-- The dialer with the given options. -/
def withOptions (host : String) (port : UInt16) (options : Options) : Except DialError Dialer :=
  match h : options.validate with
  | .ok () => .ok ⟨host, port, options, h⟩
  | .error e => .error e

/-- A dialer with another user id. -/
def withUserId (d : Dialer) (userId : String) : Except DialError Dialer :=
  withOptions d.host d.port { d.options with userId }

/-- How to connect to the proxy. -/
def connectRequest (d : Dialer) : ConnectRequest where
  host := d.host
  port := d.port
  timeoutSecs := d.options.connectTimeoutSecs
  family := d.options.family
  resolveTimeoutSecs := d.options.resolveTimeoutSecs

/-- How to ask the proxy for a tunnel to a target. -/
def handshakeRequest (d : Dialer) (host : String) (port : UInt16) : HandshakeRequest where
  host
  port
  timeoutSecs := d.options.handshakeTimeoutSecs
  userId := UserId.ofString d.options.userId

/-- Connect the session's socket to the proxy and ask for a tunnel to the target. -/
def openTunnel (d : Dialer) (r : Resolver) (host : String) (port : UInt16) :
    Op (Except DialError Unit) := do
  match ← d.connectRequest.run r with
  | .error e => return .error e
  | .ok () => (d.handshakeRequest host port).run r

/-- Dial the target on a fresh socket.  It takes the place of the session's socket if
the dial succeeds, and otherwise that one stays. -/
def dial (d : Dialer) (r : Resolver) (host : String) (port : UInt16) :
    Op (Except DialError Unit) := do
  let before ← Op.get
  Op.setStream none
  let result ← d.openTunnel r host port
  let now := (← Op.get).clock
  let kept := before.stream.map (Connection.advance now)
  match result, kept with
  | .error e, _ =>
    Op.setStream kept
    return .error e
  | .ok (), none => return .ok ()
  | .ok (), some c =>
    Op.modify fun s => { s with net := s.net.close c }
    return .ok ()

end Dialer

end ProxyDial
