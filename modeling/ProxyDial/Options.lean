import ProxyDial.DialError

/-!
# Options of a dialer

The timeouts are whole seconds and may be any 64-bit number.  Options are valid if
their user id can be sent unchanged.
-/

namespace ProxyDial

/-- The timeout in seconds of a dialer that is given none. -/
def defaultTimeoutSecs : UInt64 := 10

/-- The user id of a dialer that is given none. -/
def defaultUserId : String := "socks4-connect"

/-- How a dialer dials. -/
structure Options where
  /-- The timeout for connecting to the proxy, in seconds. -/
  connectTimeoutSecs : UInt64 := defaultTimeoutSecs
  /-- The timeout for the handshake, in seconds. -/
  handshakeTimeoutSecs : UInt64 := defaultTimeoutSecs
  /-- The timeout for looking up the proxy, in seconds, or none. -/
  resolveTimeoutSecs : Option UInt64 := none
  /-- The addresses of the proxy that may be used. -/
  family : Family := .any
  /-- The user id of requests. -/
  userId : String := defaultUserId
deriving DecidableEq, Repr, Inhabited

/-- Refuse options whose user id cannot be sent unchanged. -/
def Options.validate (o : Options) : Except DialError Unit :=
  checkUserId (UserId.ofString o.userId)

end ProxyDial
