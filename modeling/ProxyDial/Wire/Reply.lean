import ProxyDial.Wire.Request

/-!
# Replies

A reply is eight bytes: a zero, the status code, and a port and an address that
clients do not use.
-/

namespace ProxyDial

/-- A reply of a proxy. -/
structure Reply where
  /-- What the proxy says about the request. -/
  status : Status
  /-- The port field. -/
  port : UInt16
  /-- The address field. -/
  ip : IPv4
deriving DecidableEq, Repr

namespace Reply

/-- The byte that replies start with. -/
def version : UInt8 := 0

/-- The length of every reply. -/
def length : Nat := 8

/-- Read a reply.  Any other number of bytes than eight is no reply. -/
def decode (bytes : List UInt8) : Except DialError Reply :=
  match bytes with
  | [vn, code, high, low, a, b, c, d] =>
    if vn ≠ version then .error (.badVersion vn)
    else .ok ⟨.ofCode code, Request.portOf high low, ⟨a, b, c, d⟩⟩
  | _ => .error (.truncated bytes.length)

/-- Whether the tunnel is open, or why not. -/
def outcome (r : Reply) : Except DialError Unit :=
  match r.status with
  | .granted => .ok ()
  | .rejected why => .error (.rejected why)

end Reply

end ProxyDial
