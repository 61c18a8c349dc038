import ProxyDial.IoError
import ProxyDial.Text.Hex

/-!
# The status of a reply

A proxy grants a request with one code and rejects it with any other.  Three of
the others have a meaning of their own.
-/

namespace ProxyDial

/-- Why a proxy did not grant a request. -/
inductive Rejection where
  /-- Rejected or failed. -/
  | requestFailed
  /-- The proxy cannot reach the identification service of the client. -/
  | noIdentd
  /-- The identification service reported another user. -/
  | badUserId
  /-- A code without a meaning. -/
  | unknown (code : UInt8)
deriving DecidableEq, Repr, Inhabited

namespace Rejection

/-- The rejection in messages. -/
def text : Rejection → String
  | requestFailed => "request rejected or failed"
  | noIdentd => "proxy cannot reach identd on the client"
  | badUserId => "identd reported a different user id"
  | unknown code => "unknown status 0x" ++ Hex.byteText code

/-- The kind of I/O error that a rejection is.  One that has to do with the user
is a denied permission, and any other may pass. -/
def ioKind : Rejection → IoKind
  | requestFailed => .interrupted
  | noIdentd => .permissionDenied
  | badUserId => .permissionDenied
  | unknown _ => .interrupted

end Rejection

/-- What a reply says about the request. -/
inductive Status where
  /-- The tunnel is open. -/
  | granted
  /-- There is no tunnel. -/
  | rejected (why : Rejection)
deriving DecidableEq, Repr, Inhabited

namespace Status

/-- The code that grants a request. -/
def grantedCode : UInt8 := 0x5A

/-- The code of a request that is rejected or failed. -/
def failedCode : UInt8 := 0x5B

/-- The code for an unreachable identification service. -/
def noIdentdCode : UInt8 := 0x5C

/-- The code for a user that the identification service denies. -/
def badUserIdCode : UInt8 := 0x5D

/-- The status a code stands for. -/
def ofCode (code : UInt8) : Status :=
  if code = grantedCode then granted
  else if code = failedCode then rejected .requestFailed
  else if code = noIdentdCode then rejected .noIdentd
  else if code = badUserIdCode then rejected .badUserId
  else rejected (.unknown code)

end Status

end ProxyDial
