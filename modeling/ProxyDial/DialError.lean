import ProxyDial.Address.Family
import ProxyDial.Time.Duration
import ProxyDial.UserId
import ProxyDial.Wire.Status

/-!
# Errors of a dial

Each error is a cause.  Its message, its kind, whether it pays to try again and
the I/O error it stands for are functions of the cause.
-/

namespace ProxyDial

/-- The part of a dial that a deadline guards. -/
inductive Phase where
  /-- Looking up the host of the proxy. -/
  | resolve
  /-- Connecting to the proxy. -/
  | connect
  /-- Sending the request and reading the reply. -/
  | handshake
deriving DecidableEq, Repr, Inhabited

/-- The phase in messages. -/
def Phase.text : Phase → String
  | resolve => "resolve"
  | connect => "connect"
  | handshake => "handshake"

/-- Why a dial failed. -/
inductive DialError where
  /-- A host name was not looked up. -/
  | resolve (host : String) (cause : IoError)
  /-- A host has addresses, none of them of the family. -/
  | noMatchingFamily (host : String) (family : Family)
  /-- A host has no address that can be used. -/
  | hostNotFound (host : String)
  /-- A deadline passed. -/
  | timedOut (phase : Phase) (timeout : Duration)
  /-- Connecting, writing or reading failed. -/
  | transport (cause : IoError)
  /-- A message starts with the wrong version. -/
  | badVersion (version : UInt8)
  /-- A message has too few bytes. -/
  | truncated (length : Nat)
  /-- The proxy did not grant the request. -/
  | rejected (why : Rejection)
  /-- The options cannot be used. -/
  | config (what : String)
deriving DecidableEq, Repr, Inhabited

namespace DialError

/-- The message. -/
def message : DialError → String
  | resolve host cause => s!"Failed to resolve {host}: {cause.message}"
  | noMatchingFamily host family => s!"No {family.text} address for {host}"
  | hostNotFound host => s!"Host not found: {host}"
  | timedOut phase timeout => s!"Timed out during {phase.text} after {timeout.text}"
  | transport cause => s!"Transport error: {cause.message}"
  | badVersion version => s!"Malformed SOCKS4 reply: version byte 0x{Hex.byteText version}"
  | truncated length => s!"Truncated SOCKS4 message: {length} bytes"
  | rejected why => s!"SOCKS4 proxy rejected the request: {why.text}"
  | config what => s!"Config error: {what}"

/-- The kinds that callers tell apart. -/
inductive Kind where
  | resolve
  | noMatchingFamily
  | hostNotFound
  | timedOut
  | transport
  | protocol
  | rejected
  | config
deriving DecidableEq, Repr, Inhabited

/-- The kind of an error.  A message that cannot be read is an error of the
protocol, whatever is wrong with it. -/
def kind : DialError → Kind
  | resolve .. => .resolve
  | noMatchingFamily .. => .noMatchingFamily
  | hostNotFound _ => .hostNotFound
  | timedOut .. => .timedOut
  | transport _ => .transport
  | badVersion _ => .protocol
  | truncated _ => .protocol
  | rejected _ => .rejected
  | config _ => .config

/-- Whether the same attempt at the same proxy may succeed later. -/
def isRetryable : DialError → Bool
  | timedOut .. => true
  | transport _ => true
  | rejected why => why.ioKind = .interrupted
  | _ => false

/-- The I/O error underneath, if there is one. -/
def cause? : DialError → Option IoError
  | resolve _ cause => some cause
  | transport cause => some cause
  | _ => none

/-- The I/O error that an error stands for. -/
def toIo (e : DialError) : IoError :=
  match e with
  | resolve _ cause => cause
  | transport cause => cause
  | timedOut .. => ⟨.timedOut, e.message⟩
  | badVersion _ => ⟨.invalidData, e.message⟩
  | truncated _ => ⟨.invalidData, e.message⟩
  | rejected why => ⟨why.ioKind, e.message⟩
  | hostNotFound _ => ⟨.notFound, e.message⟩
  | noMatchingFamily .. => ⟨.notFound, e.message⟩
  | config _ => ⟨.invalidInput, e.message⟩

/-- An error that has an I/O error underneath stands for it. -/
theorem toIo_of_cause?_eq_some {e : DialError} {cause : IoError} (h : e.cause? = some cause) :
    e.toIo = cause := by
  cases e <;> cases h <;> rfl

/-- Any other stands for one with its own message. -/
theorem message_toIo_of_cause?_eq_none {e : DialError} (h : e.cause? = none) :
    e.toIo.message = e.message := by
  cases e <;> first | rfl | cases h

end DialError

/-- Refuse a user id that cannot be sent unchanged. -/
def checkUserId (userId : List UInt8) : Except DialError Unit :=
  (UserId.check userId).mapError fun fault => .config fault.text

end ProxyDial
