import ProxyDial.DialError

/-!
# Requests

A request is `VN CD PORT ADDRESS USERID NUL`: the version, the command, the port
in two bytes with the high one first, the address in four, the user id and a NUL.
The user id ends at its first NUL (`untilNul?_append`), so a request that holds
none is read back whole, whatever bytes follow.
-/

namespace ProxyDial

/-- A request to a proxy. -/
structure Request where
  /-- The command. -/
  command : UInt8
  /-- The port of the target. -/
  port : UInt16
  /-- The address of the target. -/
  ip : IPv4
  /-- The user id, without its NUL. -/
  userId : List UInt8
deriving DecidableEq, Repr

namespace Request

/-- The version that requests start with. -/
def version : UInt8 := 4

/-- The command that asks for a connection. -/
def connectCommand : UInt8 := 1

/-- The length of what stands before the user id. -/
def headerLength : Nat := 8

/-- A request to connect to a target. -/
def connect (ip : IPv4) (port : UInt16) (userId : List UInt8) : Request :=
  ⟨connectCommand, port, ip, userId⟩

/-- The length of the written request. -/
def encodedLength (r : Request) : Nat := headerLength + r.userId.length + 1

/-- The two bytes of a port, high byte first. -/
def portBytes (port : UInt16) : List UInt8 := [.ofNat (port.toNat / 256), .ofNat port.toNat]

/-- The port of two bytes, high byte first. -/
def portOf (high low : UInt8) : UInt16 := .ofNat (256 * high.toNat + low.toNat)

/-- The bytes of a request. -/
def encode (r : Request) : List UInt8 :=
  version :: r.command :: (portBytes r.port ++ r.ip.octets ++ r.userId ++ [0])

/-- The bytes before the first NUL, if there is one. -/
def untilNul? : List UInt8 → Option (List UInt8)
  | [] => none
  | b :: bs => if b = 0 then some [] else (untilNul? bs).map (b :: ·)

/-- Read a request as a proxy does.  Bytes after the user id's NUL are not looked
at. -/
def decode (bytes : List UInt8) : Except DialError Request :=
  match bytes with
  | vn :: cd :: high :: low :: a :: b :: c :: d :: first :: rest =>
    if vn ≠ version then .error (.badVersion vn)
    else
      match untilNul? (first :: rest) with
      | none => .error (.truncated bytes.length)
      | some userId => .ok ⟨cd, portOf high low, ⟨a, b, c, d⟩, userId⟩
  | _ => .error (.truncated bytes.length)

theorem length_encode (r : Request) : r.encode.length = r.encodedLength := by
  simp [encode, encodedLength, portBytes, IPv4.octets, headerLength]; omega

theorem portOf_portBytes (port : UInt16) :
    portOf (.ofNat (port.toNat / 256)) (.ofNat port.toNat) = port := by
  have h := port.toNat_lt
  apply UInt16.toNat_inj.1
  simp only [portOf, UInt16.toNat_ofNat', UInt8.toNat_ofNat']
  omega

theorem untilNul?_append (userId rest : List UInt8) (h : 0 ∉ userId) :
    untilNul? (userId ++ 0 :: rest) = some userId := by
  induction userId with
  | nil => rfl
  | cons b bs ih =>
    simp only [List.mem_cons, not_or] at h
    have hb : b ≠ 0 := fun e => h.1 e.symm
    simp [untilNul?, hb, ih h.2]

end Request

end ProxyDial
