import ProxyDial.Address.Endpoint

/-!
# Numeric host names

Besides literals, the system's resolver reads two numeric forms without asking a
name server.

* An IPv4 address of one to four parts.  The last part fills the bits that the
  others leave.  A part is decimal, octal after a leading `0`, or hexadecimal after
  `0x`.
* An IPv6 address followed by `%` and the number of its scope.  An address that means
  something on one link only may have the name of an interface there instead.  The
  only name known is that of the loopback interface.
-/

namespace ProxyDial.Numeric

/-- The number that digits below a base write. -/
def number? (base : Nat) (cs : List Char) : Option Nat :=
  cs.foldlM (fun n c => do
    let d ← Hex.digit? c
    if d < base then some (base * n + d) else none) 0

/-- A part of an IPv4 address. -/
def part? : List Char → Option Nat
  | [] => none
  | '0' :: x :: d :: cs =>
    if x = 'x' ∨ x = 'X' then number? 16 (d :: cs) else number? 8 (x :: d :: cs)
  | '0' :: cs => number? 8 cs
  | cs => number? 10 cs

/-- The value of the parts of an IPv4 address, where `bits` bits are left to
fill. -/
def value? : Nat → List Nat → Option Nat
  | _, [] => none
  | bits, [last] => if last < 2 ^ bits then some last else none
  | bits, n :: rest =>
    if n < 256 then (value? (bits - 8) rest).map (n * 2 ^ (bits - 8) + ·) else none

/-- An IPv4 address in parts. -/
def ipv4? (cs : List Char) : Option IPv4 := do
  let parts ← (pieces '.' cs).mapM part?
  if parts.length ≤ 4 then (value? 32 parts).map .ofNat else none

/-- The scope of an IPv6 address. -/
def scope? (ip : IPv6) (cs : List Char) : Option Nat :=
  if ip.isLocal && cs = ['l', 'o'] then some 1 else Endpoint.numberBelow? UInt32.size cs

/-- The endpoint that a numeric host name and a port make. -/
def endpoint? (host : String) (port : UInt16) : Option Endpoint :=
  match ipv4? host.toList with
  | some ip => some (.v4 ip port)
  | none =>
    match Endpoint.cutAt? '%' host.toList with
    | none => none
    | some (address, scope) => do
      let ip ← IPv6.ofChars? address
      return .v6 ip port (.ofNat (← scope? ip scope))

example : ipv4? "127.1".toList = some ⟨127, 0, 0, 1⟩ := by decide
example : ipv4? "0x7f000001".toList = some ⟨127, 0, 0, 1⟩ := by decide
example : ipv4? "1.2.772".toList = some ⟨1, 2, 3, 4⟩ := by decide
example : ipv4? "0377.1".toList = some ⟨255, 0, 0, 1⟩ := by decide
example : ipv4? "08.1".toList = none := by decide
example : ipv4? "1.2.3.4.5".toList = none := by decide
example : ipv4? "0x".toList = none := by decide
example : ipv4? "4294967296".toList = none := by decide

end ProxyDial.Numeric
