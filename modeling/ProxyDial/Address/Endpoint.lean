import ProxyDial.Address.IPv6

/-!
# IP addresses and endpoints

An endpoint is an address with a port, and for IPv6 a scope that tells the links
of one host apart.  Two endpoints that differ in scope are different.

A host name that is the text of an address, bare or in one pair of brackets, is a
*literal* (`Ip.literal?`).
-/

namespace ProxyDial

/-- An address of either family. -/
inductive Ip where
  /-- An IPv4 address. -/
  | v4 (ip : IPv4)
  /-- An IPv6 address.  One that maps an IPv4 address is of this family. -/
  | v6 (ip : IPv6)
deriving DecidableEq, Repr, Inhabited

namespace Ip

/-- The text of an address. -/
def text : Ip → String
  | v4 ip => ip.text
  | v6 ip => ip.text

/-- The address that a text writes. -/
def ofChars? (cs : List Char) : Option Ip :=
  match IPv4.ofChars? cs with
  | some ip => some (v4 ip)
  | none => (IPv6.ofChars? cs).map v6

/-- A text without its enclosing pair of brackets, if it has one. -/
def unbracket : List Char → List Char
  | '[' :: cs => if cs.getLast? = some ']' then cs.dropLast else '[' :: cs
  | cs => cs

/-- The address a host name is the text of. -/
def literal? (host : String) : Option Ip := ofChars? (unbracket host.toList)

end Ip

/-- An address and port that can be connected to. -/
inductive Endpoint where
  /-- An IPv4 endpoint. -/
  | v4 (ip : IPv4) (port : UInt16)
  /-- An IPv6 endpoint.  Scope zero is none. -/
  | v6 (ip : IPv6) (port : UInt16) (scope : UInt32)
deriving DecidableEq, Repr, Inhabited

namespace Endpoint

/-- The address of an endpoint. -/
def ip : Endpoint → Ip
  | v4 ip _ => .v4 ip
  | v6 ip _ _ => .v6 ip

/-- An address with a port and no scope. -/
def of : Ip → UInt16 → Endpoint
  | .v4 ip, port => v4 ip port
  | .v6 ip, port => v6 ip port 0

/-- The text of an endpoint.  IPv6 stands in brackets, with the scope after a
percent sign unless it is zero. -/
def text : Endpoint → String
  | v4 ip port => s!"{ip.text}:{port.toNat}"
  | v6 ip port scope =>
    if scope = 0 then s!"[{ip.text}]:{port.toNat}"
    else s!"[{ip.text}%{scope.toNat}]:{port.toNat}"

/-- A number below a limit, with any leading zeros. -/
def numberBelow? (limit : Nat) (cs : List Char) : Option Nat := do
  let n ← Decimal.digits? cs
  if n < limit then some n else none

/-- The part of a list before its first `c` and the part after, if there is
one. -/
def cutAt? (c : Char) : List Char → Option (List Char × List Char)
  | [] => none
  | x :: xs => if x = c then some ([], xs) else (cutAt? c xs).map fun (l, r) => (x :: l, r)

/-- The endpoint that a text writes. -/
def ofChars? : List Char → Option Endpoint
  | '[' :: cs => do
    let (host, rest) ← cutAt? ']' cs
    let portText ← match rest with
      | ':' :: portText => some portText
      | _ => none
    let port ← numberBelow? UInt16.size portText
    match cutAt? '%' host with
    | none => return v6 (← IPv6.ofChars? host) (.ofNat port) 0
    | some (ip, scope) =>
      return v6 (← IPv6.ofChars? ip) (.ofNat port) (.ofNat (← numberBelow? UInt32.size scope))
  | cs => do
    let (ip, portText) ← cutAt? ':' cs
    return v4 (← IPv4.ofChars? ip) (.ofNat (← numberBelow? UInt16.size portText))

theorem ip_of (ip : Ip) (port : UInt16) : (of ip port).ip = ip := by cases ip <;> rfl

example : ofChars? "10.0.0.1:080".toList = some (v4 ⟨10, 0, 0, 1⟩ 80) := by decide
example : ofChars? "[::1%3]:22".toList = some (v6 IPv6.loopback 22 3) := by decide
example : ofChars? "::1:22".toList = none := by decide

end Endpoint

end ProxyDial
