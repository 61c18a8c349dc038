import ProxyDial.Text.Decimal
import ProxyDial.Text.Pieces

/-!
# IPv4 addresses

An address is four octets.  Its text is the octets in decimal with dots between
them, and that is the only text read back: an octet has no leading zero, no sign
and no blank.
-/

namespace ProxyDial

/-- An IPv4 address. -/
structure IPv4 where
  /-- The first octet, the most significant one. -/
  a : UInt8
  /-- The second octet. -/
  b : UInt8
  /-- The third octet. -/
  c : UInt8
  /-- The last octet. -/
  d : UInt8
deriving DecidableEq, Repr, Inhabited

namespace IPv4

/-- The four octets in network order. -/
def octets (ip : IPv4) : List UInt8 := [ip.a, ip.b, ip.c, ip.d]

/-- The address with a given 32-bit value, most significant octet first. -/
def ofNat (n : Nat) : IPv4 :=
  ⟨.ofNat (n / 0x1000000), .ofNat (n / 0x10000), .ofNat (n / 0x100), .ofNat n⟩

/-- The dotted text, as characters. -/
def chars (ip : IPv4) : List Char :=
  join '.' (ip.octets.map fun o => Decimal.write o.toNat)

/-- The dotted text. -/
def text (ip : IPv4) : String := .ofList ip.chars

/-- An octet in its only written form. -/
def octet? (cs : List Char) : Option UInt8 := do
  let n ← Decimal.plain? cs
  if n < 256 then some (.ofNat n) else none

/-- The address whose dotted text this is. -/
def ofChars? (cs : List Char) : Option IPv4 :=
  match pieces '.' cs with
  | [a, b, c, d] => return ⟨← octet? a, ← octet? b, ← octet? c, ← octet? d⟩
  | _ => none

example : ofChars? "127.0.0.1".toList = some ⟨127, 0, 0, 1⟩ := by decide
example : ofChars? "127.0.0.01".toList = none := by decide
example : ofChars? "127.0.1".toList = none := by decide
example : ofChars? "256.0.0.1".toList = none := by decide
example : (⟨10, 0, 0, 255⟩ : IPv4).chars = "10.0.0.255".toList := by decide

end IPv4

end ProxyDial
