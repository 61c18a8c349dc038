import ProxyDial.Address.IPv4
import ProxyDial.Text.Hex

/-!
# IPv6 addresses

An address is eight groups of sixteen bits.  The written form leaves out the
longest run of two or more zero groups, the first one on ties, and writes the
other groups in lower-case hexadecimal without leading zeros.  An address that
maps an IPv4 address is written with a dotted tail instead.

The reader takes more than the written form: groups of up to four digits in
either case, `::` for any run of one or more zero groups, and a dotted tail for
the last two groups of any address.
-/

namespace ProxyDial

/-- An IPv6 address. -/
structure IPv6 where
  /-- The groups, most significant one first. -/
  groups : List UInt16
  /-- There are eight groups. -/
  length_groups : groups.length = 8
deriving DecidableEq, Repr

namespace IPv6

instance : Inhabited IPv6 := ⟨⟨List.replicate 8 0, rfl⟩⟩

/-- Whether an address means something on one link or one interface only: a link-local
address, or a group of receivers there. -/
def isLocal (ip : IPv6) : Bool :=
  match ip.groups with
  | [] => false
  | g :: _ =>
    let groupScope := g.toNat % 0x10
    g.toNat / 0x40 = 0x3fa || (g.toNat / 0x100 = 0xff && (groupScope = 1 || groupScope = 2))

/-! ## Writing -/

/-- The octets of the last two groups of an address that maps an IPv4 address. -/
def mapped? (ip : IPv6) : Option IPv4 :=
  match ip.groups with
  | [0, 0, 0, 0, 0, 0xffff, g, h] =>
    some ⟨.ofNat (g.toNat / 256), .ofNat g.toNat, .ofNat (h.toNat / 256), .ofNat h.toNat⟩
  | _ => none

/-- A run of zero groups. -/
structure ZeroRun where
  /-- The number of groups before the run. -/
  start : Nat
  /-- The number of groups in the run. -/
  length : Nat
deriving DecidableEq, Repr

/-- The longest run of zero groups, the first one on ties.  `before` groups stand
before the list. -/
def longestRun (before : Nat) : List UInt16 → ZeroRun
  | [] => ⟨before, 0⟩
  | g :: gs =>
    let here := ((g :: gs).takeWhile (· = 0)).length
    let later := longestRun (before + 1) gs
    if later.length ≤ here then ⟨before, here⟩ else later

/-- Groups in hexadecimal with colons between them. -/
def colonText (gs : List UInt16) : List Char :=
  join ':' (gs.map fun g => Nat.toDigits 16 g.toNat)

/-- The text of an address, as characters. -/
def chars (ip : IPv6) : List Char :=
  match ip.mapped? with
  | some v4 => "::ffff:".toList ++ v4.chars
  | none =>
    let run := longestRun 0 ip.groups
    if 2 ≤ run.length then
      colonText (ip.groups.take run.start) ++ ':' :: ':' ::
        colonText (ip.groups.drop (run.start + run.length))
    else colonText ip.groups

/-- The text of an address. -/
def text (ip : IPv6) : String := .ofList ip.chars

/-! ## Reading -/

/-- A group of one to four hexadecimal digits. -/
def group? (cs : List Char) : Option UInt16 :=
  if cs ≠ [] ∧ cs.length ≤ 4 then (Hex.number? cs).map .ofNat else none

/-- The two groups that hold an IPv4 address. -/
def groupsOf (ip : IPv4) : List UInt16 :=
  [.ofNat (256 * ip.a.toNat + ip.b.toNat), .ofNat (256 * ip.c.toNat + ip.d.toNat)]

/-- The groups that pieces write.  With `tail`, the last piece may be dotted. -/
def groupsOfPieces? (tail : Bool) : List (List Char) → Option (List UInt16)
  | [] => some []
  | [p] =>
    if tail ∧ p.contains '.' then (IPv4.ofChars? p).map groupsOf
    else (group? p).map ([·])
  | p :: ps => do return (← group? p) :: (← groupsOfPieces? tail ps)

/-- The groups of a text without `::`.  The empty text has none. -/
def groups? (tail : Bool) (cs : List Char) : Option (List UInt16) :=
  if cs = [] then some [] else groupsOfPieces? tail (pieces ':' cs)

/-- The parts before and after the first `::`. -/
def splitElision : List Char → Option (List Char × List Char)
  | [] => none
  | [_] => none
  | c :: c' :: cs =>
    if c = ':' ∧ c' = ':' then some ([], cs)
    else (splitElision (c' :: cs)).map fun (head, tail) => (c :: head, tail)

/-- The address with these groups, if there are eight. -/
def ofGroups? (gs : List UInt16) : Option IPv6 :=
  if h : gs.length = 8 then some ⟨gs, h⟩ else none

/-- The address that a text writes. -/
def ofChars? (cs : List Char) : Option IPv6 :=
  match splitElision cs with
  | none => if cs = [] then none else groups? true cs >>= ofGroups?
  | some (head, tail) => do
    let high ← groups? false head
    let low ← groups? true tail
    if high.length + low.length ≤ 7 then
      ofGroups? (high ++ List.replicate (8 - high.length - low.length) 0 ++ low)
    else none

/-- The loopback address `::1`. -/
def loopback : IPv6 := ⟨[0, 0, 0, 0, 0, 0, 0, 1], rfl⟩

example : ofChars? "::1".toList = some loopback := by decide
example : ofChars? "0:0:0:0:0:0:0.0.0.1".toList = some loopback := by decide
example : ofChars? "1:2:3:4:5:6:7::".toList = some ⟨[1, 2, 3, 4, 5, 6, 7, 0], rfl⟩ := by decide
example : ofChars? "1::2::3".toList = none := by decide
example : ofChars? "1.2.3.4::".toList = none := by decide
example : ofChars? ":1".toList = none := by decide
example : loopback.chars = "::1".toList := by decide
example : (⟨[1, 0, 0, 2, 0, 0, 3, 4], rfl⟩ : IPv6).chars = "1::2:0:0:3:4".toList := by decide
example : (⟨[0, 0, 0, 0, 0, 0xffff, 0x102, 0x304], rfl⟩ : IPv6).chars
    = "::ffff:1.2.3.4".toList := by decide

end IPv6

end ProxyDial
