import ProxyDial.DialError
import ProxyDial.Resolver.HostTable
import ProxyDial.Resolver.Numeric

/-!
# Resolvers

A resolver answers lookups of a host, port and family.  An answer comes after a
delay or never, and it is a list of endpoints or an error.  A list without
endpoints is an answer too.

The system's resolver and the one of a host table read a literal themselves, so a
table cannot rename an address.  What the operating system says about other hosts is a
parameter of the former (`NameLookup`).  Nothing obliges another resolver to keep to the
family or the port that it is asked for.
-/

namespace ProxyDial

/-- The endpoints of a list, each at its first occurrence. -/
def firstOccurrences : List Endpoint → List Endpoint
  | [] => []
  | e :: rest => e :: (firstOccurrences rest).filter (· ≠ e)

/-- An answer to a lookup. -/
abbrev Answer := Except DialError (List Endpoint)

/-- A lookup that is answered after a while. -/
structure Lookup where
  /-- The time that it takes in milliseconds, or none if no answer ever comes. -/
  delay : Option Nat := some 0
  /-- The answer. -/
  answer : Answer

/-- How the operating system looks up a host and a port: how many milliseconds it takes, or none
if it never answers, and what it answers. -/
abbrev NameLookup := String → UInt16 → Option Nat × Except IoError (List Endpoint)

/-- The lookup of a machine that knows no name server.  It knows the numeric forms. -/
def NameLookup.numeric : NameLookup := fun host port =>
  (some 0,
    if '\x00' ∈ host.toList then .error .nulInName
    else
      match Numeric.endpoint? host port with
      | some e => .ok [e]
      | none => .error .unknownName)

/-- A way to look up hosts. -/
structure Resolver where
  /-- Look up the endpoints of a host and port in a family. -/
  lookup (host : String) (port : UInt16) (family : Family) : Lookup

namespace Resolver

/-- The resolver that answers every lookup at once by a function. -/
def ofAnswer (answer : String → UInt16 → Family → Answer) : Resolver :=
  ⟨fun host port family => { answer := answer host port family }⟩

/-- A resolver that reads literals itself and leaves the other hosts to `other`. -/
def literalOr (other : Resolver) : Resolver where
  lookup host port family :=
    match Ip.literal? host with
    | some ip => { answer := .ok (family.filter [.of ip port]) }
    | none => other.lookup host port family

/-- The lookup of a host that is no literal by the operating system.  An endpoint that it
gives twice counts once. -/
def ofNames (names : NameLookup) : Resolver where
  lookup host port family :=
    { delay := (names host port).1
      answer :=
        match (names host port).2 with
        | .ok endpoints => .ok (firstOccurrences (family.filter endpoints))
        | .error e => .error (.resolve host e) }

/-- The resolver of the operating system. -/
def system (names : NameLookup) : Resolver := literalOr (ofNames names)

/-- The lookup of a host that is no literal in a table. -/
def tableAnswer (table : HostTable) (host : String) (port : UInt16) (family : Family) : Answer :=
  match table.lookup? host with
  | some ips => .ok (family.filter (ips.map fun ip => .of ip port))
  | none => .error (.resolve host .noMapping)

/-- The resolver of a host table. -/
def ofTable (table : HostTable) : Resolver := literalOr (ofAnswer (tableAnswer table))

/-- The resolver that knows no endpoints. -/
def empty : Resolver := ofAnswer fun _ _ _ => .ok []

/-- The resolver that gives the same endpoints whatever it is asked. -/
def fixed (endpoints : List Endpoint) : Resolver := ofAnswer fun _ _ _ => .ok endpoints

/-- The resolver that always fails in the same way, for callers that try out failures. -/
def failing (e : DialError) : Resolver := ofAnswer fun _ _ _ => .error e

/-- A resolver that takes the given time for each answer. -/
def delayed (delay : Option Nat) (r : Resolver) : Resolver :=
  ⟨fun host port family => { r.lookup host port family with delay }⟩

end Resolver

theorem Resolver.literalOr_of_some {host : String} {ip : Ip} (h : Ip.literal? host = some ip)
    (other : Resolver) (port : UInt16) (family : Family) :
    (literalOr other).lookup host port family =
      { answer := .ok (family.filter [.of ip port]) } := by
  simp only [literalOr, h]

theorem Resolver.literalOr_of_none {host : String} (h : Ip.literal? host = none)
    (other : Resolver) (port : UInt16) (family : Family) :
    (literalOr other).lookup host port family = other.lookup host port family := by
  simp only [literalOr, h]

theorem mem_firstOccurrences (e : Endpoint) (endpoints : List Endpoint) :
    e ∈ firstOccurrences endpoints ↔ e ∈ endpoints := by
  induction endpoints with
  | nil => rfl
  | cons x rest ih =>
    by_cases h : e = x
    · simp [firstOccurrences, h]
    · simp [firstOccurrences, h, ih]

end ProxyDial
