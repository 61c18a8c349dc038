import ProxyDial.Address.Endpoint
import ProxyDial.Text.LowerCase

/-!
# Host tables

A host table lists addresses by host name, where names that agree in lower case are
one name.  Adding appends: `lookup?_add` says that a name has the addresses of all
that was added under it, in order.
-/

namespace ProxyDial

/-- Addresses by host name. -/
structure HostTable where
  /-- The names in lower case, each with its addresses. -/
  entries : List (String × List Ip) := []

namespace HostTable

/-- The table without entries. -/
def empty : HostTable := {}

/-- Append addresses to the entry of a name in lower case, or make a new entry. -/
def addEntry (name : String) (ips : List Ip) : List (String × List Ip) → List (String × List Ip)
  | [] => [(name, ips)]
  | (other, known) :: entries =>
    if other = name then (other, known ++ ips) :: entries
    else (other, known) :: addEntry name ips entries

/-- Add addresses of a host, after those it has. -/
def add (t : HostTable) (host : String) (ips : List Ip) : HostTable :=
  ⟨addEntry (LowerCase.lower host) ips t.entries⟩

/-- The addresses of the entry of a name in lower case. -/
def find? (name : String) : List (String × List Ip) → Option (List Ip)
  | [] => none
  | (other, known) :: entries => if other = name then some known else find? name entries

/-- The addresses of a host, if anything was ever added under its name. -/
def lookup? (t : HostTable) (host : String) : Option (List Ip) :=
  find? (LowerCase.lower host) t.entries

theorem find?_addEntry (name other : String) (ips : List Ip) (entries : List (String × List Ip)) :
    find? other (addEntry name ips entries)
      = if name = other then some ((find? name entries).getD [] ++ ips)
        else find? other entries := by
  induction entries with
  | nil =>
    by_cases h : name = other
    · subst h; simp [addEntry, find?]
    · simp [addEntry, find?, h]
  | cons e entries ih =>
    obtain ⟨known, old⟩ := e
    by_cases hk : known = name
    · subst hk
      by_cases h : known = other
      · subst h; simp [addEntry, find?]
      · simp [addEntry, find?, h]
    · by_cases h : name = other
      · subst h; simp [addEntry, find?, hk, ih]
      · by_cases ho : known = other
        · subst ho; simp [addEntry, find?, hk, h]
        · simp [addEntry, find?, hk, ho, h, ih]

/-- What a name has after an addition. -/
theorem lookup?_add (t : HostTable) (host other : String) (ips : List Ip) :
    (t.add host ips).lookup? other
      = if LowerCase.lower host = LowerCase.lower other then
          some ((t.lookup? host).getD [] ++ ips)
        else t.lookup? other :=
  find?_addEntry ..

end HostTable

end ProxyDial
