import ProxyDial.Address.Endpoint

/-!
# Address families

A family is a filter on endpoints.  Filtering keeps the order
(`filter_sublist`), and each address is of exactly one of the two single
families (`v6Only_admits`).
-/

namespace ProxyDial

/-- Which addresses an attempt may use. -/
inductive Family where
  /-- Addresses of both families. -/
  | any
  /-- IPv4 addresses alone. -/
  | v4Only
  /-- IPv6 addresses alone. -/
  | v6Only
deriving DecidableEq, Repr, Inhabited

namespace Family

/-- Whether the family holds an address. -/
def admits : Family → Ip → Bool
  | any, _ => true
  | v4Only, .v4 _ => true
  | v4Only, .v6 _ => false
  | v6Only, .v4 _ => false
  | v6Only, .v6 _ => true

/-- The endpoints of the family, in order. -/
def filter (f : Family) (endpoints : List Endpoint) : List Endpoint :=
  endpoints.filter fun e => f.admits e.ip

/-- The family in messages. -/
def text : Family → String
  | any => "IPv4 or IPv6"
  | v4Only => "IPv4"
  | v6Only => "IPv6"

/-- The family in options. -/
def name : Family → String
  | any => "any"
  | v4Only => "v4_only"
  | v6Only => "v6_only"

/-- The family with this name in options. -/
def ofName? (s : String) : Option Family :=
  if s = "any" then some any
  else if s = "v4_only" then some v4Only
  else if s = "v6_only" then some v6Only
  else none

theorem ofName?_name (f : Family) : ofName? f.name = some f := by cases f <;> decide

theorem filter_sublist (f : Family) (endpoints : List Endpoint) :
    (f.filter endpoints).Sublist endpoints := List.filter_sublist

/-- Each address is of exactly one of the two single families. -/
theorem v6Only_admits (ip : Ip) : v6Only.admits ip = !v4Only.admits ip := by cases ip <;> rfl

end Family

end ProxyDial
