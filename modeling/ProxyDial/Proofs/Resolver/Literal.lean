import ProxyDial.Proofs.Address.Literal
import ProxyDial.Resolver.Basic

/-!
# Literals are their own answers

The resolvers that read literals answer the text of an address with that address, bare or in
brackets, and neither a host table nor a name server can change that
(`Resolver.literalOr_of_literal`).  The answer is empty if the family does not admit the
address.

An IPv4 address has one literal without brackets, its dotted text.  An IPv6 address has many, of
which its text is one.
-/

namespace ProxyDial.Resolver

variable {host : String} {ip : Ip}

/-- The answer to a lookup of an address in a family. -/
def ownAnswer (ip : Ip) (port : UInt16) (family : Family) : Lookup :=
  { answer := .ok (if family.admits ip then [.of ip port] else []) }

theorem filter_of (family : Family) (ip : Ip) (port : UInt16) :
    family.filter [.of ip port] = if family.admits ip then [.of ip port] else [] := by
  rw [Family.filter, List.filter_cons, Endpoint.ip_of, List.filter_nil]

theorem literalOr_of_literal (h : Ip.literal? host = some ip) (other : Resolver) (port : UInt16)
    (family : Family) : (literalOr other).lookup host port family = ownAnswer ip port family := by
  rw [literalOr_of_some h, filter_of, ownAnswer]

/-- A host that is not in brackets. -/
def Unbracketed (host : String) : Prop := ∀ inner, host ≠ "[" ++ inner ++ "]"

/-- The text of an address resolves to the address, bare or in brackets and whatever a table has
under it.  For IPv4 there is no other literal, and for IPv6 the literals are the spellings of the
address. -/
theorem literals_resolve :
    (∀ (ip : Ip) (port : UInt16) (family : Family) (table : HostTable) (names : NameLookup),
      ∀ host ∈ [ip.text, "[" ++ ip.text ++ "]"],
        (ofTable table).lookup host port family = ownAnswer ip port family ∧
        (system names).lookup host port family = ownAnswer ip port family) ∧
    -- The texts are the dotted one and the one by the rules of `IPv6.Written`.
    (∀ v4 : IPv4, v4.text.toList = Decimal.write v4.a.toNat ++ '.' :: (Decimal.write v4.b.toNat ++
      '.' :: (Decimal.write v4.c.toNat ++ '.' :: Decimal.write v4.d.toNat))) ∧
    (∀ (v6 : IPv6) (text : List Char), v6.Written text ↔ text = v6.text.toList) ∧
    -- Nothing else is a literal.
    (∀ (host : String) (ip : Ip), Ip.literal? host = some ip ↔
      Ip.Spelling host.toList ip ∨ ∃ text, host.toList = '[' :: (text ++ [']']) ∧
        Ip.Spelling text ip) ∧
    (∀ (host : String) (v4 : IPv4), Ip.literal? host = some (.v4 v4) ↔
      host = v4.text ∨ host = "[" ++ v4.text ++ "]") ∧
    ∀ (host host' : String) (v4 : IPv4), Unbracketed host → Unbracketed host' →
      Ip.literal? host = some (.v4 v4) → Ip.literal? host' = some (.v4 v4) → host = host' := by
  refine ⟨?own, fun v4 => String.toList_ofList, ?written, fun _ _ => Ip.literal?_eq_some_iff,
    fun _ _ => Ip.literal?_eq_v4_iff, ?unique⟩
  case own =>
    intro ip port family table names host hhost
    have hliteral : Ip.literal? host = some ip := by
      simp only [List.mem_cons, List.not_mem_nil, or_false] at hhost
      rcases hhost with rfl | rfl
      · exact ip.literal?_text
      · exact ip.literal?_brackets_text
    exact ⟨literalOr_of_literal hliteral _ port family, literalOr_of_literal hliteral _ port family⟩
  case written =>
    intro v6 text
    rw [IPv6.written_iff, IPv6.text, String.toList_ofList]
  case unique =>
    have hbare {host : String} {v4 : IPv4} (hunbracketed : Unbracketed host)
        (h : Ip.literal? host = some (.v4 v4)) : host = v4.text :=
      (Ip.literal?_eq_v4_iff.1 h).resolve_right (hunbracketed _)
    intro host host' v4 hhost hhost' h h'
    rw [hbare hhost h, hbare hhost' h']

/-- An IPv6 address that maps an IPv4 address is of the family of the former, also where a table
has its text, and only the text of the latter is a literal for that one. -/
theorem literals_resolve_mapped :
    let v6 : IPv6 := ⟨[0, 0, 0, 0, 0, 0xffff, 0x102, 0x304], rfl⟩
    let table := HostTable.empty.add "[::ffff:1.2.3.4]" [.v4 ⟨9, 9, 9, 9⟩]
    (ofTable table).lookup "[::ffff:1.2.3.4]" 80 .v6Only = { answer := .ok [.v6 v6 80 0] } ∧
      (system NameLookup.numeric).lookup "::ffff:1.2.3.4" 80 .v4Only = { answer := .ok [] } ∧
      (∀ host, Unbracketed host → Ip.literal? host = some (.v4 ⟨1, 2, 3, 4⟩) →
        host = "1.2.3.4") := by
  intro v6 table
  obtain ⟨hown, -, -, -, -, hunique⟩ := literals_resolve
  have htext : (Ip.v6 v6).text = "::ffff:1.2.3.4" := by decide +kernel
  refine ⟨?_, ?_, ?_⟩
  · exact (hown (.v6 v6) 80 .v6Only table .numeric "[::ffff:1.2.3.4]" (by rw [htext]; simp)).1
  · exact (hown (.v6 v6) 80 .v4Only table .numeric "::ffff:1.2.3.4" (by rw [htext]; simp)).2
  · intro host hhost hliteral
    refine hunique host "1.2.3.4" ⟨1, 2, 3, 4⟩ hhost ?_ hliteral (by decide)
    intro inner hinner
    have hhead := congrArg (fun s : String => s.toList.head?) hinner
    rw [Ip.toList_brackets] at hhead
    simp at hhead

end ProxyDial.Resolver
