import ProxyDial.Proofs.Address.LetterCase
import ProxyDial.Resolver.Basic

/-!
# Host tables and their histories

The history of a host table is the list of its additions.  A name has what was added under it,
in order, and is missing only if nothing ever was, not even an empty list
(`HostTable.lookup?_ofAdds`).  So histories that add the same under every name make the same
resolver (`Resolver.ofTable_ofAdds_congr`).
-/

namespace ProxyDial

/-- An addition to a host table. -/
structure Addition where
  /-- The name, in any case. -/
  name : String
  /-- The addresses to append to those that the name has. -/
  ips : List Ip

namespace HostTable

variable {host host' : String} {adds adds' : List Addition}

/-- The table with these additions, the first one made first. -/
def ofAdds (adds : List Addition) : HostTable :=
  adds.foldl (fun t add => t.add add.name add.ips) .empty

/-- What is added under the name of a host, addition by addition. -/
def addedUnder (host : String) (adds : List Addition) : List (List Ip) :=
  (adds.filter fun add => LowerCase.lower add.name = LowerCase.lower host).map Addition.ips

@[simp] theorem addedUnder_nil (host : String) : addedUnder host [] = [] := rfl

@[simp] theorem addedUnder_cons (host : String) (add : Addition) (adds : List Addition) :
    addedUnder host (add :: adds) =
      if LowerCase.lower add.name = LowerCase.lower host then add.ips :: addedUnder host adds
      else addedUnder host adds := by
  simp only [addedUnder, List.filter_cons, decide_eq_true_iff]
  split <;> rfl

@[simp] theorem addedUnder_append (host : String) (adds adds' : List Addition) :
    addedUnder host (adds ++ adds') = addedUnder host adds ++ addedUnder host adds' := by
  rw [addedUnder, List.filter_append, List.map_append, addedUnder, addedUnder]

theorem addedUnder_ne_nil_iff : addedUnder host adds ≠ [] ↔
    ∃ add ∈ adds, LowerCase.lower add.name = LowerCase.lower host := by
  simp [addedUnder]

/-- All parts of an addition are made under its name, or none is. -/
theorem addedUnder_parts (host name : String) (parts : List (List Ip)) :
    addedUnder host (parts.map (Addition.mk name)) =
      if LowerCase.lower name = LowerCase.lower host then parts else [] := by
  induction parts with
  | nil => rw [List.map_nil, addedUnder_nil, ite_self]
  | cons ips parts ih =>
    rw [List.map_cons, addedUnder_cons, ih]
    split <;> rfl

theorem lookup?_congr (h : LowerCase.lower host = LowerCase.lower host') (t : HostTable) :
    t.lookup? host = t.lookup? host' := by
  rw [lookup?, lookup?, h]

theorem ofAdds_concat (adds : List Addition) (add : Addition) :
    ofAdds (adds ++ [add]) = (ofAdds adds).add add.name add.ips := by
  rw [ofAdds, List.foldl_append, List.foldl_cons, List.foldl_nil, ofAdds]

theorem lookup?_ofAdds (host : String) (adds : List Addition) :
    (ofAdds adds).lookup? host =
      if addedUnder host adds = [] then none else some (addedUnder host adds).flatten := by
  induction adds using List.reverseRecOn with
  | nil => rfl
  | append_singleton adds add ih =>
    rw [ofAdds_concat, lookup?_add, addedUnder_append, addedUnder_cons, addedUnder_nil]
    split
    · rename_i hname
      have hknown : ((ofAdds adds).lookup? add.name).getD [] = (addedUnder host adds).flatten := by
        rw [lookup?_congr hname, ih]
        split
        · rename_i hnone
          rw [hnone]
          rfl
        · rfl
      rw [hknown, if_neg (List.append_ne_nil_of_right_ne_nil _ (List.cons_ne_nil _ _)),
        List.flatten_concat]
    · rw [List.append_nil, ih]

end HostTable

namespace Resolver

open HostTable

variable {host host' : String} {adds adds' : List Addition}

theorem lookup_ofTable (h : Ip.literal? host = none) (t : HostTable) (port : UInt16)
    (family : Family) :
    (ofTable t).lookup host port family = { answer := tableAnswer t host port family } :=
  literalOr_of_none h _ port family

theorem filter_map_of (family : Family) (port : UInt16) (ips : List Ip) :
    family.filter (ips.map (.of · port)) = (ips.filter family.admits).map (.of · port) := by
  rw [Family.filter, List.filter_map]
  refine congrArg (List.map _) (List.filter_congr fun ip _ => ?_)
  rw [Function.comp_apply, Endpoint.ip_of]

theorem tableAnswer_ofAdds (host : String) (adds : List Addition) (port : UInt16)
    (family : Family) :
    tableAnswer (ofAdds adds) host port family =
      if ∃ add ∈ adds, LowerCase.lower add.name = LowerCase.lower host then
        .ok (((addedUnder host adds).flatten.filter family.admits).map (.of · port))
      else .error (.resolve host .noMapping) := by
  simp only [← addedUnder_ne_nil_iff]
  rw [tableAnswer, lookup?_ofAdds]
  by_cases h : addedUnder host adds = []
  · rw [if_pos h, if_neg (not_not_intro h)]
  · rw [if_neg h, if_pos h, ← filter_map_of]

theorem ofTable_ofAdds_congr
    (hempty : ∀ host, addedUnder host adds = [] ↔ addedUnder host adds' = [])
    (hips : ∀ host, (addedUnder host adds).flatten = (addedUnder host adds').flatten) :
    ofTable (ofAdds adds) = ofTable (ofAdds adds') := by
  have hanswer : tableAnswer (ofAdds adds) = tableAnswer (ofAdds adds') := by
    funext host port family
    simp only [tableAnswer, lookup?_ofAdds, hempty host, hips host]
  rw [ofTable, ofTable, hanswer]

/-- A table holds names in lower case, and a literal has no case. -/
theorem answer_eq_ok_of_sameButCase (h : SameButCase host host') (hhost : IsAscii host)
    {t : HostTable} {port : UInt16} {family : Family} {endpoints : List Endpoint}
    (hok : ((ofTable t).lookup host port family).answer = .ok endpoints) :
    ((ofTable t).lookup host' port family).answer = .ok endpoints := by
  have hlookup := lookup?_congr (LowerCase.lower_eq_of_sameButCase h hhost) t
  have hsame : Ip.literal? host = Ip.literal? host' := Ip.literal?_eq_of_sameButCase h
  cases hliteral : Ip.literal? host' with
  | some ip =>
    rw [ofTable, literalOr_of_some hliteral]
    rwa [ofTable, literalOr_of_some (hsame.trans hliteral)] at hok
  | none =>
    rw [lookup_ofTable hliteral, tableAnswer]
    rw [lookup_ofTable (hsame.trans hliteral), tableAnswer, hlookup] at hok
    cases hips : t.lookup? host' with
    | some ips => rwa [hips] at hok
    | none =>
      rw [hips] at hok
      cases hok

/-- A host table answers by its history alone: all that was added under the name, in order, for
the queried port and family.  A name that was never added is an error with the host as queried,
and a name to which nothing was added is not. -/
theorem table_answers_by_history :
    (∀ (adds : List Addition) (host : String) (port : UInt16) (family : Family),
      Ip.literal? host = none →
        (ofTable (ofAdds adds)).lookup host port family =
          { answer :=
              if ∃ add ∈ adds, LowerCase.lower add.name = LowerCase.lower host then
                .ok (((addedUnder host adds).flatten.filter family.admits).map (.of · port))
              else .error (.resolve host ⟨.notFound, "no mapping for host"⟩) }) ∧
    (∀ (adds : List Addition) (host : String) (port : UInt16) (family : Family),
      Ip.literal? host = none →
        (∃ add ∈ adds, LowerCase.lower add.name = LowerCase.lower host) →
        (∀ add ∈ adds, LowerCase.lower add.name = LowerCase.lower host → add.ips = []) →
          (ofTable (ofAdds adds)).lookup host port family = { answer := .ok [] }) ∧
    -- Additions under different names commute.
    (∀ (before after : List Addition) (add add' : Addition),
      LowerCase.lower add.name ≠ LowerCase.lower add'.name →
        ofTable (ofAdds (before ++ add :: add' :: after)) =
          ofTable (ofAdds (before ++ add' :: add :: after))) ∧
    -- An addition may be made in parts.
    (∀ (before after : List Addition) (name : String) (parts : List (List Ip)), parts ≠ [] →
      ofTable (ofAdds (before ++ parts.map (Addition.mk name) ++ after)) =
        ofTable (ofAdds (before ++ ⟨name, parts.flatten⟩ :: after))) ∧
    -- The case of letters does not matter in an addition, nor for the endpoints of a lookup.
    (∀ (before after : List Addition) (name name' : String) (ips : List Ip),
      IsAscii name → SameButCase name name' →
        ofTable (ofAdds (before ++ ⟨name, ips⟩ :: after)) =
          ofTable (ofAdds (before ++ ⟨name', ips⟩ :: after))) ∧
    ∀ (adds : List Addition) (host host' : String) (port : UInt16) (family : Family)
      (endpoints : List Endpoint), IsAscii host → SameButCase host host' →
        (((ofTable (ofAdds adds)).lookup host port family).answer = .ok endpoints ↔
          ((ofTable (ofAdds adds)).lookup host' port family).answer = .ok endpoints) := by
  refine ⟨?answer, ?nothing, ?commute, ?parts, ?added, ?queried⟩
  case answer =>
    intro adds host port family hhost
    rw [lookup_ofTable hhost, tableAnswer_ofAdds]
    rfl
  case nothing =>
    intro adds host port family hhost hadded hempty
    have hflat : (addedUnder host adds).flatten = [] := by
      simp only [addedUnder, List.flatten_eq_nil_iff, List.forall_mem_map]
      simpa using hempty
    rw [lookup_ofTable hhost, tableAnswer_ofAdds, if_pos hadded, hflat]
    rfl
  case commute =>
    intro before after add add' hne
    have hswap (host : String) : addedUnder host (before ++ add :: add' :: after) =
        addedUnder host (before ++ add' :: add :: after) := by
      simp only [addedUnder_append, addedUnder_cons]
      by_cases h : LowerCase.lower add.name = LowerCase.lower host
      · have h' : LowerCase.lower add'.name ≠ LowerCase.lower host := fun h' =>
          hne (h.trans h'.symm)
        simp only [if_neg h']
      · simp only [if_neg h]
    exact ofTable_ofAdds_congr (fun host => by rw [hswap]) fun host => by rw [hswap]
  case parts =>
    intro before after name parts hparts
    refine ofTable_ofAdds_congr (fun host => ?_) fun host => ?_
    · simp only [addedUnder_append, addedUnder_parts, addedUnder_cons]
      split <;> simp [hparts]
    · simp only [addedUnder_append, addedUnder_parts, addedUnder_cons]
      split <;> simp
  case added =>
    intro before after name name' ips hname hcase
    have hlower := LowerCase.lower_eq_of_sameButCase hcase hname
    have hsame (host : String) : addedUnder host (before ++ ⟨name, ips⟩ :: after) =
        addedUnder host (before ++ ⟨name', ips⟩ :: after) := by
      simp only [addedUnder_append, addedUnder_cons, hlower]
    exact ofTable_ofAdds_congr (fun host => by rw [hsame]) fun host => by rw [hsame]
  case queried =>
    intro adds host host' port family endpoints hhost hcase
    exact ⟨answer_eq_ok_of_sameButCase hcase hhost,
      answer_eq_ok_of_sameButCase hcase.symm (hcase.isAscii hhost)⟩

/-- A name that was added twice, in different cases and with another name in between, has the
addresses of both additions in each case.  A name without addresses is not a missing one. -/
theorem table_answers_by_history_gate :
    let gate : Addition := ⟨"Gate", [.v4 ⟨10, 0, 0, 1⟩]⟩
    let gate' : Addition := ⟨"gATE", [.v6 .loopback, .v4 ⟨10, 0, 0, 1⟩]⟩
    let table := ofAdds [gate, ⟨"Void", []⟩, gate']
    (ofTable table).lookup "GATE" 80 .v4Only =
        { answer := .ok [.v4 ⟨10, 0, 0, 1⟩ 80, .v4 ⟨10, 0, 0, 1⟩ 80] } ∧
      (ofTable table).lookup "VOID" 80 .any = { answer := .ok [] } ∧
      (ofTable table).lookup "Other" 80 .any =
        { answer := .error (.resolve "Other" ⟨.notFound, "no mapping for host"⟩) } ∧
      ofTable table = ofTable (ofAdds [⟨"Void", []⟩, ⟨"Gate", gate.ips ++ gate'.ips⟩]) ∧
      ((ofTable table).lookup "gate" 80 .v4Only).answer =
        .ok [.v4 ⟨10, 0, 0, 1⟩ 80, .v4 ⟨10, 0, 0, 1⟩ 80] := by
  intro gate gate' table
  obtain ⟨hanswer, hnothing, hcommute, hparts, hadded, hqueried⟩ := table_answers_by_history
  have hgate : (ofTable table).lookup "GATE" 80 .v4Only =
        { answer := .ok [.v4 ⟨10, 0, 0, 1⟩ 80, .v4 ⟨10, 0, 0, 1⟩ 80] } := by
    refine (hanswer _ "GATE" 80 .v4Only (by decide +kernel)).trans (congrArg (Lookup.mk _) ?_)
    decide +kernel
  refine ⟨hgate, ?_, ?_, ?_, ?_⟩
  · exact hnothing _ "VOID" 80 .any (by decide +kernel) (by decide +kernel) (by decide +kernel)
  · refine (hanswer _ "Other" 80 .any (by decide +kernel)).trans (congrArg (Lookup.mk _) ?_)
    decide +kernel
  · have hcase := hadded [gate, ⟨"Void", []⟩] [] "gATE" "Gate" gate'.ips (by decide +kernel)
      (by decide +kernel)
    have hswap := hcommute [] [⟨"Gate", gate'.ips⟩] gate ⟨"Void", []⟩ (by decide +kernel)
    have hjoin := hparts [⟨"Void", []⟩] [] "Gate" [gate.ips, gate'.ips] (by decide)
    exact hcase.trans (hswap.trans hjoin)
  · exact (hqueried _ "GATE" "gate" 80 .v4Only _ (by decide +kernel) (by decide +kernel)).1
      (congrArg Lookup.answer hgate)

end Resolver

end ProxyDial
