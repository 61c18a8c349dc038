import Mathlib.Data.List.TakeWhile
import ProxyDial.Proofs.Handshake.Wire
import ProxyDial.Proofs.Session.Notices

/-!
# What a handshake warns of

An address of the target that cannot be asked for is skipped with a warning, up to the first
one that can.

*Targets.*  The search for the target is the only part of a handshake that reports anything
(`HandshakeRequest.notices_run`).  Whether it comes to an answer or not, what it reports are
the addresses that stand before the first IPv4 address of the answer (`HandshakeRequest.skips`).

*Answers.*  A handshake does not look behind that address, so answers that agree up to it are
as good as one (`HandshakeRequest.outcome_run_congr`).
-/

namespace ProxyDial

/-- The warnings that a session has logged, oldest first. -/
def Session.warnings (s : Session) : List String :=
  (s.log.filter fun e => e.level = .warn).map Event.message

theorem Session.warnings_eq (s : Session) :
    s.warnings = (s.notices.filter fun e => e.level = .warn).map Event.message := by
  rw [warnings, notices, List.filter_filter]
  congr 1
  refine List.filter_congr fun e _ => ?_
  cases he : e.level <;> simp [Event.isNotice, he, Level.rank]

/-! ## Addresses that are skipped -/

section Skipped

variable {before after : List Endpoint} {ip : IPv4} {port : UInt16}

/-- IPv6 addresses are skipped up to the first address of the other family. -/
theorem map_skippedIPv6 {α : Type} (f : Ip → α) (endpoints : List Endpoint) :
    (skippedIPv6 endpoints).map (fun ip => f (.v6 ip)) =
      (endpoints.takeWhile fun e => Family.v6Only.admits e.ip).map fun e => f e.ip := by
  induction endpoints with
  | nil => rfl
  | cons e rest ih =>
    cases e with
    | v4 ip port => rfl
    | v6 ip port scope => exact congrArg (f (.v6 ip) :: ·) ih

theorem firstIPv4?_append (h : ∀ e ∈ before, Family.v6Only.admits e.ip)
    (after : List Endpoint) : firstIPv4? (before ++ after) = firstIPv4? after := by
  induction before with
  | nil => rfl
  | cons e rest ih =>
    cases e with
    | v4 ip port => cases h _ (.head _)
    | v6 ip port scope => exact ih fun e he => h e (.tail _ he)

theorem skippedIPv6_append (before : List Endpoint) (ip : IPv4) (port port' : UInt16)
    (after after' : List Endpoint) :
    skippedIPv6 (before ++ .v4 ip port :: after) =
      skippedIPv6 (before ++ .v4 ip port' :: after') := by
  induction before with
  | nil => rfl
  | cons e rest ih =>
    cases e with
    | v4 => rfl
    | v6 ip' => exact congrArg (ip' :: ·) ih

end Skipped

namespace HandshakeRequest

variable {q : HandshakeRequest} {r r' : Resolver} {s s' : Session} {ip : IPv4} {millis : Nat}
  {endpoints : List Endpoint}

/-- The warning about an address of the target. -/
def warning (q : HandshakeRequest) (ip : Ip) : String :=
  s!"skipping IPv6 address {ip.text} of {q.host}: SOCKS4 is IPv4 only"

/-- The addresses that a handshake skips.  There are none unless the target is looked up and
the lookup succeeds. -/
def skips (q : HandshakeRequest) (r : Resolver) (isOpen : Bool) : List IPv6 :=
  if isOpen = true ∧ 0 ∉ q.userId ∧ q.userId.length ≤ 255 then
    match (q.lookup r).delay, (q.lookup r).answer with
    | some _, .ok endpoints => skippedIPv6 endpoints
    | _, _ => []
  else []

/-! ## What is reported -/

theorem notices_warned (ips : List IPv6) (s : Session) :
    (q.warned ips s).notices = s.notices ++ ips.map (.skipped · q.host) := by
  induction ips generalizing s with
  | nil => simp [warned]
  | cons ip rest ih =>
    have hfirst : (s.record (.skipped ip q.host)).notices = s.notices ++ [.skipped ip q.host] :=
      s.notices_record_of_notice rfl
    refine (ih (s.record (.skipped ip q.host))).trans ?_
    rw [hfirst, List.append_assoc, List.map_cons, List.singleton_append]

theorem notices_granted (ip : IPv4) (s : Session) : (q.granted ip s).notices = s.notices := by
  rw [granted, Session.notices_record_of_detail _ rfl, Session.notices_record_of_detail _ rfl,
    Session.notices_cancelled]

theorem Targets.notices_eq {found : Option (Except DialError IPv4)}
    (ht : q.Targets r s (found, s')) :
    s'.notices = s.notices ++ (q.skips r s.isOpen).map (.skipped · q.host) := by
  have hresolving : (q.resolving s).notices = s.notices := s.notices_record_of_detail rfl
  cases ht with
  | closed hs => simp [skips, Session.isOpen, hs]
  | badUserId hs hu =>
    have hbad : ¬(0 ∉ q.userId ∧ q.userId.length ≤ 255) := by
      rw [← checkUserId_eq_ok_iff, hu]
      simp
    simp only [skips, hbad, and_false, if_false, List.map_nil, List.append_nil]
  | unanswered hs hu hd =>
    simp [skips, Session.isOpen_of_some hs, (checkUserId_eq_ok_iff _).1 hu, hd, hresolving]
  | lookupFailed hs hu hd ha =>
    simp [skips, Session.isOpen_of_some hs, (checkUserId_eq_ok_iff _).1 hu, hd, ha, hresolving]
  | noIPv4 hs hu hd ha =>
    simp [skips, Session.isOpen_of_some hs, (checkUserId_eq_ok_iff _).1 hu, hd, ha,
      notices_warned, hresolving]
  | found hs hu hd ha =>
    simp [skips, Session.isOpen_of_some hs, (checkUserId_eq_ok_iff _).1 hu, hd, ha,
      notices_warned, hresolving]

theorem Leads.notices_eq {o : Option (Except DialError Unit) × Session} (hl : q.Leads r s o) :
    o.2.notices = s.notices ++ (q.skips r s.isOpen).map (.skipped · q.host) := by
  have htarget {s' : Session} {found : Option (Except DialError IPv4)}
      (ht : q.Targets r { s with timer := .idle } (found, s')) :
      s'.notices = s.notices ++ (q.skips r s.isOpen).map (.skipped · q.host) := ht.notices_eq
  have hwriting (s : Session) : (q.writing s).notices = s.notices := by
    rw [writing, Session.notices_record_of_detail _ rfl, Session.notices_armed]
  have hwrite {s' s₁ : Session} {ip : IPv4} {c : Connection}
      {written : Option (Option (Except IoError Unit))}
      (ht : q.Targets r { s with timer := .idle } (some (.ok ip), s'))
      (hw : q.WritesRequest ip s' c (written, s₁)) :
      s₁.notices = s.notices ++ (q.skips r s.isOpen).map (.skipped · q.host) := by
    rw [hw.notices_eq, hwriting]
    exact htarget ht
  have hread {s' s₁ s'' : Session} {ip : IPv4} {c c' : Connection}
      {written : Option (Option (Except IoError Unit))}
      {read : Option (Option (Except IoError (List UInt8)))}
      (ht : q.Targets r { s with timer := .idle } (some (.ok ip), s'))
      (hw : q.WritesRequest ip s' c (written, s₁))
      (hr : ReadsReply (q.limit s'.clock) (q.reading s₁) c' (read, s'')) :
      s''.notices = s.notices ++ (q.skips r s.isOpen).map (.skipped · q.host) := by
    rw [hr.notices_eq, reading, Session.notices_record_of_detail _ rfl]
    exact hwrite ht hw
  cases hl with
  | unanswered ht => exact htarget ht
  | noTarget ht => simpa using htarget ht
  | unwritten ht hs hw => exact hwrite ht hw
  | writeLate ht hs hw => simpa using hwrite ht hw
  | writeFailed ht hs hw => simpa using hwrite ht hw
  | unreplied ht hs hw hs₁ hr => exact hread ht hw hr
  | late ht hs hw hs₁ hr => simpa using hread ht hw hr
  | readFailed ht hs hw hs₁ hr => simpa using hread ht hw hr
  | denied ht hs hw hs₁ hr => simpa using hread ht hw hr
  | granted ht hs hw hs₁ hr => simpa [notices_granted] using hread ht hw hr

/-- A handshake reports the addresses that it skips and nothing else. -/
theorem notices_run (q : HandshakeRequest) (r : Resolver) (s : Session) :
    ((q.run r).outcome s).2.notices =
      s.notices ++ (q.skips r s.isOpen).map (.skipped · q.host) :=
  (q.leads_run r s).notices_eq

theorem warnings_run (q : HandshakeRequest) (r : Resolver) (s : Session) :
    ((q.run r).outcome s).2.warnings =
      s.warnings ++ (q.skips r s.isOpen).map fun ip => q.warning (.v6 ip) := by
  have hskipped (ips : List IPv6) :
      ((ips.map (Event.skipped · q.host)).filter fun e => e.level = .warn).map Event.message =
        ips.map fun ip => q.warning (.v6 ip) := by
    rw [List.filter_eq_self.2 (by simp [Event.level]), List.map_map]
    rfl
  rw [Session.warnings_eq, notices_run, List.filter_append, List.map_append, hskipped,
    ← Session.warnings_eq]

/-! ## Answers that are as good as one -/

theorem asks?_of_answer (hopen : s.isOpen) (hu : 0 ∉ q.userId ∧ q.userId.length ≤ 255)
    (hl : q.lookup r = { delay := some millis, answer := .ok endpoints }) :
    q.asks? r s.isOpen =
      some ((firstIPv4? endpoints).elim (.error (.hostNotFound q.host)) .ok) := by
  have hlength := Nat.not_lt_of_le hu.2
  rw [firstIPv4?_eq_findSome?]
  simp only [asks?, hopen, hu.1, hlength, hl, Bool.true_eq_false, if_false, Option.map_some]
  cases endpoints.findSome? Endpoint.ipv4? <;> rfl

theorem outcome_seek_of_found (hopen : s.isOpen)
    (hu : 0 ∉ q.userId ∧ q.userId.length ≤ 255)
    (hl : q.lookup r = { delay := some millis, answer := .ok endpoints })
    (hi : firstIPv4? endpoints = some ip) :
    (ExceptT.run (q.seek r)).outcome s =
      (some (.ok ip), q.warned (skippedIPv6 endpoints) ((q.resolving s).later millis)) := by
  have ht := q.targets_seek r s
  have hasks := asks?_of_answer hopen hu hl
  rw [hi, Option.elim_some] at hasks
  rcases ho : (ExceptT.run (q.seek r)).outcome s with ⟨found, s'⟩
  rw [ho] at ht
  obtain rfl : found = some (.ok ip) := ht.eq_asks?.trans hasks
  cases ht with
  | found hs hu' hd ha hi' =>
    rw [hl] at hd ha
    cases hd
    cases ha
    rfl

/-- Two answers after the same time lead to the same run if they have the same first IPv4
address and the same addresses before it. -/
theorem outcome_run_congr {endpoints' : List Endpoint} (hopen : s.isOpen)
    (hu : 0 ∉ q.userId ∧ q.userId.length ≤ 255)
    (hl : q.lookup r = { delay := some millis, answer := .ok endpoints })
    (hl' : q.lookup r' = { delay := some millis, answer := .ok endpoints' })
    (hi : firstIPv4? endpoints = some ip) (hi' : firstIPv4? endpoints' = some ip)
    (hskipped : skippedIPv6 endpoints' = skippedIPv6 endpoints) :
    (q.run r').outcome s = (q.run r).outcome s := by
  have hp := outcome_seek_of_found (s := { s with timer := .idle }) hopen hu hl hi
  have hp' := outcome_seek_of_found (s := { s with timer := .idle }) hopen hu hl' hi'
  have ht := q.targets_seek r { s with timer := .idle }
  rw [hp] at ht
  obtain ⟨c, hs⟩ := ht.exists_stream
  rw [hskipped] at hp'
  rw [q.outcome_run_of_found r' hp' hs, q.outcome_run_of_found r hp hs]

/-! ## What is asked for -/

/-- A handshake whose target has an IPv4 address asks for the first one that the answer lists.
It warns of each address before that, in order, and does not look at those behind it.  If
there is none it warns of all addresses and fails. -/
theorem warns_run (q : HandshakeRequest) {s : Session} (hopen : s.isOpen)
    (hu : 0 ∉ q.userId ∧ q.userId.length ≤ 255) :
    (∀ r millis before ip port after, (∀ e ∈ before, Family.v6Only.admits e.ip) →
      q.lookup r = { delay := some millis, answer := .ok (before ++ .v4 ip port :: after) } →
        ((q.run r).outcome s).2.warnings = s.warnings ++ before.map (fun e => q.warning e.ip) ∧
        (∃ c taken, (s.later millis).stream = some c ∧
          ((q.run r).outcome s).2.sent = s.net.closed.map Connection.transcript ++
            [(c.peer, c.ordinal, c.sent ++ taken)] ∧
          q.Takes ip (s.later millis) c taken) ∧
        ∀ r' port' after',
          q.lookup r' =
              { delay := some millis, answer := .ok (before ++ .v4 ip port' :: after') } →
            (q.run r').outcome s = (q.run r).outcome s) ∧
    ∀ r millis endpoints, (∀ e ∈ endpoints, Family.v6Only.admits e.ip) →
      q.lookup r = { delay := some millis, answer := .ok endpoints } →
        ((q.run r).outcome s).1 = some (.error (.hostNotFound q.host)) ∧
        ((q.run r).outcome s).2.sent = s.sent ∧
        ((q.run r).outcome s).2.warnings =
          s.warnings ++ endpoints.map fun e => q.warning e.ip := by
  have hwarn {r : Resolver} {millis : Nat} {endpoints : List Endpoint}
      (hl : q.lookup r = { delay := some millis, answer := .ok endpoints }) :
      ((q.run r).outcome s).2.warnings = s.warnings ++
        (endpoints.takeWhile fun e => Family.v6Only.admits e.ip).map fun e => q.warning e.ip := by
    have hskips : q.skips r s.isOpen = skippedIPv6 endpoints := by simp [skips, hopen, hu, hl]
    rw [warnings_run, hskips, map_skippedIPv6 q.warning]
  refine ⟨fun r millis before ip port after hbefore hl => ⟨?_, ?_, ?_⟩,
    fun r millis endpoints hall hl => ?_⟩
  · have hstop : (Endpoint.v4 ip port :: after).takeWhile (fun e => Family.v6Only.admits e.ip) =
        [] := rfl
    rw [hwarn hl, List.takeWhile_append_of_pos hbefore, hstop, List.append_nil]
  · have hfirst := asks?_of_answer hopen hu hl
    rw [firstIPv4?_append hbefore] at hfirst
    obtain ⟨millis', c, taken, hd, hsent⟩ := exists_sent_of_asks hfirst
    rw [hl] at hd
    cases hd
    exact ⟨c, taken, hsent⟩
  · intro r' port' after' hl'
    have hi : firstIPv4? (before ++ .v4 ip port :: after) = some ip :=
      firstIPv4?_append hbefore _
    have hi' : firstIPv4? (before ++ .v4 ip port' :: after') = some ip :=
      firstIPv4?_append hbefore _
    exact outcome_run_congr hopen hu hl hl' hi hi' (skippedIPv6_append ..)
  · have hnone : firstIPv4? endpoints = none := by
      have hfirst := firstIPv4?_append hall []
      rwa [List.append_nil] at hfirst
    have hfirst := asks?_of_answer hopen hu hl
    rw [hnone, Option.elim_none] at hfirst
    rcases q.sent_run r s with ⟨found, s', ht, -, hresult, hsent⟩ | ⟨ip, s', c, ht, -⟩
    · obtain rfl : found = some (.error (.hostNotFound q.host)) := ht.eq_asks?.trans hfirst
      refine ⟨hresult, hsent, ?_⟩
      rw [hwarn hl, List.takeWhile_eq_self_iff.2 hall]
    · cases ht.eq_asks?.trans hfirst

/-- An address that maps an IPv4 address is skipped with a warning like any other of its family.
What stands behind the first IPv4 address is not even looked at. -/
theorem warns_run_mapped :
    let q : HandshakeRequest := { host := "target", port := 80, timeoutSecs := 1, userId := [117] }
    let mapped : IPv6 := ⟨[0, 0, 0, 0, 0, 0xffff, 0x102, 0x304], rfl⟩
    let before : List Endpoint := [.v6 mapped 7 0, .v6 .loopback 7 3]
    let r := Resolver.fixed (before ++ [.v4 ⟨10, 0, 0, 9⟩ 7, .v6 .loopback 7 0])
    let r' := Resolver.fixed (before ++ [.v4 ⟨10, 0, 0, 9⟩ 8, .v4 ⟨10, 0, 0, 8⟩ 7])
    let c : Connection := .fresh (Action.request ++ [.write [0, 90, 0, 0, 0, 0, 0, 0]])
    let s : Session := { stream := some c }
    let texts := ["skipping IPv6 address ::ffff:1.2.3.4 of target: SOCKS4 is IPv4 only",
      "skipping IPv6 address ::1 of target: SOCKS4 is IPv4 only"]
    (s.isOpen ∧ 0 ∉ q.userId ∧ q.userId.length ≤ 255) ∧
      ((q.run r).outcome s).2.warnings = texts ∧
      ((q.run r).outcome s).2.sent = [(c.peer, 0, [4, 1, 0, 80, 10, 0, 0, 9, 117, 0])] ∧
      (q.run r').outcome s = (q.run r).outcome s ∧
      ((q.run (.fixed before)).outcome s).1 = some (.error (.hostNotFound "target")) ∧
      ((q.run (.fixed before)).outcome s).2.warnings = texts := by
  intro q mapped before r r' c s texts
  have hvalid : 0 ∉ q.userId ∧ q.userId.length ≤ 255 := by decide
  have hbefore : ∀ e ∈ before, Family.v6Only.admits e.ip := by decide
  have htexts : before.map (fun e => q.warning e.ip) = texts := by decide +kernel
  have hwire : q.wire ⟨10, 0, 0, 9⟩ = [4, 1, 0, 80, 10, 0, 0, 9, 117, 0] := by decide +kernel
  obtain ⟨hfound, hnone⟩ := warns_run q (s := s) rfl hvalid
  obtain ⟨hwarned, ⟨c', taken, hc', hsent, htakes⟩, hsame⟩ :=
    hfound r 0 before ⟨10, 0, 0, 9⟩ 7 _ hbefore rfl
  obtain ⟨hresult, -, hall⟩ := hnone (.fixed before) 0 before hbefore rfl
  cases hc'
  rw [htexts] at hwarned hall
  have hroom : c.HasRoomFor (q.wire ⟨10, 0, 0, 9⟩).length := by
    rintro _ ⟨⟩
  rw [htakes.atOnce hroom, hwire] at hsent
  exact ⟨⟨rfl, hvalid⟩, hwarned, hsent, hsame r' 8 _ rfl, hresult, hall⟩

end HandshakeRequest

end ProxyDial
