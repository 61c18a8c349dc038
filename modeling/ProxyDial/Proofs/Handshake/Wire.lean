import ProxyDial.Proofs.Handshake.Verdict
import ProxyDial.Proofs.Wire.Request

/-!
# What a handshake writes

A handshake settles what it asks for before it writes anything
(`HandshakeRequest.asks?`).  If it asks for nothing it writes nothing.  Otherwise it
writes one request and nothing else, however it goes on (`HandshakeRequest.sent_run`).  Of
that request it writes as much as the connection takes in time
(`HandshakeRequest.sent_writes`).
-/

namespace ProxyDial

/-- The address of an IPv4 endpoint. -/
def Endpoint.ipv4? : Endpoint → Option IPv4
  | v4 ip _ => some ip
  | v6 .. => none

theorem firstIPv4?_eq_findSome? (endpoints : List Endpoint) :
    firstIPv4? endpoints = endpoints.findSome? Endpoint.ipv4? := by
  induction endpoints with
  | nil => rfl
  | cons e rest ih =>
    cases e with
    | v4 ip port => rfl
    | v6 ip port scope => exact ih

namespace HandshakeRequest

variable (q : HandshakeRequest) (r : Resolver)

/-- The address that a handshake asks for, or why it does not ask.  It does neither if its
lookup is never answered. -/
def asks? (isOpen : Bool) : Option (Except DialError IPv4) :=
  if isOpen = false then
    some (.error (.transport ⟨.notConnected, "socket is not connected to a proxy"⟩))
  else if 0 ∈ q.userId then some (.error (.config UserId.Fault.holdsNul.text))
  else if 255 < q.userId.length then
    some (.error (.config (UserId.Fault.tooLong q.userId.length).text))
  else
    (q.lookup r).delay.map fun _ =>
      match (q.lookup r).answer with
      | .error e => .error e
      | .ok endpoints =>
        match endpoints.findSome? Endpoint.ipv4? with
        | none => .error (.hostNotFound q.host)
        | some ip => .ok ip

/-- The bytes of the request for an address. -/
def wire (ip : IPv4) : List UInt8 :=
  [4, 1, .ofNat (q.port.toNat / 256), .ofNat (q.port.toNat % 256)] ++ ip.octets ++ q.userId ++ [0]

theorem encode_requestFor (ip : IPv4) : (q.requestFor ip).encode = q.wire ip := by
  have hlow : UInt8.ofNat q.port.toNat = UInt8.ofNat (q.port.toNat % 256) := by
    apply UInt8.toNat_inj.1
    simp
  simp [wire, requestFor, Request.connect, Request.encode, Request.version, Request.connectCommand,
    Request.portBytes, hlow]

variable {q r} {s s' : Session}

theorem Targets.eq_asks? {found : Option (Except DialError IPv4)}
    (ht : q.Targets r s (found, s')) : found = q.asks? r s.isOpen := by
  have hvalid (hu : checkUserId q.userId = .ok ()) : 0 ∉ q.userId ∧ ¬255 < q.userId.length := by
    obtain ⟨hn, hlen⟩ := (checkUserId_eq_ok_iff q.userId).1 hu
    exact ⟨hn, Nat.not_lt_of_le hlen⟩
  cases ht with
  | closed hs => simp [asks?, Session.isOpen, hs, IoError.noProxy]
  | badUserId hs hu =>
    rw [checkUserId, UserId.check] at hu
    by_cases hn : 0 ∈ q.userId
    · rw [if_pos hn] at hu
      cases hu
      simp [asks?, Session.isOpen_of_some hs, hn]
    · by_cases hlen : 255 < q.userId.length
      · rw [if_neg hn, UserId.maxLength, if_pos hlen] at hu
        cases hu
        simp [asks?, Session.isOpen_of_some hs, hn, hlen]
      · rw [if_neg hn, UserId.maxLength, if_neg hlen] at hu
        cases hu
  | unanswered hs hu hd => simp [asks?, Session.isOpen_of_some hs, hvalid hu, hd]
  | lookupFailed hs hu hd ha => simp [asks?, Session.isOpen_of_some hs, hvalid hu, hd, ha]
  | noIPv4 hs hu hd ha hi =>
    rw [firstIPv4?_eq_findSome?] at hi
    simp [asks?, Session.isOpen_of_some hs, hvalid hu, hd, ha, hi]
  | found hs hu hd ha hi =>
    rw [firstIPv4?_eq_findSome?] at hi
    simp [asks?, Session.isOpen_of_some hs, hvalid hu, hd, ha, hi]

/-- A user id that is sent holds no NUL. -/
theorem Targets.valid {ip : IPv4} (ht : q.Targets r s (some (.ok ip), s')) : 0 ∉ q.userId := by
  cases ht with
  | found hs hu => exact ((checkUserId_eq_ok_iff q.userId).1 hu).1

theorem Targets.sent_eq {found : Option (Except DialError IPv4)}
    (ht : q.Targets r s (found, s')) : s'.sent = s.sent := by
  have hw (ips : List IPv6) (s : Session) : (q.warned ips s).sent = s.sent := by
    rw [Session.sent, warned_net, warned_stream]
    rfl
  cases ht with
  | closed => rfl
  | badUserId => rfl
  | unanswered => rfl
  | lookupFailed => exact Session.sent_later _ _
  | noIPv4 => exact (hw _ _).trans (Session.sent_later _ _)
  | found => exact (hw _ _).trans (Session.sent_later _ _)

/-! ## The exchange -/

/-- What is written of a request are its first bytes, and all of them if the write succeeds. -/
theorem sent_writes (ip : IPv4) {c : Connection} (hs : s.stream = some c) :
    ∃ taken, (q.writes ip s).2.sent = s.net.closed.map Connection.transcript ++
        [(c.peer, c.ordinal, c.sent ++ taken)] ∧
      taken <+: q.wire ip ∧
      ((q.writes ip s).1 = some (some (.ok ())) → taken = q.wire ip) := by
  have hsent : (q.writing s).sent = s.net.closed.map Connection.transcript ++ [c.transcript] :=
    s.sent_of_stream hs
  have hw := (q.writesRequest_writes ip hs).sent_eq hsent
  rwa [encode_requestFor] at hw

/-- A network that has room for the request takes it all, unless the connection takes no more. -/
theorem sent_writes_of_hasRoomFor (ip : IPv4) {c : Connection} (hs : s.stream = some c)
    (hroom : c.HasRoomFor (q.wire ip).length) :
    (q.writes ip s).2.sent = s.net.closed.map Connection.transcript ++
      [(c.peer, c.ordinal, c.sent ++ match (c.write (q.wire ip)).1 with
        | .ok _ => q.wire ip
        | .error _ => [])] := by
  have hne : q.wire ip ≠ [] := by
    rw [← encode_requestFor]
    exact List.cons_ne_nil _ _
  have hwriting : (q.writing s).stream = some c := hs
  rw [writes, encode_requestFor, Op.outcome_writeAll_of_hasRoomFor hwriting hne hroom,
    Session.sent_of_stream _ rfl]
  rcases hw : c.write (q.wire ip) with ⟨why | count, c'⟩
  · rw [Connection.transcript_write_error hw, List.append_nil]
    rfl
  · obtain ⟨-, -, hfits, -⟩ := Connection.eq_of_write hw
    rw [Connection.fitting_of_hasRoomFor hroom] at hfits
    rw [Connection.transcript_write hw, ← hfits]
    rfl

/-- Nothing is sent after the request. -/
theorem sent_carriedOn (ip : IPv4) {c : Connection} (hs : s.stream = some c) :
    (q.carriedOn ip (q.writes ip s)).2.sent = (q.writes ip s).2.sent := by
  have hw := q.writesRequest_writes ip hs
  generalize q.writes ip s = written at hw ⊢
  rcases written with ⟨_ | _ | why | u, s₁⟩
  · rfl
  · simp [carriedOn]
  · simp [carriedOn]
  · obtain ⟨c', hs₁⟩ := hw.exists_stream
    have hr := q.readsReply_reads hs₁
    dsimp only [carriedOn]
    generalize q.reads s₁ = read at hr ⊢
    obtain ⟨read, s''⟩ := read
    have hread : s''.sent = (q.reading s₁).sent :=
      hr.sent_eq (Connection.clientSide_readExact Reply.length)
    rw [reading, Session.sent_record] at hread
    rcases read with _ | _ | why | bytes
    · exact hread
    · simp [concluded, hread]
    · simp [concluded, hread]
    · simp only [concluded]
      cases Reply.verdict bytes with
      | error e => simp [hread]
      | ok u => simp [granted, hread]

/-- What a handshake has sent in the end: nothing, or what the connection took of its request
once the target was found. -/
theorem sent_run (q : HandshakeRequest) (r : Resolver) (s : Session) :
    (∃ found s', q.Targets r { s with timer := .idle } (found, s') ∧
      (∀ ip, found ≠ some (.ok ip)) ∧
      ((q.run r).outcome s).1 = found.map (fun found => found.map fun _ => ()) ∧
      ((q.run r).outcome s).2.sent = s.sent) ∨
    ∃ ip s' c, q.Targets r { s with timer := .idle } (some (.ok ip), s') ∧ s'.stream = some c ∧
      ((q.run r).outcome s).2.sent = (q.writes ip s').2.sent := by
  have ht := q.targets_seek r { s with timer := .idle }
  rcases hp : (ExceptT.run (q.seek r)).outcome { s with timer := .idle } with ⟨_ | e | ip, s'⟩
  · rw [hp] at ht
    refine .inl ⟨_, _, ht, by simp, ?_⟩
    rw [q.outcome_run_of_lost r hp (by simp)]
    exact ⟨rfl, ht.sent_eq⟩
  · rw [hp] at ht
    refine .inl ⟨_, _, ht, by simp, ?_⟩
    rw [q.outcome_run_of_lost r hp (by simp)]
    have hsent : s'.sent = s.sent := ht.sent_eq
    exact ⟨rfl, by simp [hsent]⟩
  · rw [hp] at ht
    obtain ⟨c, hs⟩ := ht.exists_stream
    refine .inr ⟨ip, s', c, ht, hs, ?_⟩
    rw [q.outcome_run_of_found r hp hs, sent_carriedOn ip hs]

/-- What is written of the request for an address when the target is found on this session,
with this connection in the socket. -/
structure Takes (q : HandshakeRequest) (ip : IPv4) (s : Session) (c : Connection)
    (taken : List UInt8) : Prop where
  /-- These are the first bytes of the request. -/
  begins : taken <+: q.wire ip
  /-- They are all of them if the connection takes the request in time. -/
  whole : (q.written ip s).1 = some (some (.ok ())) → taken = q.wire ip
  /-- If there is room for all, then all are written, unless the connection takes no more. -/
  atOnce : c.HasRoomFor (q.wire ip).length →
    taken = match (c.write (q.wire ip)).1 with
      | .ok _ => q.wire ip
      | .error _ => []

/-- A handshake that asks for an address sends what the connection takes of its request, and
nothing else. -/
theorem exists_sent_of_asks {ip : IPv4} (hasks : q.asks? r s.isOpen = some (.ok ip)) :
    ∃ millis c taken, (q.lookup r).delay = some millis ∧ (s.later millis).stream = some c ∧
      ((q.run r).outcome s).2.sent = s.net.closed.map Connection.transcript ++
        [(c.peer, c.ordinal, c.sent ++ taken)] ∧
      q.Takes ip (s.later millis) c taken := by
  rcases q.sent_run r s with ⟨found, s', ht, hne, -, -⟩ | ⟨ip', s', c, ht, hs, hsent⟩
  · exact absurd (ht.eq_asks?.trans hasks) (hne ip)
  · obtain rfl : ip' = ip := by
      have hfound := ht.eq_asks?.trans hasks
      cases hfound
      rfl
    obtain ⟨millis, hd, hclock, hnet, hstream⟩ := ht.passed
    have halike : (s.later millis).Alike s' := by
      refine ⟨?_, ?_, ?_⟩
      · rw [hclock, Session.later_clock]
      · rw [hnet]
        cases millis <;> rfl
      · rw [hstream]
        cases millis <;> rfl
    have hclosed : s'.net.closed.map Connection.transcript =
        s.net.closed.map Connection.transcript := by
      rw [halike.net, Session.transcripts_later]
    obtain ⟨taken, htaken, hprefix, hall⟩ := sent_writes (q := q) ip' hs
    refine ⟨millis, c, taken, hd, halike.stream.symm.trans hs, ?_, hprefix, fun ho => ?_,
      fun hroom => ?_⟩
    · rw [hsent, htaken, hclosed]
    · exact hall ((q.writes_eq_written ip' halike).1.trans ho)
    · have hboth := htaken.symm.trans (sent_writes_of_hasRoomFor ip' hs hroom)
      have hsame := congrArg (·.2.2) (List.singleton_inj.1 (List.append_inj' hboth rfl).2)
      exact List.append_cancel_left hsame

/-- A handshake that asks for nothing writes nothing.  One that asks for an address writes
the request for it, as far as the connection takes it, and nothing else.  A proxy that reads a
header and then up to the first NUL reads just this request, and it finds in it what was
asked for. -/
theorem asks_run (q : HandshakeRequest) (r : Resolver) (s : Session) :
    match q.asks? r s.isOpen with
    | none => ((q.run r).outcome s).1 = none ∧ ((q.run r).outcome s).2.sent = s.sent
    | some (.error e) =>
      ((q.run r).outcome s).1 = some (.error e) ∧ ((q.run r).outcome s).2.sent = s.sent
    | some (.ok ip) =>
      (∃ millis c taken, (q.lookup r).delay = some millis ∧ (s.later millis).stream = some c ∧
        ((q.run r).outcome s).2.sent = s.net.closed.map Connection.transcript ++
          [(c.peer, c.ordinal, c.sent ++ taken)] ∧
        q.Takes ip (s.later millis) c taken) ∧
      (∀ (c : Connection) (now : Nat) (script : List Action) (rest : List UInt8),
        c.toServer = q.wire ip ++ rest →
          c.follow now (Action.request ++ script) =
            ({ c with toServer := rest, received := c.received ++ q.wire ip } : Connection).follow
              now script) ∧
      Request.decode (q.wire ip) = .ok ⟨1, q.port, ip, q.userId⟩ := by
  rcases q.sent_run r s with ⟨found, s', ht, hne, hresult, hsent⟩ | ⟨ip, s', c, ht, hs, hsent⟩
  · have hasks : found = q.asks? r s.isOpen := ht.eq_asks?
    rw [← hasks]
    rcases found with _ | e | ip
    · exact ⟨hresult, hsent⟩
    · exact ⟨hresult, hsent⟩
    · exact absurd rfl (hne ip)
  · have hasks : some (.ok ip) = q.asks? r s.isOpen := ht.eq_asks?
    rw [← hasks]
    have hv : 0 ∉ q.userId := ht.valid
    refine ⟨exists_sent_of_asks hasks.symm, fun c now script rest hc => ?_, ?_⟩
    · rw [← encode_requestFor] at hc ⊢
      exact Connection.follow_request hv hc now script
    · have hdecode := (q.requestFor ip).decode_encode_append hv []
      rw [List.append_nil, encode_requestFor] at hdecode
      exact hdecode

end HandshakeRequest

end ProxyDial
