import ProxyDial.Proofs.Dial.Composition

/-!
# Dialers are safe to use

*Making dialers.*  `Dialer.Call` lists the calls that make a dialer, and `Dialer.after` is the
dialer that a sequence of calls leaves.  A call succeeds if the user id that it asks for can
be sent (`UserId.IsSendable`), and it changes nothing else (`Dialer.Call.perform_eq`).

*Dialing.*  Since its user id can be sent, a dialer never fails for its configuration
(`Dialer.kind_ne_config`), and what it writes is a request that the proxy reads as it was
meant (`Dialer.isRequest_of_sent`).
-/

namespace ProxyDial

/-- Whether a user id can be sent unchanged. -/
def UserId.IsSendable (userId : List UInt8) : Prop := 0 ∉ userId ∧ userId.length ≤ 255

theorem Options.validate_eq_ok_iff (o : Options) :
    o.validate = .ok () ↔ UserId.IsSendable (UserId.ofString o.userId) := checkUserId_eq_ok_iff _

namespace Dialer

/-! ## Making dialers -/

/-- A call that makes a dialer. -/
inductive Call where
  | make (host : String) (port : UInt16)
  | withOptions (host : String) (port : UInt16) (options : Options)
  /-- Give the dialer at hand another user id. -/
  | withUserId (userId : String)

/-- The proxy and the options that a call asks for, if there is a dialer at hand or none is
needed. -/
def Call.wanted? (current : Option Dialer) : Call → Option (String × UInt16 × Options)
  | make host port => some (host, port, {})
  | withOptions host port options => some (host, port, options)
  | withUserId userId => current.map fun d => (d.host, d.port, { d.options with userId })

/-- What a call comes to. -/
def Call.perform? (current : Option Dialer) : Call → Option (Except DialError Dialer)
  | make host port => some (.ok (.make host port))
  | withOptions host port options => some (Dialer.withOptions host port options)
  | withUserId userId => current.map fun d => d.withUserId userId

/-- The dialer at hand after calls.  A call that fails leaves none. -/
def after (current : Option Dialer) : List Call → Option Dialer
  | [] => current
  | call :: calls => after ((call.perform? current).bind Except.toOption) calls

theorem withOptions_of_error {host : String} {port : UInt16} {options : Options} {e : DialError}
    (h : options.validate = .error e) : withOptions host port options = .error e := by
  rw [withOptions]
  split
  · rename_i hok
    rw [h] at hok
    cases hok
  · rename_i e' he
    rw [h] at he
    cases he
    rfl

/-- Every call makes its dialer with the options that it asks for. -/
theorem Call.perform?_eq (current : Option Dialer) (call : Call) :
    call.perform? current =
      (call.wanted? current).map fun (host, port, options) =>
        Dialer.withOptions host port options := by
  cases call with
  | make host port =>
    exact congrArg some (withOptions_of_validate validate_default).symm
  | withOptions host port options => rfl
  | withUserId userId => cases current <;> rfl

theorem withOptions_eq_ok_iff {host : String} {port : UInt16} {options : Options} :
    ((∃ d, withOptions host port options = .ok d) ↔
      UserId.IsSendable (UserId.ofString options.userId)) ∧
    ∀ d, withOptions host port options = .ok d →
      d.host = host ∧ d.port = port ∧ d.options = options := by
  rw [← Options.validate_eq_ok_iff]
  cases h : options.validate with
  | ok u =>
    rw [withOptions_of_validate h]
    refine ⟨⟨fun _ => rfl, fun _ => ⟨_, rfl⟩⟩, ?_⟩
    rintro d ⟨⟩
    exact ⟨rfl, rfl, rfl⟩
  | error e =>
    rw [withOptions_of_error h]
    refine ⟨⟨?_, fun h => by cases h⟩, ?_⟩
    · rintro ⟨d, ⟨⟩⟩
    · rintro d ⟨⟩

end Dialer

/-! ## Errors -/

/-- A timed connect fails for a configuration only if the answer to its lookup says so. -/
theorem ConnectRequest.Leads.kind_ne_config {q : ConnectRequest} {r : Resolver} {s s' : Session}
    {e : DialError} (hl : q.Leads r s (some (.error e), s'))
    (hr : ∀ e, (q.lookup r).answer = .error e → e.kind ≠ .config) : e.kind ≠ .config := by
  cases hl with
  | noCandidates hf =>
    rcases hf.error_eq with hanswer | rfl | ⟨secs, -, rfl, -⟩
    · exact hr e hanswer
    · rcases q.kind_noCandidates with hkind | hkind <;> simp [hkind]
    · simp [DialError.kind]
  | failed => simp [DialError.kind]
  | late => simp [DialError.kind, ConnectRequest.timedOut]

/-- So does a handshake whose user id can be sent. -/
theorem HandshakeRequest.Leads.kind_ne_config {q : HandshakeRequest} {r : Resolver}
    {s s' : Session} {e : DialError} (hl : q.Leads r s (some (.error e), s'))
    (hu : checkUserId q.userId = .ok ())
    (hr : ∀ e, (q.lookup r).answer = .error e → e.kind ≠ .config) : e.kind ≠ .config := by
  cases hl with
  | noTarget ht =>
    cases ht with
    | closed => simp [DialError.kind]
    | badUserId _ hbad => cases hu.symm.trans hbad
    | lookupFailed _ _ _ hanswer => exact hr e hanswer
    | noIPv4 => simp [DialError.kind]
  | writeLate => simp [DialError.kind, HandshakeRequest.timedOut]
  | writeFailed => simp [DialError.kind]
  | late => simp [DialError.kind, HandshakeRequest.timedOut]
  | readFailed => simp [DialError.kind]
  | denied _ _ _ _ _ hv => rcases Reply.kind_of_verdict hv with hkind | hkind <;> simp [hkind]

/-! ## Bytes -/

theorem Session.mem_sent_iff (s : Session) (t : Endpoint × Nat × List UInt8) :
    t ∈ s.sent ↔ (∃ c ∈ s.net.closed, c.transcript = t) ∨ ∃ c ∈ s.stream, c.transcript = t := by
  simp [sent]

/-- The network holds as much on the connection of a timed connect as its server lets it. -/
theorem ConnectRequest.exists_capacity_eq {q : ConnectRequest} {r : Resolver} {s s' : Session}
    {c : Connection} (hs : s.stream = none) (hrun : (q.run r).outcome s = (some (.ok ()), s'))
    (hc : s'.stream = some c) : ∃ server ∈ s.net.servers, c.capacity = server.capacity := by
  obtain ⟨e, server, scripts, hserver, -, hstream, -⟩ := exists_accepted_now hs hrun
  refine ⟨server, List.mem_of_find?_eq_some hserver, ?_⟩
  rw [Option.some.inj (hc.symm.trans hstream), Connection.capacity_advance]
  rfl

/-- On each of the connections that a dial leaves nothing new was sent, or nothing at all, or
one request as far as the network took it.  It took all of it if it had room for it. -/
theorem Dials.of_mem_sent {connect : ConnectRequest} {ask : HandshakeRequest} {r : Resolver}
    {s : Session} {o : Option (Except DialError Unit) × Session} (hd : Dials connect ask r s o)
    {t : Endpoint × Nat × List UInt8} (ht : t ∈ o.2.sent) :
    t ∈ s.sent ∨ t.2.2 = [] ∨ ∃ ip, t.2.2 <+: ask.wire ip ∧
      ((∀ server ∈ s.net.servers, ∀ most ∈ server.capacity, (ask.wire ip).length ≤ most) →
        t.2.2 = ask.wire ip) := by
  have hfresh (h : t ∈ s.fresh.sent) : t ∈ s.sent :=
    (s.mem_sent_iff t).2 (.inl ((s.fresh.mem_sent_iff t).1 h |>.resolve_right (by simp)))
  have hsilent {s₁ : Session} (hs₁ : s.fresh.Silent s₁) (h : t ∈ s₁.sent) :
      t ∈ s.sent ∨ t.2.2 = [] := by
    obtain ⟨added, hsent, hadded⟩ := hs₁
    rw [hsent, List.mem_append] at h
    exact h.imp hfresh (hadded t)
  have hasked {s₁ s₂ : Session} {c : Connection} {result : Option (Except DialError Unit)}
      (h₁ : (connect.run r).outcome s.fresh = (some (.ok ()), s₁)) (hs₁ : s.fresh.Opened s₁ c)
      (hs₂ : ask.AsksOnce r s₁ c s.fresh.sent (result, s₂)) (h : t ∈ s₂.sent) :
      t ∈ s.sent ∨ t.2.2 = [] ∨ ∃ ip, t.2.2 <+: ask.wire ip ∧
        ((∀ server ∈ s.net.servers, ∀ most ∈ server.capacity, (ask.wire ip).length ≤ most) →
          t.2.2 = ask.wire ip) := by
    obtain ⟨bytes, hsent, hbytes⟩ := hs₂.sent
    obtain ⟨server, hserver, hcapacity⟩ :=
      ConnectRequest.exists_capacity_eq (s := s.fresh) rfl h₁ hs₁.stream
    rw [hcapacity] at hbytes
    rw [hsent, List.mem_append, List.mem_singleton] at h
    rcases h with h | rfl
    · exact .inl (hfresh h)
    · refine .inr (hbytes.imp id fun ⟨ip, _, hprefix, hall⟩ => ⟨ip, hprefix, fun hroom => ?_⟩)
      exact hall (hroom server hserver)
  -- The connection that was there before has sent what it had.
  have hkept {s' : Session}
      (h : t ∈ ({ s' with stream := s.stream.map (Connection.advance s'.clock) } : Session).sent) :
      t ∈ s.sent ∨ t ∈ s'.sent := by
    rw [Session.mem_sent_iff] at h
    rcases h with hclosed | ⟨c, hc, rfl⟩
    · exact .inr ((s'.mem_sent_iff t).2 (.inl hclosed))
    · obtain ⟨old, hold, rfl⟩ := Option.map_eq_some_iff.1 hc
      rw [Connection.transcript_advance]
      exact .inl ((s.mem_sent_iff _).2 (.inr ⟨old, hold, rfl⟩))
  cases hd with
  | connecting _ hs₁ => exact (hsilent hs₁ ht).imp id .inl
  | unconnected _ hs₁ => exact (hkept ht).elim .inl fun h => (hsilent hs₁ h).imp id .inl
  | asking h₁ hs₁ _ hs₂ => exact hasked h₁ hs₁ hs₂ ht
  | refused h₁ hs₁ _ hs₂ => exact (hkept ht).elim .inl (hasked h₁ hs₁ hs₂)
  | @opened s₁ s₂ c c' ip h₁ hs₁ _ hs₂ =>
    cases hs : s.stream with
    | none =>
      rw [hs] at ht
      exact hasked h₁ hs₁ hs₂ ht
    | some old =>
      rw [hs, Session.mem_sent_iff] at ht
      rcases ht with ⟨c, hc, rfl⟩ | hstream
      · rcases List.mem_append.1 hc with hc | hc
        · exact hasked h₁ hs₁ hs₂ ((s₂.mem_sent_iff _).2 (.inl ⟨c, hc, rfl⟩))
        · have hsame : c.transcript = old.transcript := by
            rw [List.mem_singleton.1 hc]
            exact Connection.transcript_advance s₂.clock old
          exact .inl ((s.mem_sent_iff _).2 (.inr ⟨old, hs, hsame.symm⟩))
      · exact hasked h₁ hs₁ hs₂ ((s₂.mem_sent_iff t).2 (.inr hstream))

namespace Dialer

/-- Whether bytes are a request for a port with the dialer's user id: they end with their
only NUL after the header and are read back as they were meant. -/
structure IsRequest (d : Dialer) (port : UInt16) (bytes : List UInt8) : Prop where
  length : 9 ≤ bytes.length ∧ bytes.length ≤ 264
  nul : ∀ i, 8 ≤ i → (bytes[i]? = some 0 ↔ i + 1 = bytes.length)
  decode : ∃ ip, Request.decode bytes = .ok ⟨1, port, ip, UserId.ofString d.options.userId⟩

variable (d : Dialer) (r : Resolver) (host : String) (port : UInt16)

theorem isSendable : UserId.IsSendable (UserId.ofString d.options.userId) :=
  d.options.validate_eq_ok_iff.1 d.validate_options

theorem isRequest_wire (ip : IPv4) : d.IsRequest port ((d.handshakeRequest host port).wire ip) := by
  obtain ⟨hnul, hlength⟩ := d.isSendable
  have hlen := ((d.handshakeRequest host port).requestFor ip).length_encode
  have hdecode := ((d.handshakeRequest host port).requestFor ip).decode_encode_append hnul []
  have hbounds : 9 ≤ ((d.handshakeRequest host port).requestFor ip).encodedLength ∧
      ((d.handshakeRequest host port).requestFor ip).encodedLength ≤ 264 := by
    show 9 ≤ 8 + (UserId.ofString d.options.userId).length + 1 ∧
      8 + (UserId.ofString d.options.userId).length + 1 ≤ 264
    omega
  rw [List.append_nil] at hdecode
  rw [← HandshakeRequest.encode_requestFor]
  exact ⟨hlen ▸ hbounds, fun i hi => Request.getElem?_encode_eq_nul_iff hnul hi, ip, hdecode⟩

/-- A dial does not fail for the dialer's configuration. -/
theorem kind_ne_config {s s' : Session} {e : DialError}
    (hr : ∀ host port family e, (r.lookup host port family).answer = .error e → e.kind ≠ .config)
    (hrun : (d.dial r host port).run? s = some (.error e, s')) : e.kind ≠ .config := by
  have hd := d.dials_dial r host port s
  rw [(Op.run?_eq_some_iff ..).1 hrun] at hd
  generalize ho : (some (Except.error e), s') = o at hd
  cases hd with
  | connecting => cases ho
  | unconnected h₁ =>
    cases ho
    have hl := d.connectRequest.leads_run r s.fresh
    rw [h₁] at hl
    exact hl.kind_ne_config (hr _ _ _)
  | asking => cases ho
  | @refused s₁ _ _ _ _ _ h₂ =>
    cases ho
    have hl := (d.handshakeRequest host port).leads_run r s₁
    rw [h₂] at hl
    exact hl.kind_ne_config d.validate_options (hr _ _ _)
  | opened => cases ho

/-- What a dial sends is a request, as far as the network takes it. -/
theorem isRequest_of_sent {s : Session} {t : Endpoint × Nat × List UInt8}
    (ht : t ∈ ((d.dial r host port).outcome s).2.sent) :
    (t ∈ s.sent ∨ t.2.2 = [] ∨ ∃ bytes, t.2.2 <+: bytes ∧ d.IsRequest port bytes) ∧
    ((∀ server ∈ s.net.servers, ∀ most ∈ server.capacity, 264 ≤ most) →
      t ∈ s.sent ∨ t.2.2 = [] ∨ d.IsRequest port t.2.2) := by
  rcases (d.dials_dial r host port s).of_mem_sent ht with hsame | hnothing | ⟨ip, hprefix, hall⟩
  · exact ⟨.inl hsame, fun _ => .inl hsame⟩
  · exact ⟨.inr (.inl hnothing), fun _ => .inr (.inl hnothing)⟩
  · have hrequest := d.isRequest_wire host port ip
    refine ⟨.inr (.inr ⟨_, hprefix, hrequest⟩), fun hroom => .inr (.inr ?_)⟩
    have hfits := fun server hm most hmost =>
      Nat.le_trans hrequest.length.2 (hroom server hm most hmost)
    rw [hall hfits]
    exact hrequest

/-- A dial that succeeds has sent one request on its connection. -/
theorem isRequest_of_run? {s s' : Session}
    (hrun : (d.dial r host port).run? s = some (.ok (), s')) :
    ∃ c, s'.stream = some c ∧ d.IsRequest port c.sent := by
  have hd := d.dials_dial r host port s
  rw [(Op.run?_eq_some_iff ..).1 hrun] at hd
  generalize ho : (some (Except.ok ()), s') = o at hd
  cases hd with
  | @opened _ _ _ c ip _ _ _ _ hc _ _ hsent =>
    cases ho
    exact ⟨c, hc, hsent ▸ d.isRequest_wire host port ip⟩
  | _ => cases ho

/-- After any calls, a call makes its dialer if the user id that it asks for can be sent, and
that dialer has the proxy and the options asked for.  Every dialer has a user id that can be
sent.  So none of its dials fails for its configuration, unless the resolver finds fault with
one, and all that its dials send are requests with just this user id, or the first bytes of one
on a connection that does not take more.  A dial that succeeds has sent a whole request. -/
theorem safe_after (calls : List Call) :
    (∀ call result, Call.perform? (after none calls) call = some result →
      ∃ host port options, Call.wanted? (after none calls) call = some (host, port, options) ∧
        ((∃ d, result = .ok d) ↔
          0 ∉ UserId.ofString options.userId ∧
            (UserId.ofString options.userId).length ≤ 255) ∧
        ∀ d, result = .ok d → d.host = host ∧ d.port = port ∧ d.options = options) ∧
    ∀ d, after none calls = some d →
      (0 ∉ UserId.ofString d.options.userId ∧
        (UserId.ofString d.options.userId).length ≤ 255) ∧
      ∀ r host port s,
        ((∀ host port family e, (r.lookup host port family).answer = .error e →
            e.kind ≠ .config) →
          ∀ e s', (d.dial r host port).run? s = some (.error e, s') → e.kind ≠ .config) ∧
        (∀ s', (d.dial r host port).run? s = some (.ok (), s') →
          ∃ c, s'.stream = some c ∧ d.IsRequest port c.sent) ∧
        ∀ t ∈ ((d.dial r host port).outcome s).2.sent,
          (t ∈ s.sent ∨ t.2.2 = [] ∨ ∃ bytes, t.2.2 <+: bytes ∧ d.IsRequest port bytes) ∧
          ((∀ server ∈ s.net.servers, ∀ most ∈ server.capacity, 264 ≤ most) →
            t ∈ s.sent ∨ t.2.2 = [] ∨ d.IsRequest port t.2.2) := by
  refine ⟨fun call result hcall => ?_, fun d _ => ⟨d.isSendable, fun r host port s =>
    ⟨fun hr e s' => d.kind_ne_config r host port hr,
      fun s' => d.isRequest_of_run? r host port, fun t => d.isRequest_of_sent r host port⟩⟩⟩
  rw [Call.perform?_eq, Option.map_eq_some_iff] at hcall
  obtain ⟨⟨host, port, options⟩, hwanted, rfl⟩ := hcall
  exact ⟨host, port, options, hwanted, withOptions_eq_ok_iff⟩

/-- A dialer with a user id of two bytes.  A third user id that holds a NUL is refused.  A dial
through a proxy that grants everything sends eleven bytes, and one for which the proxy is not
found does not blame the configuration. -/
theorem safe_after_granted :
    let gate : Endpoint := .v4 ⟨10, 0, 0, 1⟩ 1080
    let script := Action.request ++ [.write [0, 90, 0, 0, 0, 0, 0, 7]]
    let s := Session.start { servers := [{ address := gate, behaviour := .accepts [script] }] }
    let calls : List Call := [.make "proxy" 1080, .withUserId "é"]
    ∃ d, after none calls = some d ∧ d.options.userId = "é" ∧
      (∃ result, Call.perform? (after none calls) (.withUserId "\x00") = some result ∧
        ¬∃ d, result = .ok d) ∧
      (∃ s' c, (d.dial (.fixed [gate]) "target" 80).run? s = some (.ok (), s') ∧
        s'.stream = some c ∧ d.IsRequest 80 c.sent) ∧
      (∃ t ∈ ((d.dial (.fixed [gate]) "target" 80).outcome s).2.sent,
        t.2.2 ≠ [] ∧ d.IsRequest 80 t.2.2) ∧
      ∃ e s', (d.dial (.fixed []) "target" 80).run? s = some (.error e, s') ∧
        e.kind ≠ .config := by
  intro gate script s calls
  have hvalid : ({ userId := "é" } : Options).validate = .ok () := by rfl
  let d : Dialer := ⟨"proxy", 1080, { userId := "é" }, hvalid⟩
  have hd : after none calls = some d := by
    have huserId : (make "proxy" 1080).withUserId "é" = .ok d := withOptions_of_validate hvalid
    simp only [calls, after, Call.perform?, Option.bind_some, Except.toOption, Option.map_some,
      huserId]
  obtain ⟨hcall, hdial⟩ := safe_after calls
  obtain ⟨-, hdial⟩ := hdial d hd
  have hlegs : ∃ s₁ s₂, (d.connectRequest.run (.fixed [gate])).run? s = some (.ok (), s₁) ∧
      ((d.handshakeRequest "target" 80).run (.fixed [gate])).run? s₁ = some (.ok (), s₂) := by
    dsimp only [d, connectRequest, handshakeRequest, s, script, gate]
    exact ⟨_, _, rfl, rfl⟩
  obtain ⟨s₁, s₂, h₁, h₂⟩ := hlegs
  obtain ⟨s', hrun⟩ := exists_run?_dial (s := s) h₁ h₂
  obtain ⟨-, hopened, hsent⟩ := hdial (.fixed [gate]) "target" 80 s
  obtain ⟨c, hc, hwhole⟩ := hopened s' hrun
  refine ⟨d, hd, rfl, ?_, ⟨s', c, hrun, hc, hwhole⟩, ?_, ?_⟩
  · have hperform : Call.perform? (after none calls) (.withUserId "\x00") =
        some (d.withUserId "\x00") := by rw [hd]; rfl
    obtain ⟨host, port, options, hwanted, hok, -⟩ := hcall _ _ hperform
    rw [hd] at hwanted
    cases hwanted
    have hnul : 0 ∈ UserId.ofString "\x00" := by decide
    exact ⟨_, hperform, fun h => (hok.1 h).1 hnul⟩
  · have hmem := (Session.mem_sent_iff s' _).2 (.inr ⟨c, hc, rfl⟩)
    have houtcome := (Op.run?_eq_some_iff ..).1 hrun
    rw [houtcome] at hsent ⊢
    have hne : c.sent ≠ [] := by
      intro h
      have hlength := hwhole.length.1
      rw [h] at hlength
      cases hlength
    have hnothing : s.sent = [] := rfl
    have hroom : ∀ server ∈ s.net.servers, ∀ most ∈ server.capacity, 264 ≤ most := by
      rintro server hserver most hmost
      rw [List.mem_singleton.1 hserver] at hmost
      cases hmost
    have hrequest := (hsent _ hmem).2 hroom
    rw [hnothing] at hrequest
    exact ⟨_, hmem, hne, (hrequest.resolve_left (by simp)).resolve_left hne⟩
  · have hrun : ((d.dial (.fixed []) "target" 80).outcome s).1 =
        some (.error (.hostNotFound "proxy")) := by
      dsimp only [d, s, script, gate]
      rfl
    have hrun := Op.run?_of_outcome hrun
    exact ⟨_, _, hrun, (hdial (.fixed []) "target" 80 s).1 (by rintro _ _ _ _ ⟨⟩) _ _ hrun⟩

end Dialer

end ProxyDial
