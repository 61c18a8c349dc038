import ProxyDial.Probe.Run
import ProxyDial.Proofs.Dial.Legs
import ProxyDial.Proofs.Dial.Timeouts
import ProxyDial.Proofs.Handshake.Traces
import ProxyDial.Proofs.Probe.Complaints
import ProxyDial.Proofs.Session.Seen

/-!
# The probe and the dialer

The probe connects and asks for its tunnel by itself, and a dialer with the probe's options
would do the same.  `Probe.Tries` lists the ways of the probe.  What it says in the log does not
change how its legs go (`ConnectRequest.exists_alike`, `HandshakeRequest.exists_alike`), so each
way is one of the dial's, and `Probe.Agrees` says what the two have in common.
-/

namespace ProxyDial

/-! ## Dials at the start -/

namespace Dialer

/-- Legs that fail leave the socket closed. -/
theorem stream_openTunnel {d : Dialer} {r : Resolver} {host : String} {port : UInt16}
    {s s' : Session} {e : DialError}
    (h : (d.openTunnel r host port).outcome s = (some (.error e), s')) : s'.stream = none := by
  have hfirst := d.connectRequest.leads_run r s
  rw [outcome_openTunnel] at h
  rcases h₁ : (d.connectRequest.run r).outcome s with ⟨_ | e₁ | u, s₁⟩
  · rw [h₁] at h
    cases h
  · rw [h₁] at h hfirst
    cases h
    exact hfirst.stream_eq_none
  · rw [h₁] at h
    have hsecond := (d.handshakeRequest host port).leads_run r s₁
    dsimp only at h
    rw [h] at hsecond
    exact hsecond.stream_eq_none

/-- At the start there is no socket that a dial could replace. -/
theorem outcome_dial_start (d : Dialer) (r : Resolver) (host : String) (port : UInt16)
    (net : Network) :
    (d.dial r host port).outcome (.start net) =
      (d.openTunnel r host port).outcome (.start net) := by
  rw [outcome_dial]
  show (Session.start net).dialled ((d.openTunnel r host port).outcome (.start net)) = _
  rcases h : (d.openTunnel r host port).outcome (.start net) with ⟨_ | e | u, s'⟩
  · rfl
  · rw [Session.dialled]
    have hs := stream_openTunnel h
    have hkept : (Session.start net).stream.map (Connection.advance s'.clock) = s'.stream := hs.symm
    rw [hkept]
  · rfl

end Dialer

namespace Probe

/-! ## The ways of the probe -/

/-- How a run of the probe goes that begins on `s`.  Between its legs it only says something. -/
inductive Tries (connect : ConnectRequest) (ask : HandshakeRequest) (r : Resolver) (s : Session) :
    Option Bool × Session → Prop where
  | connecting {s₁ : Session} (h₁ : (connect.run r).outcome s = (none, s₁)) :
      Tries connect ask r s (none, s₁)
  | unconnected {s₁ : Session} {e : DialError}
      (h₁ : (connect.run r).outcome s = (some (.error e), s₁)) :
      Tries connect ask r s
        (some false, s₁.record (.said .error s!"Connection failed: {e.message}"))
  | asking {s₁ s₁' s₂ : Session} (h₁ : (connect.run r).outcome s = (some (.ok ()), s₁))
      (hsaid : s₁.Alike s₁') (hc : s₁'.complaints = s₁.complaints)
      (h₂ : (ask.run r).outcome s₁' = (none, s₂)) : Tries connect ask r s (none, s₂)
  | refused {s₁ s₁' s₂ : Session} {e : DialError}
      (h₁ : (connect.run r).outcome s = (some (.ok ()), s₁))
      (hsaid : s₁.Alike s₁') (hc : s₁'.complaints = s₁.complaints)
      (h₂ : (ask.run r).outcome s₁' = (some (.error e), s₂)) :
      Tries connect ask r s
        (some false, s₂.record (.said .error s!"Handshake failed ({hint e}): {e.message}"))
  | opened {s₁ s₁' s₂ : Session} {message : String}
      (h₁ : (connect.run r).outcome s = (some (.ok ()), s₁))
      (hsaid : s₁.Alike s₁') (hc : s₁'.complaints = s₁.complaints)
      (h₂ : (ask.run r).outcome s₁' = (some (.ok ()), s₂)) :
      Tries connect ask r s (some true, (s₂.record (.said .info message)).closed)

variable {r : Resolver} {a : Arguments} {o : Options}

theorem outcome_sayConnected (s : Session) :
    ∃ message, sayConnected.outcome s = (some (), s.record (.said .info message)) := by
  rw [sayConnected, Op.outcome_bind, Op.remoteEndpoint]
  cases hs : s.stream with
  | none =>
    rw [Op.outcome_withStream_of_none hs]
    exact ⟨_, rfl⟩
  | some c =>
    rw [Op.outcome_withStream hs]
    cases c.remote? with
    | none =>
      dsimp only
      rw [← hs]
      exact ⟨_, rfl⟩
    | some peer =>
      dsimp only
      rw [← hs]
      exact ⟨_, rfl⟩

theorem tries_tryTunnel (r : Resolver) (a : Arguments) (o : Options) (s : Session) :
    Tries (connectRequest a o) (handshakeRequest a o) r
      (s.record (.said .info s!"Connect to SOCKS4 proxy at {hostPort a.socks}"))
      ((tryTunnel r a o).outcome s) := by
  rw [tryTunnel, say, Op.outcome_bind, Op.outcome_record]
  dsimp only
  rw [Op.outcome_bind]
  rcases h₁ : ((connectRequest a o).run r).outcome _ with ⟨_ | e | u, s₁⟩
  · exact .connecting h₁
  · exact .unconnected h₁
  · obtain ⟨greeting, hgreeting⟩ := outcome_sayConnected s₁
    dsimp only
    rw [Op.outcome_bind, hgreeting]
    dsimp only
    rw [say, Op.outcome_bind, Op.outcome_record]
    dsimp only
    rw [Op.outcome_bind]
    generalize hs₁ : (s₁.record (.said .info greeting)).record _ = s₁'
    have hsaid : s₁.Alike s₁' := by rw [← hs₁]; exact ⟨rfl, rfl, rfl⟩
    have hc : s₁'.complaints = s₁.complaints := by
      rw [← hs₁, Session.complaints_record_of_eq_none _ rfl,
        Session.complaints_record_of_eq_none _ rfl]
    rcases h₂ : ((handshakeRequest a o).run r).outcome s₁' with ⟨_ | e | u, s₂⟩
    · exact .asking h₁ hsaid hc h₂
    · exact .refused h₁ hsaid hc h₂
    · dsimp only
      rw [say, Op.outcome_bind, Op.outcome_record]
      dsimp only
      rw [Op.outcome_bind, Op.outcome_close]
      exact .opened h₁ hsaid hc h₂

/-! ## Agreement -/

/-- What a run of the probe and a dial have in common that begin on the same network. -/
structure Agrees (d : Dialer) (r : Resolver) (host : String) (port : UInt16) (net : Network)
    (probe : Option Bool × Session) : Prop where
  /-- The probe ends when the dial does, and succeeds if the dial does. -/
  result : probe.1 = ((d.dial r host port).outcome (.start net)).1.map Except.isOk
  /-- No server can tell which of the two it was. -/
  seen : ((d.dial r host port).outcome (.start net)).2.SeenAlike probe.2
  connectFailed : ∀ e, ((d.dial r host port).outcome (.start net)).1 = some (.error e) →
    (.said .error s!"Connection failed: {e.message}" ∈ probe.2.log ↔
      ((d.connectRequest.run r).outcome (.start net)).1 = some (.error e))
  handshakeFailed : ∀ e, ((d.dial r host port).outcome (.start net)).1 = some (.error e) →
    (.said .error s!"Handshake failed ({hint e}): {e.message}" ∈ probe.2.log ↔
      ∃ s₁, (d.connectRequest.run r).outcome (.start net) = (some (.ok ()), s₁) ∧
        (((d.handshakeRequest host port).run r).outcome s₁).1 = some (.error e))
  /-- It complains of nothing else. -/
  complaints : ∀ message, .said .error message ∈ probe.2.log →
    ∃ e, ((d.dial r host port).outcome (.start net)).1 = some (.error e) ∧
      (message = s!"Connection failed: {e.message}" ∨
        message = s!"Handshake failed ({hint e}): {e.message}")

/-- The two complaints are never the same. -/
theorem connectFailed_ne_handshakeFailed (e e₂ : DialError) :
    s!"Connection failed: {e.message}" ≠ s!"Handshake failed ({hint e₂}): {e₂.message}" := by
  intro h
  have hhead := congrArg (fun text => text.toList.head?) h
  have hfirst : (toString "Connection failed: ").toList.head? = some 'C' := rfl
  have hsecond : (toString "Handshake failed (").toList.head? = some 'H' := rfl
  simp [hfirst, hsecond] at hhead

variable {d : Dialer} {host : String} {port : UInt16} {net : Network}

/-- A probe that complains of nothing agrees with a dial that does not fail. -/
theorem Agrees.of_quiet {probe : Option Bool × Session} {o : Option (Except DialError Unit)}
    {s : Session} (hdial : (d.dial r host port).outcome (.start net) = (o, s))
    (ho : ∀ e, o ≠ some (.error e)) (hresult : probe.1 = o.map Except.isOk)
    (hseen : s.SeenAlike probe.2) (hc : probe.2.complaints = []) :
    Agrees d r host port net probe := by
  have hnone {e : DialError} (he : ((d.dial r host port).outcome (.start net)).1 =
      some (.error e)) : False := by
    rw [hdial] at he
    exact ho e he
  refine ⟨by rw [hdial, hresult], by rwa [hdial], fun e he => (hnone he).elim,
    fun e he => (hnone he).elim, fun message hm => ?_⟩
  rw [← Session.mem_complaints_iff, hc] at hm
  cases hm

theorem Tries.agrees {s : Session} {probe : Option Bool × Session}
    (h : Tries d.connectRequest (d.handshakeRequest host port) r s probe)
    (hs : (Session.start net).Alike s) (hc : s.complaints = []) :
    Agrees d r host port net probe := by
  have hdial := d.outcome_dial_start r host port net
  rw [Dialer.outcome_openTunnel] at hdial
  have hfirst {o : Option (Except DialError Unit)} {s₁ : Session}
      (h₁ : (d.connectRequest.run r).outcome s = (o, s₁)) :
      ∃ t₁, (d.connectRequest.run r).outcome (.start net) = (o, t₁) ∧ t₁.Alike s₁ ∧
        s₁.complaints = [] := by
    obtain ⟨t₁, h₁', ht₁⟩ := ConnectRequest.exists_alike hs h₁
    have hcomplaints := d.connectRequest.complaints_run r s
    rw [h₁, hc] at hcomplaints
    exact ⟨t₁, h₁', ht₁, hcomplaints⟩
  have hsecond {o : Option (Except DialError Unit)} {s₁ s₁' s₂ : Session}
      (h₁ : (d.connectRequest.run r).outcome s = (some (.ok ()), s₁)) (hsaid : s₁.Alike s₁')
      (hc' : s₁'.complaints = s₁.complaints)
      (h₂ : ((d.handshakeRequest host port).run r).outcome s₁' = (o, s₂)) :
      ∃ t₁ t₂, (d.connectRequest.run r).outcome (.start net) = (some (.ok ()), t₁) ∧
        ((d.handshakeRequest host port).run r).outcome t₁ = (o, t₂) ∧
        (d.dial r host port).outcome (.start net) = (o, t₂) ∧ t₂.Alike s₂ ∧
        s₂.complaints = [] := by
    obtain ⟨t₁, h₁', ht₁, hcomplaints⟩ := hfirst h₁
    obtain ⟨t₂, h₂', ht₂⟩ := HandshakeRequest.exists_alike (ht₁.trans hsaid) h₂
    have hcomplaints' := (d.handshakeRequest host port).complaints_run r s₁'
    rw [h₂, hc', hcomplaints] at hcomplaints'
    rw [h₁'] at hdial
    exact ⟨t₁, t₂, h₁', h₂', hdial.trans h₂', ht₂, hcomplaints'⟩
  cases h with
  | connecting h₁ =>
    obtain ⟨t₁, h₁', ht₁, hcomplaints⟩ := hfirst h₁
    rw [h₁'] at hdial
    exact .of_quiet hdial (by simp) rfl ht₁.seenAlike hcomplaints
  | @unconnected s₁ e h₁ =>
    obtain ⟨t₁, h₁', ht₁, hcomplaints⟩ := hfirst h₁
    rw [h₁'] at hdial
    dsimp only at hdial
    have hlog : (s₁.record (.said .error s!"Connection failed: {e.message}")).complaints =
        [s!"Connection failed: {e.message}"] := by
      rw [Session.complaints_record, hcomplaints]
      rfl
    refine ⟨by rw [hdial]; rfl, ?_, ?_, ?_, ?_⟩
    · rw [hdial]
      exact (ht₁.trans (s₁.alike_record _)).seenAlike
    · intro e' he
      rw [hdial] at he
      cases he
      rw [← Session.mem_complaints_iff, hlog, h₁']
      simp
    · intro e' he
      rw [hdial] at he
      cases he
      rw [← Session.mem_complaints_iff, hlog, h₁', List.mem_singleton]
      have hne := (connectFailed_ne_handshakeFailed e e).symm
      simp only [hne, false_iff]
      rintro ⟨s₁, h, -⟩
      cases h
    · intro message hm
      rw [← Session.mem_complaints_iff, hlog, List.mem_singleton] at hm
      exact ⟨e, by rw [hdial], .inl hm⟩
  | asking h₁ hsaid hc' h₂ =>
    obtain ⟨t₁, t₂, -, -, hdial, ht₂, hcomplaints⟩ := hsecond h₁ hsaid hc' h₂
    exact .of_quiet hdial (by simp) rfl ht₂.seenAlike hcomplaints
  | @refused s₁ s₁' s₂ e h₁ hsaid hc' h₂ =>
    obtain ⟨t₁, t₂, h₁', h₂', hdial, ht₂, hcomplaints⟩ := hsecond h₁ hsaid hc' h₂
    have hlog : (s₂.record (.said .error
        s!"Handshake failed ({hint e}): {e.message}")).complaints =
        [s!"Handshake failed ({hint e}): {e.message}"] := by
      rw [Session.complaints_record, hcomplaints]
      rfl
    refine ⟨by rw [hdial]; rfl, ?_, ?_, ?_, ?_⟩
    · rw [hdial]
      exact (ht₂.trans (s₂.alike_record _)).seenAlike
    · intro e' he
      rw [hdial] at he
      cases he
      rw [← Session.mem_complaints_iff, hlog, h₁', List.mem_singleton]
      have hne := connectFailed_ne_handshakeFailed e e
      simp [hne]
    · intro e' he
      rw [hdial] at he
      cases he
      rw [← Session.mem_complaints_iff, hlog, h₁', List.mem_singleton]
      simp only [true_iff]
      exact ⟨t₁, rfl, by rw [h₂']⟩
    · intro message hm
      rw [← Session.mem_complaints_iff, hlog, List.mem_singleton] at hm
      exact ⟨e, by rw [hdial], .inr hm⟩
  | @opened s₁ s₁' s₂ message h₁ hsaid hc' h₂ =>
    obtain ⟨t₁, t₂, -, -, hdial, ht₂, hcomplaints⟩ := hsecond h₁ hsaid hc' h₂
    have hseen := (ht₂.trans (s₂.alike_record (.said .info message))).seenAlike
    refine .of_quiet hdial (by simp) rfl (hseen.trans (Session.seenAlike_closed _)) ?_
    rw [Session.complaints_closed, Session.complaints_record_of_eq_none _ rfl, hcomplaints]

theorem hint_eq_iff (e : DialError) : hint e = "retryable" ↔ e.isRetryable := by
  rw [hint]
  cases e.isRetryable <;> simp

theorem validate_of_loadOptions {faultIn : String → String} {a : Arguments} {files : Files}
    {o : Options} (h : loadOptions faultIn a files = .ok o) : o.validate = .ok () := by
  unfold loadOptions at h
  split at h
  · cases h
  · dsimp only at h
    split at h
    · cases h
      assumption
    · cases h

/-- The probe does what a dialer with its options does, and tells in the log what came of it. -/
theorem runWith_agrees (faultIn : String → String) (r : Resolver) (a : Arguments) (files : Files)
    (net : Network) :
    (∀ e, loadOptions faultIn a files = .error e →
      (runWith faultIn r a files).run? (.start net) =
        some (false, (Session.start net).record (.said .error e.message))) ∧
    (∀ o, loadOptions faultIn a files = .ok o →
      ∃ d, Dialer.withOptions a.socks.1 a.socks.2 o = .ok d ∧
        Agrees d r a.target.1 a.target.2 net
          ((runWith faultIn r a files).outcome (.start net))) ∧
    (∀ e, hint e = "retryable" ↔ e.isRetryable) ∧
    ∀ names args, Arguments.ofList args = .ok a →
      run? faultIn names net files args =
        ((runWith faultIn (.system names) a files).run? (.start net)).map fun (success, s) =>
          { exitCode := if success then 0 else 1, events := s.log, received := s.received } := by
  refine ⟨fun e he => ?_, fun o ho => ?_, hint_eq_iff, fun names args ha => ?_⟩
  · rw [Op.run?_eq_some_iff, runWith, he]
    rfl
  · have hvalid := validate_of_loadOptions ho
    refine ⟨_, Dialer.withOptions_of_validate hvalid, ?_⟩
    rw [runWith, ho]
    have htries := tries_tryTunnel r a o (.start net)
    exact Tries.agrees (d := ⟨a.socks.1, a.socks.2, o, hvalid⟩) htries
      (Session.alike_record _ _) rfl
  · rw [run?, ha]

/-- A file of options is missing, and without it the proxy rejects the request.  The second run
of the probe reports what the dial fails with. -/
theorem runWith_agrees_rejected :
    let gate : Endpoint := .v4 ⟨127, 0, 0, 1⟩ 1080
    let script := Action.request ++ [.write [0, 91, 0, 0, 0, 0, 0, 0]]
    let net : Network := { servers := [{ address := gate, behaviour := .accepts [script] }] }
    let r := Resolver.fixed [gate]
    let files : Files := fun _ => .error .noSuchFile
    let faultIn : String → String := fun _ => "EOF while parsing"
    let lost : Arguments := { config := some "options" }
    let e := DialError.rejected .requestFailed
    (∃ e, loadOptions faultIn lost files = .error e ∧
      (runWith faultIn r lost files).run? (.start net) =
        some (false, (Session.start net).record (.said .error e.message))) ∧
    ∃ d, loadOptions faultIn {} files = .ok defaultOptions ∧
      Dialer.withOptions "127.0.0.1" 1080 defaultOptions = .ok d ∧
      ((d.dial r "example.com" 80).outcome (.start net)).1 = some (.error e) ∧
      ((runWith faultIn r {} files).outcome (.start net)).1 = some false ∧
      .said .error s!"Handshake failed ({hint e}): {e.message}" ∈
        ((runWith faultIn r {} files).outcome (.start net)).2.log := by
  intro gate script net r files faultIn lost e
  obtain ⟨hfail, -⟩ := runWith_agrees faultIn r lost files net
  obtain ⟨-, hload, -⟩ := runWith_agrees faultIn r {} files net
  refine ⟨⟨_, rfl, hfail _ rfl⟩, ?_⟩
  obtain ⟨d, hd, hagrees⟩ := hload defaultOptions rfl
  have hvalid : defaultOptions.validate = .ok () := by rfl
  cases hd.symm.trans (Dialer.withOptions_of_validate hvalid)
  let d : Dialer := ⟨"127.0.0.1", 1080, defaultOptions, hvalid⟩
  have hlegs : ∃ s₁, (d.connectRequest.run r).outcome (.start net) = (some (.ok ()), s₁) ∧
      (((d.handshakeRequest "example.com" 80).run r).outcome s₁).1 = some (.error e) := by
    let s₁ := ((d.connectRequest.run r).outcome (.start net)).2
    have h₁ : ((d.connectRequest.run r).outcome (.start net)).1 = some (.ok ()) := by
      dsimp only [d, r, net, script, gate, Dialer.connectRequest, defaultOptions]
      rfl
    have h₂ : (((d.handshakeRequest "example.com" 80).run r).outcome s₁).1 = some (.error e) := by
      dsimp only [s₁, d, r, net, script, gate, e, Dialer.connectRequest, Dialer.handshakeRequest,
        defaultOptions]
      rfl
    exact ⟨s₁, (Op.run?_eq_some_iff ..).1 (Op.run?_of_outcome h₁), h₂⟩
  have hdial : ((d.dial r "example.com" 80).outcome (.start net)).1 = some (.error e) := by
    obtain ⟨s₁, h₁, h₂⟩ := hlegs
    rw [Dialer.outcome_dial_start, Dialer.outcome_openTunnel, h₁]
    exact h₂
  have hresult := hagrees.result
  exact ⟨d, rfl, hd, hdial, hresult.trans (congrArg (Option.map Except.isOk) hdial),
    (hagrees.handshakeFailed e hdial).2 hlegs⟩

end Probe

end ProxyDial
