import ProxyDial.Proofs.Dial.Composition

/-!
# The socket over a history

*One step.*  `Session.Owns` says what each kind of step does to the socket, and `owns_step`
that nothing else happens to it.  So the outcomes of a history tell whether the socket is open
in the end (`History.isOpen_eq`).

*A socket that is not open.*  Whatever needs a connection fails then, and nothing is sent.
A dial is no exception, since it has a socket of its own.  This lasts until a step opens the
socket (`History.stays_closed`).

*A connection that is kept.*  It is part of the outcome of the step that took it out.  Wrapped
again it is as if it had stayed in the socket (`history_rewrapped`).
-/

namespace ProxyDial

/-! ## One step -/

/-- Whether a step is a call on the connection in the socket. -/
def Step.isCall : Step → Bool
  | writeAll _ => true
  | readExact _ => true
  | read _ => true
  | readToEnd => true
  | write _ => true
  | flush => true
  | shutdown => true
  | remote => true
  | Step.local => true
  | _ => false

/-- What a step that ended so has done to the socket. -/
inductive Session.Owns (s : Session) : Step → Outcome → Session → Prop where
  | timedConnect {q : ConnectRequest} {r : Resolver} {result : Except DialError Unit}
      {s' : Session} (hopen : s'.isOpen ↔ result = .ok ()) :
      Owns s (.timedConnect q r) (.attempt result) s'
  | handshake {q : HandshakeRequest} {r : Resolver} {result : Except DialError Unit}
      {s' : Session} (hopen : s'.isOpen ↔ result = .ok ()) (hbefore : s'.isOpen → s.isOpen) :
      Owns s (.handshake q r) (.attempt result) s'
  | prepareConnect {q : ConnectRequest} {r : Resolver} :
      Owns s (.prepareConnect q r) (.connectState .start) s
  | prepareHandshake {q : HandshakeRequest} {r : Resolver} :
      Owns s (.prepareHandshake q r) (.handshakeState .start) s
  | badOptions {host : String} {port : UInt16} {options : String} {r : Resolver}
      {targetHost : String} {targetPort : UInt16} :
      Owns s (.dial host port options r targetHost targetPort) .badOptions s
  | noDialer {host : String} {port : UInt16} {options : String} {r : Resolver}
      {targetHost : String} {targetPort : UInt16} {e : DialError} :
      Owns s (.dial host port options r targetHost targetPort) (.attempt (.error e)) s
  /-- A dial that fails keeps the connection that there is.  Its server has gone on meanwhile. -/
  | undialled {host : String} {port : UInt16} {options : String} {r : Resolver}
      {targetHost : String} {targetPort : UInt16} {e : DialError} {s' : Session}
      (hs : s'.stream = s.stream.map (Connection.advance s'.clock)) :
      Owns s (.dial host port options r targetHost targetPort) (.attempt (.error e)) s'
  | dialled {host : String} {port : UInt16} {options : String} {r : Resolver}
      {targetHost : String} {targetPort : UInt16} {s' : Session} (hopen : s'.isOpen) :
      Owns s (.dial host port options r targetHost targetPort) (.attempt (.ok ())) s'
  | connected {endpoints : List Endpoint} {e : Endpoint} {c : Connection} {s' : Session}
      (hm : e ∈ endpoints) (hs : s'.stream = some c) (hpeer : c.peer = e) :
      Owns s (.connect endpoints) (.io (.ok (.endpoint e))) s'
  | unconnected {endpoints : List Endpoint} {why : IoError} {s' : Session}
      (hs : s'.stream = none) : Owns s (.connect endpoints) (.io (.error why)) s'
  /-- A call leaves an open socket open and a closed one closed, also if it fails. -/
  | call {step : Step} {outcome : Outcome} {s' : Session} (hcall : step.isCall)
      (hopen : s'.isOpen = s.isOpen) : Owns s step outcome s'
  | close : Owns s .close .silent s.closed
  | rewrapped : Owns s (.takeStream true) (.hadStream s.isOpen) s
  | taken {s' : Session} (hs : s'.stream = none) :
      Owns s (.takeStream false) (.hadStream s.isOpen) s'
  /-- A connection that is kept is not the socket's any more. -/
  | kept : Owns s .keepStream (.kept s.stream) { s with stream := none }
  /-- Its server has gone on when it is wrapped. -/
  | wrapped {c : Connection} {s' : Session} (hs : s'.stream = some (c.advance s.clock)) :
      Owns s (.wrapStream c) .silent s'
  | slept {millis : Nat} : Owns s (.sleep millis) .silent (s.moveTo (s.clock + millis))

/-- Whether a step has opened the socket. -/
def Step.opens : Step × Outcome → Bool
  | (timedConnect .., .attempt (.ok ())) => true
  | (connect _, .io (.ok _)) => true
  | (dial .., .attempt (.ok ())) => true
  | (wrapStream _, _) => true
  | _ => false

/-- Whether a step has closed the socket. -/
def Step.closes : Step × Outcome → Bool
  | (timedConnect .., .attempt (.error _)) => true
  | (handshake .., .attempt (.error _)) => true
  | (connect _, .io (.error _)) => true
  | (close, _) => true
  | (takeStream putBack, _) => !putBack
  | (keepStream, _) => true
  | _ => false

/-- Whether the socket is open after a step, as far as its outcome tells. -/
def Step.leavesOpen (before : Bool) (taken : Step × Outcome) : Bool :=
  opens taken || before && !closes taken

variable {s s' s'' : Session} {step : Step} {outcome : Outcome}
  {history : List (Step × Outcome)}

theorem Step.leavesOpen_of_isCall {before : Bool} (hcall : step.isCall) :
    leavesOpen before (step, outcome) = before := by
  cases step <;> simp_all [isCall, leavesOpen, opens, closes]

/-- Whether the socket is open after a step can be told from the outcome. -/
theorem Session.Owns.isOpen_eq (h : s.Owns step outcome s') :
    s'.isOpen = Step.leavesOpen s.isOpen (step, outcome) := by
  have hclosed {s : Session} (hs : s.stream = none) : s.isOpen = false := by rw [isOpen, hs]; rfl
  cases h with
  | @timedConnect _ _ result _ hopen =>
    rw [Bool.eq_iff_iff, hopen]
    cases result <;> simp [Step.leavesOpen, Step.opens, Step.closes]
  | @handshake _ _ result _ hopen hbefore =>
    cases result with
    | error e => simpa [Step.leavesOpen, Step.opens, Step.closes] using hopen
    | ok u =>
      have hnow : s'.isOpen := hopen.2 rfl
      rw [hnow, hbefore hnow]
      rfl
  | undialled hs =>
    simp [isOpen, hs, Step.leavesOpen, Step.opens, Step.closes]
  | dialled hopen => simpa [Step.leavesOpen, Step.opens] using hopen
  | connected _ hs => simp [isOpen, hs, Step.leavesOpen, Step.opens]
  | unconnected hs => simp [hclosed hs, Step.leavesOpen, Step.opens, Step.closes]
  | call hcall hopen =>
    rw [hopen]
    exact (Step.leavesOpen_of_isCall hcall).symm
  | close => simp [isOpen, Step.leavesOpen, Step.opens, Step.closes]
  | taken hs => simp [hclosed hs, Step.leavesOpen, Step.opens, Step.closes]
  | kept => simp [isOpen, Step.leavesOpen, Step.opens, Step.closes]
  | wrapped hs => simp [isOpen, hs, Step.leavesOpen, Step.opens]
  | slept => simp [isOpen, Step.leavesOpen, Step.opens, Step.closes]
  | _ => simp [Step.leavesOpen, Step.opens, Step.closes]

/-- A write on a socket that is not open fails, also if there is nothing to write. -/
theorem Op.outcome_writeAll_of_none (hs : s.stream = none) (bytes : List UInt8) :
    (Op.writeAll bytes).outcome s = (some (.error .socketClosed), s) := by
  cases bytes with
  | nil => simp [writeAll, writeRest, outcome_withStream_of_none hs]
  | cons b bytes =>
    simp [writeAll, writeRest, write, outcome_awaitReady_of_none hs, outcome_withStream_of_none hs]

/-- A call on a socket that is not open fails and does nothing. -/
theorem Step.run?_call_of_none (hs : s.stream = none) (hcall : step.isCall) :
    step.run.run? s = some (.io (.error .socketClosed), s) := by
  rw [Op.run?_eq_some_iff]
  cases step with
  | writeAll => simp [run, Op.outcome_writeAll_of_none hs, Except.map]
  | readExact =>
    simp [run, Op.readExact, Op.outcome_awaitReady_of_none hs, Op.outcome_withStream_of_none hs,
      Except.map]
  | read =>
    simp [run, Op.read, Op.outcome_awaitReady_of_none hs, Op.outcome_withStream_of_none hs,
      Except.map]
  | readToEnd =>
    simp [run, Op.readToEnd, Op.outcome_awaitReady_of_none hs, Op.outcome_withStream_of_none hs,
      Except.map]
  | write =>
    simp [run, Op.write, Op.outcome_awaitReady_of_none hs, Op.outcome_withStream_of_none hs,
      Except.map]
  | flush => simp [run, Op.flush, Op.outcome_withStream_of_none hs, Except.map]
  | shutdown => simp [run, Op.shutdown, Op.outcome_withStream_of_none hs, Except.map]
  | remote => simp [run, Op.remoteEndpoint, Op.outcome_withStream_of_none hs, Except.map]
  | «local» => simp [run, Op.localIsIPv4, Op.outcome_withStream_of_none hs, Except.map]
  | timedConnect => cases hcall
  | handshake => cases hcall
  | prepareConnect => cases hcall
  | prepareHandshake => cases hcall
  | dial => cases hcall
  | connect => cases hcall
  | close => cases hcall
  | takeStream => cases hcall
  | keepStream => cases hcall
  | wrapStream => cases hcall
  | sleep => cases hcall

namespace HandshakeRequest

variable {q : HandshakeRequest} {r : Resolver}

/-- A handshake on a socket that is not open fails at once. -/
theorem outcome_run_of_none (hs : s.stream = none) :
    (q.run r).outcome s = (some (.error (.transport .noProxy)), { s with timer := .idle }) := by
  have hopen : ({ s with timer := .idle } : Session).isOpen = false := by
    simp [Session.isOpen, hs]
  have hp : (ExceptT.run (q.seek r)).outcome { s with timer := .idle } =
      (some (.error (.transport .noProxy)), { s with timer := .idle }) := by
    rw [seek, start]
    simp [hopen]
  have hcancelled : ({ s with timer := .idle } : Session).cancelled = { s with timer := .idle } :=
    rfl
  rw [q.outcome_run_of_lost r hp (by simp),
    Session.closed_of_none (s := { s with timer := .idle }) hs, hcancelled]
  rfl

end HandshakeRequest

/-- The server's address can be asked for unless the connection was reset. -/
theorem run?_remote {c : Connection} (hs : s.stream = some c) (hreset : ¬c.isReset) :
    Step.remote.run.run? s = some (.io (.ok (.endpoint c.peer)), s) := by
  have hremote : c.remote? = some c.peer := by
    cases hending : c.ending with
    | waiting => simp [Connection.remote?, hending]
    | ended => simp [Connection.remote?, hending]
    | broken => exact absurd (.inl hending) hreset
    | gone => exact absurd (.inr hending) hreset
  rw [Op.run?_eq_some_iff, Step.run, Op.outcome_bind, Op.remoteEndpoint,
    Op.outcome_withStream hs, hremote]
  dsimp only
  rw [← hs]
  rfl

theorem owns_call (hcall : step.isCall) (h : step.run.run? s = some (outcome, s')) :
    s.Owns step outcome s' := by
  refine .call hcall ?_
  cases hs : s.stream with
  | none =>
    rw [Step.run?_call_of_none hs hcall] at h
    cases h
    rfl
  | some c =>
    have htransfers : step.transfers := by
      cases step <;> first | rfl | cases hcall
    obtain ⟨c', _, _, hs', -⟩ := carries_step htransfers hs h
    simp [Session.isOpen, hs, hs']

theorem owns_dial {host : String} {port : UInt16} {text : String} {r : Resolver}
    {targetHost : String} {targetPort : UInt16}
    (h : (Step.dial host port text r targetHost targetPort).run.run? s = some (outcome, s')) :
    s.Owns (.dial host port text r targetHost targetPort) outcome s' := by
  rw [Step.run] at h
  split at h
  · cases h
    exact .badOptions
  · split at h
    · cases h
      exact .noDialer
    · rename_i options htext _ d hd
      obtain ⟨result, s₁, hrun, h⟩ := Op.exists_of_run?_bind h
      cases h
      have hdials := d.dials_dial r targetHost targetPort s
      rw [(Op.run?_eq_some_iff ..).1 hrun] at hdials
      cases hdials with
      | unconnected => exact .undialled rfl
      | refused => exact .undialled rfl
      | opened _ _ _ _ hc => exact .dialled (Session.isOpen_of_some hc)

theorem owns_connect {endpoints : List Endpoint} {result : Except IoError Endpoint}
    (h : (Op.connect endpoints).run? s = some (result, s')) :
    s.Owns (.connect endpoints) (.io (result.map .endpoint)) s' := by
  have hc := Op.connects_of_run? h
  cases result with
  | ok e =>
    obtain ⟨server, scripts, -, -, hs', -⟩ := hc.exists_accepted
    exact .connected hc.mem hs' (Connection.peer_advance ..)
  | error why => exact .unconnected (hc.stream_eq_none s.closed_stream)

/-- A connection that is taken out is put back as it is, or else it is closed. -/
theorem Step.eq_of_run?_takeStream {putBack : Bool}
    (h : (Step.takeStream putBack).run.run? s = some (outcome, s')) :
    outcome = .hadStream s.isOpen ∧
      s' = if putBack then s else
        { s with net := s.stream.elim s.net s.net.close, stream := none } := by
  obtain ⟨stream, s₁, htake, h⟩ := Op.exists_of_run?_bind h
  have ho := (Op.run?_eq_some_iff ..).1 htake
  rw [Op.outcome_takeStream] at ho
  cases ho
  cases hs : s.stream with
  | none =>
    rw [hs] at h
    cases h
    refine ⟨by simp [Session.isOpen, hs], ?_⟩
    cases putBack with
    | true => simp [← hs]
    | false => simp
  | some c =>
    rw [hs] at h
    cases putBack with
    | true =>
      cases h
      exact ⟨by simp [Session.isOpen, hs], by simp [← hs]⟩
    | false =>
      cases h
      exact ⟨by simp [Session.isOpen, hs], by simp⟩

theorem owns_takeStream {putBack : Bool}
    (h : (Step.takeStream putBack).run.run? s = some (outcome, s')) :
    s.Owns (.takeStream putBack) outcome s' := by
  obtain ⟨rfl, rfl⟩ := Step.eq_of_run?_takeStream h
  cases putBack with
  | true => exact .rewrapped
  | false => exact .taken rfl

theorem Step.eq_of_run?_wrapStream {c : Connection}
    (h : (Step.wrapStream c).run.run? s = some (outcome, s')) :
    outcome = .silent ∧ s'.stream = some (c.advance s.clock) := by
  obtain ⟨_, s₁, hwrap, h⟩ := Op.exists_of_run?_bind h
  have ho := (Op.run?_eq_some_iff ..).1 hwrap
  rw [Op.outcome_wrapStream] at ho
  cases ho
  cases h
  exact ⟨rfl, rfl⟩

theorem owns_step (h : step.run.run? s = some (outcome, s')) : s.Owns step outcome s' := by
  cases step with
  | timedConnect q r =>
    obtain ⟨result, s₁, hrun, h⟩ := Op.exists_of_run?_bind h
    cases h
    have hrun := (Op.run?_eq_some_iff ..).1 hrun
    refine .timedConnect ?_
    cases result with
    | ok u =>
      obtain ⟨c, hopened⟩ := ConnectRequest.exists_opened hrun
      simp [Session.isOpen, hopened.stream]
    | error e =>
      have hl := q.leads_run r s
      rw [hrun] at hl
      simp [Session.isOpen, hl.stream_eq_none]
  | handshake q r =>
    obtain ⟨result, s₁, hrun, h⟩ := Op.exists_of_run?_bind h
    cases h
    have ho := (Op.run?_eq_some_iff ..).1 hrun
    cases result with
    | ok u =>
      cases hs : s.stream with
      | none =>
        rw [HandshakeRequest.outcome_run_of_none hs] at ho
        cases ho
      | some c =>
        obtain ⟨ip, c', _, -, hs', -⟩ := HandshakeRequest.carries_run hs hrun
        exact .handshake (by simp [Session.isOpen, hs']) (by simp [Session.isOpen, hs])
    | error e =>
      have hl := q.leads_run r s
      rw [ho] at hl
      have hs' := hl.stream_eq_none
      exact .handshake (by simp [Session.isOpen, hs']) (by simp [Session.isOpen, hs'])
  | prepareConnect q r =>
    cases h
    exact .prepareConnect
  | prepareHandshake q r =>
    cases h
    exact .prepareHandshake
  | dial host port text r targetHost targetPort =>
    exact owns_dial h
  | connect endpoints =>
    obtain ⟨result, s₁, hrun, h⟩ := Op.exists_of_run?_bind h
    cases h
    exact owns_connect hrun
  | close =>
    obtain ⟨u, s₁, hrun, h⟩ := Op.exists_of_run?_bind h
    cases h
    have ho := (Op.run?_eq_some_iff ..).1 hrun
    rw [Op.outcome_close] at ho
    cases ho
    exact .close
  | takeStream putBack => exact owns_takeStream h
  | keepStream =>
    cases h
    exact .kept
  | wrapStream c =>
    obtain ⟨rfl, hs⟩ := Step.eq_of_run?_wrapStream h
    exact .wrapped hs
  | sleep millis =>
    cases h
    exact .slept
  | writeAll bytes => exact owns_call rfl h
  | readExact count => exact owns_call rfl h
  | read count => exact owns_call rfl h
  | readToEnd => exact owns_call rfl h
  | write bytes => exact owns_call rfl h
  | flush => exact owns_call rfl h
  | shutdown => exact owns_call rfl h
  | remote => exact owns_call rfl h
  | «local» => exact owns_call rfl h

/-- Whether the socket is open after a history can be told from the outcomes. -/
theorem History.isOpen_eq (h : History s history s') :
    s'.isOpen = history.foldl Step.leavesOpen s.isOpen := by
  induction h with
  | nil => rfl
  | cons hstep _ ih => rw [List.foldl_cons, ih, (owns_step hstep).isOpen_eq]

/-! ## A socket that is not open -/

/-- What a dial may send to its proxy: a request, as far as the network takes it. -/
def Step.Asks : Step → List UInt8 → Prop
  | dial host port text _ targetHost targetPort, bytes =>
    ∃ options d ip, Options.ofJson? text = some options ∧
      Dialer.withOptions host port options = .ok d ∧
      bytes <+: (d.handshakeRequest targetHost targetPort).wire ip
  | _, _ => False

/-- Nothing was sent in a history but what dials have sent on connections of their own.  A dial
opens a socket for itself, and a server may read the request although the dial fails. -/
def Session.Spares (s : Session) (history : List (Step × Outcome)) (s' : Session) : Prop :=
  ∃ added, s'.sent = s.sent ++ added ∧
    ∀ t ∈ added, t.2.2 = [] ∨ ∃ taken ∈ history, taken.1.Asks t.2.2

namespace Session

theorem Spares.of_sent_eq (h : s'.sent = s.sent) : s.Spares history s' :=
  ⟨[], by simp [h], by simp⟩

theorem Silent.spares (h : s.Silent s') : s.Spares history s' := by
  obtain ⟨added, hsent, hsilent⟩ := h
  exact ⟨added, hsent, fun t ht => .inl (hsilent t ht)⟩

/-- A history without a dial that asks for something sends nothing. -/
theorem Spares.silent (h : s.Spares history s')
    (hasks : ∀ taken ∈ history, ∀ bytes, ¬taken.1.Asks bytes) : s.Silent s' := by
  obtain ⟨added, hsent, hadded⟩ := h
  refine ⟨added, hsent, fun t ht => (hadded t ht).resolve_right ?_⟩
  rintro ⟨taken, hm, h⟩
  exact hasks taken hm _ h

theorem Spares.cons {taken : Step × Outcome} (h : s.Spares [taken] s')
    (h' : s'.Spares history s'') : s.Spares (taken :: history) s'' := by
  obtain ⟨added, hsent, hadded⟩ := h
  obtain ⟨added', hsent', hadded'⟩ := h'
  refine ⟨added ++ added', by rw [hsent', hsent, List.append_assoc], fun t ht => ?_⟩
  rcases List.mem_append.1 ht with ht | ht
  · rcases hadded t ht with hnil | ⟨_, hm, hasks⟩
    · exact .inl hnil
    · exact .inr ⟨taken, .head _, by rwa [List.mem_singleton.1 hm] at hasks⟩
  · rcases hadded' t ht with hnil | ⟨taken', hm, hasks⟩
    · exact .inl hnil
    · exact .inr ⟨taken', .tail _ hm, hasks⟩

end Session

theorem spares_dial {host : String} {port : UInt16} {text : String} {r : Resolver}
    {targetHost : String} {targetPort : UInt16} (hs : s.stream = none)
    (h : (Step.dial host port text r targetHost targetPort).run.run? s = some (outcome, s')) :
    s.Spares [(.dial host port text r targetHost targetPort, outcome)] s' := by
  rw [Step.run] at h
  split at h
  · cases h
    exact .of_sent_eq rfl
  · rename_i options htext
    split at h
    · cases h
      exact .of_sent_eq rfl
    · rename_i d hd
      obtain ⟨result, s₁, hrun, h⟩ := Op.exists_of_run?_bind h
      cases h
      have hfresh : s.fresh.sent = s.sent := by simp [Session.sent, hs]
      have hasked {s₁ s₂ s' : Session} {c : Connection} {o : Option (Except DialError Unit)}
          {outcome : Outcome}
          (ha : (d.handshakeRequest targetHost targetPort).AsksOnce r s₁ c s.fresh.sent (o, s₂))
          (hsame : s'.sent = s₂.sent) :
          s.Spares [(.dial host port text r targetHost targetPort, outcome)] s' := by
        obtain ⟨bytes, hsent, hbytes⟩ := ha.sent
        refine ⟨[(c.peer, c.ordinal, bytes)], by rw [hsame, hsent, hfresh], ?_⟩
        rintro t ht
        cases List.mem_singleton.1 ht
        refine hbytes.imp_right ?_
        rintro ⟨ip, -, hprefix, -⟩
        exact ⟨_, .head _, options, d, ip, htext, hd, hprefix⟩
      have hdials := d.dials_dial r targetHost targetPort s
      rw [(Op.run?_eq_some_iff ..).1 hrun] at hdials
      cases hdials with
      | unconnected _ hs₁ hc =>
        obtain ⟨added, hsent, hsilent⟩ := hs₁
        refine Session.Silent.spares ⟨added, ?_, hsilent⟩
        rw [← hfresh, ← hsent]
        simp [Session.sent, hs, hc]
      | refused _ _ _ hs₂ hc => exact hasked hs₂ (by simp [Session.sent, hs, hc])
      | opened _ _ _ hs₂ => exact hasked hs₂ (by simp [Session.sent, hs])

/-- On a socket that is not open nothing is sent, unless a connection is put into it. -/
theorem spares_step (hs : s.stream = none) (h : step.run.run? s = some (outcome, s'))
    (hopens : Step.opens (step, outcome) = false) : s.Spares [(step, outcome)] s' := by
  have hcall (hcall : step.isCall) : s.Spares [(step, outcome)] s' := by
    rw [Step.run?_call_of_none hs hcall] at h
    cases h
    exact .of_sent_eq rfl
  cases step with
  | timedConnect q r =>
    obtain ⟨result, s₁, hrun, h⟩ := Op.exists_of_run?_bind h
    cases h
    have hsilent := q.silent_run r s
    rw [(Op.run?_eq_some_iff ..).1 hrun] at hsilent
    exact hsilent.spares
  | handshake q r =>
    obtain ⟨result, s₁, hrun, h⟩ := Op.exists_of_run?_bind h
    cases h
    have ho := (Op.run?_eq_some_iff ..).1 hrun
    rw [HandshakeRequest.outcome_run_of_none hs] at ho
    cases ho
    exact .of_sent_eq rfl
  | prepareConnect q r =>
    cases h
    exact .of_sent_eq rfl
  | prepareHandshake q r =>
    cases h
    exact .of_sent_eq rfl
  | dial host port text r targetHost targetPort => exact spares_dial hs h
  | connect endpoints =>
    obtain ⟨result, s₁, hrun, h⟩ := Op.exists_of_run?_bind h
    cases h
    obtain ⟨added, hsent, hsilent, -⟩ := (Op.connects_of_run? hrun).sent_eq s.closed_stream
    exact Session.Silent.spares ⟨added, by simpa using hsent, hsilent⟩
  | close =>
    have howns := owns_step h
    cases howns with
    | close => exact .of_sent_eq s.sent_closed
    | call hcall => cases hcall
  | takeStream putBack =>
    obtain ⟨-, rfl⟩ := Step.eq_of_run?_takeStream h
    cases putBack with
    | true => exact .of_sent_eq rfl
    | false => exact .of_sent_eq (by simp [Session.sent, hs])
  | keepStream =>
    cases h
    exact .of_sent_eq (by simp [Session.sent, hs])
  | wrapStream c => cases hopens
  | sleep millis =>
    cases h
    exact .of_sent_eq (s.sent_moveTo _)
  | writeAll => exact hcall rfl
  | readExact => exact hcall rfl
  | read => exact hcall rfl
  | readToEnd => exact hcall rfl
  | write => exact hcall rfl
  | flush => exact hcall rfl
  | shutdown => exact hcall rfl
  | remote => exact hcall rfl
  | «local» => exact hcall rfl

theorem History.stays_closed (h : History s history s') (hs : s.isOpen = false)
    (hopens : ∀ taken ∈ history, Step.opens taken = false) :
    s'.isOpen = false ∧ s.Spares history s' := by
  induction h with
  | nil => exact ⟨hs, .of_sent_eq rfl⟩
  | @cons s s₁ s' step outcome history hstep _ ih =>
    have hs₁ : s₁.isOpen = false := by
      rw [(owns_step hstep).isOpen_eq, Step.leavesOpen, hs, hopens _ (.head _)]
      rfl
    obtain ⟨hs', hspares⟩ := ih hs₁ fun taken hm => hopens taken (.tail _ hm)
    have hnone : s.stream = none := by simpa [Session.isOpen] using hs
    exact ⟨hs', (spares_step hnone hstep (hopens _ (.head _))).cons hspares⟩

/-- A connection that is kept for a while and then wrapped is as if it had stayed. -/
theorem history_rewrapped {c : Connection} (hs : s.stream = some c) (millis : Nat) :
    History s [(.keepStream, .kept (some c)), (.sleep millis, .silent), (.wrapStream c, .silent)]
      (s.moveTo (s.clock + millis)) := by
  let kept : Session := { s with stream := none }
  have hkeep : Step.keepStream.run.run? s = some (.kept (some c), kept) := by
    rw [← hs]
    rfl
  have hwrap : (Step.wrapStream c).run.run? (kept.moveTo (s.clock + millis)) =
      some (.silent, s.moveTo (s.clock + millis)) := by
    rw [Op.run?_eq_some_iff, Step.run, Op.outcome_bind, Op.outcome_wrapStream]
    simp [kept, Session.moveTo, hs]
  exact .cons hkeep (.cons rfl (.cons hwrap .nil))

/-- A socket is used by one client in any way from its beginning.  The outcomes of the steps
tell whether it is open, and no step does more to it than `Session.Owns` says.  While it is not
open whatever needs a connection fails and nothing is sent, until a connect, a timed connect or
a dial succeeds or a connection is wrapped.  One that is kept and then wrapped is as if it had
stayed. -/
theorem socket_owned {net : Network} (h : History (.start net) history s) :
    s.isOpen = history.foldl Step.leavesOpen false ∧
    (∀ step outcome s', step.run.run? s = some (outcome, s') → s.Owns step outcome s') ∧
    (∀ endpoints e s' c, (Step.connect endpoints).run.run? s = some (.io (.ok (.endpoint e)), s') →
      s'.stream = some c → ¬c.isReset →
        Step.remote.run.run? s' = some (.io (.ok (.endpoint e)), s')) ∧
    (s.isOpen = false →
      (∀ step : Step, step.isCall → step.run.run? s = some (.io (.error .socketClosed), s)) ∧
      (∀ q r, (Step.handshake q r).run.run? s =
        some (.attempt (.error (.transport .noProxy)), { s with timer := .idle })) ∧
      (∀ later s', History s later s' →
        (∀ taken ∈ later, Step.opens taken = false) →
        s'.isOpen = false ∧ s.Spares later s' ∧
        ((∀ taken ∈ later, ∀ bytes, ¬taken.1.Asks bytes) → s.Silent s')) ∧
      (∀ step outcome s', step.run.run? s = some (outcome, s') →
        (s'.isOpen ↔ Step.opens (step, outcome))) ∧
      s.closed = s) ∧
    Step.close.run.run? s = some (.silent, s.closed) ∧
    s.closed.closed = s.closed ∧
    (∀ c millis, s.stream = some c →
      History s [(.keepStream, .kept (some c)), (.sleep millis, .silent), (.wrapStream c, .silent)]
        (s.moveTo (s.clock + millis))) ∧
    IoError.socketClosed.kind = .notConnected ∧ IoError.noProxy.kind = .notConnected := by
  refine ⟨h.isOpen_eq, fun step outcome s' => owns_step, ?_, fun hs => ?_, ?_, ?_,
    fun c millis hs => history_rewrapped hs millis, rfl, rfl⟩
  · intro endpoints e s' c hrun hs' hreset
    have howns := owns_step hrun
    cases howns with
    | connected _ hs hpeer =>
      cases hs.symm.trans hs'
      exact hpeer ▸ run?_remote hs' hreset
    | call hcall => cases hcall
  · have hnone : s.stream = none := by simpa [Session.isOpen] using hs
    refine ⟨fun step => Step.run?_call_of_none hnone, ?_, ?_, ?_, Session.closed_of_none hnone⟩
    · intro q r
      rw [Op.run?_eq_some_iff, Step.run, Op.outcome_bind,
        HandshakeRequest.outcome_run_of_none hnone]
      rfl
    · intro later s' hlater hopens
      obtain ⟨hs', hspares⟩ := hlater.stays_closed hs hopens
      exact ⟨hs', hspares, hspares.silent⟩
    · intro step outcome s' hrun
      rw [(owns_step hrun).isOpen_eq, hs, Step.leavesOpen]
      simp
  · rw [Op.run?_eq_some_iff, Step.run, Op.outcome_bind, Op.outcome_close]
    rfl
  · exact Session.closed_of_none s.closed_stream

/-- A client writes to a proxy and closes the socket.  A call that comes later fails, and a dial
that the proxy rejects sends its request on a connection of its own. -/
theorem socket_owned_rejected :
    let gate : Endpoint := .v4 ⟨10, 0, 0, 1⟩ 1080
    let script := Action.request ++ [.write [0, 91, 0, 0, 0, 0, 0, 0]]
    let net : Network := { servers := [{ address := gate, behaviour := .accepts [[], script] }] }
    let first : List (Step × Outcome) :=
      [(.connect [gate], .io (.ok (.endpoint gate))), (.write [1, 2], .io (.ok (.count 2))),
        (.close, .silent)]
    let later : List (Step × Outcome) :=
      [(.writeAll [], .io (.error .socketClosed)),
        (.dial "proxy" 1080 "[]" (.fixed [gate]) "target" 80,
          .attempt (.error (.rejected .requestFailed)))]
    ∃ s s', History (.start net) first s ∧ History s later s' ∧ s.isOpen = false ∧
      s'.isOpen = false ∧ s.Spares later s' := by
  intro gate script net first later
  have htext : Options.ofJson? "[]" = some {} := by decide +kernel
  let dial : Step := .dial "proxy" 1080 "[]" (.fixed [gate]) "target" 80
  obtain ⟨s, hfirst, hdial, hclosed⟩ : ∃ s, History (.start net) first s ∧
      (dial.run.outcome s).1 = some (.attempt (.error (.rejected .requestFailed))) ∧
      s.isOpen = false := by
    dsimp only [net, first, script, gate, dial]
    refine ⟨_, .cons rfl (.cons rfl (.cons rfl .nil)), ?_, rfl⟩
    simp only [Step.run, htext]
    rfl
  obtain ⟨-, -, -, hnotOpen, -⟩ := socket_owned hfirst
  obtain ⟨hcall, -, hlater, -⟩ := hnotOpen hclosed
  have hhistory : History s later (dial.run.outcome s).2 :=
    .cons (hcall (.writeAll []) rfl) (.cons (Op.run?_of_outcome hdial) .nil)
  obtain ⟨hs', hspares, -⟩ := hlater later _ hhistory (by simp [later, Step.opens])
  exact ⟨s, _, hfirst, hhistory, hclosed, hs', hspares⟩

end ProxyDial
