import ProxyDial.Proofs.Connect.Traces
import ProxyDial.Proofs.Connect.Verdict
import ProxyDial.Proofs.Session.Bystanders

/-!
# Connecting to one of several candidates

Connecting closes the socket and then walks over the candidates (`Op.course_connect`).

*Letting go.*  As long as the walk has not ended the socket is closed, the connection that it
held before is closed, and so is every connection that a server has accepted on the way.
`Session.LetGo` says so.  It holds wherever the walk is suspended and is not lost in time, so
it holds whenever the walk is given up (`Op.letGo_of_giveUpAt`).

*Attempts.*  A walk asks one candidate after the other up to the first that does not refuse.
The log holds the refusals (`Op.Connects.log_eq`), and what stands behind a candidate that
does not refuse makes no difference (`Op.course_connect_append`).
-/

namespace ProxyDial

/-! ## Connections that were accepted -/

namespace Network

/-- The number of connections that the server at an address has accepted. -/
def accepted (net : Network) (address : Endpoint) : Nat :=
  (net.serverAt? address).elim 0 Server.accepted

/-- Whether the client has closed the connection of that number at an address. -/
def HasClosed (net : Network) (address : Endpoint) (ordinal : Nat) : Prop :=
  ∃ c ∈ net.closed, c.peer = address ∧ c.ordinal = ordinal ∧ c.clientEnded

/-- What is logged about attempts at those addresses that refuse. -/
def refusals (net : Network) (addresses : List Endpoint) : List Event :=
  addresses.filterMap fun a => (net.reception a).refusal?.map (.connectFailed a)

variable {net : Network} {server : Server} {address e : Endpoint} {ordinal : Nat}

theorem address_of_serverAt? (h : net.serverAt? address = some server) :
    server.address = address := by
  have hfound := List.find?_some h
  exact of_decide_eq_true hfound

theorem serverAt?_countAccepted (net : Network) (server : Server) (scripts : List (List Action))
    (address : Endpoint) :
    (net.countAccepted server scripts).serverAt? address =
      (net.serverAt? address).map fun other =>
        if other.address = server.address then
          { other with behaviour := .accepts scripts.tail, accepted := other.accepted + 1 }
        else other := by
  rw [serverAt?, countAccepted, List.find?_map, serverAt?]
  congr 2
  funext other
  dsimp only [Function.comp_apply]
  split <;> rfl

/-- Counting a connection leaves the other servers as they are. -/
theorem serverAt?_countAccepted_of_ne (h : net.serverAt? e = some server) (hne : address ≠ e)
    (scripts : List (List Action)) :
    (net.countAccepted server scripts).serverAt? address = net.serverAt? address := by
  rw [serverAt?_countAccepted]
  cases ha : net.serverAt? address with
  | none => rfl
  | some other =>
    have hother : other.address ≠ server.address := by
      rw [address_of_serverAt? ha, address_of_serverAt? h]
      exact hne
    rw [Option.map_some, if_neg hother]

theorem accepted_countAccepted (h : net.serverAt? e = some server)
    (scripts : List (List Action)) (address : Endpoint) :
    (net.countAccepted server scripts).accepted address =
      if address = e then net.accepted address + 1 else net.accepted address := by
  split
  · subst address
    simp [accepted, serverAt?_countAccepted, h]
  · rename_i hne
    rw [accepted, serverAt?_countAccepted_of_ne h hne, accepted]

theorem HasClosed.close (h : net.HasClosed address ordinal) (c : Connection) :
    (net.close c).HasClosed address ordinal := by
  obtain ⟨c', hc', h⟩ := h
  exact ⟨c', List.mem_append_left _ hc', h⟩

theorem hasClosed_close (net : Network) (c : Connection) :
    (net.close c).HasClosed c.peer c.ordinal :=
  ⟨c.finish, List.mem_append_right _ (.head _), rfl, rfl, rfl⟩

theorem HasClosed.advance (h : net.HasClosed address ordinal) (now : Nat) :
    (net.advance now).HasClosed address ordinal := by
  obtain ⟨c, hc, hpeer, hordinal, hended⟩ := h
  exact ⟨c.advance now, List.mem_map_of_mem hc, by simpa using hpeer, by simpa using hordinal,
    by simpa using hended⟩

/-! ## Decisions -/

variable {last why : IoError} {before : List Endpoint}

/-- Candidates that refuse leave the decision to those behind them. -/
theorem decision_append (h : ∀ a ∈ before, (net.reception a).refusal?.isSome)
    (hr : (net.reception e).refusal? = none) (last : IoError) (after : List Endpoint) :
    net.decision last (before ++ e :: after) = .ok e := by
  induction before generalizing last with
  | nil => exact decision_of_responds hr after
  | cons a before ih =>
    have ha := h a (.head _)
    cases hrec : net.reception a with
    | accepts => simp [hrec, Reception.refusal?] at ha
    | hangs => simp [hrec, Reception.refusal?] at ha
    | refuses why =>
      rw [List.cons_append, decision_of_refuses hrec]
      exact ih (fun a ha => h a (.tail _ ha)) why

/-- If all candidates refuse, the refusal of the last one counts. -/
theorem decision_concat (h : ∀ a ∈ before, (net.reception a).refusal?.isSome)
    (hr : net.reception e = .refuses why) (last : IoError) :
    net.decision last (before ++ [e]) = .error why := by
  have hnone : (before ++ [e]).find? (fun a => (net.reception a).refusal?.isNone) = none := by
    rw [List.find?_eq_none]
    intro a ha
    rcases List.mem_append.1 ha with ha | ha
    · simpa [Option.isSome_iff_ne_none] using h a ha
    · obtain rfl := List.mem_singleton.1 ha
      simp [hr, Reception.refusal?]
  rw [decision, hnone]
  simp [hr, Reception.refusal?]

end Network

/-! ## Letting go -/

/-- Whether a session has let go of every connection that its socket held in the session `s` or
that a server has accepted since. -/
structure Session.LetGo (s s' : Session) : Prop where
  stream : s'.stream = none
  held : ∀ c ∈ s.stream, s'.net.HasClosed c.peer c.ordinal
  made : ∀ address ordinal, s.net.accepted address ≤ ordinal →
    ordinal < s'.net.accepted address → s'.net.HasClosed address ordinal

/-- What the socket has come to at the end of an attempt to connect it.  It is open after a
success and has let go after a failure. -/
def Session.Concluded {α : Type} (s : Session) : Except IoError α → Session → Prop
  | .ok _, s' => s'.isOpen
  | .error _, s' => s.LetGo s'

namespace Session

variable {s s' : Session}

/-- A session that has closed its socket has let go. -/
theorem letGo_closed (s : Session) : s.LetGo s.closed := by
  have haccepted : s.closed.net.accepted = s.net.accepted := by
    unfold closed
    split <;> rfl
  refine ⟨s.closed_stream, fun c hc => ?_, fun address ordinal hge hlt => ?_⟩
  · rw [closed, Option.mem_def.1 hc]
    exact s.net.hasClosed_close c
  · rw [haccepted] at hlt
    exact absurd hlt (Nat.not_lt_of_ge hge)

theorem LetGo.record (h : s.LetGo s') (e : Event) : s.LetGo (s'.record e) :=
  ⟨h.stream, h.held, h.made⟩

theorem LetGo.moveTo (h : s.LetGo s') (now : Nat) : s.LetGo (s'.moveTo now) where
  stream := by simp [h.stream]
  held c hc := (h.held c hc).advance now
  made address ordinal hge hlt := (h.made address ordinal hge hlt).advance now

theorem LetGo.expired (h : s.LetGo s') : s.LetGo s'.expired := ⟨h.stream, h.held, h.made⟩

/-- A connection that is dropped as soon as a server has accepted it is let go. -/
theorem LetGo.dropped (h : s.LetGo s') {now : Nat} {e : Endpoint} {c : Connection} {net : Network}
    (hc : s'.net.contact now e = .accepted c net) :
    s.LetGo { s' with net := net.close c } := by
  obtain ⟨server, scripts, hserver, -, rfl, rfl⟩ := Network.eq_of_contact hc
  have hclosed {address : Endpoint} {ordinal : Nat} (h : s'.net.HasClosed address ordinal) :
      ((s'.net.countAccepted server scripts).close (server.accept e scripts now)).HasClosed address
        ordinal := by
    have hsame : (s'.net.countAccepted server scripts).HasClosed address ordinal := h
    exact hsame.close _
  refine ⟨h.stream, fun c hc => hclosed (h.held c hc), fun address ordinal hge hlt => ?_⟩
  have hcounted := Network.accepted_countAccepted hserver scripts address
  replace hlt : ordinal < (s'.net.countAccepted server scripts).accepted address := hlt
  rw [hcounted] at hlt
  by_cases hnew : address = e ∧ ordinal = s'.net.accepted e
  · obtain ⟨rfl, rfl⟩ := hnew
    have hordinal : s'.net.accepted address = server.accepted := by
      rw [Network.accepted, hserver]
      rfl
    rw [hordinal]
    exact Network.hasClosed_close _ (server.accept address scripts now)
  · refine hclosed (h.made address ordinal hge ?_)
    split at hlt
    · subst address
      have hne : ordinal ≠ s'.net.accepted e := fun h => hnew ⟨rfl, h⟩
      omega
    · exact hlt

end Session

namespace Op

variable {endpoints : List Endpoint} {last : IoError} {s s' : Session}

theorem along_ready {α : Type} (h : s.LetGo s') (after : Option Nat) (a : α) :
    ((ready after a).course s').Along s.LetGo fun _ => s.LetGo := by
  match after with
  | none => exact h
  | some 0 => exact h
  | some (millis + 1) => exact ⟨h, h.moveTo _⟩

theorem along_meet (h : s.LetGo s') (e : Endpoint) :
    ((meet e).course s').Along s.LetGo s.Concluded := by
  unfold meet
  dsimp only
  split
  · exact h
  · exact h
  · exact ⟨h, h.moveTo _⟩
  · rename_i c net hc
    exact ⟨h.dropped hc, rfl⟩

theorem along_connectTo (h : s.LetGo s') (e : Endpoint) :
    ((connectTo e).course s').Along s.LetGo s.Concluded :=
  (along_ready h (some (s'.net.latency e)) ()).bind fun _ _ hs => along_meet hs e

/-- A walk holds no connection before a candidate has accepted and the walk has ended. -/
theorem along_connectFirst (h : s.LetGo s') (last : IoError) (endpoints : List Endpoint) :
    ((connectFirst last endpoints).course s').Along s.LetGo s.Concluded := by
  induction endpoints generalizing last s' with
  | nil => exact h
  | cons e rest ih =>
    refine (along_connectTo h e).bind fun result s'' hs => ?_
    cases result with
    | ok u => exact hs
    | error why => exact ih (Session.LetGo.record hs _) why

/-- Connecting closes the socket before the first candidate is tried. -/
theorem course_connect (endpoints : List Endpoint) (s : Session) :
    (connect endpoints).course s = (connectFirst .noEndpoints endpoints).course s.closed := by
  rw [connect, course_bind, course_close]
  rfl

theorem along_connect (endpoints : List Endpoint) (s : Session) :
    ((connect endpoints).course s).Along s.LetGo s.Concluded := by
  rw [course_connect]
  exact along_connectFirst s.letGo_closed _ _

/-- A connect that is given up has let go, whenever that is. -/
theorem letGo_of_giveUpAt {limit : Option Nat}
    (h : ((connect endpoints).giveUpAt limit).run? s = some (none, s')) : s.LetGo s' := by
  have hw := (along_connect endpoints s).within (fun _ now hs _ => hs.moveTo now) limit
  exact (hw.of_end? h).1

/-! ## Attempts -/

theorem connects_connect (endpoints : List Endpoint) (s : Session) :
    Connects none .noEndpoints endpoints s.closed
      (((connect endpoints).outcome s).1.map some, ((connect endpoints).outcome s).2) := by
  have hnone : ∀ l ∈ (none : Option Nat), s.closed.clock ≤ l := by simp
  have hc := connects_connectFirst .noEndpoints endpoints hnone
  rw [outcome_giveUpAt_none] at hc
  rwa [outcome, course_connect]

/-- A connect comes to what the walk over its candidates comes to. -/
theorem exists_run?_connect {result : Except IoError Endpoint}
    (h : s.net.walked none .noEndpoints endpoints = some (some result)) :
    ∃ s', (connect endpoints).run? s = some (result, s') ∧
      Connects none .noEndpoints endpoints s.closed (some (some result), s') := by
  have hc := connects_connect endpoints s
  have hpos : ∀ millis ∈ (none : Option Nat), 0 < millis := by simp
  have hwalked := (hc.eq_walked rfl hpos).1
  rw [s.same_closed.walked, h, Option.map_eq_some_iff] at hwalked
  obtain ⟨result', hresult, hsome⟩ := hwalked
  obtain rfl : result' = result := Option.some.inj hsome
  rw [hresult] at hc
  exact ⟨_, run?_of_outcome hresult, hc⟩

/-- The log of a walk that is not given up holds the refusals, up to the first candidate that
does not refuse. -/
theorem Connects.log_eq {limit : Option Nat} {result : Except IoError Endpoint}
    (hc : Connects limit last endpoints s (some (some result), s')) :
    s'.log = s.log ++
      s.net.refusals (endpoints.takeWhile fun a => (s.net.reception a).refusal?.isSome) := by
  generalize ho : (some (some result), s') = end' at hc
  induction hc with
  | exhausted =>
    cases ho
    simp [Network.refusals]
  | @refused _ why e es s s₁ _ ha _ ih =>
    have hr := ha.refuses
    have hlog : s₁.log = s.log := ha.quiet.1
    have hsame : s₁.net.refusals = s.net.refusals := by
      funext addresses
      rw [Network.refusals, Network.refusals, ha.same.reception]
    rw [ih ho, List.takeWhile_cons_of_pos (by simp [hr, Reception.refusal?]), Session.record_net,
      hsame, ha.same.reception]
    simp [Session.record, hlog, Network.refusals, hr, Reception.refusal?]
  | @accepted _ e es s s₁ ha =>
    cases ho
    rw [List.takeWhile_cons_of_neg (by simp [ha.accepts, Reception.refusal?])]
    simpa [Network.refusals] using ha.quiet.1
  | _ => cases ho

/-- An attempt fails only where the address refuses, and leaves the servers as they are. -/
theorem refuses_along_connectTo (e : Endpoint) (s : Session) :
    ((connectTo e).course s).Along (fun _ => True) fun result s' =>
      ∀ why, result = .error why → s.net.reception e = .refuses why ∧ s.net.Same s'.net := by
  refine Course.along_end fun result s' ho why hwhy => ?_
  subst hwhy
  have hnone : ∀ l ∈ (none : Option Nat), s.clock ≤ l := by simp
  have ha := attempts_connectTo (e := e) hnone
  have ho : (connectTo e).outcome s = (some (.error why), s') := ho
  rw [outcome_giveUpAt_none, ho] at ha
  exact ⟨Attempts.refuses ha, Attempts.same ha⟩

/-- A walk does not look at what stands behind a candidate that does not refuse. -/
theorem course_connectFirst_append {e : Endpoint} (he : (s.net.reception e).refusal? = none)
    (last : IoError) (before after after' : List Endpoint) :
    (connectFirst last (before ++ e :: after)).course s =
      (connectFirst last (before ++ e :: after')).course s := by
  induction before generalizing last s with
  | nil =>
    simp only [List.nil_append, connectFirst, course_bind]
    refine (refuses_along_connectTo e s).bind_congr fun result s' hs => ?_
    cases result with
    | ok u => rfl
    | error why =>
      have hr := congrArg Reception.refusal? (hs why rfl).1
      cases he.symm.trans hr
  | cons a before ih =>
    simp only [List.cons_append, connectFirst, course_bind]
    refine (refuses_along_connectTo a s).bind_congr fun result s' hs => ?_
    cases result with
    | ok u => rfl
    | error why =>
      have hsame : (s'.record (.connectFailed a why)).net.reception = s.net.reception :=
        (hs why rfl).2.reception
      refine ih (s := s'.record (.connectFailed a why)) ?_ why
      rw [hsame]
      exact he

theorem course_connect_append {e : Endpoint} (he : (s.net.reception e).refusal? = none)
    (before after after' : List Endpoint) :
    (connect (before ++ e :: after)).course s = (connect (before ++ e :: after')).course s := by
  rw [course_connect, course_connect]
  refine course_connectFirst_append ?_ _ _ _ _
  rw [s.same_closed.reception]
  exact he

/-! ## What a connect comes to -/

/-- Candidates that refuse are passed over, and the connection that the socket gets is the next
one of the server that accepts. -/
theorem exists_run?_of_accepts {before : List Endpoint} {e : Endpoint}
    (hbefore : ∀ a ∈ before, (s.net.reception a).refusal?.isSome)
    (he : s.net.reception e = .accepts) (after : List Endpoint) :
    ∃ s' c, (connect (before ++ e :: after)).run? s = some (.ok e, s') ∧
      s'.stream = some c ∧ c.peer = e ∧ c.ordinal = s.net.accepted e ∧ c.clientEnded = false ∧
      s'.log = s.closed.log ++ s.net.refusals before ∧
      ∀ a, a ≠ e → s'.net.serverAt? a = s.net.serverAt? a := by
  have hresponds : (s.net.reception e).refusal? = none := congrArg Reception.refusal? he
  have hwalked : s.net.walked none .noEndpoints (before ++ e :: after) = some (some (.ok e)) := by
    rw [Network.walked, Network.decision_append hbefore hresponds]
    simp [he]
  obtain ⟨s', hrun, hc⟩ := exists_run?_connect hwalked
  obtain ⟨server, scripts, hserver, -, hstream, hnet⟩ := hc.exists_accepted
  rw [s.serverAt?_closed] at hserver
  refine ⟨s', _, hrun, hstream, ?_, ?_, ?_, ?_, fun a ha => ?_⟩
  · simp [Server.accept]
  · simp [Server.accept, Network.accepted, hserver]
  · simp [Server.accept]
  · have hlog := hc.log_eq
    rw [s.same_closed.reception, List.takeWhile_append_of_pos hbefore,
      List.takeWhile_cons_of_neg (by simp [hresponds]), List.append_nil] at hlog
    rw [hlog, Network.refusals, Network.refusals, s.same_closed.reception]
  · rw [hnet]
    refine (Network.serverAt?_countAccepted_of_ne ?_ ha scripts).trans ?_
    · rw [s.serverAt?_closed, hserver]
    · rw [s.serverAt?_closed]

/-- If all candidates refuse, the last refusal is the error. -/
theorem exists_run?_of_refuses {before : List Endpoint} {e : Endpoint} {why : IoError}
    (hbefore : ∀ a ∈ before, (s.net.reception a).refusal?.isSome)
    (he : s.net.reception e = .refuses why) :
    ∃ s', (connect (before ++ [e])).run? s = some (.error why, s') ∧ s.LetGo s' := by
  have hwalked : s.net.walked none .noEndpoints (before ++ [e]) = some (some (.error why)) := by
    rw [Network.walked, Network.decision_concat hbefore he]
    rfl
  obtain ⟨s', hrun, -⟩ := exists_run?_connect hwalked
  exact ⟨s', hrun, (along_connect _ s).of_end? hrun⟩

/-- A connect comes to the first candidate that accepts, if none before it hangs, and does not
look behind it.  If all candidates refuse it comes to the last refusal.  The socket is closed
before the first candidate is tried, and unless a candidate has accepted and the connect has
ended it stays so: whenever the connect is given up it holds neither its old connection nor
one in the making. -/
theorem connect_concludes (s : Session) :
    (∀ before e after, (∀ a ∈ before, (s.net.reception a).refusal?.isSome) →
      s.net.reception e = .accepts →
        (∃ s' c, (connect (before ++ e :: after)).run? s = some (.ok e, s') ∧
          s'.stream = some c ∧ c.peer = e ∧ c.ordinal = s.net.accepted e ∧
          c.clientEnded = false ∧ s'.log = s.closed.log ++ s.net.refusals before ∧
          ∀ a, a ≠ e → s'.net.serverAt? a = s.net.serverAt? a) ∧
        ∀ after', (connect (before ++ e :: after')).course s =
          (connect (before ++ e :: after)).course s) ∧
    (connect []).run? s =
      some (.error ⟨.invalidInput, "no endpoints to connect to"⟩, s.closed) ∧
    (∀ before e why, (∀ a ∈ before, (s.net.reception a).refusal?.isSome) →
      s.net.reception e = .refuses why →
        ∃ s', (connect (before ++ [e])).run? s = some (.error why, s') ∧ s.LetGo s') ∧
    s.LetGo s.closed ∧
    ∀ endpoints,
      (connect endpoints).course s = (connectFirst .noEndpoints endpoints).course s.closed ∧
      ((connect endpoints).course s).Along s.LetGo s.Concluded ∧
      (∀ limit s', ((connect endpoints).giveUpAt limit).run? s = some (none, s') → s.LetGo s') ∧
      ∀ s', (race (connect endpoints)).run? s = some (.aborted, s') →
        s.LetGo s' ∧ s'.timer.state = .expired := by
  refine ⟨fun before e after hbefore he => ⟨exists_run?_of_accepts hbefore he after, ?_⟩, ?_,
    fun before e why hbefore he => exists_run?_of_refuses hbefore he, s.letGo_closed,
    fun endpoints => ⟨course_connect endpoints s, along_connect endpoints s,
      fun limit s' => letGo_of_giveUpAt, fun s' hrace => ?_⟩⟩
  · intro after'
    exact course_connect_append (congrArg Reception.refusal? he) before after' after
  · rw [run?, course_connect]
    rfl
  · rcases exists_of_run?_race hrace with ⟨_, hne, -⟩ | ⟨s'', -, hgivenUp, rfl⟩
    · cases hne
    · exact ⟨(letGo_of_giveUpAt hgivenUp).expired, rfl⟩

/-- A gate behind an address where nobody listens gets the connection.  A gate behind a server
that hangs does not, and the deadline leaves the socket closed. -/
theorem connect_concludes_gate :
    let dead : Endpoint := .v4 ⟨10, 0, 0, 1⟩ 1080
    let hung : Endpoint := .v4 ⟨10, 0, 0, 2⟩ 1080
    let gate : Endpoint := .v4 ⟨10, 0, 0, 3⟩ 1080
    let net : Network :=
      { servers :=
          [{ address := hung, behaviour := .hangs },
            { address := gate, behaviour := .accepts [], accepted := 4, latency := 20 }] }
    let s := ({ net, stream := some (.fresh []) } : Session).armed (.ofSecs 1)
    ((∀ a ∈ [dead, dead], (s.net.reception a).refusal?.isSome) ∧
        s.net.reception gate = .accepts ∧
        ∃ s' c, (connect [dead, dead, gate, hung]).run? s = some (.ok gate, s') ∧
          s'.stream = some c ∧ c.peer = gate ∧ c.ordinal = 4) ∧
      (s.net.reception dead = .refuses .refused ∧
        ∃ s', (connect [dead, dead]).run? s = some (.error .refused, s') ∧ s.LetGo s') ∧
      ∃ s', (race (connect [dead, hung, gate])).run? s = some (.aborted, s') ∧ s.LetGo s' ∧
        s'.timer.state = .expired := by
  intro dead hung gate net s
  have hrefuse : ∀ a ∈ [dead, dead], (s.net.reception a).refusal?.isSome := by decide
  have haccept : s.net.reception gate = .accepts := by decide
  have hdead : s.net.reception dead = .refuses .refused := by decide
  obtain ⟨haccepts, -, hrefuses, -, hall⟩ := connect_concludes s
  obtain ⟨⟨s₁, c, hrun, hstream, hpeer, hordinal, -⟩, -⟩ :=
    haccepts [dead, dead] gate [hung] hrefuse haccept
  obtain ⟨s₂, hfailed, hlet⟩ := hrefuses [dead] dead .refused (by decide) hdead
  obtain ⟨-, -, -, hrace⟩ := hall [dead, hung, gate]
  have hlate : ((race (connect [dead, hung, gate])).run? s).map (fun (raced, _) =>
      raced matches .aborted) = some true := by decide +kernel
  obtain ⟨⟨raced, s₃⟩, haborted, hlate⟩ := Option.map_eq_some_iff.1 hlate
  obtain rfl : raced = .aborted := by
    cases raced with
    | completed result => cases hlate
    | aborted => rfl
  exact ⟨⟨hrefuse, haccept, s₁, c, hrun, hstream, hpeer, hordinal⟩,
    ⟨hdead, s₂, hfailed, hlet⟩, s₃, haborted, hrace s₃ haborted⟩

end Op

end ProxyDial
