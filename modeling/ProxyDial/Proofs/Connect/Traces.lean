import ProxyDial.Proofs.Connect.Paths
import ProxyDial.Proofs.Session.Instants
import ProxyDial.Proofs.Session.Sending

/-!
# What a timed connect leaves behind

A timed connect sends nothing (`Session.Silent`).  If it succeeds it leaves one connection
more than there were (`Session.Opened`), and which that is depends on the endpoint and the
instant alone (`ConnectRequest.exists_accepted_now`).
-/

namespace ProxyDial

namespace Op

variable {limit : Option Nat} {s s' : Session}

/-- A wait for an answer lets time pass. -/
theorem Answers.passed {α : Type} {a : α} {after : Option Nat} {found : Option (Option α)}
    (ha : Answers a s after limit (found, s')) : ∃ millis, s' = s.later millis := by
  cases ha with
  | inTime => exact ⟨_, rfl⟩
  | late => exact ⟨_, rfl⟩
  | never => exact ⟨0, rfl⟩

/-- An attempt sends nothing.  It adds a connection on which nothing was sent, or none, and
none at all if it fails. -/
theorem Attempts.sent_eq {e : Endpoint} {o : Option (Option (Except IoError Unit)) × Session}
    (ha : Attempts limit s e o) (hs : s.stream = none) :
    ∃ added, o.2.sent = s.sent ++ added ∧ (∀ t ∈ added, t.2.2 = []) ∧
      (o.1 = some (some (.ok ())) → ∃ c, o.2.stream = some c ∧ added = [c.transcript]) ∧
      ∀ why, o.1 = some (some (.error why)) → added = [] ∧ o.2.stream = none := by
  have hfresh (server : Server) (scripts : List (List Action)) (now : Nat) :
      (server.accept e scripts now).sent = [] := rfl
  cases ha with
  | unrouted => exact ⟨[], by simp, by simp, by simp, fun _ _ => ⟨rfl, hs⟩⟩
  | failed => exact ⟨[], by simp, by simp, by simp, fun _ _ => ⟨rfl, by simp [hs]⟩⟩
  | accepted hc =>
    obtain ⟨server, scripts, -, -, rfl, rfl⟩ := Network.eq_of_contact hc
    refine ⟨[(server.accept e scripts (s.arrival e)).transcript], ?_, ?_, ?_, by simp⟩
    · rw [Session.sent_moveTo, Session.sent_of_stream _ rfl, Session.sent, hs]
      simp [Network.countAccepted]
    · simp [Connection.transcript, hfresh]
    · exact fun _ => ⟨_, rfl, by simp⟩
  | late => exact ⟨[], by simp, by simp, by simp, by simp⟩
  | lateAccepted hc =>
    obtain ⟨server, scripts, -, -, rfl, rfl⟩ := Network.eq_of_contact hc
    have hstream : (s.later (s.net.latency e)).stream = none := by
      cases s.net.latency e with
      | zero => exact hs
      | succ millis => simp [Session.later, hs]
    refine ⟨[(server.accept e scripts (s.arrival e)).transcript], ?_, ?_, by simp, by simp⟩
    · rw [← s.sent_later (s.net.latency e)]
      simp [Session.sent, hstream, Network.close, Network.countAccepted, Connection.transcript,
        Connection.finish, Connection.sent]
    · simp [Connection.transcript, hfresh]
  | never => exact ⟨[], by simp, by simp, by simp, by simp⟩

/-- A walk sends nothing.  It adds connections on which nothing was sent, and if it ends well
just the one that it leaves. -/
theorem Connects.sent_eq {last : IoError} {endpoints : List Endpoint}
    {o : Option (Option (Except IoError Endpoint)) × Session}
    (hc : Connects limit last endpoints s o) (hs : s.stream = none) :
    ∃ added, o.2.sent = s.sent ++ added ∧ (∀ t ∈ added, t.2.2 = []) ∧
      ∀ e, o.1 = some (some (.ok e)) → ∃ c, o.2.stream = some c ∧ added = [c.transcript] := by
  induction hc with
  | exhausted => exact ⟨[], by simp, by simp, by simp⟩
  | refused ha _ ih =>
    obtain ⟨_, hsent, -, -, hnone⟩ := ha.sent_eq hs
    obtain ⟨rfl, hclosed⟩ := hnone _ rfl
    rw [List.append_nil] at hsent
    obtain ⟨added, hadded, hrest⟩ := ih hclosed
    exact ⟨added, hadded.trans (congrArg (· ++ added) hsent), hrest⟩
  | accepted ha =>
    obtain ⟨added, hsent, hsilent, hopened, -⟩ := ha.sent_eq hs
    exact ⟨added, hsent, hsilent, fun _ _ => hopened rfl⟩
  | late ha =>
    obtain ⟨added, hsent, hsilent, -⟩ := ha.sent_eq hs
    exact ⟨added, hsent, hsilent, by simp⟩
  | never ha =>
    obtain ⟨added, hsent, hsilent, -⟩ := ha.sent_eq hs
    exact ⟨added, hsent, hsilent, by simp⟩

end Op

namespace Session

variable (s : Session)

/-- Nothing was sent between the two sessions, whatever connections came and went. -/
def Silent (s s' : Session) : Prop :=
  ∃ added, s'.sent = s.sent ++ added ∧ ∀ t ∈ added, t.2.2 = []

/-- All that came about between the two sessions is the connection `c` in the socket, and
nothing was sent on it. -/
structure Opened (s s' : Session) (c : Connection) : Prop where
  stream : s'.stream = some c
  unused : c.sent = []
  sent : s'.sent = s.sent ++ [c.transcript]

theorem closed_of_none {s : Session} (hs : s.stream = none) : s.closed = s := by
  rw [closed, hs]

theorem later_stream_eq_none {s : Session} (hs : s.stream = none) (millis : Nat) :
    (s.later millis).stream = none := by
  cases millis with
  | zero => exact hs
  | succ n => rw [later, moveTo_stream, hs, Option.map_none]

theorem serverAt?_closed : s.closed.net.serverAt? = s.net.serverAt? := by
  unfold closed
  split <;> rfl

theorem serverAt?_later (millis : Nat) : (s.later millis).net.serverAt? = s.net.serverAt? := by
  cases millis <;> rfl

/-- A server counts the same whether it was looked at before or not. -/
theorem advance_countAccepted_later {millis now : Nat} (h : s.clock + millis ≤ now)
    (server : Server) (scripts : List (List Action)) :
    ((s.later millis).net.countAccepted server scripts).advance now =
      (s.net.countAccepted server scripts).advance now := by
  cases millis with
  | zero => rfl
  | succ n => exact Network.advance_advance h (s.net.countAccepted server scripts)

end Session

namespace ConnectRequest

variable {q : ConnectRequest} {r : Resolver} {s s' : Session}

theorem Finds.passed {found : Option (Except DialError (List Endpoint))}
    (hf : q.Finds r s (found, s')) : ∃ millis, s' = s.later millis := by
  cases hf with
  | never ha => exact ha.passed
  | late _ ha => exact ha.passed
  | failed ha => exact ha.passed
  | noCandidate ha => exact ha.passed
  | found ha => exact ha.passed

/-- A timed connect sends nothing. -/
theorem Leads.sent_eq {o : Option (Except DialError Unit) × Session} (hl : q.Leads r s o) :
    ∃ added, o.2.sent = s.sent ++ added ∧ (∀ t ∈ added, t.2.2 = []) ∧
      (o.1 = some (.ok ()) → ∃ c, o.2.stream = some c ∧ added = [c.transcript]) := by
  have hfound {s' : Session} {found : Option (Except DialError (List Endpoint))}
      (hf : q.Finds r (q.resolving s) (found, s')) : s'.sent = s.sent := by
    obtain ⟨millis, rfl⟩ := hf.passed
    exact Session.sent_later _ _
  have hwalked {s' : Session} {candidates : List Endpoint}
      {o : Option (Option (Except IoError Endpoint)) × Session}
      (hf : q.Finds r (q.resolving s) (some (.ok candidates), s'))
      (hc : Op.Connects (q.connectLimit s'.clock) .noEndpoints candidates
        (q.connecting candidates s') o) :
      ∃ added, o.2.sent = s.sent ++ added ∧ (∀ t ∈ added, t.2.2 = []) ∧
        ∀ e, o.1 = some (some (.ok e)) → ∃ c, o.2.stream = some c ∧ added = [c.transcript] := by
    obtain ⟨added, hsent, hrest⟩ := hc.sent_eq (Session.closed_stream _)
    refine ⟨added, ?_, hrest⟩
    rw [hsent, connecting, Session.sent_closed, ← hfound hf]
    rfl
  cases hl with
  | unanswered hf => exact ⟨[], by simp [hfound hf], by simp, by simp⟩
  | noCandidates hf => exact ⟨[], by simp [hfound hf], by simp, by simp⟩
  | failed hf hc =>
    obtain ⟨added, hsent, hsilent, -⟩ := hwalked hf hc
    exact ⟨added, by simpa using hsent, hsilent, by simp⟩
  | late hf hc =>
    obtain ⟨added, hsent, hsilent, -⟩ := hwalked hf hc
    exact ⟨added, by simpa using hsent, hsilent, by simp⟩
  | never hf hc =>
    obtain ⟨added, hsent, hsilent, -⟩ := hwalked hf hc
    exact ⟨added, hsent, hsilent, by simp⟩
  | @connected s' s'' candidates e hf hc =>
    obtain ⟨added, hsent, hsilent, hc⟩ := hwalked hf hc
    refine ⟨added, by simpa [ConnectRequest.connected] using hsent, hsilent, fun _ => ?_⟩
    obtain ⟨c, hstream, hadded⟩ := hc e rfl
    exact ⟨c, by simpa [ConnectRequest.connected] using hstream, hadded⟩

/-- A timed connect that fails leaves the socket closed. -/
theorem Leads.stream_eq_none {e : DialError} (hl : q.Leads r s (some (.error e), s')) :
    s'.stream = none := by
  cases hl with
  | noCandidates => simp
  | failed => simp
  | late => simp

theorem silent_run (q : ConnectRequest) (r : Resolver) (s : Session) :
    s.Silent ((q.run r).outcome s).2 := by
  obtain ⟨added, hsent, hsilent, -⟩ := (q.leads_run r s).sent_eq
  exact ⟨added, hsent, hsilent⟩

theorem exists_opened (hrun : (q.run r).outcome s = (some (.ok ()), s')) :
    ∃ c, s.Opened s' c := by
  have hl := q.leads_run r s
  rw [hrun] at hl
  obtain ⟨added, hsent, hsilent, hopened⟩ := hl.sent_eq
  obtain ⟨c, hstream, rfl⟩ := hopened rfl
  exact ⟨c, hstream, hsilent _ (List.mem_singleton.2 rfl), hsent⟩

/-- What a timed connect on a fresh socket leaves if it succeeds. -/
theorem exists_accepted_now (hs : s.stream = none)
    (hrun : (q.run r).outcome s = (some (.ok ()), s')) :
    ∃ e server scripts, s.net.serverAt? e = some server ∧ server.behaviour = .accepts scripts ∧
      s'.stream = some ((server.accept e scripts s'.clock).advance s'.clock) ∧
      s'.net = (s.net.countAccepted server scripts).advance s'.clock := by
  have hl := q.leads_run r s
  rw [hrun] at hl
  cases hl with
  | @connected s₁ s₂ candidates e hf hc =>
    obtain ⟨server, scripts, hserver, hscripts, hstream, hnet⟩ := hc.exists_accepted
    obtain ⟨millis, rfl⟩ := hf.passed
    have hbegun : (q.connecting candidates ((q.resolving s).later millis)).net =
        ((q.resolving s).later millis).net := by
      rw [connecting, Session.closed_of_none]
      · rfl
      · exact Session.later_stream_eq_none (s := q.resolving s) hs millis
    have hend : (q.connected e s₂).cancelled.clock = s₂.clock := by
      simp [ConnectRequest.connected]
    have hge : s.clock + millis ≤ s₂.clock := by
      have hge := hc.clock_ge
      rwa [connecting_clock, Session.later_clock] at hge
    rw [hbegun] at hserver hnet
    refine ⟨e, server, scripts, ?_, hscripts, ?_, ?_⟩
    · rw [← hserver]
      exact (congrFun ((q.resolving s).serverAt?_later millis) e).symm
    · rw [hend, ← hstream]
      simp [ConnectRequest.connected]
    · rw [hend, ConnectRequest.connected]
      simp only [Session.cancelled_net, Session.record_net]
      exact hnet.trans ((q.resolving s).advance_countAccepted_later hge server scripts)

end ConnectRequest

end ProxyDial
