import ProxyDial.Proofs.Handshake.Deadlines
import ProxyDial.Proofs.Handshake.Wire

/-!
# What a handshake leaves behind

A handshake keeps to the connection that it finds in the socket.  No server accepts another
one meanwhile, and on this one goes one request at most (`HandshakeRequest.AsksOnce`).  It
waits for the answer to its lookup, however long that takes.
-/

namespace ProxyDial

/-- Time leaves the client's side of a connection as it is. -/
theorem Session.clientSide_later {s : Session} {c : Connection} (hs : s.stream = some c)
    (millis : Nat) : ∃ c', (s.later millis).stream = some c' ∧ c'.clientSide = c.clientSide := by
  cases millis with
  | zero => exact ⟨c, hs, rfl⟩
  | succ n =>
    refine ⟨c.advance (s.clock + (n + 1)), ?_, c.clientSide_advance _⟩
    rw [later, moveTo_stream, hs]
    rfl

namespace HandshakeRequest

variable {q : HandshakeRequest} {r : Resolver} {s s' : Session}

/-! ## The target -/

theorem Targets.servers_eq {found : Option (Except DialError IPv4)}
    (ht : q.Targets r s (found, s')) : s'.net.servers = s.net.servers := by
  have hlater (millis : Nat) : ((q.resolving s).later millis).net.servers = s.net.servers :=
    Session.servers_later ..
  cases ht with
  | closed => rfl
  | badUserId => rfl
  | unanswered => rfl
  | lookupFailed => exact hlater _
  | noIPv4 => rw [warned_net, hlater]
  | found => rw [warned_net, hlater]

/-- On an open socket nothing but the user id keeps a handshake from waiting for the answer
to its lookup. -/
theorem Targets.clock_eq {c : Connection} {found : Except DialError IPv4}
    (ht : q.Targets r s (some found, s')) (hs : s.stream = some c)
    (hu : checkUserId q.userId = .ok ()) :
    ∃ millis, (q.lookup r).delay = some millis ∧ s'.clock = s.clock + millis := by
  have hlater (millis : Nat) : ((q.resolving s).later millis).clock = s.clock + millis :=
    Session.later_clock ..
  cases ht with
  | closed hs' => cases hs.symm.trans hs'
  | badUserId _ hu' => cases hu.symm.trans hu'
  | lookupFailed _ _ hd => exact ⟨_, hd, hlater _⟩
  | noIPv4 _ _ hd => exact ⟨_, hd, by rw [warned_clock, hlater]⟩
  | found _ _ hd => exact ⟨_, hd, by rw [warned_clock, hlater]⟩

/-! ## The run -/

/-- A handshake that fails leaves the socket closed. -/
theorem Leads.stream_eq_none {e : DialError} (hl : q.Leads r s (some (.error e), s')) :
    s'.stream = none := by
  cases hl with
  | noTarget => simp
  | writeLate => simp
  | writeFailed => simp
  | late => simp
  | readFailed => simp
  | denied => simp

/-- A handshake makes no server accept a connection. -/
theorem Leads.servers_eq {o : Option (Except DialError Unit) × Session} (hl : q.Leads r s o) :
    o.2.net.servers = s.net.servers := by
  have hwrite {s' s₁ : Session} {ip : IPv4} {c : Connection}
      {written : Option (Option (Except IoError Unit))}
      (ht : q.Targets r { s with timer := .idle } (some (.ok ip), s'))
      (hw : q.WritesRequest ip s' c (written, s₁)) : s₁.net.servers = s.net.servers :=
    hw.quiet.2.2.trans ht.servers_eq
  have hread {s' s₁ s'' : Session} {ip : IPv4} {c c' : Connection}
      {written : Option (Option (Except IoError Unit))}
      {read : Option (Option (Except IoError (List UInt8)))}
      (ht : q.Targets r { s with timer := .idle } (some (.ok ip), s'))
      (hw : q.WritesRequest ip s' c (written, s₁))
      (hr : ReadsReply (q.limit s'.clock) (q.reading s₁) c' (read, s'')) :
      s''.net.servers = s.net.servers := by
    have hservers := hwrite ht hw
    exact hr.quiet.2.2.trans hservers
  cases hl with
  | unanswered ht => exact ht.servers_eq
  | noTarget ht => simpa using ht.servers_eq
  | unwritten ht hs hw => exact hwrite ht hw
  | writeLate ht hs hw => simpa using hwrite ht hw
  | writeFailed ht hs hw => simpa using hwrite ht hw
  | unreplied ht hs hw hs₁ hr => exact hread ht hw hr
  | late ht hs hw hs₁ hr => simpa using hread ht hw hr
  | readFailed ht hs hw hs₁ hr => simpa using hread ht hw hr
  | denied ht hs hw hs₁ hr => simpa using hread ht hw hr
  | granted ht hs hw hs₁ hr => simpa [HandshakeRequest.granted] using hread ht hw hr

/-- A handshake does not end before its lookup is answered. -/
theorem Leads.clock_ge {c : Connection} {result : Except DialError Unit}
    (hl : q.Leads r s (some result, s')) (hs : s.stream = some c)
    (hu : checkUserId q.userId = .ok ()) :
    ∃ millis, (q.lookup r).delay = some millis ∧ s.clock + millis ≤ s'.clock := by
  have hfound {s₁ s₂ : Session} {ip : IPv4}
      (ht : q.Targets r { s with timer := .idle } (some (.ok ip), s₁)) (hle : s₁.clock ≤ s₂.clock) :
      ∃ millis, (q.lookup r).delay = some millis ∧ s.clock + millis ≤ s₂.clock := by
    obtain ⟨millis, hd, hclock⟩ := ht.clock_eq hs hu
    exact ⟨millis, hd, Nat.le_trans (Nat.le_of_eq hclock.symm) hle⟩
  have hwrite {s₁ s₂ : Session} {ip : IPv4} {c : Connection}
      {written : Option (Option (Except IoError Unit))}
      (hw : q.WritesRequest ip s₁ c (written, s₂)) : s₁.clock ≤ s₂.clock := hw.clock_ge
  have hread {s₁ s₂ s₃ : Session} {ip : IPv4} {c c' : Connection}
      {written : Option (Option (Except IoError Unit))}
      {read : Option (Option (Except IoError (List UInt8)))}
      (hw : q.WritesRequest ip s₁ c (written, s₂))
      (hr : ReadsReply (q.limit s₁.clock) (q.reading s₂) c' (read, s₃)) :
      s₁.clock ≤ s₃.clock := by
    have hge := hwrite hw
    exact Nat.le_trans hge hr.clock_ge
  cases hl with
  | noTarget ht =>
    obtain ⟨millis, hd, hclock⟩ := ht.clock_eq hs hu
    exact ⟨millis, hd, by simpa using Nat.le_of_eq hclock.symm⟩
  | writeLate ht _ hw => exact hfound ht (by simpa using hwrite hw)
  | writeFailed ht _ hw => exact hfound ht (by simpa using hwrite hw)
  | late ht _ hw _ hr => exact hfound ht (by simpa using hread hw hr)
  | readFailed ht _ hw _ hr => exact hfound ht (by simpa using hread hw hr)
  | denied ht _ hw _ hr => exact hfound ht (by simpa using hread hw hr)
  | granted ht _ hw _ hr =>
    exact hfound ht (by simpa [HandshakeRequest.granted] using hread hw hr)

/-- A handshake reports a lookup that timed out only if the answer says so. -/
theorem Leads.answer_of_timedOut {t : Duration}
    (hl : q.Leads r s (some (.error (.timedOut .resolve t)), s')) :
    (q.lookup r).answer = .error (.timedOut .resolve t) := by
  generalize ho : (some (Except.error (DialError.timedOut .resolve t)), s') = o at hl
  cases hl with
  | unanswered => cases ho
  | noTarget ht =>
    cases ho
    exact ht.answer_of_timedOut
  | unwritten => cases ho
  | writeLate => cases ho
  | writeFailed => cases ho
  | unreplied => cases ho
  | late => cases ho
  | readFailed => cases ho
  | denied _ _ _ _ _ hv =>
    cases ho
    exact absurd hv (Reply.verdict_ne_timedOut _ _ _)
  | granted => cases ho

/-- How a handshake goes that begins on `s`, on a connection `c` on which nothing was sent,
when `before` was sent on others. -/
structure AsksOnce (q : HandshakeRequest) (r : Resolver) (s : Session) (c : Connection)
    (before : List (Endpoint × Nat × List UInt8)) (o : Option (Except DialError Unit) × Session) :
    Prop where
  /-- No server accepts another connection. -/
  servers : o.2.net.servers = s.net.servers
  /-- Nothing is sent but one request, and that on `c`.  It is sent as far as the connection
  takes it, and whole if there is room for it. -/
  sent : ∃ bytes, o.2.sent = before ++ [(c.peer, c.ordinal, bytes)] ∧
    (bytes = [] ∨ ∃ ip, q.asks? r true = some (.ok ip) ∧ bytes <+: q.wire ip ∧
      ((∀ most ∈ c.capacity, (q.wire ip).length ≤ most) → bytes = q.wire ip))
  /-- The lookup takes its time. -/
  waited : ∀ result, o.1 = some result →
    ∃ millis, (q.lookup r).delay = some millis ∧ s.clock + millis ≤ o.2.clock
  /-- No lookup times out by itself. -/
  timedOut : ∀ t, o.1 = some (.error (.timedOut .resolve t)) →
    (q.lookup r).answer = .error (.timedOut .resolve t)

theorem asksOnce_run (q : HandshakeRequest) (r : Resolver) {s : Session} {c : Connection}
    {before : List (Endpoint × Nat × List UInt8)} (hs : s.stream = some c) (hc : c.sent = [])
    (hsent : s.sent = before ++ [c.transcript]) (hu : checkUserId q.userId = .ok ()) :
    q.AsksOnce r s c before ((q.run r).outcome s) := by
  have hl := q.leads_run r s
  have hsent' := q.sent_run r s
  generalize (q.run r).outcome s = o at hl hsent' ⊢
  refine ⟨hl.servers_eq, ?_, ?_, ?_⟩
  · rcases hsent' with ⟨_, _, -, -, -, hsent'⟩ | ⟨ip, s₁, c₁, ht, hs₁, hsent'⟩
    · refine ⟨[], ?_, .inl rfl⟩
      rw [hsent', hsent, Connection.transcript, hc]
    · have hasks : some (.ok ip) = q.asks? r s.isOpen := ht.eq_asks?
      rw [Session.isOpen_of_some hs] at hasks
      -- The target is found on the same connection.
      obtain ⟨millis, -, -, -, hstream⟩ := ht.passed
      have hbegun : ({ s with timer := .idle } : Session).stream = some c := hs
      obtain ⟨c₂, hc₂, hside⟩ := Session.clientSide_later hbegun millis
      obtain rfl : c₁ = c₂ := Option.some.inj (hs₁.symm.trans (hstream.trans hc₂))
      have hsame : c₁.transcript = c.transcript := Connection.transcript_of_clientSide hside
      have hnothing : c₁.sent = [] := (congrArg (·.2.2) hsame).trans hc
      have hcapacity : c₁.capacity = c.capacity := congrArg (·.2.2.2.2) hside
      have hbefore : s₁.net.closed.map Connection.transcript = before := by
        have hfound : s₁.sent = before ++ [c.transcript] := ht.sent_eq.trans hsent
        exact (List.append_inj' ((s₁.sent_of_stream hs₁).symm.trans hfound) rfl).1
      have hsends {bytes : List UInt8}
          (h : (q.writes ip s₁).2.sent = s₁.net.closed.map Connection.transcript ++
            [(c₁.peer, c₁.ordinal, bytes)]) :
          o.2.sent = before ++ [(c.peer, c.ordinal, bytes)] := by
        rw [hsent', h, hbefore]
        exact congrArg (fun t => before ++ [(t.1, t.2.1, bytes)]) hsame
      obtain ⟨taken, htaken, hprefix, -⟩ := sent_writes (q := q) ip hs₁
      rw [hnothing, List.nil_append] at htaken
      refine ⟨taken, hsends htaken, ?_⟩
      by_cases htakes : (∀ most ∈ c.capacity, (q.wire ip).length ≤ most) → taken = q.wire ip
      · exact .inr ⟨ip, hasks.symm, hprefix, htakes⟩
      · -- There is room for the request, but the connection takes no more.
        obtain ⟨hroom, hpart⟩ := Classical.not_imp.1 htakes
        have hall := sent_writes_of_hasRoomFor (q := q) ip hs₁
          (Connection.hasRoomFor_of_unused hnothing (hcapacity ▸ hroom))
        rw [htaken, hnothing] at hall
        have hend := congrArg (·.2.2) (List.singleton_inj.1 (List.append_inj' hall rfl).2)
        dsimp only at hend
        split at hend
        · exact absurd hend hpart
        · exact .inl hend
  · intro result ho
    obtain ⟨result', s'⟩ := o
    cases ho
    exact hl.clock_ge hs hu
  · intro t ho
    obtain ⟨result', s'⟩ := o
    cases ho
    exact hl.answer_of_timedOut

end HandshakeRequest

end ProxyDial
