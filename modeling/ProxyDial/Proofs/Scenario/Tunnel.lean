import ProxyDial.Proofs.Connect.Traces
import ProxyDial.Proofs.Connect.Verdict
import ProxyDial.Proofs.Dial.Legs
import ProxyDial.Proofs.Handshake.Wire
import ProxyDial.Proofs.Scenario.Transfer

/-!
# Tunnels

A handshake that succeeds has put its request on the connection and has taken the
eight bytes of the reply off it, and nothing else (`carries_run`).  So handshakes in a
row take eight bytes each, and the client that reads then finds what follows.

*Transparency.*  `Transparent` says what a tunnel carries: the server gets the requests
and then what the client writes, and the client gets the server's stream after the
replies.  It holds after handshakes on a connection, and after a dial on the connection
that the proxy has accepted, since both only carry (`Carries.transparent`).
-/

namespace ProxyDial

open Connection (Carries)

theorem Session.carries_later {s : Session} {c c' : Connection} {millis : Nat}
    (hs : s.stream = some c) (hs' : (s.later millis).stream = some c') :
    Carries c c' [] [] [] := by
  cases millis with
  | zero =>
    obtain rfl := Option.some.inj (hs.symm.trans hs')
    exact .refl c
  | succ n =>
    simp only [later, moveTo_stream, hs, Option.map_some] at hs'
    cases hs'
    exact Connection.carries_advance _ c

/-! ## Handshakes -/

namespace HandshakeRequest

variable {q : HandshakeRequest} {r : Resolver} {s s' : Session} {c : Connection}

/-- What a handshake that succeeds carries. -/
theorem carries_run (hs : s.stream = some c) (h : (q.run r).run? s = some (.ok (), s')) :
    ∃ ip c' reply, q.asks? r true = some (.ok ip) ∧ s'.stream = some c' ∧ reply.length = 8 ∧
      Carries c c' (q.wire ip) reply [] := by
  have hl := q.leads_run r s
  rw [(Op.run?_eq_some_iff ..).1 h] at hl
  cases hl with
  | @granted s₁ s₂ s₃ ip c₁ c₂ bytes ht hs₁ hw hs₂ hr hv =>
    have hasks : some (.ok ip) = q.asks? r s.isOpen := ht.eq_asks?
    rw [Session.isOpen_of_some hs] at hasks
    obtain ⟨millis, -, -, -, hstream⟩ := ht.passed
    have hlater : (({ s with timer := .idle } : Session).later millis).stream = some c₁ := by
      rw [← hstream]
      exact hs₁
    have hwaited := Session.carries_later (s := { s with timer := .idle }) hs hlater
    have hwriting : (q.writing s₁).stream = some c₁ := hs₁
    obtain ⟨c₂', wrote, hs₂', hwritten, -, hall, -⟩ := hw.exists_carried hwriting
    obtain rfl := Option.some.inj (hs₂.symm.trans hs₂')
    rw [hall rfl, encode_requestFor] at hwritten
    have hreading : (q.reading s₂).stream = some c₂ := hs₂
    obtain ⟨c₃, c', hread, hready, htake, hs'⟩ := hr.exists_carried hreading
    obtain ⟨lost, htaken, hlost⟩ := Connection.carries_readExact hready htake
    have hnil : lost = [] := by
      rcases hlost with hl | ⟨why, he⟩
      · exact hl
      · cases he
    rw [hnil] at htaken
    have hcarries := hwaited.trans (hwritten.trans (hread.trans htaken))
    simp only [List.nil_append, List.append_nil] at hcarries
    refine ⟨ip, c', bytes, hasks.symm, ?_, Connection.length_of_readExact htake, hcarries⟩
    simpa [granted] using hs'

/-- The bytes that a handshake writes on an open socket, if it asks for an address. -/
def sends (q : HandshakeRequest) (r : Resolver) : List UInt8 :=
  match q.asks? r true with
  | some (.ok ip) => q.wire ip
  | _ => []

end HandshakeRequest

/-- The step of a handshake that succeeds. -/
def Step.granted (ask : HandshakeRequest × Resolver) : Step × Outcome :=
  (.handshake ask.1 ask.2, .attempt (.ok ()))

variable {s s' s'' : Session} {c : Connection} {history : List (Step × Outcome)}

/-- What handshakes in a row carry: each its request, and eight bytes of reply. -/
theorem History.carries_granted {asks : List (HandshakeRequest × Resolver)}
    (h : History s (asks.map Step.granted) s') (hs : s.stream = some c) :
    (∀ ask ∈ asks, ∃ ip, ask.1.asks? ask.2 true = some (.ok ip)) ∧
    ∃ c' replies, s'.stream = some c' ∧ replies.length = 8 * asks.length ∧
      Carries c c' (asks.flatMap fun ask => ask.1.sends ask.2) replies [] := by
  induction asks generalizing s c with
  | nil =>
    cases h
    exact ⟨by simp, c, [], hs, rfl, .refl c⟩
  | cons ask asks ih =>
    cases h with
    | cons hstep hrest =>
      obtain ⟨result, s₁, hrun, h⟩ := Op.exists_of_run?_bind hstep
      cases h
      obtain ⟨ip, c₁, reply, hasks, hs₁, hlength, hcarries⟩ :=
        HandshakeRequest.carries_run hs hrun
      obtain ⟨hall, c', replies, hs', hlengths, hcarries'⟩ := ih hrest hs₁
      have hsends : ask.1.sends ask.2 = ask.1.wire ip := by rw [HandshakeRequest.sends, hasks]
      refine ⟨?_, c', reply ++ replies, hs', ?_, ?_⟩
      · intro other hm
        rcases List.mem_cons.1 hm with rfl | hm
        · exact ⟨ip, hasks⟩
        · exact hall other hm
      · rw [List.length_append, hlength, hlengths, List.length_cons]
        omega
      · rw [List.flatMap_cons, hsends]
        exact hcarries.trans hcarries'

/-! ## Dials -/

/-- A connect that succeeds leaves a connection that a server has accepted. -/
theorem ConnectRequest.exists_accepted {q : ConnectRequest} {r : Resolver}
    (h : (q.run r).run? s = some (.ok (), s')) :
    ∃ e server scripts now, s.net.serverAt? e = some server ∧
      server.behaviour = .accepts scripts ∧
      s'.stream = some ((server.accept e scripts now).advance now) := by
  have hl := q.leads_run r s
  rw [(Op.run?_eq_some_iff ..).1 h] at hl
  cases hl with
  | @connected s₁ s₂ candidates e hf hc =>
    obtain ⟨server, scripts, hserver, hscripts, hs₂, -⟩ := hc.exists_accepted
    have hnet : (q.connecting candidates s₁).net.serverAt? = s.net.serverAt? := by
      rw [connecting, Session.serverAt?_closed, hf.eq_later]
      exact Session.serverAt?_later _ _
    rw [hnet] at hserver
    refine ⟨e, server, scripts, s₂.clock, hserver, hscripts, ?_⟩
    simpa [ConnectRequest.connected] using hs₂

/-! ## Transparency -/

/-- What a tunnel carries from `c` to `c'`, if `requests` opened it and `replies` came in
return.  The client's history begins after that, and in it the client has written `wrote`. -/
structure Transparent (c c' : Connection) (requests replies wrote : List UInt8)
    (history : List (Step × Outcome)) : Prop where
  /-- The client has written what the outcomes of its writes allow. -/
  allowed : Wrote history wrote
  /-- They tell it, unless a write of all bytes has failed for which the network had no
  room at once. -/
  told : c.capacity = none ∨ (∀ taken ∈ history, ¬Step.FailsWrite taken) →
    wrote = written history
  /-- The server gets the requests and then what the client writes. -/
  sent : c'.sent = c.sent ++ requests ++ wrote
  /-- The client gets what follows the replies in the server's stream. -/
  read : replies ++ delivered history <+: c.stream (requests ++ wrote) c'.clientEnded
  /-- What it has not read it can still read, unless something was lost. -/
  kept : ¬c'.isReset → (∀ taken ∈ history, ¬Step.FailsExact taken) →
    c.stream (requests ++ wrote) c'.clientEnded =
      replies ++ delivered history ++ c'.stream [] c'.clientEnded
  /-- When it has read to the end it has read all, unless something was lost before. -/
  all : ∀ before bytes after,
    history = before ++ (.readToEnd, .io (.ok (.bytes bytes))) :: after →
    ¬c'.isReset → (∀ taken ∈ before, ¬Step.FailsExact taken) →
    c.stream (requests ++ wrote) c'.clientEnded = replies ++ delivered history

variable {requests replies : List UInt8}

theorem Connection.Carries.transparent {c₁ : Connection} (h : Carries c c₁ requests replies [])
    (hs : s.stream = some c₁) (hh : History s history s')
    (ht : ∀ taken ∈ history, taken.1.transfers) :
    ∃ c' wrote, s'.stream = some c' ∧ Transparent c c' requests replies wrote history := by
  obtain ⟨c', wrote, lost, hs', hwrote, hexact, hcarries, hlost⟩ := hh.carries ht hs
  have hall := h.trans hcarries
  have hstream := hall.stream_now
  rw [List.nil_append] at hstream
  refine ⟨c', wrote, hs', hwrote, ?_, ?_, ?_, ?_, ?_⟩
  · rintro (hcapacity | hn)
    · exact hexact (h.capacity.trans hcapacity)
    · exact hwrote.eq_written hn
  · rw [hall.sent, List.append_assoc]
  · rw [hstream, List.append_assoc]
    exact List.prefix_append _ _
  · intro hreset hkept
    have hnil : lost = [] := by
      rcases hlost with hl | hr | ⟨taken, hm, hfails⟩
      · exact hl
      · exact absurd hr hreset
      · exact absurd hfails (hkept taken hm)
    rw [hstream, hnil, List.append_nil]
  · intro before bytes after hhistory hreset hkept
    subst hhistory
    obtain ⟨c₂, wrote', hs₂, hread⟩ := hh.carries_all ht hs hkept
    obtain rfl := Option.some.inj (hs'.symm.trans hs₂)
    obtain ⟨hcarries', hended, hclient⟩ := hread hreset
    -- The server has got the same bytes, so the same were written.
    obtain rfl : wrote = wrote' :=
      List.append_cancel_left (hcarries.sent.symm.trans hcarries'.sent)
    rw [(h.trans hcarries').stream_now, Connection.stream_of_ended hended, hclient]
    simp

/-- Tunnels are transparent, both after handshakes in a row on a connection and after a dial
on the connection that a server has accepted for it. -/
theorem transparent_history :
    (∀ {s s₁ s₂ : Session} {c : Connection} {asks : List (HandshakeRequest × Resolver)}
      {history : List (Step × Outcome)}, s.stream = some c →
      History s (asks.map Step.granted) s₁ → History s₁ history s₂ →
      (∀ taken ∈ history, taken.1.transfers) →
        (∀ ask ∈ asks, ∃ ip, ask.1.asks? ask.2 true = some (.ok ip)) ∧
        ∃ c' replies wrote, s₂.stream = some c' ∧ replies.length = 8 * asks.length ∧
          Transparent c c' (asks.flatMap fun ask => ask.1.sends ask.2) replies wrote history) ∧
    (∀ {s s₁ s₂ : Session} {d : Dialer} {r : Resolver} {host : String} {port : UInt16}
      {history : List (Step × Outcome)}, (d.dial r host port).run? s = some (.ok (), s₁) →
      History s₁ history s₂ → (∀ taken ∈ history, taken.1.transfers) →
        ∃ ip e server scripts now c' reply wrote,
          (d.handshakeRequest host port).asks? r true = some (.ok ip) ∧
          s.net.serverAt? e = some server ∧ server.behaviour = .accepts scripts ∧
          s₂.stream = some c' ∧ reply.length = 8 ∧
          Transparent (server.accept e scripts now) c' ((d.handshakeRequest host port).wire ip)
            reply wrote history) := by
  refine ⟨?_, ?_⟩
  · intro s s₁ s₂ c asks history hs ha h ht
    obtain ⟨hall, c₁, replies, hs₁, hlength, hcarries⟩ := ha.carries_granted hs
    obtain ⟨c', wrote, hs', htransparent⟩ := hcarries.transparent hs₁ h ht
    exact ⟨hall, c', replies, wrote, hs', hlength, htransparent⟩
  · intro s s₁ s₂ d r host port history hd h ht
    obtain ⟨sc, sh, hconnect, hhandshake, hstream⟩ := Dialer.exists_of_run?_dial hd
    obtain ⟨e, server, scripts, now, hserver, hscripts, hsc⟩ :=
      ConnectRequest.exists_accepted hconnect
    obtain ⟨ip, c₁, reply, hasks, hsh, hlength, hcarries⟩ :=
      HandshakeRequest.carries_run hsc hhandshake
    have hopened := (Connection.carries_advance now _).trans hcarries
    obtain ⟨c', wrote, hs', htransparent⟩ := hopened.transparent (hstream.trans hsh) h ht
    exact ⟨ip, e, server, scripts, now, c', reply, wrote, hasks, hserver, hscripts, hs', hlength,
      htransparent⟩

/-- The first bytes of the tunnel come in one piece with the reply. -/
theorem transparent_history_glued :
    let gate : Endpoint := .v4 ⟨10, 0, 0, 1⟩ 1080
    let script := Action.request ++
      [.write [0, 90, 0, 0, 0, 0, 0, 7, 1, 2], .read 1, .write [3], .close]
    let c : Connection := { peer := gate, ordinal := 0, script, since := 0 }
    let s : Session := { stream := some c }
    let t := Session.start { servers := [{ address := gate, behaviour := .accepts [script] }] }
    let q : HandshakeRequest := { host := "target", port := 80, timeoutSecs := 1, userId := [117] }
    let r := Resolver.fixed [gate]
    let d := Dialer.make "proxy" 1080
    let history : List (Step × Outcome) :=
      [(.read 1, .io (.ok (.bytes [1]))), (.write [9], .io (.ok (.count 1))),
        (.readToEnd, .io (.ok (.bytes [2, 3])))]
    (∀ taken ∈ history, taken.1.transfers) ∧
      (∃ s₁ s₂ c' replies wrote, s.stream = some c ∧ History s ([(q, r)].map Step.granted) s₁ ∧
        History s₁ history s₂ ∧ s₂.stream = some c' ∧ replies.length = 8 ∧
        Transparent c c' (q.sends r ++ []) replies wrote history) ∧
      ∃ t₁ t₂ ip e server scripts now c' reply wrote,
        (d.dial r "target" 80).run? t = some (.ok (), t₁) ∧ History t₁ history t₂ ∧
        t.net.serverAt? e = some server ∧ t₂.stream = some c' ∧
        Transparent (server.accept e scripts now) c' ((d.handshakeRequest "target" 80).wire ip)
          reply wrote history := by
  intro gate script c s t q r d history
  have ht : ∀ taken ∈ history, taken.1.transfers := by simp [history, Step.transfers]
  have hs : ∃ s₁ s₂, History s ([(q, r)].map Step.granted) s₁ ∧ History s₁ history s₂ := by
    dsimp only [s, c, q, r, script, gate, history]
    exact ⟨_, _, .cons rfl .nil, .cons rfl (.cons rfl (.cons rfl .nil))⟩
  have hd : ∃ t₁ t₂, (d.dial r "target" 80).run? t = some (.ok (), t₁) ∧ History t₁ history t₂ := by
    dsimp only [t, d, r, script, gate, history]
    exact ⟨_, _, rfl, .cons rfl (.cons rfl (.cons rfl .nil))⟩
  obtain ⟨s₁, s₂, ha, hh⟩ := hs
  obtain ⟨t₁, t₂, hdial, hh'⟩ := hd
  obtain ⟨-, c₁, replies, wrote, hc₁, hlength, h⟩ := transparent_history.1 rfl ha hh ht
  obtain ⟨ip, e, server, scripts, now, c₂, reply, wrote', -, hserver, -, hc₂, -, h'⟩ :=
    transparent_history.2 hdial hh' ht
  exact ⟨ht, ⟨s₁, s₂, c₁, replies, wrote, rfl, ha, hh, hc₁, hlength, h⟩,
    ⟨t₁, t₂, ip, e, server, scripts, now, c₂, reply, wrote', hdial, hh', hserver, hc₂, h'⟩⟩

end ProxyDial
