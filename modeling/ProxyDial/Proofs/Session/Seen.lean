import ProxyDial.Proofs.Session.Lockstep
import ProxyDial.Proofs.Session.Sending

/-!
# What the servers see

`Session.SeenAlike` says that the servers of two sessions see the same: they have accepted the
same connections, and on each of them they get the same bytes, now and later.

A client that closes a connection ends the stream to the server.  Its script may go on then
where it would have waited for more, but there is nothing more to read
(`Connection.received_advance_finish`).  So closing an unused tunnel is not seen in the bytes
(`Session.seenAlike_closed`).
-/

namespace ProxyDial

namespace Connection

variable {now : Nat} {c c' : Connection} {a : Action}

/-! ## A stream that has ended -/

theorem received_perform_of_empty (now : Nat) (h : c.toServer = []) (a : Action) :
    (perform now c a).1.toServer = [] ∧ (perform now c a).1.received = c.received := by
  cases a with
  | read count =>
    simp only [perform, h, List.take_nil, List.drop_nil]
    split <;> simp [receive]
  | readThroughNul =>
    simp only [perform, h, throughNul]
    split <;> simp [receive]
  | write bytes =>
    simp only [perform, send]
    split <;> simp [h]
  | echo count got =>
    simp only [perform, h, List.take_nil, List.drop_nil]
    split
    · simp only [send]
      split <;> simp [receive]
    · simp [receive]
  | wait millis =>
    simp only [perform]
    split <;> simp [h]
  | close =>
    simp only [perform]
    split <;> simp [h]
  | reset => simp [perform, h]

/-- A script that finds nothing to read reads nothing. -/
theorem received_follow_of_empty (h : c.toServer = []) (script : List Action) :
    (follow now c script).received = c.received := by
  induction script generalizing c with
  | nil => rfl
  | cons a rest ih =>
    obtain ⟨hempty, hreceived⟩ := received_perform_of_empty now h a
    rw [follow]
    generalize perform now c a = performed at hempty hreceived
    rcases performed with ⟨c', _ | a'⟩
    · dsimp only
      split
      · exact hreceived
      · exact (ih hempty).trans hreceived
    · exact hreceived

theorem finish_send (bytes : List UInt8) (c : Connection) :
    (c.send bytes).finish = c.finish.send bytes := by
  unfold send finish
  split <;> rfl

/-- An action that is done is done the same after the end of the stream. -/
theorem perform_finish (h : perform now c a = (c', none)) :
    perform now c.finish a = (c'.finish, none) := by
  have hended : c.finish.clientEnded = true := rfl
  cases a with
  | read count =>
    simp only [perform] at h ⊢
    split at h
    · cases h
      rw [if_pos (.inr hended)]
      rfl
    · cases h
  | readThroughNul =>
    simp only [perform] at h ⊢
    split at h
    · cases h
      rw [if_pos (.inr hended)]
      rfl
    · cases h
  | write bytes =>
    cases h
    rw [perform, finish_send]
  | echo count got =>
    simp only [perform] at h ⊢
    split at h
    · cases h
      rw [if_pos (.inr hended), finish_send]
      rfl
    · cases h
  | wait millis =>
    simp only [perform] at h ⊢
    split at h
    · cases h
      rename_i hover
      rw [if_pos]
      · rfl
      · exact hover
    · cases h
  | close =>
    cases h
    by_cases hw : c.ending = .waiting <;> simp [perform, finish, hw]
  | reset =>
    cases h
    rfl

/-- An action that is held up reads all that there is, also after the end of the stream. -/
theorem Blocked.received_finish {a' : Action} {rest : List Action}
    (hb : Blocked now c a c' a') :
    (follow now c.finish (a :: rest)).received = c'.received := by
  -- What follows finds nothing more to read.
  have hrest {c₁ : Connection} (hp : perform now c.finish a = (c₁, none)) (ha : a ≠ .reset)
      (hempty : c₁.toServer = []) :
      (follow now c.finish (a :: rest)).received = c₁.received := by
    rw [follow, hp]
    dsimp only
    rw [if_neg ha]
    exact received_follow_of_empty hempty rest
  have hended : c.finish.clientEnded = true := rfl
  cases hb with
  | @wait millis h =>
    have hblocked : Blocked now c.finish (.wait millis) c.finish (.wait millis) := .wait h
    rw [follow, hblocked.perform_eq]
    rfl
  | @read count ended h =>
    have hl := Nat.le_of_lt h
    have hp : perform now c.finish (.read count) = (c.finish.receive c.toServer [], none) := by
      simp only [perform]
      rw [if_pos (.inr hended)]
      simp [finish, List.take_of_length_le hl, List.drop_of_length_le hl]
    rw [hrest hp (by simp) rfl]
    rfl
  | readThroughNul ended h =>
    have hp : perform now c.finish .readThroughNul = (c.finish.receive c.toServer [], none) := by
      have hall : throughNul c.finish.toServer = (c.toServer, [], false) := h
      simp only [perform, hall]
      rw [if_pos (.inr hended)]
    rw [hrest hp (by simp) rfl]
    rfl
  | @echo count got ended h =>
    have hl := Nat.le_of_lt h
    have hp : perform now c.finish (.echo count got) =
        ((c.finish.receive c.toServer []).send (got ++ c.toServer), none) := by
      simp only [perform]
      rw [if_pos (.inr hended)]
      simp [finish, List.take_of_length_le hl, List.drop_of_length_le hl]
    have hsend (bytes : List UInt8) (c : Connection) :
        (c.send bytes).toServer = c.toServer ∧ (c.send bytes).received = c.received := by
      unfold send
      split <;> exact ⟨rfl, rfl⟩
    rw [hrest hp (by simp) (hsend _ _).1, (hsend _ _).2]
    rfl

theorem received_follow_finish (now : Nat) (c : Connection) (script : List Action) :
    (follow now c.finish script).received = (follow now c script).received := by
  induction script generalizing c with
  | nil => rfl
  | cons a rest ih =>
    rcases hp : perform now c a with ⟨c', _ | a'⟩
    · rw [follow, follow, hp, perform_finish hp]
      dsimp only
      split
      · rfl
      · exact ih c'
    · rw [(blocked_of_perform hp).received_finish, follow, hp]

/-- A server reads the same whether the client has ended the stream or not. -/
theorem received_advance_finish (now : Nat) (c : Connection) :
    (c.finish.advance now).received = (c.advance now).received :=
  received_follow_finish now c c.script

/-- What a server knows of a connection. -/
def reading (c : Connection) : Endpoint × Nat × List UInt8 := (c.peer, c.ordinal, c.received)

theorem reading_advance_finish (now : Nat) (c : Connection) :
    (c.finish.advance now).reading = (c.advance now).reading := by
  rw [reading, reading, peer_advance, peer_advance, ordinal_advance, ordinal_advance,
    received_advance_finish]
  rfl

end Connection

theorem Network.received_eq (net : Network) (opened : List Connection) :
    net.received opened = net.servers.map fun s => (List.range s.accepted).map fun i =>
      (((net.closed ++ opened).map Connection.reading).find? fun t =>
        t.1 = s.address ∧ t.2.1 = i).elim [] (·.2.2) := by
  rw [received]
  congr 1
  funext s
  congr 1
  funext i
  rw [List.find?_map]
  show _ = ((List.find? (fun c => c.peer = s.address ∧ c.ordinal = i) (net.closed ++ opened)).map
    Connection.reading).elim [] (·.2.2)
  cases (net.closed ++ opened).find? fun c => c.peer = s.address ∧ c.ordinal = i <;> rfl

/-! ## Sessions -/

namespace Session

variable {s s' s'' : Session}

theorem received_congr (hservers : s'.net.servers = s.net.servers)
    (h : (s'.net.closed ++ s'.stream.toList).map Connection.reading =
      (s.net.closed ++ s.stream.toList).map Connection.reading) : s'.received = s.received := by
  rw [received, received, Network.received_eq, Network.received_eq, hservers, h]

/-- Sessions whose servers see the same. -/
structure SeenAlike (s s' : Session) : Prop where
  /-- They have accepted the same connections. -/
  servers : s'.net.servers = s.net.servers
  /-- The same bytes are on the way or have come. -/
  sent : s'.sent = s.sent
  received : s'.received = s.received
  later : ∀ now, (s'.moveTo now).received = (s.moveTo now).received

theorem Alike.seenAlike (h : s.Alike s') : s.SeenAlike s' := by
  refine ⟨by rw [h.net], by rw [sent, sent, h.net, h.stream], ?_, fun now => ?_⟩
  · rw [received, received, h.net, h.stream]
  · rw [received, received, moveTo_net, moveTo_net, moveTo_stream, moveTo_stream, h.net, h.stream]

theorem SeenAlike.trans (h : s.SeenAlike s') (h' : s'.SeenAlike s'') : s.SeenAlike s'' :=
  ⟨h'.servers.trans h.servers, h'.sent.trans h.sent, h'.received.trans h.received,
    fun now => (h'.later now).trans (h.later now)⟩

/-- The bytes do not tell whether the client has closed its connection. -/
theorem seenAlike_closed (s : Session) : s.SeenAlike s.closed := by
  cases hs : s.stream with
  | none =>
    have hsame : s.closed = s := by rw [closed, hs]
    rw [hsame]
    exact (Alike.refl s).seenAlike
  | some c =>
    have hservers : s.closed.net.servers = s.net.servers := by simp
    have hnet : s.closed.net.closed = s.net.closed ++ [c.finish] := by
      simp [closed, hs, Network.close]
    refine ⟨hservers, s.sent_closed, received_congr hservers ?_, fun now => received_congr ?_ ?_⟩
    · rw [hnet, closed_stream, hs]
      simp [Connection.reading, Connection.finish]
    · exact hservers
    · rw [moveTo_net, moveTo_net, moveTo_stream, moveTo_stream, closed_stream, hs]
      simp [Network.advance, hnet, Connection.reading_advance_finish]

end Session

end ProxyDial
