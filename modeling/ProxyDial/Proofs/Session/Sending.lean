import ProxyDial.Proofs.Session.Socket

/-!
# What a client has sent

`Session.sent` lists what the client has sent on each of its connections, those that it
has closed and the one that is open.  Neither time, nor reading, nor closing changes
it.
-/

namespace ProxyDial

namespace Connection

/-- The connection's server, the connection's number there, and what the client has sent. -/
def transcript (c : Connection) : Endpoint × Nat × List UInt8 := (c.peer, c.ordinal, c.sent)

theorem transcript_of_clientSide {c c' : Connection} (h : c'.clientSide = c.clientSide) :
    c'.transcript = c.transcript :=
  congrArg (fun side => (side.1, side.2.1, side.2.2.2.1)) h

@[simp]
theorem transcript_advance (now : Nat) (c : Connection) :
    (c.advance now).transcript = c.transcript :=
  transcript_of_clientSide (clientSide_advance now c)

theorem clientSide_findEnd (c : Connection) : c.findEnd.2.clientSide = c.clientSide := by
  unfold findEnd
  split <;> rfl

theorem clientSide_readExact (count : Nat) (c : Connection) :
    (c.readExact count).2.clientSide = c.clientSide := by
  have hf := clientSide_findEnd { c with toClient := [] }
  unfold readExact
  split
  · rfl
  · generalize ({ c with toClient := [] } : Connection).findEnd = found at hf ⊢
    rcases found with ⟨_ | _, c'⟩ <;> exact hf

theorem transcript_write {c c' : Connection} {bytes : List UInt8} {count : Nat}
    (h : c.write bytes = (.ok count, c')) :
    c'.transcript = (c.peer, c.ordinal, c.sent ++ bytes.take count) := by
  obtain ⟨-, -, -, rfl⟩ := eq_of_write h
  simp [transcript, sent]

theorem transcript_write_error {c c' : Connection} {bytes : List UInt8} {why : IoError}
    (h : c.write bytes = (.error why, c')) : c'.transcript = c.transcript := by
  unfold write at h
  split at h
  · cases h
    rfl
  · cases h
    rfl
  · split at h
    · cases h
      rfl
    · cases h
  · split at h
    · cases h
      rfl
    · cases h

end Connection

namespace Session

/-- What the client has sent on each of its connections. -/
def sent (s : Session) : List (Endpoint × Nat × List UInt8) :=
  (s.net.closed ++ s.stream.toList).map Connection.transcript

variable (s : Session)

@[simp] theorem sent_record (e : Event) : (s.record e).sent = s.sent := rfl
@[simp] theorem sent_armed (d : Duration) : (s.armed d).sent = s.sent := rfl
@[simp] theorem sent_expired : s.expired.sent = s.sent := rfl

@[simp] theorem sent_cancelled : s.cancelled.sent = s.sent := by
  simp [sent]

@[simp] theorem sent_closed : s.closed.sent = s.sent := by
  unfold closed
  cases hs : s.stream with
  | none => rfl
  | some c =>
    have hf : c.finish.transcript = c.transcript := rfl
    simp [sent, Network.close, hs, hf]

@[simp] theorem sent_moveTo (now : Nat) : (s.moveTo now).sent = s.sent := by
  cases hs : s.stream <;>
    simp [sent, Network.advance, hs, Function.comp_def, Connection.transcript_advance]

@[simp] theorem sent_later (millis : Nat) : (s.later millis).sent = s.sent := by
  cases millis with
  | zero => rfl
  | succ n => exact s.sent_moveTo _

theorem transcripts_later (millis : Nat) :
    (s.later millis).net.closed.map Connection.transcript =
      s.net.closed.map Connection.transcript := by
  cases millis with
  | zero => rfl
  | succ n => simp [later, Network.advance, Function.comp_def]

@[simp] theorem servers_closed : s.closed.net.servers = s.net.servers := by
  unfold closed
  split <;> rfl

@[simp] theorem servers_later (millis : Nat) : (s.later millis).net.servers = s.net.servers := by
  cases millis <;> rfl

/-- What a connection in the socket has sent comes last. -/
theorem sent_of_stream {c : Connection} (hs : s.stream = some c) :
    s.sent = s.net.closed.map Connection.transcript ++ [c.transcript] := by
  rw [sent, hs]
  exact List.map_append

end Session

namespace Op

variable {α : Type} {isReady : Connection → Bool} {limit : Option Nat} {s s' : Session}
  {c : Connection}

/-- Nothing but time passes in a wait. -/
theorem Awaits.passed {waited : Option (Option Unit)}
    (ha : Awaits isReady limit s c (waited, s')) : s' = s ∨ ∃ now, s' = s.moveTo now := by
  cases ha with
  | atOnce => exact .inl rfl
  | inTime => exact .inr ⟨_, rfl⟩
  | late => exact .inr ⟨_, rfl⟩
  | tooLate => exact .inl rfl
  | never => exact .inr ⟨_, rfl⟩

/-- A wait says nothing and leaves the timer and the servers alone. -/
theorem Awaits.quiet {waited : Option (Option Unit)} (ha : Awaits isReady limit s c (waited, s')) :
    s'.log = s.log ∧ s'.timer = s.timer ∧ s'.net.servers = s.net.servers := by
  rcases ha.passed with rfl | ⟨now, rfl⟩ <;> exact ⟨rfl, rfl, rfl⟩

/-- So does what comes of it. -/
theorem Reads.quiet {take : Connection → Except IoError α × Connection}
    {o : Option (Option (Except IoError α)) × Session} (hr : Reads isReady take limit s c o) :
    o.2.log = s.log ∧ o.2.timer = s.timer ∧ o.2.net.servers = s.net.servers := by
  cases hr with
  | found ha =>
    have hquiet := ha.quiet
    exact hquiet
  | late ha => exact ha.quiet
  | never ha => exact ha.quiet

theorem Writes.quiet {bytes : List UInt8} {o : Option (Option (Except IoError Unit)) × Session}
    (hw : Writes limit bytes s c o) :
    o.2.log = s.log ∧ o.2.timer = s.timer ∧ o.2.net.servers = s.net.servers := by
  refine hw.related (R := fun s s' => s'.log = s.log ∧ s'.timer = s.timer ∧
    s'.net.servers = s.net.servers) (fun _ => ⟨rfl, rfl, rfl⟩) ?_ fun _ _ _ _ hr => hr.quiet
  rintro s s' s'' ⟨hlog, htimer, hnet⟩ ⟨hlog', htimer', hnet'⟩
  exact ⟨hlog'.trans hlog, htimer'.trans htimer, hnet'.trans hnet⟩

theorem Awaits.sent_eq {waited : Option (Option Unit)}
    (ha : Awaits isReady limit s c (waited, s')) : s'.sent = s.sent := by
  rcases ha.passed with rfl | ⟨now, rfl⟩
  · rfl
  · exact s.sent_moveTo now

theorem Reads.sent_eq {take : Connection → Except IoError α × Connection}
    {read : Option (Option (Except IoError α))}
    (ht : ∀ c, (take c).2.clientSide = c.clientSide)
    (hr : Reads isReady take limit s c (read, s')) : s'.sent = s.sent := by
  cases hr with
  | @found s₁ c₁ ha hs₁ hready =>
    have htake := Connection.transcript_of_clientSide (ht c₁)
    rw [← ha.sent_eq, s₁.sent_of_stream hs₁, ← htake]
    exact Session.sent_of_stream _ rfl
  | late ha => exact ha.sent_eq
  | never ha => exact ha.sent_eq

/-! ## Writing -/

variable {before : List (Endpoint × Nat × List UInt8)} {bytes : List UInt8}

/-- What one write has sent are the bytes that it reports, or none. -/
theorem WritesOnce.sent_eq {o : Option (Option (Except IoError Nat))}
    (hsent : s.sent = before ++ [c.transcript]) (hw : WritesOnce limit bytes s c (o, s')) :
    ∃ taken, s'.sent = before ++ [(c.peer, c.ordinal, c.sent ++ taken)] ∧ taken <+: bytes ∧
      ∀ count, o = some (some (.ok count)) → taken = bytes.take count := by
  have hnone (h : s'.sent = s.sent) :
      s'.sent = before ++ [(c.peer, c.ordinal, c.sent ++ [])] := by
    rw [h, hsent, List.append_nil]
    rfl
  rcases o with _ | _ | result
  · cases hw with
    | never ha => exact ⟨[], hnone ha.sent_eq, List.nil_prefix, by simp⟩
  · cases hw with
    | late ha => exact ⟨[], hnone ha.sent_eq, List.nil_prefix, by simp⟩
  · obtain ⟨s₁, c₁, c', ha, hs₁, -, htake, rfl⟩ := hw.exists_taken
    obtain ⟨hbefore, hsame⟩ := List.append_inj'
      ((s₁.sent_of_stream hs₁).symm.trans (ha.sent_eq.trans hsent)) rfl
    have hsame : c₁.transcript = c.transcript := List.singleton_inj.1 hsame
    have hend : ({ s₁ with stream := some c' } : Session).sent = before ++ [c'.transcript] := by
      rw [Session.sent_of_stream _ rfl, ← hbefore]
    cases result with
    | error why =>
      refine ⟨[], ?_, List.nil_prefix, by simp⟩
      rw [hend, Connection.transcript_write_error htake, hsame, List.append_nil]
      rfl
    | ok count =>
      refine ⟨bytes.take count, ?_, List.take_prefix count bytes, by rintro _ ⟨⟩; rfl⟩
      rw [hend, Connection.transcript_write htake]
      exact congrArg (fun t => before ++ [(t.1, t.2.1, t.2.2 ++ bytes.take count)]) hsame

/-- What a write of all bytes has sent are the first of them, and all if it succeeds. -/
theorem Writes.sent_eq {o : Option (Option (Except IoError Unit)) × Session}
    (hw : Writes limit bytes s c o) (hsent : s.sent = before ++ [c.transcript]) :
    ∃ taken, o.2.sent = before ++ [(c.peer, c.ordinal, c.sent ++ taken)] ∧ taken <+: bytes ∧
      (o.1 = some (some (.ok ())) → taken = bytes) := by
  induction hw with
  | done => exact ⟨[], by rw [hsent, List.append_nil]; rfl, List.nil_prefix, fun _ => rfl⟩
  | @more bytes count s s' c c' o _ hr hs' _ ih =>
    obtain ⟨first, hfirst, -, hcount⟩ := hr.sent_eq hsent
    obtain rfl := hcount count rfl
    obtain ⟨hbefore, hsame⟩ := List.append_inj' ((s'.sent_of_stream hs').symm.trans hfirst) rfl
    have hsame : c'.transcript = (c.peer, c.ordinal, c.sent ++ bytes.take count) :=
      List.singleton_inj.1 hsame
    obtain ⟨taken, htaken, ⟨rest, hprefix⟩, hall⟩ := ih (hfirst.trans (by rw [hsame]))
    refine ⟨bytes.take count ++ taken, ?_, ⟨rest, ?_⟩, fun ho => ?_⟩
    · rw [htaken, ← List.append_assoc]
      exact congrArg (fun t => before ++ [(t.1, t.2.1, t.2.2 ++ taken)]) hsame
    · rw [List.append_assoc, hprefix, List.take_append_drop]
    · rw [hall ho, List.take_append_drop]
  | failed _ hr =>
    obtain ⟨taken, hend, hprefix, -⟩ := hr.sent_eq hsent
    exact ⟨taken, hend, hprefix, by simp⟩
  | late _ hr =>
    obtain ⟨taken, hend, hprefix, -⟩ := hr.sent_eq hsent
    exact ⟨taken, hend, hprefix, by simp⟩
  | never _ hr =>
    obtain ⟨taken, hend, hprefix, -⟩ := hr.sent_eq hsent
    exact ⟨taken, hend, hprefix, by simp⟩

end Op

end ProxyDial
