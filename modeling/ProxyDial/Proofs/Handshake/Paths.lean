import ProxyDial.Handshake
import ProxyDial.Proofs.Session.Sending
import ProxyDial.Proofs.Time.Allowance

/-!
# The ways of a handshake

A handshake settles its target (`HandshakeRequest.Targets`), writes the request and
reads the reply.  `HandshakeRequest.Leads` lists the ways that this can take, each with
its result and the session that it leaves behind, and `leads_run` says that there are
no others.

*Rounds.*  In each state a handshake does what is due and goes on with the next one
(`Handshake.drive_start` and so on).  So from its beginning it seeks the target and then
asks for it (`HandshakeRequest.drive_prepare`).
-/

namespace ProxyDial

theorem checkUserId_eq_ok_iff (userId : List UInt8) :
    checkUserId userId = .ok () ↔ 0 ∉ userId ∧ userId.length ≤ 255 := by
  rw [checkUserId, ← UserId.maxLength, ← UserId.check_eq_ok_iff]
  cases UserId.check userId with
  | error fault =>
    constructor
    · intro h
      cases h
    · intro h
      cases h
  | ok u => exact ⟨fun _ => rfl, fun _ => rfl⟩

/-! ## Rounds -/

namespace Handshake

theorem drive_eq (op : Handshake) : op.drive = (do
    match ← op.round with
    | none => return ()
    | some next => next.1.drive) := by
  rw [drive, Attempt.loop_eq]
  congr 1
  funext next
  cases next <;> rfl

variable (q : HandshakeRequest) (r : Resolver) (target : Option IPv4) (bytes : List UInt8)

theorem drive_start : drive ⟨q, r, .start, target, bytes⟩ = (do
    q.start
    q.step .start .resolvingTarget
    drive ⟨q, r, .resolvingTarget, target, bytes⟩) := by
  rw [drive_eq]
  simp [round, start, advance]

theorem drive_resolvingTarget : drive ⟨q, r, .resolvingTarget, target, bytes⟩ = (do
    let ip ← q.target r
    Op.armTimer q.timeout
    q.step .resolvingTarget .writingRequest
    drive ⟨q, r, .writingRequest, some ip, (q.requestFor ip).encode⟩) := by
  rw [drive_eq]
  simp [round, resolveTarget, advance]

theorem drive_writingRequest : drive ⟨q, r, .writingRequest, target, bytes⟩ = (do
    q.writeRequest bytes
    q.step .writingRequest .readingReply
    drive ⟨q, r, .readingReply, target, bytes⟩) := by
  rw [drive_eq]
  simp [round, writeRequest, advance]

theorem drive_readingReply : drive ⟨q, r, .readingReply, target, bytes⟩ = (do
    q.readReply
    Op.record (.granted target q.port)
    q.step .readingReply .done
    drive ⟨q, r, .done, target, []⟩) := by
  rw [drive_eq]
  simp [round, readReply, advance]

theorem drive_done : drive ⟨q, r, .done, target, bytes⟩ = pure () := by
  rw [drive_eq]
  simp [round]

end Handshake

namespace HandshakeRequest

variable (q : HandshakeRequest) (r : Resolver)

/-- The instant at which a write and a read that begin at `now` are given up. -/
def limit (now : Nat) : Option Nat := (Deadline.after now q.timeout).map Deadline.due

/-- The lookup of the target. -/
def lookup : Lookup := r.lookup q.host q.port .any

/-! ## The target -/

/-- The session when the lookup begins. -/
def resolving (s : Session) : Session :=
  s.record (.handshakeStep q.host q.port .start .resolvingTarget)

/-- The session after warnings about addresses. -/
def warned (ips : List IPv6) (s : Session) : Session :=
  ips.foldl (fun s ip => s.record (.skipped ip q.host)) s

@[simp] theorem warned_clock (ips : List IPv6) (s : Session) :
    (q.warned ips s).clock = s.clock := by
  induction ips generalizing s with
  | nil => rfl
  | cons ip rest ih => exact ih (s.record (.skipped ip q.host))

@[simp] theorem warned_net (ips : List IPv6) (s : Session) : (q.warned ips s).net = s.net := by
  induction ips generalizing s with
  | nil => rfl
  | cons ip rest ih => exact ih (s.record (.skipped ip q.host))

@[simp] theorem warned_stream (ips : List IPv6) (s : Session) :
    (q.warned ips s).stream = s.stream := by
  induction ips generalizing s with
  | nil => rfl
  | cons ip rest ih => exact ih (s.record (.skipped ip q.host))

/-- How the search for the target's address ends. -/
inductive Targets (s : Session) : Option (Except DialError IPv4) × Session → Prop where
  | closed (hs : s.stream = none) : Targets s (some (.error (.transport .noProxy)), s)
  | badUserId {c : Connection} {e : DialError} (hs : s.stream = some c)
      (hu : checkUserId q.userId = .error e) : Targets s (some (.error e), s)
  | unanswered {c : Connection} (hs : s.stream = some c) (hu : checkUserId q.userId = .ok ())
      (hd : (q.lookup r).delay = none) : Targets s (none, q.resolving s)
  | lookupFailed {c : Connection} {millis : Nat} {e : DialError} (hs : s.stream = some c)
      (hu : checkUserId q.userId = .ok ()) (hd : (q.lookup r).delay = some millis)
      (ha : (q.lookup r).answer = .error e) :
      Targets s (some (.error e), (q.resolving s).later millis)
  | noIPv4 {c : Connection} {millis : Nat} {endpoints : List Endpoint} (hs : s.stream = some c)
      (hu : checkUserId q.userId = .ok ()) (hd : (q.lookup r).delay = some millis)
      (ha : (q.lookup r).answer = .ok endpoints) (hi : firstIPv4? endpoints = none) :
      Targets s (some (.error (.hostNotFound q.host)),
        q.warned (skippedIPv6 endpoints) ((q.resolving s).later millis))
  | found {c : Connection} {millis : Nat} {endpoints : List Endpoint} {ip : IPv4}
      (hs : s.stream = some c) (hu : checkUserId q.userId = .ok ())
      (hd : (q.lookup r).delay = some millis) (ha : (q.lookup r).answer = .ok endpoints)
      (hi : firstIPv4? endpoints = some ip) :
      Targets s (some (.ok ip),
        q.warned (skippedIPv6 endpoints) ((q.resolving s).later millis))

theorem outcome_warnSkipped (ips : List IPv6) (s : Session) :
    (q.warnSkipped ips).outcome s = (some (), q.warned ips s) := by
  induction ips generalizing s with
  | nil => rfl
  | cons ip rest ih =>
    rw [warnSkipped, Op.outcome_bind, Op.outcome_record]
    exact ih _

/-- The first part of a handshake. -/
def seek : Attempt IPv4 := do
  q.start
  q.step .start .resolvingTarget
  q.target r

theorem targets_seek (s : Session) : q.Targets r s ((ExceptT.run (q.seek r)).outcome s) := by
  rw [seek, start]
  simp only [Attempt.outcome_run_bind, Attempt.outcome_run_lift, Op.outcome_get, Option.map_some]
  cases hs : s.stream with
  | none =>
    simp only [Session.isOpen_of_none hs]
    exact .closed hs
  | some c =>
    simp only [Session.isOpen_of_some hs, if_true]
    cases hu : checkUserId q.userId with
    | error e => exact .badUserId hs hu
    | ok u =>
      simp only [Attempt.outcome_run_pure, step, Attempt.outcome_run_lift, Op.outcome_record,
        Option.map_some, target, Attempt.outcome_run_bind, ExceptT.run_mk, Resolver.resolve,
        Op.outcome_ready]
      cases hd : (q.lookup r).delay with
      | none =>
        rw [lookup] at hd
        simp only [hd]
        exact .unanswered hs hu hd
      | some millis =>
        rw [lookup] at hd
        simp only [hd]
        cases ha : (q.lookup r).answer with
        | error e =>
          rw [lookup] at ha
          simp only [ha]
          exact .lookupFailed hs hu hd ha
        | ok endpoints =>
          rw [lookup] at ha
          simp only [ha, outcome_warnSkipped, Option.map_some]
          cases hi : firstIPv4? endpoints with
          | none => exact .noIPv4 hs hu hd ha hi
          | some ip => exact .found hs hu hd ha hi

variable {q r} in
/-- Nothing but time has passed when the target is found. -/
theorem Targets.passed {s s' : Session} {ip : IPv4} (ht : q.Targets r s (some (.ok ip), s')) :
    ∃ millis, (q.lookup r).delay = some millis ∧ s'.clock = s.clock + millis ∧
      s'.net = (s.later millis).net ∧ s'.stream = (s.later millis).stream := by
  cases ht with
  | @found c millis _ _ hs hu hd ha hi =>
    exact ⟨millis, hd, by simp [resolving], by simp [resolving], by simp [resolving]⟩

variable {q r} in
theorem Targets.exists_stream {s s' : Session} {ip : IPv4}
    (ht : q.Targets r s (some (.ok ip), s')) : ∃ c, s'.stream = some c := by
  obtain ⟨millis, -, -, -, hs'⟩ := ht.passed
  cases ht with
  | @found c _ _ _ hs =>
    rw [hs']
    cases millis with
    | zero => exact ⟨c, hs⟩
    | succ n => exact ⟨c.advance (s.clock + (n + 1)), by simp [Session.later, hs]⟩

/-! ## The exchange -/

/-- The session when the request is written. -/
def writing (s : Session) : Session :=
  (s.armed q.timeout).record (.handshakeStep q.host q.port .resolvingTarget .writingRequest)

/-- The session when the reply is read. -/
def reading (s : Session) : Session :=
  s.record (.handshakeStep q.host q.port .writingRequest .readingReply)

/-- The session when the tunnel is open. -/
def granted (ip : IPv4) (s : Session) : Session :=
  (s.cancelled.record (.granted (some ip) q.port)).record
    (.handshakeStep q.host q.port .readingReply .done)

end HandshakeRequest

/-- What the bytes of a reply say. -/
def Reply.verdict (bytes : List UInt8) : Except DialError Unit :=
  match Reply.decode bytes with
  | .error e => .error e
  | .ok reply => reply.outcome

namespace HandshakeRequest

variable (q : HandshakeRequest) (r : Resolver)

/-- How the request for an address is written on the connection `c`. -/
abbrev WritesRequest (ip : IPv4) (s : Session) (c : Connection) :
    Option (Option (Except IoError Unit)) × Session → Prop :=
  Op.Writes (q.limit s.clock) (q.requestFor ip).encode (q.writing s) c

/-- How the reply is read. -/
abbrev ReadsReply (limit : Option Nat) (s : Session) (c : Connection) :
    Option (Option (Except IoError (List UInt8))) × Session → Prop :=
  Op.Reads (Connection.holds Reply.length) (Connection.readExact Reply.length) limit s c

/-- The ways of a handshake. -/
inductive Leads (s : Session) : Option (Except DialError Unit) × Session → Prop where
  | unanswered {s' : Session} (ht : q.Targets r { s with timer := .idle } (none, s')) :
      Leads s (none, s')
  | noTarget {s' : Session} {e : DialError}
      (ht : q.Targets r { s with timer := .idle } (some (.error e), s')) :
      Leads s (some (.error e), s'.closed.cancelled)
  | unwritten {s' s'' : Session} {ip : IPv4} {c : Connection}
      (ht : q.Targets r { s with timer := .idle } (some (.ok ip), s')) (hs : s'.stream = some c)
      (hw : q.WritesRequest ip s' c (none, s'')) : Leads s (none, s'')
  | writeLate {s' s'' : Session} {ip : IPv4} {c : Connection}
      (ht : q.Targets r { s with timer := .idle } (some (.ok ip), s')) (hs : s'.stream = some c)
      (hw : q.WritesRequest ip s' c (some none, s'')) :
      Leads s (some (.error q.timedOut), s''.expired.closed.cancelled)
  | writeFailed {s' s'' : Session} {ip : IPv4} {c : Connection} {why : IoError}
      (ht : q.Targets r { s with timer := .idle } (some (.ok ip), s')) (hs : s'.stream = some c)
      (hw : q.WritesRequest ip s' c (some (some (.error why)), s'')) :
      Leads s (some (.error (.transport why)), s''.closed.cancelled)
  | unreplied {s' s₁ s'' : Session} {ip : IPv4} {c c' : Connection}
      (ht : q.Targets r { s with timer := .idle } (some (.ok ip), s')) (hs : s'.stream = some c)
      (hw : q.WritesRequest ip s' c (some (some (.ok ())), s₁)) (hs₁ : s₁.stream = some c')
      (hr : ReadsReply (q.limit s'.clock) (q.reading s₁) c' (none, s'')) : Leads s (none, s'')
  | late {s' s₁ s'' : Session} {ip : IPv4} {c c' : Connection}
      (ht : q.Targets r { s with timer := .idle } (some (.ok ip), s')) (hs : s'.stream = some c)
      (hw : q.WritesRequest ip s' c (some (some (.ok ())), s₁)) (hs₁ : s₁.stream = some c')
      (hr : ReadsReply (q.limit s'.clock) (q.reading s₁) c' (some none, s'')) :
      Leads s (some (.error q.timedOut), s''.expired.cancelled.closed.cancelled)
  | readFailed {s' s₁ s'' : Session} {ip : IPv4} {c c' : Connection} {why : IoError}
      (ht : q.Targets r { s with timer := .idle } (some (.ok ip), s')) (hs : s'.stream = some c)
      (hw : q.WritesRequest ip s' c (some (some (.ok ())), s₁)) (hs₁ : s₁.stream = some c')
      (hr : ReadsReply (q.limit s'.clock) (q.reading s₁) c' (some (some (.error why)), s'')) :
      Leads s (some (.error (.transport why)), s''.cancelled.closed.cancelled)
  | denied {s' s₁ s'' : Session} {ip : IPv4} {c c' : Connection} {bytes : List UInt8}
      {e : DialError}
      (ht : q.Targets r { s with timer := .idle } (some (.ok ip), s')) (hs : s'.stream = some c)
      (hw : q.WritesRequest ip s' c (some (some (.ok ())), s₁)) (hs₁ : s₁.stream = some c')
      (hr : ReadsReply (q.limit s'.clock) (q.reading s₁) c' (some (some (.ok bytes)), s''))
      (hv : Reply.verdict bytes = .error e) :
      Leads s (some (.error e), s''.cancelled.closed.cancelled)
  | granted {s' s₁ s'' : Session} {ip : IPv4} {c c' : Connection} {bytes : List UInt8}
      (ht : q.Targets r { s with timer := .idle } (some (.ok ip), s')) (hs : s'.stream = some c)
      (hw : q.WritesRequest ip s' c (some (some (.ok ())), s₁)) (hs₁ : s₁.stream = some c')
      (hr : ReadsReply (q.limit s'.clock) (q.reading s₁) c' (some (some (.ok bytes)), s''))
      (hv : Reply.verdict bytes = .ok ()) :
      Leads s (some (.ok ()), (q.granted ip s'').cancelled)

/-- The second part of a handshake. -/
def exchange (ip : IPv4) : Attempt Unit := do
  Op.armTimer q.timeout
  q.step .resolvingTarget .writingRequest
  q.writeRequest (q.requestFor ip).encode
  q.step .writingRequest .readingReply
  q.readReply
  Op.record (.granted (some ip) q.port)
  q.step .readingReply .done

/-- The rounds of a handshake seek its target and then ask for it. -/
theorem drive_prepare : (Handshake.prepare q r).drive = q.seek r >>= q.exchange := by
  simp only [Handshake.prepare, Handshake.drive_start, Handshake.drive_resolvingTarget,
    Handshake.drive_writingRequest, Handshake.drive_readingReply, Handshake.drive_done, seek,
    bind_assoc]
  rfl

theorem outcome_writeRequest {s : Session} {c : Connection} (hs : s.stream = some c)
    (bytes : List UInt8) :
    (ExceptT.run (q.writeRequest bytes)).outcome s =
      match ((Op.writeAll bytes).giveUpAt s.timer.limit).outcome s with
      | (none, s') => (none, s')
      | (some none, s') => (some (.error q.timedOut), s'.expired)
      | (some (some result), s') => (some (result.mapError .transport), s') := by
  have hw := Op.writes_writeAll s.timer.limit hs bytes
  rw [writeRequest]
  simp only [Attempt.outcome_run_bind, Attempt.outcome_run_lift, Op.outcome_race]
  generalize ((Op.writeAll bytes).giveUpAt s.timer.limit).outcome s = written at hw ⊢
  rcases written with ⟨_ | _ | why | u, s'⟩
  · rfl
  · rfl
  · rfl
  · obtain ⟨c', hs'⟩ := hw.exists_stream
    simp only [settled, Attempt.outcome_run_bind, Attempt.outcome_run_lift, Op.outcome_get,
      Option.map_some, Race.settle, Session.isOpen_of_some hs', if_true]
    rfl

theorem outcome_readReply {s : Session} {c : Connection} (hs : s.stream = some c) :
    (ExceptT.run q.readReply).outcome s =
      match ((Op.readExact Reply.length).giveUpAt s.timer.limit).outcome s with
      | (none, s') => (none, s')
      | (some none, s') => (some (.error q.timedOut), s'.expired.cancelled)
      | (some (some (.error why)), s') => (some (.error (.transport why)), s'.cancelled)
      | (some (some (.ok bytes)), s') => (some (Reply.verdict bytes), s'.cancelled) := by
  have hr := Op.reads_awaitReady (Connection.holds Reply.length) (Connection.readExact Reply.length)
    s.timer.limit hs
  rw [readReply]
  simp only [Attempt.outcome_run_bind, Attempt.outcome_run_lift, Op.outcome_race, Op.readExact]
  generalize (Op.giveUpAt s.timer.limit _).outcome s = read at hr ⊢
  cases hr with
  | never ha => rfl
  | late ha => simp [settled, Race.settle]
  | @found s' c' ha hs' hready =>
    generalize (Connection.readExact Reply.length c') = found
    rcases found with ⟨why | bytes, c''⟩
    · simp [settled, Race.settle]
    · simp only [Option.map_some, settled, Attempt.outcome_run_bind, Attempt.outcome_run_lift,
        Op.outcome_get, Op.outcome_cancelTimer, Session.isOpen, Session.cancelled_stream,
        Option.isSome_some, Race.settle, if_true, Attempt.outcome_run_pure, Reply.verdict]
      cases Reply.decode bytes with
      | error e => rfl
      | ok reply =>
        dsimp only
        cases reply.outcome <;> rfl

/-- The writing of the request for an address. -/
def writes (ip : IPv4) (s : Session) : Option (Option (Except IoError Unit)) × Session :=
  ((Op.writeAll (q.requestFor ip).encode).giveUpAt (q.limit s.clock)).outcome (q.writing s)

/-- The reading of the reply to a request that was written. -/
def reads (s : Session) : Option (Option (Except IoError (List UInt8))) × Session :=
  ((Op.readExact Reply.length).giveUpAt s.timer.limit).outcome (q.reading s)

theorem writesRequest_writes (ip : IPv4) {s : Session} {c : Connection} (hs : s.stream = some c) :
    q.WritesRequest ip s c (q.writes ip s) := by
  have hwriting : (q.writing s).stream = some c := hs
  exact Op.writes_writeAll _ hwriting _

theorem readsReply_reads {s : Session} {c : Connection} (hs : s.stream = some c) :
    ReadsReply s.timer.limit (q.reading s) c (q.reads s) :=
  Op.reads_awaitReady _ _ _ hs

/-- The timer goes on while the request is written. -/
theorem WritesRequest.limit_eq {q : HandshakeRequest} {ip : IPv4} {s : Session} {c : Connection}
    {o : Option (Option (Except IoError Unit)) × Session} (hw : q.WritesRequest ip s c o) :
    o.2.timer.limit = q.limit s.clock := by
  have htimer : o.2.timer = (q.writing s).timer := hw.quiet.2.1
  rw [htimer]
  rfl

/-- How a handshake ends whose reading has ended. -/
def concluded (ip : IPv4) : Option (Option (Except IoError (List UInt8))) × Session →
    Option (Except DialError Unit) × Session
  | (none, s) => (none, s)
  | (some none, s) => (some (.error q.timedOut), s.expired.cancelled.closed.cancelled)
  | (some (some (.error why)), s) => (some (.error (.transport why)), s.cancelled.closed.cancelled)
  | (some (some (.ok bytes)), s) =>
    match Reply.verdict bytes with
    | .error e => (some (.error e), s.cancelled.closed.cancelled)
    | .ok () => (some (.ok ()), (q.granted ip s).cancelled)

/-- How a handshake goes on whose writing has ended. -/
def carriedOn (ip : IPv4) : Option (Option (Except IoError Unit)) × Session →
    Option (Except DialError Unit) × Session
  | (none, s) => (none, s)
  | (some none, s) => (some (.error q.timedOut), s.expired.closed.cancelled)
  | (some (some (.error why)), s) => (some (.error (.transport why)), s.closed.cancelled)
  | (some (some (.ok ())), s) => q.concluded ip (q.reads s)

/-- A handshake that does not find its target ends at once. -/
theorem outcome_run_of_lost {s s' : Session} {found : Option (Except DialError IPv4)}
    (hp : (ExceptT.run (q.seek r)).outcome { s with timer := .idle } = (found, s'))
    (hn : ∀ ip, found ≠ some (.ok ip)) :
    (q.run r).outcome s =
      (found.map fun found => found.map fun _ => (),
        if found = none then s' else s'.closed.cancelled) := by
  rw [run, Handshake.run, Attempt.outcome_run, drive_prepare, Attempt.outcome_run_bind, hp]
  rcases found with _ | e | ip
  · rfl
  · rfl
  · exact absurd rfl (hn ip)

/-- A handshake that finds its target writes its request and reads the reply. -/
theorem outcome_run_of_found {s s' : Session} {ip : IPv4} {c : Connection}
    (hp : (ExceptT.run (q.seek r)).outcome { s with timer := .idle } = (some (.ok ip), s'))
    (hs : s'.stream = some c) :
    (q.run r).outcome s = q.carriedOn ip (q.writes ip s') := by
  have hw := q.writesRequest_writes ip hs
  rw [run, Handshake.run, Attempt.outcome_run, drive_prepare, Attempt.outcome_run_bind, hp]
  dsimp only
  rw [exchange]
  simp only [step, Attempt.outcome_run_bind, Attempt.outcome_run_lift, Op.outcome_record,
    Op.outcome_armTimer, Option.map_some]
  have ho := q.outcome_writeRequest (s := q.writing s') hs (q.requestFor ip).encode
  have hwrites : ((Op.writeAll (q.requestFor ip).encode).giveUpAt
      (q.writing s').timer.limit).outcome (q.writing s') = q.writes ip s' := rfl
  rw [hwrites, writing] at ho
  rw [ho]
  generalize q.writes ip s' = written at hw ⊢
  rcases written with ⟨_ | _ | why | u, s₁⟩
  · rfl
  · rfl
  · rfl
  · obtain ⟨c', hs₁⟩ := hw.exists_stream
    have hread := q.outcome_readReply (s := q.reading s₁) hs₁
    have hreads : ((Op.readExact Reply.length).giveUpAt (q.reading s₁).timer.limit).outcome
        (q.reading s₁) = q.reads s₁ := rfl
    rw [hreads, reading] at hread
    dsimp only [Except.mapError, carriedOn]
    rw [hread]
    generalize q.reads s₁ = read
    rcases read with ⟨_ | _ | why | bytes, s''⟩
    · rfl
    · rfl
    · rfl
    · simp only [concluded]
      cases Reply.verdict bytes with
      | error e => rfl
      | ok u => rfl

theorem leads_run (s : Session) : q.Leads r s ((q.run r).outcome s) := by
  have ht := q.targets_seek r { s with timer := .idle }
  rcases hp : (ExceptT.run (q.seek r)).outcome { s with timer := .idle }
    with ⟨_ | e | ip, s'⟩
  · rw [hp] at ht
    rw [q.outcome_run_of_lost r hp (by simp)]
    exact .unanswered ht
  · rw [hp] at ht
    rw [q.outcome_run_of_lost r hp (by simp)]
    exact .noTarget ht
  · rw [hp] at ht
    obtain ⟨c, hs⟩ := ht.exists_stream
    have hw := q.writesRequest_writes ip hs
    rw [q.outcome_run_of_found r hp hs]
    generalize q.writes ip s' = written at hw ⊢
    rcases written with ⟨_ | _ | why | u, s₁⟩
    · exact .unwritten ht hs hw
    · exact .writeLate ht hs hw
    · exact .writeFailed ht hs hw
    · obtain ⟨c', hs₁⟩ := hw.exists_stream
      have hr := q.readsReply_reads hs₁
      rw [hw.limit_eq] at hr
      dsimp only [carriedOn]
      generalize q.reads s₁ = read at hr ⊢
      rcases read with ⟨_ | _ | why | bytes, s''⟩
      · exact .unreplied ht hs hw hs₁ hr
      · exact .late ht hs hw hs₁ hr
      · exact .readFailed ht hs hw hs₁ hr
      · simp only [concluded]
        cases hv : Reply.verdict bytes with
        | error e => exact .denied ht hs hw hs₁ hr hv
        | ok u => exact .granted ht hs hw hs₁ hr hv

end HandshakeRequest

end ProxyDial
