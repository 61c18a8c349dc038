import ProxyDial.Proofs.Session.Waiting

/-!
# Reading, writing and connecting

What the operations on the socket can come to when they are given up at a limit.  A read
waits and then takes what it finds (`Reads`).  So does a write, as often as it takes to write
everything (`Writes`), and if the network has room for it all that is at once
(`outcome_writeAll_of_hasRoomFor`).  A walk over candidates goes on as long as attempts fail,
and each attempt takes its time (`Connects`).
-/

namespace ProxyDial

/-- The connection that a server at an address accepts at an instant. -/
def Server.accept (server : Server) (address : Endpoint) (scripts : List (List Action))
    (now : Nat) : Connection :=
  { peer := address, ordinal := server.accepted, script := scripts.headD [], since := now,
    capacity := server.capacity }

theorem Network.eq_of_contact {net net' : Network} {now : Nat} {e : Endpoint} {c : Connection}
    (h : net.contact now e = .accepted c net') :
    ∃ server scripts, net.serverAt? e = some server ∧ server.behaviour = .accepts scripts ∧
      c = server.accept e scripts now ∧ net' = net.countAccepted server scripts := by
  unfold contact at h
  split at h
  · split at h
    · cases h
    · rename_i server hserver
      split at h
      · cases h
      · cases h
      · rename_i scripts hscripts
        cases h
        exact ⟨server, scripts, hserver, hscripts, rfl, rfl⟩
  · cases h

namespace Op

variable {α : Type}

/-! ## The stream outside the socket, and calls without a connection -/

@[simp]
theorem outcome_takeStream (s : Session) :
    takeStream.outcome s = (some s.stream, { s with stream := none }) := rfl

theorem outcome_wrapStream (c : Connection) (s : Session) :
    (wrapStream c).outcome s = (some (),
      { s with
        net := s.stream.elim s.net s.net.close
        stream := some (c.advance s.clock) }) := by
  rw [wrapStream, outcome_bind, outcome_takeStream]
  cases s.stream <;> rfl

theorem outcome_withStream_of_none {s : Session} (hs : s.stream = none)
    (f : Connection → Except IoError α × Connection) :
    (withStream f).outcome s = (some (.error .socketClosed), s) := by
  simp [withStream, hs]

theorem outcome_awaitReady_of_none {s : Session} (hs : s.stream = none)
    (isReady : Connection → Bool) :
    (awaitReady isReady).outcome s = (some (), s) := by
  simp [awaitReady, hs]

theorem course_withStream {s : Session} {c : Connection} (hs : s.stream = some c)
    (f : Connection → Except IoError α × Connection) :
    (withStream f).course s = .done (f c).1 { s with stream := some (f c).2 } := by
  simp [withStream, hs, Course.bind, setStream]

theorem outcome_withStream {s : Session} {c : Connection} (hs : s.stream = some c)
    (f : Connection → Except IoError α × Connection) :
    (withStream f).outcome s = (some (f c).1, { s with stream := some (f c).2 }) := by
  rw [outcome, course_withStream hs]
  rfl

/-- What does not wait is never given up. -/
theorem outcome_giveUpAt_withStream {s : Session} {c : Connection} (hs : s.stream = some c)
    (f : Connection → Except IoError α × Connection) (limit : Option Nat) :
    ((withStream f).giveUpAt limit).outcome s =
      (some (some (f c).1), { s with stream := some (f c).2 }) :=
  outcome_giveUpAt_of_done limit (course_withStream hs f)

/-! ## Reading -/

/-- How a read ends that takes what it wants by `take`. -/
inductive Reads (isReady : Connection → Bool) (take : Connection → Except IoError α × Connection)
    (limit : Option Nat) (s : Session) (c : Connection) :
    Option (Option (Except IoError α)) × Session → Prop where
  | found {s' : Session} {c' : Connection} (ha : Awaits isReady limit s c (some (some ()), s'))
      (hs : s'.stream = some c') (hr : isReady c') :
      Reads isReady take limit s c (some (some (take c').1), { s' with stream := some (take c').2 })
  | late {s' : Session} (ha : Awaits isReady limit s c (some none, s')) :
      Reads isReady take limit s c (some none, s')
  | never {s' : Session} (ha : Awaits isReady limit s c (none, s')) :
      Reads isReady take limit s c (none, s')

/-- A read that ends leaves the socket open. -/
theorem Reads.exists_stream {isReady : Connection → Bool}
    {take : Connection → Except IoError α × Connection} {limit : Option Nat} {s s' : Session}
    {c : Connection} {result : Except IoError α}
    (hr : Reads isReady take limit s c (some (some result), s')) : ∃ c', s'.stream = some c' := by
  cases hr with
  | found => exact ⟨_, rfl⟩

/-- After the wait the connection is ready. -/
theorem Awaits.ready {isReady : Connection → Bool} {limit : Option Nat} {s s' : Session}
    {c : Connection} (ha : Awaits isReady limit s c (some (some ()), s'))
    (hs : s.stream = some c) : ∃ c', s'.stream = some c' ∧ isReady c' := by
  cases ha with
  | atOnce h => exact ⟨c, hs, h⟩
  | @inTime t h hr hl =>
    refine ⟨c.advance t, by simp [hs], ?_⟩
    have hf := List.find?_some hr
    exact hf

theorem reads_awaitReady (isReady : Connection → Bool)
    (take : Connection → Except IoError α × Connection) (limit : Option Nat) {s : Session}
    {c : Connection} (hs : s.stream = some c) :
    Reads isReady take limit s c
      (((awaitReady isReady >>= fun _ => withStream take).giveUpAt limit).outcome s) := by
  have ha := awaits_awaitReady isReady limit hs
  rw [outcome_giveUpAt_bind]
  rcases ho : ((awaitReady isReady).giveUpAt limit).outcome s with ⟨_ | _ | _, s'⟩
  · rw [ho] at ha
    exact .never ha
  · rw [ho] at ha
    exact .late ha
  · rw [ho] at ha
    obtain ⟨c', hs', hr⟩ := ha.ready hs
    dsimp only
    rw [outcome_giveUpAt_withStream hs' take]
    exact .found ha hs' hr

/-- What was read was taken from a connection that was ready. -/
theorem Reads.exists_taken {isReady : Connection → Bool}
    {take : Connection → Except IoError α × Connection} {limit : Option Nat} {s s' : Session}
    {c : Connection} {result : Except IoError α}
    (hr : Reads isReady take limit s c (some (some result), s')) :
    ∃ s₁ c₁ c', Awaits isReady limit s c (some (some ()), s₁) ∧ s₁.stream = some c₁ ∧
      isReady c₁ ∧ take c₁ = (result, c') ∧ s' = { s₁ with stream := some c' } := by
  generalize ho : (some (some result), s') = o at hr
  cases hr with
  | found ha hs hready =>
    cases ho
    exact ⟨_, _, _, ha, hs, hready, rfl, rfl⟩
  | late => cases ho
  | never => cases ho

theorem Reads.isOpen {isReady : Connection → Bool}
    {take : Connection → Except IoError α × Connection} {limit : Option Nat} {s s' : Session}
    {c : Connection} {result : Except IoError α}
    (hr : Reads isReady take limit s c (some (some result), s')) : s'.isOpen := by
  cases hr with
  | found => rfl

/-! ## Writing -/

/-- How a write ends that is tried once. -/
abbrev WritesOnce (limit : Option Nat) (bytes : List UInt8) (s : Session) (c : Connection) :
    Option (Option (Except IoError Nat)) × Session → Prop :=
  Reads Connection.isWritable (Connection.write bytes) limit s c

/-- How a write of all bytes ends. -/
inductive Writes (limit : Option Nat) : List UInt8 → Session → Connection →
    Option (Option (Except IoError Unit)) × Session → Prop where
  | done {s : Session} {c : Connection} (hs : s.stream = some c) :
      Writes limit [] s c (some (some (.ok ())), s)
  | more {bytes : List UInt8} {count : Nat} {s s' : Session} {c c' : Connection}
      {end' : Option (Option (Except IoError Unit)) × Session} (hne : bytes ≠ [])
      (hr : WritesOnce limit bytes s c (some (some (.ok count)), s')) (hs : s'.stream = some c')
      (rest : Writes limit (bytes.drop count) s' c' end') : Writes limit bytes s c end'
  | failed {bytes : List UInt8} {why : IoError} {s s' : Session} {c : Connection}
      (hne : bytes ≠ []) (hr : WritesOnce limit bytes s c (some (some (.error why)), s')) :
      Writes limit bytes s c (some (some (.error why)), s')
  | late {bytes : List UInt8} {s s' : Session} {c : Connection} (hne : bytes ≠ [])
      (hr : WritesOnce limit bytes s c (some none, s')) : Writes limit bytes s c (some none, s')
  | never {bytes : List UInt8} {s s' : Session} {c : Connection} (hne : bytes ≠ [])
      (hr : WritesOnce limit bytes s c (none, s')) : Writes limit bytes s c (none, s')

theorem writeRest_eq (written : Nat) (bytes : List UInt8) :
    writeRest written bytes = writeAll (bytes.drop written) := by
  induction bytes generalizing written with
  | nil => cases written <;> rfl
  | cons b bytes ih =>
    cases written with
    | zero => rfl
    | succ written => exact ih written

/-- To write all bytes is to write once and then the bytes that are left. -/
theorem writeAll_eq {bytes : List UInt8} (hne : bytes ≠ []) :
    writeAll bytes = write bytes >>= fun result =>
      match result with
      | .error e => pure (.error e)
      | .ok 0 => pure (.error .wroteNothing)
      | .ok (count + 1) => writeAll (bytes.drop (count + 1)) := by
  cases bytes with
  | nil => exact absurd rfl hne
  | cons b bytes =>
    rw [writeAll, writeRest]
    congr 1
    funext result
    match result with
    | .error e => rfl
    | .ok 0 => rfl
    | .ok (count + 1) => exact writeRest_eq count bytes

/-- Without bytes there is nothing to wait for. -/
theorem outcome_giveUpAt_writeAll_nil {s : Session} {c : Connection} (hs : s.stream = some c)
    (limit : Option Nat) :
    ((writeAll []).giveUpAt limit).outcome s = (some (some (.ok ())), s) := by
  have ho := outcome_giveUpAt_withStream hs (fun c => ((.ok () : Except IoError Unit), c)) limit
  rw [← hs] at ho
  exact ho

theorem writes_writeAll (limit : Option Nat) {s : Session} {c : Connection}
    (hs : s.stream = some c) (bytes : List UInt8) :
    Writes limit bytes s c (((writeAll bytes).giveUpAt limit).outcome s) := by
  -- Each time some bytes are written, so there are fewer left.
  induction hn : bytes.length using Nat.strongRecOn generalizing bytes s c with
  | ind n ih =>
    by_cases hne : bytes = []
    · subst hne
      rw [outcome_giveUpAt_writeAll_nil hs]
      exact .done hs
    · have hr : WritesOnce limit bytes s c (((write bytes).giveUpAt limit).outcome s) :=
        reads_awaitReady _ _ limit hs
      rw [writeAll_eq hne, outcome_giveUpAt_bind]
      generalize ((write bytes).giveUpAt limit).outcome s = o at hr ⊢
      rcases o with ⟨_ | _ | why | count, s'⟩
      · exact .never hne hr
      · exact .late hne hr
      · exact .failed hne hr
      · obtain ⟨s₁, c₁, c', -, -, hready, htake, rfl⟩ := hr.exists_taken
        have hpos := Connection.write_of_isWritable hready hne htake
        obtain ⟨rest, rfl⟩ : ∃ rest, count = rest + 1 := ⟨count - 1, by omega⟩
        refine .more hne hr rfl (ih _ ?_ rfl _ rfl)
        have hlen : bytes.length ≠ 0 := fun h => hne (List.length_eq_zero_iff.1 h)
        rw [List.length_drop]
        omega

/-- What holds of every single write holds of all of them together. -/
theorem Writes.related {R : Session → Session → Prop} (hrefl : ∀ s, R s s)
    (htrans : ∀ s s' s'', R s s' → R s' s'' → R s s'')
    (hstep : ∀ bytes s c o, WritesOnce limit bytes s c o → R s o.2) {bytes : List UInt8}
    {s : Session} {c : Connection} {o : Option (Option (Except IoError Unit)) × Session}
    (hw : Writes limit bytes s c o) : R s o.2 := by
  induction hw with
  | done => exact hrefl _
  | more _ hr _ _ ih => exact htrans _ _ _ (hstep _ _ _ _ hr) ih
  | failed _ hr => exact hstep _ _ _ _ hr
  | late _ hr => exact hstep _ _ _ _ hr
  | never _ hr => exact hstep _ _ _ _ hr

/-- A write that succeeds leaves a connection. -/
theorem Writes.exists_stream {bytes : List UInt8} {s s' : Session} {c : Connection}
    (hw : Writes limit bytes s c (some (some (.ok ())), s')) : ∃ c', s'.stream = some c' := by
  generalize ho : (some (some (Except.ok ())), s') = o at hw
  induction hw with
  | done hs =>
    cases ho
    exact ⟨_, hs⟩
  | more _ _ _ _ ih => exact ih ho
  | _ => cases ho

/-- A network that has room for all bytes takes them at once. -/
theorem outcome_writeAll_of_hasRoomFor {s : Session} {c : Connection} (hs : s.stream = some c)
    {bytes : List UInt8} (hne : bytes ≠ []) (hroom : c.HasRoomFor bytes.length)
    (limit : Option Nat) :
    ((writeAll bytes).giveUpAt limit).outcome s =
      (some (some ((c.write bytes).1.map fun _ => ())),
        { s with stream := some (c.write bytes).2 }) := by
  obtain ⟨count, hcount⟩ : ∃ count, bytes.length = count + 1 :=
    ⟨bytes.length - 1, by have := List.length_pos_iff.2 hne; omega⟩
  have hready : c.isWritable := Connection.isWritable_of_hasRoomFor (hcount ▸ hroom)
  have hwait : (awaitReady Connection.isWritable).course s = .done () s := by
    simp [awaitReady, hs, hready, Course.bind]
  rw [writeAll_eq hne, outcome_giveUpAt_bind, write, outcome_giveUpAt_bind,
    outcome_giveUpAt_of_done limit hwait]
  dsimp only
  rw [outcome_giveUpAt_withStream hs]
  rcases hw : c.write bytes with ⟨why | written, c'⟩
  · rfl
  · obtain ⟨-, -, hfits, rfl⟩ := Connection.eq_of_write hw
    rw [Connection.fitting_of_hasRoomFor hroom] at hfits
    have hall : bytes.length ≤ written := by
      have hlen := congrArg List.length hfits
      rw [List.length_take] at hlen
      omega
    obtain ⟨rest, rfl⟩ : ∃ rest, written = rest + 1 := ⟨written - 1, by omega⟩
    dsimp only
    rw [List.drop_of_length_le hall, outcome_giveUpAt_writeAll_nil rfl]
    rfl

/-! ## Connecting -/

end Op

/-- The instant at which an attempt to connect to an endpoint gets there. -/
def Session.arrival (s : Session) (e : Endpoint) : Nat := s.clock + s.net.latency e

/-- What an attempt meets does not depend on the connections that were closed. -/
theorem Network.contact_withClosed (net : Network) (closed : List Connection) (now : Nat)
    (e : Endpoint) :
    ({ net with closed } : Network).contact now e = match net.contact now e with
      | .accepted c net' => .accepted c { net' with closed }
      | contact => contact := by
  have hserver : ({ net with closed } : Network).serverAt? e = net.serverAt? e := rfl
  unfold contact
  rw [hserver]
  cases hrouted : net.routed with
  | false => rfl
  | true =>
    cases net.serverAt? e with
    | none => rfl
    | some server =>
      cases hb : server.behaviour <;> simp [hb, countAccepted, hrouted]

/-- Without a route nothing takes time. -/
theorem Network.latency_of_noRoute {net : Network} {now : Nat} {e : Endpoint}
    (h : net.contact now e = .noRoute) : net.latency e = 0 := by
  unfold contact at h
  unfold latency
  split at h
  · split at h
    · cases h
    · split at h <;> cases h
  · rename_i hrouted
    exact if_neg hrouted

namespace Session

variable (s : Session)

theorem net_later (millis : Nat) :
    (s.later millis).net = { s.net with closed := (s.later millis).net.closed } := by
  cases millis <;> rfl

/-- The present of a session that has waited is as good as the same instant before. -/
theorem moveTo_later {millis now : Nat} (h : s.clock + millis ≤ now) :
    (s.later millis).moveTo now = s.moveTo now := by
  cases millis with
  | zero => rfl
  | succ millis => exact s.moveTo_moveTo h

/-- What an attempt meets that has got there. -/
theorem contact_later (millis now : Nat) (e : Endpoint) :
    (s.later millis).net.contact now e = match s.net.contact now e with
      | .accepted c net => .accepted c { net with closed := (s.later millis).net.closed }
      | contact => contact := by
  rw [net_later]
  exact Network.contact_withClosed ..

/-- A connection that was accepted in time is as good as one that was accepted at once. -/
theorem moveTo_accepted {s : Session} {e : Endpoint} {c : Connection} {net : Network}
    (hc : s.net.contact (s.arrival e) e = .accepted c net) :
    ({ s.later (s.net.latency e) with
        net := { net with closed := (s.later (s.net.latency e)).net.closed }
        stream := some c } : Session).moveTo (s.arrival e) =
      ({ s with net, stream := some c } : Session).moveTo (s.arrival e) := by
  obtain ⟨server, scripts, -, -, -, rfl⟩ := Network.eq_of_contact hc
  rw [arrival]
  cases s.net.latency e with
  | zero => rfl
  | succ millis =>
    have hadvance := (s.net.countAccepted server scripts).advance_advance
      (Nat.le_refl (s.clock + (millis + 1)))
    exact congrArg (fun net => ({ s with
      clock := s.clock + (millis + 1), net
      stream := some (c.advance (s.clock + (millis + 1))) } : Session)) hadvance

end Session

namespace Op

/-! ### Attempts -/

/-- How an attempt to connect to one endpoint ends. -/
inductive Attempts (limit : Option Nat) (s : Session) (e : Endpoint) :
    Option (Option (Except IoError Unit)) × Session → Prop where
  | unrouted (hc : s.net.contact (s.arrival e) e = .noRoute) :
      Attempts limit s e (some (some (.error .unreachable)), s)
  | failed {why : IoError} (hc : s.net.contact (s.arrival e) e = .failed why)
      (hl : ∀ l ∈ limit, s.arrival e < l) :
      Attempts limit s e (some (some (.error why)), s.moveTo (s.arrival e))
  | accepted {c : Connection} {net : Network}
      (hc : s.net.contact (s.arrival e) e = .accepted c net) (hl : ∀ l ∈ limit, s.arrival e < l) :
      Attempts limit s e
        (some (some (.ok ())), ({ s with net, stream := some c } : Session).moveTo (s.arrival e))
  | late {l : Nat} (hl : limit = some l) (hn : s.clock ≤ l)
      (hc : l < s.arrival e ∨ s.net.contact (s.arrival e) e = .silent ∨
        l = s.arrival e ∧ ∃ why, s.net.contact (s.arrival e) e = .failed why) :
      Attempts limit s e (some none, s.later (l - s.clock))
  | lateAccepted {c : Connection} {net : Network}
      (hc : (s.later (s.net.latency e)).net.contact (s.arrival e) e = .accepted c net)
      (hl : limit = some (s.arrival e)) :
      Attempts limit s e (some none, { s.later (s.net.latency e) with net := net.close c })
  | never (hc : s.net.contact (s.arrival e) e = .silent) (hl : limit = none) :
      Attempts limit s e (none, s.later (s.net.latency e))

variable {α : Type} {limit : Option Nat} {s : Session} {e : Endpoint}

/-- A wait for an answer that is under way at once is over at once, unless the limit has
passed. -/
theorem outcome_within_now (limit : Option Nat) (a : α) (s s' : Session) :
    ((Course.wait s s.clock (.done a s')).within limit).outcome =
      if ∀ l ∈ limit, s.clock < l then (some (some a), s') else (some none, s) := by
  cases limit with
  | none => rfl
  | some l =>
    rcases Nat.lt_or_ge s.clock l with h | h
    · rw [Course.within_wait_of_le h (Nat.le_of_lt h), if_pos (by rintro l' ⟨⟩; exact h)]
      rfl
    · rw [Course.within_wait_of_over h, if_neg fun hn => Nat.not_lt_of_ge h (hn l rfl)]
      rfl

/-- A wait for an answer that never comes lasts until the limit. -/
theorem outcome_within_stuck_later {millis l : Nat} (h : s.clock + millis ≤ l) :
    ((Course.stuck (s.later millis) : Course α).within (some l)).outcome =
      (some none, s.later (l - s.clock)) := by
  have hclock : (s.later millis).clock = s.clock + millis := s.later_clock _
  rcases Nat.eq_or_lt_of_le h with rfl | hlt
  · rw [Course.within_stuck_of_over (Nat.le_of_eq hclock.symm), Nat.add_sub_cancel_left]
    rfl
  · obtain ⟨more, hmore⟩ : ∃ more, l - s.clock = more + 1 := ⟨l - s.clock - 1, by omega⟩
    have hend : (s.later millis).moveTo l = s.later (l - s.clock) := by
      rw [s.moveTo_later h, hmore, Session.later, ← hmore,
        Nat.add_sub_cancel' (Nat.le_trans (Nat.le_add_right ..) h)]
    rw [Course.within_stuck_of_lt (hclock ▸ hlt), hend]
    rfl

theorem outcome_giveUpAt_connectTo_of_late {l : Nat} (hn : s.clock ≤ l) (h : l < s.arrival e) :
    ((connectTo e).giveUpAt (some l)).outcome s = (some none, s.later (l - s.clock)) := by
  have hbefore : ∀ l' ∈ some l, s.clock ≤ l' := fun l' hl' => by cases hl'; exact hn
  have ha := answers_ready (some (s.net.latency e)) () hbefore
  have ho : ((ready (some (s.net.latency e)) ()).giveUpAt (some l)).outcome s =
      (some none, s.later (l - s.clock)) := by
    generalize ((ready (some (s.net.latency e)) ()).giveUpAt (some l)).outcome s = o at ha ⊢
    cases ha with
    | inTime hin => exact absurd (hin l rfl) (Nat.not_le_of_gt h)
    | late => rfl
  rw [connectTo, outcome_giveUpAt_bind, outcome_giveUpAt_get]
  dsimp only
  rw [outcome_giveUpAt_bind, ho]

theorem outcome_giveUpAt_connectTo (hl : ∀ l ∈ limit, s.arrival e ≤ l) :
    ((connectTo e).giveUpAt limit).outcome s =
      ((meet e).giveUpAt limit).outcome (s.later (s.net.latency e)) := by
  have hbefore : ∀ l ∈ limit, s.clock ≤ l :=
    fun l hm => Nat.le_trans (Nat.le_add_right ..) (hl l hm)
  have ha := answers_ready (some (s.net.latency e)) () hbefore
  have ho : ((ready (some (s.net.latency e)) ()).giveUpAt limit).outcome s =
      (some (some ()), s.later (s.net.latency e)) := by
    generalize ((ready (some (s.net.latency e)) ()).giveUpAt limit).outcome s = o at ha ⊢
    cases ha with
    | inTime => rfl
    | @late _ l h => exact absurd (h _ rfl) (Nat.not_lt_of_ge (hl l rfl))
  rw [connectTo, outcome_giveUpAt_bind, outcome_giveUpAt_get]
  dsimp only
  rw [outcome_giveUpAt_bind, ho]

/-- An attempt that has got there in time meets what is there. -/
theorem attempts_of_arrived (hin : ∀ l ∈ limit, s.arrival e ≤ l) :
    Attempts limit s e (((meet e).giveUpAt limit).outcome (s.later (s.net.latency e))) := by
  have hclock : (s.later (s.net.latency e)).clock = s.arrival e := s.later_clock _
  have hlater : s.later (s.net.latency e) = s.later (s.arrival e - s.clock) := by
    rw [Session.arrival, Nat.add_sub_cancel_left]
  have hcontact := s.contact_later (s.net.latency e) (s.arrival e) e
  have hover (hn : ¬∀ l ∈ limit, (s.later (s.net.latency e)).clock < l) :
      limit = some (s.arrival e) := by
    simp only [hclock, Classical.not_forall, Nat.not_lt] at hn
    obtain ⟨l, hm, hle⟩ := hn
    rw [Option.mem_def] at hm
    rw [hm, Nat.le_antisymm hle (hin l hm)]
  cases hc : s.net.contact (s.arrival e) e with
  | noRoute =>
    rw [hc] at hcontact
    have hnow : s.later (s.net.latency e) = s := by
      rw [Network.latency_of_noRoute hc]
      rfl
    have ho : ((meet e).giveUpAt limit).outcome (s.later (s.net.latency e)) =
        (some (some (.error .unreachable)), s.later (s.net.latency e)) :=
      outcome_giveUpAt_of_done limit (by simp only [meet, hclock, hcontact])
    rw [ho, hnow]
    exact .unrouted hc
  | failed why =>
    rw [hc] at hcontact
    have hmeet : (meet e).course (s.later (s.net.latency e)) =
        .wait (s.later (s.net.latency e)) (s.later (s.net.latency e)).clock
          (.done (.error why) (s.moveTo (s.arrival e))) := by
      have hmoved := s.moveTo_later (Nat.le_refl (s.arrival e))
      simp only [meet, hclock, hcontact]
      rw [← hmoved]
    rw [outcome, course_giveUpAt, hmeet, outcome_within_now]
    by_cases hn : ∀ l ∈ limit, (s.later (s.net.latency e)).clock < l
    · rw [if_pos hn]
      exact .failed hc fun l hm => hclock ▸ hn l hm
    · rw [if_neg hn, hlater]
      exact .late (hover hn) (Nat.le_add_right ..) (.inr (.inr ⟨rfl, why, hc⟩))
  | silent =>
    rw [hc] at hcontact
    have hmeet : (meet e).course (s.later (s.net.latency e)) =
        .stuck (s.later (s.net.latency e)) := by
      simp only [meet, hclock, hcontact]
    rw [outcome, course_giveUpAt, hmeet]
    cases limit with
    | none => exact .never hc rfl
    | some l =>
      have hle : s.clock + s.net.latency e ≤ l := hin l rfl
      rw [outcome_within_stuck_later hle]
      exact .late rfl (Nat.le_trans (Nat.le_add_right ..) hle) (.inr (.inl hc))
  | accepted c net =>
    rw [hc] at hcontact
    have hmeet : (meet e).course (s.later (s.net.latency e)) =
        .wait { s.later (s.net.latency e) with
          net := ({ net with closed := (s.later (s.net.latency e)).net.closed } : Network).close c }
          (s.later (s.net.latency e)).clock
          (.done (.ok ()) (({ s with net, stream := some c } : Session).moveTo (s.arrival e))) := by
      rw [← Session.moveTo_accepted hc, meet]
      simp only [hclock, hcontact]
    rw [outcome, course_giveUpAt, hmeet]
    have ho := outcome_within_now limit (Except.ok () : Except IoError Unit)
      { s.later (s.net.latency e) with
        net := ({ net with closed := (s.later (s.net.latency e)).net.closed } : Network).close c }
      (({ s with net, stream := some c } : Session).moveTo (s.arrival e))
    rw [ho]
    by_cases hn : ∀ l ∈ limit, (s.later (s.net.latency e)).clock < l
    · rw [if_pos hn]
      exact .accepted hc fun l hm => hclock ▸ hn l hm
    · rw [if_neg hn]
      exact .lateAccepted hcontact (hover hn)

theorem attempts_connectTo (hl : ∀ l ∈ limit, s.clock ≤ l) :
    Attempts limit s e (((connectTo e).giveUpAt limit).outcome s) := by
  by_cases hin : ∀ l ∈ limit, s.arrival e ≤ l
  · rw [outcome_giveUpAt_connectTo hin]
    exact attempts_of_arrived hin
  · simp only [Classical.not_forall, Nat.not_le] at hin
    obtain ⟨l, hm, hlt⟩ := hin
    rw [Option.mem_def] at hm
    subst hm
    rw [outcome_giveUpAt_connectTo_of_late (hl l rfl) hlt]
    exact .late rfl (hl l rfl) (.inl hlt)

namespace Attempts

variable {s' : Session}

/-- An attempt that is not given up ends when it gets there, before the limit. -/
theorem clock_eq {result : Except IoError Unit}
    (ha : Attempts limit s e (some (some result), s')) :
    s'.clock = s.arrival e ∧ (s' = s ∨ ∀ l ∈ limit, s'.clock < l) := by
  generalize ho : (some (some result), s') = o at ha
  cases ha with
  | unrouted hc =>
    cases ho
    exact ⟨by rw [Session.arrival, Network.latency_of_noRoute hc, Nat.add_zero], .inl rfl⟩
  | failed _ hl =>
    cases ho
    exact ⟨rfl, .inr hl⟩
  | accepted _ hl =>
    cases ho
    exact ⟨rfl, .inr hl⟩
  | _ => cases ho

theorem lt_limit {result : Except IoError Unit} (hl : ∀ l ∈ limit, s.clock < l)
    (ha : Attempts limit s e (some (some result), s')) : ∀ l ∈ limit, s'.clock < l := by
  rcases ha.clock_eq.2 with rfl | hlt
  · exact hl
  · exact hlt

theorem le_limit {result : Except IoError Unit} (hl : ∀ l ∈ limit, s.clock ≤ l)
    (ha : Attempts limit s e (some (some result), s')) : ∀ l ∈ limit, s'.clock ≤ l := by
  rcases ha.clock_eq.2 with rfl | hlt
  · exact hl
  · exact fun l hm => Nat.le_of_lt (hlt l hm)

/-- An attempt is given up at the limit. -/
theorem clock_eq_limit (ha : Attempts limit s e (some none, s')) : limit = some s'.clock := by
  generalize ho : (some (none : Option (Except IoError Unit)), s') = o at ha
  cases ha with
  | late hl hn =>
    cases ho
    rw [hl, Session.later_clock, Nat.add_sub_cancel' hn]
  | lateAccepted _ hl =>
    cases ho
    rw [hl]
    exact congrArg some (s.later_clock _).symm
  | _ => cases ho

theorem clock_ge {o : Option (Option (Except IoError Unit)) × Session}
    (ha : Attempts limit s e o) : s.clock ≤ o.2.clock := by
  have harrival : s.clock ≤ s.arrival e := Nat.le_add_right ..
  cases ha with
  | unrouted => exact Nat.le_refl _
  | failed => exact harrival
  | accepted => exact harrival
  | late =>
    rw [Session.later_clock]
    exact Nat.le_add_right ..
  | lateAccepted => exact Nat.le_trans harrival (Nat.le_of_eq (s.later_clock _).symm)
  | never =>
    rw [Session.later_clock]
    exact Nat.le_add_right ..

/-- An attempt by itself says nothing and leaves the timer alone. -/
theorem quiet {o : Option (Option (Except IoError Unit)) × Session} (ha : Attempts limit s e o) :
    o.2.log = s.log ∧ o.2.timer = s.timer := by
  cases ha with
  | unrouted => exact ⟨rfl, rfl⟩
  | failed => exact ⟨rfl, rfl⟩
  | accepted => exact ⟨rfl, rfl⟩
  | late => exact ⟨s.later_log _, s.later_timer _⟩
  | lateAccepted => exact ⟨s.later_log _, s.later_timer _⟩
  | never => exact ⟨s.later_log _, s.later_timer _⟩

/-- Only an attempt without a limit can go on for ever. -/
theorem limit_eq_none (ha : Attempts limit s e (none, s')) : limit = none := by
  generalize ho : ((none : Option (Option (Except IoError Unit))), s') = o at ha
  cases ha with
  | never _ hl => exact hl
  | _ => cases ho

/-- Nothing but time has passed in an attempt that fails. -/
theorem passed {why : IoError} (ha : Attempts limit s e (some (some (.error why)), s')) :
    s' = s ∨ s' = s.moveTo s'.clock := by
  generalize ho : (some (some (Except.error why)), s') = o at ha
  cases ha with
  | unrouted =>
    cases ho
    exact .inl rfl
  | failed =>
    cases ho
    exact .inr rfl
  | _ => cases ho

/-- An attempt that succeeds leaves the connection that the server has accepted, and its number
counted. -/
theorem exists_accepted (ha : Attempts limit s e (some (some (.ok ())), s')) :
    ∃ server scripts, s.net.serverAt? e = some server ∧ server.behaviour = .accepts scripts ∧
      s'.stream = some ((server.accept e scripts s'.clock).advance s'.clock) ∧
      s'.net = (s.net.countAccepted server scripts).advance s'.clock := by
  generalize ho : (some (some (Except.ok ())), s') = o at ha
  cases ha with
  | accepted hc =>
    cases ho
    obtain ⟨server, scripts, hserver, hscripts, rfl, rfl⟩ := Network.eq_of_contact hc
    exact ⟨server, scripts, hserver, hscripts, rfl, rfl⟩
  | _ => cases ho

end Attempts

/-! ### Walks -/

/-- How a walk over candidates ends that begins with the error `last`. -/
inductive Connects (limit : Option Nat) : IoError → List Endpoint → Session →
    Option (Option (Except IoError Endpoint)) × Session → Prop where
  | exhausted {last : IoError} {s : Session} :
      Connects limit last [] s (some (some (.error last)), s)
  | refused {last why : IoError} {e : Endpoint} {es : List Endpoint} {s s' : Session}
      {end' : Option (Option (Except IoError Endpoint)) × Session}
      (ha : Attempts limit s e (some (some (.error why)), s'))
      (rest : Connects limit why es (s'.record (.connectFailed e why)) end') :
      Connects limit last (e :: es) s end'
  | accepted {last : IoError} {e : Endpoint} {es : List Endpoint} {s s' : Session}
      (ha : Attempts limit s e (some (some (.ok ())), s')) :
      Connects limit last (e :: es) s (some (some (.ok e)), s')
  | late {last : IoError} {e : Endpoint} {es : List Endpoint} {s s' : Session}
      (ha : Attempts limit s e (some none, s')) : Connects limit last (e :: es) s (some none, s')
  | never {last : IoError} {e : Endpoint} {es : List Endpoint} {s s' : Session}
      (ha : Attempts limit s e (none, s')) : Connects limit last (e :: es) s (none, s')

theorem connects_connectFirst (last : IoError) (endpoints : List Endpoint)
    (hl : ∀ l ∈ limit, s.clock ≤ l) :
    Connects limit last endpoints s (((connectFirst last endpoints).giveUpAt limit).outcome s) := by
  induction endpoints generalizing last s with
  | nil => exact .exhausted
  | cons e es ih =>
    have ha := attempts_connectTo (e := e) hl
    rw [connectFirst, outcome_giveUpAt_bind]
    generalize ((connectTo e).giveUpAt limit).outcome s = o at ha ⊢
    rcases o with ⟨_ | _ | why | u, s'⟩
    · exact .never ha
    · exact .late ha
    · dsimp only
      rw [outcome_giveUpAt_bind]
      have hl' := ha.le_limit hl
      exact .refused ha (ih _ hl')
    · exact .accepted ha

namespace Connects

variable {last : IoError} {endpoints : List Endpoint} {s' : Session}

theorem clock_ge {o : Option (Option (Except IoError Endpoint)) × Session}
    (hc : Connects limit last endpoints s o) : s.clock ≤ o.2.clock := by
  induction hc with
  | exhausted => exact Nat.le_refl _
  | refused ha _ ih =>
    have hge := ha.clock_ge
    exact Nat.le_trans hge ih
  | accepted ha => exact ha.clock_ge
  | late ha => exact ha.clock_ge
  | never ha => exact ha.clock_ge

theorem mem (hc : Connects limit last endpoints s (some (some (.ok e)), s')) : e ∈ endpoints := by
  generalize ho : (some (some (Except.ok e)), s') = end' at hc
  induction hc with
  | refused _ _ ih => exact .tail _ (ih ho)
  | accepted =>
    cases ho
    exact .head _
  | _ => cases ho

/-- A walk that ends well leaves the connection that a server has accepted, and its number
counted. -/
theorem exists_accepted (hc : Connects limit last endpoints s (some (some (.ok e)), s')) :
    ∃ server scripts, s.net.serverAt? e = some server ∧ server.behaviour = .accepts scripts ∧
      s'.stream = some ((server.accept e scripts s'.clock).advance s'.clock) ∧
      s'.net = (s.net.countAccepted server scripts).advance s'.clock := by
  generalize ho : (some (some (Except.ok e)), s') = end' at hc
  induction hc with
  | @refused _ why _ _ s s₁ _ ha rest ih =>
    subst ho
    obtain ⟨server, scripts, hserver, hscripts, hstream, hnet⟩ := ih rfl
    have hge : s₁.clock ≤ s'.clock := rest.clock_ge
    rcases ha.passed with rfl | hmoved
    · exact ⟨server, scripts, hserver, hscripts, hstream, hnet⟩
    · rw [hmoved] at hserver hnet
      refine ⟨server, scripts, hserver, hscripts, hstream, hnet.trans ?_⟩
      exact Network.advance_advance hge (s.net.countAccepted server scripts)
  | accepted ha =>
    cases ho
    exact ha.exists_accepted
  | _ => cases ho

/-- A walk on which nobody accepts leaves no connection. -/
theorem stream_eq_none {why : IoError}
    (hc : Connects limit last endpoints s (some (some (.error why)), s')) (hs : s.stream = none) :
    s'.stream = none := by
  generalize ho : (some (some (Except.error why)), s') = end' at hc
  induction hc with
  | exhausted =>
    cases ho
    exact hs
  | refused ha _ ih =>
    refine ih ?_ ho
    rcases ha.passed with rfl | hmoved
    · exact hs
    · rw [hmoved]
      simp [hs]
  | _ => cases ho

end Connects

/-- A connect without a timeout closes the socket and then walks over the endpoints. -/
theorem connects_of_run? {endpoints : List Endpoint} {s s' : Session}
    {result : Except IoError Endpoint} (h : (connect endpoints).run? s = some (result, s')) :
    Connects none .noEndpoints endpoints s.closed (some (some result), s') := by
  have hnone : ∀ l ∈ (none : Option Nat), s.closed.clock ≤ l := by simp
  have hc := connects_connectFirst .noEndpoints endpoints hnone
  have ho := (run?_eq_some_iff ..).1 h
  rw [connect, outcome_bind, outcome_close] at ho
  dsimp only at ho
  rwa [outcome_giveUpAt_none, ho] at hc

end Op

end ProxyDial
