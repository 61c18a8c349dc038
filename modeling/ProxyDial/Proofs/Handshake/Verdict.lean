import ProxyDial.Proofs.Handshake.Paths
import ProxyDial.Proofs.Session.Lockstep
import ProxyDial.Proofs.Session.Reading

/-!
# The verdict of a handshake

What a handshake comes to whose target is found can be told from the session at the
instant at which the answer comes.  If the request cannot be written before the timeout
is over that is the verdict.  Otherwise it depends on what lies with the client when the
same timeout is over: eight bytes, the end of the stream before them, or neither
(`HandshakeRequest.replyVerdict?_eq`).

A network that has room for the request takes it at once
(`HandshakeRequest.verdict?_of_hasRoomFor`).
-/

namespace ProxyDial

/-- What a reply with this first byte and this code says. -/
def Reply.ruling (first code : UInt8) : Except DialError Unit :=
  if first ≠ 0 then .error (.badVersion first)
  else if code = 0x5A then .ok ()
  else if code = 0x5B then .error (.rejected .requestFailed)
  else if code = 0x5C then .error (.rejected .noIdentd)
  else if code = 0x5D then .error (.rejected .badUserId)
  else .error (.rejected (.unknown code))

theorem Reply.verdict_eq_ruling (first code a b c d e f : UInt8) :
    Reply.verdict [first, code, a, b, c, d, e, f] = ruling first code := by
  by_cases hv : first = 0
  · subst hv
    have hd : decode [0, code, a, b, c, d, e, f] =
        .ok ⟨.ofCode code, Request.portOf a b, ⟨c, d, e, f⟩⟩ := rfl
    rw [verdict, hd]
    dsimp only [outcome]
    by_cases h₁ : code = 0x5A
    · subst h₁; rfl
    · by_cases h₂ : code = 0x5B
      · subst h₂; rfl
      · by_cases h₃ : code = 0x5C
        · subst h₃; rfl
        · by_cases h₄ : code = 0x5D
          · subst h₄; rfl
          · simp [ruling, Status.ofCode, Status.grantedCode, Status.failedCode, Status.noIdentdCode,
              Status.badUserIdCode, h₁, h₂, h₃, h₄]
  · have hd : decode [first, code, a, b, c, d, e, f] = .error (.badVersion first) := if_pos hv
    have hs : ruling first code = .error (.badVersion first) := if_pos hv
    rw [verdict, hd, hs]

/-- A connection that took bytes was not reset. -/
theorem Op.Writes.not_broken {limit : Option Nat} {bytes : List UInt8} {s s' : Session}
    {c : Connection} (hw : Writes limit bytes s c (some (some (.ok ())), s'))
    (h : bytes = [] → c.ending ≠ .broken) : ∃ c', s'.stream = some c' ∧ c'.ending ≠ .broken := by
  generalize ho : (some (some (Except.ok ())), s') = o at hw
  induction hw with
  | done hs =>
    cases ho
    exact ⟨_, hs, h rfl⟩
  | more _ hr hs _ ih =>
    refine ih (fun _ => ?_) ho
    obtain ⟨s₁, c₁, c', -, -, -, hwrite, rfl⟩ := hr.exists_taken
    obtain rfl := Option.some.inj hs
    obtain ⟨hb, -, -, rfl⟩ := Connection.eq_of_write hwrite
    rcases hb with hb | hb <;> simp [hb]
  | _ => cases ho

namespace HandshakeRequest

variable (q : HandshakeRequest) (r : Resolver)

/-- The instant at which a handshake is given up that finds its target at the instant
`now`. -/
def dueAt? (now : Nat) : Option Nat := (allowance? now q.timeoutSecs).map (now + ·)

/-- What a handshake comes to that has written its request in time.  The client has seen
this of the connection when the timeout is over that began at the instant `now`. -/
def replyVerdict? (now : Nat) (seen : Connection) : Option (Except DialError Unit) :=
  match seen.toClient.take 8 with
  | [first, code, _, _, _, _, _, _] => some (Reply.ruling first code)
  | _ =>
    match seen.ending with
    | .waiting => (allowance? now q.timeoutSecs).map fun _ =>
      .error (.timedOut .handshake (.ofSecs q.timeoutSecs))
    | .broken => some (.error (.transport .reset))
    | .ended => some (.error (.transport .earlyEnd))
    | .gone => some (.error (.transport .earlyEnd))

/-- What comes of writing the request until the timeout is over. -/
def written (ip : IPv4) (s : Session) : Option (Option (Except IoError Unit)) × Session :=
  ((Op.writeAll (q.requestFor ip).encode).giveUpAt (q.dueAt? s.clock)).outcome (s.armed q.timeout)

/-- What a handshake comes to that has found its target on this session.  It comes to
nothing if it waits for ever. -/
def verdict? (ip : IPv4) (s : Session) : Option (Except DialError Unit) :=
  match q.written ip s with
  | (none, _) => none
  | (some none, _) => some (.error (.timedOut .handshake (.ofSecs q.timeoutSecs)))
  | (some (some (.error why)), _) => some (.error (.transport why))
  | (some (some (.ok ())), s') =>
    s'.stream.bind fun c => q.replyVerdict? s.clock (c.seenBy (q.dueAt? s.clock) s'.clock)

theorem limit_eq (now : Nat) : q.limit now = q.dueAt? now := by
  rw [limit, timeout, Deadline.due_after_ofSecs, dueAt?]

/-- With a timeout of a second or more the due instant is still to come. -/
theorem lt_of_dueAt? (h : 1 ≤ q.timeoutSecs) (now : Nat) : ∀ due ∈ q.dueAt? now, now < due := by
  intro due hd
  obtain ⟨millis, hm, rfl⟩ := Option.map_eq_some_iff.1 hd
  exact lt_of_allowance? h hm

/-- A network that has room for the request takes it at once. -/
theorem verdict?_of_hasRoomFor (h : 1 ≤ q.timeoutSecs) {ip : IPv4} {s : Session} {c : Connection}
    (hs : s.stream = some c) (hroom : c.HasRoomFor (q.requestFor ip).encode.length) :
    q.verdict? ip s = match c.write (q.requestFor ip).encode with
      | (.error why, _) => some (.error (.transport why))
      | (.ok _, c') =>
        q.replyVerdict? s.clock (c'.advance (c'.horizon (q.dueAt? s.clock) s.clock)) := by
  have hne : (q.requestFor ip).encode ≠ [] := List.cons_ne_nil _ _
  have harmed : (s.armed q.timeout).stream = some c := hs
  have hseen := Connection.seenBy_of_lt (q.lt_of_dueAt? h s.clock)
  rw [verdict?, written, Op.outcome_writeAll_of_hasRoomFor harmed hne hroom]
  rcases c.write (q.requestFor ip).encode with ⟨why | count, c'⟩
  · dsimp only [Except.map]
  · dsimp only [Except.map]
    rw [Option.bind_some, Session.armed_clock, hseen]

/-- A reply that was read, or not, leads to the verdict. -/
theorem replyVerdict?_eq {now : Nat} {s s' : Session} {c : Connection}
    {read : Option (Option (Except IoError (List UInt8)))}
    (hr : ReadsReply (q.limit now) s c (read, s')) (hs : s.stream = some c)
    (hb : c.ending ≠ .broken) :
    q.replyVerdict? now (c.seenBy (q.dueAt? now) s.clock) = read.map fun
      | none => .error q.timedOut
      | some (.error why) => .error (.transport why)
      | some (.ok bytes) => Reply.verdict bytes := by
  have he := hr.exact_eq hs hb
  have hlen : Reply.length = 8 := rfl
  rw [limit_eq, hlen] at he
  rw [replyVerdict?, timedOut, timeout]
  generalize c.seenBy (q.dueAt? now) s.clock = seen at he ⊢
  by_cases hc : 8 ≤ seen.toClient.length
  · rw [if_pos hc] at he
    rw [he]
    match seen.toClient.take 8, List.length_take_of_le hc with
    | [first, code, a, b, c, d, e, f], _ =>
      exact congrArg some (Reply.verdict_eq_ruling first code a b c d e f).symm
  · rw [if_neg hc] at he
    split
    · rename_i hseen
      have htake := congrArg List.length hseen
      simp only [List.length_take, List.length_cons, List.length_nil] at htake
      omega
    · rw [he, dueAt?]
      cases seen.ending with
      | waiting => cases allowance? now q.timeoutSecs <;> rfl
      | broken => rfl
      | ended => rfl
      | gone => rfl

variable {q r} in
/-- The target is found if the lookup says so. -/
theorem Targets.eq_ok {s s' : Session} {found : Option (Except DialError IPv4)} {ip : IPv4}
    {millis : Nat} {endpoints : List Endpoint}
    (ht : q.Targets r { s with timer := .idle } (found, s')) (hs : s.isOpen)
    (hu : checkUserId q.userId = .ok ()) (hd : (q.lookup r).delay = some millis)
    (ha : (q.lookup r).answer = .ok endpoints) (hi : firstIPv4? endpoints = some ip) :
    found = some (.ok ip) ∧ s'.clock = s.clock + millis ∧ s'.net = (s.later millis).net ∧
      s'.stream = (s.later millis).stream := by
  cases ht with
  | closed hs' =>
    have hs' : s.stream = none := hs'
    rw [Session.isOpen_of_none hs'] at hs
    cases hs
  | badUserId _ hu' => cases hu.symm.trans hu'
  | unanswered _ _ hd' => cases hd.symm.trans hd'
  | lookupFailed _ _ _ ha' => cases ha.symm.trans ha'
  | noIPv4 _ _ _ ha' hi' =>
    cases ha.symm.trans ha'
    cases hi.symm.trans hi'
  | found _ _ hd' ha' hi' =>
    cases hd.symm.trans hd'
    cases ha.symm.trans ha'
    cases hi.symm.trans hi'
    refine ⟨rfl, by simp [resolving], ?_, ?_⟩
    · cases millis <;> simp [resolving, Session.later]
    · cases millis <;> simp [resolving, Session.later]

/-- What is written depends on the time and the connections only. -/
theorem writes_eq_written (ip : IPv4) {s s' : Session} (hs : s.Alike s') :
    (q.writes ip s').1 = (q.written ip s).1 ∧ (q.written ip s).2.Alike (q.writes ip s').2 := by
  have htimer : (q.writing s').timer = (s.armed q.timeout).timer := by
    rw [writing, Session.record_timer, Session.armed_timer, Session.armed_timer, hs.clock]
  have habreast : (s.armed q.timeout).Abreast False (q.writing s') :=
    ⟨⟨hs.clock, hs.net, hs.stream⟩, by rw [htimer], .inl (by rw [htimer])⟩
  have hstep : ((Op.writeAll (q.requestFor ip).encode).course (s.armed q.timeout)).Together False
      ((Op.writeAll (q.requestFor ip).encode).course (q.writing s')) :=
    Op.InStep.writeAll _ _ _ habreast
  have hraced : Course.Together False _ _ := hstep.within_same (q.dueAt? s.clock)
  have hlimit : q.limit s'.clock = q.dueAt? s.clock := by rw [limit_eq, hs.clock]
  rw [writes, written, hlimit]
  rcases hraced.outcome with h | ⟨_, _, h⟩
  · exact ⟨h.1, h.2.toAlike⟩
  · exact h.elim

variable {q r} in
/-- The exchange leads to the verdict.  Afterwards the socket is open if the tunnel was granted
and closed otherwise. -/
theorem carriedOn_eq_verdict? (ip : IPv4) {s s' : Session} {c : Connection} (hs : s.Alike s')
    (hc : s'.stream = some c) :
    ((q.carriedOn ip (q.writes ip s')).1.map fun result =>
        (result, (q.carriedOn ip (q.writes ip s')).2.isOpen)) =
      (q.verdict? ip s).map fun verdict => (verdict, verdict.isOk) := by
  have hne : (q.requestFor ip).encode ≠ [] := List.cons_ne_nil _ _
  have hw := q.writesRequest_writes ip hc
  obtain ⟨hresult, halike⟩ := q.writes_eq_written ip hs
  rw [verdict?]
  generalize q.writes ip s' = written at hw hresult halike ⊢
  generalize q.written ip s = reference at hresult halike ⊢
  obtain ⟨_, s₁⟩ := reference
  rcases written with ⟨_ | _ | why | u, s₁'⟩
  · cases hresult
    rfl
  · cases hresult
    simp [carriedOn, timedOut, timeout, Session.isOpen, Except.isOk, Except.toBool]
  · cases hresult
    simp [carriedOn, Session.isOpen, Except.isOk, Except.toBool]
  · cases hresult
    obtain ⟨c', hs₁, hb⟩ := hw.not_broken fun h => absurd h hne
    have hr := q.readsReply_reads hs₁
    rw [hw.limit_eq] at hr
    have hreading : (q.reading s₁').stream = some c' := hs₁
    have hnow : (q.reading s₁').clock = s₁.clock := halike.clock
    have hstream : s₁.stream = some c' := halike.stream.symm.trans hs₁
    dsimp only [carriedOn]
    generalize q.reads s₁' = o at hr ⊢
    obtain ⟨read, s''⟩ := o
    have hverdict := q.replyVerdict?_eq hr hreading hb
    rw [hnow, hs.clock] at hverdict
    rw [hstream, Option.bind_some, hverdict]
    rcases read with _ | _ | why | bytes
    · rfl
    · simp [concluded, Session.isOpen, Except.isOk, Except.toBool]
    · simp [concluded, Session.isOpen, Except.isOk, Except.toBool]
    · have hopen : s''.stream.isSome := hr.isOpen
      cases hv : Reply.verdict bytes with
      | error e => simp [concluded, hv, Session.isOpen, Except.isOk, Except.toBool]
      | ok u => simp [concluded, hv, granted, Session.isOpen, hopen, Except.isOk, Except.toBool]

/-- A handshake whose target is found comes to its verdict.  Afterwards the socket is open
if the tunnel was granted and closed otherwise.  If the network has room for the request the
verdict is that of the write, or else that of what lies with the client when the timeout is
over. -/
theorem run?_eq_verdict_of_target (hu : 0 ∉ q.userId ∧ q.userId.length ≤ 255) {millis : Nat}
    {endpoints : List Endpoint} {ip : IPv4} (hd : (q.lookup r).delay = some millis)
    (ha : (q.lookup r).answer = .ok endpoints) (hi : firstIPv4? endpoints = some ip) {s : Session}
    {c : Connection} (hs : (s.later millis).stream = some c) :
    ((q.run r).run? s).map (fun (result, s') => (result, s'.isOpen)) =
        (q.verdict? ip (s.later millis)).map (fun verdict => (verdict, verdict.isOk)) ∧
      (1 ≤ q.timeoutSecs → c.HasRoomFor (q.requestFor ip).encode.length →
        q.verdict? ip (s.later millis) = match c.write (q.requestFor ip).encode with
          | (.error why, _) => some (.error (.transport why))
          | (.ok _, c') =>
            q.replyVerdict? (s.clock + millis)
              (c'.advance (c'.horizon (q.dueAt? (s.clock + millis)) (s.clock + millis)))) := by
  have hopen : s.isOpen := by
    rw [Session.isOpen]
    cases hn : s.stream with
    | none => cases millis <;> simp [Session.later, hn] at hs
    | some c => rfl
  have hu := (checkUserId_eq_ok_iff q.userId).2 hu
  have ht := q.targets_seek r { s with timer := .idle }
  rcases hp : (ExceptT.run (q.seek r)).outcome { s with timer := .idle } with ⟨found, s'⟩
  rw [hp] at ht
  obtain ⟨rfl, hclock, hnet, hstream⟩ := ht.eq_ok hopen hu hd ha hi
  have halike : (s.later millis).Alike s' := by
    refine ⟨?_, hnet, hstream⟩
    rw [hclock, Session.later_clock]
  have hs' : s'.stream = some c := hstream.trans hs
  refine ⟨?_, fun h hroom => ?_⟩
  · rw [Op.run?_eq_outcome, q.outcome_run_of_found r hp hs', ← carriedOn_eq_verdict? ip halike hs',
      Option.map_map]
    rfl
  · rw [q.verdict?_of_hasRoomFor h hs hroom, Session.later_clock]

/-- The answer to the lookup comes late.  The network takes the request in two pieces, and the
reply comes in two pieces.  Another network has room for the request. -/
theorem run?_granted_in_pieces :
    let q : HandshakeRequest := { host := "target", port := 80, timeoutSecs := 1, userId := [117] }
    let r := (Resolver.fixed [.v4 ⟨10, 0, 0, 9⟩ 1]).delayed (some 2)
    let c : Connection :=
      { peer := .v4 ⟨10, 0, 0, 1⟩ 1080, ordinal := 0, since := 0, capacity := some 6
        script := .wait 5 :: Action.request ++
          [.write [0, 90, 0], .wait 3, .write [0, 0, 0, 0, 7]] }
    let s : Session := { stream := some c }
    let roomy : Connection := { c with capacity := some 10 }
    let t : Session := { stream := some roomy }
    (0 ∉ q.userId ∧ q.userId.length ≤ 255) ∧
      ((q.run r).run? s).map (fun (result, s') => (result, s'.isOpen)) = some (.ok (), true) ∧
      1 ≤ q.timeoutSecs ∧ (roomy.advance 2).HasRoomFor (q.requestFor ⟨10, 0, 0, 9⟩).encode.length ∧
      (q.verdict? ⟨10, 0, 0, 9⟩ (t.later 2)).map Except.toOption = some (some ()) := by
  intro q r c s roomy t
  have hroom : (roomy.advance 2).HasRoomFor (q.requestFor ⟨10, 0, 0, 9⟩).encode.length := by
    rintro most ⟨⟩
    decide
  refine ⟨⟨by decide, by decide⟩, ?_, by decide, hroom, ?_⟩
  · have hd : (q.lookup r).delay = some 2 := rfl
    have ha : (q.lookup r).answer = .ok [.v4 ⟨10, 0, 0, 9⟩ 1] := rfl
    have hs : (s.later 2).stream = some (c.advance 2) := rfl
    rw [(run?_eq_verdict_of_target q r ⟨by decide, by decide⟩ hd ha rfl hs).1]
    have hgranted :
        (q.verdict? ⟨10, 0, 0, 9⟩ (s.later 2)).map Except.toOption = some (some ()) := by
      decide +kernel
    obtain ⟨verdict, hverdict, hsome⟩ := Option.map_eq_some_iff.1 hgranted
    rw [hverdict, Option.map_some]
    cases verdict with
    | error e => cases hsome
    | ok u => rfl
  · have ht : (t.later 2).stream = some (roomy.advance 2) := rfl
    have hverdict := (run?_eq_verdict_of_target q r ⟨by decide, by decide⟩ rfl rfl rfl ht).2
      (by decide) hroom
    rw [hverdict]
    decide +kernel

end HandshakeRequest

end ProxyDial
