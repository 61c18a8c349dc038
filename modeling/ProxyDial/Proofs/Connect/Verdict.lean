import ProxyDial.Proofs.Connect.Paths

/-!
# The verdict of a timed connect

What a timed connect comes to can be told beforehand: from the lookup's delay and
answer, and from how the addresses take attempts to connect.  `ConnectRequest.verdict?`
tells it, without a socket, a timer or a walk.

*Receptions.*  An address accepts attempts, leaves them hanging or refuses them.  This
does not change in time, nor when connections are closed.

*Walks.*  A walk is decided by the first candidate that does not refuse
(`Op.Connects.eq_walked`).
-/

namespace ProxyDial

/-! ## Receptions -/

/-- How an address takes attempts to connect. -/
inductive Reception where
  | accepts
  | hangs
  | refuses (why : IoError)
deriving DecidableEq, Repr

/-- The error of a refusal. -/
def Reception.refusal? : Reception → Option IoError
  | accepts => none
  | hangs => none
  | refuses why => some why

/-- How an address takes attempts to connect at which one meets this. -/
def Contact.reception : Contact → Reception
  | noRoute => .refuses .unreachable
  | failed why => .refuses why
  | silent => .hangs
  | accepted .. => .accepts

namespace Network

/-- How an address takes attempts to connect. -/
def reception (net : Network) (address : Endpoint) : Reception :=
  if net.routed then
    match net.serverAt? address with
    | none => .refuses .refused
    | some server =>
      match server.behaviour with
      | .accepts _ => .accepts
      | .hangs => .hangs
      | .fails why => .refuses why
  else .refuses .unreachable

/-- What decides a walk over candidates: the first of them that does not refuse, and if
all refuse the error of the last.  `last` counts if there is none. -/
def decision (net : Network) (last : IoError) (candidates : List Endpoint) :
    Except IoError Endpoint :=
  match candidates.find? fun e => (net.reception e).refusal?.isNone with
  | some e => .ok e
  | none => .error ((candidates.getLast?.bind fun e => (net.reception e).refusal?).getD last)

variable {net : Network} {now : Nat} {e : Endpoint}

/-- An address takes every attempt as it takes the one that is made. -/
theorem reception_of_contact {contact : Contact} (h : net.contact now e = contact) :
    net.reception e = contact.reception := by
  subst h
  unfold reception Network.contact
  split
  · cases net.serverAt? e with
    | none => rfl
    | some server =>
      dsimp only
      cases server.behaviour <;> rfl
  · rfl

theorem decision_of_refuses {why last : IoError} (h : net.reception e = .refuses why)
    (es : List Endpoint) : net.decision last (e :: es) = net.decision why es := by
  have hf : (e :: es).find? (fun e => (net.reception e).refusal?.isNone) =
      es.find? fun e => (net.reception e).refusal?.isNone := by
    rw [List.find?_cons_of_neg (by simp [h, Reception.refusal?])]
  unfold decision
  rw [hf]
  cases hes : es.find? fun e => (net.reception e).refusal?.isNone with
  | some e' => rfl
  | none =>
    cases es with
    | nil => simp [h, Reception.refusal?]
    | cons e' es =>
      -- The last candidate refuses, so neither `last` nor `why` counts.
      rw [List.getLast?_cons_cons]
      obtain ⟨l, hl⟩ := Option.isSome_iff_exists.1 (List.getLast?_isSome.2 (List.cons_ne_nil e' es))
      have hr := List.find?_eq_none.1 hes l (List.mem_of_getLast? hl)
      rw [hl]
      cases hw : (net.reception l).refusal? with
      | none => rw [hw] at hr; exact absurd rfl hr
      | some why' => simp [hw]

theorem decision_of_responds {last : IoError} (h : (net.reception e).refusal? = none)
    (es : List Endpoint) : net.decision last (e :: es) = .ok e := by
  rw [decision, List.find?_cons_of_pos (by simp [h])]

/-- How many milliseconds pass in a walk until it is decided. -/
def elapsed (net : Network) : List Endpoint → Nat
  | [] => 0
  | e :: es =>
    match net.reception e with
    | .refuses _ => net.latency e + net.elapsed es
    | _ => net.latency e

theorem elapsed_of_refuses {why : IoError} (h : net.reception e = .refuses why)
    (es : List Endpoint) : net.elapsed (e :: es) = net.latency e + net.elapsed es := by
  simp only [elapsed, h]

theorem elapsed_of_responds (h : (net.reception e).refusal? = none) (es : List Endpoint) :
    net.elapsed (e :: es) = net.latency e := by
  rw [elapsed]
  cases hr : net.reception e with
  | accepts => rfl
  | hangs => rfl
  | refuses why => simp [hr, Reception.refusal?] at h

theorem latency_le_elapsed (net : Network) (e : Endpoint) (es : List Endpoint) :
    net.latency e ≤ net.elapsed (e :: es) := by
  rw [elapsed]
  split
  · exact Nat.le_add_right ..
  · exact Nat.le_refl _

/-- What a walk over candidates comes to if it is given up after the milliseconds
`allowed`. -/
def walked (net : Network) (allowed : Option Nat) (last : IoError) (candidates : List Endpoint) :
    Option (Option (Except IoError Endpoint)) :=
  if allowed.any (· ≤ net.elapsed candidates) then some none
  else
    match net.decision last candidates with
    | .error why => some (some (.error why))
    | .ok e =>
      match net.reception e with
      | .accepts => some (some (.ok e))
      | _ => allowed.map fun _ => none

section

variable {allowed : Option Nat} {last : IoError} {es : List Endpoint}

/-- A walk is given up whose first attempt takes all the time there is. -/
theorem walked_of_late {millis : Nat} (h : millis ≤ net.latency e) (last : IoError)
    (es : List Endpoint) : net.walked (some millis) last (e :: es) = some none := by
  have hle := Nat.le_trans h (net.latency_le_elapsed e es)
  rw [walked, Option.any_some, decide_eq_true hle, if_pos rfl]

/-- A walk whose first candidate hangs ends at the limit. -/
theorem walked_of_hangs (h : net.reception e = .hangs) (last : IoError) (es : List Endpoint) :
    net.walked allowed last (e :: es) = allowed.map fun _ => none := by
  rw [walked, decision_of_responds (congrArg Reception.refusal? h)]
  simp only [h]
  cases allowed with
  | none => rfl
  | some millis => simp

theorem walked_of_accepts (h : net.reception e = .accepts)
    (hin : ∀ millis ∈ allowed, net.latency e < millis) (last : IoError) (es : List Endpoint) :
    net.walked allowed last (e :: es) = some (some (.ok e)) := by
  have hresponds : (net.reception e).refusal? = none := congrArg Reception.refusal? h
  have hnot : allowed.any (· ≤ net.elapsed (e :: es)) = false := by
    rw [elapsed_of_responds hresponds]
    cases allowed with
    | none => rfl
    | some millis => simpa using hin millis rfl
  rw [walked, hnot, decision_of_responds hresponds]
  simp [h]

/-- After a refusal the walk goes on with the time that is left. -/
theorem walked_of_refuses {why : IoError} (h : net.reception e = .refuses why)
    (hin : ∀ millis ∈ allowed, net.latency e < millis) (last : IoError) (es : List Endpoint) :
    net.walked allowed last (e :: es) = net.walked (allowed.map (· - net.latency e)) why es := by
  have hany : allowed.any (· ≤ net.elapsed (e :: es)) =
      (allowed.map (· - net.latency e)).any (· ≤ net.elapsed es) := by
    rw [elapsed_of_refuses h]
    cases allowed with
    | none => rfl
    | some millis =>
      have hlt := hin millis rfl
      simp only [Option.map_some, Option.any_some, decide_eq_decide]
      omega
  rw [walked, walked, hany, decision_of_refuses h]
  cases allowed <;> rfl

end

/-- Networks on which attempts to connect fare alike: they are taken in the same way after the
same time. -/
structure Same (net net' : Network) : Prop where
  reception : net'.reception = net.reception
  latency : net'.latency = net.latency

variable {net' : Network}

theorem Same.trans {net'' : Network} (h : net.Same net') (h' : net'.Same net'') : net.Same net'' :=
  ⟨h'.reception.trans h.reception, h'.latency.trans h.latency⟩

theorem Same.symm (h : net.Same net') : net'.Same net := ⟨h.reception.symm, h.latency.symm⟩

theorem Same.elapsed (h : net.Same net') (es : List Endpoint) :
    net'.elapsed es = net.elapsed es := by
  induction es with
  | nil => rfl
  | cons e es ih =>
    simp only [Network.elapsed, h.reception, h.latency, ih]

theorem Same.walked (h : net.Same net') (allowed : Option Nat) (last : IoError)
    (es : List Endpoint) : net'.walked allowed last es = net.walked allowed last es := by
  simp only [Network.walked, Network.decision, h.elapsed, h.reception]

end Network

theorem Session.same_closed (s : Session) : s.net.Same s.closed.net := by
  unfold closed
  split <;> exact ⟨rfl, rfl⟩

theorem Session.same_later (s : Session) (millis : Nat) : s.net.Same (s.later millis).net := by
  cases millis <;> exact ⟨rfl, rfl⟩

/-! ## Walks -/

namespace Op

variable {limit : Option Nat} {last : IoError} {endpoints : List Endpoint} {s s' : Session}

/-- An address refuses every attempt if it refuses one. -/
theorem Attempts.refuses {e : Endpoint} {why : IoError}
    (ha : Attempts limit s e (some (some (.error why)), s')) :
    s.net.reception e = .refuses why := by
  generalize ho : (some (some (Except.error why)), s') = o at ha
  cases ha with
  | unrouted hc =>
    cases ho
    exact Network.reception_of_contact hc
  | failed hc =>
    cases ho
    exact Network.reception_of_contact hc
  | _ => cases ho

theorem Attempts.accepts {e : Endpoint}
    (ha : Attempts limit s e (some (some (.ok ())), s')) : s.net.reception e = .accepts := by
  generalize ho : (some (some (Except.ok ())), s') = o at ha
  cases ha with
  | accepted hc =>
    cases ho
    exact Network.reception_of_contact hc
  | _ => cases ho

/-- An attempt that has ended has taken less time than was allowed. -/
theorem Attempts.latency_lt {e : Endpoint} {result : Except IoError Unit} {allowed : Option Nat}
    (ha : Attempts limit s e (some (some result), s')) (hl : limit = allowed.map (s.clock + ·))
    (hpos : ∀ millis ∈ allowed, 0 < millis) : ∀ millis ∈ allowed, s.net.latency e < millis := by
  intro millis hm
  rw [Option.mem_def] at hm
  subst hm
  have hnow : ∀ l ∈ limit, s.clock < l := by
    rw [hl]
    rintro l ⟨⟩
    exact Nat.lt_add_of_pos_right (hpos millis rfl)
  have hclock : s'.clock = s.clock + s.net.latency e := ha.clock_eq.1
  have hlt := ha.lt_limit hnow (s.clock + millis) hl
  omega

/-- An attempt that has not ended has not got there, or nobody answers. -/
theorem Attempts.late_or_hangs {e : Endpoint} {o : Option (Option (Except IoError Unit)) × Session}
    (ha : Attempts limit s e o) (ho : ∀ result, o.1 ≠ some (some result)) :
    (∃ l, limit = some l ∧ l ≤ s.arrival e) ∨ s.net.reception e = .hangs := by
  cases ha with
  | unrouted => exact absurd rfl (ho _)
  | failed => exact absurd rfl (ho _)
  | accepted => exact absurd rfl (ho _)
  | @late l hl _ hc =>
    rcases hc with hlt | hsilent | ⟨rfl, -⟩
    · exact .inl ⟨l, hl, Nat.le_of_lt hlt⟩
    · exact .inr (Network.reception_of_contact hsilent)
    · exact .inl ⟨_, hl, Nat.le_refl _⟩
  | lateAccepted _ hl => exact .inl ⟨_, hl, Nat.le_refl _⟩
  | never hc => exact .inr (Network.reception_of_contact hc)

/-- A refusal leaves the servers as they are. -/
theorem Attempts.same {e : Endpoint} {why : IoError}
    (ha : Attempts limit s e (some (some (.error why)), s')) : s.net.Same s'.net := by
  rcases ha.passed with rfl | hmoved
  · exact ⟨rfl, rfl⟩
  · rw [hmoved]
    exact ⟨rfl, rfl⟩

/-- What a walk comes to that does not begin past its limit. -/
theorem Connects.eq_walked {allowed : Option Nat}
    {walked : Option (Option (Except IoError Endpoint))}
    (hc : Connects limit last endpoints s (walked, s')) (hl : limit = allowed.map (s.clock + ·))
    (hpos : ∀ millis ∈ allowed, 0 < millis) :
    walked = s.net.walked allowed last endpoints ∧
      ∀ e, walked = some (some (.ok e)) → s'.stream.map Connection.peer = some e := by
  have hgivenUp {last : IoError} {e : Endpoint} {es : List Endpoint} {s : Session}
      {allowed : Option Nat} (hl : limit = allowed.map (s.clock + ·))
      (h : (∃ l, limit = some l ∧ l ≤ s.arrival e) ∨ s.net.reception e = .hangs) :
      s.net.walked allowed last (e :: es) = limit.map fun _ => none := by
    rcases h with ⟨l, hlimit, hle⟩ | hhangs
    · rw [hlimit] at hl
      obtain ⟨millis, rfl, rfl⟩ := Option.map_eq_some_iff.1 hl.symm
      have hle : s.clock + millis ≤ s.clock + s.net.latency e := hle
      rw [hlimit]
      exact Network.walked_of_late (by omega) last es
    · rw [Network.walked_of_hangs hhangs, hl, Option.map_map]
      rfl
  generalize ho : (walked, s') = end' at hc
  induction hc generalizing allowed with
  | exhausted =>
    cases ho
    refine ⟨?_, by simp⟩
    have hnot : allowed.any (· ≤ 0) = false := by
      cases allowed with
      | none => rfl
      | some millis => simpa using Nat.ne_of_gt (hpos millis rfl)
    rw [Network.walked, Network.elapsed, hnot]
    rfl
  | @refused last why e es s s₁ _ ha _ ih =>
    have hrec := ha.refuses
    have hclock : s₁.clock = s.clock + s.net.latency e := ha.clock_eq.1
    have hbefore := ha.latency_lt hl hpos
    have hleft : limit = (allowed.map (· - s.net.latency e)).map
        ((s₁.record (.connectFailed e why)).clock + ·) := by
      rw [hl]
      cases allowed with
      | none => rfl
      | some millis =>
        have hlt := hbefore millis rfl
        simp only [Option.map_some, Session.record_clock, hclock]
        congr 1
        omega
    have hpos' : ∀ left ∈ allowed.map (· - s.net.latency e), 0 < left := by
      intro left hmem
      obtain ⟨millis, hm, rfl⟩ := Option.map_eq_some_iff.1 hmem
      exact Nat.sub_pos_of_lt (hbefore millis hm)
    obtain ⟨hwalked, hpeer⟩ := ih hleft hpos' ho
    rw [Session.record_net, ha.same.walked] at hwalked
    exact ⟨hwalked.trans (Network.walked_of_refuses hrec hbefore last es).symm, hpeer⟩
  | @accepted last e es s s₁ ha =>
    cases ho
    refine ⟨(Network.walked_of_accepts ha.accepts (ha.latency_lt hl hpos) last es).symm, ?_⟩
    rintro _ ⟨⟩
    obtain ⟨server, scripts, -, -, hstream, -⟩ := ha.exists_accepted
    rw [hstream]
    simp [Server.accept]
  | @late last e es s s₁ ha =>
    cases ho
    rw [hgivenUp hl (ha.late_or_hangs (by simp)), ha.clock_eq_limit]
    exact ⟨rfl, by simp⟩
  | @never last e es s s₁ ha =>
    cases ho
    rw [hgivenUp hl (ha.late_or_hangs (by simp)), ha.limit_eq_none]
    exact ⟨rfl, by simp⟩

/-- A walk that is not given up ends when it is decided. -/
theorem Connects.clock_eq {result : Except IoError Endpoint}
    (hc : Connects limit last endpoints s (some (some result), s')) :
    s'.clock = s.clock + s.net.elapsed endpoints := by
  generalize ho : (some (some result), s') = end' at hc
  induction hc with
  | exhausted =>
    cases ho
    rfl
  | @refused _ why e es s s₁ _ ha _ ih =>
    have hclock : s₁.clock = s.clock + s.net.latency e := ha.clock_eq.1
    rw [ih ho, Session.record_clock, Session.record_net, ha.same.elapsed, hclock,
      Network.elapsed_of_refuses ha.refuses, Nat.add_assoc]
  | @accepted _ e es s s₁ ha =>
    cases ho
    rw [Network.elapsed_of_responds (congrArg Reception.refusal? ha.accepts)]
    exact ha.clock_eq.1
  | _ => cases ho

end Op

/-! ## Verdicts -/

namespace ConnectRequest

variable (q : ConnectRequest) (r : Resolver)

/-- Whether the lookup that begins at the instant `now` has a timeout and is answered after
it, or never.  A timeout out of the clock's range is waited for no longer than `patience`. -/
def overdue (now : Nat) : Bool :=
  match q.resolveTimeoutSecs, (q.lookup r).delay with
  | none, _ => false
  | some _, none => true
  | some secs, some delay => patience now secs < delay

/-- What the lookup that begins at the instant `now` comes to. -/
def lookedUp? (now : Nat) : Option Answer :=
  if q.overdue r now then some (.error (.timedOut .resolve (.ofSecs (q.resolveTimeoutSecs.getD 0))))
  else (q.lookup r).delay.map fun _ => (q.lookup r).answer

/-- The candidates that the lookup leaves. -/
def candidates? (now : Nat) : Option (Except DialError (List Endpoint)) :=
  match q.lookedUp? r now with
  | none => none
  | some (.error e) => some (.error e)
  | some (.ok endpoints) =>
    match endpoints.filter fun e => q.family.admits e.ip with
    | [] =>
      if q.family = .any then some (.error (.hostNotFound q.host))
      else some (.error (.noMatchingFamily q.host q.family))
    | kept => some (.ok kept)

/-- What the timed connect comes to: the endpoint that the socket is connected to, or an
error.  It comes to nothing if it waits for ever. -/
def verdict? (s : Session) : Option (Except DialError Endpoint) :=
  match q.candidates? r s.clock with
  | none => none
  | some (.error e) => some (.error e)
  | some (.ok candidates) =>
    let allowed := allowance? (s.clock + (q.lookup r).delay.getD 0) q.timeoutSecs
    let timedOut := .error (.timedOut .connect (.ofSecs q.timeoutSecs))
    if allowed.any (· ≤ s.net.elapsed candidates) then some timedOut
    else
      match s.net.decision .noEndpoints candidates with
      | .error why => some (.error (.transport why))
      | .ok e =>
        match s.net.reception e with
        | .accepts => some (.ok e)
        | _ => allowed.map fun _ => timedOut

variable {q : ConnectRequest} {r : Resolver} {s s' : Session}

theorem resolveLimit_eq (q : ConnectRequest) (now : Nat) :
    q.resolveLimit now = q.resolveTimeoutSecs.map (now + patience now ·) := by
  rw [resolveLimit, resolveTimeout, Option.map_map]
  congr 1
  funext secs
  rw [Function.comp_apply, Deadline.cutoff_ofSecs]

theorem same_connecting (q : ConnectRequest) (candidates : List Endpoint) (s : Session) :
    s.net.Same (q.connecting candidates s).net :=
  Session.same_closed (((s.record (.resolved q.host candidates)).armed q.timeout).record
    (.connectStep q.host q.port .resolving .connecting))

theorem lookedUp?_of_answers {found : Option (Option Answer)}
    (ha : Op.Answers (q.lookup r).answer s (q.lookup r).delay (q.resolveLimit s.clock)
      (found, s')) :
    q.lookedUp? r s.clock = found.map fun answer =>
      answer.getD (.error (.timedOut .resolve (.ofSecs (q.resolveTimeoutSecs.getD 0)))) := by
  rw [resolveLimit_eq] at ha
  rw [lookedUp?, overdue]
  generalize (q.lookup r).delay = delay at ha ⊢
  cases hsecs : q.resolveTimeoutSecs with
  | none =>
    rw [hsecs] at ha
    cases ha with
    | inTime h => rfl
    | never => rfl
  | some secs =>
    rw [hsecs, Option.map_some] at ha
    cases ha with
    | @inTime delay _ h =>
      have hle := h _ rfl
      have hn : ¬patience s.clock secs < delay := by omega
      simp [hn]
    | late h =>
      cases delay with
      | none => rfl
      | some delay =>
        have hlt := h _ rfl
        have hn : patience s.clock secs < delay := by omega
        simp [hn]

theorem Finds.eq_candidates? {found : Option (Except DialError (List Endpoint))}
    (hf : q.Finds r s (found, s')) : found = q.candidates? r s.clock := by
  cases hf with
  | never ha => simp [candidates?, lookedUp?_of_answers ha]
  | late ht ha =>
    obtain ⟨secs, hsecs, rfl⟩ := Option.map_eq_some_iff.1 ht
    simp [candidates?, lookedUp?_of_answers ha, hsecs]
  | failed ha => simp [candidates?, lookedUp?_of_answers ha]
  | noCandidate ha hn =>
    rw [Family.filter] at hn
    simp only [candidates?, lookedUp?_of_answers ha, Option.map_some, Option.getD_some, hn,
      noCandidates]
    cases q.family <;> rfl
  | found ha hn =>
    rw [Family.filter] at hn ⊢
    simp only [candidates?, lookedUp?_of_answers ha, Option.map_some, Option.getD_some]

/-- Nothing but time has passed when the candidates are found. -/
theorem Finds.eq_later {candidates : List Endpoint}
    (hf : q.Finds r s (some (.ok candidates), s')) :
    s' = s.later ((q.lookup r).delay.getD 0) := by
  cases hf with
  | found ha hn =>
    generalize (q.lookup r).delay = delay at ha ⊢
    generalize (q.lookup r).answer = answer at ha
    generalize q.resolveLimit s.clock = limit at ha
    cases ha with
    | inTime h => rfl

end ConnectRequest

end ProxyDial
