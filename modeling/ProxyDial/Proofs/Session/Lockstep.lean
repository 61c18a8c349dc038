import ProxyDial.Proofs.Session.Outcome
import ProxyDial.Proofs.Time.Allowance

/-!
# Runs in lock step

Two runs of an operation can differ in their events and in how long their timer leaves
them.  As long as neither gives up they take the same steps at the same instants, and
nobody but the client can tell them apart (`Session.Alike`).

*Sessions.*  `Session.Abreast more` says that two sessions are alike and that the second
one's timer expires when the first one's does, or no sooner if `more` holds.

*Courses.*  `Course.InStep` relates two courses that go through such sessions, up to the
point where the first gives up.  Limits are where they may part
(`Course.InStep.within`).  Sequences, races and attempts stay in step if their parts do.
-/

namespace ProxyDial

/-! ## Sessions -/

namespace Session

/-- Sessions that only the client can tell apart. -/
structure Alike (s s' : Session) : Prop where
  clock : s'.clock = s.clock
  net : s'.net = s.net
  stream : s'.stream = s.stream

/-- Sessions that are alike.  The second one's timer expires with the first one's, or no
sooner if the second one has `more` time. -/
structure Abreast (more : Prop) (s s' : Session) : Prop extends Alike s s' where
  armed : s'.timer.isArmed = s.timer.isArmed
  limit : s'.timer.limit = s.timer.limit ∨ more ∧ NoLater s.timer.limit s'.timer.limit

variable {more : Prop} {s s' : Session}

theorem Alike.refl (s : Session) : s.Alike s := ⟨rfl, rfl, rfl⟩

theorem Alike.symm (h : s.Alike s') : s'.Alike s := ⟨h.clock.symm, h.net.symm, h.stream.symm⟩

theorem Alike.trans {s'' : Session} (h : s.Alike s') (h' : s'.Alike s'') : s.Alike s'' :=
  ⟨h'.clock.trans h.clock, h'.net.trans h.net, h'.stream.trans h.stream⟩

/-- Nobody but the client knows of an event. -/
theorem alike_record (s : Session) (e : Event) : s.Alike (s.record e) := ⟨rfl, rfl, rfl⟩

theorem Alike.isOpen (h : s.Alike s') : s'.isOpen = s.isOpen := by
  rw [Session.isOpen, h.stream]
  rfl

theorem Alike.closed (h : s.Alike s') : s.closed.Alike s'.closed := by
  refine ⟨?_, ?_, ?_⟩
  · rw [closed_clock, closed_clock, h.clock]
  · rw [Session.closed, Session.closed, h.stream]
    cases s.stream with
    | none => exact h.net
    | some c => exact congrArg (·.close c) h.net
  · rw [closed_stream, closed_stream]

theorem Alike.cancelled (h : s.Alike s') : s.cancelled.Alike s'.cancelled := by
  refine ⟨?_, ?_, ?_⟩
  · rw [cancelled_clock, cancelled_clock, h.clock]
  · rw [cancelled_net, cancelled_net, h.net]
  · rw [cancelled_stream, cancelled_stream, h.stream]

/-- Without a timer there is nothing to run late for. -/
theorem Alike.newTimer (h : s.Alike s') :
    Abreast more { s with timer := .idle } { s' with timer := .idle } :=
  ⟨⟨h.clock, h.net, h.stream⟩, rfl, .inl rfl⟩

theorem Abreast.refl (s : Session) : s.Abreast more s := ⟨.refl s, rfl, .inl rfl⟩

/-- Whatever keeps the timer keeps its limit. -/
theorem Abreast.of_alike {s₁ s₁' : Session} (h : s.Abreast more s') (ha : s₁.Alike s₁')
    (ht : s₁.timer = s.timer) (ht' : s₁'.timer = s'.timer) : s₁.Abreast more s₁' :=
  ⟨ha, by rw [ht, ht', h.armed], by rw [ht, ht']; exact h.limit⟩

theorem Abreast.record (h : s.Abreast more s') (e e' : Event) :
    (s.record e).Abreast more (s'.record e') :=
  h.of_alike ⟨h.clock, h.net, h.stream⟩ rfl rfl

theorem Abreast.moveTo (h : s.Abreast more s') (now : Nat) :
    (s.moveTo now).Abreast more (s'.moveTo now) := by
  refine h.of_alike ⟨rfl, ?_, ?_⟩ rfl rfl
  · rw [moveTo_net, moveTo_net, h.net]
  · rw [moveTo_stream, moveTo_stream, h.stream]

theorem Abreast.setStream (h : s.Abreast more s') (stream : Option Connection) :
    Abreast more { s with stream } { s' with stream } :=
  h.of_alike ⟨h.clock, h.net, rfl⟩ rfl rfl

theorem Abreast.closed (h : s.Abreast more s') : s.closed.Abreast more s'.closed :=
  h.of_alike h.toAlike.closed s.closed_timer s'.closed_timer

theorem Abreast.expired (h : s.Abreast more s') : s.expired.Abreast more s'.expired :=
  ⟨⟨h.clock, h.net, h.stream⟩, rfl, .inl rfl⟩

theorem Abreast.cancelled (h : s.Abreast more s') : s.cancelled.Abreast more s'.cancelled := by
  refine ⟨h.toAlike.cancelled, ?_, ?_⟩
  · rw [cancelled_timer, cancelled_timer, Timer.isArmed_cancel, Timer.isArmed_cancel]
  · rw [cancelled_timer, cancelled_timer, Timer.cancel, Timer.cancel, h.armed]
    split
    · exact .inl rfl
    · exact h.limit

theorem Abreast.arm (h : s.Abreast more s') {d d' : Duration}
    (hd : d' = d ∨ more ∧ NoLater ((Deadline.after s.clock d).map Deadline.due)
      ((Deadline.after s.clock d').map Deadline.due)) :
    (s.armed d).Abreast more (s'.armed d') := by
  refine ⟨⟨h.clock, h.net, h.stream⟩, rfl, ?_⟩
  rw [armed_timer, armed_timer, h.clock, Timer.limit_arm, Timer.limit_arm]
  rcases hd with rfl | hd
  · exact .inl rfl
  · exact .inr hd

end Session

/-! ## Courses -/

namespace Course

variable {α β : Type}

/-- Courses in lock step, up to the point where the first gives up with a result that
`gaveUp` tells. -/
inductive InStep (more : Prop) (gaveUp : α → Prop) : Course α → Course α → Prop where
  | done {s s' : Session} (a : α) (h : s.Abreast more s') :
      InStep more gaveUp (.done a s) (.done a s')
  | wait {s s' : Session} {rest rest' : Course α} (wake : Nat) (h : s.Abreast more s')
      (hr : InStep more gaveUp rest rest') :
      InStep more gaveUp (.wait s wake rest) (.wait s' wake rest')
  | stuck {s s' : Session} (h : s.Abreast more s') : InStep more gaveUp (.stuck s) (.stuck s')
  | gaveUp {c c' : Course α} {a : α} {s : Session} (ho : c.outcome = (some a, s))
      (hg : gaveUp a) : InStep more gaveUp c c'

/-- Courses in lock step to the end. -/
abbrev Together (more : Prop) (c c' : Course α) : Prop := InStep more (fun _ => False) c c'

variable {more : Prop} {gaveUp : α → Prop} {c c' : Course α}

/-- What two runs in step come to. -/
theorem InStep.outcome (h : InStep more gaveUp c c') :
    (c'.outcome.1 = c.outcome.1 ∧ c.outcome.2.Abreast more c'.outcome.2) ∨
      ∃ a, c.outcome.1 = some a ∧ gaveUp a := by
  induction h with
  | done a h => exact .inl ⟨rfl, h⟩
  | wait wake h hr ih => exact ih
  | stuck h => exact .inl ⟨rfl, h⟩
  | @gaveUp c c' a s ho hg => exact .inr ⟨a, by rw [ho], hg⟩

/-- A sequence is in step if its parts are, and if what follows on giving up gives up. -/
theorem InStep.bind {next next' : α → Session → Course β} {gaveUp' : β → Prop}
    (h : InStep more gaveUp c c')
    (hn : ∀ a s s', s.Abreast more s' → InStep more gaveUp' (next a s) (next' a s'))
    (hg : ∀ a s, gaveUp a → ∃ b s', (next a s).outcome = (some b, s') ∧ gaveUp' b) :
    InStep more gaveUp' (c.bind next) (c'.bind next') := by
  induction h with
  | done a h => exact hn a _ _ h
  | wait wake h hr ih => exact .wait wake h ih
  | stuck h => exact .stuck h
  | @gaveUp c c' a s ho hga =>
    obtain ⟨b, s', hb, hgb⟩ := hg a s hga
    refine .gaveUp (a := b) (s := s') ?_ hgb
    rw [outcome_bind, ho]
    exact hb

/-- A limit that both reach at once does not part them. -/
theorem InStep.within_same {gaveUp : Option α → Prop} (limit : Option Nat)
    (h : Together more c c') : InStep more gaveUp (c.within limit) (c'.within limit) := by
  induction h with
  | done a h => exact .done (some a) h
  | gaveUp _ hg => exact hg.elim
  | @stuck s s' h =>
    cases limit with
    | none => exact .stuck h
    | some l =>
      rcases Nat.lt_or_ge s.clock l with hn | hn
      · rw [within_stuck_of_lt hn, within_stuck_of_lt (h.clock ▸ hn)]
        exact .wait l h (.done none (h.moveTo l))
      · rw [within_stuck_of_over hn, within_stuck_of_over (h.clock ▸ hn)]
        exact .done none h
  | @wait s s' rest rest' wake h hr ih =>
    cases limit with
    | none => exact .wait wake h ih
    | some l =>
      rcases Nat.lt_or_ge s.clock l with hn | hn
      · rcases Nat.lt_or_ge l wake with hw | hw
        · rw [within_wait_of_lt hn hw, within_wait_of_lt (h.clock ▸ hn) hw]
          exact .wait l h (.done none (h.moveTo l))
        · rw [within_wait_of_le hn hw, within_wait_of_le (h.clock ▸ hn) hw]
          exact .wait wake h ih
      · rw [within_wait_of_over hn, within_wait_of_over (h.clock ▸ hn)]
        exact .done none h

/-- At a limit that the first reaches sooner only the first gives up. -/
theorem InStep.within_sooner {gaveUp : Option α → Prop} (hg : gaveUp none) {l : Nat}
    {limit : Option Nat} (hl : ∀ l' ∈ limit, l ≤ l') (h : Together more c c') :
    InStep more gaveUp (c.within (some l)) (c'.within limit) := by
  induction h with
  | done a h => exact .done (some a) h
  | gaveUp _ hg => exact hg.elim
  | @stuck s s' h =>
    rcases Nat.lt_or_ge s.clock l with hn | hn
    · rw [within_stuck_of_lt hn]
      exact .gaveUp rfl hg
    · rw [within_stuck_of_over hn]
      exact .gaveUp rfl hg
  | @wait s s' rest rest' wake h hr ih =>
    rcases Nat.lt_or_ge s.clock l with hn | hn
    · rcases Nat.lt_or_ge l wake with hw | hw
      · rw [within_wait_of_lt hn hw]
        exact .gaveUp rfl hg
      · have hgo : (Course.wait s' wake rest').within limit =
            .wait s' wake (rest'.within limit) := by
          cases limit with
          | none => rfl
          | some l' =>
            have hl' : l ≤ l' := hl l' rfl
            have hn' : s'.clock < l' := h.clock ▸ Nat.lt_of_lt_of_le hn hl'
            exact within_wait_of_le hn' (Nat.le_trans hw hl') rest'
        rw [within_wait_of_le hn hw, hgo]
        exact .wait wake h ih
    · rw [within_wait_of_over hn]
      exact .gaveUp rfl hg

/-- Courses in step part only at a limit that the second reaches later. -/
theorem InStep.within {later : Prop} {limit limit' : Option Nat} (h : Together more c c')
    (hl : limit' = limit ∨ later ∧ NoLater limit limit') :
    InStep more (fun found => later ∧ found = none) (c.within limit) (c'.within limit') := by
  rcases hl with rfl | ⟨hlater, hl⟩
  · exact h.within_same limit'
  · cases limit with
    | some l => exact h.within_sooner ⟨hlater, rfl⟩ hl.le
    | none =>
      obtain rfl := hl.eq_none
      exact h.within_same none

end Course

/-! ## Operations -/

namespace Op

variable {α β : Type} {more : Prop} {gaveUp : α → Prop}

/-- Operations that are in step from sessions that are abreast. -/
def InStep (more : Prop) (gaveUp : α → Prop) (op op' : Op α) : Prop :=
  ∀ s s', s.Abreast more s' → (op.course s).InStep more gaveUp (op'.course s')

/-- Operations that are in step to the end. -/
abbrev Together (more : Prop) (op op' : Op α) : Prop := InStep more (fun _ => False) op op'

theorem InStep.pure (a : α) : InStep more gaveUp (pure a) (pure a) := by
  intro s s' h
  exact .done a h

theorem InStep.bind {op op' : Op α} {next next' : α → Op β} {gaveUp' : β → Prop}
    (h : InStep more gaveUp op op') (hn : ∀ a, InStep more gaveUp' (next a) (next' a))
    (hg : ∀ a s, gaveUp a → ∃ b s', (next a).outcome s = (some b, s') ∧ gaveUp' b) :
    InStep more gaveUp' (op >>= next) (op' >>= next') := by
  intro s s' hs
  exact (h s s' hs).bind (fun a s₁ s₁' h₁ => hn a s₁ s₁' h₁) hg

/-- A sequence whose first part never gives up. -/
theorem InStep.bind_together {op op' : Op α} {next next' : α → Op β} {gaveUp' : β → Prop}
    (h : Together more op op') (hn : ∀ a, InStep more gaveUp' (next a) (next' a)) :
    InStep more gaveUp' (op >>= next) (op' >>= next') :=
  h.bind hn fun _ _ hg => hg.elim

/-- What is done with the session may depend on it, as long as it stays in step. -/
theorem InStep.get_bind {next next' : Session → Op β} {gaveUp' : β → Prop}
    (h : ∀ s s', s.Abreast more s' →
      ((next s).course s).InStep more gaveUp' ((next' s').course s')) :
    InStep more gaveUp' (get >>= next) (get >>= next') := h

theorem InStep.modify {f f' : Session → Session}
    (h : ∀ s s', s.Abreast more s' → (f s).Abreast more (f' s')) {gaveUp : Unit → Prop} :
    InStep more gaveUp (modify f) (modify f') := by
  intro s s' hs
  exact .done () (h s s' hs)

theorem InStep.record (e e' : Event) {gaveUp : Unit → Prop} :
    InStep more gaveUp (record e) (record e') :=
  .modify fun _ _ h => h.record e e'

theorem InStep.never : InStep more gaveUp (never : Op α) never := by
  intro s s' h
  exact .stuck h

theorem InStep.sleepUntil (wake : Nat) {gaveUp : Unit → Prop} :
    InStep more gaveUp (sleepUntil wake) (sleepUntil wake) := by
  intro s s' h
  exact .wait wake h (.done () (h.moveTo wake))

theorem InStep.sleep (millis : Nat) {gaveUp : Unit → Prop} :
    InStep more gaveUp (sleep millis) (sleep millis) := by
  refine .get_bind fun s s' h => ?_
  rw [h.clock]
  exact InStep.sleepUntil (s.clock + millis) s s' h

theorem InStep.ready (after : Option Nat) (a : α) :
    InStep more gaveUp (ready after a) (ready after a) := by
  match after with
  | none => exact .never
  | some 0 => exact .pure a
  | some (millis + 1) => exact .bind_together (.sleep (millis + 1)) fun _ => .pure a

theorem InStep.close {gaveUp : Unit → Prop} : InStep more gaveUp close close := by
  intro s s' h
  rw [course_close, course_close]
  exact .done () h.closed

theorem InStep.cancelTimer {gaveUp : Bool → Prop} :
    InStep more gaveUp cancelTimer cancelTimer := by
  intro s s' h
  have hc (s : Session) : Op.cancelTimer.course s = .done s.timer.isArmed s.cancelled := by
    rw [Op.cancelTimer, Session.cancelled, course_bind, course_get, Course.bind]
    cases s.timer.isArmed <;> rfl
  rw [hc, hc, h.armed]
  exact .done _ h.cancelled

/-- A timer may be armed with more time. -/
theorem InStep.armTimer {d d' : Duration}
    (hd : d' = d ∨ more ∧ ∀ now, NoLater ((Deadline.after now d).map Deadline.due)
      ((Deadline.after now d').map Deadline.due)) {gaveUp : Unit → Prop} :
    InStep more gaveUp (armTimer d) (armTimer d') := by
  intro s s' h
  exact .done () (h.arm (hd.imp_right fun hd => ⟨hd.1, hd.2 s.clock⟩))

/-! ### Giving up -/

/-- A limit on an operation is counted from the instant at which it begins. -/
theorem InStep.bounded {later : Prop} {limit limit' : Option Duration} {op op' : Op α}
    (h : Together more op op') {s s' : Session} (hs : s.Abreast more s')
    (hl : limit' = limit ∨ later ∧
      NoLater (limit.map (Deadline.cutoff s.clock)) (limit'.map (Deadline.cutoff s.clock))) :
    ((bounded limit op).course s).InStep more (fun found => later ∧ found = none)
      ((bounded limit' op').course s') := by
  show ((op.course s).within (limit.map (Deadline.cutoff s.clock))).InStep more _
    ((op'.course s').within (limit'.map (Deadline.cutoff s'.clock)))
  rw [hs.clock]
  refine (h s s' hs).within (hl.imp_left ?_)
  rintro rfl
  rfl

theorem InStep.race {op op' : Op (Except IoError α)} (h : Together more op op') :
    InStep more (fun outcome => more ∧ outcome = .aborted) (race op) (race op') := by
  refine .get_bind fun s s' hs => ?_
  refine ((h s s' hs).within hs.limit).bind ?_ ?_
  · intro found s₁ s₁' h₁
    cases found with
    | some result => exact .done _ h₁
    | none => exact .done _ h₁.expired
  · intro found s₁ hg
    obtain ⟨hmore, rfl⟩ := hg
    exact ⟨.aborted, s₁.expired, rfl, hmore, rfl⟩

/-! ### The socket -/

theorem InStep.withStream (f : Connection → Except IoError α × Connection)
    {gaveUp : Except IoError α → Prop} :
    InStep more gaveUp (withStream f) (withStream f) := by
  refine .get_bind fun s s' h => ?_
  rw [h.stream]
  cases s.stream with
  | none => exact .done _ h
  | some c => exact .done _ (h.setStream _)

theorem InStep.awaitAmong (isReady : Connection → Bool) (wakes : List Nat) :
    Together more (awaitAmong isReady wakes) (awaitAmong isReady wakes) := by
  induction wakes with
  | nil =>
    refine .get_bind fun s s' h => ?_
    rw [h.stream]
    cases s.stream with
    | none => exact .done () h
    | some c =>
      dsimp only
      split
      · exact .done () h
      · exact .stuck h
  | cons wake rest ih =>
    refine .get_bind fun s s' h => ?_
    rw [h.stream]
    cases s.stream with
    | none => exact .done () h
    | some c =>
      dsimp only
      split
      · exact .done () h
      · exact InStep.bind_together (.sleepUntil wake) (fun _ => ih) s s' h

theorem InStep.awaitReady (isReady : Connection → Bool) :
    Together more (awaitReady isReady) (awaitReady isReady) := by
  refine .get_bind fun s s' h => ?_
  rw [h.stream]
  cases s.stream with
  | none => exact .done () h
  | some c =>
    dsimp only
    split
    · exact .done () h
    · refine InStep.bind_together (.sleep 0) (fun _ => .get_bind fun s s' h => ?_) s s' h
      rw [h.stream]
      cases s.stream with
      | none => exact .done () h
      | some c => exact InStep.awaitAmong isReady c.wakeups s s' h

theorem InStep.readExact (count : Nat) :
    Together more (readExact count) (readExact count) :=
  .bind_together (.awaitReady _) fun _ => .withStream _

theorem InStep.write (bytes : List UInt8) : Together more (write bytes) (write bytes) :=
  .bind_together (.awaitReady _) fun _ => .withStream _

theorem InStep.writeRest (bytes : List UInt8) (written : Nat) :
    Together more (writeRest written bytes) (writeRest written bytes) := by
  induction bytes generalizing written with
  | nil => cases written <;> exact .withStream _
  | cons b bytes ih =>
    cases written with
    | zero =>
      refine .bind_together (.write (b :: bytes)) fun result => ?_
      match result with
      | .error e => exact .pure _
      | .ok 0 => exact .pure _
      | .ok (written + 1) => exact ih written
    | succ written => exact ih written

theorem InStep.writeAll (bytes : List UInt8) :
    Together more (writeAll bytes) (writeAll bytes) := .writeRest bytes 0

theorem InStep.meet (e : Endpoint) : Together more (meet e) (meet e) := by
  rintro s ⟨clock, net, stream, timer, log⟩ h
  obtain rfl : clock = s.clock := h.clock
  obtain rfl : net = s.net := h.net
  obtain rfl : stream = s.stream := h.stream
  rw [Op.meet]
  dsimp only
  cases s.net.contact s.clock e with
  | noRoute => exact .done _ h
  | silent => exact .stuck h
  | failed why => exact .wait _ h (.done _ (h.moveTo s.clock))
  | accepted c net =>
    have hwith (net : Network) (stream : Option Connection) :
        Session.Abreast more { s with net, stream } { s with net, stream, timer, log } :=
      h.of_alike ⟨rfl, rfl, rfl⟩ rfl rfl
    exact .wait _ (hwith (net.close c) s.stream) (.done _ ((hwith net (some c)).moveTo s.clock))

/-- An attempt to connect takes as long on networks that are the same. -/
theorem InStep.connectTo (e : Endpoint) : Together more (connectTo e) (connectTo e) := by
  refine .get_bind fun s s' h => ?_
  rw [h.net]
  exact InStep.bind_together (.ready _ ()) (fun _ => .meet e) s s' h

theorem InStep.connectFirst (last : IoError) (endpoints : List Endpoint) :
    Together more (connectFirst last endpoints) (connectFirst last endpoints) := by
  induction endpoints generalizing last with
  | nil => exact .pure _
  | cons e rest ih =>
    refine .bind_together (.connectTo e) fun result => ?_
    cases result with
    | ok u => exact .pure _
    | error why => exact .bind_together (.record _ _) fun _ => ih why

theorem InStep.connect (endpoints : List Endpoint) :
    Together more (connect endpoints) (connect endpoints) :=
  .bind_together .close fun _ => .connectFirst _ endpoints

end Op

/-! ## Attempts -/

namespace Attempt

variable {α β : Type} {more : Prop} {gaveUp : DialError → Prop}

/-- Attempts that are in step from two sessions on, up to the errors that `gaveUp` tells. -/
def InStepFrom (more : Prop) (gaveUp : DialError → Prop) (x x' : Attempt α) (s s' : Session) :
    Prop :=
  ((ExceptT.run x).course s).InStep more (fun result => ∃ e, result = .error e ∧ gaveUp e)
    ((ExceptT.run x').course s')

/-- Attempts that are in step from all sessions that are abreast. -/
def InStep (more : Prop) (gaveUp : DialError → Prop) (x x' : Attempt α) : Prop :=
  ∀ s s', s.Abreast more s' → InStepFrom more gaveUp x x' s s'

theorem InStep.pure (a : α) : InStep more gaveUp (pure a) (pure a) := by
  intro s s' h
  exact Course.InStep.done (Except.ok a) h

theorem InStep.raise (e : DialError) : InStep more gaveUp (throw e : Attempt α) (throw e) := by
  intro s s' h
  exact Course.InStep.done (Except.error e) h

/-- After giving up it does not matter what the other attempt does. -/
theorem InStep.giveUp {e : DialError} (he : gaveUp e) (x : Attempt α) :
    InStep more gaveUp (throw e) x := by
  intro s s' _
  exact .gaveUp rfl ⟨e, rfl, he⟩

theorem InStepFrom.bind {x x' : Attempt α} {next next' : α → Attempt β} {s s' : Session}
    (h : InStepFrom more gaveUp x x' s s') (hn : ∀ a, InStep more gaveUp (next a) (next' a)) :
    InStepFrom more gaveUp (x >>= next) (x' >>= next') s s' := by
  refine Course.InStep.bind h ?_ ?_
  · intro result s₁ s₁' h₁
    cases result with
    | error e => exact .done (Except.error e) h₁
    | ok a => exact hn a s₁ s₁' h₁
  · intro result s hg
    obtain ⟨e, rfl, he⟩ := hg
    exact ⟨.error e, s, rfl, e, rfl, he⟩

theorem InStep.bind {x x' : Attempt α} {next next' : α → Attempt β} (h : InStep more gaveUp x x')
    (hn : ∀ a, InStep more gaveUp (next a) (next' a)) :
    InStep more gaveUp (x >>= next) (x' >>= next') :=
  fun s s' hs => (h s s' hs).bind hn

/-- An operation that gives up is followed by an attempt that gives up. -/
theorem InStepFrom.lift_bind {gaveUp' : α → Prop} {op op' : Op α} {next next' : α → Attempt β}
    {s s' : Session} (h : (op.course s).InStep more gaveUp' (op'.course s'))
    (hn : ∀ a, InStep more gaveUp (next a) (next' a))
    (hg : ∀ a s, gaveUp' a →
      ∃ e s', (ExceptT.run (next a)).outcome s = (some (.error e), s') ∧ gaveUp e) :
    InStepFrom more gaveUp (liftM op >>= next) (liftM op' >>= next') s s' := by
  have hrun (op : Op α) (next : α → Attempt β) :
      ExceptT.run (liftM op >>= next) = op >>= fun a => ExceptT.run (next a) :=
    ExceptT.run_bind_lift op next
  rw [InStepFrom, hrun, hrun]
  refine Course.InStep.bind h (fun a s₁ s₁' h₁ => hn a s₁ s₁' h₁) ?_
  intro a s₁ ha
  obtain ⟨e, s₂, ho, he⟩ := hg a s₁ ha
  exact ⟨.error e, s₂, ho, e, rfl, he⟩

theorem InStep.lift_bind {gaveUp' : α → Prop} {op op' : Op α} {next next' : α → Attempt β}
    (h : Op.InStep more gaveUp' op op') (hn : ∀ a, InStep more gaveUp (next a) (next' a))
    (hg : ∀ a s, gaveUp' a →
      ∃ e s', (ExceptT.run (next a)).outcome s = (some (.error e), s') ∧ gaveUp e) :
    InStep more gaveUp (liftM op >>= next) (liftM op' >>= next') :=
  fun s s' hs => .lift_bind (h s s' hs) hn hg

theorem InStep.lift_together {op op' : Op α} {next next' : α → Attempt β}
    (h : Op.Together more op op') (hn : ∀ a, InStep more gaveUp (next a) (next' a)) :
    InStep more gaveUp (liftM op >>= next) (liftM op' >>= next') :=
  .lift_bind h hn fun _ _ hg => hg.elim

theorem InStep.lift {op op' : Op α} (h : Op.Together more op op') :
    InStep more gaveUp (liftM op) (liftM op') :=
  Op.InStep.bind_together h fun a => Op.InStep.pure (Except.ok a)

theorem InStep.get_bind {next next' : Session → Attempt β}
    (h : ∀ s s', s.Abreast more s' → InStepFrom more gaveUp (next s) (next' s') s s') :
    InStep more gaveUp (liftM Op.get >>= next) (liftM Op.get >>= next') := h

/-- An event takes no time. -/
theorem InStepFrom.record_bind {e e' : Event} {next next' : Unit → Attempt β} {s s' : Session}
    (h : InStepFrom more gaveUp (next ()) (next' ()) (s.record e) (s'.record e')) :
    InStepFrom more gaveUp (liftM (Op.record e) >>= next) (liftM (Op.record e') >>= next') s s' :=
  h

/-- Whole attempts begin with new timers. -/
theorem InStepFrom.run {x x' : Attempt α} {s s' : Session}
    (h : InStepFrom more gaveUp x x' { s with timer := .idle } { s' with timer := .idle }) :
    ((run x).course s).InStep more (fun result => ∃ e, result = .error e ∧ gaveUp e)
      ((run x').course s') := by
  have hbegun : ((ExceptT.run x).course { s with timer := .idle }).InStep more
      (fun result => ∃ e, result = .error e ∧ gaveUp e)
      ((ExceptT.run x').course { s' with timer := .idle }) := h
  refine hbegun.bind ?_ ?_
  · intro result s₁ s₁' h₁
    cases result with
    | ok a => exact Op.InStep.bind_together .cancelTimer (fun _ => .pure _) s₁ s₁' h₁
    | error e =>
      exact Op.InStep.bind_together .close
        (fun _ => .bind_together .cancelTimer fun _ => .pure _) s₁ s₁' h₁
  · intro result s₁ hg
    obtain ⟨e, rfl, he⟩ := hg
    refine ⟨.error e, s₁.closed.cancelled, ?_, e, rfl, he⟩
    show (Op.close >>= fun _ => Op.cancelTimer >>= fun _ =>
      Pure.pure (Except.error e)).outcome s₁ = _
    simp

/-- So their sessions need only be alike. -/
theorem InStep.run {x x' : Attempt α} (h : InStep more gaveUp x x') {s s' : Session}
    (hs : s.Alike s') :
    ((run x).course s).InStep more (fun result => ∃ e, result = .error e ∧ gaveUp e)
      ((run x').course s') :=
  InStepFrom.run (h _ _ hs.newTimer)

end Attempt

end ProxyDial
