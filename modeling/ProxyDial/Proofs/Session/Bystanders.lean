import ProxyDial.Proofs.Session.Waiting

/-!
# Operations that leave the timer alone

An operation may be raced against the timer if it leaves the timer to the race.
`Op.LeavesTimer` says so of all the sessions that it passes through, also of those in which
it is given up.

*Along a course.*  `Course.Along` speaks of the sessions at which a course is suspended and
of those at which it ends.  A course that is given up at a limit ends after the limit
(`Course.Along.within`).

*Order.*  An orderly course also waits for no instant that is over (`Op.Orderly`).  Whatever
is made of waits and of work on the socket is orderly, so connecting, writing and reading
are.  If an orderly operation ends by itself it ends so under any limit that comes later
(`Op.Orderly.outcome_giveUpAt`).
-/

namespace ProxyDial

/-! ## Along a course -/

namespace Course

variable {α β : Type} {P P' : Session → Prop} {Q Q' : α → Session → Prop}

/-- Whether `P` holds wherever a course is suspended and `Q` where it ends. -/
def Along (P : Session → Prop) (Q : α → Session → Prop) : Course α → Prop
  | done a s => Q a s
  | wait s _ rest => P s ∧ rest.Along P Q
  | stuck s => P s

theorem Along.imp (hP : ∀ s, P s → P' s) (hQ : ∀ a s, Q a s → Q' a s) {c : Course α}
    (h : c.Along P Q) : c.Along P' Q' := by
  induction c with
  | done a s => exact hQ a s h
  | wait s wake rest ih => exact ⟨hP s h.1, ih h.2⟩
  | stuck s => exact hP s h

theorem Along.bind {R : β → Session → Prop} {next : α → Session → Course β} {c : Course α}
    (h : c.Along P Q) (hnext : ∀ a s, Q a s → (next a s).Along P R) :
    (c.bind next).Along P R := by
  induction c with
  | done a s => exact hnext a s h
  | wait s wake rest ih => exact ⟨h.1, ih h.2⟩
  | stuck s => exact h

theorem along_trivial (c : Course α) : c.Along (fun _ => True) fun _ _ => True := by
  induction c with
  | done a s => trivial
  | wait s wake rest ih => exact ⟨trivial, ih⟩
  | stuck s => trivial

theorem along_end {c : Course α} (h : ∀ a s, c.outcome = (some a, s) → Q a s) :
    c.Along (fun _ => True) Q := by
  induction c with
  | done a s => exact h a s rfl
  | wait s wake rest ih => exact ⟨trivial, ih h⟩
  | stuck s => trivial

/-- It does not matter how a course would go on from sessions at which it cannot end. -/
theorem Along.bind_congr {next next' : α → Session → Course β} {c : Course α}
    (h : c.Along P Q) (hnext : ∀ a s, Q a s → next a s = next' a s) :
    c.bind next = c.bind next' := by
  induction c with
  | done a s => exact hnext a s h
  | wait s wake rest ih => exact congrArg (wait s wake) (ih h.2)
  | stuck s => rfl

/-- What is given up has come to its limit. -/
theorem Along.within (hP : ∀ s now, P s → s.clock ≤ now → P (s.moveTo now)) {c : Course α}
    (h : c.Along P Q) (limit : Option Nat) :
    (c.within limit).Along P fun found s =>
      found.elim (P s ∧ ∃ l ∈ limit, l ≤ s.clock) fun a => Q a s := by
  induction c with
  | done a s => exact h
  | wait s wake rest ih =>
    cases limit with
    | none => exact ⟨h.1, ih h.2⟩
    | some l =>
      rcases Nat.lt_or_ge s.clock l with hl | hl
      · rcases Nat.lt_or_ge l wake with hw | hw
        · rw [within_wait_of_lt hl hw]
          exact ⟨h.1, hP s l h.1 (Nat.le_of_lt hl), l, rfl, Nat.le_refl l⟩
        · rw [within_wait_of_le hl hw]
          exact ⟨h.1, ih h.2⟩
      · rw [within_wait_of_over hl]
        exact ⟨h.1, l, rfl, hl⟩
  | stuck s =>
    cases limit with
    | none => exact h
    | some l =>
      rcases Nat.lt_or_ge s.clock l with hl | hl
      · rw [within_stuck_of_lt hl]
        exact ⟨h, hP s l h (Nat.le_of_lt hl), l, rfl, Nat.le_refl l⟩
      · rw [within_stuck_of_over hl]
        exact ⟨h, l, rfl, hl⟩

theorem Along.of_end? {c : Course α} (h : c.Along P Q) {a : α} {s : Session}
    (he : c.end? = some (a, s)) : Q a s := by
  induction c with
  | done a' s' =>
    cases he
    exact h
  | wait s' wake rest ih => exact ih h.2 he
  | stuck s' => cases he

end Course

/-! ## Leaving the timer alone -/

/-- Whether a session comes after another one with the same timer. -/
structure Session.Follows (s s' : Session) : Prop where
  timer : s'.timer = s.timer
  clock : s.clock ≤ s'.clock

namespace Session

variable {s s' s'' : Session}

theorem Follows.refl (s : Session) : s.Follows s := ⟨rfl, Nat.le_refl _⟩

theorem Follows.trans (h : s.Follows s') (h' : s'.Follows s'') : s.Follows s'' :=
  ⟨h'.timer.trans h.timer, Nat.le_trans h.clock h'.clock⟩

theorem Follows.moveTo (h : s.Follows s') {now : Nat} (hnow : s'.clock ≤ now) :
    s.Follows (s'.moveTo now) :=
  ⟨h.timer, Nat.le_trans h.clock hnow⟩

end Session

namespace Course

variable {α β : Type}

/-- Whether a course that begins at a session leaves the timer alone and the clock in order:
it waits for no instant that is over. -/
def Orderly (s₀ : Session) : Course α → Prop
  | done _ s => s₀.Follows s
  | wait s wake rest => s₀.Follows s ∧ s.clock ≤ wake ∧ rest.Orderly (s.moveTo wake)
  | stuck s => s₀.Follows s

namespace Orderly

variable {s₀ s : Session} {c : Course α}

/-- A course may be seen as one that began before. -/
theorem follows (h : c.Orderly s) (hs : s₀.Follows s) : c.Orderly s₀ := by
  cases c with
  | done a s' => exact hs.trans h
  | wait s' wake rest => exact ⟨hs.trans h.1, h.2⟩
  | stuck s' => exact hs.trans h

theorem bind {next : α → Session → Course β} (h : c.Orderly s₀)
    (hnext : ∀ a s, (next a s).Orderly s) : (c.bind next).Orderly s₀ := by
  induction c generalizing s₀ with
  | done a s => exact (hnext a s).follows h
  | wait s wake rest ih => exact ⟨h.1, h.2.1, ih h.2.2⟩
  | stuck s => exact h

theorem along (h : c.Orderly s₀) : c.Along s₀.Follows fun _ => s₀.Follows := by
  induction c generalizing s₀ with
  | done a s => exact h
  | wait s wake rest ih =>
    have hmoved : s₀.Follows (s.moveTo wake) := h.1.moveTo h.2.1
    exact ⟨h.1, (ih h.2.2).imp (fun _ => hmoved.trans) fun _ _ => hmoved.trans⟩
  | stuck s => exact h

end Orderly

end Course

namespace Op

variable {α β : Type}

/-- Whether an operation leaves the timer alone and the clock in order, however far it
comes. -/
def LeavesTimer (op : Op α) : Prop := ∀ s, (op.course s).Along s.Follows fun _ => s.Follows

/-- Whether an operation takes an orderly course from every session. -/
def Orderly (op : Op α) : Prop := ∀ s, (op.course s).Orderly s

namespace Orderly

theorem leavesTimer {op : Op α} (h : op.Orderly) : op.LeavesTimer := fun s => (h s).along

theorem pure (a : α) : (pure a : Op α).Orderly := fun s => .refl s

theorem get : Op.get.Orderly := fun s => .refl s

theorem bind {op : Op α} {next : α → Op β} (h : op.Orderly)
    (hnext : ∀ a, (next a).Orderly) : (op >>= next).Orderly :=
  fun s => (h s).bind fun a s' => hnext a s'

theorem modify {f : Session → Session} (h : ∀ s : Session, s.Follows (f s)) :
    (Op.modify f).Orderly :=
  fun s => h s

theorem record (e : Event) : (Op.record e).Orderly := modify fun _ => ⟨rfl, Nat.le_refl _⟩

theorem setStream (stream : Option Connection) : (Op.setStream stream).Orderly :=
  modify fun _ => ⟨rfl, Nat.le_refl _⟩

theorem never : (Op.never : Op α).Orderly := fun s => .refl s

theorem sleep (millis : Nat) : (Op.sleep millis).Orderly :=
  fun s => ⟨.refl s, Nat.le_add_right .., .refl _⟩

theorem ready (after : Option Nat) (a : α) : (Op.ready after a).Orderly := by
  unfold Op.ready
  split
  · exact never
  · exact pure a
  · exact (sleep _).bind fun _ => pure a

/-! ### The socket -/

theorem close : Op.close.Orderly := by
  unfold Op.close
  refine get.bind fun s => ?_
  split
  · exact pure ()
  · exact (record _).bind fun _ => modify fun _ => ⟨rfl, Nat.le_refl _⟩

theorem withStream (f : Connection → Except IoError α × Connection) :
    (Op.withStream f).Orderly := by
  unfold Op.withStream
  refine get.bind fun s => ?_
  split
  · exact pure _
  · exact (setStream _).bind fun _ => pure _

theorem meet (endpoint : Endpoint) : (Op.meet endpoint).Orderly := by
  intro s
  have hs : s.Follows s := .refl s
  unfold Op.meet
  dsimp only
  split
  · exact hs
  · exact hs
  · exact ⟨hs, Nat.le_refl _, ⟨rfl, Nat.le_refl _⟩⟩
  · exact ⟨⟨rfl, Nat.le_refl _⟩, Nat.le_refl _, ⟨rfl, Nat.le_refl _⟩⟩

theorem connectTo (endpoint : Endpoint) : (Op.connectTo endpoint).Orderly :=
  get.bind fun _ => (ready _ _).bind fun _ => meet endpoint

theorem connectFirst (last : IoError) (endpoints : List Endpoint) :
    (Op.connectFirst last endpoints).Orderly := by
  induction endpoints generalizing last with
  | nil => exact pure _
  | cons endpoint rest ih =>
    refine (connectTo endpoint).bind fun result => ?_
    cases result with
    | ok u => exact pure _
    | error e => exact (record _).bind fun _ => ih e

theorem connect (endpoints : List Endpoint) : (Op.connect endpoints).Orderly :=
  close.bind fun _ => connectFirst _ endpoints

end Orderly

/-- Waiting among instants that are in order, and none of them over. -/
theorem orderly_awaitAmong (isReady : Connection → Bool) (wakes : List Nat) (s : Session)
    (hp : (s.clock :: wakes).Pairwise (· ≤ ·)) :
    ((awaitAmong isReady wakes).course s).Orderly s := by
  induction wakes generalizing s with
  | nil =>
    refine Orderly.get.bind (fun s' => ?_) s
    split
    · exact .pure ()
    · split
      · exact .pure ()
      · exact .never
  | cons wake rest ih =>
    have hs : s.Follows s := .refl s
    rcases hstream : s.stream with _ | c
    · have hc : (awaitAmong isReady (wake :: rest)).course s = .done () s := by
        simp [awaitAmong, hstream, Course.bind]
      rw [hc]
      exact hs
    · rcases hr : isReady c with _ | _
      · rw [course_awaitAmong_cons hstream hr]
        exact ⟨hs, List.rel_of_pairwise_cons hp (.head _), ih (s.moveTo wake) hp.of_cons⟩
      · rw [course_awaitAmong_of_ready hstream hr]
        exact hs

namespace Orderly

theorem awaitReady (isReady : Connection → Bool) : (Op.awaitReady isReady).Orderly := by
  intro s
  have hs : s.Follows s := .refl s
  rcases hstream : s.stream with _ | c
  · have hc : (Op.awaitReady isReady).course s = .done () s := by
      simp [Op.awaitReady, hstream, Course.bind]
    rw [hc]
    exact hs
  · rcases hr : isReady c with _ | _
    · have hc : (Op.awaitReady isReady).course s = .wait s s.clock
          ((awaitAmong isReady (c.advance s.clock).wakeups).course (s.moveTo s.clock)) := by
        simp [Op.awaitReady, Op.sleep, sleepUntil, hstream, hr, Course.bind]
      rw [hc]
      exact ⟨hs, Nat.le_refl _, orderly_awaitAmong isReady _ (s.moveTo s.clock)
        (Connection.pairwise_instants s.clock c)⟩
    · have hc : (Op.awaitReady isReady).course s = .done () s := by
        simp [Op.awaitReady, hstream, hr, Course.bind]
      rw [hc]
      exact hs

theorem readExact (count : Nat) : (Op.readExact count).Orderly :=
  (awaitReady _).bind fun _ => withStream _

theorem write (bytes : List UInt8) : (Op.write bytes).Orderly :=
  (awaitReady _).bind fun _ => withStream _

theorem writeRest (bytes : List UInt8) (written : Nat) :
    (Op.writeRest written bytes).Orderly := by
  induction bytes generalizing written with
  | nil => cases written <;> exact withStream _
  | cons b bytes ih =>
    cases written with
    | zero =>
      refine (write (b :: bytes)).bind fun result => ?_
      match result with
      | .error e => exact pure _
      | .ok 0 => exact pure _
      | .ok (written + 1) => exact ih written
    | succ written => exact ih written

theorem writeAll (bytes : List UInt8) : (Op.writeAll bytes).Orderly := writeRest bytes 0

end Orderly

/-- Giving up leaves the timer alone. -/
theorem LeavesTimer.giveUpAt {op : Op α} (h : op.LeavesTimer) (limit : Option Nat) :
    (op.giveUpAt limit).LeavesTimer := by
  intro s
  refine ((h s).within (fun _ _ hs hnow => hs.moveTo hnow) limit).imp (fun _ => id)
    fun found s' hs => ?_
  cases found with
  | none => exact hs.1
  | some a => exact hs

end Op

end ProxyDial
