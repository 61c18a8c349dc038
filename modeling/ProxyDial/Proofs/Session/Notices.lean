import ProxyDial.Proofs.Session.Sending

/-!
# What a session reports

Most events of a session are details for those who look for a fault.  The others are its
*notices* (`Event.isNotice`).  Work on the socket and on the timer gives details alone, so it
leaves the notices as they are (`Op.Connects.notices_eq`, `Op.Reads.notices_eq`,
`Op.Writes.notices_eq`).  Whatever is read off the notices follows without another look at the runs.
-/

namespace ProxyDial

/-- Whether an event is more than a detail. -/
def Event.isNotice (e : Event) : Bool := e.level.rank ≤ Level.info.rank

namespace Session

/-- What a session has reported, oldest first. -/
def notices (s : Session) : List Event := s.log.filter Event.isNotice

variable (s : Session) {e : Event}

theorem notices_congr {s s' : Session} (h : s'.log = s.log) : s'.notices = s.notices := by
  rw [notices, h, notices]

theorem notices_record_of_notice (he : e.isNotice) : (s.record e).notices = s.notices ++ [e] := by
  simp [notices, record, he]

theorem notices_record_of_detail (he : e.isNotice = false) :
    (s.record e).notices = s.notices := by
  simp [notices, record, he]

@[simp] theorem notices_later (millis : Nat) : (s.later millis).notices = s.notices := by
  cases millis <;> rfl

@[simp] theorem notices_armed (d : Duration) : (s.armed d).notices = s.notices :=
  ({ s with timer := .arm s.clock d } : Session).notices_record_of_detail rfl

@[simp] theorem notices_expired : s.expired.notices = s.notices :=
  ({ s with timer := s.timer.expire } : Session).notices_record_of_detail rfl

@[simp] theorem notices_cancelled : s.cancelled.notices = s.notices := by
  unfold cancelled
  split
  · exact ({ s with timer := s.timer.cancel } : Session).notices_record_of_detail rfl
  · rfl

@[simp] theorem notices_closed : s.closed.notices = s.notices := by
  unfold closed
  split
  · rfl
  · rename_i c _
    exact s.notices_record_of_detail (e := .closing c.remote?) rfl

end Session

namespace Op

variable {limit : Option Nat} {s s' : Session}

theorem Connects.notices_eq {last : IoError} {endpoints : List Endpoint}
    {o : Option (Option (Except IoError Endpoint)) × Session}
    (hc : Connects limit last endpoints s o) : o.2.notices = s.notices := by
  have hattempt {s : Session} {e : Endpoint} {o : Option (Option (Except IoError Unit)) × Session}
      (ha : Attempts limit s e o) : o.2.notices = s.notices := Session.notices_congr ha.quiet.1
  induction hc with
  | exhausted => rfl
  | @refused _ _ _ _ _ s' _ ha _ ih =>
    have hnotices := hattempt ha
    exact ih.trans ((s'.notices_record_of_detail rfl).trans hnotices)
  | accepted ha => exact hattempt ha
  | late ha => exact hattempt ha
  | never ha => exact hattempt ha

theorem Reads.notices_eq {α : Type} {isReady : Connection → Bool} {c : Connection}
    {take : Connection → Except IoError α × Connection}
    {o : Option (Option (Except IoError α)) × Session} (hr : Reads isReady take limit s c o) :
    o.2.notices = s.notices :=
  Session.notices_congr hr.quiet.1

theorem Writes.notices_eq {bytes : List UInt8} {c : Connection}
    {o : Option (Option (Except IoError Unit)) × Session} (hw : Writes limit bytes s c o) :
    o.2.notices = s.notices :=
  Session.notices_congr hw.quiet.1

end Op

end ProxyDial
