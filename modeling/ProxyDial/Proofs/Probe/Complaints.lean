import ProxyDial.Proofs.Connect.Traces
import ProxyDial.Proofs.Handshake.Warnings

/-!
# Complaints

A program that uses a session may report errors in the log, its complaints.  They are among what
the session reports (`Session.complaints_eq`).  A timed connect reports nothing and a handshake
warnings alone, so neither complains (`ConnectRequest.complaints_run`,
`HandshakeRequest.complaints_run`) and all complaints are the program's own.
-/

namespace ProxyDial

/-- The error that a program reports in an event. -/
def Event.complaint? : Event → Option String
  | said .error message => some message
  | _ => none

namespace Session

/-- The errors that a program has reported, oldest first. -/
def complaints (s : Session) : List String := s.log.filterMap Event.complaint?

variable (s : Session)

theorem mem_complaints_iff (message : String) :
    message ∈ s.complaints ↔ .said .error message ∈ s.log := by
  rw [complaints, List.mem_filterMap]
  constructor
  · rintro ⟨e, he, hm⟩
    cases e with
    | said level text =>
      cases level with
      | error =>
        cases hm
        exact he
      | _ => cases hm
    | _ => cases hm
  · intro h
    exact ⟨_, h, rfl⟩

theorem complaints_record (e : Event) :
    (s.record e).complaints = s.complaints ++ e.complaint?.toList := by
  rw [complaints, record, List.filterMap_append]
  cases he : e.complaint? <;> simp [complaints, he]

/-- Whatever a program does not report leaves its complaints as they are. -/
theorem complaints_record_of_eq_none {e : Event} (he : e.complaint? = none) :
    (s.record e).complaints = s.complaints := by
  rw [complaints_record, he, Option.toList_none, List.append_nil]

/-- A complaint is never a detail. -/
theorem complaints_eq : s.complaints = s.notices.filterMap Event.complaint? := by
  have hnotice (e : Event) : e.complaint? = if e.isNotice then e.complaint? else none := by
    cases e with
    | said level text => cases level <;> rfl
    | _ => exact (ite_self none).symm
  rw [complaints, notices, List.filterMap_filter, ← funext hnotice]

@[simp] theorem complaints_closed : s.closed.complaints = s.complaints := by
  rw [complaints_eq, notices_closed, ← complaints_eq]

end Session

namespace ConnectRequest

variable {q : ConnectRequest} {r : Resolver} {s : Session}

theorem notices_connecting (candidates : List Endpoint) (s : Session) :
    (q.connecting candidates s).notices = s.notices := by
  rw [connecting, Session.notices_closed, Session.notices_record_of_detail _ rfl,
    Session.notices_armed, Session.notices_record_of_detail _ rfl]

theorem notices_connected (e : Endpoint) (s : Session) :
    (q.connected e s).notices = s.notices := by
  rw [connected, Session.notices_record_of_detail _ rfl, Session.notices_record_of_detail _ rfl,
    Session.notices_cancelled]

theorem Leads.notices_eq {o : Option (Except DialError Unit) × Session} (hl : q.Leads r s o) :
    o.2.notices = s.notices := by
  have hfound {s' : Session} {found : Option (Except DialError (List Endpoint))}
      (hf : q.Finds r (q.resolving s) (found, s')) : s'.notices = s.notices := by
    obtain ⟨millis, rfl⟩ := hf.passed
    rw [Session.notices_later, resolving, Session.notices_record_of_detail _ rfl]
    rfl
  have hwalked {s' : Session} {candidates : List Endpoint}
      {o : Option (Option (Except IoError Endpoint)) × Session}
      (hf : q.Finds r (q.resolving s) (some (.ok candidates), s'))
      (hc : Op.Connects (q.connectLimit s'.clock) .noEndpoints candidates
        (q.connecting candidates s') o) : o.2.notices = s.notices :=
    hc.notices_eq.trans ((notices_connecting candidates s').trans (hfound hf))
  cases hl with
  | unanswered hf => exact hfound hf
  | noCandidates hf => simpa using hfound hf
  | failed hf hc => simpa using hwalked hf hc
  | late hf hc => simpa using hwalked hf hc
  | never hf hc => exact hwalked hf hc
  | connected hf hc => simpa [notices_connected] using hwalked hf hc

/-- A timed connect reports nothing. -/
theorem notices_run (q : ConnectRequest) (r : Resolver) (s : Session) :
    ((q.run r).outcome s).2.notices = s.notices :=
  (q.leads_run r s).notices_eq

theorem complaints_run (q : ConnectRequest) (r : Resolver) (s : Session) :
    ((q.run r).outcome s).2.complaints = s.complaints := by
  rw [Session.complaints_eq, notices_run, ← Session.complaints_eq]

end ConnectRequest

/-- A handshake complains of nothing. -/
theorem HandshakeRequest.complaints_run (q : HandshakeRequest) (r : Resolver) (s : Session) :
    ((q.run r).outcome s).2.complaints = s.complaints := by
  have hskipped : ((q.skips r s.isOpen).map (Event.skipped · q.host)).filterMap
      Event.complaint? = [] := by
    rw [List.filterMap_map]
    exact List.filterMap_eq_nil_iff.2 fun _ _ => rfl
  rw [Session.complaints_eq, notices_run, List.filterMap_append, hskipped, List.append_nil,
    ← Session.complaints_eq]

end ProxyDial
