import ProxyDial.Network.Connection

/-!
# Following scripts

A server follows its script by itself, and `Connection.advance` says how far it has
come at an instant.  An action is done or it is held up, and `Blocked` lists the ways
of being held up together with what is left of the action then.

*Keeping.*  A server neither changes what the client has sent nor whose connection it
is (`clientSide_advance`).

*Writing.*  A client that waits until it can write gets on (`write_of_isWritable`).

*Looking.*  What is left of an action goes on as the action would have
(`Blocked.perform_resume`).  So a server comes equally far however often it is looked
at on the way (`advance_advance`).

*Seeing.*  A client that only reads sees the bytes that lie with it and how they end,
the `view` of the connection.  Between two instants at which a wait of the script ends
the view does not change (`view_follow_eq`), and from instant to instant it only grows
(`grows_advance_of_le`).
-/

namespace ProxyDial

namespace Connection

variable {now later : Nat}

/-! ## Actions that are held up -/

/-- The connection when the script has read all that there is and waits for more. -/
def drained (now : Nat) (c : Connection) : Connection :=
  { c.receive c.toServer [] with since := now }

theorem throughNul_of_not_found {bs : List UInt8} (h : (throughNul bs).2.2 = false) :
    throughNul bs = (bs, [], false) := by
  induction bs with
  | nil => rfl
  | cons b bs ih =>
    by_cases hb : b = 0
    · simp [throughNul, hb] at h
    · simp only [throughNul, hb, if_false] at h ⊢
      rw [ih h]

/-- How an action can be held up.  `Blocked now c a c' a'` says that of the action `a` the
action `a'` is left. -/
inductive Blocked (now : Nat) (c : Connection) : Action → Connection → Action → Prop where
  | wait {millis : Nat} (h : now < c.since + millis) : Blocked now c (.wait millis) c (.wait millis)
  | read {count : Nat} (ended : c.clientEnded = false) (h : c.toServer.length < count) :
      Blocked now c (.read count) (c.drained now) (.read (count - c.toServer.length))
  | readThroughNul (ended : c.clientEnded = false)
      (h : throughNul c.toServer = (c.toServer, [], false)) :
      Blocked now c .readThroughNul (c.drained now) .readThroughNul
  | echo {count : Nat} {got : List UInt8} (ended : c.clientEnded = false)
      (h : c.toServer.length < count) :
      Blocked now c (.echo count got) (c.drained now)
        (.echo (count - c.toServer.length) (got ++ c.toServer))

theorem blocked_of_perform {c c' : Connection} {a a' : Action}
    (hp : perform now c a = (c', some a')) : Blocked now c a c' a' := by
  cases a with
  | read count =>
    simp only [perform] at hp
    split at hp
    · cases hp
    · rename_i hn
      simp only [not_or, List.length_take, Bool.not_eq_true] at hn
      have hl : c.toServer.length < count := by omega
      rw [List.take_of_length_le (Nat.le_of_lt hl), List.drop_of_length_le (Nat.le_of_lt hl)] at hp
      cases hp
      exact .read hn.2 hl
  | readThroughNul =>
    simp only [perform] at hp
    split at hp
    · cases hp
    · rename_i hn
      simp only [not_or, Bool.not_eq_true] at hn
      have hf := throughNul_of_not_found hn.1
      rw [hf] at hp
      cases hp
      exact .readThroughNul hn.2 hf
  | write bytes => cases hp
  | echo count got =>
    simp only [perform] at hp
    split at hp
    · cases hp
    · rename_i hn
      simp only [not_or, List.length_take, Bool.not_eq_true] at hn
      have hl : c.toServer.length < count := by omega
      rw [List.take_of_length_le (Nat.le_of_lt hl), List.drop_of_length_le (Nat.le_of_lt hl)] at hp
      cases hp
      exact .echo hn.2 hl
  | wait millis =>
    simp only [perform] at hp
    split at hp
    · cases hp
    · cases hp
      exact .wait (by omega)
  | close => cases hp
  | reset => cases hp

theorem Blocked.perform_eq {c c' : Connection} {a a' : Action} (hb : Blocked now c a c' a') :
    perform now c a = (c', some a') := by
  cases hb with
  | wait h => rw [perform, if_neg (by omega)]
  | read ended h =>
    have hl := Nat.le_of_lt h
    simp only [perform, List.take_of_length_le hl, List.drop_of_length_le hl, ended]
    rw [if_neg (by simp; omega)]
    rfl
  | readThroughNul ended h =>
    simp only [perform, h, ended]
    rfl
  | echo ended h =>
    have hl := Nat.le_of_lt h
    simp only [perform, List.take_of_length_le hl, List.drop_of_length_le hl, ended]
    rw [if_neg (by simp; omega)]
    rfl

theorem drained_drained (c : Connection) : (c.drained now).drained later = c.drained later := by
  simp [drained, receive]

/-- What is left of an action goes on as the action would have. -/
theorem Blocked.perform_resume {c c' : Connection} {a a' : Action} (hb : Blocked now c a c' a') :
    perform later c' a' = perform later c a := by
  cases hb with
  | wait h => rfl
  | @read count ended h =>
    have hr : Blocked later (c.drained now) (.read (count - c.toServer.length))
        ((c.drained now).drained later) (.read (count - c.toServer.length - 0)) :=
      .read ended (show 0 < count - c.toServer.length by omega)
    rw [hr.perform_eq, (Blocked.read ended h).perform_eq, drained_drained, Nat.sub_zero]
  | readThroughNul ended h =>
    have hr : Blocked later (c.drained now) .readThroughNul ((c.drained now).drained later)
        .readThroughNul := .readThroughNul ended rfl
    rw [hr.perform_eq, (Blocked.readThroughNul ended h).perform_eq, drained_drained]
  | @echo count got ended h =>
    have hr : Blocked later (c.drained now) (.echo (count - c.toServer.length) (got ++ c.toServer))
        ((c.drained now).drained later)
        (.echo (count - c.toServer.length - 0) (got ++ c.toServer ++ [])) :=
      .echo ended (show 0 < count - c.toServer.length by omega)
    rw [hr.perform_eq, (Blocked.echo ended h).perform_eq, drained_drained, Nat.sub_zero,
      List.append_nil]

/-! ## Looking -/

theorem perform_withScript (now : Nat) (c : Connection) (script : List Action) (a : Action) :
    perform now { c with script } a =
      ({ (perform now c a).1 with script }, (perform now c a).2) := by
  cases a with
  | read count => simp only [perform, receive]; split <;> rfl
  | readThroughNul => simp only [perform, receive]; split <;> rfl
  | write bytes => simp only [perform, send]; split <;> rfl
  | echo count got =>
    simp only [perform, receive]
    split
    · simp only [send]; split <;> rfl
    · rfl
  | wait millis => simp only [perform]; split <;> rfl
  | close => simp only [perform]; split <;> rfl
  | reset => rfl

/-- Following actions does not look at the script, which it replaces. -/
theorem follow_withScript (now : Nat) (script rest : List Action) (c : Connection) :
    follow now { c with script } rest = follow now c rest := by
  induction rest generalizing c with
  | nil => rfl
  | cons a rest ih =>
    simp only [follow, perform_withScript]
    rcases perform now c a with ⟨c', _ | a'⟩
    · simp only
      split
      · rfl
      · exact ih c'
    · rfl

theorem perform_of_done {c c' : Connection} {a : Action} (h : now ≤ later)
    (hd : perform now c a = (c', none)) : perform later c a = (c', none) := by
  cases a with
  | read count => simp only [perform] at hd ⊢; split at hd <;> simp_all
  | readThroughNul => simp only [perform] at hd ⊢; split at hd <;> simp_all
  | write bytes => exact hd
  | echo count got => simp only [perform] at hd ⊢; split at hd <;> simp_all
  | wait millis =>
    simp only [perform] at hd ⊢
    split at hd
    · rename_i hw
      rw [if_pos (by omega)]
      exact hd
    · cases hd
  | close => exact hd
  | reset => exact hd

theorem Blocked.ne_reset {c c' : Connection} {a a' : Action} (hb : Blocked now c a c' a') :
    a ≠ .reset ∧ a' ≠ .reset := by
  cases hb <;> simp

theorem advance_follow (h : now ≤ later) (c : Connection) (script : List Action) :
    (follow now c script).advance later = follow later c script := by
  induction script generalizing c with
  | nil => rfl
  | cons a rest ih =>
    rcases hp : perform now c a with ⟨c', _ | a'⟩
    · simp only [follow, hp, perform_of_done h hp]
      split
      · rfl
      · exact ih c'
    · have hb := blocked_of_perform hp
      have hf : follow now c (a :: rest) = { c' with script := a' :: rest } := by
        simp only [follow, hp]
      rw [hf, advance, follow_withScript]
      simp only [follow, hb.perform_resume, if_neg hb.ne_reset.1, if_neg hb.ne_reset.2]

/-- It makes no difference to a server how often it is looked at. -/
theorem advance_advance (h : now ≤ later) (c : Connection) :
    (c.advance now).advance later = c.advance later := advance_follow h c c.script

/-! ## What a server leaves as it is -/

/-- The bytes that the client has sent. -/
def sent (c : Connection) : List UInt8 := c.received ++ c.toServer

/-- Whose connection it is, what the client has done with it and what it holds. -/
def clientSide (c : Connection) : Endpoint × Nat × Bool × List UInt8 × Option Nat :=
  (c.peer, c.ordinal, c.clientEnded, c.sent, c.capacity)

theorem throughNul_append (bs : List UInt8) : (throughNul bs).1 ++ (throughNul bs).2.1 = bs := by
  induction bs with
  | nil => rfl
  | cons b bs ih =>
    by_cases hb : b = 0
    · simp [throughNul, hb]
    · simp only [throughNul, hb, if_false, List.cons_append, ih]

theorem clientSide_receive {c : Connection} {taken rest : List UInt8}
    (h : taken ++ rest = c.toServer) : (c.receive taken rest).clientSide = c.clientSide := by
  simp only [clientSide, sent, receive, List.append_assoc, h]

theorem clientSide_send (c : Connection) (bytes : List UInt8) :
    (c.send bytes).clientSide = c.clientSide := by
  unfold send
  split <;> rfl

theorem clientSide_perform (now : Nat) (c : Connection) (a : Action) :
    (perform now c a).1.clientSide = c.clientSide := by
  cases a with
  | read count =>
    have hr := clientSide_receive (c := c) (List.take_append_drop count c.toServer)
    simp only [perform]
    split <;> exact hr
  | readThroughNul =>
    have hr := clientSide_receive (c := c) (throughNul_append c.toServer)
    simp only [perform]
    split <;> exact hr
  | write bytes => exact clientSide_send c bytes
  | echo count got =>
    have hr := clientSide_receive (c := c) (List.take_append_drop count c.toServer)
    simp only [perform]
    split
    · exact (clientSide_send _ _).trans hr
    · exact hr
  | wait millis => simp only [perform]; split <;> rfl
  | close => simp only [perform]; split <;> rfl
  | reset => rfl

theorem clientSide_follow (now : Nat) (c : Connection) (script : List Action) :
    (follow now c script).clientSide = c.clientSide := by
  induction script generalizing c with
  | nil => rfl
  | cons a rest ih =>
    have hp := clientSide_perform now c a
    simp only [follow]
    split
    · rename_i c' a' he
      rw [he] at hp
      exact hp
    · rename_i c' he
      rw [he] at hp
      split
      · exact hp
      · exact (ih c').trans hp

theorem clientSide_advance (now : Nat) (c : Connection) :
    (c.advance now).clientSide = c.clientSide := clientSide_follow now c c.script

@[simp]
theorem peer_advance (now : Nat) (c : Connection) : (c.advance now).peer = c.peer :=
  congrArg Prod.fst (clientSide_advance now c)

@[simp]
theorem ordinal_advance (now : Nat) (c : Connection) : (c.advance now).ordinal = c.ordinal :=
  congrArg (·.2.1) (clientSide_advance now c)

@[simp]
theorem clientEnded_advance (now : Nat) (c : Connection) :
    (c.advance now).clientEnded = c.clientEnded :=
  congrArg (·.2.2.1) (clientSide_advance now c)

@[simp]
theorem sent_advance (now : Nat) (c : Connection) : (c.advance now).sent = c.sent :=
  congrArg (·.2.2.2.1) (clientSide_advance now c)

@[simp]
theorem capacity_advance (now : Nat) (c : Connection) : (c.advance now).capacity = c.capacity :=
  congrArg (·.2.2.2.2) (clientSide_advance now c)

/-! ## Writing -/

/-- What fits are the first ones of the bytes. -/
theorem fitting_eq_take (bytes : List UInt8) (c : Connection) :
    c.fitting bytes = bytes.take (c.fitting bytes).length := by
  unfold fitting
  split
  · exact (List.take_length (l := bytes)).symm
  · simp [List.take_eq_take_iff]

/-- Bytes are written as long as the connection takes any, as many as there is room for. -/
theorem eq_of_write {c c' : Connection} {bytes : List UInt8} {count : Nat}
    (h : c.write bytes = (.ok count, c')) :
    (c.ending = .waiting ∨ c.ending = .ended) ∧ c.clientEnded = false ∧
      c.fitting bytes = bytes.take count ∧
      c' = { c with toServer := c.toServer ++ bytes.take count } := by
  have htaken {c' : Connection} (hopen : c.ending = .waiting ∨ c.ending = .ended)
      (h : (if c.clientEnded then (.error .brokenPipe, c) else
        (.ok (c.fitting bytes).length, { c with toServer := c.toServer ++ c.fitting bytes })) =
          ((.ok count, c') : Except IoError Nat × Connection)) :
      (c.ending = .waiting ∨ c.ending = .ended) ∧ c.clientEnded = false ∧
        c.fitting bytes = bytes.take count ∧
        c' = { c with toServer := c.toServer ++ bytes.take count } := by
    split at h
    · cases h
    · rename_i hn
      cases h
      have hfits := c.fitting_eq_take bytes
      exact ⟨hopen, by simpa using hn, hfits, congrArg
        (fun more => ({ c with toServer := c.toServer ++ more } : Connection)) hfits⟩
  unfold write at h
  split at h
  · cases h
  · cases h
  · rename_i he
    exact htaken (.inl he) h
  · rename_i he
    exact htaken (.inr he) h

/-- A client that waits to write writes a byte at least, or it finds that the connection takes
none any more. -/
theorem write_of_isWritable {c c' : Connection} {bytes : List UInt8} {count : Nat}
    (hready : c.isWritable) (hne : bytes ≠ []) (h : c.write bytes = (.ok count, c')) :
    0 < count := by
  obtain ⟨hopen, hclient, hfits, -⟩ := eq_of_write h
  have hroom : c.hasRoom := by
    rcases hopen with he | he <;> simpa [isWritable, hclient, he] using hready
  refine Nat.pos_of_ne_zero fun hzero => ?_
  rw [hzero, List.take_zero] at hfits
  unfold fitting at hfits
  split at hfits
  · exact hne hfits
  · rename_i most hmost
    rw [hasRoom, hmost, Option.all_some, decide_eq_true_eq] at hroom
    rcases List.take_eq_nil_iff.1 hfits with hnone | hnil
    · omega
    · exact hne hnil

/-- The network has room for so many bytes more. -/
def HasRoomFor (count : Nat) (c : Connection) : Prop :=
  ∀ most ∈ c.capacity, c.toServer.length + count ≤ most

/-- A connection on which nothing was sent has all the room there is. -/
theorem hasRoomFor_of_unused {c : Connection} {count : Nat} (hc : c.sent = [])
    (h : ∀ most ∈ c.capacity, count ≤ most) : c.HasRoomFor count := by
  have hempty : c.toServer = [] := (List.append_eq_nil_iff.1 hc).2
  intro most hmost
  rw [hempty, List.length_nil, Nat.zero_add]
  exact h most hmost

theorem fitting_of_hasRoomFor {c : Connection} {bytes : List UInt8}
    (h : c.HasRoomFor bytes.length) : c.fitting bytes = bytes := by
  unfold fitting
  split
  · rfl
  · rename_i most hmost
    have hle := h most hmost
    exact List.take_of_length_le (by omega)

theorem isWritable_of_hasRoomFor {c : Connection} {count : Nat} (h : c.HasRoomFor (count + 1)) :
    c.isWritable := by
  have hroom : c.hasRoom := by
    rw [hasRoom, Option.all_eq_true]
    intro most hmost
    have hle := h most hmost
    exact decide_eq_true (by omega)
  simp [isWritable, hroom]

/-! ## Seeing -/

/-- What a client that does not write can tell about a connection. -/
def view (c : Connection) : List UInt8 × Ending := (c.toClient, c.ending)

theorem Blocked.view_eq {c c' : Connection} {a a' : Action} (hb : Blocked now c a c' a') :
    c'.view = c.view := by
  cases hb <;> rfl

theorem waitEnds_ge (since : Nat) (script : List Action) :
    ∀ wake ∈ waitEnds since script, since ≤ wake := by
  induction script generalizing since with
  | nil => intro wake hw; cases hw
  | cons a rest ih =>
    cases a with
    | wait millis =>
      intro wake hw
      simp only [waitEnds, List.mem_cons] at hw
      rcases hw with rfl | hw
      · omega
      · have := ih _ wake hw
        omega
    | _ => exact ih since

theorem waitEnds_of_done {c c' : Connection} {a : Action} (hd : perform now c a = (c', none))
    (rest : List Action) :
    ∀ wake ∈ waitEnds c'.since rest, wake ∈ waitEnds c.since (a :: rest) := by
  cases a with
  | read count =>
    simp only [perform] at hd; split at hd <;> cases hd; exact fun _ h => h
  | readThroughNul =>
    simp only [perform] at hd; split at hd <;> cases hd; exact fun _ h => h
  | write bytes =>
    simp only [perform, send] at hd; split at hd <;> cases hd <;> exact fun _ h => h
  | echo count got =>
    simp only [perform, send] at hd
    split at hd
    · split at hd <;> cases hd <;> exact fun _ h => h
    · cases hd
  | wait millis =>
    simp only [perform] at hd; split at hd <;> cases hd; exact fun _ h => .tail _ h
  | close =>
    simp only [perform] at hd; split at hd <;> cases hd <;> exact fun _ h => h
  | reset => cases hd; exact fun _ h => h

/-- Nothing changes for the client between two instants at which the server wakes. -/
theorem view_follow_eq (h : now ≤ later) (c : Connection) (script : List Action)
    (hw : ∀ wake ∈ waitEnds c.since script, wake ≤ later → wake ≤ now) :
    (follow later c script).view = (follow now c script).view := by
  induction script generalizing c with
  | nil => rfl
  | cons a rest ih =>
    rcases hp : perform now c a with ⟨c', _ | a'⟩
    · simp only [follow, hp, perform_of_done h hp]
      split
      · rfl
      · exact ih c' fun wake hm => hw wake (waitEnds_of_done hp rest wake hm)
    · have hb := blocked_of_perform hp
      have hl : ∃ c'', Blocked later c a c'' a' := by
        cases hb with
        | @wait millis hn =>
          have := hw (c.since + millis) (.head _)
          exact ⟨c, .wait (by omega)⟩
        | read ended hn => exact ⟨_, .read ended hn⟩
        | readThroughNul ended hn => exact ⟨_, .readThroughNul ended hn⟩
        | echo ended hn => exact ⟨_, .echo ended hn⟩
      obtain ⟨c'', hl⟩ := hl
      simp only [follow, hp, hl.perform_eq]
      exact hl.view_eq.trans hb.view_eq.symm

/-- What comes to the client is added to what lies there, and an end of the stream
stays one. -/
structure Grows (c c' : Connection) : Prop where
  more : ∃ bytes, c'.toClient = c.toClient ++ bytes
  ended : c.hasEnded → c'.hasEnded ∧ c'.toClient = c.toClient

theorem Grows.of_view {c c' : Connection} (h : c'.view = c.view) : c.Grows c' := by
  obtain ⟨hb, he⟩ := Prod.ext_iff.1 h
  simp only [view] at hb he
  refine ⟨⟨[], by simp [hb]⟩, fun h => ⟨?_, hb⟩⟩
  simpa only [hasEnded, he] using h

theorem Grows.trans {c c' c'' : Connection} (h : c.Grows c') (h' : c'.Grows c'') : c.Grows c'' := by
  refine ⟨?_, fun he => ?_⟩
  · obtain ⟨bytes, hb⟩ := h.more
    obtain ⟨bytes', hb'⟩ := h'.more
    exact ⟨bytes ++ bytes', by rw [hb', hb, List.append_assoc]⟩
  · obtain ⟨he', hb⟩ := h.ended he
    obtain ⟨he'', hb'⟩ := h'.ended he'
    exact ⟨he'', hb'.trans hb⟩

theorem grows_send (c : Connection) (bytes : List UInt8) : c.Grows (c.send bytes) := by
  unfold send
  split
  · rename_i hw
    exact ⟨⟨bytes, rfl⟩, fun he => absurd hw (by simpa [hasEnded] using he)⟩
  · exact .of_view rfl

theorem grows_perform (now : Nat) (c : Connection) (a : Action) : c.Grows (perform now c a).1 := by
  cases a with
  | read count => simp only [perform]; split <;> exact .of_view rfl
  | readThroughNul => simp only [perform]; split <;> exact .of_view rfl
  | write bytes => exact grows_send c bytes
  | echo count got =>
    simp only [perform]
    split
    · have hr : c.Grows (c.receive (c.toServer.take count) (c.toServer.drop count)) := .of_view rfl
      exact hr.trans (grows_send _ _)
    · exact .of_view rfl
  | wait millis => simp only [perform]; split <;> exact .of_view rfl
  | close =>
    simp only [perform]
    split
    · rename_i hw
      exact ⟨⟨[], by simp⟩, fun _ => ⟨rfl, rfl⟩⟩
    · exact .of_view rfl
  | reset =>
    refine ⟨⟨[], by simp [perform]⟩, fun _ => ⟨?_, rfl⟩⟩
    simp only [perform, hasEnded]
    split <;> rfl

theorem grows_follow (now : Nat) (c : Connection) (script : List Action) :
    c.Grows (follow now c script) := by
  induction script generalizing c with
  | nil => exact .of_view rfl
  | cons a rest ih =>
    have hg := grows_perform now c a
    simp only [follow]
    split
    · rename_i c' a' hp
      rw [hp] at hg
      exact hg.trans (.of_view rfl)
    · rename_i c' hp
      rw [hp] at hg
      split
      · exact hg.trans (.of_view rfl)
      · exact hg.trans (ih c')

theorem grows_advance (now : Nat) (c : Connection) : c.Grows (c.advance now) :=
  grows_follow now c c.script

theorem grows_advance_of_le (h : now ≤ later) (c : Connection) :
    (c.advance now).Grows (c.advance later) := by
  rw [← advance_advance h]
  exact grows_advance later _

end Connection

end ProxyDial
