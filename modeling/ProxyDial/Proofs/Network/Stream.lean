import ProxyDial.Proofs.Network.Script

/-!
# The stream to the client

What a server sends depends on what it reads, and on nothing else.  So all that the
client of a connection can ever read is known once it is known what the client will
send: it is the `stream` of the connection.  Time does not change it, since waits only
delay it (`stream_advance`), and what a read takes is taken from its front.

*Carrying.*  `Carries` says what lies between two states of a connection: the bytes
that the client has written, those that it has read, and those that a failed read has
lost.  It composes (`Carries.trans`).
-/

namespace ProxyDial

/-- All bytes that a script sends, if `input` is all that comes for it to read.  `ended`
tells whether the end of the input follows. -/
def Action.output (ended : Bool) : List UInt8 → List Action → List UInt8
  | _, [] => []
  | input, read count :: rest =>
    if count ≤ input.length ∨ ended then output ended (input.drop count) rest else []
  | input, readThroughNul :: rest =>
    if (Connection.throughNul input).2.2 ∨ ended then
      output ended (Connection.throughNul input).2.1 rest
    else []
  | input, write bytes :: rest => bytes ++ output ended input rest
  | input, echo count got :: rest =>
    if count ≤ input.length ∨ ended then
      got ++ input.take count ++ output ended (input.drop count) rest
    else []
  | input, wait _ :: rest => output ended input rest
  | _, close :: _ => []
  | _, reset :: _ => []

namespace Connection

/-- All bytes that the client can still read, if `input` is all that it still sends and
`ended` tells whether it ends its stream then. -/
def stream (input : List UInt8) (ended : Bool) (c : Connection) : List UInt8 :=
  c.toClient ++
    if c.ending = .waiting then Action.output ended (c.toServer ++ input) c.script else []

variable {now : Nat} {input : List UInt8} {ended : Bool}

theorem stream_of_ended {c : Connection} (he : c.hasEnded) : c.stream input ended = c.toClient := by
  have hw : c.ending ≠ .waiting := by simpa [hasEnded] using he
  rw [stream, if_neg hw, List.append_nil]

theorem stream_congr {c c' : Connection} (hclient : c'.toClient = c.toClient)
    (hending : c'.ending = c.ending)
    (hout : Action.output ended (c'.toServer ++ input) c'.script =
      Action.output ended (c.toServer ++ input) c.script) :
    c'.stream input ended = c.stream input ended := by
  rw [stream, stream, hclient, hout]
  simp only [hending]

/-! ## Time -/

theorem throughNul_append_of_found {bs : List UInt8} (h : (throughNul bs).2.2 = true)
    (input : List UInt8) :
    throughNul (bs ++ input) = ((throughNul bs).1, (throughNul bs).2.1 ++ input, true) := by
  induction bs with
  | nil => cases h
  | cons b bs ih =>
    by_cases hb : b = 0
    · simp [throughNul, hb]
    · simp only [throughNul, hb, if_false] at h
      simp [throughNul, hb, ih h]

theorem throughNul_append_of_not_found {bs : List UInt8} (h : (throughNul bs).2.2 = false)
    (input : List UInt8) : (throughNul (bs ++ input)).2 = (throughNul input).2 := by
  induction bs with
  | nil => rfl
  | cons b bs ih =>
    by_cases hb : b = 0
    · simp [throughNul, hb] at h
    · simp only [throughNul, hb, if_false] at h
      rw [List.cons_append, throughNul, if_neg hb]
      exact ih h

/-- What the client can still read if its next bytes are `script`'s. -/
theorem stream_send {c : Connection} (bytes : List UInt8) (script : List Action) :
    ({ c.send bytes with script } : Connection).stream input ended =
      c.toClient ++ if c.ending = .waiting then
        bytes ++ Action.output ended (c.toServer ++ input) script
      else [] := by
  unfold send
  by_cases hw : c.ending = .waiting
  · simp [hw, stream]
  · simp [hw, stream]

/-- Reading so many bytes takes them from what has come, or there is nothing to come. -/
theorem append_of_done {c : Connection} {count : Nat}
    (h : (c.toServer.take count).length = count ∨ c.clientEnded)
    (hend : c.clientEnded → input = [] ∧ ended = true) :
    (count ≤ (c.toServer ++ input).length ∨ ended = true) ∧
      (c.toServer ++ input).take count = c.toServer.take count ∧
      (c.toServer ++ input).drop count = c.toServer.drop count ++ input := by
  rcases h with h | h
  · have hl : count ≤ c.toServer.length := by
      rw [List.length_take] at h
      omega
    refine ⟨.inl ?_, List.take_append_of_le_length hl, List.drop_append_of_le_length hl⟩
    rw [List.length_append]
    omega
  · obtain ⟨rfl, he⟩ := hend h
    exact ⟨.inr he, by rw [List.append_nil], by rw [List.append_nil, List.append_nil]⟩

/-- An action that is done is taken from the script. -/
theorem stream_of_done {c c' : Connection} {a : Action} {rest : List Action}
    (hd : perform now c a = (c', none)) (hr : a ≠ .reset)
    (hend : c.clientEnded → input = [] ∧ ended = true) :
    ({ c' with script := rest } : Connection).stream input ended =
      ({ c with script := a :: rest } : Connection).stream input ended := by
  cases a with
  | read count =>
    simp only [perform] at hd
    split at hd
    · rename_i hdone
      cases hd
      obtain ⟨hcount, -, hdrop⟩ := append_of_done hdone hend
      refine stream_congr rfl rfl ?_
      rw [Action.output, if_pos hcount, hdrop]
      rfl
    · cases hd
  | readThroughNul =>
    simp only [perform] at hd
    split at hd
    · rename_i hdone
      cases hd
      refine stream_congr rfl rfl ?_
      rw [Action.output]
      rcases hdone with hfound | hclient
      · rw [throughNul_append_of_found hfound, if_pos (.inl rfl)]
        rfl
      · obtain ⟨rfl, he⟩ := hend hclient
        rw [if_pos (.inr he), List.append_nil, List.append_nil]
        rfl
    · cases hd
  | write bytes =>
    cases hd
    exact stream_send bytes rest
  | echo count got =>
    simp only [perform] at hd
    split at hd
    · rename_i hdone
      cases hd
      obtain ⟨hcount, htake, hdrop⟩ := append_of_done hdone hend
      rw [stream_send]
      simp only [stream, receive, Action.output]
      rw [if_pos hcount, htake, hdrop]
      rfl
    · cases hd
  | wait millis =>
    simp only [perform] at hd
    split at hd
    · cases hd
      rfl
    · cases hd
  | close =>
    simp only [perform] at hd
    cases hd
    by_cases hw : c.ending = .waiting
    · simp [hw, stream, Action.output]
    · simp [hw, stream]
  | reset => exact absurd rfl hr

/-- What is left of an action that is held up sends what the action would have sent. -/
theorem Blocked.stream_eq {c c' : Connection} {a a' : Action} (hb : Blocked now c a c' a')
    (rest : List Action) :
    ({ c' with script := a' :: rest } : Connection).stream input ended =
      ({ c with script := a :: rest } : Connection).stream input ended := by
  have hdrop {count : Nat} (h : c.toServer.length < count) :
      (c.toServer ++ input).drop count = input.drop (count - c.toServer.length) := by
    rw [List.drop_append, List.drop_of_length_le (Nat.le_of_lt h), List.nil_append]
  have htake {count : Nat} (h : c.toServer.length < count) :
      (c.toServer ++ input).take count =
        c.toServer ++ input.take (count - c.toServer.length) := by
    rw [List.take_append, List.take_of_length_le (Nat.le_of_lt h)]
  have hcount {count : Nat} (h : c.toServer.length < count) :
      count - c.toServer.length ≤ input.length ↔ count ≤ (c.toServer ++ input).length := by
    rw [List.length_append]
    omega
  cases hb with
  | wait h => rfl
  | @read count hended h =>
    refine stream_congr rfl rfl ?_
    show Action.output ended input (.read (count - c.toServer.length) :: rest) =
      Action.output ended (c.toServer ++ input) (.read count :: rest)
    simp only [Action.output, hdrop h, hcount h]
  | readThroughNul hended h =>
    have hskip := throughNul_append_of_not_found (by rw [h]) input
    refine stream_congr rfl rfl ?_
    show Action.output ended input (.readThroughNul :: rest) =
      Action.output ended (c.toServer ++ input) (.readThroughNul :: rest)
    simp only [Action.output, hskip]
  | @echo count got hended h =>
    refine stream_congr rfl rfl ?_
    show Action.output ended input
        (.echo (count - c.toServer.length) (got ++ c.toServer) :: rest) =
      Action.output ended (c.toServer ++ input) (.echo count got :: rest)
    simp only [Action.output, hdrop h, htake h, hcount h, List.append_assoc]

theorem stream_follow {c : Connection} (script : List Action)
    (hend : c.clientEnded → input = [] ∧ ended = true) :
    (follow now c script).stream input ended =
      ({ c with script } : Connection).stream input ended := by
  induction script generalizing c with
  | nil => rfl
  | cons a rest ih =>
    rcases hp : perform now c a with ⟨c', _ | a'⟩
    · by_cases hr : a = .reset
      · subst hr
        cases hp
        by_cases hw : c.ending = .waiting <;> simp [follow, perform, stream, hw, Action.output]
      · have hclient : c'.clientEnded = c.clientEnded := by
          have hside := clientSide_perform now c a
          rw [hp] at hside
          exact congrArg (·.2.2.1) hside
        simp only [follow, hp, if_neg hr]
        rw [ih (hclient ▸ hend), stream_of_done hp hr hend]
    · simp only [follow, hp]
      exact (blocked_of_perform hp).stream_eq rest

/-- Time does not change what the client can read. -/
theorem stream_advance (now : Nat) {c : Connection}
    (hend : c.clientEnded → input = [] ∧ ended = true) :
    (c.advance now).stream input ended = c.stream input ended :=
  stream_follow c.script hend

/-! ## Carrying -/

/-- Whether the connection was reset, be it found or not. -/
def isReset (c : Connection) : Prop := c.ending = .broken ∨ c.ending = .gone

/-- What lies between two states of a connection.  The client has written `written` and has
read `delivered`, and a failed read has lost `lost`. -/
structure Carries (c c' : Connection) (written delivered lost : List UInt8) : Prop where
  same : c'.peer = c.peer ∧ c'.ordinal = c.ordinal
  capacity : c'.capacity = c.capacity
  sent : c'.sent = c.sent ++ written
  clientEnded : c.clientEnded → c'.clientEnded ∧ written = []
  hasEnded : c.hasEnded → c'.hasEnded
  isReset : c.isReset → c'.isReset
  stream : ∀ input ended, (c'.clientEnded → input = [] ∧ ended = true) →
    c.stream (written ++ input) ended = delivered ++ lost ++ c'.stream input ended
  /-- After a loss nothing is left. -/
  lost : lost = [] ∨ c'.hasEnded ∧ c'.toClient = []

variable {c c' c'' : Connection} {written written' delivered delivered' lost lost' : List UInt8}

/-- Nothing is carried to a client that has read all. -/
theorem Carries.of_empty (h : Carries c c' written delivered lost)
    (he : c.hasEnded ∧ c.toClient = []) :
    delivered = [] ∧ lost = [] ∧ c'.hasEnded ∧ c'.toClient = [] := by
  have hstream := h.stream [] true fun _ => ⟨rfl, rfl⟩
  rw [stream_of_ended he.1, he.2] at hstream
  have hended := h.hasEnded he.1
  rw [stream_of_ended hended] at hstream
  obtain ⟨hdl, hclient⟩ := List.append_eq_nil_iff.1 hstream.symm
  obtain ⟨hd, hl⟩ := List.append_eq_nil_iff.1 hdl
  exact ⟨hd, hl, hended, hclient⟩

theorem Carries.stream_now (h : Carries c c' written delivered lost) :
    c.stream written c'.clientEnded = delivered ++ lost ++ c'.stream [] c'.clientEnded := by
  have hstream := h.stream [] c'.clientEnded fun he => ⟨rfl, he⟩
  rw [List.append_nil] at hstream
  exact hstream

theorem Carries.refl (c : Connection) : Carries c c [] [] [] where
  same := ⟨rfl, rfl⟩
  capacity := rfl
  sent := by rw [List.append_nil]
  clientEnded h := ⟨h, rfl⟩
  hasEnded h := h
  isReset h := h
  stream _ _ _ := rfl
  lost := .inl rfl

theorem Carries.trans (h : Carries c c' written delivered lost)
    (h' : Carries c' c'' written' delivered' lost') :
    Carries c c'' (written ++ written') (delivered ++ delivered') (lost ++ lost') where
  same := ⟨h'.same.1.trans h.same.1, h'.same.2.trans h.same.2⟩
  capacity := h'.capacity.trans h.capacity
  sent := by rw [h'.sent, h.sent, List.append_assoc]
  clientEnded hc := by
    obtain ⟨hc', hw⟩ := h.clientEnded hc
    obtain ⟨hc'', hw'⟩ := h'.clientEnded hc'
    exact ⟨hc'', by rw [hw, hw']; rfl⟩
  hasEnded he := h'.hasEnded (h.hasEnded he)
  isReset hr := h'.isReset (h.isReset hr)
  stream input ended hend := by
    have hend' : c'.clientEnded → written' ++ input = [] ∧ ended = true := by
      intro hc'
      obtain ⟨hc'', hw'⟩ := h'.clientEnded hc'
      obtain ⟨hi, he⟩ := hend hc''
      exact ⟨by rw [hw', hi]; rfl, he⟩
    rw [List.append_assoc, h.stream _ _ hend', h'.stream input ended hend]
    rcases h.lost with rfl | he
    · simp [List.append_assoc]
    · obtain ⟨hd', hl', -, -⟩ := h'.of_empty he
      simp [hd', hl']
  lost := by
    rcases h.lost with rfl | he
    · exact h'.lost
    · exact .inr (h'.of_empty he).2.2

theorem isReset_perform (now : Nat) {c : Connection} (a : Action) (h : c.isReset) :
    (perform now c a).1.isReset := by
  have hw : c.ending ≠ .waiting := by rcases h with h | h <;> simp [h]
  have hsend {c : Connection} (bytes : List UInt8) (h : c.isReset) : (c.send bytes).isReset := by
    unfold send
    split <;> exact h
  cases a with
  | read count => simp only [perform]; split <;> exact h
  | readThroughNul => simp only [perform]; split <;> exact h
  | write bytes => exact hsend bytes h
  | echo count got =>
    simp only [perform]
    split
    · exact hsend _ h
    · exact h
  | wait millis => simp only [perform]; split <;> exact h
  | close =>
    simp only [perform, if_neg hw]
    exact h
  | reset =>
    simp only [perform, if_neg hw]
    exact .inr rfl

theorem isReset_follow (now : Nat) {c : Connection} (script : List Action) (h : c.isReset) :
    (follow now c script).isReset := by
  induction script generalizing c with
  | nil => exact h
  | cons a rest ih =>
    have hp := isReset_perform now a h
    simp only [follow]
    split
    · rename_i c' a' he
      rw [he] at hp
      exact hp
    · rename_i c' he
      rw [he] at hp
      split
      · exact hp
      · exact ih hp

theorem carries_advance (now : Nat) (c : Connection) : Carries c (c.advance now) [] [] [] where
  same := ⟨c.peer_advance now, c.ordinal_advance now⟩
  capacity := c.capacity_advance now
  sent := by rw [c.sent_advance, List.append_nil]
  clientEnded h := ⟨(c.clientEnded_advance now).trans h, rfl⟩
  hasEnded h := ((c.grows_advance now).ended h).1
  isReset h := isReset_follow now c.script h
  stream input ended hend := by
    rw [c.clientEnded_advance] at hend
    exact (stream_advance now hend).symm
  lost := .inl rfl

/-! ## What the client does -/

theorem carries_write {bytes : List UInt8} {count : Nat} (h : c.write bytes = (.ok count, c')) :
    Carries c c' (bytes.take count) [] [] := by
  obtain ⟨-, hopen, -, rfl⟩ := eq_of_write h
  exact {
    same := ⟨rfl, rfl⟩
    capacity := rfl
    sent := (List.append_assoc ..).symm
    clientEnded := fun hc => absurd hc (by simp [hopen])
    hasEnded := id
    isReset := id
    stream := fun input ended _ => by simp [Connection.stream]
    lost := .inl rfl }

/-- A connection that is found reset stays as it is, but for that. -/
theorem carries_gone (hc : c.ending = .broken) : Carries c { c with ending := .gone } [] [] [] where
  same := ⟨rfl, rfl⟩
  capacity := rfl
  sent := (List.append_nil _).symm
  clientEnded h := ⟨h, rfl⟩
  hasEnded _ := rfl
  isReset _ := .inr rfl
  stream input ended _ := by
    rw [stream_of_ended (by simp [Connection.hasEnded, hc]), stream_of_ended rfl]
    rfl
  lost := .inl rfl

theorem carries_write_error {bytes : List UInt8} {why : IoError}
    (h : c.write bytes = (.error why, c')) : Carries c c' [] [] [] := by
  unfold write at h
  split at h
  · rename_i hc
    cases h
    exact carries_gone hc
  · cases h
    exact .refl c
  · split at h
    · cases h
      exact .refl c
    · cases h
  · split at h
    · cases h
      exact .refl c
    · cases h

theorem carries_finish (c : Connection) : Carries c c.finish [] [] [] where
  same := ⟨rfl, rfl⟩
  capacity := rfl
  sent := (List.append_nil _).symm
  clientEnded _ := ⟨rfl, rfl⟩
  hasEnded := id
  isReset := id
  stream _ _ _ := rfl
  lost := .inl rfl

theorem carries_take (count : Nat) (c : Connection) :
    Carries c { c with toClient := c.toClient.drop count } [] (c.toClient.take count) [] where
  same := ⟨rfl, rfl⟩
  capacity := rfl
  sent := (List.append_nil _).symm
  clientEnded h := ⟨h, rfl⟩
  hasEnded := id
  isReset := id
  stream input ended _ := by
    simp only [stream, List.append_nil, List.nil_append]
    rw [← List.append_assoc, List.take_append_drop]
  lost := .inl rfl

/-- What is taken at the end of the stream is all. -/
theorem carries_lose (he : c.hasEnded) :
    Carries c { c with toClient := [] } [] [] c.toClient where
  same := ⟨rfl, rfl⟩
  capacity := rfl
  sent := (List.append_nil _).symm
  clientEnded h := ⟨h, rfl⟩
  hasEnded := id
  isReset := id
  stream input ended _ := by
    rw [stream_of_ended he, stream_of_ended (c := { c with toClient := [] }) he]
    simp
  lost := .inr ⟨he, rfl⟩

theorem carries_findEnd {result : Except IoError Unit} (h : c.findEnd = (result, c')) :
    Carries c c' [] [] [] ∧ (c'.toClient = c.toClient) ∧
      ((∃ why, result = .error why) → c'.isReset) := by
  unfold findEnd at h
  split at h
  · rename_i hc
    cases h
    exact ⟨carries_gone hc, rfl, fun _ => .inr rfl⟩
  · cases h
    exact ⟨.refl c, rfl, by simp⟩

/-- What a read takes is delivered, or it is lost because the read fails. -/
theorem carries_readSome {count : Nat} {result : Except IoError (List UInt8)}
    (h : c.readSome count = (result, c')) : Carries c c' [] (result.toOption.getD []) [] := by
  unfold readSome at h
  split at h
  · rcases hf : c.findEnd with ⟨found, c₁⟩
    have hcarries := (carries_findEnd hf).1
    rw [hf] at h
    cases h
    cases found <;> exact hcarries
  · cases h
    exact carries_take count c

theorem carries_readExact {count : Nat} {result : Except IoError (List UInt8)}
    (hready : c.holds count) (h : c.readExact count = (result, c')) :
    ∃ lost, Carries c c' [] (result.toOption.getD []) lost ∧
      (lost = [] ∨ ∃ why, result = .error why) := by
  unfold readExact at h
  split at h
  · cases h
    exact ⟨[], carries_take count c, .inl rfl⟩
  · rename_i hcount
    have he : c.hasEnded := by
      rw [holds, Bool.or_eq_true, decide_eq_true_eq] at hready
      exact hready.resolve_left hcount
    rcases hf : ({ c with toClient := [] } : Connection).findEnd with ⟨found, c₁⟩
    have hcarries := (carries_lose he).trans (carries_findEnd hf).1
    simp only [List.append_nil] at hcarries
    rw [hf] at h
    cases found with
    | error why =>
      cases h
      exact ⟨c.toClient, hcarries, .inr ⟨why, rfl⟩⟩
    | ok u =>
      cases h
      exact ⟨c.toClient, hcarries, .inr ⟨.earlyEnd, rfl⟩⟩

theorem length_of_readExact {count : Nat} {bytes : List UInt8}
    (h : c.readExact count = (.ok bytes, c')) : bytes.length = count := by
  unfold readExact at h
  split at h
  · rename_i hcount
    cases h
    exact List.length_take_of_le hcount
  · rcases hf : ({ c with toClient := [] } : Connection).findEnd with ⟨found, c₁⟩
    rw [hf] at h
    cases found <;> cases h

theorem carries_readAll {result : Except IoError (List UInt8)} (he : c.hasEnded)
    (h : c.readAll = (result, c')) :
    (∃ lost, Carries c c' [] (result.toOption.getD []) lost ∧ (lost = [] ∨ c'.isReset)) ∧
      c'.hasEnded ∧ c'.toClient = [] := by
  unfold readAll at h
  rcases hf : ({ c with toClient := [] } : Connection).findEnd with ⟨found, c₁⟩
  obtain ⟨hfind, hclient, hreset⟩ := carries_findEnd hf
  have hended : c₁.hasEnded := hfind.hasEnded he
  rw [hf] at h
  cases found with
  | error why =>
    cases h
    have hcarries := (carries_lose he).trans hfind
    simp only [List.append_nil] at hcarries
    exact ⟨⟨c.toClient, hcarries, .inr (hreset ⟨why, rfl⟩)⟩, hended, hclient⟩
  | ok u =>
    cases h
    have htake := carries_take c.toClient.length c
    rw [List.drop_length, List.take_length] at htake
    have hcarries := htake.trans hfind
    simp only [List.append_nil] at hcarries
    exact ⟨⟨[], hcarries, .inl rfl⟩, hended, hclient⟩

end Connection

end ProxyDial
