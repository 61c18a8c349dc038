import ProxyDial.Proofs.Network.Stream
import ProxyDial.Proofs.Scenario.History
import ProxyDial.Proofs.Session.Sending

/-!
# Transfers

A client that has a connection reads and writes on it.  `carries_step` says what one
such step carries, and `History.carries` adds up what a history of them carries.
Bytes are lost only when an exact read fails or the connection is reset.

What a step has written can be told from its outcome (`written`), but for a write of all
bytes that fails.  That may have written some of them, if the network had no room for all at
once (`Wrote`).
-/

namespace ProxyDial

/-- Whether a step reads or writes on the connection that there is, or leaves it alone. -/
def Step.transfers : Step → Bool
  | read _ => true
  | readExact _ => true
  | readToEnd => true
  | write _ => true
  | writeAll _ => true
  | flush => true
  | shutdown => true
  | sleep _ => true
  | remote => true
  | Step.local => true
  | _ => false

/-- The bytes that a step has written. -/
def Step.written : Step × Outcome → List UInt8
  | (write bytes, .io (.ok (.count n))) => bytes.take n
  | (writeAll bytes, .io (.ok _)) => bytes
  | _ => []

/-- Whether a step may have written these bytes. -/
def Step.MayWrite : Step × Outcome → List UInt8 → Prop
  | (writeAll bytes, .io (.error _)), wrote => wrote <+: bytes
  | taken, wrote => wrote = Step.written taken

/-- Whether a step is a write of all bytes that has failed. -/
def Step.FailsWrite (taken : Step × Outcome) : Prop :=
  ∃ bytes why, taken = (writeAll bytes, .io (.error why))

/-- The bytes that a step has read. -/
def Outcome.delivered : Outcome → List UInt8
  | io (.ok (.bytes bs)) => bs
  | _ => []

/-- Whether a step is an exact read that has failed. -/
def Step.FailsExact (taken : Step × Outcome) : Prop :=
  ∃ count why, taken = (readExact count, .io (.error why))

open Connection (Carries)

namespace Op

variable {α : Type} {limit : Option Nat} {s s' : Session} {c : Connection}

/-- A read that ends has waited and then taken something. -/
theorem Reads.exists_carried {isReady : Connection → Bool}
    {take : Connection → Except IoError α × Connection} {result : Except IoError α}
    (hr : Reads isReady take limit s c (some (some result), s')) (hs : s.stream = some c) :
    ∃ c₁ c', Carries c c₁ [] [] [] ∧ isReady c₁ ∧ take c₁ = (result, c') ∧
      s'.stream = some c' := by
  obtain ⟨s₁, c₁, c', ha, hs₁, hready, htake, rfl⟩ := hr.exists_taken
  refine ⟨c₁, c', ?_, hready, htake, rfl⟩
  rcases ha.passed with rfl | ⟨now, rfl⟩
  · rw [hs] at hs₁
    cases hs₁
    exact .refl c
  · rw [Session.moveTo_stream, hs] at hs₁
    cases hs₁
    exact Connection.carries_advance now c

/-- A write that ends has put the first bytes on the connection, and all of them if it succeeds.
If the network has no limit one that fails has put none. -/
theorem Writes.exists_carried {bytes : List UInt8} {result : Except IoError Unit}
    (hw : Writes limit bytes s c (some (some result), s')) (hs : s.stream = some c) :
    ∃ c' wrote, s'.stream = some c' ∧ Carries c c' wrote [] [] ∧ wrote <+: bytes ∧
      (result = .ok () → wrote = bytes) ∧
      (c.capacity = none → result ≠ .ok () → wrote = []) := by
  generalize ho : (some (some result), s') = o at hw
  induction hw with
  | done =>
    cases ho
    exact ⟨_, [], hs, .refl _, List.prefix_refl _, fun _ => rfl, fun _ _ => rfl⟩
  | @more bytes count s s₁ c c₂ _ hne hr hs₁ rest ih =>
    obtain ⟨c₁, c₂', hwait, -, hwrite, hs₁'⟩ := hr.exists_carried hs
    obtain rfl := Option.some.inj (hs₁.symm.trans hs₁')
    obtain ⟨c', wrote, hs', hcarries, ⟨left, hleft⟩, hall, hnone⟩ := ih hs₁ ho
    have hfirst := hwait.trans ((Connection.carries_write hwrite).trans hcarries)
    refine ⟨c', bytes.take count ++ wrote, hs', hfirst, ⟨left, ?_⟩, fun hok => ?_,
      fun hcapacity hfails => ?_⟩
    · rw [List.append_assoc, hleft, List.take_append_drop]
    · rw [hall hok, List.take_append_drop]
    · -- Without a limit the first write takes all bytes.
      obtain ⟨-, -, hfits, -⟩ := Connection.eq_of_write hwrite
      have hroom : c₁.HasRoomFor bytes.length := by
        intro most hmost
        rw [hwait.capacity, hcapacity] at hmost
        cases hmost
      rw [Connection.fitting_of_hasRoomFor hroom] at hfits
      have hdone : bytes.drop count = [] := by
        have hlen := congrArg List.length hfits
        rw [List.length_take] at hlen
        exact List.drop_of_length_le (by omega)
      rw [hdone] at rest
      subst ho
      cases rest with
      | done => exact absurd rfl hfails
      | more hne => exact absurd rfl hne
      | failed hne => exact absurd rfl hne
  | @failed bytes why s s₁ c hne hr =>
    cases ho
    obtain ⟨c₁, c', hwait, -, hwrite, hs'⟩ := hr.exists_carried hs
    refine ⟨c', [], hs', hwait.trans (Connection.carries_write_error hwrite), List.nil_prefix, ?_,
      fun _ _ => rfl⟩
    rintro ⟨⟩
  | _ => cases ho

end Op

theorem Op.exists_of_read {α : Type} {isReady : Connection → Bool}
    {take : Connection → Except IoError α × Connection} {s s' : Session} {c : Connection}
    {result : Except IoError α} (hs : s.stream = some c)
    (h : (awaitReady isReady >>= fun _ => withStream take).run? s = some (result, s')) :
    ∃ c₁ c', Carries c c₁ [] [] [] ∧ isReady c₁ ∧ take c₁ = (result, c') ∧
      s'.stream = some c' := by
  have hr := reads_awaitReady isReady take none hs
  rw [outcome_giveUpAt_none, (run?_eq_some_iff ..).1 h] at hr
  exact hr.exists_carried hs

theorem Op.writes_of_run? {bytes : List UInt8} {s s' : Session} {c : Connection}
    {result : Except IoError Unit} (hs : s.stream = some c)
    (h : (writeAll bytes).run? s = some (result, s')) :
    Writes none bytes s c (some (some result), s') := by
  have hw := writes_writeAll none hs bytes
  rwa [outcome_giveUpAt_none, (run?_eq_some_iff ..).1 h] at hw

theorem Op.exists_of_withStream {α : Type} {f : Connection → Except IoError α × Connection}
    {s s' : Session} {c : Connection} {result : Except IoError α} (hs : s.stream = some c)
    (h : (withStream f).run? s = some (result, s')) :
    ∃ c', f c = (result, c') ∧ s'.stream = some c' := by
  have ho := (run?_eq_some_iff ..).1 h
  rw [outcome_withStream hs] at ho
  cases ho
  exact ⟨(f c).2, rfl, rfl⟩

variable {s s' s'' : Session} {c : Connection}

/-- What a step carries that begins with the connection `c` and ends on `s'`. -/
def Step.Carried (taken : Step × Outcome) (c : Connection) (s' : Session) : Prop :=
  ∃ c' wrote lost, s'.stream = some c' ∧ MayWrite taken wrote ∧
    (c.capacity = none → wrote = written taken) ∧
    Carries c c' wrote taken.2.delivered lost ∧
    (lost = [] ∨ c'.isReset ∨ FailsExact taken) ∧
    (taken.1 = .readToEnd → c'.hasEnded ∧ c'.toClient = [])

/-- All but a write of all bytes write just what their outcome says. -/
theorem Step.Carried.of_written {taken : Step × Outcome} {c' : Connection} {lost : List UInt8}
    (hn : ∀ bytes, taken.1 ≠ .writeAll bytes) (hs' : s'.stream = some c')
    (hcarries : Carries c c' (written taken) taken.2.delivered lost)
    (hlost : lost = [] ∨ c'.isReset ∨ FailsExact taken)
    (hend : taken.1 = .readToEnd → c'.hasEnded ∧ c'.toClient = []) : Carried taken c s' := by
  refine ⟨c', written taken, lost, hs', ?_, fun _ => rfl, hcarries, hlost, hend⟩
  unfold MayWrite
  split
  · exact absurd rfl (hn _)
  · rfl

theorem carries_step {step : Step} {outcome : Outcome} (ht : step.transfers)
    (hs : s.stream = some c) (h : step.run.run? s = some (outcome, s')) :
    Step.Carried (step, outcome) c s' := by
  cases step with
  | read count =>
    obtain ⟨result, s₁, hop, h⟩ := Op.exists_of_run?_bind h
    cases h
    obtain ⟨c₁, c', hwait, hready, htake, hs'⟩ := Op.exists_of_read hs hop
    have hcarries := hwait.trans (Connection.carries_readSome htake)
    refine .of_written (by simp) hs' ?_ (.inl rfl) (by simp)
    cases result <;> exact hcarries
  | readExact count =>
    obtain ⟨result, s₁, hop, h⟩ := Op.exists_of_run?_bind h
    cases h
    obtain ⟨c₁, c', hwait, hready, htake, hs'⟩ := Op.exists_of_read hs hop
    obtain ⟨lost, htaken, hlost⟩ := Connection.carries_readExact hready htake
    have hcarries := hwait.trans htaken
    have hfails : lost = [] ∨ c'.isReset ∨
        Step.FailsExact (.readExact count, .io (result.map .bytes)) := by
      rcases hlost with hl | ⟨why, rfl⟩
      · exact .inl hl
      · exact .inr (.inr ⟨count, why, rfl⟩)
    refine .of_written (by simp) hs' ?_ hfails (by simp)
    cases result <;> exact hcarries
  | readToEnd =>
    obtain ⟨result, s₁, hop, h⟩ := Op.exists_of_run?_bind h
    cases h
    obtain ⟨c₁, c', hwait, hready, htake, hs'⟩ := Op.exists_of_read hs hop
    obtain ⟨⟨lost, hall, hlost⟩, hempty⟩ := Connection.carries_readAll hready htake
    have hcarries := hwait.trans hall
    refine .of_written (by simp) hs' ?_ (hlost.imp_right .inl) fun _ => hempty
    cases result <;> exact hcarries
  | write bytes =>
    obtain ⟨result, s₁, hop, h⟩ := Op.exists_of_run?_bind h
    cases h
    obtain ⟨c₁, c', hwait, -, hwrite, hs'⟩ := Op.exists_of_read hs hop
    refine .of_written (by simp) hs' ?_ (.inl rfl) (by simp)
    cases result with
    | ok count => exact hwait.trans (Connection.carries_write hwrite)
    | error why => exact hwait.trans (Connection.carries_write_error hwrite)
  | writeAll bytes =>
    obtain ⟨result, s₁, hop, h⟩ := Op.exists_of_run?_bind h
    cases h
    obtain ⟨c', wrote, hs', hcarries, hprefix, hall, hnone⟩ :=
      (Op.writes_of_run? hs hop).exists_carried hs
    cases result with
    | ok u => exact ⟨c', wrote, [], hs', hall rfl, fun _ => hall rfl, hcarries, .inl rfl, by simp⟩
    | error why =>
      exact ⟨c', wrote, [], hs', hprefix, fun hc => hnone hc (by simp), hcarries, .inl rfl,
        by simp⟩
  | flush =>
    obtain ⟨result, s₁, hop, h⟩ := Op.exists_of_run?_bind h
    cases h
    obtain ⟨c', hflush, hs'⟩ := Op.exists_of_withStream hs hop
    cases hflush
    exact .of_written (by simp) hs' (.refl c) (.inl rfl) (by simp)
  | shutdown =>
    obtain ⟨result, s₁, hop, h⟩ := Op.exists_of_run?_bind h
    cases h
    obtain ⟨c', hfinish, hs'⟩ := Op.exists_of_withStream hs hop
    cases hfinish
    exact .of_written (by simp) hs' (Connection.carries_finish c) (.inl rfl) (by simp)
  | sleep millis =>
    cases h
    have hs' : (s.moveTo (s.clock + millis)).stream = some (c.advance (s.clock + millis)) := by
      rw [Session.moveTo_stream, hs]
      rfl
    exact .of_written (by simp) hs' (Connection.carries_advance _ c) (.inl rfl) (by simp)
  | remote =>
    obtain ⟨result, s₁, hop, h⟩ := Op.exists_of_run?_bind h
    cases h
    obtain ⟨c', hremote, hs'⟩ := Op.exists_of_withStream hs hop
    have hsame : c' = c := by
      split at hremote <;> (cases hremote; rfl)
    subst hsame
    refine .of_written (by simp) hs' ?_ (.inl rfl) (by simp)
    cases result <;> exact .refl c'
  | «local» =>
    obtain ⟨result, s₁, hop, h⟩ := Op.exists_of_run?_bind h
    cases h
    obtain ⟨c', hlocal, hs'⟩ := Op.exists_of_withStream hs hop
    cases hlocal
    exact .of_written (by simp) hs' (.refl c) (.inl rfl) (by simp)
  | timedConnect => cases ht
  | handshake => cases ht
  | prepareConnect => cases ht
  | prepareHandshake => cases ht
  | dial => cases ht
  | connect => cases ht
  | close => cases ht
  | takeStream => cases ht
  | keepStream => cases ht
  | wrapStream => cases ht

/-- The bytes that a history of steps has written. -/
def written (history : List (Step × Outcome)) : List UInt8 := history.flatMap Step.written

/-- Whether a history of steps may have written these bytes. -/
def Wrote : List (Step × Outcome) → List UInt8 → Prop
  | [], wrote => wrote = []
  | taken :: history, wrote =>
    ∃ first rest, wrote = first ++ rest ∧ Step.MayWrite taken first ∧ Wrote history rest

/-- The bytes that a history of steps has read. -/
def delivered (history : List (Step × Outcome)) : List UInt8 :=
  history.flatMap fun taken => taken.2.delivered

variable {history history' : List (Step × Outcome)}

/-- The outcomes tell what was written, unless a write of all bytes has failed. -/
theorem Wrote.eq_written {wrote : List UInt8} (hw : Wrote history wrote)
    (hn : ∀ taken ∈ history, ¬Step.FailsWrite taken) : wrote = written history := by
  induction history generalizing wrote with
  | nil => exact hw
  | cons taken history ih =>
    obtain ⟨first, rest, rfl, hfirst, hrest⟩ := hw
    obtain rfl := ih hrest fun taken hm => hn taken (.tail _ hm)
    have hexact : first = Step.written taken := by
      unfold Step.MayWrite at hfirst
      split at hfirst
      · exact absurd ⟨_, _, rfl⟩ (hn _ (.head _))
      · exact hfirst
    rw [hexact, written, written, List.flatMap_cons]

/-- What a history of transfers carries. -/
theorem History.carries (h : History s history s') (ht : ∀ taken ∈ history, taken.1.transfers)
    (hs : s.stream = some c) :
    ∃ c' wrote lost, s'.stream = some c' ∧ Wrote history wrote ∧
      (c.capacity = none → wrote = written history) ∧
      Carries c c' wrote (delivered history) lost ∧
      (lost = [] ∨ c'.isReset ∨ ∃ taken ∈ history, Step.FailsExact taken) := by
  induction h generalizing c with
  | nil => exact ⟨c, [], [], hs, rfl, fun _ => rfl, .refl c, .inl rfl⟩
  | @cons s s₁ s' step outcome history hstep _ ih =>
    obtain ⟨c₁, first, lost₁, hs₁, hfirst, hexact, hcarries₁, hlost₁, -⟩ :=
      carries_step (ht _ (.head _)) hs hstep
    obtain ⟨c', rest, lost', hs', hrest, hexact', hcarries', hlost'⟩ :=
      ih (fun taken hm => ht taken (.tail _ hm)) hs₁
    refine ⟨c', first ++ rest, lost₁ ++ lost', hs', ⟨first, rest, rfl, hfirst, hrest⟩, fun hc => ?_,
      hcarries₁.trans hcarries', ?_⟩
    · rw [hexact hc, hexact' (hcarries₁.capacity.trans hc), written, written, List.flatMap_cons]
    · rcases hlost₁ with rfl | hreset | hfails
      · rcases hlost' with hl | hreset | ⟨taken, hm, hfails⟩
        · exact .inl hl
        · exact .inr (.inl hreset)
        · exact .inr (.inr ⟨taken, .tail _ hm, hfails⟩)
      · exact .inr (.inl (hcarries'.isReset hreset))
      · exact .inr (.inr ⟨(step, outcome), .head _, hfails⟩)

/-- After a read to the end nothing is left, so what was read is all, unless a read before
has lost something. -/
theorem History.carries_all {outcome : Outcome}
    (h : History s (history ++ (.readToEnd, outcome) :: history') s')
    (ht : ∀ taken ∈ history ++ (.readToEnd, outcome) :: history', taken.1.transfers)
    (hs : s.stream = some c) (hexact : ∀ taken ∈ history, ¬Step.FailsExact taken) :
    ∃ c' wrote, s'.stream = some c' ∧
      (¬c'.isReset →
        Carries c c' wrote (delivered (history ++ (.readToEnd, outcome) :: history')) [] ∧
        c'.hasEnded ∧ c'.toClient = []) := by
  obtain ⟨s₁, hbefore, h⟩ := h.exists_of_append
  cases h with
  | @cons _ s₂ _ _ _ _ hread hafter =>
    have htb : ∀ taken ∈ history, taken.1.transfers := fun taken hm =>
      ht taken (List.mem_append_left _ hm)
    have hta : ∀ taken ∈ history', taken.1.transfers := fun taken hm =>
      ht taken (List.mem_append_right _ (.tail _ hm))
    obtain ⟨c₁, first, lost₁, hs₁, -, -, hcarries₁, hlost₁⟩ := hbefore.carries htb hs
    obtain ⟨c₂, none, lost₂, hs₂, -, -, hcarries₂, hlost₂, hempty⟩ := carries_step rfl hs₁ hread
    obtain ⟨c', rest, lost', hs', -, -, hcarries', -⟩ := hafter.carries hta hs₂
    obtain ⟨-, hlost', hended, hclient⟩ := hcarries'.of_empty (hempty rfl)
    refine ⟨c', first ++ (none ++ rest), hs', fun hreset => ?_⟩
    have h₂ : ¬c₂.isReset := fun h => hreset (hcarries'.isReset h)
    have h₁ : ¬c₁.isReset := fun h => h₂ (hcarries₂.isReset h)
    have hnil₁ : lost₁ = [] := by
      rcases hlost₁ with hl | h | ⟨taken, hm, hfails⟩
      · exact hl
      · exact absurd h h₁
      · exact absurd hfails (hexact taken hm)
    have hnil₂ : lost₂ = [] := by
      rcases hlost₂ with hl | h | ⟨count, why, hfails⟩
      · exact hl
      · exact absurd h h₂
      · cases hfails
    have hcarries := hcarries₁.trans (hcarries₂.trans hcarries')
    rw [hnil₁, hnil₂, hlost'] at hcarries
    refine ⟨?_, hended, hclient⟩
    simpa [delivered] using hcarries

end ProxyDial
