import ProxyDial.Network.Connection
import ProxyDial.Wire.Request

/-!
# Requests on the wire

A request is a header of fixed length and a user id with its NUL.

*Reading back.*  A reader of a request takes the user id up to its first NUL, whatever
bytes follow (`decode_encode_append_cut`).  So a request without a NUL in its user id is read
back as it was.

*Framing.*  Such a request is known by its bytes alone.  No proper part of it can be read
(`decode_of_cut`), and it begins with no other request (`eq_of_prefix_encode`).  A
proxy that reads eight bytes and then up to the first NUL reads the request and nothing
more (`follow_request`).
-/

namespace ProxyDial

namespace Request

/-- The bytes of a request that stand before the user id. -/
def header (r : Request) : List UInt8 :=
  version :: r.command :: (portBytes r.port ++ r.ip.octets)

theorem length_header (r : Request) : r.header.length = 8 := rfl

theorem encode_eq_header (r : Request) : r.encode = r.header ++ (r.userId ++ [0]) := by
  simp [encode, header]

/-! ## Reading back -/

theorem untilNul?_eq (bytes : List UInt8) :
    untilNul? bytes = if 0 ∈ bytes then some (bytes.takeWhile (· ≠ 0)) else none := by
  induction bytes with
  | nil => rfl
  | cons b bs ih =>
    by_cases hb : b = 0
    · simp [untilNul?, hb]
    · have hmem : 0 ∈ b :: bs ↔ 0 ∈ bs := by
        rw [List.mem_cons, or_iff_right (Ne.symm hb)]
      simp only [untilNul?, if_neg hb, ih, hmem]
      by_cases h : 0 ∈ bs
      · simp [h, hb]
      · simp [h]

/-- After a header comes the user id. -/
theorem decode_header_append (r : Request) {rest : List UInt8} (h : rest ≠ []) :
    decode (r.header ++ rest) = match untilNul? rest with
      | none => .error (.truncated (r.header ++ rest).length)
      | some userId => .ok { r with userId } := by
  obtain ⟨first, more, rfl⟩ := List.exists_cons_of_ne_nil h
  have hbytes : r.header ++ first :: more = version :: r.command ::
      .ofNat (r.port.toNat / 256) :: .ofNat r.port.toNat :: r.ip.a :: r.ip.b :: r.ip.c :: r.ip.d ::
      first :: more := rfl
  rw [hbytes]
  cases hu : untilNul? (first :: more) with
  | none => simp only [decode, if_neg (fun hv : version ≠ version => hv rfl), hu]
  | some userId =>
    simp only [decode, if_neg (fun hv : version ≠ version => hv rfl), hu, portOf_portBytes]

theorem takeWhile_append_nul (userId rest : List UInt8) :
    (userId ++ 0 :: rest).takeWhile (· ≠ 0) = userId.takeWhile (· ≠ 0) := by
  induction userId with
  | nil => rfl
  | cons b bs ih =>
    rw [List.cons_append, List.takeWhile_cons, List.takeWhile_cons, ih]

/-- What follows a request does not matter to its reader. -/
theorem decode_encode_append_cut (r : Request) (rest : List UInt8) :
    decode (r.encode ++ rest) = .ok { r with userId := r.userId.takeWhile (· ≠ 0) } := by
  have hbytes : r.encode ++ rest = r.header ++ (r.userId ++ 0 :: rest) := by
    simp [encode_eq_header]
  have hnul : untilNul? (r.userId ++ 0 :: rest) = some (r.userId.takeWhile (· ≠ 0)) := by
    rw [untilNul?_eq, takeWhile_append_nul, if_pos (by simp)]
  rw [hbytes, decode_header_append r (by simp), hnul]

theorem takeWhile_eq_self_iff (userId : List UInt8) :
    userId.takeWhile (· ≠ 0) = userId ↔ 0 ∉ userId := by
  constructor
  · intro h hm
    rw [← h] at hm
    have hne := List.all_takeWhile (p := fun b : UInt8 => b ≠ 0) (l := userId)
    exact of_decide_eq_true (List.all_eq_true.1 hne 0 hm) rfl
  · intro h
    have hnul := untilNul?_append userId [] h
    rw [untilNul?_eq, takeWhile_append_nul, if_pos (by simp)] at hnul
    exact Option.some.inj hnul

/-- A request is read back as it was exactly if its user id holds no NUL. -/
theorem decode_encode_append_eq_iff (r : Request) (rest : List UInt8) :
    decode (r.encode ++ rest) = .ok r ↔ 0 ∉ r.userId := by
  rw [decode_encode_append_cut, ← takeWhile_eq_self_iff]
  constructor
  · intro h
    exact congrArg userId (Except.ok.inj h)
  · intro h
    rw [h]

theorem decode_encode_append (r : Request) (hv : 0 ∉ r.userId) (rest : List UInt8) :
    decode (r.encode ++ rest) = .ok r := (decode_encode_append_eq_iff r rest).2 hv

/-! ## Framing -/

/-- After the header the only NUL of a request is its last byte. -/
theorem getElem?_encode_eq_nul_iff {r : Request} (hv : 0 ∉ r.userId) {i : Nat} (hi : 8 ≤ i) :
    r.encode[i]? = some 0 ↔ i + 1 = r.encode.length := by
  have hlen := r.length_header
  rw [encode_eq_header, List.getElem?_append_right (by omega), hlen, List.length_append,
    List.length_append, List.length_singleton, hlen]
  rcases Nat.lt_trichotomy (i - 8) r.userId.length with h | h | h
  · rw [List.getElem?_append_left h]
    refine iff_of_false (fun hnul => hv (List.mem_of_getElem? hnul)) (by omega)
  · rw [h, List.getElem?_append_right (Nat.le_refl _), Nat.sub_self]
    exact iff_of_true rfl (by omega)
  · rw [List.getElem?_eq_none (by simp; omega)]
    exact iff_of_false (by simp) (by omega)

theorem decode_of_short {bytes : List UInt8} (h : bytes.length ≤ 8) :
    decode bytes = .error (.truncated bytes.length) := by
  unfold decode
  split
  · simp only [List.length_cons] at h
    omega
  · rfl

/-- A proper part of a request cannot be read. -/
theorem decode_of_cut {r : Request} (hv : 0 ∉ r.userId) {part : List UInt8}
    (hp : part <+: r.encode) (hne : part ≠ r.encode) :
    decode part = .error (.truncated part.length) := by
  obtain ⟨missing, hm⟩ := hp
  rw [encode_eq_header, List.append_eq_append_iff] at hm
  rcases hm with ⟨more, hheader, -⟩ | ⟨read, rfl, hread⟩
  · have hlen := congrArg List.length hheader
    rw [length_header, List.length_append] at hlen
    exact decode_of_short (by omega)
  · have hnul : 0 ∉ read := by
      rcases List.append_eq_append_iff.1 hread with ⟨more, rfl, hmore⟩ | ⟨more, huser, -⟩
      · rcases List.append_eq_singleton_iff.1 hmore.symm with ⟨rfl, -⟩ | ⟨rfl, -⟩
        · rw [List.append_nil]
          exact hv
        · exact absurd (encode_eq_header r).symm hne
      · intro h
        exact hv (huser ▸ List.mem_append_left more h)
    cases read with
    | nil => exact decode_of_short (by simp [length_header])
    | cons first rest =>
      rw [decode_header_append r (List.cons_ne_nil first rest), untilNul?_eq, if_neg hnul]

/-- A request begins with no other request. -/
theorem eq_of_prefix_encode {r other : Request} (hv : 0 ∉ r.userId) (hv' : 0 ∉ other.userId)
    (h : r.encode <+: other.encode) : r = other := by
  obtain ⟨rest, hrest⟩ := h
  have hr := decode_encode_append r hv rest
  have ho := decode_encode_append other hv' []
  rw [List.append_nil, ← hrest, hr] at ho
  exact Except.ok.inj ho

/-- Requests are read back up to the first NUL of their user ids, whatever follows them.
Those without a NUL are read back as they were, no proper part of one can be read, and none
begins with another. -/
theorem decode_encode_framed (r : Request) :
    r.encode.length = r.encodedLength ∧
      (∀ rest, decode (r.encode ++ rest) =
        .ok { r with userId := r.userId.takeWhile (· ≠ 0) }) ∧
      (∀ rest, decode (r.encode ++ rest) = .ok r ↔ 0 ∉ r.userId) ∧
      (0 ∉ r.userId → ∀ part, part <+: r.encode → part ≠ r.encode →
        decode part = .error (.truncated part.length)) ∧
      ∀ other : Request, 0 ∉ r.userId → 0 ∉ other.userId →
        r.encode <+: other.encode ∨ other.encode <+: r.encode → r = other := by
  refine ⟨r.length_encode, r.decode_encode_append_cut, r.decode_encode_append_eq_iff,
    fun hv part => decode_of_cut hv, ?_⟩
  intro other hv hv' h
  rcases h with h | h
  · exact eq_of_prefix_encode hv hv' h
  · exact (eq_of_prefix_encode hv' hv h).symm

theorem decode_encode_framed_short :
    let r : Request := ⟨1, 80, ⟨10, 0, 0, 9⟩, [117]⟩
    let other := Request.connect ⟨10, 0, 0, 9⟩ 80 [117]
    let part : List UInt8 := [4, 1, 0, 80, 10, 0, 0, 9, 117]
    (0 ∉ r.userId ∧ 0 ∉ other.userId ∧ part <+: r.encode ∧ part ≠ r.encode ∧
      r.encode <+: other.encode) ∧
      decode part = .error (.truncated 9) ∧ r = other := by
  intro r other part
  have hv : 0 ∉ r.userId := by decide
  have hv' : 0 ∉ other.userId := by decide
  have hp : part <+: r.encode := ⟨[0], by decide⟩
  have hne : part ≠ r.encode := by decide
  have ho : r.encode <+: other.encode := ⟨[], rfl⟩
  obtain ⟨-, -, -, hpart, hprefix⟩ := decode_encode_framed r
  exact ⟨⟨hv, hv', hp, hne, ho⟩, hpart hv part hp hne, hprefix other hv hv' (.inl ho)⟩

end Request

namespace Connection

theorem throughNul_append_nul {bs : List UInt8} (h : 0 ∉ bs) (rest : List UInt8) :
    throughNul (bs ++ 0 :: rest) = (bs ++ [0], rest, true) := by
  induction bs with
  | nil => rfl
  | cons b bs ih =>
    rw [List.mem_cons, not_or] at h
    have hb : b ≠ 0 := fun he => h.1 he.symm
    rw [List.cons_append, throughNul, if_neg hb, ih h.2]
    rfl

/-- A proxy that reads one request reads it whole and leaves what follows. -/
theorem follow_request {r : Request} (hv : 0 ∉ r.userId) {rest : List UInt8} {c : Connection}
    (hc : c.toServer = r.encode ++ rest) (now : Nat) (script : List Action) :
    c.follow now (Action.request ++ script) =
      ({ c with toServer := rest, received := c.received ++ r.encode } : Connection).follow now
        script := by
  have hlen := r.length_header
  have henc := r.encode_eq_header
  have hhead : c.perform now (.read 8) =
      ({ c with toServer := r.userId ++ 0 :: rest, received := c.received ++ r.header }, none) := by
    have ht : c.toServer.take 8 = r.header := by
      rw [hc, henc, List.append_assoc, List.take_left' hlen]
    have hd : c.toServer.drop 8 = r.userId ++ 0 :: rest := by
      rw [hc, henc, List.append_assoc, List.drop_left' hlen, List.append_assoc]
      rfl
    simp [perform, ht, hd, hlen, receive]
  have htail : ({ c with toServer := r.userId ++ 0 :: rest, received := c.received ++ r.header } :
      Connection).perform now .readThroughNul =
      ({ c with toServer := rest, received := c.received ++ r.encode }, none) := by
    simp [perform, throughNul_append_nul hv, receive, henc]
  simp [Action.request, follow, hhead, htail]

end Connection

end ProxyDial
