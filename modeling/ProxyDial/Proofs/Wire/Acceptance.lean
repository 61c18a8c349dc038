import ProxyDial.Proofs.Wire.Request

/-!
# Which bytes are read as a request

*Acceptance.*  A reader accepts the bytes that begin with a request whose user id holds no NUL,
and what it reads is that request (`decode_eq_ok_iff`).  So what it reads, written again, is
the beginning of the bytes.

*Positions.*  The user id ends at the first NUL that is not in the header (`UserIdEndsAt`).  A
reader that goes by position never looks beyond the end (`decodeAt?_eq`).

*Refusal.*  Too few bytes are refused as such, whatever they are.  Then the version is looked at,
and last the end of the user id.
-/

namespace ProxyDial

namespace Request

variable {bytes : List UInt8} {r : Request} {nul : Nat} {v : UInt8}

/-! ## Acceptance -/

theorem portBytes_portOf (high low : UInt8) : portBytes (portOf high low) = [high, low] := by
  have hhigh := high.toNat_lt
  have hlow := low.toNat_lt
  have hport : (portOf high low).toNat = 256 * high.toNat + low.toNat := by
    rw [portOf, UInt16.toNat_ofNat']
    omega
  have hdiv : (256 * high.toNat + low.toNat) / 256 = high.toNat := by omega
  have hmod : UInt8.ofNat (256 * high.toNat + low.toNat) = low := by
    apply UInt8.toNat_inj.1
    rw [UInt8.toNat_ofNat']
    omega
  rw [portBytes, hport, hdiv, hmod, UInt8.ofNat_toNat]

/-- Enough bytes of the right version begin with the header of a request. -/
theorem exists_header_append (hlength : 9 ≤ bytes.length) (hversion : bytes[0]? = some version) :
    ∃ (r : Request) (rest : List UInt8), rest ≠ [] ∧ bytes = r.header ++ rest := by
  match bytes, hlength with
  | vn :: cd :: high :: low :: a :: b :: c :: d :: first :: rest, _ =>
    cases Option.some.inj hversion
    refine ⟨⟨cd, portOf high low, ⟨a, b, c, d⟩, []⟩, first :: rest, List.cons_ne_nil _ _, ?_⟩
    rw [header, portBytes_portOf]
    rfl

theorem length_of_decode (h : decode bytes = .ok r) : 9 ≤ bytes.length := by
  rcases Nat.lt_or_ge bytes.length 9 with hshort | hlength
  · rw [decode_of_short (by omega)] at h
    cases h
  · exact hlength

theorem decode_of_badVersion (hlength : 9 ≤ bytes.length) (hv : bytes[0]? = some v)
    (hne : v ≠ version) : decode bytes = .error (.badVersion v) := by
  match bytes, hlength with
  | vn :: _ :: _ :: _ :: _ :: _ :: _ :: _ :: _ :: _, _ =>
    cases Option.some.inj hv
    rw [decode, if_pos hne]

theorem version_of_decode (h : decode bytes = .ok r) : bytes[0]? = some version := by
  have hlength := length_of_decode h
  obtain ⟨v, hv⟩ : ∃ v, bytes[0]? = some v := ⟨_, List.getElem?_eq_getElem (by omega)⟩
  by_cases hne : v = version
  · rw [hv, hne]
  · rw [decode_of_badVersion hlength hv hne] at h
    cases h

/-- What is accepted begins with what is read. -/
theorem decode_eq_ok_iff : decode bytes = .ok r ↔ 0 ∉ r.userId ∧ r.encode <+: bytes := by
  constructor
  · intro h
    obtain ⟨s, rest, hrest, rfl⟩ :=
      exists_header_append (length_of_decode h) (version_of_decode h)
    rw [decode_header_append s hrest] at h
    by_cases hnul : 0 ∈ rest
    · obtain ⟨userId, after, rfl, hv⟩ := List.eq_append_cons_of_mem hnul
      rw [untilNul?_append userId after hv] at h
      cases h
      refine ⟨hv, after, ?_⟩
      rw [encode_eq_header, List.append_assoc, List.append_assoc]
      rfl
    · rw [untilNul?_eq, if_neg hnul] at h
      cases h
  · rintro ⟨hv, rest, rfl⟩
    exact decode_encode_append r hv rest

/-! ## Positions -/

/-- Where the user id ends: at the first NUL that is not in the header. -/
structure UserIdEndsAt (bytes : List UInt8) (nul : Nat) : Prop where
  /-- The header has eight bytes. -/
  le : 8 ≤ nul
  isNul : bytes[nul]? = some 0
  first : ∀ i, 8 ≤ i → i < nul → bytes[i]? ≠ some 0

/-- What each place of the bytes says of a request whose user id ends at `nul`. -/
structure StandsIn (bytes : List UInt8) (nul : Nat) (r : Request) : Prop where
  command : bytes[1]? = some r.command
  port : ∃ high low, bytes[2]? = some high ∧ bytes[3]? = some low ∧
    r.port.toNat = 256 * high.toNat + low.toNat
  ip : (bytes.drop 4).take 4 = r.ip.octets
  userId : (bytes.take nul).drop 8 = r.userId
  /-- Up to its NUL the request is written as the bytes are. -/
  encode : bytes.take (nul + 1) = r.encode

theorem UserIdEndsAt.length_lt (h : UserIdEndsAt bytes nul) : nul < bytes.length :=
  (List.getElem?_eq_some_iff.1 h.isNul).1

theorem userIdEndsAt_of_encode (hv : 0 ∉ r.userId) (h : r.encode <+: bytes) :
    UserIdEndsAt bytes (8 + r.userId.length) := by
  obtain ⟨rest, rfl⟩ := h
  have hlength : r.encode.length = 8 + r.userId.length + 1 := r.length_encode
  refine ⟨by omega, ?_, fun i hle hlt => ?_⟩
  · rw [List.getElem?_append_left (by omega), getElem?_encode_eq_nul_iff hv (by omega), hlength]
  · rw [List.getElem?_append_left (by omega), Ne, getElem?_encode_eq_nul_iff hv hle, hlength]
    omega

theorem standsIn_of_encode (h : r.encode <+: bytes) :
    StandsIn bytes (8 + r.userId.length) r := by
  obtain ⟨rest, rfl⟩ := h
  have hlength : r.encode.length = 8 + r.userId.length + 1 := r.length_encode
  have hheader : r.encode ++ rest = r.header ++ (r.userId ++ 0 :: rest) := by
    simp [encode_eq_header]
  refine ⟨rfl, ⟨_, _, rfl, rfl, ?_⟩, rfl, ?_, ?_⟩
  · have hport := r.port.toNat_lt
    simp only [UInt8.toNat_ofNat']
    omega
  · rw [List.drop_take, Nat.add_sub_cancel_left, hheader,
      List.drop_append_of_le_length (by simp [length_header]), ← length_header r, List.drop_length,
      List.nil_append, List.take_left]
  · rw [← hlength, List.take_left]

/-- The bytes from one place up to another. -/
def slice? (bytes : List UInt8) (first last : Nat) : Option (List UInt8) :=
  if first ≤ last ∧ last ≤ bytes.length then some ((bytes.take last).drop first) else none

/-- Read a request by position, as from an array.  Gives none if a place beyond the end is looked
at. -/
def decodeAt? (bytes : List UInt8) : Option (Except DialError Request) :=
  if bytes.length < headerLength + 1 then some (.error (.truncated bytes.length))
  else do
    let vn ← bytes[0]?
    if vn ≠ version then return .error (.badVersion vn)
    let rest ← slice? bytes headerLength bytes.length
    match rest.idxOf? 0 with
    | none => return .error (.truncated bytes.length)
    | some nul =>
      let ip : IPv4 := ⟨← bytes[4]?, ← bytes[5]?, ← bytes[6]?, ← bytes[7]?⟩
      return .ok ⟨← bytes[1]?, portOf (← bytes[2]?) (← bytes[3]?), ip, ← slice? rest 0 nul⟩

theorem untilNul?_eq_idxOf? (bytes : List UInt8) :
    untilNul? bytes = (bytes.idxOf? 0).map (bytes.take ·) := by
  induction bytes with
  | nil => rfl
  | cons b bs ih =>
    rw [untilNul?, List.idxOf?_cons, ih]
    by_cases hb : b = 0
    · simp [hb]
    · simp only [beq_iff_eq, if_neg hb, Option.map_map]
      rfl

/-- No place beyond the end is looked at. -/
theorem decodeAt?_eq (bytes : List UInt8) : decodeAt? bytes = some (decode bytes) := by
  have hleast : headerLength + 1 = 9 := rfl
  rcases Nat.lt_or_ge bytes.length 9 with hshort | hlength
  · rw [decodeAt?, hleast, if_pos hshort, decode_of_short (by omega)]
  · rw [decodeAt?, hleast, if_neg (Nat.not_lt.2 hlength)]
    match bytes, hlength with
    | vn :: cd :: high :: low :: a :: b :: c :: d :: first :: rest, _ =>
      have hslice : 8 ≤ rest.length + 1 + 1 + 1 + 1 + 1 + 1 + 1 + 1 + 1 := by omega
      by_cases hv : vn = version
      · have hdecode := untilNul?_eq_idxOf? (first :: rest)
        cases hnul : (first :: rest).idxOf? 0 with
        | none =>
          rw [hnul, Option.map_none] at hdecode
          simp [hv, slice?, hslice, headerLength, hnul, decode, hdecode]
        | some nul =>
          obtain ⟨hlt, -⟩ := List.idxOf?_eq_some_iff.1 hnul
          have hle : nul ≤ rest.length + 1 := Nat.le_of_lt hlt
          rw [hnul, Option.map_some] at hdecode
          simp [hv, slice?, hslice, headerLength, hnul, decode, hdecode, hle]
      · simp [hv, decode]

/-! ## Refusal -/

/-- Without an end the user id is refused last. -/
theorem decode_of_unended (hlength : 9 ≤ bytes.length) (hversion : bytes[0]? = some version)
    (hnul : ∀ i, 8 ≤ i → bytes[i]? ≠ some 0) : decode bytes = .error (.truncated bytes.length) := by
  obtain ⟨r, rest, hrest, rfl⟩ := exists_header_append hlength hversion
  have hmem : 0 ∉ rest := by
    intro h
    obtain ⟨i, hi⟩ := List.mem_iff_getElem?.1 h
    refine hnul (8 + i) (by omega) ?_
    rwa [List.getElem?_append_right (by rw [length_header]; omega), length_header,
      Nat.add_sub_cancel_left]
  rw [decode_header_append r hrest, untilNul?_eq, if_neg hmem]

/-- Bytes of the right version are accepted once a NUL follows the header. -/
theorem exists_decode_iff : (∃ r, decode bytes = .ok r) ↔
    9 ≤ bytes.length ∧ bytes[0]? = some version ∧ ∃ i, 8 ≤ i ∧ bytes[i]? = some 0 := by
  constructor
  · rintro ⟨r, h⟩
    obtain ⟨hv, hencode⟩ := decode_eq_ok_iff.1 h
    have hends := userIdEndsAt_of_encode hv hencode
    exact ⟨length_of_decode h, version_of_decode h, _, hends.le, hends.isNul⟩
  · rintro ⟨hlength, hversion, i, hi, hnul⟩
    obtain ⟨r, rest, hrest, rfl⟩ := exists_header_append hlength hversion
    rw [List.getElem?_append_right (by rwa [length_header])] at hnul
    rw [decode_header_append r hrest, untilNul?_eq, if_pos (List.mem_of_getElem? hnul)]
    exact ⟨_, rfl⟩

/-- What is accepted stays accepted as the same request, whatever follows. -/
theorem decode_append (h : decode bytes = .ok r) (rest : List UInt8) :
    decode (bytes ++ rest) = .ok r := by
  rw [decode_eq_ok_iff] at h ⊢
  exact ⟨h.1, h.2.trans (List.prefix_append bytes rest)⟩

/-- Bytes are read as a request if there are nine of them, the first is the version and one after
the header is a NUL.  What is read stands in its places up to the first such NUL, and written
again it is the bytes up to there.  All other bytes are refused for the first of these that is
not so.  No place beyond the end is looked at, and more bytes change nothing. -/
theorem decode_grammar (bytes : List UInt8) :
    ((∃ r, decode bytes = .ok r) ↔
      9 ≤ bytes.length ∧ bytes[0]? = some 4 ∧ ∃ i, 8 ≤ i ∧ bytes[i]? = some 0) ∧
    (∀ r, decode bytes = .ok r → ∃ nul, UserIdEndsAt bytes nul ∧ StandsIn bytes nul r) ∧
    (bytes.length < 9 → decode bytes = .error (.truncated bytes.length)) ∧
    (∀ v, 9 ≤ bytes.length → bytes[0]? = some v → v ≠ 4 →
      decode bytes = .error (.badVersion v)) ∧
    (9 ≤ bytes.length → bytes[0]? = some 4 → (∀ i, 8 ≤ i → bytes[i]? ≠ some 0) →
      decode bytes = .error (.truncated bytes.length)) ∧
    decodeAt? bytes = some (decode bytes) ∧
    ∀ r rest, decode bytes = .ok r → decode (bytes ++ rest) = .ok r := by
  refine ⟨exists_decode_iff, ?read, ?short, fun v => decode_of_badVersion, decode_of_unended,
    decodeAt?_eq bytes, fun r rest h => decode_append h rest⟩
  case read =>
    intro r h
    obtain ⟨hv, hencode⟩ := decode_eq_ok_iff.1 h
    exact ⟨_, userIdEndsAt_of_encode hv hencode, standsIn_of_encode hencode⟩
  case short =>
    intro hshort
    exact decode_of_short (by omega)

/-- The NULs of the header end nothing, and one more byte decides whether there is a request. -/
theorem decode_grammar_nul_in_header :
    let bytes : List UInt8 := [4, 1, 0, 80, 10, 0, 0, 9, 117, 0]
    (∃ r, decode bytes = .ok r ∧ StandsIn bytes 9 r ∧ decode (bytes ++ [7, 0]) = .ok r) ∧
      decode (bytes.take 8) = .error (.truncated 8) ∧
      decode (bytes.take 9) = .error (.truncated 9) ∧
      decode (bytes.set 0 5) = .error (.badVersion 5) := by
  intro bytes
  obtain ⟨haccepted, hread, -, -, -, -, hmore⟩ := decode_grammar bytes
  obtain ⟨-, -, hshort, -⟩ := decode_grammar (bytes.take 8)
  obtain ⟨-, -, -, -, hunended, -⟩ := decode_grammar (bytes.take 9)
  obtain ⟨-, -, -, hversion, -⟩ := decode_grammar (bytes.set 0 5)
  obtain ⟨r, hr⟩ := haccepted.2 ⟨by decide, by decide, 9, by decide, by decide⟩
  obtain ⟨nul, hends, hstands⟩ := hread r hr
  have hnul : nul = 9 := by
    have hlt := hends.length_lt
    have hle := hends.le
    have h8 : nul ≠ 8 := by
      rintro rfl
      exact absurd hends.isNul (by decide)
    have hlength : bytes.length = 10 := rfl
    omega
  refine ⟨⟨r, hr, hnul ▸ hstands, hmore r [7, 0] hr⟩, hshort (by decide),
    hunended (by decide) (by decide) ?_, hversion 5 (by decide) (by decide) (by decide)⟩
  intro i hi
  rcases Nat.eq_or_lt_of_le hi with rfl | hi
  · decide
  · rw [List.getElem?_eq_none (Nat.succ_le_of_lt hi)]
    exact nofun

end Request

end ProxyDial
