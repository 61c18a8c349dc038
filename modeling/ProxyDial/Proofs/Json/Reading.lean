import ProxyDial.Proofs.Json.Grammar
import ProxyDial.Proofs.Json.Value

/-!
# What can be read

A text is read as a value if and only if it is the value's tokens, written with any blanks
(`Value.ofString?_eq_some_iff`).

*What was taken.*  At each moment the tokens that the reader took can be told from what it
holds (`Reader.taken`).  So a value that was read was read from its own tokens.

*Beginnings.*  No value's tokens begin another's, so in the middle of an object a value must
be complete, and be followed by a comma or the end, before anything else is read
(`Value.beginsMember_of_ofString?`).
-/

namespace ProxyDial.Json.Value

open Token (Parted)

/-! ## What was taken -/

/-- The tokens of members, each with the comma after it. -/
def membersBefore (members : List (List Part × Value)) : List Token :=
  members.flatMap fun (key, v) => .string key :: .colon :: (v.tokens ++ [.comma])

theorem membersBefore_cons (key : List Part) (v : Value) (members : List (List Part × Value)) :
    membersBefore ((key, v) :: members) =
      .string key :: .colon :: (v.tokens ++ .comma :: membersBefore members) := by
  simp [membersBefore]

/-- The tokens of items, each with the comma after it. -/
def itemsBefore (items : List Value) : List Token := items.flatMap fun v => v.tokens ++ [.comma]

/-- The tokens of an open array or object up to the value inside it. -/
def Frame.tokens : Frame → List Token
  | .array items => .openArray :: itemsBefore items.reverse
  | .object members key =>
    .openObject :: (membersBefore members.reverse ++ [.string key, .colon])

/-- The tokens inside the innermost frame. -/
def Expect.tokens : Expect → List Token
  | .value => []
  | .firstItem => [.openArray]
  | .firstKey => [.openObject]
  | .key members => .openObject :: membersBefore members.reverse
  | .colon members name => .openObject :: (membersBefore members.reverse ++ [.string name])
  | .after v => v.tokens

/-- The tokens that a reader took. -/
def Reader.taken (r : Reader) : List Token :=
  r.stack.reverse.flatMap Frame.tokens ++ r.expect.tokens

/-- The last item of an array is followed by the end. -/
theorem tokens_array_concat (items : List Value) (v : Value) :
    (array (items ++ [v])).tokens =
      .openArray :: (itemsBefore items ++ (v.tokens ++ [.closeArray])) := by
  have hitems : ∀ items : List Value, itemTokens (items ++ [v]) =
      .comma :: (itemsBefore items ++ (v.tokens ++ [.closeArray])) := by
    intro items
    induction items with
    | nil => rfl
    | cons w items ih => simp [itemTokens, itemsBefore, ih]
  cases items with
  | nil => rfl
  | cons w items => simp [tokens, itemsBefore, hitems]

theorem tokens_object_concat (members : List (List Part × Value)) (key : List Part) (v : Value) :
    (object (members ++ [(key, v)])).tokens =
      .openObject ::
        (membersBefore members ++ .string key :: .colon :: (v.tokens ++ [.closeObject])) := by
  have hmembers : ∀ members : List (List Part × Value), memberTokens (members ++ [(key, v)]) =
      .comma ::
        (membersBefore members ++ .string key :: .colon :: (v.tokens ++ [.closeObject])) := by
    intro members
    induction members with
    | nil => rfl
    | cons m members ih => simp [memberTokens, membersBefore, ih]
  rcases members with - | ⟨other, w⟩
  · rfl
  · simp [tokens, membersBefore, hmembers]

theorem taken_of_begin? {stack : List Frame} {t : Token} {r : Reader}
    (h : Reader.begin? stack t = some r) : r.taken = stack.reverse.flatMap Frame.tokens ++ [t] := by
  unfold Reader.begin? at h
  split at h
  case h_7 => cases h
  all_goals
    cases h
    rfl

theorem taken_of_continue? {v : Value} {stack : List Frame} {t : Token} {r : Reader}
    (h : Reader.continue? v stack t = some r) :
    r.taken = stack.reverse.flatMap Frame.tokens ++ (v.tokens ++ [t]) := by
  unfold Reader.continue? at h
  split at h
  · cases h
    simp [Reader.taken, Expect.tokens, Frame.tokens, itemsBefore]
  · cases h
    simp [Reader.taken, Expect.tokens, Frame.tokens, tokens_array_concat]
  · cases h
    simp [Reader.taken, Expect.tokens, Frame.tokens, membersBefore]
  · cases h
    simp [Reader.taken, Expect.tokens, Frame.tokens, tokens_object_concat]
  · cases h

theorem taken_of_step? {r r' : Reader} {t : Token} (h : r.step? t = some r') :
    r'.taken = r.taken ++ [t] := by
  obtain ⟨stack, expect⟩ := r
  unfold Reader.step? at h
  dsimp only at h
  -- One case for each way to take a token: the first and the last but one go to `begin?` and
  -- `continue?`, the others move within a frame.
  split at h
  · rw [taken_of_begin? h]
    simp [Reader.taken, Expect.tokens]
  · cases h
    simp [Reader.taken, Expect.tokens, tokens]
  · rw [taken_of_begin? h]
    simp [Reader.taken, Expect.tokens, Frame.tokens, itemsBefore]
  · cases h
    simp [Reader.taken, Expect.tokens, tokens]
  · cases h
    simp [Reader.taken, Expect.tokens, membersBefore]
  · cases h
    simp [Reader.taken, Expect.tokens]
  · cases h
    simp [Reader.taken, Expect.tokens, Frame.tokens]
  · rw [taken_of_continue? h]
    simp [Reader.taken, Expect.tokens]
  · cases h

theorem taken_of_read {r r' : Reader} {ts : List Token} (h : ts.foldlM Reader.step? r = some r') :
    r'.taken = r.taken ++ ts := by
  induction ts generalizing r with
  | nil =>
    cases h
    exact (List.append_nil _).symm
  | cons t ts ih =>
    rw [List.foldlM_cons] at h
    obtain ⟨next, hstep, hrest⟩ := Option.bind_eq_some_iff.1 h
    rw [ih hrest, taken_of_step? hstep, List.append_assoc]
    rfl

/-- Tokens are read as a value if and only if they are its own. -/
theorem ofTokens?_eq_some_iff {ts : List Token} {v : Value} :
    ofTokens? ts = some v ↔ ts = v.tokens := by
  constructor
  · intro h
    obtain ⟨r, hread, hresult⟩ := Option.bind_eq_some_iff.1 h
    have htaken := taken_of_read hread
    obtain ⟨stack, expect⟩ := r
    unfold Reader.result? at hresult
    split at hresult
    · rename_i hstack hexpect
      cases hresult
      cases hstack
      cases hexpect
      exact htaken.symm
    · cases hresult
  · rintro rfl
    exact ofTokens?_tokens v

/-! ## Beginnings -/

/-- After a value alone nothing is read. -/
theorem eq_of_tokens_eq_append {v w : Value} {ts : List Token} (h : w.tokens = v.tokens ++ ts) :
    v = w ∧ ts = [] := by
  have hread := read_tokens [] w
  rw [h, List.foldlM_append, read_tokens] at hread
  cases ts with
  | nil =>
    cases hread
    exact ⟨rfl, rfl⟩
  | cons t ts => cases hread

/-- No value's tokens begin another's. -/
theorem eq_of_tokens_append_eq {v w : Value} {ts us : List Token}
    (h : v.tokens ++ ts = w.tokens ++ us) : v = w ∧ ts = us := by
  rcases List.append_eq_append_iff.1 h with ⟨more, hw, rfl⟩ | ⟨more, hv, rfl⟩
  · obtain ⟨rfl, rfl⟩ := eq_of_tokens_eq_append hw
    exact ⟨rfl, rfl⟩
  · obtain ⟨rfl, rfl⟩ := eq_of_tokens_eq_append hv
    exact ⟨rfl, rfl⟩

theorem exists_object_of_head? {v : Value} (h : v.tokens.head? = some .openObject) :
    ∃ members, v = .object members := by
  cases v with
  | object members => exact ⟨members, rfl⟩
  | array items => cases items <;> cases h
  | _ => cases h

theorem exists_of_memberTokens (members : List (List Part × Value)) :
    ∃ t us, memberTokens members = t :: us ∧ (t = .comma ∨ t = .closeObject) := by
  rcases members with - | ⟨⟨key, v⟩, members⟩
  · exact ⟨_, _, rfl, .inr rfl⟩
  · exact ⟨_, _, rfl, .inl rfl⟩

/-- In an object a value is complete before the comma or the end after it. -/
theorem exists_of_tokens_object {before members : List (List Part × Value)} {key : List Part}
    {ts : List Token}
    (h : (object members).tokens =
      .openObject :: (membersBefore before ++ .string key :: .colon :: ts)) :
    ∃ (v : Value) (t : Token) (us : List Token),
      ts = v.tokens ++ t :: us ∧ (t = .comma ∨ t = .closeObject) := by
  induction before generalizing members with
  | nil =>
    rcases members with - | ⟨⟨other, v⟩, members⟩
    · cases h
    · obtain ⟨t, us, hrest, ht⟩ := exists_of_memberTokens members
      cases h
      exact ⟨v, t, us, by rw [hrest], ht⟩
  | cons m before ih =>
    obtain ⟨name, w⟩ := m
    rcases members with - | ⟨⟨other, v⟩, members⟩
    · cases h
    · have hvalues : v.tokens ++ memberTokens members =
          w.tokens ++ .comma :: (membersBefore before ++ .string key :: .colon :: ts) := by
        rw [membersBefore_cons] at h
        simpa using (List.cons.inj (List.cons.inj (List.cons.inj h).2).2).2
      obtain ⟨-, hrest⟩ := eq_of_tokens_append_eq hvalues
      rcases members with - | ⟨⟨third, u⟩, members⟩
      · cases hrest
      · exact @ih ((third, u) :: members) (congrArg (Token.openObject :: ·) (List.cons.inj hrest).2)

/-! ## Texts -/

theorem isNumber_of_mem_head?_itemTokens (items : List Value) :
    ∀ t ∈ (itemTokens items).head?, t.isNumber = false := by
  cases items <;> rintro _ ⟨⟩ <;> rfl

theorem isNumber_of_mem_head?_memberTokens (members : List (List Part × Value)) :
    ∀ t ∈ (memberTokens members).head?, t.isNumber = false := by
  cases members <;> rintro _ ⟨⟩ <;> rfl

mutual

/-- A number in a value is not next to another. -/
theorem parted_tokens : ∀ v : Value, v.tokens.IsChain Parted
  | null => .singleton _
  | bool _ => .singleton _
  | number _ => .singleton _
  | string _ => .singleton _
  | array [] => Token.isChain_cons rfl (.singleton _)
  | array (v :: items) =>
    Token.isChain_cons rfl <| Token.isChain_append (parted_tokens v) (parted_itemTokens items)
      (isNumber_of_mem_head?_itemTokens items)
  | object [] => Token.isChain_cons rfl (.singleton _)
  | object ((_, v) :: members) =>
    Token.isChain_cons rfl <| Token.isChain_cons rfl <| Token.isChain_cons rfl <|
      Token.isChain_append (parted_tokens v) (parted_memberTokens members)
        (isNumber_of_mem_head?_memberTokens members)

theorem parted_itemTokens : ∀ items : List Value, (itemTokens items).IsChain Parted
  | [] => .singleton _
  | v :: items =>
    Token.isChain_cons rfl <| Token.isChain_append (parted_tokens v) (parted_itemTokens items)
      (isNumber_of_mem_head?_itemTokens items)

theorem parted_memberTokens :
    ∀ members : List (List Part × Value), (memberTokens members).IsChain Parted
  | [] => .singleton _
  | (_, v) :: members =>
    Token.isChain_cons rfl <| Token.isChain_cons rfl <| Token.isChain_cons rfl <|
      Token.isChain_append (parted_tokens v) (parted_memberTokens members)
        (isNumber_of_mem_head?_memberTokens members)

end

/-- How a value is written, with blanks between its tokens. -/
def Text (v : Value) (cs : List Char) : Prop := Token.Text v.tokens cs

/-- A text is read as a value if and only if it is one way to write it. -/
theorem ofString?_eq_some_iff {s : String} {v : Value} :
    ofString? s = some v ↔ v.Text s.toList := by
  constructor
  · intro h
    obtain ⟨ts, hts, hv⟩ := Option.bind_eq_some_iff.1 h
    rw [ofTokens?_eq_some_iff] at hv
    rw [Text, ← hv]
    exact Token.text_of_ofChars? hts
  · intro h
    have hend : Token.Apart [] := nofun
    have hts := Token.ofChars?_append h (parted_tokens v) fun _ _ _ => hend
    rw [List.append_nil, Token.ofChars?_nil, Option.map_some, List.append_nil] at hts
    rw [ofString?, hts]
    exact ofTokens?_tokens v

/-! ## In the middle of an object -/

/-- Whether a text begins with the value of a member, up to the comma or brace after it. -/
def BeginsMember (cs : List Char) : Prop :=
  ∃ (v : Value) (text : List Char) (c : Char) (after : List Char),
    cs = text ++ c :: after ∧ v.Text text ∧ (c = ',' ∨ c = '\x7d')

theorem parted_membersBefore (members : List (List Part × Value)) :
    (membersBefore members).IsChain Parted := by
  induction members with
  | nil => exact .nil
  | cons m members ih =>
    obtain ⟨key, v⟩ := m
    have hrest : (.comma :: membersBefore members : List Token).IsChain Parted :=
      Token.isChain_cons rfl ih
    rw [membersBefore_cons]
    refine Token.isChain_cons rfl (Token.isChain_cons rfl ?_)
    exact Token.isChain_append (parted_tokens v) hrest (by rintro _ ⟨⟩; rfl)

variable {before : List (List Part × Value)} {key : List Part} {pre rest : List Char}

/-- Where the value of a member must stand, nothing but a value can be read. -/
theorem beginsMember_of_ofString? {w : Value}
    (hpre : Token.Text (Frame.object before key).tokens pre)
    (h : ofString? (.ofList (pre ++ rest)) = some w) : BeginsMember rest := by
  have hparted : (Frame.object before key).tokens.IsChain Parted := by
    refine Token.isChain_cons rfl (Token.isChain_append (parted_membersBefore _) ?_ ?_)
    · exact Token.isChain_cons rfl (.singleton _)
    · rintro _ ⟨⟩
      rfl
  have hlast : (Frame.object before key).tokens.getLast? = some .colon := by
    simp [Frame.tokens, List.getLast?_cons]
  have hcut : Token.ofChars? (pre ++ rest) =
      (Token.ofChars? rest).map ((Frame.object before key).tokens ++ ·) := by
    refine Token.ofChars?_append hpre hparted fun t ht hnumber => ?_
    cases hlast.symm.trans ht
    cases hnumber
  obtain ⟨ts, hts, hw⟩ := Option.bind_eq_some_iff.1 h
  rw [String.toList_ofList, hcut] at hts
  obtain ⟨more, hmore, rfl⟩ := Option.map_eq_some_iff.1 hts
  rw [ofTokens?_eq_some_iff] at hw
  obtain ⟨members, rfl⟩ := exists_object_of_head? (hw ▸ rfl : w.tokens.head? = some .openObject)
  have hmembers : (object members).tokens =
      .openObject :: (membersBefore before.reverse ++ .string key :: .colon :: more) := by
    simpa [Frame.tokens] using hw.symm
  obtain ⟨v, t, us, rfl, ht⟩ := exists_of_tokens_object hmembers
  obtain ⟨text, single, after, rfl, htext, hsingle, -⟩ :=
    Token.exists_of_text_append (Token.text_of_ofChars? hmore)
  rcases ht with rfl | rfl
  · cases hsingle
    exact ⟨v, text, ',', after, rfl, htext, .inl rfl⟩
  · cases hsingle
    exact ⟨v, text, '\x7d', after, rfl, htext, .inr rfl⟩

end ProxyDial.Json.Value
