import ProxyDial.Options.Json
import ProxyDial.Proofs.Json.Token
import ProxyDial.Proofs.Json.Value

/-!
# Options survive writing

Written options are the text of an object with a member for each field (`toValue`).  Its
members have different names, so each of them sets its own field, and what is read is what
was written (`ofJson?_written`).
-/

namespace ProxyDial

open Json (Value Token Quoted.part)

/-! ## Values of the fields -/

namespace Json.Value

theorem text?_written (s : String) : text? (.string (s.toList.map Quoted.part)) = some s := by
  rw [text?, Quoted.text?_map_part, Option.map_some, String.ofList_toList]

theorem uint64?_written (n : UInt64) : uint64? (.number (some n.toNat)) = some n := by
  rw [uint64?, if_pos n.toNat_lt_size, UInt64.ofNat_toNat]

end Json.Value

namespace Options

/-- The value that is written for a field. -/
def fieldValue (o : Options) : Field → Value
  | .connectTimeoutSecs => .number (some o.connectTimeoutSecs.toNat)
  | .handshakeTimeoutSecs => .number (some o.handshakeTimeoutSecs.toNat)
  | .resolveTimeoutSecs =>
    match o.resolveTimeoutSecs with
    | none => .null
    | some secs => .number (some secs.toNat)
  | .family => .string (o.family.name.toList.map Quoted.part)
  | .userId => .string (o.userId.toList.map Quoted.part)

/-- The member that is written for a field. -/
def fieldMember (o : Options) (f : Field) : List Json.Part × Value :=
  (f.key.toList.map Quoted.part, o.fieldValue f)

/-- The value that options are written as. -/
def toValue (o : Options) : Value := .object (Field.all.map o.fieldMember)

/-! ## Reading the text -/

variable (o : Options)

theorem ofChars?_valueText (f : Field) {cs : List Char} (hcs : Token.Apart cs) :
    Token.ofChars? (o.valueText f ++ cs) =
      (Token.ofChars? cs).map ((o.fieldValue f).tokens ++ ·) := by
  cases f with
  | connectTimeoutSecs => exact Token.ofChars?_number _ hcs
  | handshakeTimeoutSecs => exact Token.ofChars?_number _ hcs
  | resolveTimeoutSecs =>
    unfold valueText fieldValue
    cases o.resolveTimeoutSecs with
    | none => exact Token.ofChars?_null cs
    | some secs => exact Token.ofChars?_number _ hcs
  | family => exact Token.ofChars?_quoted _ cs
  | userId => exact Token.ofChars?_quoted _ cs

theorem ofChars?_member (f : Field) {cs : List Char} (hcs : Token.Apart cs) :
    Token.ofChars? (member f (o.valueText f) ++ cs) =
      (Token.ofChars? cs).map fun tokens =>
        .string (f.key.toList.map Quoted.part) :: .colon ::
          ((o.fieldValue f).tokens ++ tokens) := by
  rw [member, List.append_assoc, List.cons_append, Token.ofChars?_quoted, Token.ofChars?_colon,
    ofChars?_valueText o f hcs]
  simp only [Option.map_map]
  rfl

/-- Members with commas between them, up to the end of the object. -/
theorem ofChars?_members (f : Field) (fields : List Field) :
    Token.ofChars? (join ',' ((f :: fields).map fun f => member f (o.valueText f)) ++ ['\x7d']) =
      some (.string (f.key.toList.map Quoted.part) :: .colon ::
        ((o.fieldValue f).tokens ++ Value.memberTokens (fields.map o.fieldMember))) := by
  have hclose : Token.Apart ['\x7d'] := by simp [Token.Apart]
  have hcomma (cs : List Char) : Token.Apart (',' :: cs) := by simp [Token.Apart]
  induction fields generalizing f with
  | nil =>
    rw [List.map_singleton, join, ofChars?_member o f hclose, Token.ofChars?_closeObject,
      Token.ofChars?_nil]
    rfl
  | cons g fields ih =>
    have hrest := ih g
    rw [List.map_cons] at hrest
    rw [List.map_cons, List.map_cons, join, List.append_assoc, List.cons_append,
      ofChars?_member o f (hcomma _), Token.ofChars?_comma, hrest]
    · rfl
    · exact List.cons_ne_nil _ _

theorem ofString?_toJson : Value.ofString? o.toJson = some o.toValue := by
  have hmembers := ofChars?_members o .connectTimeoutSecs Field.all.tail
  have htokens : Token.ofChars? o.toJson.toList = some o.toValue.tokens := by
    rw [toJson, String.toList_ofList, List.cons_append, Token.ofChars?_openObject]
    rw [Field.all, List.tail_cons] at hmembers
    rw [Field.all, hmembers]
    rfl
  rw [Value.ofString?, htokens, Option.bind_eq_bind, Option.bind_some, Value.ofTokens?_tokens]

/-! ## Setting the fields -/

/-- Options with one field as in `o`. -/
def copy (base : Options) : Field → Options
  | .connectTimeoutSecs => { base with connectTimeoutSecs := o.connectTimeoutSecs }
  | .handshakeTimeoutSecs => { base with handshakeTimeoutSecs := o.handshakeTimeoutSecs }
  | .resolveTimeoutSecs => { base with resolveTimeoutSecs := o.resolveTimeoutSecs }
  | .family => { base with family := o.family }
  | .userId => { base with userId := o.userId }

theorem set?_fieldValue (base : Options) (f : Field) :
    base.set? (o.fieldValue f) f = some (o.copy base f) := by
  cases f with
  | connectTimeoutSecs => rw [fieldValue, set?, Value.uint64?_written]; rfl
  | handshakeTimeoutSecs => rw [fieldValue, set?, Value.uint64?_written]; rfl
  | resolveTimeoutSecs =>
    unfold fieldValue set? copy
    cases o.resolveTimeoutSecs with
    | none => rfl
    | some secs =>
      dsimp only [Value.optional?]
      rw [Value.uint64?_written]
      rfl
  | family =>
    have hname : Value.family? (.string (o.family.name.toList.map Quoted.part)) =
        some o.family := by
      rw [Value.family?, Value.text?_written]
      exact Family.ofName?_name o.family
    rw [fieldValue, set?, hname]
    rfl
  | userId => rw [fieldValue, set?, Value.text?_written]; rfl

/-- Members of different fields set one field each. -/
theorem setMembers?_fieldMember {fields seen : List Field} (hnodup : fields.Nodup)
    (hseen : ∀ f ∈ fields, f ∉ seen) (base : Options) :
    setMembers? seen base (fields.map o.fieldMember) = some (fields.foldl o.copy base) := by
  induction fields generalizing seen base with
  | nil => rfl
  | cons f fields ih =>
    obtain ⟨hf, hnodup⟩ := List.nodup_cons.1 hnodup
    have hrest : ∀ g ∈ fields, g ∉ f :: seen := by
      intro g hg hmem
      rcases List.mem_cons.1 hmem with rfl | hmem
      · exact hf hg
      · exact hseen g (.tail _ hg) hmem
    rw [List.map_cons, fieldMember, setMembers?]
    simp only [Value.text?_written, Field.ofKey?_key, if_neg (hseen f (.head _)),
      set?_fieldValue]
    exact ih hnodup hrest _

theorem ofValue?_toValue : ofValue? o.toValue = some o := by
  have hall : Field.all.Nodup := by decide
  rw [toValue, ofValue?, setMembers?_fieldMember o hall (by simp)]
  rfl

theorem ofJson?_toJson : ofJson? o.toJson = some o := by
  rw [ofJson?, ofString?_toJson]
  exact ofValue?_toValue o

/-! ## The text -/

/-- No key and no name of a family holds a character that is escaped. -/
theorem member_eq (f : Field) (value : List Char) :
    member f value = '"' :: (f.key.toList ++ '"' :: ':' :: value) := by
  have hkey : Json.Quoted.write f.key.toList = '"' :: (f.key.toList ++ ['"']) := by
    cases f <;> decide +kernel
  rw [member, hkey, List.cons_append, List.append_assoc]
  rfl

theorem write_name (family : Family) :
    Json.Quoted.write family.name.toList = '"' :: (family.name.toList ++ ['"']) := by
  cases family <;> decide +kernel

theorem valueText_resolveTimeoutSecs :
    o.valueText .resolveTimeoutSecs =
      o.resolveTimeoutSecs.elim "null".toList fun secs => Decimal.write secs.toNat := by
  unfold valueText
  cases o.resolveTimeoutSecs <;> rfl

/-- Options are written as one object without blanks, which has the fields in order. -/
theorem toList_toJson :
    o.toJson.toList =
      "\x7b\"connect_timeout_secs\":".toList ++ Decimal.write o.connectTimeoutSecs.toNat ++
      ",\"handshake_timeout_secs\":".toList ++ Decimal.write o.handshakeTimeoutSecs.toNat ++
      ",\"resolve_timeout_secs\":".toList ++
        o.resolveTimeoutSecs.elim "null".toList (fun secs => Decimal.write secs.toNat) ++
      ",\"family\":\"".toList ++ o.family.name.toList ++
      "\",\"user_id\":".toList ++ Json.Quoted.write o.userId.toList ++ "\x7d".toList := by
  rw [toJson, String.toList_ofList, Field.all]
  simp only [List.map_cons, List.map_nil, join, member_eq, valueText_resolveTimeoutSecs]
  simp [valueText, write_name, Field.key]

/-- Written options are read back as they were, and written again they make the same text.
The text is the compact one. -/
theorem ofJson?_written :
    ofJson? o.toJson = some o ∧
    (ofJson? o.toJson).map toJson = some o.toJson ∧
    o.toJson.toList =
      "\x7b\"connect_timeout_secs\":".toList ++ Decimal.write o.connectTimeoutSecs.toNat ++
      ",\"handshake_timeout_secs\":".toList ++ Decimal.write o.handshakeTimeoutSecs.toNat ++
      ",\"resolve_timeout_secs\":".toList ++
        o.resolveTimeoutSecs.elim "null".toList (fun secs => Decimal.write secs.toNat) ++
      ",\"family\":\"".toList ++ o.family.name.toList ++
      "\",\"user_id\":".toList ++ Json.Quoted.write o.userId.toList ++ "\x7d".toList := by
  refine ⟨ofJson?_toJson o, ?_, toList_toJson o⟩
  rw [ofJson?_toJson, Option.map_some]

end Options

end ProxyDial
