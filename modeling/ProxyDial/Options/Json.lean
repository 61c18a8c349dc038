import ProxyDial.Json.Value
import ProxyDial.Options

/-!
# Options in JSON

Options are an object with a member for each field, or an array of the fields in
order that may stop early.  A field that is missing has its default value.  Members
of other names are passed over, and a known name may occur once.

Options are written as an object with all five members and no blanks.
-/

namespace ProxyDial

open Json (Value Part)

/-! ## Values of the fields -/

namespace Json.Value

/-- A string with its text. -/
def text? : Value → Option String
  | string parts => (Quoted.text? parts).map String.ofList
  | _ => none

/-- A natural number of 64 bits. -/
def uint64? : Value → Option UInt64
  | number (some n) => if n < UInt64.size then some (.ofNat n) else none
  | _ => none

/-- A value that may be `null`. -/
def optional? {α : Type} (read : Value → Option α) : Value → Option (Option α)
  | null => some none
  | v => (read v).map some

/-- A family: its name, or an object with the name as its one key and the value
`null`. -/
def family? : Value → Option Family
  | object [(key, null)] => text? (string key) >>= Family.ofName?
  | string parts => text? (string parts) >>= Family.ofName?
  | _ => none

end Json.Value

/-- The family that a JSON text writes. -/
def Family.ofJson? (s : String) : Option Family := Value.ofString? s >>= Value.family?

namespace Options

/-! ## Reading -/

/-- The names of the fields. -/
inductive Field where
  | connectTimeoutSecs
  | handshakeTimeoutSecs
  | resolveTimeoutSecs
  | family
  | userId
deriving DecidableEq, Repr

namespace Field

/-- The fields in order. -/
def all : List Field :=
  [connectTimeoutSecs, handshakeTimeoutSecs, resolveTimeoutSecs, family, userId]

/-- The key of a field. -/
def key : Field → String
  | connectTimeoutSecs => "connect_timeout_secs"
  | handshakeTimeoutSecs => "handshake_timeout_secs"
  | resolveTimeoutSecs => "resolve_timeout_secs"
  | family => "family"
  | userId => "user_id"

/-- The field with this key. -/
def ofKey? (s : String) : Option Field := all.find? fun f => f.key = s

theorem ofKey?_key (f : Field) : ofKey? f.key = some f := by cases f <;> decide

end Field

/-- Options with one field set to a value. -/
def set? (o : Options) (v : Value) : Field → Option Options
  | .connectTimeoutSecs => v.uint64?.map fun secs => { o with connectTimeoutSecs := secs }
  | .handshakeTimeoutSecs => v.uint64?.map fun secs => { o with handshakeTimeoutSecs := secs }
  | .resolveTimeoutSecs =>
    (v.optional? Value.uint64?).map fun secs => { o with resolveTimeoutSecs := secs }
  | .family => v.family?.map fun family => { o with family }
  | .userId => v.text?.map fun userId => { o with userId }

/-- Options with the members of an object set, one after the other.  The fields in
`seen` may not be set again. -/
def setMembers? (seen : List Field) (o : Options) :
    List (List Part × Value) → Option Options
  | [] => some o
  | (key, v) :: members =>
    match Value.text? (.string key) with
    | none => none
    | some name =>
      match Field.ofKey? name with
      | none => setMembers? seen o members
      | some field =>
        if field ∈ seen then none
        else
          match o.set? v field with
          | none => none
          | some o => setMembers? (field :: seen) o members

/-- Options with the given fields set to the items of an array, as far as the items
go.  There may not be more items than fields. -/
def setItems? (o : Options) : List Field → List Value → Option Options
  | _, [] => some o
  | [], _ :: _ => none
  | field :: fields, v :: items =>
    match o.set? v field with
    | none => none
    | some o => setItems? o fields items

/-- The options that a value writes. -/
def ofValue? : Value → Option Options
  | .object members => setMembers? [] {} members
  | .array items => setItems? {} Field.all items
  | _ => none

/-- The options that a JSON text writes. -/
def ofJson? (s : String) : Option Options := Value.ofString? s >>= ofValue?

/-! ## Writing -/

/-- A member of a written object. -/
def member (f : Field) (value : List Char) : List Char :=
  Json.Quoted.write f.key.toList ++ ':' :: value

/-- The value of a field in a written object. -/
def valueText (o : Options) : Field → List Char
  | .connectTimeoutSecs => Decimal.write o.connectTimeoutSecs.toNat
  | .handshakeTimeoutSecs => Decimal.write o.handshakeTimeoutSecs.toNat
  | .resolveTimeoutSecs =>
    match o.resolveTimeoutSecs with
    | none => ['n', 'u', 'l', 'l']
    | some secs => Decimal.write secs.toNat
  | .family => Json.Quoted.write o.family.name.toList
  | .userId => Json.Quoted.write o.userId.toList

/-- The options as JSON. -/
def toJson (o : Options) : String :=
  .ofList ('\x7b' :: join ',' (Field.all.map fun f => member f (o.valueText f)) ++ ['\x7d'])

end Options

end ProxyDial
