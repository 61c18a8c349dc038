import ProxyDial.Json.Token

/-!
# Values of JSON

A text is a value if its tokens follow the grammar.  The reader keeps the arrays
and objects that are still open on a stack, so that it takes one token after the
other and values may be nested to any depth.

The tree keeps strings in parts and numbers by their natural value alone.  Whether
a string has a text and a number has a value is asked only of members that are
used.
-/

namespace ProxyDial.Json

/-- A value. -/
inductive Value where
  | null
  | bool (b : Bool)
  /-- A number, with its value if it is written with digits alone. -/
  | number (value : Option Nat)
  | string (parts : List Part)
  | array (items : List Value)
  /-- An object, with its members in the order in which they are written. -/
  | object (members : List (List Part × Value))

namespace Value

/-- An array or object that is still open. -/
inductive Frame where
  /-- An array, with the items so far, last one first. -/
  | array (items : List Value)
  /-- An object, with the members so far, last one first, and the key of the
  member being read. -/
  | object (members : List (List Part × Value)) (key : List Part)

/-- What the grammar allows next. -/
inductive Expect where
  | value
  /-- The first item of an array, or its end. -/
  | firstItem
  /-- The first key of an object, or its end. -/
  | firstKey
  /-- A key, after the members so far. -/
  | key (members : List (List Part × Value))
  /-- The colon after a key. -/
  | colon (members : List (List Part × Value)) (key : List Part)
  /-- A comma or an end after a complete value. -/
  | after (v : Value)

/-- A reader in the middle of a text. -/
structure Reader where
  /-- The arrays and objects that are open, innermost first. -/
  stack : List Frame
  /-- What may come next. -/
  expect : Expect

/-- The reader before the first token. -/
def Reader.start : Reader := ⟨[], .value⟩

/-- Begin a value with its first token. -/
def Reader.begin? (stack : List Frame) : Token → Option Reader
  | .null => some ⟨stack, .after .null⟩
  | .bool b => some ⟨stack, .after (.bool b)⟩
  | .number n => some ⟨stack, .after (.number n)⟩
  | .string parts => some ⟨stack, .after (.string parts)⟩
  | .openArray => some ⟨stack, .firstItem⟩
  | .openObject => some ⟨stack, .firstKey⟩
  | _ => none

/-- Go on after the value `v`, which stands inside the innermost open frame. -/
def Reader.continue? (v : Value) : List Frame → Token → Option Reader
  | .array items :: stack, .comma => some ⟨.array (v :: items) :: stack, .value⟩
  | .array items :: stack, .closeArray =>
    some ⟨stack, .after (.array (v :: items).reverse)⟩
  | .object members key :: stack, .comma => some ⟨stack, .key ((key, v) :: members)⟩
  | .object members key :: stack, .closeObject =>
    some ⟨stack, .after (.object ((key, v) :: members).reverse)⟩
  | _, _ => none

/-- Take one token. -/
def Reader.step? (r : Reader) (t : Token) : Option Reader :=
  match r.expect, t with
  | .value, t => begin? r.stack t
  | .firstItem, .closeArray => some ⟨r.stack, .after (.array [])⟩
  | .firstItem, t => begin? (.array [] :: r.stack) t
  | .firstKey, .closeObject => some ⟨r.stack, .after (.object [])⟩
  | .firstKey, .string key => some ⟨r.stack, .colon [] key⟩
  | .key members, .string key => some ⟨r.stack, .colon members key⟩
  | .colon members key, .colon => some ⟨.object members key :: r.stack, .value⟩
  | .after v, t => continue? v r.stack t
  | _, _ => none

/-- The value that was read, if nothing is open. -/
def Reader.result? (r : Reader) : Option Value :=
  match r.stack, r.expect with
  | [], .after v => some v
  | _, _ => none

/-- The value that tokens write. -/
def ofTokens? (tokens : List Token) : Option Value := do
  let r ← tokens.foldlM Reader.step? Reader.start
  r.result?

/-- The value that a text writes. -/
def ofString? (s : String) : Option Value := Token.ofChars? s.toList >>= ofTokens?

example : (ofTokens? [.openArray, .closeArray]).isSome = true := by decide
example : (ofTokens? [.openArray, .null, .comma, .closeArray]).isNone = true := by decide
example : (ofTokens? [.null, .null]).isNone = true := by decide
example : (ofTokens? [.openObject, .string [], .colon, .null, .closeObject]).isSome = true := by
  decide

end Value

end ProxyDial.Json
