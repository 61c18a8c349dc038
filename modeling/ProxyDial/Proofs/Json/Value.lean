import ProxyDial.Json.Value

/-!
# Tokens of a value

`Value.tokens` writes a value out token by token.  The reader that takes these tokens has
the value, whatever is open around it, so a value of any depth is read back from its
tokens (`Value.ofTokens?_tokens`).
-/

namespace ProxyDial.Json.Value

mutual

/-- The tokens of a value. -/
def tokens : Value → List Token
  | null => [.null]
  | bool b => [.bool b]
  | number n => [.number n]
  | string parts => [.string parts]
  | array [] => [.openArray, .closeArray]
  | array (v :: items) => .openArray :: (v.tokens ++ itemTokens items)
  | object [] => [.openObject, .closeObject]
  | object ((key, v) :: members) =>
    .openObject :: .string key :: .colon :: (v.tokens ++ memberTokens members)

/-- The tokens after an item of an array: the other items and the end. -/
def itemTokens : List Value → List Token
  | [] => [.closeArray]
  | v :: items => .comma :: (v.tokens ++ itemTokens items)

/-- The tokens after a member of an object: the other members and the end. -/
def memberTokens : List (List Part × Value) → List Token
  | [] => [.closeObject]
  | (key, v) :: members =>
    .comma :: .string key :: .colon :: (v.tokens ++ memberTokens members)

end

/-- A value does not begin with the end of an array, so it may begin the first item. -/
theorem read_firstItem (v : Value) (stack : List Frame) :
    v.tokens.foldlM Reader.step? ⟨stack, .firstItem⟩ =
      v.tokens.foldlM Reader.step? ⟨.array [] :: stack, .value⟩ := by
  cases v with
  | null => rfl
  | bool b => rfl
  | number n => rfl
  | string parts => rfl
  | array items => cases items <;> rfl
  | object members => cases members <;> rfl

mutual

/-- The tokens of a value are read as that value. -/
theorem read_tokens (stack : List Frame) : ∀ v : Value,
    v.tokens.foldlM Reader.step? ⟨stack, .value⟩ = some ⟨stack, .after v⟩
  | null => rfl
  | bool _ => rfl
  | number _ => rfl
  | string _ => rfl
  | array [] => rfl
  | array (v :: items) => by
    have hfirst : v.tokens.foldlM Reader.step? ⟨stack, .firstItem⟩ =
        some ⟨.array [] :: stack, .after v⟩ := by
      rw [read_firstItem, read_tokens]
    show (v.tokens ++ itemTokens items).foldlM Reader.step? ⟨stack, .firstItem⟩ = _
    rw [List.foldlM_append, hfirst]
    exact read_itemTokens stack [] v items
  | object [] => rfl
  | object ((key, v) :: members) => by
    show (v.tokens ++ memberTokens members).foldlM Reader.step?
      ⟨.object [] key :: stack, .value⟩ = _
    rw [List.foldlM_append, read_tokens]
    exact read_memberTokens stack [] key v members

theorem read_itemTokens (stack : List Frame) (before : List Value) (v : Value) :
    ∀ items : List Value,
      (itemTokens items).foldlM Reader.step? ⟨.array before :: stack, .after v⟩ =
        some ⟨stack, .after (.array (before.reverse ++ v :: items))⟩
  | [] => by
    rw [← List.reverse_cons]
    rfl
  | w :: items => by
    have hrest := read_itemTokens stack (v :: before) w items
    rw [List.reverse_cons, List.append_assoc] at hrest
    show (w.tokens ++ itemTokens items).foldlM Reader.step?
      ⟨.array (v :: before) :: stack, .value⟩ = _
    rw [List.foldlM_append, read_tokens]
    exact hrest

theorem read_memberTokens (stack : List Frame) (before : List (List Part × Value))
    (key : List Part) (v : Value) :
    ∀ members : List (List Part × Value),
      (memberTokens members).foldlM Reader.step? ⟨.object before key :: stack, .after v⟩ =
        some ⟨stack, .after (.object (before.reverse ++ (key, v) :: members))⟩
  | [] => by
    rw [← List.reverse_cons]
    rfl
  | (other, w) :: members => by
    have hrest := read_memberTokens stack ((key, v) :: before) other w members
    rw [List.reverse_cons, List.append_assoc] at hrest
    show (w.tokens ++ memberTokens members).foldlM Reader.step?
      ⟨.object ((key, v) :: before) other :: stack, .value⟩ = _
    rw [List.foldlM_append, read_tokens]
    exact hrest

end

theorem ofTokens?_tokens (v : Value) : ofTokens? v.tokens = some v := by
  rw [ofTokens?, Reader.start, read_tokens]
  rfl

end ProxyDial.Json.Value
