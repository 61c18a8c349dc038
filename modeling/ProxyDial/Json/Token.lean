import ProxyDial.Json.Quoted
import ProxyDial.Text.Decimal

/-!
# Tokens of JSON

A text is cut into punctuation, names, numbers and strings, with blanks between
them.  Of a number only its value as a natural number is kept, if it is written
with digits alone.  Two tokens that are not punctuation may touch here, as in
`1true`.  No value is written so, and the grammar of values refuses it.
-/

namespace ProxyDial.Json

/-- A token. -/
inductive Token where
  /-- The bracket `[`. -/
  | openArray
  /-- The bracket `]`. -/
  | closeArray
  /-- An opening brace. -/
  | openObject
  /-- A closing brace. -/
  | closeObject
  /-- The colon between a key and its value. -/
  | colon
  /-- The comma between two values. -/
  | comma
  /-- The name `null`. -/
  | null
  /-- One of the names `true` and `false`. -/
  | bool (b : Bool)
  /-- A number, with its value if it has neither sign, fraction nor exponent. -/
  | number (value : Option Nat)
  /-- A string. -/
  | string (parts : List Part)
deriving DecidableEq, Repr

namespace Token

/-- The blanks of JSON. -/
def isBlank (c : Char) : Bool := c = ' ' || c = '\n' || c = '\t' || c = '\r'

/-- A run of digits, at least one, and what follows it. -/
def digits? (cs : List Char) : Option (List Char × List Char) :=
  let run := cs.takeWhile Char.isDigit
  if run = [] then none else some (run, cs.dropWhile Char.isDigit)

/-- What follows a fraction, if there is one, and whether there is. -/
def fraction? (cs : List Char) : Option (Bool × List Char) :=
  match cs with
  | '.' :: cs => (digits? cs).map fun (_, rest) => (true, rest)
  | cs => some (false, cs)

/-- A text without its sign, if it starts with one. -/
def dropSign (cs : List Char) : List Char :=
  match cs with
  | '+' :: cs => cs
  | '-' :: cs => cs
  | cs => cs

/-- What follows an exponent, if there is one, and whether there is. -/
def exponent? (cs : List Char) : Option (Bool × List Char) :=
  match cs with
  | [] => some (false, [])
  | c :: rest =>
    if c = 'e' ∨ c = 'E' then (digits? (dropSign rest)).map fun (_, rest) => (true, rest)
    else some (false, c :: rest)

/-- A number without sign, and what follows it.  A leading zero stands alone. -/
def unsigned? (cs : List Char) : Option (Option Nat × List Char) :=
  match digits? cs with
  | none => none
  | some (run, rest) =>
    if run.head? = some '0' ∧ run ≠ ['0'] then none
    else
      match fraction? rest with
      | none => none
      | some (hasFraction, rest) =>
        (exponent? rest).map fun (hasExponent, rest) =>
          (if hasFraction || hasExponent then none else some (Nat.ofDigitChars 10 run 0), rest)

/-- A name that starts with `c`, and what follows it. -/
def name? (c : Char) (cs : List Char) : Option (Token × List Char) :=
  match c, cs with
  | 'n', 'u' :: 'l' :: 'l' :: rest => some (null, rest)
  | 't', 'r' :: 'u' :: 'e' :: rest => some (bool true, rest)
  | 'f', 'a' :: 'l' :: 's' :: 'e' :: rest => some (bool false, rest)
  | _, _ => none

/-- The token that starts with `c`, and what follows it. -/
def next? (c : Char) (cs : List Char) : Option (Token × List Char) :=
  if c = '[' then some (openArray, cs)
  else if c = ']' then some (closeArray, cs)
  else if c = '\x7b' then some (openObject, cs)
  else if c = '\x7d' then some (closeObject, cs)
  else if c = ':' then some (colon, cs)
  else if c = ',' then some (comma, cs)
  else if c = '"' then (Quoted.units? cs).map fun (parts, rest) => (string parts, rest)
  else if c = '-' then (unsigned? cs).map fun (_, rest) => (number none, rest)
  else if c.isDigit then (unsigned? (c :: cs)).map fun (value, rest) => (number value, rest)
  else name? c cs

/-! ## What follows is shorter -/

theorem length_dropWhile_le {α : Type} (p : α → Bool) (l : List α) :
    (l.dropWhile p).length ≤ l.length := (List.dropWhile_suffix p).length_le

theorem length_of_digits? {cs run rest : List Char} (h : digits? cs = some (run, rest)) :
    rest.length < cs.length := by
  unfold digits? at h
  dsimp only at h
  split at h
  · cases h
  · next hne =>
    cases h
    have split : (cs.takeWhile Char.isDigit ++ cs.dropWhile Char.isDigit).length = cs.length := by
      rw [List.takeWhile_append_dropWhile]
    have pos := List.length_pos_iff.2 hne
    rw [List.length_append] at split
    omega

theorem length_of_fraction? {cs rest : List Char} {b : Bool}
    (h : fraction? cs = some (b, rest)) : rest.length ≤ cs.length := by
  unfold fraction? at h
  split at h
  · obtain ⟨⟨_, _⟩, hd, he⟩ := Option.map_eq_some_iff.1 h
    cases he
    have := length_of_digits? hd
    simp only [List.length_cons]; omega
  · cases h; exact Nat.le_refl _

theorem length_dropSign_le (cs : List Char) : (dropSign cs).length ≤ cs.length := by
  unfold dropSign; split <;> simp

theorem length_of_exponent? {cs rest : List Char} {b : Bool}
    (h : exponent? cs = some (b, rest)) : rest.length ≤ cs.length := by
  unfold exponent? at h
  split at h
  · cases h; simp
  · next c cs =>
    split at h
    · obtain ⟨⟨_, _⟩, hd, he⟩ := Option.map_eq_some_iff.1 h
      cases he
      have := length_of_digits? hd
      have := length_dropSign_le cs
      simp only [List.length_cons]; omega
    · cases h; simp

theorem length_of_unsigned? {cs rest : List Char} {v : Option Nat}
    (h : unsigned? cs = some (v, rest)) : rest.length < cs.length := by
  unfold unsigned? at h
  split at h
  · cases h
  · next run mid hd =>
    split at h
    · cases h
    · split at h
      · cases h
      · next _ f mid' hf =>
        obtain ⟨⟨_, _⟩, hx, he⟩ := Option.map_eq_some_iff.1 h
        cases he
        have := length_of_digits? hd
        have := length_of_fraction? hf
        have := length_of_exponent? hx
        omega

theorem length_of_name? {c : Char} {cs rest : List Char} {t : Token}
    (h : name? c cs = some (t, rest)) : rest.length ≤ cs.length := by
  unfold name? at h
  split at h
  case h_4 => cases h
  all_goals cases h; simp only [List.length_cons]; omega

theorem length_of_next? {c : Char} {cs rest : List Char} {t : Token}
    (h : next? c cs = some (t, rest)) : rest.length ≤ cs.length := by
  unfold next? at h
  iterate 6
    split at h
    · cases h; exact Nat.le_refl _
  split at h
  · obtain ⟨⟨_, _⟩, hp, he⟩ := Option.map_eq_some_iff.1 h
    cases he
    exact Nat.le_of_lt (Quoted.length_of_units? hp)
  split at h
  · obtain ⟨⟨_, _⟩, hp, he⟩ := Option.map_eq_some_iff.1 h
    cases he
    exact Nat.le_of_lt (length_of_unsigned? hp)
  split at h
  · obtain ⟨⟨_, _⟩, hp, he⟩ := Option.map_eq_some_iff.1 h
    cases he
    exact Nat.le_of_lt_succ (length_of_unsigned? hp)
  · exact length_of_name? h

/-- The tokens of a text. -/
def ofChars? (cs : List Char) : Option (List Token) :=
  match _h : cs.dropWhile isBlank with
  | [] => some []
  | c :: cs' =>
    match _h' : next? c cs' with
    | none => none
    | some (t, rest) => (ofChars? rest).map (t :: ·)
termination_by cs.length
decreasing_by
  have := length_of_next? _h'
  have := length_dropWhile_le isBlank cs
  rw [_h] at this
  simp only [List.length_cons] at this
  omega

example : ofChars? " [1, true]".toList
    = some [openArray, number (some 1), comma, bool true, closeArray] := by cbv
example : ofChars? "-0 1.5e+3".toList = some [number none, number none] := by cbv
example : ofChars? "01".toList = none := by cbv
example : ofChars? "1.".toList = none := by cbv

end Token

end ProxyDial.Json
