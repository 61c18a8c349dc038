import ProxyDial.Text.Hex

/-!
# Strings in JSON

A string is read in two stages.  `units?` finds its end and takes the escapes
apart.  `text?` makes characters of the parts, where two escapes that form a
surrogate pair are one character and a surrogate without its partner is an error.
A string whose text nobody asks for goes through the first stage alone.

Writing escapes the quote, the backslash and the control characters and nothing
else.  `length_of_units?` says that a string ends before its text does, which is
why cutting a text into tokens ends.
-/

namespace ProxyDial.Json

/-- A part of a string. -/
inductive Part where
  /-- A character that stands for itself, or a short escape. -/
  | char (c : Char)
  /-- An escape that gives a code unit of sixteen bits. -/
  | unit (n : Nat)
deriving DecidableEq, Repr

namespace Quoted

/-- The character of a short escape. -/
def shortEscape? (c : Char) : Option Char :=
  match c with
  | '"' => some '"'
  | '\\' => some '\\'
  | '/' => some '/'
  | 'b' => some '\x08'
  | 'f' => some '\x0c'
  | 'n' => some '\n'
  | 'r' => some '\r'
  | 't' => some '\t'
  | _ => none

/-- The parts of a string up to its closing quote, and what follows the quote. -/
def units? : List Char → Option (List Part × List Char)
  | [] => none
  | c :: cs =>
    if c = '"' then some ([], cs)
    else if c = '\\' then
      match cs with
      | [] => none
      | e :: cs =>
        if e = 'u' then
          match cs with
          | h1 :: h2 :: h3 :: h4 :: rest =>
            match Hex.number? [h1, h2, h3, h4] with
            | none => none
            | some n => (units? rest).map fun (parts, rest) => (.unit n :: parts, rest)
          | _ => none
        else
          match shortEscape? e with
          | none => none
          | some c => (units? cs).map fun (parts, rest) => (.char c :: parts, rest)
    else if c.toNat < 0x20 then none
    else (units? cs).map fun (parts, rest) => (.char c :: parts, rest)

/-- Whether a code unit is the first half of a surrogate pair. -/
def isHigh (n : Nat) : Bool := decide (0xD800 ≤ n ∧ n < 0xDC00)

/-- Whether a code unit is the second half of a surrogate pair. -/
def isLow (n : Nat) : Bool := decide (0xDC00 ≤ n ∧ n < 0xE000)

/-- The characters that the parts of a string stand for. -/
def text? : List Part → Option (List Char)
  | [] => some []
  | .char c :: parts => (text? parts).map (c :: ·)
  | .unit n :: parts =>
    if isHigh n then
      match parts with
      | .unit m :: parts =>
        if isLow m then
          (text? parts).map (.ofNat (0x10000 + (n - 0xD800) * 0x400 + (m - 0xDC00)) :: ·)
        else none
      | _ => none
    else if isLow n then none
    else (text? parts).map (.ofNat n :: ·)

/-- A character inside a written string. -/
def escape (c : Char) : List Char :=
  if c = '"' then ['\\', '"']
  else if c = '\\' then ['\\', '\\']
  else if c = '\x08' then ['\\', 'b']
  else if c = '\x0c' then ['\\', 'f']
  else if c = '\n' then ['\\', 'n']
  else if c = '\r' then ['\\', 'r']
  else if c = '\t' then ['\\', 't']
  else if c.toNat < 0x20 then '\\' :: 'u' :: '0' :: '0' :: Hex.byteDigits (.ofNat c.toNat)
  else [c]

/-- A string with its quotes. -/
def write (cs : List Char) : List Char := '"' :: (cs.flatMap escape ++ ['"'])

/-- A string ends before the text does. -/
theorem length_of_units? {cs rest : List Char} {parts : List Part}
    (h : units? cs = some (parts, rest)) : rest.length < cs.length := by
  fun_induction units? cs generalizing parts with
  | case1 => cases h
  | case2 => cases h; simp
  | case3 => cases h
  | case4 => cases h
  | case5 _ _ _ _ _ _ _ _ ih =>
    obtain ⟨⟨_, _⟩, hp, he⟩ := Option.map_eq_some_iff.1 h
    cases he
    have := ih hp
    simp only [List.length_cons]; omega
  | case6 => cases h
  | case7 => cases h
  | case8 _ _ _ _ _ _ ih =>
    obtain ⟨⟨_, _⟩, hp, he⟩ := Option.map_eq_some_iff.1 h
    cases he
    have := ih hp
    simp only [List.length_cons]; omega
  | case9 => cases h
  | case10 _ _ _ _ _ ih =>
    obtain ⟨⟨_, _⟩, hp, he⟩ := Option.map_eq_some_iff.1 h
    cases he
    have := ih hp
    simp only [List.length_cons]; omega

example : units? "a\\u00e9\\n\" x".toList
    = some ([.char 'a', .unit 0xe9, .char '\n'], " x".toList) := by decide +kernel
example : text? [.unit 0xD83D, .unit 0xDE00] = some ['😀'] := by decide +kernel
example : text? [.unit 0xDE00] = none := by decide
example : write "a\"\x01".toList = "\"a\\\"\\u0001\"".toList := by decide +kernel

end Quoted

end ProxyDial.Json
