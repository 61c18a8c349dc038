/-!
# Plain text

Text for a terminal may hold control characters and escape sequences.  The plain
text is what is left without them.  Of the control characters only white space stays:
tab, line feed, form feed and carriage return.

An escape sequence begins with ESC.  A `Mode` says how far a sequence has come.  Most
sequences end with a letter.  A string ends with a string terminator, and an operating
system command with BEL too.  CAN, SUB and another ESC break every sequence off.

White space in a sequence is kept.  It suspends the sequence: what follows is text,
up to the next character that is not, and there the sequence goes on.

A sequence is one of bytes.  The string terminator is the byte `0x9c`, and it counts
also as a part of a longer character.
-/

namespace ProxyDial.Plain

/-- How far an escape sequence has come. -/
inductive Mode where
  /-- There is none. -/
  | text
  /-- ESC was read. -/
  | escape
  /-- A sequence of one letter has intermediate characters. -/
  | intermediate
  /-- A control sequence has begun. -/
  | control
  /-- A device control string has begun. -/
  | device
  /-- A device control string has parameters. -/
  | deviceParameters
  /-- A device control string has intermediate characters. -/
  | deviceIntermediate
  /-- A string goes on up to its terminator. -/
  | string
  /-- An operating system command goes on up to its end. -/
  | command
deriving DecidableEq, Repr

/-- A control character that is white space. -/
def isLayout (c : Char) : Bool := c = '\t' || c = '\n' || c = '\x0c' || c = '\r'

/-- An ASCII character that is seen. -/
def isGraphic (c : Char) : Bool := decide (0x20 ≤ c.toNat ∧ c.toNat ≤ 0x7e)

/-- A character from the first code point to the last. -/
def isIn (first last : Nat) (c : Char) : Bool := decide (first ≤ c.toNat ∧ c.toNat ≤ last)

namespace Mode

/-- Whether control characters take effect within a sequence. -/
def obeysControls : Mode → Bool
  | text | escape | intermediate | control => true
  | device | deviceParameters | deviceIntermediate | string | command => false

/-- The mode after ESC and a character. -/
def afterEscape (c : Char) : Mode :=
  if c = '[' then control
  else if c = ']' then command
  else if c = 'P' then device
  else if c = 'X' || c = '^' || c = '_' then string
  else if isIn 0x20 0x2f c then intermediate
  else if isIn 0x30 0x7e c then text
  else escape

/-- The mode after an ASCII character, unless the sequence is broken off. -/
def proceed (m : Mode) (c : Char) : Mode :=
  match m with
  | text => text
  | escape => afterEscape c
  | intermediate => if isIn 0x30 0x7e c then text else intermediate
  | control => if isIn 0x40 0x7e c then text else control
  | device =>
    if isIn 0x20 0x2f c then deviceIntermediate
    else if isIn 0x30 0x3f c then deviceParameters
    else if isIn 0x40 0x7e c then string
    else device
  | deviceParameters =>
    if isIn 0x20 0x2f c then deviceIntermediate
    else if isIn 0x3c 0x7e c then string
    else deviceParameters
  | deviceIntermediate => if isIn 0x30 0x7e c then string else deviceIntermediate
  | string => string
  | command => if c = '\x07' then text else command

/-- The mode after a character that is not ASCII. -/
def pass (m : Mode) (c : Char) : Mode :=
  match m with
  | string => if 0x9c ∈ String.utf8EncodeChar c then text else string
  | m => m

/-- The mode after a character. -/
def next (m : Mode) (c : Char) : Mode :=
  if c = '\x18' || c = '\x1a' then text
  else if c = '\x1b' then escape
  else if c.toNat < 0x80 then m.proceed c
  else m.pass c

/-- Whether a character is kept. -/
def keeps (m : Mode) (c : Char) : Bool :=
  isLayout c && m.obeysControls || m = text && (isGraphic c || 0x80 ≤ c.toNat)

end Mode

/-- The plain text of what follows.  With `inText` characters are text, whatever the
mode, until one is not. -/
def scan (m : Mode) (inText : Bool) : List Char → List Char
  | [] => []
  | c :: cs =>
    if inText then
      if Mode.text.keeps c then c :: scan (if c.toNat < 0x80 then m else .text) true cs
      else scan (m.next c) false cs
    else if m.keeps c then c :: scan (m.next c) true cs
    else scan (m.next c) false cs

/-- The plain text of a text. -/
def plain (text : List Char) : List Char := scan .text true text

example : plain "A\x1b[1;32mB\x1b[0mC".toList = "ABC".toList := by decide
example : plain "a\x07\x7f\tb".toList = "a\tb".toList := by decide
example : plain "a\x1b]0;title\x07b".toList = "ab".toList := by decide
example : plain "a\x1b[1\nb;2mc".toList = "a\nb;2mc".toList := by decide

end ProxyDial.Plain
