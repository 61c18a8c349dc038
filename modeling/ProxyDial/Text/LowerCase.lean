import ProxyDial.Text.CaseTables

/-!
# Lower case

Text is folded by the full lower-case mapping.  A character maps on its own, with
two exceptions.  `İ` becomes `i` and a combining dot.  `Σ` becomes `ς` at the end
of a word and `σ` elsewhere, where a word ends if a letter stands before it and
none after, both reckoned without characters that case ignores.  ASCII text needs
no table (`lower_ascii`).
-/

namespace ProxyDial.LowerCase

open CaseTables

/-- Whether one of the ranges holds a code point. -/
def inRanges (n : Nat) (ranges : List (Nat × Nat)) : Bool :=
  ranges.any fun (first, last) => decide (first ≤ n ∧ n ≤ last)

/-- Whether a character has a case, or is the cased form of one. -/
def isCased (c : Char) : Bool := inRanges c.toNat cased

/-- Whether a character is passed over in the search for a cased one. -/
def isIgnorable (c : Char) : Bool := inRanges c.toNat caseIgnorable

/-- Whether a run holds a code point. -/
def holds (n : Nat) (r : Run) : Bool :=
  decide (r.first ≤ n ∧ n ≤ r.last ∧ (n - r.first) % r.step = 0)

/-- The lower case of a character that maps on its own to one character. -/
def single (c : Char) : Char :=
  if c.toNat < 128 then c.toLower
  else
    match lowerRuns.find? (holds c.toNat) with
    | some r => .ofNat (c.toNat + r.shift).toNat
    | none => c

/-- Whether the first character that is not passed over is cased. -/
def seesCased (cs : List Char) : Bool :=
  match cs.dropWhile isIgnorable with
  | [] => false
  | c :: _ => isCased c

/-- The lower case of a character.  `before` are the characters before it, nearest
first, and `after` those after it. -/
def lowerAt (before : List Char) (c : Char) (after : List Char) : List Char :=
  if c = 'Σ' then [if seesCased before && !seesCased after then 'ς' else 'σ']
  else if c = 'İ' then ['i', '\u0307']
  else [single c]

/-- The lower case of what follows the characters `before`, nearest first. -/
def lowerFrom (before : List Char) : List Char → List Char
  | [] => []
  | c :: cs => lowerAt before c cs ++ lowerFrom (c :: before) cs

/-- The lower case of a text. -/
def lower (s : String) : String := .ofList (lowerFrom [] s.toList)

theorem lowerAt_ascii (before after : List Char) (c : Char) (h : c.toNat < 128) :
    lowerAt before c after = [c.toLower] := by
  have h1 : c ≠ 'Σ' := by rintro rfl; exact absurd h (by decide)
  have h2 : c ≠ 'İ' := by rintro rfl; exact absurd h (by decide)
  simp [lowerAt, single, h, h1, h2]

/-- The lower case of ASCII text, character by character. -/
theorem lower_ascii (s : String) (h : ∀ c ∈ s.toList, c.toNat < 128) :
    lower s = .ofList (s.toList.map Char.toLower) := by
  have from_ascii : ∀ (cs before : List Char), (∀ c ∈ cs, c.toNat < 128) →
      lowerFrom before cs = cs.map Char.toLower := by
    intro cs
    induction cs with
    | nil => intros; rfl
    | cons c cs ih =>
      intro before hcs
      rw [lowerFrom, lowerAt_ascii _ _ _ (hcs c List.mem_cons_self),
        ih _ fun c' hc' => hcs c' (List.mem_cons_of_mem _ hc')]
      rfl
  rw [lower, from_ascii _ _ h]

example : lowerFrom [] "ΟΔΟΣ".toList = "οδος".toList := by decide +kernel
example : lowerFrom [] "ΣΑΣ.Σ".toList = "σασ.ς".toList := by decide +kernel
example : lowerFrom [] "ÅⒶА".toList = "åⓐа".toList := by decide +kernel

end ProxyDial.LowerCase
