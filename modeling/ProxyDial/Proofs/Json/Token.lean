import ProxyDial.Json.Token
import ProxyDial.Proofs.Json.Quoted
import ProxyDial.Proofs.Text.Numerals

/-!
# Tokens that were written

What `Token.ofChars?` makes of a written token and whatever follows it.  Punctuation,
names and strings end by themselves.  A number ends where the text does not go on like
one (`Token.Apart`).
-/

namespace ProxyDial

namespace Json.Token

/-- What begins with a token is that token and what follows. -/
theorem ofChars?_of_next {c : Char} {cs rest : List Char} {t : Token} (hc : isBlank c = false)
    (h : next? c cs = some (t, rest)) : ofChars? (c :: cs) = (ofChars? rest).map (t :: ·) := by
  have hdrop : (c :: cs).dropWhile isBlank = c :: cs := List.dropWhile_cons_of_neg (by simp [hc])
  rw [ofChars?.eq_def]
  split
  · rename_i hnil
    rw [hdrop] at hnil
    cases hnil
  · rename_i c' cs' hcons
    rw [hdrop] at hcons
    cases hcons
    split
    · rename_i hnone
      rw [h] at hnone
      cases hnone
    · rename_i t' rest' hsome
      rw [h] at hsome
      cases hsome
      rfl

/-! ## Punctuation, names and strings -/

theorem ofChars?_nil : ofChars? [] = some [] := by
  rw [ofChars?.eq_def]
  rfl

theorem ofChars?_openObject (cs : List Char) :
    ofChars? ('\x7b' :: cs) = (ofChars? cs).map (openObject :: ·) := ofChars?_of_next rfl rfl

theorem ofChars?_closeObject (cs : List Char) :
    ofChars? ('\x7d' :: cs) = (ofChars? cs).map (closeObject :: ·) := ofChars?_of_next rfl rfl

theorem ofChars?_colon (cs : List Char) :
    ofChars? (':' :: cs) = (ofChars? cs).map (colon :: ·) := ofChars?_of_next rfl rfl

theorem ofChars?_comma (cs : List Char) :
    ofChars? (',' :: cs) = (ofChars? cs).map (comma :: ·) := ofChars?_of_next rfl rfl

theorem ofChars?_null (cs : List Char) :
    ofChars? ('n' :: 'u' :: 'l' :: 'l' :: cs) = (ofChars? cs).map (null :: ·) :=
  ofChars?_of_next rfl rfl

theorem ofChars?_quoted (text cs : List Char) :
    ofChars? (Quoted.write text ++ cs) =
      (ofChars? cs).map (string (text.map Quoted.part) :: ·) := by
  have hnext : next? '"' (text.flatMap Quoted.escape ++ '"' :: cs) =
      some (string (text.map Quoted.part), cs) := by
    simp [next?, Quoted.units?_write]
  rw [Quoted.write, List.cons_append, List.append_assoc]
  exact ofChars?_of_next rfl hnext

/-! ## Numbers -/

/-- Whether a number may end before a text. -/
def Apart (cs : List Char) : Prop :=
  ∀ c ∈ cs.head?, c.isDigit = false ∧ c ≠ '.' ∧ c ≠ 'e' ∧ c ≠ 'E'

/-- Whether a run of digits may end before a text. -/
def Undigited (cs : List Char) : Prop := ∀ c ∈ cs.head?, c.isDigit = false

/-- Whether a text is a run of digits, at least one. -/
def IsDigits (cs : List Char) : Prop := cs ≠ [] ∧ ∀ c ∈ cs, c.isDigit

variable {cs run : List Char}

theorem Apart.undigited (h : Apart cs) : Undigited cs := fun c hc => (h c hc).1

theorem digits?_append (h : IsDigits run) (hcs : Undigited cs) :
    digits? (run ++ cs) = some (run, cs) := by
  have hstop : cs.takeWhile Char.isDigit = [] ∧ cs.dropWhile Char.isDigit = cs := by
    cases cs with
    | nil => exact ⟨rfl, rfl⟩
    | cons c cs =>
      have hc := hcs c rfl
      exact ⟨List.takeWhile_cons_of_neg (by simp [hc]), List.dropWhile_cons_of_neg (by simp [hc])⟩
  rw [digits?, List.takeWhile_append_of_pos h.2, List.dropWhile_append_of_pos h.2, hstop.1,
    hstop.2, List.append_nil]
  exact if_neg h.1

theorem isDigits_write (n : Nat) : IsDigits (Decimal.write n) :=
  ⟨Nat.toDigits_ne_nil, fun _ hc => Nat.isDigit_of_mem_toDigits (by decide) (by decide) hc⟩

theorem fraction?_of_apart (hcs : Apart cs) : fraction? cs = some (false, cs) := by
  unfold fraction?
  split
  · exact absurd rfl (hcs '.' rfl).2.1
  · rfl

theorem exponent?_of_apart (hcs : Apart cs) : exponent? cs = some (false, cs) := by
  cases cs with
  | nil => rfl
  | cons c cs =>
    obtain ⟨-, -, he, hE⟩ := hcs c rfl
    exact if_neg (by simp [he, hE])

theorem unsigned?_write (n : Nat) (hcs : Apart cs) :
    unsigned? (Decimal.write n ++ cs) = some (some n, cs) := by
  have hzero : ¬((Decimal.write n).head? = some '0' ∧ Decimal.write n ≠ ['0']) := by
    rintro ⟨hhead, hne⟩
    rcases Nat.eq_zero_or_pos n with rfl | hn
    · exact hne rfl
    · exact Decimal.head?_write hn hhead
  simp only [unsigned?, digits?_append (isDigits_write n) hcs.undigited, if_neg hzero,
    fraction?_of_apart hcs, exponent?_of_apart hcs, Option.map_some, Bool.or_self,
    Bool.false_eq_true, if_false, Nat.ofDigitChars_ten_toDigits]

theorem ne_of_isDigit {c : Char} (hc : c.isDigit) (d : Char) (hd : d.isDigit = false) : c ≠ d := by
  rintro rfl
  rw [hc] at hd
  cases hd

theorem isBlank_of_isDigit {c : Char} (hc : c.isDigit) : isBlank c = false := by
  have hne := ne_of_isDigit hc
  simp [isBlank, hne ' ' rfl, hne '\n' rfl, hne '\t' rfl, hne '\r' rfl]

/-- No bracket, quote or sign is a digit. -/
theorem next?_of_isDigit {c : Char} (hc : c.isDigit) (cs : List Char) :
    next? c cs = (unsigned? (c :: cs)).map fun (value, rest) => (number value, rest) := by
  have hne := ne_of_isDigit hc
  simp only [next?, if_neg (hne '[' rfl), if_neg (hne ']' rfl), if_neg (hne '\x7b' rfl),
    if_neg (hne '\x7d' rfl), if_neg (hne ':' rfl), if_neg (hne ',' rfl), if_neg (hne '"' rfl),
    if_neg (hne '-' rfl), if_pos hc]

theorem ofChars?_number (n : Nat) (hcs : Apart cs) :
    ofChars? (Decimal.write n ++ cs) = (ofChars? cs).map (number (some n) :: ·) := by
  have hwritten := unsigned?_write n hcs
  obtain ⟨d, ds, hw⟩ := List.exists_cons_of_ne_nil (Nat.toDigits_ne_nil (n := n) (b := 10))
  have hd : d.isDigit :=
    Nat.isDigit_of_mem_toDigits (b := 10) (n := n) (by decide) (by decide) (hw ▸ .head _)
  rw [Decimal.write, hw, List.cons_append] at hwritten ⊢
  refine ofChars?_of_next (isBlank_of_isDigit hd) ?_
  rw [next?_of_isDigit hd, hwritten, Option.map_some]

end Json.Token

end ProxyDial
