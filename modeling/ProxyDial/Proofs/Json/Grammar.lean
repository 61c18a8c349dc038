import Mathlib.Data.List.Chain
import Mathlib.Data.List.TakeWhile
import ProxyDial.Proofs.Json.Token

/-!
# The grammar of tokens

`Token.Spelling` says how a token may be written, and `Token.Text` how tokens are written one
after the other, with blanks between them wherever one likes.  What `Token.ofChars?` makes of
a text is written so (`Token.text_of_ofChars?`).  And what is written so is cut into just
these tokens, unless a number follows a number directly (`Token.ofChars?_append`).

*Strings.*  A part of a string has one or two spellings, and the string ends at the first
quote that is none of them.

*Numbers.*  A number is an integer without a superfluous zero, maybe with a sign, a fraction
and an exponent.  It ends where the text does not go on like one.
-/

namespace ProxyDial.Json

/-! ## Strings -/

namespace Quoted

/-- How one part of a string is written. -/
inductive PartText : Part → List Char → Prop where
  /-- A character that stands for itself is no quote, backslash or control character. -/
  | plain {c : Char} (hquote : c ≠ '"') (hslash : c ≠ '\\') (hc : ¬c.toNat < 0x20) :
      PartText (.char c) [c]
  | short {e c : Char} (h : shortEscape? e = some c) : PartText (.char c) ['\\', e]
  | code {h₁ h₂ h₃ h₄ : Char} {n : Nat} (h : Hex.number? [h₁, h₂, h₃, h₄] = some n) :
      PartText (.unit n) ['\\', 'u', h₁, h₂, h₃, h₄]

/-- How the parts of a string are written between its quotes. -/
inductive BodyText : List Part → List Char → Prop where
  | nil : BodyText [] []
  | cons {p : Part} {parts : List Part} {text body : List Char} (hp : PartText p text)
      (h : BodyText parts body) : BodyText (p :: parts) (text ++ body)

variable {parts : List Part} {body cs rest : List Char}

theorem units?_of_bodyText (h : BodyText parts body) (rest : List Char) :
    units? (body ++ '"' :: rest) = some (parts, rest) := by
  induction h with
  | nil => exact units?_quote rest
  | cons hp _ ih =>
    rw [List.append_assoc]
    cases hp with
    | plain hquote hslash hc =>
      rw [List.singleton_append, units?_plain hquote hslash hc, ih]
      rfl
    | short he =>
      rw [List.cons_append, List.singleton_append, units?_short he, ih]
      rfl
    | code hn =>
      show units? ('\\' :: 'u' :: _ :: _ :: _ :: _ :: (_ ++ '"' :: rest)) = _
      rw [units?_code hn, ih]
      rfl

theorem bodyText_of_units? (h : units? cs = some (parts, rest)) :
    ∃ body, BodyText parts body ∧ cs = body ++ '"' :: rest := by
  fun_induction units? cs generalizing parts with
  | case1 => cases h
  | case2 cs =>
    cases h
    exact ⟨[], .nil, rfl⟩
  | case3 => cases h
  | case4 => cases h
  | case5 h₁ h₂ h₃ h₄ cs n hn _ ih =>
    obtain ⟨⟨parts', rest'⟩, hp, he⟩ := Option.map_eq_some_iff.1 h
    cases he
    obtain ⟨body, hbody, rfl⟩ := ih hp
    exact ⟨_, .cons (.code hn) hbody, rfl⟩
  | case6 => cases h
  | case7 => cases h
  | case8 e cs hu c he _ ih =>
    obtain ⟨⟨parts', rest'⟩, hp, hsame⟩ := Option.map_eq_some_iff.1 h
    cases hsame
    obtain ⟨body, hbody, rfl⟩ := ih hp
    exact ⟨_, .cons (.short he) hbody, rfl⟩
  | case9 => cases h
  | case10 c cs hquote hslash hc ih =>
    obtain ⟨⟨parts', rest'⟩, hp, he⟩ := Option.map_eq_some_iff.1 h
    cases he
    obtain ⟨body, hbody, rfl⟩ := ih hp
    exact ⟨_, .cons (.plain hquote hslash hc) hbody, rfl⟩

end Quoted

namespace Token

/-! ## Numbers -/

/-- How a fraction is written, and no fraction. -/
inductive FractionText : Bool → List Char → Prop where
  | none : FractionText false []
  | some {digits : List Char} (h : IsDigits digits) : FractionText true ('.' :: digits)

/-- How an exponent is written, and no exponent. -/
inductive ExponentText : Bool → List Char → Prop where
  | none : ExponentText false []
  | some {c : Char} {sign digits : List Char} (hc : c = 'e' ∨ c = 'E')
      (hsign : sign = [] ∨ sign = ['+'] ∨ sign = ['-']) (h : IsDigits digits) :
      ExponentText true (c :: (sign ++ digits))

/-- How a number without sign is written. -/
inductive UnsignedText : Option Nat → List Char → Prop where
  | mk {digits fraction exponent : List Char} {hasFraction hasExponent : Bool}
      (h : IsDigits digits) (hzero : digits.head? = some '0' → digits = ['0'])
      (hf : FractionText hasFraction fraction) (he : ExponentText hasExponent exponent) :
      UnsignedText
        (if hasFraction || hasExponent then none else some (Nat.ofDigitChars 10 digits 0))
        (digits ++ (fraction ++ exponent))

variable {cs rest run text : List Char}

theorem isDigits_of_digits? (h : digits? cs = some (run, rest)) :
    IsDigits run ∧ cs = run ++ rest := by
  unfold digits? at h
  dsimp only at h
  split at h
  · cases h
  · rename_i hne
    cases h
    refine ⟨⟨hne, fun c hc => ?_⟩, (List.takeWhile_append_dropWhile ..).symm⟩
    exact List.all_eq_true.1 (List.all_takeWhile ..) c hc

theorem fraction?_of_text {b : Bool} (h : FractionText b text) (hrest : Undigited rest)
    (hdot : b = false → ∀ c ∈ rest.head?, c ≠ '.') :
    fraction? (text ++ rest) = some (b, rest) := by
  cases h with
  | none =>
    unfold fraction?
    split
    · rename_i heq
      rw [List.nil_append] at heq
      exact absurd rfl (hdot rfl '.' (heq ▸ rfl))
    · rfl
  | some hd =>
    show (digits? (_ ++ rest)).map _ = _
    rw [digits?_append hd hrest]
    rfl

theorem text_of_fraction? {b : Bool} (h : fraction? cs = some (b, rest)) :
    ∃ text, FractionText b text ∧ cs = text ++ rest := by
  unfold fraction? at h
  split at h
  · obtain ⟨⟨run, rest'⟩, hd, he⟩ := Option.map_eq_some_iff.1 h
    cases he
    obtain ⟨hrun, rfl⟩ := isDigits_of_digits? hd
    exact ⟨_, .some hrun, rfl⟩
  · cases h
    exact ⟨_, .none, rfl⟩

theorem dropSign_append {sign digits : List Char}
    (hsign : sign = [] ∨ sign = ['+'] ∨ sign = ['-']) (h : IsDigits digits) (rest : List Char) :
    dropSign (sign ++ digits ++ rest) = digits ++ rest := by
  rcases hsign with rfl | rfl | rfl
  · -- No digit is a sign.
    obtain ⟨d, ds, rfl⟩ := List.exists_cons_of_ne_nil h.1
    have hd := h.2 d (.head _)
    unfold dropSign
    split
    · rename_i heq
      cases heq
      cases hd
    · rename_i heq
      cases heq
      cases hd
    · rfl
  · rfl
  · rfl

theorem exists_sign (cs : List Char) :
    ∃ sign, (sign = [] ∨ sign = ['+'] ∨ sign = ['-']) ∧ cs = sign ++ dropSign cs := by
  unfold dropSign
  split
  · exact ⟨['+'], .inr (.inl rfl), rfl⟩
  · exact ⟨['-'], .inr (.inr rfl), rfl⟩
  · exact ⟨[], .inl rfl, rfl⟩

theorem exponent?_of_text {b : Bool} (h : ExponentText b text) (hrest : Apart rest) :
    exponent? (text ++ rest) = some (b, rest) := by
  cases h with
  | none => exact exponent?_of_apart hrest
  | some hc hsign hd =>
    rw [List.cons_append, exponent?]
    simp only [hc, if_true]
    rw [dropSign_append hsign hd, digits?_append hd hrest.undigited]
    rfl

theorem text_of_exponent? {b : Bool} (h : exponent? cs = some (b, rest)) :
    ∃ text, ExponentText b text ∧ cs = text ++ rest := by
  unfold exponent? at h
  split at h
  · cases h
    exact ⟨[], .none, rfl⟩
  · rename_i c cs
    split at h
    · rename_i hc
      obtain ⟨⟨run, rest'⟩, hd, he⟩ := Option.map_eq_some_iff.1 h
      cases he
      obtain ⟨hrun, hdrop⟩ := isDigits_of_digits? hd
      obtain ⟨sign, hsign, hcs⟩ := exists_sign cs
      refine ⟨_, .some hc hsign hrun, ?_⟩
      rw [List.cons_append, List.append_assoc, ← hdrop, ← hcs]
    · cases h
      exact ⟨[], .none, rfl⟩

theorem unsigned?_of_text {v : Option Nat} (h : UnsignedText v text) (hrest : Apart rest) :
    unsigned? (text ++ rest) = some (v, rest) := by
  cases h with
  | @mk digits fraction exponent hasFraction hasExponent hd hzero hf he =>
    have hexponent : Undigited (exponent ++ rest) ∧ ∀ c ∈ (exponent ++ rest).head?, c ≠ '.' := by
      cases he with
      | none => exact ⟨hrest.undigited, fun c hc => (hrest c hc).2.1⟩
      | some hc => rcases hc with rfl | rfl <;> exact ⟨by rintro _ ⟨⟩; rfl, by rintro _ ⟨⟩; decide⟩
    have hfraction : Undigited (fraction ++ (exponent ++ rest)) := by
      cases hf with
      | none => exact hexponent.1
      | some => rintro _ ⟨⟩; rfl
    have hleading : ¬(digits.head? = some '0' ∧ digits ≠ ['0']) := fun h => h.2 (hzero h.1)
    simp only [unsigned?, List.append_assoc, digits?_append hd hfraction, if_neg hleading,
      fraction?_of_text hf hexponent.1 fun _ => hexponent.2, exponent?_of_text he hrest,
      Option.map_some]

theorem text_of_unsigned? {v : Option Nat} (h : unsigned? cs = some (v, rest)) :
    ∃ text, UnsignedText v text ∧ cs = text ++ rest := by
  unfold unsigned? at h
  split at h
  · cases h
  · rename_i run mid hd
    split at h
    · cases h
    · rename_i hleading
      split at h
      · cases h
      · rename_i hasFraction mid' hf
        obtain ⟨⟨hasExponent, rest'⟩, hx, he⟩ := Option.map_eq_some_iff.1 h
        cases he
        obtain ⟨hrun, rfl⟩ := isDigits_of_digits? hd
        obtain ⟨fraction, hfraction, rfl⟩ := text_of_fraction? hf
        obtain ⟨exponent, hexponent, rfl⟩ := text_of_exponent? hx
        have hzero : run.head? = some '0' → run = ['0'] := fun hhead =>
          Decidable.byContradiction fun hne => hleading ⟨hhead, hne⟩
        exact ⟨_, .mk hrun hzero hfraction hexponent, by simp⟩

/-! ## One token -/

/-- How a token is written. -/
inductive Spelling : Token → List Char → Prop where
  | openArray : Spelling openArray ['[']
  | closeArray : Spelling closeArray [']']
  | openObject : Spelling openObject ['\x7b']
  | closeObject : Spelling closeObject ['\x7d']
  | colon : Spelling colon [':']
  | comma : Spelling comma [',']
  | null : Spelling null ['n', 'u', 'l', 'l']
  | true : Spelling (bool true) ['t', 'r', 'u', 'e']
  | false : Spelling (bool false) ['f', 'a', 'l', 's', 'e']
  | unsigned {v : Option Nat} {text : List Char} (h : UnsignedText v text) :
      Spelling (number v) text
  | negative {v : Option Nat} {text : List Char} (h : UnsignedText v text) :
      Spelling (number none) ('-' :: text)
  | string {parts : List Part} {body : List Char} (h : Quoted.BodyText parts body) :
      Spelling (string parts) ('"' :: (body ++ ['"']))

/-- Whether a token is a number. -/
def isNumber : Token → Bool
  | number _ => .true
  | _ => .false

variable {t : Token}

theorem spelling_of_name? {c : Char} (h : name? c cs = some (t, rest)) :
    ∃ text, Spelling t text ∧ c :: cs = text ++ rest := by
  unfold name? at h
  split at h
  · cases h
    exact ⟨_, .null, rfl⟩
  · cases h
    exact ⟨_, .true, rfl⟩
  · cases h
    exact ⟨_, .false, rfl⟩
  · cases h

theorem spelling_of_next? {c : Char} (h : next? c cs = some (t, rest)) :
    ∃ text, Spelling t text ∧ c :: cs = text ++ rest := by
  unfold next? at h
  split at h
  · next hc => cases h; exact ⟨_, .openArray, hc ▸ rfl⟩
  split at h
  · next hc => cases h; exact ⟨_, .closeArray, hc ▸ rfl⟩
  split at h
  · next hc => cases h; exact ⟨_, .openObject, hc ▸ rfl⟩
  split at h
  · next hc => cases h; exact ⟨_, .closeObject, hc ▸ rfl⟩
  split at h
  · next hc => cases h; exact ⟨_, .colon, hc ▸ rfl⟩
  split at h
  · next hc => cases h; exact ⟨_, .comma, hc ▸ rfl⟩
  split at h
  · next hc =>
    obtain ⟨⟨parts, rest'⟩, hp, he⟩ := Option.map_eq_some_iff.1 h
    cases he
    obtain ⟨body, hbody, rfl⟩ := Quoted.bodyText_of_units? hp
    exact ⟨_, .string hbody, by simp [hc]⟩
  split at h
  · next hc =>
    obtain ⟨⟨v, rest'⟩, hp, he⟩ := Option.map_eq_some_iff.1 h
    cases he
    obtain ⟨text, htext, rfl⟩ := text_of_unsigned? hp
    exact ⟨_, .negative htext, hc ▸ rfl⟩
  split at h
  · obtain ⟨⟨v, rest'⟩, hp, he⟩ := Option.map_eq_some_iff.1 h
    cases he
    obtain ⟨text, htext, hcs⟩ := text_of_unsigned? hp
    exact ⟨_, .unsigned htext, hcs⟩
  · exact spelling_of_name? h

/-- A number begins with a digit. -/
theorem UnsignedText.exists_digit {v : Option Nat} (h : UnsignedText v text) :
    ∃ d ds, text = d :: ds ∧ d.isDigit := by
  cases h with
  | mk hd =>
    obtain ⟨d, ds, rfl⟩ := List.exists_cons_of_ne_nil hd.1
    exact ⟨d, _, List.cons_append, hd.2 d (.head _)⟩

theorem ofChars?_of_spelling (h : Spelling t text) (hrest : t.isNumber → Apart rest) :
    ofChars? (text ++ rest) = (ofChars? rest).map (t :: ·) := by
  cases h with
  | openArray => exact ofChars?_of_next rfl rfl
  | closeArray => exact ofChars?_of_next rfl rfl
  | openObject => exact ofChars?_openObject rest
  | closeObject => exact ofChars?_closeObject rest
  | colon => exact ofChars?_colon rest
  | comma => exact ofChars?_comma rest
  | null => exact ofChars?_null rest
  | true => exact ofChars?_of_next rfl rfl
  | false => exact ofChars?_of_next rfl rfl
  | unsigned h =>
    have hread := unsigned?_of_text h (hrest rfl)
    obtain ⟨d, ds, rfl, hd⟩ := h.exists_digit
    rw [List.cons_append] at hread ⊢
    refine ofChars?_of_next (isBlank_of_isDigit hd) ?_
    rw [next?_of_isDigit hd, hread, Option.map_some]
  | negative h =>
    have hread := unsigned?_of_text h (hrest rfl)
    rw [List.cons_append]
    refine ofChars?_of_next rfl ?_
    show (unsigned? _).map _ = _
    rw [hread, Option.map_some]
  | string h =>
    have hread := Quoted.units?_of_bodyText h rest
    rw [List.cons_append, List.append_assoc, List.singleton_append]
    refine ofChars?_of_next rfl ?_
    show (Quoted.units? _).map _ = _
    rw [hread, Option.map_some]

/-- No punctuation, name or string goes on like a number. -/
theorem Spelling.apart (h : Spelling t text) (ht : t.isNumber = .false) (rest : List Char) :
    Apart (text ++ rest) := by
  cases h with
  | unsigned => cases ht
  | negative => cases ht
  | _ => rintro _ ⟨⟩; decide

/-! ## Texts -/

/-- How tokens are written one after the other, with blanks around them. -/
inductive Text : List Token → List Char → Prop where
  | nil {blanks : List Char} (hblank : ∀ c ∈ blanks, isBlank c) : Text [] blanks
  | cons {blanks text rest : List Char} {t : Token} {ts : List Token}
      (hblank : ∀ c ∈ blanks, isBlank c) (ht : Spelling t text) (h : Text ts rest) :
      Text (t :: ts) (blanks ++ (text ++ rest))

/-- Whether one token may be written directly before another. -/
def Parted (t t' : Token) : Prop := t.isNumber → t'.isNumber = .false

variable {ts us : List Token} {blanks pre : List Char}

theorem isChain_cons (ht : t.isNumber = .false) (h : ts.IsChain Parted) :
    (t :: ts).IsChain Parted :=
  h.cons fun _ _ hnumber => absurd hnumber (by simp [ht])

theorem isChain_append (h : ts.IsChain Parted) (h' : us.IsChain Parted)
    (hus : ∀ t ∈ us.head?, t.isNumber = .false) : (ts ++ us).IsChain Parted :=
  h.append h' fun _ _ t ht _ => hus t ht

theorem text_of_ofChars? (h : ofChars? cs = some ts) : Text ts cs := by
  fun_induction ofChars? cs generalizing ts with
  | case1 cs hnil =>
    cases h
    exact .nil (List.dropWhile_eq_nil_iff.1 hnil)
  | case2 => cases h
  | case3 cs c cs' hcons t rest hnext ih =>
    obtain ⟨ts', hts, rfl⟩ := Option.map_eq_some_iff.1 h
    obtain ⟨text, htext, hcs⟩ := spelling_of_next? hnext
    have hwhole : cs = cs.takeWhile isBlank ++ (text ++ rest) := by
      rw [← hcs, ← hcons, List.takeWhile_append_dropWhile]
    rw [hwhole]
    exact .cons (fun c hc => List.all_eq_true.1 (List.all_takeWhile ..) c hc) htext (ih hts)

/-- The tokens of a text depend on what follows its first blanks alone. -/
theorem ofChars?_eq (cs : List Char) :
    ofChars? cs =
      match cs.dropWhile isBlank with
      | [] => some []
      | c :: cs =>
        match next? c cs with
        | none => none
        | some (t, rest) => (ofChars? rest).map (t :: ·) := by
  rw [ofChars?.eq_def]
  split
  · rename_i hnil
    rw [hnil]
  · rename_i hcons
    rw [hcons]
    dsimp only
    split
    · rename_i hnext
      rw [hnext]
    · rename_i hnext
      rw [hnext]

theorem ofChars?_blanks_append (h : ∀ c ∈ blanks, isBlank c) (cs : List Char) :
    ofChars? (blanks ++ cs) = ofChars? cs := by
  rw [ofChars?_eq, ofChars?_eq cs, List.dropWhile_append_of_pos h]

theorem Apart.blanks_append (h : ∀ c ∈ blanks, isBlank c) (hcs : Apart cs) :
    Apart (blanks ++ cs) := by
  cases blanks with
  | nil => exact hcs
  | cons c blanks =>
    rintro _ ⟨⟩
    have hc := h c (.head _)
    simp only [isBlank, Bool.or_eq_true, decide_eq_true_eq] at hc
    rcases hc with ((rfl | rfl) | rfl) | rfl <;> decide

/-- A text is cut into the tokens it was written from, and the rest is cut as it would be alone,
unless a number would run on. -/
theorem ofChars?_append (h : Text ts pre) (hparted : ts.IsChain Parted)
    (hrest : ∀ t ∈ ts.getLast?, t.isNumber → Apart rest) :
    ofChars? (pre ++ rest) = (ofChars? rest).map (ts ++ ·) := by
  induction h with
  | nil hblank =>
    rw [ofChars?_blanks_append hblank]
    simp
  | @cons blanks text more t ts hblank ht h ih =>
    have hnext : t.isNumber → Apart (more ++ rest) := by
      intro hnumber
      cases h with
      | nil hblank => exact Apart.blanks_append hblank (hrest t rfl hnumber)
      | cons hblank ht' =>
        rw [List.append_assoc, List.append_assoc]
        have hother := (List.isChain_cons_cons.1 hparted).1 hnumber
        exact Apart.blanks_append hblank (ht'.apart hother _)
    have hlast : ∀ t ∈ ts.getLast?, t.isNumber → Apart rest := by
      intro t' ht'
      refine hrest t' ?_
      cases ts with
      | nil => cases ht'
      | cons => exact ht'
    rw [List.append_assoc, ofChars?_blanks_append hblank, List.append_assoc,
      ofChars?_of_spelling ht hnext, ih hparted.tail hlast, Option.map_map]
    rfl

/-- A text can be taken apart before and after each of its tokens. -/
theorem exists_of_text_append (h : Text (ts ++ t :: us) cs) :
    ∃ before text after,
      cs = before ++ (text ++ after) ∧ Text ts before ∧ Spelling t text ∧ Text us after := by
  induction ts generalizing cs with
  | nil =>
    cases h with
    | cons hblank ht h => exact ⟨_, _, _, rfl, .nil hblank, ht, h⟩
  | cons t' ts ih =>
    cases h with
    | @cons blanks text _ _ _ hblank ht' h =>
      obtain ⟨before, text', after, rfl, hbefore, ht, hafter⟩ := ih h
      refine ⟨blanks ++ (text ++ before), text', after, ?_, .cons hblank ht' hbefore, ht, hafter⟩
      simp only [List.append_assoc]

end Token

end ProxyDial.Json
