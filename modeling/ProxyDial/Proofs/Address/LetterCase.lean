import ProxyDial.Address.Endpoint
import ProxyDial.Proofs.Address.IPv4
import ProxyDial.Proofs.Text.LetterCase

/-!
# Literals in either case

Hexadecimal digits are read in either case, and nothing else in a literal is a letter.  So hosts
that are the same but for case are literals for one address (`Ip.literal?_eq_of_sameButCase`).
-/

namespace ProxyDial

theorem IPv4.ofChars?_map_toLower (cs : List Char) :
    ofChars? (cs.map Char.toLower) = ofChars? cs := by
  refine Option.ext fun ip => ?_
  rw [ofChars?_eq_some_iff, ofChars?_eq_some_iff]
  refine map_toLower_eq_iff fun c hc => ?_
  rcases of_mem_chars hc with hdigit | rfl
  · exact not_isAlpha_of_isDigit hdigit
  · decide

namespace IPv6

theorem group?_map_toLower (cs : List Char) : group? (cs.map Char.toLower) = group? cs := by
  simp only [group?, List.length_map, Hex.number?_map_toLower, ne_eq, List.map_eq_nil_iff]

theorem groupsOfPieces?_map_toLower (tail : Bool) (ps : List (List Char)) :
    groupsOfPieces? tail (ps.map (·.map Char.toLower)) = groupsOfPieces? tail ps := by
  induction ps with
  | nil => rfl
  | cons p ps ih =>
    cases ps with
    | nil =>
      have hdot : (p.map Char.toLower).contains '.' = p.contains '.' := by
        rw [Bool.eq_iff_iff, List.contains_iff_mem, List.contains_iff_mem,
          mem_map_toLower (by decide)]
      simp only [List.map_cons, List.map_nil, groupsOfPieces?, hdot, group?_map_toLower,
        IPv4.ofChars?_map_toLower]
    | cons q ps =>
      simp only [List.map_cons] at ih ⊢
      simp only [groupsOfPieces?, group?_map_toLower, ih]

theorem groups?_map_toLower (tail : Bool) (cs : List Char) :
    groups? tail (cs.map Char.toLower) = groups? tail cs := by
  have hcolon : ¬Char.isAlpha ':' := by decide
  simp only [groups?, List.map_eq_nil_iff, pieces_map_toLower hcolon, groupsOfPieces?_map_toLower]

theorem splitElision_map_toLower (cs : List Char) :
    splitElision (cs.map Char.toLower) =
      (splitElision cs).map (Prod.map (·.map Char.toLower) (·.map Char.toLower)) := by
  have hcolon {c : Char} : c.toLower = ':' ↔ c = ':' := toLower_eq_iff (by decide)
  fun_induction splitElision cs with
  | case1 => rfl
  | case2 => rfl
  | case3 c c' cs h =>
    rw [List.map_cons, List.map_cons, splitElision, if_pos (by rwa [hcolon, hcolon])]
    rfl
  | case4 c c' cs h ih =>
    rw [List.map_cons] at ih
    rw [List.map_cons, List.map_cons, splitElision, if_neg (by rwa [hcolon, hcolon]), ih]
    cases splitElision (c' :: cs) <;> rfl

theorem ofChars?_map_toLower (cs : List Char) :
    ofChars? (cs.map Char.toLower) = ofChars? cs := by
  rw [ofChars?, ofChars?, splitElision_map_toLower]
  cases splitElision cs with
  | none => simp only [Option.map_none, List.map_eq_nil_iff, groups?_map_toLower]
  | some parts => simp only [Option.map_some, Prod.map, groups?_map_toLower]

end IPv6

namespace Ip

theorem ofChars?_map_toLower (cs : List Char) :
    ofChars? (cs.map Char.toLower) = ofChars? cs := by
  rw [ofChars?, ofChars?, IPv4.ofChars?_map_toLower, IPv6.ofChars?_map_toLower]

theorem unbracket_map_toLower (cs : List Char) :
    unbracket (cs.map Char.toLower) = (unbracket cs).map Char.toLower := by
  have hbracket : ¬Char.isAlpha ']' := by decide
  have hclosed {cs : List Char} :
      (cs.map Char.toLower).getLast? = some ']' ↔ cs.getLast? = some ']' := by
    simp only [List.getLast?_map, Option.map_eq_some_iff, toLower_eq_iff hbracket, exists_eq_right]
  fun_cases unbracket cs with
  | case1 cs h =>
    rw [List.map_dropLast]
    exact if_pos (hclosed.2 h)
  | case2 cs h => exact if_neg (mt hclosed.1 h)
  | case3 cs h =>
    rw [unbracket]
    intro rest hrest
    obtain ⟨c, cs, rfl, hc, -⟩ := List.map_eq_cons_iff.1 hrest
    rw [toLower_eq_iff (by decide)] at hc
    exact h cs (by rw [hc])

theorem literal?_eq_of_sameButCase {host host' : String} (h : SameButCase host host') :
    literal? host = literal? host' := by
  rw [literal?, literal?, ← ofChars?_map_toLower, ← ofChars?_map_toLower (unbracket host'.toList),
    ← unbracket_map_toLower, ← unbracket_map_toLower, h]

end Ip

end ProxyDial
