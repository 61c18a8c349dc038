/-!
# Pieces between separators

`pieces sep cs` cuts `cs` at every `sep`.  There is always one piece more than
there are separators, and joining the pieces again gives `cs`
(`join_pieces`).
-/

namespace ProxyDial

/-- The parts of a text between the separators. -/
def pieces (sep : Char) : List Char → List (List Char)
  | [] => [[]]
  | c :: cs =>
    if c = sep then [] :: pieces sep cs
    else
      match pieces sep cs with
      | [] => [[c]]
      | p :: ps => (c :: p) :: ps

/-- The parts with a separator between each two. -/
def join (sep : Char) : List (List Char) → List Char
  | [] => []
  | [p] => p
  | p :: ps => p ++ sep :: join sep ps

theorem pieces_ne_nil (sep : Char) : ∀ cs : List Char, pieces sep cs ≠ []
  | [] => by simp [pieces]
  | c :: cs => by
    by_cases h : c = sep
    · simp [pieces, h]
    · simp only [pieces, h, if_false]
      split <;> simp

theorem join_cons_cons (sep c : Char) (p : List Char) (ps : List (List Char)) :
    join sep ((c :: p) :: ps) = c :: join sep (p :: ps) := by
  cases ps <;> rfl

theorem join_pieces (sep : Char) : ∀ cs : List Char, join sep (pieces sep cs) = cs
  | [] => rfl
  | c :: cs => by
    have ih := join_pieces sep cs
    by_cases h : c = sep
    · subst h
      cases hp : pieces c cs with
      | nil => exact absurd hp (pieces_ne_nil c cs)
      | cons p ps => rw [hp] at ih; simp [pieces, hp, join, ih]
    · cases hp : pieces sep cs with
      | nil => exact absurd hp (pieces_ne_nil sep cs)
      | cons p ps => rw [hp] at ih; simp [pieces, h, hp, join_cons_cons, ih]

end ProxyDial
