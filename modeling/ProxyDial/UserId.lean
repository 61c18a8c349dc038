/-!
# User ids

A user id is a string of bytes that ends at the first NUL when it is sent.  So one
that holds a NUL cannot be sent unchanged, and the length is bounded.
`check_eq_ok_iff` says which user ids pass.
-/

namespace ProxyDial.UserId

/-- The most bytes a user id may have. -/
def maxLength : Nat := 255

/-- What is wrong with a user id. -/
inductive Fault where
  /-- It holds a NUL byte. -/
  | holdsNul
  /-- It is too long, by this many bytes in all. -/
  | tooLong (length : Nat)
deriving DecidableEq, Repr

/-- The fault in messages. -/
def Fault.text : Fault → String
  | holdsNul => "user_id must not contain a NUL byte"
  | tooLong length => s!"user_id is {length} bytes, at most {maxLength} allowed"

/-- Refuse a user id that cannot be sent unchanged.  A NUL is noticed first. -/
def check (userId : List UInt8) : Except Fault Unit :=
  if 0 ∈ userId then .error .holdsNul
  else if maxLength < userId.length then .error (.tooLong userId.length)
  else .ok ()

/-- The bytes of a user id that is given as text. -/
def ofString (s : String) : List UInt8 := s.toUTF8.data.toList

theorem check_eq_ok_iff (userId : List UInt8) :
    check userId = .ok () ↔ 0 ∉ userId ∧ userId.length ≤ maxLength := by
  unfold check
  by_cases h : 0 ∈ userId
  · simp [h]
  · by_cases h' : maxLength < userId.length
    · simp [h, h']
    · simp [h]

end ProxyDial.UserId
