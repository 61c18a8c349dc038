import ProxyDial.Session.Basic

/-!
# Operations that take time

The *course* of an operation is what it will do if nobody interrupts it.  It
finishes, or it is suspended until an instant, or it is suspended for good.  A
suspended course keeps the session as it is at that moment, since that is the
session that an operation leaves behind when it is given up.

An operation takes a course from every session.  Operations are sequenced by
`bind`, and `Course.within` gives one up at a limit.

Three rules decide every tie.  An operation that never has to wait is never given
up, not even past the limit.  At the limit itself an operation that can go on does
so.  An operation that has to wait, be it for no time at all, is given up if the
limit has passed.
-/

namespace ProxyDial

/-- What an operation will do if nobody interrupts it. -/
inductive Course (α : Type) where
  /-- It has finished with a result. -/
  | done (result : α) (s : Session)
  /-- It is suspended until `wake`, and then takes the course `rest`. -/
  | wait (s : Session) (wake : Nat) (rest : Course α)
  /-- It is suspended for good. -/
  | stuck (s : Session)

namespace Course

variable {α β : Type}

/-- Go on with another operation once a course has finished. -/
def bind (next : α → Session → Course β) : Course α → Course β
  | done a s => next a s
  | wait s wake rest => wait s wake (rest.bind next)
  | stuck s => stuck s

/-- Give an operation up at a limit, if there is one. -/
def within (limit : Option Nat) : Course α → Course (Option α)
  | done a s => done (some a) s
  | wait s wake rest =>
    match limit with
    | none => wait s wake (rest.within limit)
    | some l =>
      if l ≤ s.clock then done none s
      else if wake ≤ l then wait s wake (rest.within limit)
      else wait s l (done none (s.moveTo l))
  | stuck s =>
    match limit with
    | none => stuck s
    | some l => if l ≤ s.clock then done none s else wait s l (done none (s.moveTo l))

/-- The result of a course and the session it leaves behind, if it ends. -/
def end? : Course α → Option (α × Session)
  | done a s => some (a, s)
  | wait _ _ rest => rest.end?
  | stuck _ => none

theorem end?_bind (next : α → Session → Course β) (c : Course α) :
    (c.bind next).end? = c.end?.bind fun (a, s) => (next a s).end? := by
  induction c with
  | done a s => rfl
  | wait s wake rest ih => exact ih
  | stuck s => rfl

theorem bind_done (c : Course α) : c.bind done = c := by
  induction c with
  | done a s => rfl
  | wait s wake rest ih => simp [bind, ih]
  | stuck s => rfl

theorem bind_bind {γ : Type} (f : α → Session → Course β) (g : β → Session → Course γ)
    (c : Course α) : (c.bind f).bind g = c.bind fun a s => (f a s).bind g := by
  induction c with
  | done a s => rfl
  | wait s wake rest ih => simp [bind, ih]
  | stuck s => rfl

/-- Without a limit nothing is given up. -/
theorem within_none (c : Course α) : c.within none = c.bind fun a s => done (some a) s := by
  induction c with
  | done a s => rfl
  | wait s wake rest ih => simp [within, bind, ih]
  | stuck s => rfl

end Course

/-- An operation on a session. -/
structure Op (α : Type) where
  /-- The course that the operation takes from a session. -/
  course : Session → Course α

namespace Op

instance : Monad Op where
  pure a := ⟨fun s => .done a s⟩
  bind op next := ⟨fun s => (op.course s).bind fun a s' => (next a).course s'⟩

@[simp]
theorem course_pure {α : Type} (a : α) (s : Session) : (pure a : Op α).course s = .done a s :=
  rfl

@[simp]
theorem course_bind {α β : Type} (op : Op α) (next : α → Op β) (s : Session) :
    (op >>= next).course s = (op.course s).bind fun a s' => (next a).course s' := rfl

@[simp]
theorem course_map {α β : Type} (f : α → β) (op : Op α) (s : Session) :
    (f <$> op).course s = (op.course s).bind fun a s' => .done (f a) s' := rfl

/-- Operations with the same courses are the same. -/
@[ext]
theorem ext {α : Type} {op op' : Op α} (h : ∀ s, op.course s = op'.course s) : op = op' :=
  congrArg mk (funext h)

instance : LawfulMonad Op :=
  LawfulMonad.mk' Op (fun op => ext fun s => Course.bind_done (op.course s))
    (fun _ _ => rfl) (fun op _ _ => ext fun s => Course.bind_bind _ _ (op.course s))

/-- The session as it is. -/
def get : Op Session := ⟨fun s => .done s s⟩

@[simp]
theorem course_get (s : Session) : get.course s = .done s s := rfl

/-- Change the session. -/
def modify (f : Session → Session) : Op Unit := ⟨fun s => .done () (f s)⟩

@[simp]
theorem course_modify (f : Session → Session) (s : Session) :
    (modify f).course s = .done () (f s) := rfl

/-- Record an event. -/
def record (e : Event) : Op Unit := modify (Session.record e)

/-- Do nothing until an instant. -/
def sleepUntil (wake : Nat) : Op Unit := ⟨fun s => .wait s wake (.done () (s.moveTo wake))⟩

/-- Do nothing for so many milliseconds.  Even no time at all lets the servers go
on. -/
def sleep (millis : Nat) : Op Unit := do sleepUntil ((← get).clock + millis)

/-- Let the servers go on until they have to wait. -/
def settle : Op Unit := modify fun s => s.moveTo s.clock

/-- Do nothing for ever. -/
def never {α : Type} : Op α := ⟨fun s => .stuck s⟩

/-- Give an operation up at an instant. -/
def giveUpAt {α : Type} (limit : Option Nat) (op : Op α) : Op (Option α) :=
  ⟨fun s => (op.course s).within limit⟩

@[simp]
theorem course_giveUpAt {α : Type} (limit : Option Nat) (op : Op α) (s : Session) :
    (op.giveUpAt limit).course s = (op.course s).within limit := rfl

/-- Give an operation up after so many milliseconds. -/
def giveUpAfter {α : Type} (millis : Nat) (op : Op α) : Op (Option α) := do
  op.giveUpAt (some ((← get).clock + millis))

/-- Give an operation up after a duration, if one is given. -/
def bounded {α : Type} (limit : Option Duration) (op : Op α) : Op (Option α) := do
  let now := (← get).clock
  op.giveUpAt (limit.map (Deadline.cutoff now))

/-- An operation that takes so many milliseconds, or for ever, and changes nothing.
One that takes no time is ready at once. -/
def ready {α : Type} (after : Option Nat) (result : α) : Op α :=
  match after with
  | none => never
  | some 0 => pure result
  | some millis => do
    sleep millis
    return result

/-- The result of an operation on a session and the session it leaves behind, if it
ends. -/
def run? {α : Type} (op : Op α) (s : Session) : Option (α × Session) := (op.course s).end?

theorem run?_bind {α β : Type} (op : Op α) (next : α → Op β) (s : Session) :
    (op >>= next).run? s = (op.run? s).bind fun (a, s') => (next a).run? s' :=
  Course.end?_bind _ (op.course s)

end Op

end ProxyDial
