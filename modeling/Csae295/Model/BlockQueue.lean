import Csae295.Library.Memory

/-! The blocking queue. Every operation holds the mutex, so each is one step. -/

namespace Csae295

open Library

/-- The elements of the underlying `std::queue`, the front first. -/
structure BlockQueue (α : Type) where
  elements : List α
  deriving DecidableEq, Repr

namespace BlockQueue

variable {α : Type}

def size (self : BlockQueue α) : ℕ := self.elements.length

/-- An empty queue has no front. -/
def front (self : BlockQueue α) : Except Fault α :=
  match self.elements with
  | [] => .error .index
  | t :: _ => .ok t

def put (self : BlockQueue α) (t : α) : BlockQueue α := ⟨self.elements ++ [t]⟩

/-- `take` up to its `wait`: an empty queue blocks the caller, which is `none`. -/
def take (self : BlockQueue α) : Option (Except Fault α) :=
  if 0 = self.size then none else some self.front

/-- `take` behind its `wait`. The wait returns once the queue has been notified, by `put` or
by `notify`, and it may return at any other time; the size is not looked at again. -/
def wake (self : BlockQueue α) : Except Fault α := self.front

def pull (self : BlockQueue α) : BlockQueue α :=
  if 0 = self.size then self else ⟨self.elements.tail⟩

end BlockQueue

end Csae295
