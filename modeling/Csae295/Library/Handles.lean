import Mathlib.Data.List.Basic

/-! Numbered resources: what has been created and not released. -/

namespace Csae295.Library

/-- Resources are numbered in the order they are created. -/
structure Handles where
  created : ℕ
  live : List ℕ
  deriving DecidableEq, Repr

namespace Handles

def none : Handles := ⟨0, []⟩

/-- The next resource. -/
def create (self : Handles) : Handles := ⟨self.created + 1, self.live ++ [self.created]⟩

/-- Releasing what is not live changes nothing. -/
def release (self : Handles) (handle : Option ℕ) : Handles :=
  { self with live := handle.elim self.live self.live.erase }

/-- The handle refers to a live resource. -/
def Holds (self : Handles) (handle : Option ℕ) : Prop := ∃ h ∈ self.live, handle = some h

instance (self : Handles) (handle : Option ℕ) : Decidable (self.Holds handle) :=
  inferInstanceAs (Decidable (∃ h ∈ self.live, handle = some h))

theorem create_live_of_nil {self : Handles} (h : self.live = []) :
    self.create.live = [self.created] := by
  rw [create, h, List.nil_append]

theorem release_live_of_singleton {self : Handles} {handle : ℕ} (h : self.live = [handle]) :
    (self.release (some handle)).live = [] := by
  rw [release, Option.elim_some, h, List.erase_cons_head]

end Handles

end Csae295.Library
