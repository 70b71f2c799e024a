import Mathlib.Logic.Function.Basic

/-! Interleavings of the sequences of any number of sources. -/

namespace Csae295.Library

variable {τ α : Type*} [DecidableEq τ]

/-- A list made of the lists of all sources, each of them in its own order. -/
inductive Interleaving : (τ → List α) → List α → Prop where
  | nil : Interleaving (fun _ => []) []
  | cons {parts : τ → List α} {whole : List α} (t : τ) (a : α) (h : Interleaving parts whole) :
      Interleaving (Function.update parts t (a :: parts t)) (a :: whole)

end Csae295.Library
