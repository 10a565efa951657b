import Mathlib

/-! # Computations in a world

A harness and a host read a clock, wait and tell a listener through actions of a monad that the caller
chooses.  What is proved of them is proved for the actions on a world of any type: a clock may then show
any readings, and a listener may do anything to the world. -/

namespace Broadphase

variable {ε σ α β : Type}

/-- Begun in the world `w`, the computation returns `a` and leaves the world `w'`. -/
def Completes (x : ExceptT ε (StateM σ) α) (w : σ) (a : α) (w' : σ) : Prop :=
  x.run.run w = (.ok a, w')

theorem completes_pure (a : α) (w : σ) : Completes (pure a : ExceptT ε (StateM σ) α) w a w := rfl

theorem completes_lift (action : StateM σ α) (w : σ) :
    Completes (ExceptT.lift action : ExceptT ε (StateM σ) α) w (action.run w).1 (action.run w).2 := rfl

theorem completes_mk (a : α) (w : σ) :
    Completes (ExceptT.mk (pure (.ok a)) : ExceptT ε (StateM σ) α) w a w := rfl

theorem Completes.bind {x : ExceptT ε (StateM σ) α} {f : α → ExceptT ε (StateM σ) β} {w w' w'' : σ}
    {a : α} {b : β} (hx : Completes x w a w') (hf : Completes (f a) w' b w'') :
    Completes (x >>= f) w b w'' := by
  unfold Completes at hx hf ⊢
  rw [ExceptT.run_bind, StateT.run_bind, hx]
  exact hf

theorem Completes.unique {x : ExceptT ε (StateM σ) α} {w w₁ w₂ : σ} {a b : α}
    (h₁ : Completes x w a w₁) (h₂ : Completes x w b w₂) : a = b ∧ w₁ = w₂ := by
  cases h₁.symm.trans h₂
  exact ⟨rfl, rfl⟩

end Broadphase
