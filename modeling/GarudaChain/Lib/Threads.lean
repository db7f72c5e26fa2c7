import GarudaChain.Lib.Run
import Mathlib.Logic.Function.Basic

/-!
# Threads over a shared state

Any number of threads, each with a state of its own, take turns: a step of the system is one step of one
thread, which reads and writes the shared state.
-/

namespace Threads

/-- The shared state and the state of each thread. -/
structure Config (σ τ : Type) where
  shared : σ
  threads : Nat → τ

variable {σ τ ε : Type} (act : Nat → σ → τ → ε → σ × τ)

/-- One step of the thread with the given number. -/
def step (c : Config σ τ) (x : Nat × ε) : Config σ τ where
  shared := (act x.1 c.shared (c.threads x.1) x.2).1
  threads := Function.update c.threads x.1 (act x.1 c.shared (c.threads x.1) x.2).2

/-- A condition on the thread that makes a step, the shared state and the input. -/
def On (P : Nat → σ → τ → ε → Prop) (c : Config σ τ) (x : Nat × ε) : Prop :=
  P x.1 c.shared (c.threads x.1) x.2

instance (P : Nat → σ → τ → ε → Prop) [∀ i s t e, Decidable (P i s t e)] (c : Config σ τ)
    (x : Nat × ε) : Decidable (On P c x) :=
  inferInstanceAs (Decidable (P x.1 c.shared (c.threads x.1) x.2))

/-- A condition on the shared state, and one on each thread. -/
structure Inv (I : σ → Prop) (J : Nat → σ → τ → Prop) (c : Config σ τ) : Prop where
  shared : I c.shared
  threads : ∀ i, J i c.shared (c.threads i)

variable {act} {I : σ → Prop} {J : Nat → σ → τ → Prop} {P : Nat → σ → τ → ε → Prop}

/-- An invariant holds after a step if its part about the own thread does, and the step disturbs none of
    the other threads in the states they are in. -/
theorem inv_step {c : Config σ τ} (x : Nat × ε)
    (hown : I (act x.1 c.shared (c.threads x.1) x.2).1 ∧
      J x.1 (act x.1 c.shared (c.threads x.1) x.2).1 (act x.1 c.shared (c.threads x.1) x.2).2)
    (hother : ∀ j, j ≠ x.1 → J j (act x.1 c.shared (c.threads x.1) x.2).1 (c.threads j)) :
    Inv I J (step act c x) := by
  refine ⟨hown.1, ?_⟩
  intro j
  by_cases hj : j = x.1
  · subst hj
    simpa only [Threads.step, Function.update_self] using hown.2
  · simpa only [Threads.step, Function.update_of_ne hj] using hother j hj

/-- A step keeps an invariant if it keeps the part of its own thread, and disturbs no other thread. -/
theorem Inv.step {c : Config σ τ} (h : Inv I J c) (x : Nat × ε)
    (hown : I (act x.1 c.shared (c.threads x.1) x.2).1 ∧
      J x.1 (act x.1 c.shared (c.threads x.1) x.2).1 (act x.1 c.shared (c.threads x.1) x.2).2)
    (hother : ∀ j t, j ≠ x.1 → J j c.shared t → J j (act x.1 c.shared (c.threads x.1) x.2).1 t) :
    Inv I J (Threads.step act c x) :=
  inv_step x hown fun j hj => hother j _ hj (h.threads j)

end Threads
