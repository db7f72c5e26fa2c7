import Mathlib.Tactic.Common

/-!
# Computations that can fail

Inversion lemmas for computations that return a value or an error, and the two guards they are written
with.
-/

namespace Result

variable {ε α β : Type}

theorem bind_ok_iff {x : Except ε α} {f : α → Except ε β} {b : β} :
    (x >>= f) = .ok b ↔ ∃ a, x = .ok a ∧ f a = .ok b := by
  cases x with
  | error e => simp [bind, Except.bind]
  | ok a => simp [bind, Except.bind]

theorem bind_error_iff {x : Except ε α} {f : α → Except ε β} {err : ε} :
    (x >>= f) = .error err ↔ x = .error err ∨ ∃ a, x = .ok a ∧ f a = .error err := by
  cases x with
  | error e => simp [bind, Except.bind]
  | ok a => simp [bind, Except.bind]

/-- Fail with an error if the condition holds. -/
def failIf (cond : Bool) (err : ε) : Except ε Unit := if cond then .error err else .ok ()

@[simp] theorem failIf_eq_ok (cond : Bool) (err : ε) (u : Unit) :
    failIf cond err = .ok u ↔ cond = false := by
  cases cond <;> simp [failIf]

/-- Fail unless the condition holds. -/
def require (cond : Bool) (err : ε) : Except ε Unit := if cond then .ok () else .error err

@[simp] theorem require_eq_ok (cond : Bool) (err : ε) (u : Unit) :
    require cond err = .ok u ↔ cond = true := by
  cases cond <;> simp [require]

@[simp] theorem ok_bind (a : α) (f : α → Except ε β) : (Except.ok a >>= f) = f a := rfl

/-- A computation succeeds with a value that has a property. -/
def Returns (x : Except ε α) (p : α → Prop) : Prop := ∃ a, x = .ok a ∧ p a

instance Returns.decidable (x : Except ε α) (p : α → Prop) [DecidablePred p] :
    Decidable (Returns x p) :=
  match x with
  | .ok a => decidable_of_iff (p a)
      ⟨fun h => ⟨a, rfl, h⟩, fun ⟨_, hok, h⟩ => Except.ok.inj hok ▸ h⟩
  | .error _ => .isFalse fun ⟨_, hok, _⟩ => by cases hok

theorem mapM_eq_ok {f : α → Except ε β} {g : α → β} {as : List α} (h : ∀ a ∈ as, f a = .ok (g a)) :
    as.mapM f = .ok (as.map g) := by
  induction as with
  | nil => rfl
  | cons a as ih =>
    obtain ⟨ha, has⟩ := List.forall_mem_cons.mp h
    rw [List.mapM_cons, ha, ok_bind, ih has, ok_bind, List.map_cons]
    rfl

end Result
