import Mathlib.Algebra.Order.Ring.Int
import Mathlib.Data.List.Infix
import Mathlib.Order.Defs.PartialOrder
import Mathlib.Tactic.Common

/-!
# Runs of a transition system

A system takes one input after another; `run` is the state after a list of inputs.
-/

namespace Run

variable {σ ι : Type} (step : σ → ι → σ)

/-- The state after a list of inputs. -/
def run (s : σ) (xs : List ι) : σ := xs.foldl step s

@[simp] theorem run_nil (s : σ) : run step s [] = s := rfl

@[simp] theorem run_cons (s : σ) (x : ι) (xs : List ι) :
    run step s (x :: xs) = run step (step s x) xs := rfl

theorem run_append (s : σ) (xs ys : List ι) :
    run step s (xs ++ ys) = run step (run step s xs) ys := List.foldl_append

/-- Every step of the run meets the condition. -/
def Along (P : σ → ι → Prop) : σ → List ι → Prop
  | _, [] => True
  | s, x :: xs => P s x ∧ Along P (step s x) xs

instance Along.decidable (P : σ → ι → Prop) [∀ s x, Decidable (P s x)] :
    (s : σ) → (xs : List ι) → Decidable (Along step P s xs)
  | _, [] => .isTrue trivial
  | s, x :: xs => @instDecidableAnd _ _ _ (Along.decidable P (step s x) xs)

variable {step} {P Q : σ → ι → Prop} {I : σ → Prop}

theorem Along.of_initial {s : σ} {xs ys : List ι} (h : Along step P s ys) (hxs : xs <+: ys) :
    Along step P s xs := by
  induction xs generalizing s ys with
  | nil => trivial
  | cons x xs ih =>
    obtain ⟨zs, rfl⟩ := hxs
    exact ⟨h.1, ih h.2 (List.prefix_append xs zs)⟩

theorem Along.inv (hstep : ∀ s x, I s → P s x → I (step s x)) {s : σ} {xs : List ι} (hs : I s)
    (h : Along step P s xs) : I (run step s xs) := by
  induction xs generalizing s with
  | nil => exact hs
  | cons x xs ih => exact ih (hstep s x hs h.1) h.2

theorem run_inv (hstep : ∀ s x, I s → I (step s x)) {s : σ} (hs : I s) (xs : List ι) :
    I (run step s xs) := by
  induction xs generalizing s with
  | nil => exact hs
  | cons x xs ih => exact ih (hstep s x hs)

theorem Along.mono (hstep : ∀ s x, I s → P s x → I (step s x))
    (hPQ : ∀ s x, I s → P s x → Q s x) {s : σ} {xs : List ι} (hs : I s)
    (h : Along step P s xs) : Along step Q s xs := by
  induction xs generalizing s with
  | nil => trivial
  | cons x xs ih => exact ⟨hPQ s x hs h.1, ih (hstep s x hs h.1) h.2⟩

theorem Along.and {s : σ} {xs : List ι} (hP : Along step P s xs) (hQ : Along step Q s xs) :
    Along step (fun s x => P s x ∧ Q s x) s xs := by
  induction xs generalizing s with
  | nil => trivial
  | cons x xs ih => exact ⟨⟨hP.1, hQ.1⟩, ih hP.2 hQ.2⟩

theorem Along.append {s : σ} {xs ys : List ι} (hxs : Along step P s xs)
    (hys : Along step P (run step s xs) ys) : Along step P s (xs ++ ys) := by
  induction xs generalizing s with
  | nil => exact hys
  | cons x xs ih => exact ⟨hxs.1, ih hxs.2 hys⟩

theorem along_of_forall_mem {p : ι → Prop} {s : σ} {xs : List ι} (h : ∀ x ∈ xs, p x) :
    Along step (fun _ x => p x) s xs := by
  induction xs generalizing s with
  | nil => trivial
  | cons x xs ih =>
    obtain ⟨hx, hxs⟩ := List.forall_mem_cons.mp h
    exact ⟨hx, ih hxs⟩

theorem Along.and_mem {s : σ} {xs ys : List ι} (h : Along step P s xs) (hsub : ∀ x ∈ xs, x ∈ ys) :
    Along step (fun s x => P s x ∧ x ∈ ys) s xs := by
  induction xs generalizing s with
  | nil => trivial
  | cons x xs ih =>
    obtain ⟨hx, hxs⟩ := List.forall_mem_cons.mp hsub
    exact ⟨⟨h.1, hx⟩, ih h.2 hxs⟩

theorem Along.and_reached {s₀ s : σ} {xs ys zs : List ι} (h : Along step P s xs)
    (hs : s = run step s₀ ys) (hzs : zs = ys ++ xs) :
    Along step (fun t x => P t x ∧ ∃ ws, ws <+: zs ∧ t = run step s₀ ws) s xs := by
  induction xs generalizing s ys with
  | nil => trivial
  | cons x xs ih =>
    have hnext : step s x = run step s₀ (ys ++ [x]) := by
      rw [hs, run_append]
      rfl
    refine ⟨⟨h.1, ys, hzs ▸ List.prefix_append ys _, hs⟩, ih h.2 hnext ?_⟩
    rw [hzs, List.append_assoc, List.singleton_append]

/-! ## Conditions on the end of a run

A condition that no step can bring about, such as a bound on something that only grows. -/

section

variable (hback : ∀ s x, I (step s x) → I s)

include hback

theorem of_run {s : σ} {xs : List ι} (h : I (run step s xs)) : I s := by
  induction xs generalizing s with
  | nil => exact h
  | cons x xs ih => exact hback s x (ih h)

theorem of_run_of_initial {s : σ} {xs ys : List ι} (hxs : xs <+: ys) (h : I (run step s ys)) :
    I (run step s xs) := by
  obtain ⟨zs, rfl⟩ := hxs
  rw [run_append] at h
  exact of_run hback h

theorem along_of_run {s : σ} {xs : List ι} (h : I (run step s xs)) :
    Along step (fun s x => I (step s x)) s xs := by
  induction xs generalizing s with
  | nil => trivial
  | cons x xs ih => exact ⟨of_run hback h, ih h⟩

end

/-- A loop whose body gives the next state, or `none` where the loop ends, for at most `fuel` rounds. -/
def loop (body : σ → Option σ) : Nat → σ → σ
  | 0, s => s
  | fuel + 1, s =>
    match body s with
    | none => s
    | some s' => loop body fuel s'

section

variable {body : σ → Option σ}

theorem loop_inv (hbody : ∀ s s', I s → body s = some s' → I s') (fuel : Nat) {s : σ} (hs : I s) :
    I (loop body fuel s) := by
  induction fuel generalizing s with
  | zero => exact hs
  | succ fuel ih =>
    unfold loop
    cases hnext : body s with
    | none => exact hs
    | some s' => exact ih (hbody s s' hs hnext)

theorem loop_ended {measure : σ → Nat} (hbody : ∀ s s', I s → body s = some s' → I s')
    (hlower : ∀ s s', I s → body s = some s' → measure s' < measure s) {fuel : Nat} {s : σ}
    (hs : I s) (hfuel : measure s ≤ fuel) : body (loop body fuel s) = none := by
  induction fuel generalizing s with
  | zero =>
    cases hnext : body s with
    | none => exact hnext
    | some s' =>
      have := hlower s s' hs hnext
      omega
  | succ fuel ih =>
    unfold loop
    cases hnext : body s with
    | none => exact hnext
    | some s' =>
      have := hlower s s' hs hnext
      exact ih (hbody s s' hs hnext) (by omega)

end

/-- A loop over a list, whose body gives the next state, or `none` where the loop ends early. -/
def each (body : σ → ι → Option σ) : List ι → σ → σ
  | [], s => s
  | x :: xs, s =>
    match body s x with
    | none => s
    | some s' => each body xs s'

theorem each_inv {body : σ → ι → Option σ} {J : List ι → σ → Prop}
    (hbody : ∀ x xs s s', J (x :: xs) s → body s x = some s' → J xs s') {xs : List ι} {s : σ}
    (hs : J xs s) : ∃ rest, J rest (each body xs s) := by
  induction xs generalizing s with
  | nil => exact ⟨[], hs⟩
  | cons x xs ih =>
    unfold each
    cases hnext : body s x with
    | none => exact ⟨x :: xs, hs⟩
    | some s' => exact ih (hbody x xs s s' hs hnext)

end Run
