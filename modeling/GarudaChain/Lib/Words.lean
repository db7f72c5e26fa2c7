import Mathlib.Data.List.DropRight
import Mathlib.Tactic.Common

/-!
# Words between separators

A list is trimmed by dropping the separators at both ends, and split at runs of separators. A run at an
end of the list leaves an empty word there.
-/

namespace Words

variable {α : Type} (p : α → Bool)

/-- The list without the separators at its ends. -/
def trim (s : List α) : List α := (s.dropWhile p).rdropWhile p

/-- The words between the runs of separators. -/
def split : List α → List (List α)
  | [] => [[]]
  | c :: s =>
    if p c then if s.head?.any p then split s else [] :: split s
    else (split s).modifyHead (c :: ·)

variable {p}

theorem trim_trim (s : List α) : trim p (trim p s) = trim p s := by
  have hdrop : (trim p s).dropWhile p = trim p s := by
    cases htrim : trim p s with
    | nil => rfl
    | cons c t =>
      -- what is left starts with what the first step has left
      obtain ⟨u, hu⟩ := List.rdropWhile_prefix p (s.dropWhile p)
      rw [← trim, htrim, List.cons_append] at hu
      have hhead : p c = false := by
        have hne : s.dropWhile p ≠ [] := by simp [← hu]
        simpa [← hu] using List.head_dropWhile_not p hne
      simp [hhead]
  rw [trim, hdrop]
  exact List.rdropWhile_idempotent p _

theorem split_append_of_forall_not {u : List α} (hu : ∀ c ∈ u, p c = false) (s : List α) :
    split p (u ++ s) = (split p s).modifyHead (u ++ ·) := by
  induction u with
  | nil => cases hs : split p s <;> simp [hs]
  | cons c u ih =>
    obtain ⟨hc, hu⟩ := List.forall_mem_cons.mp hu
    rw [List.cons_append, split, hc, if_neg Bool.false_ne_true, ih hu, List.modifyHead_modifyHead]
    rfl

theorem length_split_flatMap {f : α → List α} (hsep : ∀ c, p c = true → f c = [c])
    (hother : ∀ c, p c = false → f c ≠ [] ∧ ∀ d ∈ f c, p d = false) (s : List α) :
    (split p (s.flatMap f)).length = (split p s).length := by
  have hhead : ∀ s : List α, (s.flatMap f).head?.any p = s.head?.any p := by
    intro s
    cases s with
    | nil => rfl
    | cons c s =>
      cases hc : p c with
      | true => simp [hsep c hc]
      | false =>
        obtain ⟨hne, hall⟩ := hother c hc
        obtain ⟨d, t, hd⟩ := List.exists_cons_of_ne_nil hne
        have hpd := hall d (by simp [hd])
        simp [hd, hpd, hc]
  induction s with
  | nil => rfl
  | cons c s ih =>
    rw [List.flatMap_cons]
    cases hc : p c with
    | true =>
      rw [hsep c hc, List.singleton_append, split, split, hc, if_pos rfl, if_pos rfl, hhead]
      split_ifs
      · exact ih
      · simp [ih]
    | false =>
      rw [split_append_of_forall_not (hother c hc).2, split, hc, if_neg Bool.false_ne_true]
      simp [ih]

end Words
