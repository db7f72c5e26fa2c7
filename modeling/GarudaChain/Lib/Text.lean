import Mathlib.Tactic.Common

/-!
# Texts as lists of characters
-/

namespace Text

/-- The position of the last character of this kind (`rfind`, `lastIndexOf`). -/
def lastIndexOf (c : Char) : List Char → Option Nat
  | [] => none
  | d :: s =>
    match lastIndexOf c s with
    | some i => some (i + 1)
    | none => if d = c then some 0 else none

theorem lastIndexOf_of_not_mem {c : Char} {s : List Char} (h : c ∉ s) : lastIndexOf c s = none := by
  induction s with
  | nil => rfl
  | cons d s ih =>
    rw [List.mem_cons, not_or] at h
    rw [lastIndexOf, ih h.2]
    exact if_neg (Ne.symm h.1)

theorem lastIndexOf_append {c : Char} (s : List Char) {t : List Char} (h : c ∉ t) :
    lastIndexOf c (s ++ c :: t) = some s.length := by
  induction s with
  | nil =>
    rw [List.nil_append, lastIndexOf, lastIndexOf_of_not_mem h]
    exact if_pos rfl
  | cons d s ih => rw [List.cons_append, lastIndexOf, ih, List.length_cons]

end Text
