import Mathlib.Tactic.Common

/-!
# Records written one after the other

A text made of records without separators.
-/

namespace Framing

variable {α β γ : Type}

/-- Two texts that begin with records in `P` and are the same have the same first record, as far as
    `view` goes, and the same rest. -/
def Delimits (P : α → Prop) (enc : α → List β) (view : α → γ) : Prop :=
  ∀ a b x y, P a → P b → enc a ++ x = enc b ++ y → view a = view b ∧ x = y

variable {P : α → Prop} {enc : α → List β} {view : α → γ} {as bs : List α}

theorem Delimits.flatMap_append (h : Delimits P enc view) (has : ∀ a ∈ as, P a)
    (hbs : ∀ b ∈ bs, P b) (hlength : as.length = bs.length) {x y : List β}
    (heq : as.flatMap enc ++ x = bs.flatMap enc ++ y) : as.map view = bs.map view ∧ x = y := by
  induction as generalizing bs with
  | nil =>
    obtain rfl := List.length_eq_zero_iff.mp hlength.symm
    exact ⟨rfl, heq⟩
  | cons a as ih =>
    cases bs with
    | nil => cases hlength
    | cons b bs =>
      obtain ⟨ha, has⟩ := List.forall_mem_cons.mp has
      obtain ⟨hb, hbs⟩ := List.forall_mem_cons.mp hbs
      rw [List.flatMap_cons, List.flatMap_cons, List.append_assoc, List.append_assoc] at heq
      obtain ⟨hview, hrest⟩ := h a b _ _ ha hb heq
      obtain ⟨hviews, hend⟩ := ih has hbs (Nat.succ.inj hlength) hrest
      exact ⟨by rw [List.map_cons, List.map_cons, hview, hviews], hend⟩

theorem Delimits.flatMap (h : Delimits P enc view) (hne : ∀ a, enc a ≠ []) (has : ∀ a ∈ as, P a)
    (hbs : ∀ b ∈ bs, P b) (heq : as.flatMap enc = bs.flatMap enc) : as.map view = bs.map view := by
  induction as generalizing bs with
  | nil =>
    cases bs with
    | nil => rfl
    | cons b bs => exact absurd (List.append_eq_nil_iff.mp heq.symm).1 (hne b)
  | cons a as ih =>
    cases bs with
    | nil => exact absurd (List.append_eq_nil_iff.mp heq).1 (hne a)
    | cons b bs =>
      obtain ⟨ha, has⟩ := List.forall_mem_cons.mp has
      obtain ⟨hb, hbs⟩ := List.forall_mem_cons.mp hbs
      rw [List.flatMap_cons, List.flatMap_cons] at heq
      obtain ⟨hview, hrest⟩ := h a b _ _ ha hb heq
      rw [List.map_cons, List.map_cons, hview, ih has hbs hrest]

end Framing
