import Mathlib.Data.List.Induction
import Mathlib.Tactic.Common

/-!
# Hash chains

A list of entries of which each names the hash of the one before it, the first one a start value.
-/

namespace HashChain

variable {E B H : Type} (prev hash : E → H)

/-- Every entry names the hash before it, beginning with `start`. -/
def Linked (start : H) : List E → Prop
  | [] => True
  | e :: es => prev e = start ∧ Linked (hash e) es

/-- The hash that the next entry has to name. -/
def tip (start : H) : List E → H
  | [] => start
  | e :: es => tip (hash e) es

variable {prev hash}

theorem tip_append (start : H) (es : List E) (e : E) : tip hash start (es ++ [e]) = hash e := by
  induction es generalizing start with
  | nil => rfl
  | cons e' es ih => exact ih (hash e')

theorem linked_append (start : H) (es : List E) (e : E) :
    Linked prev hash start (es ++ [e]) ↔
      Linked prev hash start es ∧ prev e = tip hash start es := by
  induction es generalizing start with
  | nil => simp [Linked, tip]
  | cons e' es ih => simp [Linked, tip, ih, and_assoc]

theorem tip_eq_getLast (start : H) (es : List E) :
    tip hash start es = (es.getLast?.map hash).getD start := by
  rcases List.eq_nil_or_concat es with rfl | ⟨es, e, rfl⟩
  · rfl
  · rw [List.concat_eq_append, tip_append]
    simp

theorem Linked.prev_of {P : H → Prop} {es : List E} : ∀ {start : H},
    Linked prev hash start es → P start → (∀ e ∈ es, P (hash e)) → ∀ e ∈ es, P (prev e) := by
  induction es with
  | nil => simp
  | cons e es ih =>
    intro start hlinked hstart hes a ha
    obtain ⟨hprev, hrest⟩ := hlinked
    rcases List.mem_cons.mp ha with rfl | ha
    · rw [hprev]
      exact hstart
    · exact ih hrest (hes e List.mem_cons_self) (fun b hb => hes b (List.mem_cons_of_mem _ hb)) a ha

/-- Two chains with the same last hash have the same entries, where equal hashes are hashes of equal
    things that name the same hash, and no entry has the start value as its hash. The induction goes
    from the last entries back, since the chains may have different lengths. -/
theorem Linked.same_bodies {start : H} {body : E → B} {es : List E} : ∀ {es' : List E},
    Linked prev hash start es → Linked prev hash start es' →
    (∀ e ∈ es, ∀ e' ∈ es', hash e = hash e' → body e = body e' ∧ prev e = prev e') →
    (∀ e ∈ es, hash e ≠ start) → (∀ e ∈ es', hash e ≠ start) →
    tip hash start es = tip hash start es' → es.map body = es'.map body := by
  induction es using List.reverseRecOn with
  | nil =>
    intro es' _ _ _ _ hstart' htip
    rcases List.eq_nil_or_concat es' with rfl | ⟨es', e', rfl⟩
    · rfl
    · rw [List.concat_eq_append] at htip hstart'
      rw [tip_append] at htip
      exact absurd htip.symm (hstart' e' (by simp))
  | append_singleton es e ih =>
    intro es' hes hes' hsame hstart hstart' htip
    rw [tip_append] at htip
    rcases List.eq_nil_or_concat es' with rfl | ⟨es', e', rfl⟩
    · exact absurd htip (hstart e (by simp))
    · rw [List.concat_eq_append] at hes' hsame hstart' htip ⊢
      rw [tip_append] at htip
      obtain ⟨hes, hprev⟩ := (linked_append start es e).mp hes
      obtain ⟨hes', hprev'⟩ := (linked_append start es' e').mp hes'
      obtain ⟨hbody, hsamePrev⟩ := hsame e (by simp) e' (by simp) htip
      have hrest := ih hes hes'
        (fun a ha a' ha' => hsame a (List.mem_append_left _ ha) a' (List.mem_append_left _ ha'))
        (fun a ha => hstart a (List.mem_append_left _ ha))
        (fun a ha => hstart' a (List.mem_append_left _ ha))
        (hprev.symm.trans (hsamePrev.trans hprev'))
      rw [List.map_append, List.map_append, hrest, List.map_singleton, List.map_singleton, hbody]

end HashChain
