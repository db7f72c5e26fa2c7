import Mathlib.Algebra.Order.Ring.Int
import Mathlib.Data.List.Basic
import Mathlib.Tactic.Common

/-!
# Maps written in the order of their keys

A map is given by the assignments that made it, of which a later one to the same key wins.
-/

namespace SortedMap

variable {κ ι α β : Type} [LinearOrder ι] (rank : κ → ι)

/-- The keys are in order, each once. -/
def Sorted (m : List (κ × α)) : Prop := m.Pairwise fun p q => rank p.1 < rank q.1

/-- Assign to a key of a sorted map. -/
def put (k : κ) (v : α) : List (κ × α) → List (κ × α)
  | [] => [(k, v)]
  | p :: m =>
    if rank k < rank p.1 then (k, v) :: p :: m
    else if rank p.1 < rank k then p :: put k v m
    else (k, v) :: m

/-- The sorted form of the map that the assignments make. -/
def sort (ms : List (κ × α)) : List (κ × α) := ms.foldl (fun m p => put rank p.1 p.2 m) []

variable {rank}

theorem mem_put {k : κ} {v : α} {m : List (κ × α)} {p : κ × α} (h : p ∈ put rank k v m) :
    p = (k, v) ∨ p ∈ m := by
  induction m with
  | nil => exact .inl (List.mem_singleton.mp h)
  | cons q m ih =>
    rw [put] at h
    split_ifs at h with hlt hgt
    · exact List.mem_cons.mp h
    · rcases List.mem_cons.mp h with rfl | h
      · exact .inr List.mem_cons_self
      · exact (ih h).imp_right (List.mem_cons_of_mem _)
    · exact (List.mem_cons.mp h).imp_right (List.mem_cons_of_mem _)

theorem Sorted.put {k : κ} {v : α} {m : List (κ × α)} (h : Sorted rank m) :
    Sorted rank (put rank k v m) := by
  induction m with
  | nil => exact List.pairwise_singleton _ _
  | cons q m ih =>
    obtain ⟨hq, hm⟩ := List.pairwise_cons.mp h
    rw [SortedMap.put]
    split_ifs with hlt hgt
    · refine List.pairwise_cons.mpr ⟨?_, h⟩
      intro p hp
      rcases List.mem_cons.mp hp with rfl | hp
      · exact hlt
      · exact lt_trans hlt (hq p hp)
    · refine List.pairwise_cons.mpr ⟨?_, ih hm⟩
      intro p hp
      rcases mem_put hp with rfl | hp
      · exact hgt
      · exact hq p hp
    · -- the key was there already
      have heq : rank k = rank q.1 := le_antisymm (not_lt.mp hgt) (not_lt.mp hlt)
      refine List.pairwise_cons.mpr ⟨fun p hp => ?_, hm⟩
      rw [heq]
      exact hq p hp

theorem put_of_lt {k : κ} {v : α} {m : List (κ × α)} (h : ∀ p ∈ m, rank p.1 < rank k) :
    put rank k v m = m ++ [(k, v)] := by
  induction m with
  | nil => rfl
  | cons q m ih =>
    have hq := h q List.mem_cons_self
    rw [put, if_neg (not_lt.mpr (le_of_lt hq)), if_pos hq, ih fun p hp => h p (List.mem_cons_of_mem _ hp)]
    rfl

theorem foldl_put_sorted (ms : List (κ × α)) : ∀ {m : List (κ × α)}, Sorted rank m →
    Sorted rank (ms.foldl (fun m p => put rank p.1 p.2 m) m) := by
  induction ms with
  | nil => exact fun h => h
  | cons p ms ih => exact fun h => ih h.put

theorem sort_sorted (ms : List (κ × α)) : Sorted rank (sort rank ms) :=
  foldl_put_sorted ms List.Pairwise.nil

theorem mem_foldl_put (ms : List (κ × α)) : ∀ {m : List (κ × α)} {p : κ × α},
    p ∈ ms.foldl (fun m p => put rank p.1 p.2 m) m → p ∈ m ∨ p ∈ ms := by
  induction ms with
  | nil => exact fun h => .inl h
  | cons q ms ih =>
    intro m p h
    rcases ih h with h | h
    · rcases mem_put h with rfl | h
      · exact .inr List.mem_cons_self
      · exact .inl h
    · exact .inr (List.mem_cons_of_mem _ h)

theorem mem_of_mem_sort {ms : List (κ × α)} {p : κ × α} (h : p ∈ sort rank ms) : p ∈ ms := by
  rcases mem_foldl_put ms h with h | h
  · cases h
  · exact h

theorem foldl_put_of_sorted (ms : List (κ × α)) : ∀ {m : List (κ × α)}, Sorted rank (m ++ ms) →
    ms.foldl (fun m p => put rank p.1 p.2 m) m = m ++ ms := by
  induction ms with
  | nil => exact fun _ => (List.append_nil _).symm
  | cons p ms ih =>
    intro m h
    have hbelow : ∀ q ∈ m, rank q.1 < rank p.1 := fun q hq =>
      (List.pairwise_append.mp h).2.2 q hq p List.mem_cons_self
    rw [List.foldl_cons, put_of_lt hbelow, ih (by simpa using h)]
    simp

theorem sort_of_sorted {ms : List (κ × α)} (h : Sorted rank ms) : sort rank ms = ms := by
  rw [sort, foldl_put_of_sorted ms h, List.nil_append]

theorem Sorted.of_keys {m : List (κ × α)} {m' : List (κ × β)}
    (hkeys : m'.map Prod.fst = m.map Prod.fst) (h : Sorted rank m) : Sorted rank m' := by
  have hm : (m.map Prod.fst).Pairwise fun k k' => rank k < rank k' :=
    List.pairwise_map.mpr h
  rw [← hkeys, List.pairwise_map] at hm
  exact hm

end SortedMap
