import Mathlib.Algebra.BigOperators.Group.Finset.Basic
import Mathlib.Algebra.BigOperators.Group.List.Lemmas
import Mathlib.Algebra.Order.BigOperators.Group.List
import Mathlib.Algebra.Order.Ring.Int
import Mathlib.Data.List.Sort
import Mathlib.Tactic.Common

/-!
# Key-value stores

A store as a database keeps it: entries with distinct keys, iterated in the order of the keys. A write
replaces the entry of its key.
-/

/-- A key-value store. -/
structure Store (κ ν : Type) where
  entries : List (κ × ν)
  nodup : (entries.map Prod.fst).Nodup

namespace Store

variable {κ ν : Type} [DecidableEq κ]

def empty : Store κ ν := ⟨[], List.nodup_nil⟩

/-- The value of a key. -/
def read (s : Store κ ν) (k : κ) : Option ν := (s.entries.find? fun e => e.1 = k).map Prod.snd

/-- The entries under other keys. -/
def others (s : Store κ ν) (k : κ) : List (κ × ν) := s.entries.filter fun e => e.1 ≠ k

/-- Set the value of a key, where `before` is the order of the keys. -/
def write (before : κ → κ → Bool) (s : Store κ ν) (k : κ) (v : ν) : Store κ ν where
  entries := (s.others k).orderedInsert (fun a b => before a.1 b.1 = true) (k, v)
  nodup := by
    have hperm := List.perm_orderedInsert (fun a b : κ × ν => before a.1 b.1 = true) (k, v)
      (s.others k)
    rw [(hperm.map Prod.fst).nodup_iff, List.map_cons, List.nodup_cons]
    constructor
    · simp [others]
    · exact s.nodup.sublist (List.filter_sublist.map Prod.fst)

section

variable (before : κ → κ → Bool) (s : Store κ ν)

theorem entries_write_perm (k : κ) (v : ν) :
    (s.write before k v).entries.Perm ((k, v) :: s.others k) :=
  List.perm_orderedInsert _ _ _

theorem read_eq_some_iff {k : κ} {v : ν} : s.read k = some v ↔ (k, v) ∈ s.entries := by
  unfold read
  constructor
  · intro h
    obtain ⟨⟨k', v'⟩, hfind, rfl⟩ := Option.map_eq_some_iff.mp h
    have hk : k' = k := by simpa using List.find?_some hfind
    exact hk ▸ List.mem_of_find?_eq_some hfind
  · intro hmem
    obtain ⟨es, hnodup⟩ := s
    induction es with
    | nil => cases hmem
    | cons e es ih =>
      simp only [List.map_cons, List.nodup_cons] at hnodup
      rcases List.mem_cons.mp hmem with rfl | hmem
      · simp
      · have hne : e.1 ≠ k := by
          intro hk
          exact hnodup.1 (List.mem_map.mpr ⟨(k, v), hmem, hk.symm⟩)
        simpa [List.find?_cons, hne] using ih hnodup.2 hmem

theorem mem_write_iff {k k' : κ} {v v' : ν} :
    (k', v') ∈ (s.write before k v).entries ↔
      (k' = k ∧ v' = v) ∨ (k' ≠ k ∧ (k', v') ∈ s.entries) := by
  rw [(s.entries_write_perm before k v).mem_iff, List.mem_cons, others, List.mem_filter]
  simp [and_comm]

@[simp] theorem read_write_self (k : κ) (v : ν) : (s.write before k v).read k = some v := by
  rw [read_eq_some_iff, mem_write_iff]
  exact .inl ⟨rfl, rfl⟩

theorem read_write_of_ne {k k' : κ} (h : k' ≠ k) (v : ν) :
    (s.write before k v).read k' = s.read k' := by
  apply Option.ext
  intro v'
  rw [read_eq_some_iff, read_eq_some_iff, mem_write_iff]
  simp [h]

/-- Set the value of a key that has none. -/
def insertNew (before : κ → κ → Bool) (s : Store κ ν) (k : κ) (v : ν) : Store κ ν :=
  if (s.read k).isSome then s else s.write before k v

theorem insertNew_of_some {k : κ} {v' : ν} (h : s.read k = some v') (v : ν) :
    s.insertNew before k v = s := by
  rw [insertNew, h]
  rfl

theorem insertNew_of_none {k : κ} (h : s.read k = none) (v : ν) :
    s.insertNew before k v = s.write before k v := by
  rw [insertNew, h]
  rfl

theorem read_insertNew_iff {P P' : κ → ν → Prop} {k : κ} {v : ν}
    (h : ∀ k v, s.read k = some v ↔ P k v)
    (hadd : ∀ k' v', P' k' v' ↔ (k' = k ∧ v' = v) ∨ P k' v')
    (hfun : ∀ k v v', P' k v → P' k v' → v = v') (k' : κ) (v' : ν) :
    (s.insertNew before k v).read k' = some v' ↔ P' k' v' := by
  have hnew : P' k v := (hadd k v).mpr (.inl ⟨rfl, rfl⟩)
  cases hread : s.read k with
  | some old =>
    have hold : P' k old := (hadd k old).mpr (.inr ((h k old).mp hread))
    rw [s.insertNew_of_some before hread, h, hadd]
    refine ⟨.inr, ?_⟩
    rintro (⟨rfl, rfl⟩ | hP)
    · exact (h _ _).mp (hread.trans (congrArg some (hfun _ _ _ hold hnew)))
    · exact hP
  | none =>
    rw [s.insertNew_of_none before hread]
    by_cases hk : k' = k
    · subst hk
      rw [read_write_self, Option.some.injEq]
      exact ⟨fun heq => heq ▸ hnew, hfun _ _ _ hnew⟩
    · rw [s.read_write_of_ne before hk, h, hadd]
      simp [hk]

/-- Change the value of a key if it has one. -/
def modify (before : κ → κ → Bool) (s : Store κ ν) (k : κ) (f : ν → ν) : Store κ ν :=
  match s.read k with
  | none => s
  | some v => s.write before k (f v)

theorem modify_of_none {k : κ} (h : s.read k = none) (f : ν → ν) : s.modify before k f = s := by
  rw [modify, h]

theorem modify_of_some {k : κ} {v : ν} (h : s.read k = some v) (f : ν → ν) :
    s.modify before k f = s.write before k (f v) := by
  rw [modify, h]

theorem read_modify (k k' : κ) (f : ν → ν) :
    (s.modify before k f).read k' = if k' = k then (s.read k).map f else s.read k' := by
  cases hread : s.read k with
  | none =>
    rw [s.modify_of_none before hread]
    split_ifs with hk
    · rw [hk, hread]
      rfl
    · rfl
  | some v =>
    rw [s.modify_of_some before hread]
    split_ifs with hk
    · rw [hk, read_write_self]
      rfl
    · exact s.read_write_of_ne before hk _

/-- Change every value and keep the keys. -/
def mapValues (f : ν → ν) (s : Store κ ν) : Store κ ν where
  entries := s.entries.map fun e => (e.1, f e.2)
  nodup := by
    rw [List.map_map]
    exact s.nodup

theorem read_mapValues (f : ν → ν) (k : κ) : (s.mapValues f).read k = (s.read k).map f := by
  simp only [read, mapValues, List.find?_map, Option.map_map]
  rfl

/-- The sum of a measure over the entries. -/
def total (w : κ → ν → Int) (s : Store κ ν) : Int := (s.entries.map fun e => w e.1 e.2).sum

variable (w : κ → ν → Int)

omit [DecidableEq κ] in
@[simp] theorem total_empty : total w (empty : Store κ ν) = 0 := rfl

theorem total_eq_of_read_eq {s s' : Store κ ν} (h : ∀ k, s.read k = s'.read k) :
    total w s = total w s' := by
  have hperm : s.entries.Perm s'.entries := by
    refine (List.perm_ext_iff_of_nodup s.nodup.of_map s'.nodup.of_map).mpr ?_
    rintro ⟨k, v⟩
    rw [← read_eq_some_iff, ← read_eq_some_iff, h]
  exact (hperm.map fun e => w e.1 e.2).sum_eq

/-- What a key adds to the total. -/
def share (w : κ → ν → Int) (s : Store κ ν) (k : κ) : Int := (s.read k).elim 0 (w k)

theorem total_eq_share_add (k : κ) :
    total w s = share w s k + ((s.others k).map fun e => w e.1 e.2).sum := by
  cases hread : s.read k with
  | none =>
    have hothers : s.others k = s.entries := by
      refine List.filter_eq_self.mpr ?_
      rintro ⟨k', v'⟩ hmem
      rw [decide_eq_true_eq]
      rintro rfl
      rw [(s.read_eq_some_iff).mpr hmem] at hread
      cases hread
    simp [total, share, hread, hothers]
  | some v =>
    have hmem : (k, v) ∈ s.entries := s.read_eq_some_iff.mp hread
    have hperm : s.entries.Perm ((k, v) :: s.others k) := by
      refine (List.perm_ext_iff_of_nodup s.nodup.of_map ?_).mpr ?_
      · refine List.nodup_cons.mpr ⟨by simp [others], ?_⟩
        exact s.nodup.of_map.filter _
      · rintro ⟨k', v'⟩
        simp only [List.mem_cons, Prod.mk.injEq, others, List.mem_filter, decide_eq_true_eq]
        constructor
        · intro h
          by_cases hk : k' = k
          · subst hk
            have hv := (s.read_eq_some_iff.mpr h).symm.trans hread
            exact .inl ⟨rfl, Option.some.inj hv⟩
          · exact .inr ⟨h, hk⟩
        · rintro (⟨rfl, rfl⟩ | h)
          · exact hmem
          · exact h.1
    have hsum := (hperm.map fun e => w e.1 e.2).sum_eq
    simpa [total, share, hread] using hsum

theorem total_write (k : κ) (v : ν) :
    total w (s.write before k v) = total w s - share w s k + w k v := by
  have hsum := ((s.entries_write_perm before k v).map fun e => w e.1 e.2).sum_eq
  rw [List.map_cons, List.sum_cons] at hsum
  have hold := s.total_eq_share_add w k
  show (List.map _ _).sum = _
  rw [hsum, hold]
  show w k v + _ = _
  omega

omit [DecidableEq κ] in
theorem total_add (w w' : κ → ν → Int) :
    total (fun k v => w k v + w' k v) s = total w s + total w' s := by
  unfold total
  induction s.entries with
  | nil => rfl
  | cons e es ih =>
    simp only [List.map_cons, List.sum_cons, ih]
    omega

omit [DecidableEq κ] in
theorem total_congr {w w' : κ → ν → Int} (h : ∀ e ∈ s.entries, w e.1 e.2 = w' e.1 e.2) :
    total w s = total w' s := by
  unfold total
  rw [List.map_congr_left h]

theorem share_of_notMem {k : κ} (h : ∀ e ∈ s.entries, e.1 ≠ k) : share w s k = 0 := by
  unfold share
  cases hread : s.read k with
  | none => rfl
  | some v => exact absurd rfl (h _ (s.read_eq_some_iff.mp hread))

theorem total_eq_sum_share {K : Finset κ} (hK : ∀ e ∈ s.entries, e.1 ∈ K) :
    total w s = K.sum (share w s) := by
  have hshares : total w s = ((s.entries.map Prod.fst).map (share w s)).sum := by
    unfold total
    rw [List.map_map]
    refine congrArg List.sum (List.map_congr_left ?_)
    rintro ⟨k, v⟩ he
    simp only [Function.comp_apply, share, s.read_eq_some_iff.mpr he, Option.elim_some]
  rw [hshares, ← List.sum_toFinset _ s.nodup]
  refine Finset.sum_subset ?_ ?_
  · intro k hk
    obtain ⟨e, he, rfl⟩ := List.mem_map.mp (List.mem_toFinset.mp hk)
    exact hK e he
  · intro k _ hk
    refine s.share_of_notMem w ?_
    rintro e he rfl
    exact hk (List.mem_toFinset.mpr (List.mem_map_of_mem he))

theorem total_eq_of_share_eq {s s' : Store κ ν} (h : ∀ k, share w s k = share w s' k) :
    total w s = total w s' := by
  have hmem : ∀ e ∈ s.entries, e.1 ∈ ((s.entries ++ s'.entries).map Prod.fst).toFinset := by
    intro e he
    exact List.mem_toFinset.mpr (List.mem_map_of_mem (List.mem_append_left _ he))
  have hmem' : ∀ e ∈ s'.entries, e.1 ∈ ((s.entries ++ s'.entries).map Prod.fst).toFinset := by
    intro e he
    exact List.mem_toFinset.mpr (List.mem_map_of_mem (List.mem_append_right _ he))
  rw [s.total_eq_sum_share w hmem, s'.total_eq_sum_share w hmem']
  exact Finset.sum_congr rfl fun k _ => h k

theorem total_single (k : κ) :
    total (fun k' v => if k' = k then w k' v else 0) s = share w s k := by
  rw [s.total_eq_share_add _ k]
  have hothers : ((s.others k).map fun e => if e.1 = k then w e.1 e.2 else 0).sum = 0 := by
    refine List.sum_eq_zero ?_
    intro x hx
    obtain ⟨e, he, rfl⟩ := List.mem_map.mp hx
    have hne : e.1 ≠ k := by simpa using (List.mem_filter.mp he).2
    exact if_neg hne
  have hshare : share (fun k' v => if k' = k then w k' v else 0) s k = share w s k := by
    unfold share
    cases s.read k with
    | none => rfl
    | some v => exact if_pos rfl
  rw [hothers, hshare, add_zero]

omit [DecidableEq κ] in
theorem total_nonneg (hw : ∀ e ∈ s.entries, 0 ≤ w e.1 e.2) : 0 ≤ total w s := by
  apply List.sum_nonneg
  intro x hx
  obtain ⟨e, he, rfl⟩ := List.mem_map.mp hx
  exact hw e he

theorem share_le_total (hw : ∀ e ∈ s.entries, 0 ≤ w e.1 e.2) (k : κ) :
    share w s k ≤ total w s := by
  rw [s.total_eq_share_add w k]
  have hothers : 0 ≤ ((s.others k).map fun e => w e.1 e.2).sum := by
    apply List.sum_nonneg
    intro x hx
    obtain ⟨e, he, rfl⟩ := List.mem_map.mp hx
    exact hw e (List.mem_filter.mp he).1
  omega

end

end Store
