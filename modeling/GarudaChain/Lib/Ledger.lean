import Mathlib.Algebra.BigOperators.Group.Multiset.Basic
import Mathlib.Algebra.Order.Ring.Int
import Mathlib.Data.Finmap

/-!
# Ledgers of unspent entries

A ledger is a finite map from keys to values; a move spends some keys and creates some entries.
-/

namespace Ledger

variable {K V : Type} [DecidableEq K]

/-- A ledger: the unspent entries, by key. -/
abbrev Book (K V : Type) := Finmap (fun _ : K => V)

/-- A move: the keys it spends and the entries it creates. -/
structure Move (K V : Type) where
  spends : List K
  creates : List (K × V)

/-- Remove all the keys of a list. -/
def spendAll (m : Book K V) (ks : List K) : Book K V := ks.foldl (fun m k => m.erase k) m

/-- Insert all the entries of a list, a later one over an earlier one. -/
def createAll (m : Book K V) (es : List (K × V)) : Book K V :=
  es.foldl (fun m e => m.insert e.1 e.2) m

/-- The effect of a move on a ledger. -/
def Move.apply (t : Move K V) (m : Book K V) : Book K V := createAll (spendAll m t.spends) t.creates

theorem lookup_spendAll (ks : List K) : ∀ (m : Book K V) (k : K),
    (spendAll m ks).lookup k = if k ∈ ks then none else m.lookup k := by
  induction ks with
  | nil => intro m k; simp [spendAll]
  | cons a ks ih =>
    intro m k
    have h := ih (m.erase a) k
    simp only [spendAll, List.foldl_cons] at h ⊢
    rw [h]
    by_cases hk : k ∈ ks
    · simp [hk]
    · by_cases ha : k = a
      · subst ha; simp [hk]
      · simp [hk, ha, Finmap.lookup_erase_ne ha]

theorem lookup_createAll_of_notMem (es : List (K × V)) : ∀ (m : Book K V) (k : K),
    k ∉ es.map Prod.fst → (createAll m es).lookup k = m.lookup k := by
  induction es with
  | nil => intro m k _; simp [createAll]
  | cons e es ih =>
    intro m k hk
    simp only [List.map_cons, List.mem_cons, not_or] at hk
    have h := ih (m.insert e.1 e.2) k hk.2
    simp only [createAll, List.foldl_cons] at h ⊢
    rw [h, Finmap.lookup_insert_of_ne _ hk.1]

theorem lookup_createAll_of_mem (es : List (K × V)) (hnd : (es.map Prod.fst).Nodup) :
    ∀ (m : Book K V) (k : K) (v : V), (k, v) ∈ es → (createAll m es).lookup k = some v := by
  induction es with
  | nil => intro m k v hmem; cases hmem
  | cons e es ih =>
    intro m k v hmem
    simp only [List.map_cons, List.nodup_cons] at hnd
    rcases List.mem_cons.mp hmem with heq | hmem
    · subst heq
      have h := lookup_createAll_of_notMem es (m.insert k v) k hnd.1
      simp only [createAll, List.foldl_cons] at h ⊢
      rw [h, Finmap.lookup_insert]
    · have h := ih hnd.2 (m.insert e.1 e.2) k v hmem
      simpa only [createAll, List.foldl_cons] using h

theorem mem_createAll (es : List (K × V)) : ∀ (m : Book K V) (k : K),
    k ∈ createAll m es ↔ k ∈ m ∨ k ∈ es.map Prod.fst := by
  induction es with
  | nil => intro m k; simp [createAll]
  | cons e es ih =>
    intro m k
    have h := ih (m.insert e.1 e.2) k
    simp only [createAll, List.foldl_cons] at h ⊢
    rw [h, Finmap.mem_insert, List.map_cons, List.mem_cons]
    tauto

theorem mem_spendAll (ks : List K) (m : Book K V) (k : K) :
    k ∈ spendAll m ks ↔ k ∈ m ∧ k ∉ ks := by
  rw [← Finmap.lookup_isSome, ← Finmap.lookup_isSome, lookup_spendAll]
  by_cases hk : k ∈ ks <;> simp [hk]

theorem lookup_createAll_cases (es : List (K × V)) : ∀ (m : Book K V) (k : K) (v : V),
    (createAll m es).lookup k = some v → (k, v) ∈ es ∨ m.lookup k = some v := by
  induction es with
  | nil => intro m k v h; exact Or.inr h
  | cons e es ih =>
    intro m k v h
    rcases ih (m.insert e.1 e.2) k v h with hmem | hlook
    · exact Or.inl (List.mem_cons_of_mem _ hmem)
    · by_cases hk : k = e.1
      · subst hk
        rw [Finmap.lookup_insert] at hlook
        cases hlook
        exact Or.inl List.mem_cons_self
      · rw [Finmap.lookup_insert_of_ne _ hk] at hlook
        exact Or.inr hlook

/-- Every entry of the ledger satisfies the predicate. -/
def Forall (P : V → Prop) (m : Book K V) : Prop := ∀ k v, m.lookup k = some v → P v

theorem Forall.apply {P : V → Prop} {m : Book K V} (hm : Forall P m) {t : Move K V}
    (ht : ∀ e ∈ t.creates, P e.2) : Forall P (t.apply m) := by
  intro k v h
  rcases lookup_createAll_cases t.creates _ k v h with hmem | hlook
  · exact ht (k, v) hmem
  · rw [lookup_spendAll] at hlook
    split at hlook
    · cases hlook
    · exact hm k v hlook

theorem spendAll_createAll_iff {m : Book K V} {es : List (K × V)} :
    spendAll (createAll m es) (es.map Prod.fst) = m ↔ ∀ k ∈ es.map Prod.fst, k ∉ m := by
  constructor
  · intro heq k hk hmem
    rw [← heq, mem_spendAll] at hmem
    exact hmem.2 hk
  · intro hfresh
    refine Finmap.ext_lookup fun k => ?_
    rw [lookup_spendAll]
    by_cases hk : k ∈ es.map Prod.fst
    · rw [if_pos hk]
      exact (Finmap.lookup_eq_none.mpr (hfresh k hk)).symm
    · rw [if_neg hk, lookup_createAll_of_notMem es m k hk]

theorem createAll_spendAll {m : Book K V} {ks : List K} {es : List (K × V)}
    (hnd : (es.map Prod.fst).Nodup) (hks : ∀ k, k ∈ ks ↔ k ∈ es.map Prod.fst)
    (hold : ∀ e ∈ es, m.lookup e.1 = some e.2) : createAll (spendAll m ks) es = m := by
  refine Finmap.ext_lookup fun k => ?_
  by_cases hk : k ∈ es.map Prod.fst
  · obtain ⟨e, he, rfl⟩ := List.mem_map.mp hk
    rw [lookup_createAll_of_mem es hnd _ e.1 e.2 he, hold e he]
  · rw [lookup_createAll_of_notMem es _ k hk, lookup_spendAll, if_neg (mt (hks k).mp hk)]

/-- The ledger `r` is the ledger `b` without the entries under the keys `P`. -/
structure Lags (P : K → Prop) (b r : Book K V) : Prop where
  mem : ∀ k, P k → k ∈ b
  gone : ∀ k, P k → r.lookup k = none
  same : ∀ k, ¬ P k → r.lookup k = b.lookup k

theorem Lags.refl (b : Book K V) : Lags (fun _ => False) b b :=
  ⟨fun _ h => h.elim, fun _ h => h.elim, fun _ _ => rfl⟩

theorem Lags.eq_iff {P : K → Prop} {b r : Book K V} (h : Lags P b r) : r = b ↔ ∀ k, ¬ P k := by
  constructor
  · rintro rfl k hk
    exact Finmap.lookup_eq_none.mp (h.gone k hk) (h.mem k hk)
  · intro hnone
    exact Finmap.ext_lookup fun k => h.same k (hnone k)

/-- A move that creates under free keys, and the same move with more keys spent: the second ledger
    lags behind by the further keys that were there, less what the move spends anyway. -/
theorem Lags.apply {P : K → Prop} {b r : Book K V} (h : Lags P b r) {t : Move K V} {ks : List K}
    (hsub : ∀ k ∈ t.spends, k ∈ ks) (hnd : (t.creates.map Prod.fst).Nodup)
    (hfresh : ∀ k ∈ t.creates.map Prod.fst, k ∉ spendAll b t.spends) :
    Lags (fun k => (P k ∨ k ∈ ks ∧ k ∈ b) ∧ k ∉ t.spends) (t.apply b)
      ((⟨ks, t.creates⟩ : Move K V).apply r) := by
  -- a key that is missing is not created, as it is still there in the first ledger
  have hthere : ∀ k, (P k ∨ k ∈ ks ∧ k ∈ b) ∧ k ∉ t.spends → k ∈ spendAll b t.spends := by
    rintro k ⟨hP | hk, hns⟩
    · exact (mem_spendAll _ _ _).mpr ⟨h.mem k hP, hns⟩
    · exact (mem_spendAll _ _ _).mpr ⟨hk.2, hns⟩
  have hnotCreated : ∀ k, (P k ∨ k ∈ ks ∧ k ∈ b) ∧ k ∉ t.spends → k ∉ t.creates.map Prod.fst :=
    fun k hk hc => hfresh k hc (hthere k hk)
  refine ⟨?_, ?_, ?_⟩
  · intro k hk
    rw [Move.apply, mem_createAll]
    exact Or.inl (hthere k hk)
  · intro k hk
    rw [Move.apply, lookup_createAll_of_notMem _ _ _ (hnotCreated k hk), lookup_spendAll]
    split
    · rfl
    · next hks => exact h.gone k (hk.1.resolve_right fun hr => hks hr.1)
  · intro k hk
    by_cases hc : k ∈ t.creates.map Prod.fst
    · obtain ⟨e, he, rfl⟩ := List.mem_map.mp hc
      rw [Move.apply, Move.apply, lookup_createAll_of_mem _ hnd _ _ _ he,
        lookup_createAll_of_mem _ hnd _ _ _ he]
    · rw [Move.apply, Move.apply, lookup_createAll_of_notMem _ _ _ hc,
        lookup_createAll_of_notMem _ _ _ hc, lookup_spendAll, lookup_spendAll]
      by_cases hs : k ∈ t.spends
      · rw [if_pos hs, if_pos (hsub k hs)]
      · rw [if_neg hs]
        have hPk : ¬ (P k ∨ k ∈ ks ∧ k ∈ b) := fun hor => hk ⟨hor, hs⟩
        rw [not_or] at hPk
        split
        · next hks => exact (Finmap.lookup_eq_none.mpr fun hb => hPk.2 ⟨hks, hb⟩).symm
        · exact h.same k hPk.1

/-- The ledger `r` is the ledger `b`, except that some keys hold entries with `P` instead. -/
def Covers (P : V → Prop) (b r : Book K V) : Prop :=
  ∀ k, r.lookup k = b.lookup k ∨ ∃ v, r.lookup k = some v ∧ P v

theorem Covers.createAll {P : V → Prop} (b : Book K V) {es : List (K × V)}
    (h : ∀ e ∈ es, P e.2) : Covers P b (createAll b es) := by
  intro k
  by_cases hk : k ∈ es.map Prod.fst
  · obtain ⟨v, hv⟩ := Finmap.mem_iff.mp ((mem_createAll es b k).mpr (Or.inr hk))
    rcases lookup_createAll_cases es b k v hv with hmem | hold
    · exact Or.inr ⟨v, hv, h _ hmem⟩
    · exact Or.inl (hv.trans hold.symm)
  · exact Or.inl (lookup_createAll_of_notMem es b k hk)

theorem Covers.apply {P : V → Prop} {b r : Book K V} (h : Covers P b r) {t : Move K V}
    (hnd : (t.creates.map Prod.fst).Nodup) : Covers P (t.apply b) (t.apply r) := by
  intro k
  by_cases hc : k ∈ t.creates.map Prod.fst
  · obtain ⟨e, he, rfl⟩ := List.mem_map.mp hc
    exact Or.inl (by rw [Move.apply, Move.apply, lookup_createAll_of_mem _ hnd _ _ _ he,
      lookup_createAll_of_mem _ hnd _ _ _ he])
  · rw [Move.apply, Move.apply, lookup_createAll_of_notMem _ _ _ hc,
      lookup_createAll_of_notMem _ _ _ hc, lookup_spendAll, lookup_spendAll]
    split
    · exact Or.inl rfl
    · exact h k

/-- The measure of the entry under a key, zero where there is none. -/
def valueAt (w : V → ℤ) (m : Book K V) (k : K) : ℤ := (m.lookup k).elim 0 w

/-- The sum of the measure over the whole ledger. -/
def total (w : V → ℤ) (m : Book K V) : ℤ := (m.entries.map fun e => w e.2).sum

omit [DecidableEq K] in
@[simp] theorem total_empty (w : V → ℤ) : total w (∅ : Book K V) = 0 := rfl

theorem total_insert_of_notMem (w : V → ℤ) {m : Book K V} {k : K} (v : V) (h : k ∉ m) :
    total w (m.insert k v) = w v + total w m := by
  rw [total, total, Finmap.entries_insert_of_notMem h, Multiset.map_cons, Multiset.sum_cons]

theorem total_erase (w : V → ℤ) (m : Book K V) (k : K) :
    total w (m.erase k) = total w m - valueAt w m k := by
  cases hk : m.lookup k with
  | none =>
    have hnot : k ∉ m := Finmap.lookup_eq_none.mp hk
    have herase : m.erase k = m := by
      refine Finmap.ext_lookup fun k' => ?_
      by_cases hkk : k' = k
      · subst hkk; rw [Finmap.lookup_erase, hk]
      · rw [Finmap.lookup_erase_ne hkk]
    simp [herase, valueAt, hk]
  | some v =>
    have hins : (m.erase k).insert k v = m := by
      refine Finmap.ext_lookup fun k' => ?_
      by_cases hkk : k' = k
      · subst hkk; rw [Finmap.lookup_insert, hk]
      · rw [Finmap.lookup_insert_of_ne _ hkk, Finmap.lookup_erase_ne hkk]
    have htot := total_insert_of_notMem w v (Finmap.notMem_erase_self (a := k) (s := m))
    rw [hins] at htot
    simp only [valueAt, hk, Option.elim_some]
    omega

theorem total_insert (w : V → ℤ) (m : Book K V) (k : K) (v : V) :
    total w (m.insert k v) = total w m - valueAt w m k + w v := by
  have hins : m.insert k v = (m.erase k).insert k v := by
    refine Finmap.ext_lookup fun k' => ?_
    by_cases hkk : k' = k
    · subst hkk; rw [Finmap.lookup_insert, Finmap.lookup_insert]
    · rw [Finmap.lookup_insert_of_ne _ hkk, Finmap.lookup_insert_of_ne _ hkk,
        Finmap.lookup_erase_ne hkk]
  rw [hins, total_insert_of_notMem w v Finmap.notMem_erase_self, total_erase]
  omega

theorem valueAt_erase_ne (w : V → ℤ) (m : Book K V) {k k' : K} (h : k ≠ k') :
    valueAt w (m.erase k') k = valueAt w m k := by
  rw [valueAt, valueAt, Finmap.lookup_erase_ne h]

theorem total_spendAll (w : V → ℤ) (ks : List K) : ∀ m : Book K V, ks.Nodup →
    total w (spendAll m ks) = total w m - (ks.map (valueAt w m)).sum := by
  induction ks with
  | nil => intro m _; simp [spendAll]
  | cons k ks ih =>
    intro m hnd
    rw [List.nodup_cons] at hnd
    have hsame : ks.map (valueAt w (m.erase k)) = ks.map (valueAt w m) :=
      List.map_congr_left fun k' hk' => valueAt_erase_ne w m fun heq => hnd.1 (heq ▸ hk')
    have h := ih (m.erase k) hnd.2
    rw [total_erase, hsame] at h
    rw [List.map_cons, List.sum_cons]
    simp only [spendAll, List.foldl_cons] at h ⊢
    omega

theorem total_createAll (w : V → ℤ) (es : List (K × V)) : ∀ m : Book K V,
    (es.map Prod.fst).Nodup → (∀ k ∈ es.map Prod.fst, k ∉ m) →
    total w (createAll m es) = total w m + (es.map fun e => w e.2).sum := by
  induction es with
  | nil => intro m _ _; simp [createAll]
  | cons e es ih =>
    intro m hnd hfree
    rw [List.map_cons, List.nodup_cons] at hnd
    have h := ih (m.insert e.1 e.2) hnd.2 (by
      intro k hk
      rw [Finmap.mem_insert, not_or]
      exact ⟨fun heq => hnd.1 (heq ▸ hk), hfree k (List.mem_cons_of_mem _ hk)⟩)
    rw [total_insert_of_notMem w e.2 (hfree e.1 List.mem_cons_self)] at h
    rw [List.map_cons, List.sum_cons]
    simp only [createAll, List.foldl_cons] at h ⊢
    omega

theorem total_createAll_le (w : V → ℤ) (es : List (K × V)) : ∀ m : Book K V,
    Forall (fun v => 0 ≤ w v) m → (∀ e ∈ es, 0 ≤ w e.2) →
    total w (createAll m es) ≤ total w m + (es.map fun e => w e.2).sum := by
  induction es with
  | nil => intro m _ _; simp [createAll]
  | cons e es ih =>
    intro m hm hes
    have hins : Forall (fun v => 0 ≤ w v) (m.insert e.1 e.2) := by
      refine Forall.apply (t := ⟨[], [e]⟩) hm fun e' he' => ?_
      rw [List.mem_singleton.mp he']
      exact hes e List.mem_cons_self
    have h := ih (m.insert e.1 e.2) hins fun e' he' => hes e' (List.mem_cons_of_mem _ he')
    have hold : 0 ≤ valueAt w m e.1 := by
      rw [valueAt]
      cases hk : m.lookup e.1 with
      | none => exact le_refl _
      | some v => exact hm _ _ hk
    rw [total_insert] at h
    rw [List.map_cons, List.sum_cons]
    simp only [createAll, List.foldl_cons] at h ⊢
    omega

end Ledger
