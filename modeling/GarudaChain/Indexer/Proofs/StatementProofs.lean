import GarudaChain.Indexer.Main

/-!
# Statements that are run again

The statements of a valid chain are run in their order, up to some point, from an earlier point again,
and so on.
-/

namespace GarudaChain.Indexer

open Api (GoString)

inductive Key
  | block (height : Nat)
  | tx (txid : GoString)
  | utxo (outpoint : Outpoint)
  | spend (outpoint : Outpoint)
  deriving DecidableEq

namespace Statement

def key : Statement → Option Key
  | .insertBlock height _ => some (.block height)
  | .insertTransaction txid _ => some (.tx txid)
  | .insertUtxo outpoint _ => some (.utxo outpoint)
  | .spendUtxo _ outpoint => some (.spend outpoint)
  | _ => none

def looksFor : Statement → Option Outpoint
  | .spendUtxo _ outpoint => some outpoint
  | .deductSpent outpoint => some outpoint
  | _ => none

/-- A statement and a later one: the later one has a key of its own and does not create an output
    that the first one looks for. -/
def Before (st st' : Statement) : Prop :=
  ∀ key, st'.key = some key →
    st.key ≠ some key ∧ ∀ outpoint, key = .utxo outpoint → st.looksFor ≠ some outpoint

theorem before_of_key_eq_none {st st' : Statement} (h : st'.key = none) : st.Before st' := by
  intro key hkey
  rw [h] at hkey
  cases hkey

end Statement

/-- Each output is inserted after its owner: in a row of `addresses` that is there already or by an
    earlier statement of the list. -/
def Fed : (GoString → Prop) → List Statement → Prop
  | _, [] => True
  | known, st :: rest => (∀ outpoint row, st = .insertUtxo outpoint row → known row.address) ∧
      Fed (fun a => known a ∨ ∃ v ts, st = .upsertAddress a v ts) rest

variable {outpoint : Outpoint} {l : List Statement} {row : UtxoRow}

theorem Fed.mono {known known' : GoString → Prop} (h : ∀ a, known a → known' a) (hl : Fed known l) : Fed known' l := by
  induction l generalizing known known' with
  | nil => trivial
  | cons st rest ih =>
    refine ⟨?_, ih ?_ hl.2⟩
    · intro outpoint row hst
      exact h _ (hl.1 outpoint row hst)
    · rintro a (ha | ha)
      · exact .inl (h a ha)
      · exact .inr ha

theorem Fed.append {known : GoString → Prop} {l' : List Statement} (h : Fed known l)
    (h' : Fed known l') : Fed known (l ++ l') := by
  induction l generalizing known with
  | nil => exact h'
  | cons st rest ih => exact ⟨h.1, ih h.2 (h'.mono fun _ => .inl)⟩

theorem Fed.flatMap {α : Type} {known : GoString → Prop} {f : α → List Statement} {xs : List α}
    (h : ∀ x ∈ xs, Fed known (f x)) : Fed known (xs.flatMap f) := by
  induction xs with
  | nil => trivial
  | cons x xs ih =>
    obtain ⟨hx, hxs⟩ := List.forall_mem_cons.mp h
    exact hx.append (ih hxs)

theorem Fed.of_not_insertUtxo {known : GoString → Prop}
    (h : ∀ st ∈ l, ∀ outpoint row, st ≠ .insertUtxo outpoint row) : Fed known l := by
  induction l generalizing known with
  | nil => trivial
  | cons st rest ih =>
    obtain ⟨hst, hrest⟩ := List.forall_mem_cons.mp h
    exact ⟨fun outpoint row heq => absurd heq (hst outpoint row), ih hrest⟩

theorem Fed.owner {known : GoString → Prop} {rest : List Statement} (h : Fed known (l ++ .insertUtxo outpoint row :: rest)) :
    known row.address ∨ ∃ v ts, .upsertAddress row.address v ts ∈ l := by
  induction l generalizing known with
  | nil => exact .inl (h.1 outpoint row rfl)
  | cons st l ih =>
    rcases ih h.2 with (hknown | ⟨v, ts, rfl⟩) | ⟨v, ts, hmem⟩
    · exact .inl hknown
    · exact .inr ⟨v, ts, List.mem_cons_self⟩
    · exact .inr ⟨v, ts, List.mem_cons_of_mem _ hmem⟩

structure WellFormed (S : List Statement) : Prop where
  order : S.Pairwise Statement.Before
  fed : Fed (fun _ => False) S
  unspent : ∀ outpoint row, .insertUtxo outpoint row ∈ S → row.spent = false
  address_ne : ∀ outpoint row, .insertUtxo outpoint row ∈ S → row.address ≠ []

section Lists

variable {S P L : List Statement} {st st' : Statement}

theorem eq_of_key_eq (hS : S.Pairwise Statement.Before) (h : st ∈ S) (h' : st' ∈ S) {k : Key}
    (hkey : st.key = some k) (hkey' : st'.key = some k) : st = st' := by
  induction S with
  | nil => cases h
  | cons first rest ih =>
    obtain ⟨hfirst, hrest⟩ := List.pairwise_cons.mp hS
    rcases List.mem_cons.mp h with rfl | hmem <;> rcases List.mem_cons.mp h' with rfl | hmem'
    · rfl
    · exact absurd hkey (hfirst st' hmem' k hkey').1
    · exact absurd hkey' (hfirst st hmem k hkey).1
    · exact ih hrest hmem hmem'

theorem mem_of_looksFor (hS : S.Pairwise Statement.Before) (hP : P ++ [st] <+: S) (hlooks : st.looksFor = some outpoint)
    (hrow : .insertUtxo outpoint row ∈ S) : .insertUtxo outpoint row ∈ P := by
  obtain ⟨rest, rfl⟩ := hP
  rw [List.append_assoc, List.mem_append, List.singleton_append, List.mem_cons] at hrow
  rcases hrow with hrow | rfl | hrow
  · exact hrow
  · cases hlooks
  · rw [List.append_assoc, List.singleton_append] at hS
    have hlater := (List.pairwise_cons.mp (List.pairwise_append.mp hS).2.1).1 _ hrow
    exact absurd hlooks ((hlater (.utxo outpoint) rfl).2 outpoint rfl)

theorem next_of_initial (hPL : P <+: L) (hL : L <+: S) (hP : P ++ [st] <+: S) :
    P ++ [st] <+: L ∨ L = P := by
  rcases List.prefix_or_prefix_of_prefix hP hL with hle | hle
  · exact .inl hle
  · rcases List.prefix_concat_iff.mp hle with rfl | hle'
    · exact .inl (List.prefix_refl _)
    · exact .inr (hle'.eq_of_length_le hPL.length_le)

end Lists

def UtxoRow.After (row₀ : UtxoRow) (L : List Statement) (outpoint : Outpoint) (row : UtxoRow) :
    Prop :=
  (∃ txid, .spendUtxo txid outpoint ∈ L ∧ row = row₀.spentBy txid) ∨
    ((∀ txid, .spendUtxo txid outpoint ∉ L) ∧ row = row₀)

structure Matches (t : Tables) (L : List Statement) : Prop where
  blocks : ∀ height row, t.blocks.read height = some row ↔ .insertBlock height row ∈ L
  transactions : ∀ txid row, t.transactions.read txid = some row ↔ .insertTransaction txid row ∈ L
  utxos : ∀ outpoint row, t.utxos.read outpoint = some row ↔
    ∃ row₀, .insertUtxo outpoint row₀ ∈ L ∧ row₀.After L outpoint row

theorem matches_empty : Matches .empty [] where
  blocks height row := by simp [Tables.empty, Store.read, Store.empty]
  transactions txid row := by simp [Tables.empty, Store.read, Store.empty]
  utxos outpoint row := by simp [Tables.empty, Store.read, Store.empty]

section Exec

variable {t t' : Tables} {S P L : List Statement} {st : Statement}

theorem Matches.congr (h : Matches t L) (hblocks : t'.blocks = t.blocks)
    (htxs : t'.transactions = t.transactions) (hutxos : t'.utxos = t.utxos)
    {L' : List Statement} (hL : ∀ st, st.key ≠ none → (st ∈ L' ↔ st ∈ L)) : Matches t' L' where
  blocks height row := by
    rw [hblocks, h.blocks, hL _ (by simp [Statement.key])]
  transactions txid row := by
    rw [htxs, h.transactions, hL _ (by simp [Statement.key])]
  utxos outpoint row := by
    have hspend : ∀ txid, .spendUtxo txid outpoint ∈ L' ↔ .spendUtxo txid outpoint ∈ L :=
      fun txid => hL _ (by simp [Statement.key])
    have hrow : ∀ row₀, .insertUtxo outpoint row₀ ∈ L' ↔ .insertUtxo outpoint row₀ ∈ L :=
      fun row₀ => hL _ (by simp [Statement.key])
    simp only [hutxos, h.utxos, UtxoRow.After, hspend, hrow]

theorem exec_insertBlock {height : Nat} {row : BlockRow}
    (hexec : (Statement.insertBlock height row).exec t = some t') :
    t' = { t with blocks := t.blocks.insertNew anyOrder height row } := by
  simp only [Statement.exec] at hexec
  split_ifs at hexec
  exact (Option.some.inj hexec).symm

theorem exec_deductSpent (hexec : (Statement.deductSpent outpoint).exec t = some t') :
    (t' = t ∧ (Statement.deductSpent outpoint).change t = []) ∨
      ∃ row owner, t.utxos.read outpoint = some row ∧ t.addresses.read row.address = some owner ∧
        t' = { t with addresses := t.addresses.write anyOrder row.address { owner with
          balanceSat := owner.balanceSat - row.valueSat } } ∧
        (Statement.deductSpent outpoint).change t = [(row.address, -row.valueSat)] := by
  simp only [Statement.exec, Statement.change] at hexec ⊢
  cases hread : t.utxos.read outpoint with
  | none =>
    rw [hread] at hexec
    exact .inl ⟨(Option.some.inj hexec).symm, rfl⟩
  | some row =>
    rw [hread] at hexec
    by_cases haddress : row.address = []
    · simp only [if_pos haddress] at hexec
      exact .inl ⟨(Option.some.inj hexec).symm, if_pos (.inl haddress)⟩
    · simp only [if_neg haddress] at hexec
      cases howner : t.addresses.read row.address with
      | none =>
        rw [t.addresses.modify_of_none anyOrder howner] at hexec
        exact .inl ⟨(Option.some.inj hexec).symm, if_pos (.inr (by rw [howner]; rfl))⟩
      | some owner =>
        rw [t.addresses.modify_of_some anyOrder howner] at hexec
        refine .inr ⟨row, owner, rfl, howner, (Option.some.inj hexec).symm, if_neg ?_⟩
        simp [haddress, howner]

theorem Matches.exec_of_key_eq_none (h : Matches t L) (hkey : st.key = none)
    (hexec : st.exec t = some t') {L' : List Statement}
    (hL : ∀ x, x.key ≠ none → (x ∈ L' ↔ x ∈ L)) : Matches t' L' := by
  have hsame : t'.blocks = t.blocks ∧ t'.transactions = t.transactions ∧ t'.utxos = t.utxos := by
    cases st with
    | insertBlock | insertTransaction | spendUtxo | insertUtxo => cases hkey
    | upsertAddress | setLastIndexedHeight =>
      obtain rfl := Option.some.inj hexec
      exact ⟨rfl, rfl, rfl⟩
    | deductSpent outpoint =>
      rcases exec_deductSpent hexec with ⟨rfl, -⟩ | ⟨row, owner, -, -, rfl, -⟩ <;>
        exact ⟨rfl, rfl, rfl⟩
  exact h.congr hsame.1 hsame.2.1 hsame.2.2 hL

theorem Matches.exists_row (h : Matches t L) {row₀ : UtxoRow}
    (hrow : .insertUtxo outpoint row₀ ∈ L) :
    ∃ row, t.utxos.read outpoint = some row ∧ row₀.After L outpoint row := by
  by_cases hspent : ∃ txid, .spendUtxo txid outpoint ∈ L
  · obtain ⟨txid, hspent⟩ := hspent
    have hafter : row₀.After L outpoint (row₀.spentBy txid) := .inl ⟨txid, hspent, rfl⟩
    exact ⟨_, (h.utxos _ _).mpr ⟨row₀, hrow, hafter⟩, hafter⟩
  · have hafter : row₀.After L outpoint row₀ := .inr ⟨not_exists.mp hspent, rfl⟩
    exact ⟨_, (h.utxos _ _).mpr ⟨row₀, hrow, hafter⟩, hafter⟩

theorem UtxoRow.After.spentBy_eq {row₀ : UtxoRow} {txid : GoString}
    (h : row₀.After L outpoint row) (hL : L.Pairwise Statement.Before)
    (hspend : .spendUtxo txid outpoint ∈ L) : row.spentBy txid = row := by
  rcases h with ⟨txid', hspend', rfl⟩ | ⟨hnone, -⟩
  · have hsame := eq_of_key_eq (k := .spend outpoint) hL hspend' hspend rfl rfl
    obtain ⟨rfl, -⟩ := Statement.spendUtxo.inj hsame
    rfl
  · exact absurd hspend (hnone txid)

theorem Matches.exec_again (h : Matches t L) (hL : L.Pairwise Statement.Before) (hst : st ∈ L)
    (hexec : st.exec t = some t') : Matches t' L := by
  cases st with
  | insertBlock height row =>
    have hread := (h.blocks height row).mpr hst
    simp only [Statement.exec, t.blocks.insertNew_of_some anyOrder hread] at hexec
    split_ifs at hexec
    obtain rfl := Option.some.inj hexec
    exact h
  | insertTransaction txid row =>
    have hread := (h.transactions txid row).mpr hst
    simp only [Statement.exec, t.transactions.insertNew_of_some anyOrder hread] at hexec
    obtain rfl := Option.some.inj hexec
    exact h
  | insertUtxo outpoint row =>
    obtain ⟨row', hread, -⟩ := h.exists_row hst
    simp only [Statement.exec, t.utxos.insertNew_of_some anyOrder hread] at hexec
    obtain rfl := Option.some.inj hexec
    exact h
  | spendUtxo txid outpoint =>
    obtain rfl := Option.some.inj hexec
    refine ⟨h.blocks, h.transactions, ?_⟩
    intro k row
    rw [← h.utxos, Store.read_modify]
    split_ifs with hk
    · subst hk
      cases hread : t.utxos.read k with
      | none => rfl
      | some row' =>
        obtain ⟨row₀, -, hafter⟩ := (h.utxos _ _).mp hread
        rw [Option.map_some, hafter.spentBy_eq hL hst]
    · rfl
  | upsertAddress | deductSpent | setLastIndexedHeight =>
    exact h.exec_of_key_eq_none rfl hexec fun _ _ => Iff.rfl

theorem Matches.exec_new (h : Matches t P) (hP : (P ++ [st]).Pairwise Statement.Before)
    (hexec : st.exec t = some t') : Matches t' (P ++ [st]) := by
  have hmem : ∀ x, x ∈ P ++ [st] ↔ x = st ∨ x ∈ P := by
    intro x
    rw [List.mem_append, List.mem_singleton, or_comm]
  have hbefore : ∀ x ∈ P, x.Before st := by
    intro x hx
    exact (List.pairwise_append.mp hP).2.2 x hx st (List.mem_singleton_self st)
  cases st with
  | insertBlock height row =>
    obtain rfl := exec_insertBlock hexec
    refine ⟨?_, ?_, ?_⟩
    · refine t.blocks.read_insertNew_iff anyOrder h.blocks (by simp [hmem]) ?_
      intro k v v' hv hv'
      have hsame := eq_of_key_eq (k := .block k) hP hv hv' rfl rfl
      exact (Statement.insertBlock.inj hsame).2
    · intro txid row'
      simp [h.transactions, hmem]
    · intro outpoint row'
      simp [h.utxos, UtxoRow.After, hmem]
  | insertTransaction txid row =>
    obtain rfl := Option.some.inj hexec
    refine ⟨?_, ?_, ?_⟩
    · intro height row'
      simp [h.blocks, hmem]
    · refine t.transactions.read_insertNew_iff anyOrder h.transactions (by simp [hmem]) ?_
      intro k v v' hv hv'
      have hsame := eq_of_key_eq (k := .tx k) hP hv hv' rfl rfl
      exact (Statement.insertTransaction.inj hsame).2
    · intro outpoint row'
      simp [h.utxos, UtxoRow.After, hmem]
  | insertUtxo outpoint row =>
    obtain rfl := Option.some.inj hexec
    refine ⟨?_, ?_, ?_⟩
    · intro height row'
      simp [h.blocks, hmem]
    · intro txid row'
      simp [h.transactions, hmem]
    · -- nothing has been written for this output yet
      have hunspent : ∀ txid, .spendUtxo txid outpoint ∉ P := by
        intro txid hspend
        exact (hbefore _ hspend (.utxo outpoint) rfl).2 outpoint rfl rfl
      have hspend : ∀ txid k, .spendUtxo txid k ∈ P ++ [.insertUtxo outpoint row] ↔
          .spendUtxo txid k ∈ P := by
        intro txid k
        simp [hmem]
      have hnone : t.utxos.read outpoint = none := by
        cases hread : t.utxos.read outpoint with
        | none => rfl
        | some row' =>
          obtain ⟨row₀, hrow₀, -⟩ := (h.utxos _ _).mp hread
          exact absurd rfl (hbefore _ hrow₀ (.utxo outpoint) rfl).1
      intro k row'
      simp only [t.utxos.insertNew_of_none anyOrder hnone, UtxoRow.After, hspend]
      by_cases hk : k = outpoint
      · subst hk
        have hfirst : ∀ row₀, .insertUtxo k row₀ ∈ P ++ [.insertUtxo k row] ↔ row₀ = row := by
          intro row₀
          rw [hmem, Statement.insertUtxo.injEq]
          constructor
          · rintro (⟨-, rfl⟩ | hrow₀)
            · rfl
            · exact absurd rfl (hbefore _ hrow₀ (.utxo k) rfl).1
          · rintro rfl
            exact .inl ⟨rfl, rfl⟩
        simp only [Store.read_write_self, Option.some.injEq, hfirst, exists_eq_left]
        constructor
        · rintro rfl
          exact .inr ⟨hunspent, rfl⟩
        · rintro (⟨txid, hspent, -⟩ | ⟨-, rfl⟩)
          · exact absurd hspent (hunspent txid)
          · rfl
      · rw [t.utxos.read_write_of_ne anyOrder hk, h.utxos]
        simp [UtxoRow.After, hmem, hk]
  | spendUtxo txid outpoint =>
    obtain rfl := Option.some.inj hexec
    refine ⟨?_, ?_, ?_⟩
    · intro height row'
      simp [h.blocks, hmem]
    · intro txid' row'
      simp [h.transactions, hmem]
    · intro k row'
      have hrow : ∀ row₀, .insertUtxo k row₀ ∈ P ++ [.spendUtxo txid outpoint] ↔
          .insertUtxo k row₀ ∈ P := by
        intro row₀
        simp [hmem]
      simp only [Store.read_modify, hrow]
      split_ifs with hk
      · subst hk
        have hunspent : ∀ txid', .spendUtxo txid' k ∉ P := by
          intro txid' hspend
          exact absurd rfl (hbefore _ hspend (.spend k) rfl).1
        have hafter : ∀ row₀, UtxoRow.After row₀ (P ++ [.spendUtxo txid k]) k row' ↔
            row' = row₀.spentBy txid := by
          intro row₀
          simp [UtxoRow.After, hmem, hunspent]
        have hread : ∀ row, t.utxos.read k = some row ↔ .insertUtxo k row ∈ P := by
          intro row
          rw [h.utxos]
          simp [UtxoRow.After, hunspent]
        simp only [hafter, Option.map_eq_some_iff, hread]
        exact exists_congr fun row => and_congr_right fun _ => eq_comm
      · rw [h.utxos]
        simp [UtxoRow.After, hmem, hk]
  | upsertAddress | deductSpent | setLastIndexedHeight =>
    refine h.exec_of_key_eq_none rfl hexec ?_
    intro x hx
    rw [hmem]
    refine ⟨?_, .inr⟩
    rintro (rfl | hmem')
    · exact absurd rfl hx
    · exact hmem'

end Exec

end GarudaChain.Indexer
