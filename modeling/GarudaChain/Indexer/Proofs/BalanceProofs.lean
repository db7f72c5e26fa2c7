import GarudaChain.Indexer.Proofs.StatementProofs

/-!
# Balances and unspent outputs

What each statement of a list `S` adds to the balance of an address and to the sum of its unspent
outputs, told from the list alone.
-/

namespace GarudaChain.Indexer

open Api (GoString)

def created (S : List Statement) (outpoint : Outpoint) : Option UtxoRow :=
  S.findSome? fun
    | .insertUtxo k row => if k = outpoint then some row else none
    | _ => none

theorem created_eq_some_iff {S : List Statement} (hS : S.Pairwise Statement.Before)
    {outpoint : Outpoint} {row : UtxoRow} :
    created S outpoint = some row ↔ .insertUtxo outpoint row ∈ S := by
  constructor
  · intro h
    obtain ⟨st, hst, hrow⟩ := List.exists_of_findSome?_eq_some h
    cases st with
    | insertUtxo k row' =>
      simp only [Option.ite_none_right_eq_some, Option.some.injEq] at hrow
      obtain ⟨rfl, rfl⟩ := hrow
      exact hst
    | _ => cases hrow
  · intro h
    have hsome : (created S outpoint).isSome := by
      rw [created, List.findSome?_isSome_iff]
      exact ⟨_, h, by simp⟩
    obtain ⟨row', hrow'⟩ := Option.isSome_iff_exists.mp hsome
    obtain ⟨st, hst, hread⟩ := List.exists_of_findSome?_eq_some hrow'
    cases st with
    | insertUtxo k row'' =>
      simp only [Option.ite_none_right_eq_some, Option.some.injEq] at hread
      obtain ⟨rfl, rfl⟩ := hread
      have hsame := eq_of_key_eq (k := .utxo k) hS hst h rfl rfl
      rw [hrow', (Statement.insertUtxo.inj hsame).2]
    | _ => cases hread

def worth (S : List Statement) (address : GoString) (outpoint : Outpoint) : Int :=
  match created S outpoint with
  | some row => if row.address = address then row.valueSat else 0
  | none => 0

def Statement.credit (S : List Statement) (address : GoString) : Statement → Int
  | .upsertAddress a valueSat _ => if a = address then valueSat else 0
  | .deductSpent outpoint => -worth S address outpoint
  | _ => 0

def Statement.gain (S : List Statement) (address : GoString) : Statement → Int
  | .insertUtxo _ row => if row.address = address then row.valueSat else 0
  | .spendUtxo _ outpoint => -worth S address outpoint
  | _ => 0

theorem net_append (xs ys : List Change) (address : GoString) :
    net (xs ++ ys) address = net xs address + net ys address := by
  simp [net]

theorem net_singleton (a address : GoString) (v : Int) :
    net [(a, v)] address = if a = address then v else 0 := by
  simp [net]

section Exec

variable {t t' : Tables} {S P L : List Statement} {st : Statement}

theorem balanceSat_write (a address : GoString) (row : AddressRow) :
    Tables.balanceSat { t with addresses := t.addresses.write anyOrder a row } address =
      if address = a then row.balanceSat else t.balanceSat address := by
  unfold Tables.balanceSat
  split_ifs with ha
  · rw [ha, Store.read_write_self]
    rfl
  · rw [Store.read_write_of_ne _ _ ha]

theorem balanceSat_exec (hexec : st.exec t = some t') (address : GoString) :
    t'.balanceSat address = t.balanceSat address + net (st.change t) address := by
  cases st with
  | insertBlock height row =>
    obtain rfl := exec_insertBlock hexec
    exact (Int.add_zero _).symm
  | insertTransaction | spendUtxo | insertUtxo | setLastIndexedHeight =>
    obtain rfl := Option.some.inj hexec
    exact (Int.add_zero _).symm
  | upsertAddress a valueSat ts =>
    obtain rfl := Option.some.inj hexec
    rw [balanceSat_write, Statement.change, net_singleton]
    split_ifs with ha ha' ha'
    · subst ha
      unfold Tables.balanceSat
      cases t.addresses.read address with
      | none => simp [AddressRow.upsert]
      | some row => simp [AddressRow.upsert]
    · exact absurd ha.symm ha'
    · exact absurd ha'.symm ha
    · exact (Int.add_zero _).symm
  | deductSpent outpoint =>
    rcases exec_deductSpent hexec with ⟨rfl, hchange⟩ | ⟨row, owner, -, howner, rfl, hchange⟩
    · rw [hchange]
      exact (Int.add_zero _).symm
    · rw [hchange, balanceSat_write, net_singleton]
      split_ifs with ha ha' ha'
      · rw [ha, Tables.balanceSat, howner]
        exact Int.sub_eq_add_neg
      · exact absurd ha.symm ha'
      · exact absurd ha'.symm ha
      · exact (Int.add_zero _).symm

theorem isSome_address_exec (hexec : st.exec t = some t') {address : GoString}
    (h : (t.addresses.read address).isSome) : (t'.addresses.read address).isSome := by
  have hwrite : ∀ a row, ((t.addresses.write anyOrder a row).read address).isSome := by
    intro a row
    by_cases ha : address = a
    · rw [ha, Store.read_write_self]
      rfl
    · rwa [Store.read_write_of_ne _ _ ha]
  cases st with
  | insertBlock height row =>
    obtain rfl := exec_insertBlock hexec
    exact h
  | insertTransaction | spendUtxo | insertUtxo | setLastIndexedHeight =>
    obtain rfl := Option.some.inj hexec
    exact h
  | upsertAddress a valueSat ts =>
    obtain rfl := Option.some.inj hexec
    exact hwrite a _
  | deductSpent outpoint =>
    rcases exec_deductSpent hexec with ⟨rfl, -⟩ | ⟨row, owner, -, -, rfl, -⟩
    · exact h
    · exact hwrite _ _

theorem Matches.unspentSat_eq (h : Matches t L) (h' : Matches t' L) (address : GoString) :
    t'.unspentSat address = t.unspentSat address := by
  refine Store.total_eq_of_read_eq _ ?_
  intro outpoint
  apply Option.ext
  intro row
  rw [h.utxos, h'.utxos]

theorem known_of_mem (hS : WellFormed S) (hL : L <+: S)
    (hknown : ∀ a v ts, .upsertAddress a v ts ∈ L → (t.addresses.read a).isSome)
    {outpoint : Outpoint} {row : UtxoRow} (hrow : .insertUtxo outpoint row ∈ L) :
    (t.addresses.read row.address).isSome := by
  obtain ⟨l, rest, rfl⟩ := List.append_of_mem hrow
  obtain ⟨more, hmore⟩ := hL
  have hfed := hS.fed
  rw [← hmore, List.append_assoc, List.cons_append] at hfed
  rcases hfed.owner with hfalse | ⟨v, ts, howner⟩
  · exact hfalse.elim
  · exact hknown _ v ts (List.mem_append_left _ howner)

theorem net_change (hS : WellFormed S) (hP : P ++ [st] <+: S) (hPL : P <+: L) (hL : L <+: S)
    (h : Matches t L) (hknown : ∀ a v ts, .upsertAddress a v ts ∈ L → (t.addresses.read a).isSome)
    (address : GoString) : net (st.change t) address = st.credit S address := by
  cases st with
  | upsertAddress a valueSat ts => exact net_singleton a address valueSat
  | deductSpent outpoint =>
    simp only [Statement.change, Statement.credit, worth]
    cases hcreated : created S outpoint with
    | none =>
      have hread : t.utxos.read outpoint = none := by
        cases hread : t.utxos.read outpoint with
        | none => rfl
        | some row =>
          obtain ⟨row₀, hrow₀, -⟩ := (h.utxos _ _).mp hread
          rw [(created_eq_some_iff hS.order).mpr (hL.subset hrow₀)] at hcreated
          cases hcreated
      rw [hread]
      rfl
    | some row₀ =>
      have hmem := (created_eq_some_iff hS.order).mp hcreated
      have hrow₀ := hPL.subset (mem_of_looksFor hS.order hP rfl hmem)
      obtain ⟨row, hread, hafter⟩ := h.exists_row hrow₀
      have hsame : row.address = row₀.address ∧ row.valueSat = row₀.valueSat := by
        rcases hafter with ⟨txid, -, rfl⟩ | ⟨-, rfl⟩ <;> exact ⟨rfl, rfl⟩
      have howner := known_of_mem hS hL hknown hrow₀
      rw [hread]
      simp only [hsame.1, hsame.2]
      rw [if_neg, net_singleton]
      · split_ifs <;> rfl
      · rintro (hempty | hnone)
        · exact hS.address_ne _ _ hmem hempty
        · rw [Option.isNone_iff_eq_none] at hnone
          rw [hnone] at howner
          cases howner
  | _ => rfl

theorem unspentSat_congr (h : t'.utxos = t.utxos) (address : GoString) :
    t'.unspentSat address = t.unspentSat address := by
  rw [Tables.unspentSat, h, Tables.unspentSat]

theorem unspentSat_exec_new (hS : WellFormed S) (hP : P ++ [st] <+: S) (h : Matches t P)
    (hexec : st.exec t = some t') (address : GoString) :
    t'.unspentSat address = t.unspentSat address + st.gain S address := by
  have hpair := hS.order.sublist hP.sublist
  have hbefore : ∀ x ∈ P, x.Before st := by
    intro x hx
    exact (List.pairwise_append.mp hpair).2.2 x hx st (List.mem_singleton_self st)
  cases st with
  | insertBlock height row =>
    obtain rfl := exec_insertBlock hexec
    exact (Int.add_zero _).symm
  | insertTransaction | upsertAddress | setLastIndexedHeight =>
    obtain rfl := Option.some.inj hexec
    exact (Int.add_zero _).symm
  | deductSpent outpoint =>
    have hsame : t'.utxos = t.utxos := by
      rcases exec_deductSpent hexec with ⟨rfl, -⟩ | ⟨row, owner, -, -, rfl, -⟩ <;> rfl
    rw [unspentSat_congr hsame]
    exact (Int.add_zero _).symm
  | insertUtxo outpoint row =>
    obtain rfl := Option.some.inj hexec
    have hnone : t.utxos.read outpoint = none := by
      cases hread : t.utxos.read outpoint with
      | none => rfl
      | some row' =>
        obtain ⟨row₀, hrow₀, -⟩ := (h.utxos _ _).mp hread
        exact absurd rfl (hbefore _ hrow₀ (.utxo outpoint) rfl).1
    have hrow : row.spent = false :=
      hS.unspent outpoint row (hP.subset (List.mem_append_right _ (List.mem_singleton_self _)))
    simp only [Tables.unspentSat, t.utxos.insertNew_of_none anyOrder hnone, Store.total_write,
      Store.share, hnone, Option.elim_none, Int.sub_zero, hrow, and_true, Statement.gain]
  | spendUtxo txid outpoint =>
    obtain rfl := Option.some.inj hexec
    have hunspent : ∀ txid', .spendUtxo txid' outpoint ∉ P := by
      intro txid' hspend
      exact absurd rfl (hbefore _ hspend (.spend outpoint) rfl).1
    cases hread : t.utxos.read outpoint with
    | none =>
      have hcreated : created S outpoint = none := by
        cases hcreated : created S outpoint with
        | none => rfl
        | some row₀ =>
          have hmem := (created_eq_some_iff hS.order).mp hcreated
          obtain ⟨row, hrow, -⟩ := h.exists_row (mem_of_looksFor hS.order hP rfl hmem)
          rw [hread] at hrow
          cases hrow
      simp only [Tables.unspentSat, t.utxos.modify_of_none anyOrder hread, Statement.gain, worth,
        hcreated, Int.neg_zero, Int.add_zero]
    | some row =>
      obtain ⟨row₀, hrow₀, ⟨txid', hspend, -⟩ | ⟨-, rfl⟩⟩ := (h.utxos _ _).mp hread
      · exact absurd hspend (hunspent txid')
      · have hmem : .insertUtxo outpoint row ∈ S := hP.subset (List.mem_append_left _ hrow₀)
        simp only [Tables.unspentSat, t.utxos.modify_of_some anyOrder hread, Store.total_write,
          Store.share, hread, Option.elim_some, hS.unspent _ _ hmem, and_true, UtxoRow.spentBy,
          Bool.true_eq_false, and_false, if_false, Int.add_zero, Statement.gain, worth,
          (created_eq_some_iff hS.order).mpr hmem]
        exact Int.sub_eq_add_neg

end Exec

/-- The tables after a list `S` has been run with repetitions: `L` is the longest part that has run,
    `P` the part before the next statement. -/
structure Progress (S : List Statement) (t : Tables) (P L : List Statement)
    (replayed : List Change) : Prop where
  position : P <+: L
  reached : L <+: S
  tables : Matches t L
  known : ∀ a v ts, .upsertAddress a v ts ∈ L → (t.addresses.read a).isSome
  balance : ∀ address,
    t.balanceSat address = (P.map (Statement.credit S address)).sum + net replayed address
  unspent : ∀ address, t.unspentSat address = (L.map (Statement.gain S address)).sum

namespace Progress

variable {S P L : List Statement} {t t' : Tables} {st : Statement} {replayed : List Change}

theorem start (S : List Statement) : Progress S .empty [] [] [] where
  position := List.prefix_refl _
  reached := List.nil_prefix
  tables := matches_empty
  known _ _ _ h := by cases h
  balance address := rfl
  unspent address := rfl

theorem known_exec (h : Progress S t P L replayed) (hexec : st.exec t = some t') {a : GoString}
    {v ts : Int} (hmem : .upsertAddress a v ts ∈ L ∨ st = .upsertAddress a v ts) :
    (t'.addresses.read a).isSome := by
  rcases hmem with hmem | rfl
  · exact isSome_address_exec hexec (h.known a v ts hmem)
  · obtain rfl := Option.some.inj hexec
    show ((t.addresses.write anyOrder a _).read a).isSome
    rw [Store.read_write_self]
    rfl

theorem exec (hS : WellFormed S) (h : Progress S t P L replayed) (hP : P ++ [st] <+: S)
    (hexec : st.exec t = some t') :
    ∃ L', Progress S t' (P ++ [st]) L' replayed ∧ (L' = L ∨ L' = P ++ [st]) := by
  have hbalance : ∀ address, t'.balanceSat address =
      ((P ++ [st]).map (Statement.credit S address)).sum + net replayed address := by
    intro address
    rw [balanceSat_exec hexec, h.balance,
      net_change hS hP h.position h.reached h.tables h.known address, List.map_append,
      List.sum_append, List.map_singleton, List.sum_singleton]
    omega
  rcases next_of_initial h.position h.reached hP with hagain | hnew
  · have hst : st ∈ L := hagain.subset (List.mem_append_right _ (List.mem_singleton_self st))
    have htables := h.tables.exec_again (hS.order.sublist h.reached.sublist) hst hexec
    refine ⟨L, ⟨hagain, h.reached, htables, ?_, hbalance, ?_⟩, .inl rfl⟩
    · intro a v ts hmem
      exact h.known_exec hexec (.inl hmem)
    · intro address
      rw [h.tables.unspentSat_eq htables, h.unspent]
  · subst hnew
    have htables := h.tables.exec_new (hS.order.sublist hP.sublist) hexec
    refine ⟨L ++ [st], ⟨List.prefix_refl _, hP, htables, ?_, hbalance, ?_⟩, .inr rfl⟩
    · intro a v ts hmem
      rw [List.mem_append, List.mem_singleton] at hmem
      exact h.known_exec hexec (hmem.imp_right Eq.symm)
    · intro address
      rw [unspentSat_exec_new hS hP h.tables hexec, h.unspent, List.map_append, List.sum_append,
        List.map_singleton, List.sum_singleton]

theorem back {done : List Statement} {pending : List Change}
    (h : Progress S t (P ++ done) L replayed)
    (hpending : ∀ address, net pending address = (done.map (Statement.credit S address)).sum) :
    Progress S t P L (replayed ++ pending) := by
  refine ⟨(List.prefix_append P done).trans h.position, h.reached, h.tables, h.known, ?_, h.unspent⟩
  intro address
  rw [h.balance, net_append, hpending, List.map_append, List.sum_append]
  omega

end Progress

end GarudaChain.Indexer
