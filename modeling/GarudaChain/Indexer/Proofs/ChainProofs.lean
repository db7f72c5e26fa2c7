import GarudaChain.Indexer.Proofs.BalanceProofs

/-!
# The statements of a chain
-/

namespace GarudaChain.Indexer

open Api (GoString)

def statements (height : Nat) : List Block → List Statement
  | [] => []
  | block :: blocks => indexBlock height block ++ statements (height + 1) blocks

theorem statements_append (height : Nat) (xs ys : List Block) :
    statements height (xs ++ ys) = statements height xs ++ statements (height + xs.length) ys := by
  induction xs generalizing height with
  | nil => rfl
  | cons block xs ih =>
    rw [List.cons_append, statements, ih, statements, List.append_assoc, List.length_cons,
      Nat.add_right_comm height 1, Nat.add_assoc height xs.length 1]

variable {height : Nat} {outpoint : Outpoint} {block : Block} {st : Statement} {blocks : List Block}
  {row : UtxoRow} {txid : GoString}

theorem mem_statements_iff :
    st ∈ statements height blocks ↔
      ∃ i block, blocks[i]? = some block ∧ st ∈ indexBlock (height + i) block := by
  induction blocks generalizing height with
  | nil => simp [statements]
  | cons block blocks ih =>
    rw [statements, List.mem_append, ih]
    constructor
    · rintro (hst | ⟨i, block', hblock, hst⟩)
      · exact ⟨0, block, rfl, hst⟩
      · exact ⟨i + 1, block', hblock, by rwa [Nat.add_right_comm height 1 i] at hst⟩
    · rintro ⟨i, block', hblock, hst⟩
      cases i with
      | zero =>
        obtain rfl : block = block' := Option.some.inj hblock
        exact .inl hst
      | succ i => exact .inr ⟨i, block', hblock, by rwa [Nat.add_right_comm height 1 i]⟩

theorem mem_indexBlock_iff :
    st ∈ indexBlock height block ↔ st = .insertBlock height block.row ∨
      (∃ tx ∈ block.tx, st ∈ indexTx height block tx) ∨ st = .setLastIndexedHeight height := by
  simp [indexBlock, List.mem_flatMap]

theorem mem_indexVout_iff {ts : Int} {vout : VOUT} : st ∈ indexVout txid height ts vout ↔ vout.address ≠ [] ∧
      (st = .upsertAddress vout.address vout.valueSat ts ∨
        st = .insertUtxo (txid, vout.n) (vout.row height)) := by
  unfold indexVout
  split_ifs with haddress <;> simp [haddress]

theorem mem_indexTx_iff {tx : TX} :
    st ∈ indexTx height block tx ↔ st = .insertTransaction tx.txid (tx.row height block) ∨
      (∃ outpoint ∈ tx.spent, st = .spendUtxo tx.txid outpoint) ∨
      (∃ vout ∈ tx.vout, st ∈ indexVout tx.txid height block.time vout) ∨
      ∃ outpoint ∈ tx.spent, st = .deductSpent outpoint := by
  simp only [indexTx, List.mem_cons, List.mem_append, List.mem_map, List.mem_flatMap, or_assoc,
    eq_comm]

theorem mem_insertBlock_indexBlock_iff {h : Nat} {row : BlockRow} :
    .insertBlock h row ∈ indexBlock height block ↔ h = height ∧ row = block.row := by
  simp [mem_indexBlock_iff, mem_indexTx_iff, mem_indexVout_iff]

section Order

variable {height height' : Nat} {block block' : Block} {tx tx' : TX} {st st' : Statement}

theorem key_of_mem_indexTx (h : st ∈ indexTx height block tx) {k : Key} (hkey : st.key = some k) :
    k = .tx tx.txid ∨ (∃ outpoint ∈ tx.spent, k = .spend outpoint) ∨
      ∃ vout ∈ tx.vout, k = .utxo (tx.txid, vout.n) := by
  rcases mem_indexTx_iff.mp h with rfl | ⟨outpoint, houtpoint, rfl⟩ | ⟨vout, hvout, hst⟩ | ⟨_, -, rfl⟩
  · exact .inl (Option.some.inj hkey).symm
  · exact .inr (.inl ⟨outpoint, houtpoint, (Option.some.inj hkey).symm⟩)
  · rcases (mem_indexVout_iff.mp hst).2 with rfl | rfl
    · cases hkey
    · exact .inr (.inr ⟨vout, hvout, (Option.some.inj hkey).symm⟩)
  · cases hkey

theorem looksFor_of_mem_indexTx (h : st ∈ indexTx height block tx)
    (hlooks : st.looksFor = some outpoint) : outpoint ∈ tx.spent := by
  rcases mem_indexTx_iff.mp h with rfl | ⟨k, hk, rfl⟩ | ⟨vout, -, hst⟩ | ⟨k, hk, rfl⟩
  · cases hlooks
  · exact Option.some.inj hlooks ▸ hk
  · rcases (mem_indexVout_iff.mp hst).2 with rfl | rfl <;> cases hlooks
  · exact Option.some.inj hlooks ▸ hk

theorem before_of_tx (h : tx.Before tx') (hst : st ∈ indexTx height block tx)
    (hst' : st' ∈ indexTx height' block' tx') : st.Before st' := by
  intro k hkey'
  constructor
  · intro hkey
    rcases key_of_mem_indexTx hst hkey with rfl | ⟨outpoint, houtpoint, rfl⟩ | ⟨vout, -, rfl⟩
    all_goals
      rcases key_of_mem_indexTx hst' hkey' with hk | ⟨outpoint', houtpoint', hk⟩ | ⟨vout', -, hk⟩
    · exact h.txid_ne (Key.tx.inj hk)
    · cases hk
    · cases hk
    · cases hk
    · exact h.spent_once outpoint houtpoint (Key.spend.inj hk ▸ houtpoint')
    · cases hk
    · cases hk
    · cases hk
    · exact h.txid_ne (Prod.mk.inj (Key.utxo.inj hk)).1
  · rintro outpoint rfl hlooks
    have hspent := looksFor_of_mem_indexTx hst hlooks
    rcases key_of_mem_indexTx hst' hkey' with hk | ⟨_, -, hk⟩ | ⟨vout', -, hk⟩
    · cases hk
    · cases hk
    · exact h.spent_ne outpoint hspent (congrArg Prod.fst (Key.utxo.inj hk))

theorem pairwise_indexVout (tx : TX) (height : Nat) (ts : Int)
    (h : (tx.vout.map VOUT.n).Nodup) :
    (tx.vout.flatMap (indexVout tx.txid height ts)).Pairwise Statement.Before := by
  rw [List.pairwise_flatMap]
  constructor
  · intro vout _
    unfold indexVout
    split_ifs
    · exact List.Pairwise.nil
    · refine List.pairwise_pair.mpr ?_
      rintro k -
      exact ⟨nofun, fun _ _ => nofun⟩
  · refine (List.pairwise_map.mp h).imp ?_
    intro vout vout' hne st hst st' hst'
    rcases (mem_indexVout_iff.mp hst').2 with rfl | rfl
    · exact Statement.before_of_key_eq_none rfl
    · intro k hkey
      obtain rfl := Option.some.inj hkey
      rcases (mem_indexVout_iff.mp hst).2 with rfl | rfl
      · exact ⟨nofun, fun _ _ => nofun⟩
      · refine ⟨fun hkey => hne ?_, fun _ _ => nofun⟩
        exact (Prod.mk.inj (Key.utxo.inj (Option.some.inj hkey))).2

theorem pairwise_indexTx (height : Nat) (block : Block) (h : tx.Valid) :
    (indexTx height block tx).Pairwise Statement.Before := by
  have hdeduct : ∀ st ∈ tx.spent.map Statement.deductSpent, st.key = none := by
    intro st hst
    obtain ⟨outpoint, -, rfl⟩ := List.mem_map.mp hst
    rfl
  have hspends : (tx.spent.map (Statement.spendUtxo tx.txid)).Pairwise Statement.Before := by
    refine List.pairwise_map.mpr (h.spent_nodup.imp ?_)
    intro outpoint outpoint' hne k hkey
    obtain rfl := Option.some.inj hkey
    exact ⟨fun hkey => hne (Key.spend.inj (Option.some.inj hkey)), fun _ => nofun⟩
  rw [indexTx, List.pairwise_cons, List.pairwise_append, List.pairwise_append]
  refine ⟨?_, ⟨hspends, pairwise_indexVout tx height block.time h.vout_nodup, ?_⟩, ?_, ?_⟩
  · intro st hst k hkey
    refine ⟨fun hk => ?_, fun _ _ => nofun⟩
    obtain rfl := Option.some.inj hk
    rw [List.mem_append, List.mem_append] at hst
    rcases hst with (hst | hst) | hst
    · obtain ⟨outpoint, -, rfl⟩ := List.mem_map.mp hst
      cases hkey
    · obtain ⟨vout, -, hst⟩ := List.mem_flatMap.mp hst
      rcases (mem_indexVout_iff.mp hst).2 with rfl | rfl <;> cases hkey
    · rw [hdeduct st hst] at hkey
      cases hkey
  · intro st hst st' hst' k hkey
    obtain ⟨outpoint, houtpoint, rfl⟩ := List.mem_map.mp hst
    obtain ⟨vout, -, hst'⟩ := List.mem_flatMap.mp hst'
    rcases (mem_indexVout_iff.mp hst').2 with rfl | rfl
    · cases hkey
    · obtain rfl := Option.some.inj hkey
      refine ⟨nofun, fun k hk hlooks => h.spent_ne outpoint houtpoint ?_⟩
      rw [Option.some.inj hlooks, ← Key.utxo.inj hk]
  · exact List.pairwise_of_forall_mem_list fun st _ st' hst' =>
      Statement.before_of_key_eq_none (hdeduct st' hst')
  · intro st _ st' hst'
    exact Statement.before_of_key_eq_none (hdeduct st' hst')

end Order

theorem pairwise_statements (hvalid : ∀ tx ∈ transactions blocks, tx.Valid)
    (horder : (transactions blocks).Pairwise TX.Before) (height : Nat) :
    (statements height blocks).Pairwise Statement.Before := by
  induction blocks generalizing height with
  | nil => exact List.Pairwise.nil
  | cons block blocks ih =>
    simp only [transactions, List.flatMap_cons, List.mem_append, List.pairwise_append] at hvalid horder
    obtain ⟨hown, hrest, hcross⟩ := horder
    -- a statement of a transaction has no key of a block
    have htx : ∀ {h b tx st}, st ∈ indexTx h b tx → ∀ height, st.key ≠ some (.block height) := by
      intro h b tx st hst height hkey
      rcases key_of_mem_indexTx hst hkey with hk | ⟨_, -, hk⟩ | ⟨_, -, hk⟩ <;> cases hk
    have hinsert : ∀ {h row h' b tx st}, st ∈ indexTx h' b tx →
        (Statement.insertBlock h row).Before st := by
      intro h row h' b tx st hst k hkey
      refine ⟨fun hk => ?_, fun _ _ => nofun⟩
      obtain rfl := Option.some.inj hk
      exact htx hst h hkey
    rw [statements, List.pairwise_append]
    refine ⟨?_, ih (fun tx htx => hvalid tx (.inr htx)) hrest (height + 1), ?_⟩
    · rw [indexBlock, List.pairwise_cons, List.pairwise_append]
      refine ⟨?_, ?_, List.pairwise_singleton _ _, ?_⟩
      · intro st hst
        rw [List.mem_append, List.mem_singleton] at hst
        rcases hst with hst | rfl
        · obtain ⟨tx, -, hst⟩ := List.mem_flatMap.mp hst
          exact hinsert hst
        · exact Statement.before_of_key_eq_none rfl
      · rw [List.pairwise_flatMap]
        refine ⟨fun tx htx => pairwise_indexTx height block (hvalid tx (.inl htx)), ?_⟩
        exact hown.imp fun hbefore st hst st' hst' => before_of_tx hbefore hst hst'
      · intro st _ st' hst'
        rw [List.mem_singleton.mp hst']
        exact Statement.before_of_key_eq_none rfl
    · intro st hst st' hst'
      obtain ⟨i, block', hblock', hst'⟩ := mem_statements_iff.mp hst'
      have hmem' : block' ∈ blocks := List.mem_of_getElem? hblock'
      rcases mem_indexBlock_iff.mp hst' with rfl | ⟨tx', htx', hst'⟩ | rfl
      · intro k hkey
        obtain rfl := Option.some.inj hkey
        rcases mem_indexBlock_iff.mp hst with rfl | ⟨tx, -, hst⟩ | rfl
        · refine ⟨fun hk => ?_, fun _ => nofun⟩
          have := Key.block.inj (Option.some.inj hk)
          omega
        · exact ⟨htx hst _, fun _ => nofun⟩
        · exact ⟨nofun, fun _ => nofun⟩
      · rcases mem_indexBlock_iff.mp hst with rfl | ⟨tx, htx, hst⟩ | rfl
        · exact hinsert hst'
        · refine before_of_tx (hcross tx htx tx' ?_) hst hst'
          exact List.mem_flatMap.mpr ⟨block', hmem', htx'⟩
        · intro k hkey
          exact ⟨nofun, fun _ _ => nofun⟩
      · exact Statement.before_of_key_eq_none rfl

theorem mem_insertUtxo_indexTx_iff {tx : TX} : .insertUtxo outpoint row ∈ indexTx height block tx ↔
      ∃ vout ∈ tx.vout, vout.address ≠ [] ∧ outpoint = (tx.txid, vout.n) ∧ row = vout.row height := by
  simp only [mem_indexTx_iff, mem_indexVout_iff, reduceCtorEq, and_false, exists_false, false_or,
    or_false, Statement.insertUtxo.injEq]

theorem fed_statements (height : Nat) (blocks : List Block) (known : GoString → Prop) :
    Fed known (statements height blocks) := by
  have hnone : ∀ {st : Statement}, (∀ outpoint row, st ≠ .insertUtxo outpoint row) →
      Fed known [st] := by
    intro st hst
    exact ⟨fun outpoint row heq => absurd heq (hst outpoint row), trivial⟩
  have hvout : ∀ txid h ts vout, Fed known (indexVout txid h ts vout) := by
    intro txid h ts vout
    unfold indexVout
    split_ifs
    · trivial
    · refine ⟨nofun, ?_, trivial⟩
      intro outpoint row heq
      obtain ⟨-, rfl⟩ := Statement.insertUtxo.inj heq
      exact .inr ⟨vout.valueSat, ts, rfl⟩
  have hmap : ∀ (f : Outpoint → Statement) (ks : List Outpoint),
      (∀ k outpoint row, f k ≠ .insertUtxo outpoint row) → Fed known (ks.map f) := by
    intro f ks hf
    refine Fed.of_not_insertUtxo ?_
    intro st hst
    obtain ⟨k, -, rfl⟩ := List.mem_map.mp hst
    exact hf k
  have htx : ∀ h b tx, Fed known (indexTx h b tx) := by
    intro h b tx
    refine Fed.append (l := [_]) (hnone nofun) (Fed.append (Fed.append ?_ ?_) ?_)
    · exact hmap _ _ nofun
    · exact Fed.flatMap fun vout _ => hvout _ _ _ vout
    · exact hmap _ _ nofun
  induction blocks generalizing height with
  | nil => trivial
  | cons block blocks ih =>
    refine Fed.append (Fed.append (l := [_]) (hnone nofun) (Fed.append ?_ (hnone nofun))) (ih _)
    exact Fed.flatMap fun tx _ => htx height block tx

theorem wellFormed_statements (h : ValidChain blocks) (height : Nat) :
    WellFormed (statements height blocks) := by
  have hrow : ∀ outpoint row, .insertUtxo outpoint row ∈ statements height blocks →
      row.spent = false ∧ row.address ≠ [] := by
    intro outpoint row hmem
    obtain ⟨i, block, -, hst⟩ := mem_statements_iff.mp hmem
    rcases mem_indexBlock_iff.mp hst with hst | ⟨tx, -, hst⟩ | hst
    · cases hst
    · obtain ⟨vout, -, haddress, -, rfl⟩ := mem_insertUtxo_indexTx_iff.mp hst
      exact ⟨rfl, haddress⟩
    · cases hst
  exact ⟨pairwise_statements h.valid h.order height, fed_statements height blocks _,
    fun outpoint row hmem => (hrow outpoint row hmem).1,
    fun outpoint row hmem => (hrow outpoint row hmem).2⟩

theorem sum_credit_indexTx (S : List Statement) (address : GoString) (height : Nat) (block : Block)
    (tx : TX) : ((indexTx height block tx).map (Statement.credit S address)).sum =
      ((indexTx height block tx).map (Statement.gain S address)).sum := by
  have hvout : ∀ vouts : List VOUT,
      ((vouts.flatMap (indexVout tx.txid height block.time)).map (Statement.credit S address)).sum =
        ((vouts.flatMap (indexVout tx.txid height block.time)).map
          (Statement.gain S address)).sum := by
    intro vouts
    induction vouts with
    | nil => rfl
    | cons vout vouts ih =>
      simp only [List.flatMap_cons, List.map_append, List.sum_append, ih]
      unfold indexVout
      split_ifs
      · rfl
      · simp [Statement.credit, Statement.gain, VOUT.row]
  have hspent : (tx.spent.map (Statement.credit S address ∘ Statement.spendUtxo tx.txid)).sum = 0 ∧
      (tx.spent.map (Statement.gain S address ∘ Statement.deductSpent)).sum = 0 := by
    constructor <;> simp [Function.comp_def, Statement.credit, Statement.gain]
  have hsame : Statement.credit S address ∘ Statement.deductSpent =
      Statement.gain S address ∘ Statement.spendUtxo tx.txid := rfl
  simp only [indexTx, List.map_cons, List.map_append, List.sum_cons, List.sum_append, List.map_map,
    hvout, hspent.1, hspent.2, hsame, Statement.credit, Statement.gain]
  omega

theorem sum_credit_statements (S : List Statement) (address : GoString) (height : Nat)
    (blocks : List Block) :
    ((statements height blocks).map (Statement.credit S address)).sum =
      ((statements height blocks).map (Statement.gain S address)).sum := by
  have htxs : ∀ (h : Nat) (b : Block) (txs : List TX),
      ((txs.flatMap (indexTx h b)).map (Statement.credit S address)).sum =
        ((txs.flatMap (indexTx h b)).map (Statement.gain S address)).sum := by
    intro h b txs
    induction txs with
    | nil => rfl
    | cons tx txs ih =>
      simp only [List.flatMap_cons, List.map_append, List.sum_append, ih, sum_credit_indexTx]
  induction blocks generalizing height with
  | nil => rfl
  | cons block blocks ih =>
    simp only [statements, indexBlock, List.cons_append, List.map_cons, List.map_append,
      List.sum_cons, List.sum_append, ih, htxs, Statement.credit, Statement.gain, List.map_nil,
      List.sum_nil]

section Describe

variable {height : Nat} {blocks : List Block}

theorem mem_insertBlock_iff {h : Nat} {row : BlockRow} :
    .insertBlock h row ∈ statements height blocks ↔
      ∃ (i : Nat) (block : Block), blocks[i]? = some block ∧ h = height + i ∧ row = block.row := by
  simp only [mem_statements_iff, mem_insertBlock_indexBlock_iff]

theorem mem_insertTransaction_iff {row : TransactionRow} :
    .insertTransaction txid row ∈ statements height blocks ↔
      ∃ (i : Nat) (block : Block), blocks[i]? = some block ∧
        ∃ tx ∈ block.tx, txid = tx.txid ∧ row = tx.row (height + i) block := by
  simp [mem_statements_iff, mem_indexBlock_iff, mem_indexTx_iff, mem_indexVout_iff]

theorem mem_insertUtxo_iff :
    .insertUtxo outpoint row ∈ statements height blocks ↔
      ∃ (i : Nat) (block : Block), blocks[i]? = some block ∧ ∃ tx ∈ block.tx, ∃ vout ∈ tx.vout,
        vout.address ≠ [] ∧ outpoint = (tx.txid, vout.n) ∧ row = vout.row (height + i) := by
  simp only [mem_statements_iff, mem_indexBlock_iff, mem_insertUtxo_indexTx_iff, reduceCtorEq,
    false_or, or_false]

theorem mem_spendUtxo_iff :
    .spendUtxo txid outpoint ∈ statements height blocks ↔
      ∃ tx ∈ transactions blocks, outpoint ∈ tx.spent ∧ txid = tx.txid := by
  have hmem : ∀ tx, tx ∈ transactions blocks ↔
      ∃ (i : Nat) (block : Block), blocks[i]? = some block ∧ tx ∈ block.tx := by
    intro tx
    rw [transactions, List.mem_flatMap]
    constructor
    · rintro ⟨block, hblock, htx⟩
      obtain ⟨i, hblock⟩ := List.mem_iff_getElem?.mp hblock
      exact ⟨i, block, hblock, htx⟩
    · rintro ⟨i, block, hblock, htx⟩
      exact ⟨block, List.mem_of_getElem? hblock, htx⟩
  simp only [mem_statements_iff, mem_indexBlock_iff, mem_indexTx_iff, mem_indexVout_iff, hmem,
    reduceCtorEq, false_or, or_false, and_false, exists_false, Statement.spendUtxo.injEq]
  constructor
  · rintro ⟨i, block, hblock, tx, htx, outpoint', hspent, rfl, rfl⟩
    exact ⟨tx, ⟨i, block, hblock, htx⟩, hspent, rfl⟩
  · rintro ⟨tx, ⟨i, block, hblock, htx⟩, hspent, rfl⟩
    exact ⟨i, block, hblock, tx, htx, outpoint, hspent, rfl, rfl⟩

theorem after_iff (hvalid : ValidChain blocks) {row₀ : UtxoRow}
    (hspent : row₀.spent = false) (htxid : row₀.spentTxid = none) :
    row₀.After (statements height blocks) outpoint row ↔
      row = { row₀ with
        spent := (spender blocks outpoint).isSome
        spentTxid := (spender blocks outpoint).map TX.txid } := by
  have hpair := pairwise_statements hvalid.valid hvalid.order height
  cases hspender : spender blocks outpoint with
  | none =>
    have hunspent : ∀ txid, .spendUtxo txid outpoint ∉ statements height blocks := by
      intro txid hmem
      obtain ⟨tx, htx, hmem, -⟩ := mem_spendUtxo_iff.mp hmem
      have := List.find?_eq_none.mp hspender tx htx
      simp [hmem] at this
    have hrow : { row₀ with spent := false, spentTxid := none } = row₀ := by
      rw [← hspent, ← htxid]
    simp [UtxoRow.After, hunspent, hrow]
  | some tx =>
    have hmem : .spendUtxo tx.txid outpoint ∈ statements height blocks := by
      refine mem_spendUtxo_iff.mpr ⟨tx, List.mem_of_find?_eq_some hspender, ?_, rfl⟩
      simpa using List.find?_some hspender
    constructor
    · rintro (⟨txid, hmem', rfl⟩ | ⟨hnone, -⟩)
      · have hsame := eq_of_key_eq (k := .spend outpoint) hpair hmem' hmem rfl rfl
        rw [(Statement.spendUtxo.inj hsame).1]
        rfl
      · exact absurd hmem (hnone tx.txid)
    · rintro rfl
      exact .inl ⟨tx.txid, hmem, rfl⟩

theorem Matches.describes {t : Tables} {chain : List Block} (hvalid : ValidChain chain.tail)
    (h : Matches t (statements 1 chain.tail)) : Describes t chain := by
  -- heights and places in the chain without its genesis block
  have hheight : ∀ {p : Nat → Block → Prop}, (∃ i block, chain.tail[i]? = some block ∧ p (1 + i) block) ↔
      ∃ height block, 0 < height ∧ chain[height]? = some block ∧ p height block := by
    intro p
    constructor
    · rintro ⟨i, block, hblock, hp⟩
      rw [List.getElem?_tail] at hblock
      exact ⟨1 + i, block, by omega, by rwa [Nat.add_comm], hp⟩
    · rintro ⟨height, block, hpos, hblock, hp⟩
      obtain ⟨i, rfl⟩ := Nat.exists_eq_add_of_le hpos
      refine ⟨i, block, ?_, hp⟩
      rwa [List.getElem?_tail, Nat.add_comm]
  refine ⟨?_, ?_, ?_⟩
  · intro height row
    rw [h.blocks, mem_insertBlock_iff]
    rw [hheight (p := fun h b => height = h ∧ row = b.row)]
    constructor
    · rintro ⟨_, block, hpos, hblock, rfl, hrow⟩
      exact ⟨hpos, block, hblock, hrow⟩
    · rintro ⟨hpos, block, hblock, hrow⟩
      exact ⟨height, block, hpos, hblock, rfl, hrow⟩
  · intro txid row
    rw [h.transactions, mem_insertTransaction_iff]
    rw [hheight (p := fun h b => ∃ tx ∈ b.tx, txid = tx.txid ∧ row = tx.row h b)]
    simp only [eq_comm]
  · intro outpoint row
    rw [h.utxos]
    rw [← hheight (p := fun h b => ∃ tx ∈ b.tx, ∃ vout ∈ tx.vout, vout.address ≠ [] ∧
      outpoint = (tx.txid, vout.n) ∧ row = { vout.row h with
        spent := (spender chain.tail outpoint).isSome
        spentTxid := (spender chain.tail outpoint).map TX.txid })]
    simp only [mem_insertUtxo_iff]
    constructor
    · rintro ⟨row₀, ⟨i, block, hblock, tx, htx, vout, hvout, haddress, hkey, rfl⟩, hafter⟩
      exact ⟨i, block, hblock, tx, htx, vout, hvout, haddress, hkey,
        (after_iff hvalid rfl rfl).mp hafter⟩
    · rintro ⟨i, block, hblock, tx, htx, vout, hvout, haddress, hkey, hrow⟩
      exact ⟨_, ⟨i, block, hblock, tx, htx, vout, hvout, haddress, hkey, rfl⟩,
        (after_iff hvalid rfl rfl).mpr hrow⟩

end Describe

end GarudaChain.Indexer
