import GarudaChain.Node.Effect

/-!
# The operations on the coins
-/

namespace GarudaChain

variable {coins coins' : Coins} {o : COutPoint} {c : Coin} {tx : CTransaction}

namespace Coins

@[simp] theorem erase_map (coins : Coins) (o : COutPoint) :
    (coins.erase o).map = coins.map.erase o := rfl

@[simp] theorem insert_map (coins : Coins) (o : COutPoint) (c : Coin) (hc : c.Stored) :
    (coins.insert o c hc).map = coins.map.insert o c := rfl

theorem haveCoin_iff (coins : Coins) (o : COutPoint) : coins.haveCoin o = true ↔ o ∈ coins.map := by
  rw [haveCoin, getCoin, Finmap.lookup_isSome]

theorem haveCoin_eq_false_iff (coins : Coins) (o : COutPoint) :
    coins.haveCoin o = false ↔ o ∉ coins.map := by
  rw [← haveCoin_iff, Bool.not_eq_true]

theorem spendCoin_eq_some_iff :
    coins.spendCoin o = some (c, coins') ↔ coins.map.lookup o = some c ∧ coins' = coins.erase o := by
  rw [spendCoin, getCoin]
  cases coins.map.lookup o with
  | none => simp
  | some d =>
    simp only [Option.some.injEq, Prod.mk.injEq]
    exact ⟨fun h => ⟨h.1, h.2.symm⟩, fun h => ⟨h.1, h.2.symm⟩⟩

theorem spendCoin_eq_none_iff :
    coins.spendCoin o = none ↔ o ∉ coins.map := by
  rw [spendCoin, getCoin, ← Finmap.lookup_eq_none]
  cases coins.map.lookup o <;> simp

theorem addCoin_unspendable {overwrite : Bool}
    (hnull : c.out.isNull = false) (hu : isUnspendable c.out.scriptPubKey = true) :
    coins.addCoin o c overwrite = .ok coins := by
  simp [addCoin, Coin.isSpent, hnull, hu]

theorem addCoin_throws (hnull : c.out.isNull = false)
    (hu : isUnspendable c.out.scriptPubKey = false) (hmem : o ∈ coins.map) :
    coins.addCoin o c false = .error (.thrown .overwriteUnspentCoin) := by
  have hhave := (haveCoin_iff coins o).mpr hmem
  simp [addCoin, Coin.isSpent, hnull, hu, hhave]

theorem addCoin_insert {overwrite : Bool}
    (hc : c.Stored) (hfree : overwrite = false → o ∉ coins.map) :
    coins.addCoin o c overwrite = .ok (coins.insert o c hc) := by
  obtain ⟨hnull, hu⟩ := hc
  cases overwrite with
  | true => simp [addCoin, hnull, hu]
  | false =>
    have hhave := (haveCoin_eq_false_iff coins o).mpr (hfree rfl)
    simp [addCoin, hnull, hu, hhave]

theorem addCoinsFrom_ok (tx : CTransaction) (nHeight : Nat) (check : Bool) (vout : List CTxOut) :
    ∀ (i : Nat) (coins : Coins), (∀ out ∈ vout, out.isNull = false) →
      (check = false → tx.isCoinBase = false →
        ∀ k ∈ (createsFrom tx nHeight i vout).map Prod.fst, k ∉ coins.map) →
      ∃ coins', addCoinsFrom tx nHeight check i vout coins = .ok coins' ∧
        coins'.map = Ledger.createAll coins.map (createsFrom tx nHeight i vout) := by
  induction vout with
  | nil => intro i coins _ _; exact ⟨coins, rfl, rfl⟩
  | cons out vout ih =>
    intro i coins hnull hfree
    have hout : out.isNull = false := hnull out List.mem_cons_self
    have hrest : ∀ o ∈ vout, o.isNull = false := fun o ho => hnull o (List.mem_cons_of_mem _ ho)
    cases hu : isUnspendable out.scriptPubKey with
    | true =>
      have hcreates : createsFrom tx nHeight i (out :: vout) = createsFrom tx nHeight (i + 1) vout := by
        rw [createsFrom, if_pos hu]
      rw [hcreates] at hfree ⊢
      obtain ⟨coins', hok, hmap⟩ := ih (i + 1) coins hrest hfree
      refine ⟨coins', ?_, hmap⟩
      rw [addCoinsFrom, addCoin_unspendable hout hu]
      exact hok
    | false =>
      have hcreates : createsFrom tx nHeight i (out :: vout) =
          (⟨tx.getHash, i⟩, ⟨out, tx.isCoinBase, nHeight⟩) :: createsFrom tx nHeight (i + 1) vout := by
        rw [createsFrom, if_neg (by simp [hu])]
      have hnd := createsFrom_nodup tx nHeight (out :: vout) i
      rw [hcreates, List.map_cons, List.nodup_cons] at hnd
      rw [hcreates] at hfree ⊢
      have hstored : (⟨out, tx.isCoinBase, nHeight⟩ : Coin).Stored := ⟨hout, hu⟩
      have hadd : coins.addCoin ⟨tx.getHash, i⟩ ⟨out, tx.isCoinBase, nHeight⟩
          (if check then coins.haveCoin ⟨tx.getHash, i⟩ else tx.isCoinBase) =
            .ok (coins.insert ⟨tx.getHash, i⟩ _ hstored) := by
        refine addCoin_insert hstored fun hover => ?_
        cases check with
        | true => exact (haveCoin_eq_false_iff coins _).mp hover
        | false => exact hfree rfl hover _ (by simp)
      -- the later outpoints are distinct from this one, so the insertion leaves them free
      have hlater : check = false → tx.isCoinBase = false →
          ∀ k ∈ (createsFrom tx nHeight (i + 1) vout).map Prod.fst,
            k ∉ (coins.insert ⟨tx.getHash, i⟩ _ hstored).map := by
        intro hc hcb k hk
        rw [insert_map, Finmap.mem_insert, not_or]
        exact ⟨fun heq => hnd.1 (heq ▸ hk), hfree hc hcb k (by simp [hk])⟩
      obtain ⟨coins', hok, hmap⟩ := ih (i + 1) _ hrest hlater
      refine ⟨coins', ?_, hmap⟩
      rw [addCoinsFrom, hadd]
      exact hok

theorem addCoinsFrom_throws (tx : CTransaction) (nHeight : Nat) (vout : List CTxOut)
    (hcb : tx.isCoinBase = false) :
    ∀ (i : Nat) (coins : Coins), (∀ out ∈ vout, out.isNull = false) →
      (∃ k ∈ (createsFrom tx nHeight i vout).map Prod.fst, k ∈ coins.map) →
      addCoinsFrom tx nHeight false i vout coins = .error (.thrown .overwriteUnspentCoin) := by
  induction vout with
  | nil => rintro i coins _ ⟨k, hk, -⟩; simp [createsFrom] at hk
  | cons out vout ih =>
    rintro i coins hnull ⟨k, hk, hmem⟩
    have hout : out.isNull = false := hnull out List.mem_cons_self
    have hrest : ∀ o ∈ vout, o.isNull = false := fun o ho => hnull o (List.mem_cons_of_mem _ ho)
    rw [createsFrom] at hk
    cases hu : isUnspendable out.scriptPubKey with
    | true =>
      rw [if_pos hu] at hk
      rw [addCoinsFrom, addCoin_unspendable hout hu]
      exact ih (i + 1) coins hrest ⟨k, hk, hmem⟩
    | false =>
      rw [if_neg (by simp [hu])] at hk
      have hstored : (⟨out, tx.isCoinBase, nHeight⟩ : Coin).Stored := ⟨hout, hu⟩
      by_cases hhere : (⟨tx.getHash, i⟩ : COutPoint) ∈ coins.map
      · simp [addCoinsFrom, hcb, addCoin_throws (c := ⟨out, false, nHeight⟩) hout hu hhere, bind,
          Except.bind]
      · have hadd : coins.addCoin ⟨tx.getHash, i⟩ ⟨out, tx.isCoinBase, nHeight⟩ tx.isCoinBase =
            .ok (coins.insert ⟨tx.getHash, i⟩ _ hstored) := addCoin_insert hstored fun _ => hhere
        have hk' : k ∈ (createsFrom tx nHeight (i + 1) vout).map Prod.fst := by
          rw [List.map_cons, List.mem_cons] at hk
          refine hk.resolve_left fun heq => hhere ?_
          rwa [heq] at hmem
        simp only [addCoinsFrom, Bool.false_eq_true, if_false, hadd]
        exact ih (i + 1) _ hrest ⟨k, hk', by
          rw [insert_map, Finmap.mem_insert]; exact Or.inr hmem⟩

theorem addCoinsFrom_notNull (tx : CTransaction) (nHeight : Nat) (check : Bool)
    (vout : List CTxOut) : ∀ (i : Nat) (coins coins' : Coins),
      addCoinsFrom tx nHeight check i vout coins = .ok coins' → ∀ out ∈ vout, out.isNull = false := by
  induction vout with
  | nil => intro i coins coins' _ out hout; cases hout
  | cons out vout ih =>
    intro i coins coins' h o ho
    rw [addCoinsFrom] at h
    obtain ⟨mid, hadd, hrest⟩ := bind_eq_ok.mp h
    rcases List.mem_cons.mp ho with rfl | ho
    · cases hnull : o.isNull with
      | false => rfl
      | true => simp [addCoin, Coin.isSpent, hnull] at hadd
    · exact ih (i + 1) mid coins' hrest o ho

theorem addCoins_spec {nHeight : Nat}
    (h : coins.addCoins tx nHeight false = .ok coins') :
    (∀ out ∈ tx.vout, out.isNull = false) ∧
      (tx.isCoinBase = false → ∀ k ∈ (txCreates tx nHeight).map Prod.fst, k ∉ coins.map) ∧
      coins'.map = Ledger.createAll coins.map (txCreates tx nHeight) := by
  have hnull := addCoinsFrom_notNull tx nHeight false tx.vout 0 coins coins' h
  have hfree : tx.isCoinBase = false →
      ∀ k ∈ (txCreates tx nHeight).map Prod.fst, k ∉ coins.map := by
    intro hcb k hk hmem
    have hthrow := addCoinsFrom_throws tx nHeight tx.vout hcb 0 coins hnull ⟨k, hk, hmem⟩
    rw [addCoins, hthrow] at h
    cases h
  refine ⟨hnull, hfree, ?_⟩
  obtain ⟨c, hok, hmap⟩ := addCoinsFrom_ok tx nHeight false tx.vout 0 coins hnull (fun _ => hfree)
  rw [addCoins, hok] at h
  cases h
  exact hmap

end Coins

theorem spendInputs_ok (vin : List CTxIn) : ∀ coins : Coins, (vin.map CTxIn.prevout).Nodup →
    (∀ txin ∈ vin, txin.prevout ∈ coins.map) → ∃ r, spendInputs vin coins = .ok r := by
  induction vin with
  | nil => intro coins _ _; exact ⟨_, rfl⟩
  | cons txin vin ih =>
    intro coins hnd hmem
    rw [List.map_cons, List.nodup_cons] at hnd
    obtain ⟨c, hc⟩ := Finmap.mem_iff.mp (hmem txin List.mem_cons_self)
    have hspend : coins.spendCoin txin.prevout = some (c, coins.erase txin.prevout) :=
      Coins.spendCoin_eq_some_iff.mpr ⟨hc, rfl⟩
    obtain ⟨⟨coins', undo⟩, hr⟩ := ih (coins.erase txin.prevout) hnd.2 (by
      intro t ht
      rw [Coins.erase_map, Finmap.mem_erase]
      refine ⟨fun heq => hnd.1 ?_, hmem t (List.mem_cons_of_mem _ ht)⟩
      exact heq ▸ List.mem_map_of_mem ht)
    exact ⟨(coins', c :: undo), by simp [spendInputs, hspend, hr, bind, Except.bind]⟩

theorem spendInputs_spec (vin : List CTxIn) : ∀ (coins coins' : Coins) (undo : CTxUndo),
    spendInputs vin coins = .ok (coins', undo) →
      (vin.map CTxIn.prevout).Nodup ∧ undo.length = vin.length ∧
      (∀ e ∈ (vin.map CTxIn.prevout).zip undo, coins.map.lookup e.1 = some e.2) ∧
      coins'.map = Ledger.spendAll coins.map (vin.map CTxIn.prevout) := by
  induction vin with
  | nil =>
    intro coins coins' undo h
    cases h
    simp [Ledger.spendAll]
  | cons txin vin ih =>
    intro coins coins' undo h
    cases hspend : coins.spendCoin txin.prevout with
    | none => simp [spendInputs, hspend] at h
    | some r =>
      obtain ⟨c, mid⟩ := r
      obtain ⟨hc, rfl⟩ := Coins.spendCoin_eq_some_iff.mp hspend
      simp only [spendInputs, hspend] at h
      obtain ⟨⟨last, undo'⟩, hrest, hret⟩ := bind_eq_ok.mp h
      cases hret
      obtain ⟨hnd, hlen, hlook, hmap⟩ := ih _ _ _ hrest
      -- an input that comes again is no longer there, so the two could not both be spent
      have hne : ∀ e ∈ (vin.map CTxIn.prevout).zip undo', e.1 ≠ txin.prevout := by
        intro e he heq
        have := hlook e he
        rw [Coins.erase_map, heq, Finmap.lookup_erase] at this
        cases this
      refine ⟨?_, by simp [hlen], ?_, by rw [hmap]; rfl⟩
      · rw [List.map_cons, List.nodup_cons]
        refine ⟨fun hmem => ?_, hnd⟩
        have hfst : ((vin.map CTxIn.prevout).zip undo').map Prod.fst = vin.map CTxIn.prevout :=
          List.map_fst_zip (by simp [hlen])
        rw [← hfst] at hmem
        obtain ⟨e, he, heq⟩ := List.mem_map.mp hmem
        exact hne e he heq
      · intro e he
        rw [List.map_cons, List.zip_cons_cons] at he
        rcases List.mem_cons.mp he with rfl | he
        · exact hc
        · have := hlook e he
          rwa [Coins.erase_map, Finmap.lookup_erase_ne (hne e he)] at this

/-- What `UpdateCoins` has done when it succeeds. -/
structure UpdateSpec (tx : CTransaction) (nHeight : Nat) (coins coins' : Coins)
    (txundo : CTxUndo) : Prop where
  notNull : ∀ out ∈ tx.vout, out.isNull = false
  nodup : (txSpends tx).Nodup
  undo_length : txundo.length = (txSpends tx).length
  undo_coin : ∀ e ∈ (txSpends tx).zip txundo, coins.map.lookup e.1 = some e.2
  fresh : tx.isCoinBase = false → ¬ overwrites nHeight tx coins.map
  book : coins'.map = (txMove nHeight tx).apply coins.map

theorem updateCoins_spec {nHeight : Nat}
    {txundo : CTxUndo} (h : updateCoins tx coins nHeight = .ok (coins', txundo)) :
    UpdateSpec tx nHeight coins coins' txundo := by
  obtain ⟨⟨mid, undo⟩, hspend, hrest⟩ := bind_eq_ok.mp h
  obtain ⟨last, hadd, hret⟩ := bind_eq_ok.mp hrest
  cases hret
  obtain ⟨hnull, hfree, hmap⟩ := Coins.addCoins_spec hadd
  have hspent : (txSpends tx).Nodup ∧ txundo.length = (txSpends tx).length ∧
      (∀ e ∈ (txSpends tx).zip txundo, coins.map.lookup e.1 = some e.2) ∧
      mid.map = Ledger.spendAll coins.map (txSpends tx) := by
    cases hord : isOrdinary tx with
    | true =>
      rw [show (!tx.isCoinBase && !isCBDCMintTx tx) = true from hord, if_pos rfl] at hspend
      simpa [txSpends, hord] using spendInputs_spec tx.vin coins mid txundo hspend
    | false =>
      rw [show (!tx.isCoinBase && !isCBDCMintTx tx) = false from hord, if_neg (by simp)] at hspend
      cases hspend
      simp [txSpends, hord, Ledger.spendAll]
  obtain ⟨hnd, hlen, hcoin, hmid⟩ := hspent
  refine ⟨hnull, hnd, hlen, hcoin, ?_, by rw [hmap, hmid]; rfl⟩
  rintro hcb ⟨k, hk, hmem⟩
  exact hfree hcb k hk (hmid ▸ hmem)

theorem updateCoins_total (nHeight : Nat)
    (hnull : ∀ out ∈ tx.vout, out.isNull = false) (hnd : (txSpends tx).Nodup)
    (hlive : ∀ k ∈ txSpends tx, k ∈ coins.map) :
    (tx.isCoinBase = false ∧ overwrites nHeight tx coins.map →
      updateCoins tx coins nHeight = .error (.thrown .overwriteUnspentCoin)) ∧
    (¬ (tx.isCoinBase = false ∧ overwrites nHeight tx coins.map) →
      ∃ r, updateCoins tx coins nHeight = .ok r) := by
  have hspend : ∃ mid undo, (if !tx.isCoinBase && !isCBDCMintTx tx then spendInputs tx.vin coins
      else .ok (coins, [])) = .ok (mid, undo) ∧
      mid.map = Ledger.spendAll coins.map (txSpends tx) := by
    cases hord : isOrdinary tx with
    | true =>
      rw [show (!tx.isCoinBase && !isCBDCMintTx tx) = true from hord, if_pos rfl]
      simp only [txSpends, hord, if_true] at hnd hlive
      obtain ⟨⟨mid, undo⟩, hok⟩ := spendInputs_ok tx.vin coins hnd
        (fun t ht => hlive _ (List.mem_map_of_mem ht))
      refine ⟨mid, undo, hok, ?_⟩
      simpa [txSpends, hord] using (spendInputs_spec tx.vin coins mid undo hok).2.2.2
    | false =>
      rw [show (!tx.isCoinBase && !isCBDCMintTx tx) = false from hord, if_neg (by simp)]
      exact ⟨coins, [], rfl, by simp [txSpends, hord, Ledger.spendAll]⟩
  obtain ⟨mid, undo, hok, hmid⟩ := hspend
  rw [updateCoins, hok]
  constructor
  · rintro ⟨hcb, k, hk, hmem⟩
    have hthrow := Coins.addCoinsFrom_throws tx nHeight tx.vout hcb 0 mid hnull
      ⟨k, hk, hmid ▸ hmem⟩
    simp [Coins.addCoins, hthrow, bind, Except.bind]
  · intro hno
    obtain ⟨last, hadd, _⟩ := Coins.addCoinsFrom_ok tx nHeight false tx.vout 0 mid hnull
      (fun _ hcb k hk hmem => hno ⟨hcb, k, hk, hmid ▸ hmem⟩)
    exact ⟨(last, undo), by simp [Coins.addCoins, hadd, bind, Except.bind]⟩

end GarudaChain
