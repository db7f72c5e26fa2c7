import GarudaChain.Node.Proofs.SupplyProofs

/-!
# When connecting a block ends in an exception
-/

namespace GarudaChain

/-- The assertion of `UpdateCoins` and the exception of `AddCoin`. -/
def isUpdateAbort : Abort → Bool
  | .assertFailed .updateCoinsIsSpent => true
  | .thrown .overwriteUnspentCoin => true
  | _ => false

/-- The call does not end in one of the two. -/
def NoUpdateAbort {α : Type} (x : Outcome α) : Prop := ∀ e, x = .error e → isUpdateAbort e = false

namespace NoUpdateAbort

variable {α β : Type}

theorem ok (a : α) : NoUpdateAbort (.ok a : Outcome α) := fun _ h => by cases h

theorem error {e : Abort} (h : isUpdateAbort e = false) : NoUpdateAbort (.error e : Outcome α) :=
  fun e' he => by cases he; exact h

theorem bind {x : Outcome α} {f : α → Outcome β} (hx : NoUpdateAbort x)
    (hf : ∀ a, NoUpdateAbort (f a)) : NoUpdateAbort (x >>= f) := by
  cases x with
  | error e => exact error (hx e rfl)
  | ok a => exact hf a

theorem bind_iff {x : Outcome α} {f : α → Outcome β} (hf : ∀ a, x = .ok a → NoUpdateAbort (f a)) :
    NoUpdateAbort (x >>= f) ↔ NoUpdateAbort x := by
  cases x with
  | error e => exact ⟨fun h => error (h e rfl), fun h => error (h e rfl)⟩
  | ok a => exact ⟨fun _ => ok a, fun _ => hf a rfl⟩

theorem ite {c : Prop} [Decidable c] {x y : Outcome α} (hx : NoUpdateAbort x)
    (hy : NoUpdateAbort y) : NoUpdateAbort (if c then x else y) := by
  split
  · exact hx
  · exact hy

theorem rejectBlockIf (cond : Bool) (result : BlockValidationResult) (reason : String) :
    NoUpdateAbort (rejectBlockIf cond result reason) := ite (error rfl) (ok ())

theorem rejectTxIf (cond : Bool) (result : TxValidationResult) (reason : String) :
    NoUpdateAbort (rejectTxIf cond result reason) := ite (error rfl) (ok ())

theorem asBlockFailure {x : Outcome α} (hx : NoUpdateAbort x) :
    NoUpdateAbort (asBlockFailure x) := by
  cases x with
  | ok a => exact ok a
  | error e =>
    cases e with
    | txInvalid result reason => exact error rfl
    | blockInvalid result reason => exact error rfl
    | fatalError message => exact error rfl
    | disconnectFailed => exact error rfl
    | assertFailed site => exact error (hx _ rfl)
    | thrown ex => exact error (hx _ rfl)

end NoUpdateAbort

theorem getValueOutLoop_noUpdateAbort (vout : List CTxOut) : ∀ acc : Int,
    NoUpdateAbort (getValueOutLoop vout acc) := by
  induction vout with
  | nil => intro acc; exact .ok acc
  | cons out vout ih => intro acc; exact .ite (.error rfl) (ih _)

theorem checkTxInputsLoop_noUpdateAbort (coins : Coins) (nSpendHeight : Nat) (vin : List CTxIn) :
    ∀ acc : Int, NoUpdateAbort (checkTxInputsLoop coins nSpendHeight vin acc) := by
  induction vin with
  | nil => intro acc; exact .ok acc
  | cons txin vin ih =>
    intro acc
    rw [checkTxInputsLoop]
    split
    · exact .error rfl
    · exact .bind (.rejectTxIf _ _ _) fun _ => .bind (.rejectTxIf _ _ _) fun _ => ih _

theorem checkTxInputs_noUpdateAbort (tx : CTransaction) (coins : Coins) (nSpendHeight : Nat) :
    NoUpdateAbort (checkTxInputs tx coins nSpendHeight) :=
  .bind (.rejectTxIf _ _ _) fun _ =>
    .bind (checkTxInputsLoop_noUpdateAbort coins nSpendHeight tx.vin 0) fun _ =>
      .bind (getValueOutLoop_noUpdateAbort tx.vout 0) fun _ =>
        .bind (.rejectTxIf _ _ _) fun _ => .bind (.rejectTxIf _ _ _) fun _ => .ok _

theorem mintOutputsLoop_noUpdateAbort (vout : List CTxOut) : ∀ totals : Int × Int,
    NoUpdateAbort (mintOutputsLoop vout totals) := by
  induction vout with
  | nil => intro totals; exact .ok totals
  | cons out vout ih =>
    intro totals
    exact .ite (ih _)
      (.bind (.rejectBlockIf _ _ _) fun _ => .bind (.rejectBlockIf _ _ _) fun _ => ih _)

theorem connectMint_noUpdateAbort (env : Env) (tx : CTransaction) (st : ConnectState) :
    NoUpdateAbort (connectMint env tx st) := by
  have hcheck : NoUpdateAbort (checkCBDCMintInBlock env.crypto env.authority tx) := by
    rw [checkCBDCMintInBlock]
    split
    · exact .error rfl
    · exact .bind (.rejectBlockIf _ _ _) fun _ =>
        .bind (mintOutputsLoop_noUpdateAbort tx.vout (0, 0)) fun _ =>
          .bind (.rejectBlockIf _ _ _) fun _ => .rejectBlockIf _ _ _
  exact .bind hcheck fun _ =>
    .bind (.rejectBlockIf _ _ _) fun _ => .bind (.rejectBlockIf _ _ _) fun _ => .ok _

theorem calculateSequenceLocksLoop_noUpdateAbort (block : CBlockIndex)
    (inputs : List (CTxIn × Nat)) : ∀ locks : Int × Int,
      NoUpdateAbort (calculateSequenceLocksLoop block inputs locks) := by
  induction inputs with
  | nil => intro locks; exact .ok locks
  | cons input inputs ih =>
    intro locks
    obtain ⟨txin, nCoinHeight⟩ := input
    refine .ite (ih _) (.ite ?_ (ih _))
    split
    · exact .error rfl
    · exact ih _

theorem sequenceLocks_noUpdateAbort (tx : CTransaction) (verifySequence : Bool)
    (prevHeights : List Nat) (block : CBlockIndex) :
    NoUpdateAbort (sequenceLocks tx verifySequence prevHeights block) := by
  refine .bind (.ite (calculateSequenceLocksLoop_noUpdateAbort block _ _) (.ok _)) fun _ => ?_
  rw [evaluateSequenceLocks]
  split
  · exact .error rfl
  · exact .ok _

theorem connectInputs_noUpdateAbort (env : Env) (pindex : CBlockIndex) (tx : CTransaction)
    (st : ConnectState) : NoUpdateAbort (connectInputs env pindex tx st) :=
  .bind (.asBlockFailure (checkTxInputs_noUpdateAbort tx st.coins pindex.nHeight)) fun _ =>
    .bind (.rejectBlockIf _ _ _) fun _ =>
      .bind (sequenceLocks_noUpdateAbort tx _ _ pindex) fun _ =>
        .bind (.rejectBlockIf _ _ _) fun _ => .ok _

theorem spentCoin_noUpdateAbort (coins : Coins) (txin : CTxIn) :
    NoUpdateAbort (spentCoin coins txin) := by
  rw [spentCoin]
  split
  · exact .error rfl
  · exact .ok _

theorem getP2SHSigOpCountLoop_noUpdateAbort (coins : Coins) (vin : List CTxIn) :
    NoUpdateAbort (getP2SHSigOpCountLoop coins vin) := by
  induction vin with
  | nil => exact .ok 0
  | cons txin vin ih =>
    exact .bind (spentCoin_noUpdateAbort coins txin) fun _ => .bind ih fun _ => .ok _

theorem countWitnessSigOps_noUpdateAbort (scriptSig scriptPubKey : Bytes) (witness : List Bytes)
    (flags : ScriptFlags) :
    NoUpdateAbort (countWitnessSigOps scriptSig scriptPubKey witness flags) := by
  refine .ite (.ok 0) (.bind (.ite (.ok ()) (.error rfl)) fun _ => ?_)
  split
  · exact .ok _
  · refine .ite ?_ (.ok 0)
    split
    · exact .ok 0
    · split
      · exact .ok _
      · exact .ok 0

theorem witnessSigOpCostLoop_noUpdateAbort (coins : Coins) (flags : ScriptFlags)
    (vin : List CTxIn) : NoUpdateAbort (witnessSigOpCostLoop coins flags vin) := by
  induction vin with
  | nil => exact .ok 0
  | cons txin vin ih =>
    exact .bind (spentCoin_noUpdateAbort coins txin) fun _ =>
      .bind (countWitnessSigOps_noUpdateAbort _ _ _ flags) fun _ => .bind ih fun _ => .ok _

theorem connectSigOps_noUpdateAbort (env : Env) (pindex : CBlockIndex) (tx : CTransaction)
    (st : ConnectState) : NoUpdateAbort (connectSigOps env pindex tx st) := by
  refine .bind (.ite (.ok 0) ?_) fun _ => .bind (.rejectBlockIf _ _ _) fun _ => .ok _
  refine .ite (.ok _) (.bind (.ite (getP2SHSigOpCountLoop_noUpdateAbort _ _) (.ok 0)) fun _ => ?_)
  exact .bind (witnessSigOpCostLoop_noUpdateAbort _ _ _) fun _ => .ok _

theorem spentOutputs_noUpdateAbort (coins : Coins) (vin : List CTxIn) :
    NoUpdateAbort (spentOutputs coins vin) := by
  induction vin with
  | nil => exact .ok []
  | cons txin vin ih =>
    exact .bind (spentCoin_noUpdateAbort coins txin) fun _ => .bind ih fun _ => .ok _

theorem runScriptChecks_noUpdateAbort (crypto : Crypto) (checks : List CScriptCheck) :
    NoUpdateAbort (runScriptChecks crypto checks) := by
  induction checks with
  | nil => exact .ok ()
  | cons check checks ih =>
    rw [runScriptChecks]
    split
    · exact ih
    · exact .ite (.error rfl) (.error rfl)

theorem connectScripts_noUpdateAbort (env : Env) (pindex : CBlockIndex) (tx : CTransaction)
    (st : ConnectState) : NoUpdateAbort (connectScripts env pindex tx st) := by
  refine .ite (.bind (.asBlockFailure ?_) fun _ => .ok _) (.ok _)
  refine .ite (.ok []) (.bind (spentOutputs_noUpdateAbort _ _) fun outs => ?_)
  exact .ite (.ok _) (.bind (runScriptChecks_noUpdateAbort _ _) fun _ => .ok _)

theorem checkTx_noUpdateAbort (env : Env) (pindex : CBlockIndex) (tx : CTransaction)
    (st : ConnectState) : NoUpdateAbort (checkTx env pindex tx st) := by
  refine .bind (.ite (.ok st) (.ite (connectMint_noUpdateAbort env tx st)
    (connectInputs_noUpdateAbort env pindex tx st))) fun st₁ => ?_
  exact .bind (connectSigOps_noUpdateAbort env pindex tx st₁) fun st₂ =>
    .ite (connectScripts_noUpdateAbort env pindex tx st₂) (.ok st₂)

variable {env : Env} {pindex : CBlockIndex} {tx : CTransaction} {st : ConnectState}

theorem checkTx_live {st' : ConnectState}
    (h : checkTx env pindex tx st = .ok st') : ∀ k ∈ txSpends tx, k ∈ st.coins.map := by
  intro k hk
  rw [txSpends] at hk
  split at hk
  · next hord =>
    have hkind := hord
    simp only [isOrdinary, Bool.and_eq_true, Bool.not_eq_true'] at hkind
    cases (checkTx_spec h).2 with
    | coinbase hcb _ _ _ => simp [hkind.1] at hcb
    | mint hmint _ _ _ _ _ _ => simp [hkind.2] at hmint
    | ordinary _ txfee hcheck _ _ _ _ =>
      obtain ⟨txin, htxin, rfl⟩ := List.mem_map.mp hk
      exact (checkTxInputs_spec hkind.1 hcheck).1 txin htxin
  · cases hk

theorem CheckedTx.txSpends_nodup (h : CheckedTx tx) : (txSpends tx).Nodup := by
  rw [txSpends]
  split
  · exact h.inputs_nodup
  · exact List.nodup_nil

theorem connectTx_checked
    {st' : ConnectState} (hchecked : CheckedTx tx) (h : checkTx env pindex tx st = .ok st') :
    (tx.isCoinBase = false ∧ overwrites pindex.nHeight tx st.coins.map →
      connectTx env pindex tx st = .error (.thrown .overwriteUnspentCoin)) ∧
    (¬ (tx.isCoinBase = false ∧ overwrites pindex.nHeight tx st.coins.map) →
      ∃ r, connectTx env pindex tx st = .ok r) := by
  obtain ⟨hthrow, hok⟩ := updateCoins_total pindex.nHeight hchecked.notNull
    hchecked.txSpends_nodup (checkTx_live h)
  rw [← (checkTx_spec h).1] at hthrow hok
  constructor
  · intro hover
    rw [← (checkTx_spec h).1] at hover
    simp [connectTx, h, hthrow hover, bind, Except.bind]
  · intro hno
    rw [← (checkTx_spec h).1] at hno
    obtain ⟨r, hr⟩ := hok hno
    exact ⟨({ st' with coins := r.1 }, r.2), by simp [connectTx, h, hr, bind, Except.bind]⟩

/-- The loop comes to a transaction, other than a coinbase, that passes the checks and creates a coin
    that the transactions before it have left unspent. -/
def ReachesOverwrite (env : Env) (pindex : CBlockIndex) (vtx : List CTransaction)
    (st : ConnectState) : Prop :=
  ∃ pre tx post st₁ vtxundo st₂, vtx = pre ++ tx :: post ∧
    connectTxs env pindex pre st = .ok (st₁, vtxundo) ∧ checkTx env pindex tx st₁ = .ok st₂ ∧
    tx.isCoinBase = false ∧
    overwrites pindex.nHeight tx (bookAfter pindex.nHeight pre st.coins.map)

theorem reachesOverwrite_nil (env : Env) (pindex : CBlockIndex) (st : ConnectState) :
    ¬ ReachesOverwrite env pindex [] st := by
  rintro ⟨pre, tx, post, -, -, -, heq, -⟩
  simp at heq

theorem reachesOverwrite_cons {vtx : List CTransaction} :
    ReachesOverwrite env pindex (tx :: vtx) st ↔
      ((∃ st₂, checkTx env pindex tx st = .ok st₂) ∧ tx.isCoinBase = false ∧
        overwrites pindex.nHeight tx st.coins.map) ∨
      ∃ st₁ txundo, connectTx env pindex tx st = .ok (st₁, txundo) ∧
        ReachesOverwrite env pindex vtx st₁ := by
  constructor
  · rintro ⟨pre, t, post, st₁, vtxundo, st₂, heq, hpre, hcheck, hcb, hover⟩
    cases pre with
    | nil =>
      cases heq
      cases hpre
      exact Or.inl ⟨⟨st₂, hcheck⟩, hcb, hover⟩
    | cons t' pre =>
      cases heq
      rw [connectTxs] at hpre
      obtain ⟨⟨stm, txundo⟩, hd, hpre⟩ := bind_eq_ok.mp hpre
      obtain ⟨⟨stl, rest⟩, htl, hret⟩ := bind_eq_ok.mp hpre
      cases hret
      rw [bookAfter_cons, ← (connectTx_spec hd).update.book] at hover
      exact Or.inr ⟨stm, txundo, hd, pre, t, post, st₁, rest, st₂, rfl, htl, hcheck, hcb, hover⟩
  · rintro (⟨⟨st₂, hcheck⟩, hcb, hover⟩ | ⟨stm, txundo, hd, pre, t, post, st₁, vtxundo, st₂, rfl, hpre,
      hcheck, hcb, hover⟩)
    · exact ⟨[], tx, vtx, st, [], st₂, rfl, rfl, hcheck, hcb, hover⟩
    · refine ⟨tx :: pre, t, post, st₁, txundo :: vtxundo, st₂, rfl, ?_, hcheck, hcb, ?_⟩
      · simp [connectTxs, hd, hpre, bind, Except.bind]
      · rw [bookAfter_cons, ← (connectTx_spec hd).update.book]
        exact hover

theorem connectTxs_updateAbort_iff (vtx : List CTransaction) :
    ∀ st : ConnectState, (∀ tx ∈ vtx, CheckedTx tx) →
      (NoUpdateAbort (connectTxs env pindex vtx st) ↔ ¬ ReachesOverwrite env pindex vtx st) := by
  induction vtx with
  | nil =>
    intro st _
    exact ⟨fun _ => reachesOverwrite_nil env pindex st, fun _ => .ok _⟩
  | cons tx vtx ih =>
    intro st hchecked
    have hrest : ∀ t ∈ vtx, CheckedTx t := fun t ht => hchecked t (List.mem_cons_of_mem _ ht)
    rw [reachesOverwrite_cons]
    cases hcheck : checkTx env pindex tx st with
    | error e =>
      -- a failed check is a verdict, and nothing is reached behind it
      have hconnect : connectTx env pindex tx st = .error e := by
        simp [connectTx, hcheck, bind, Except.bind]
      have hno : NoUpdateAbort (connectTxs env pindex (tx :: vtx) st) := by
        rw [connectTxs, hconnect]
        exact .error (checkTx_noUpdateAbort env pindex tx st e hcheck)
      simp [hno, hconnect]
    | ok st' =>
      obtain ⟨hthrow, hok⟩ := connectTx_checked (hchecked tx List.mem_cons_self) hcheck
      by_cases hover : tx.isCoinBase = false ∧ overwrites pindex.nHeight tx st.coins.map
      · have habort : ¬ NoUpdateAbort (connectTxs env pindex (tx :: vtx) st) := by
          intro hno
          have := hno (.thrown .overwriteUnspentCoin) (by
            simp [connectTxs, hthrow hover, bind, Except.bind])
          cases this
        exact ⟨fun h => absurd h habort, fun h => absurd (Or.inl ⟨⟨st', rfl⟩, hover⟩) h⟩
      · obtain ⟨⟨st₁, txundo⟩, hconnect⟩ := hok hover
        have hstep : NoUpdateAbort (connectTxs env pindex (tx :: vtx) st) ↔
            NoUpdateAbort (connectTxs env pindex vtx st₁) := by
          rw [connectTxs, hconnect]
          change NoUpdateAbort (connectTxs env pindex vtx st₁ >>= _) ↔ _
          exact NoUpdateAbort.bind_iff fun _ _ => .ok _
        rw [hstep, ih st₁ hrest]
        simp [hover, hconnect]

/-- `ConnectBlock` comes to its loop. -/
def ReachesLoop (env : Env) (block : CBlock) (pindex : CBlockIndex) (view : CCoinsView) : Prop :=
  pindex.getBlockHash = block.getHash ∧ isGenesis env block = false ∧
    ∃ prev, pindex.pprev = some prev ∧ prev.getBlockHash = view.hashBlock ∧
      (enforceBIP30 env.params pindex prev && block.vtx.any (haveAnyOutput view.coins)) = false

theorem connectVtx_noUpdateAbort_iff (env : Env) (pindex : CBlockIndex) (vtx : List CTransaction)
    (coins : Coins) : NoUpdateAbort (connectVtx env pindex vtx coins) ↔
      NoUpdateAbort (connectTxs env pindex vtx (.init coins)) := by
  cases vtx with
  | nil => exact ⟨fun _ => .ok _, fun _ => .ok _⟩
  | cons tx vtx =>
    rw [connectVtx, connectTxs]
    cases connectTx env pindex tx (.init coins) with
    | error e => exact ⟨fun h => .error (h e rfl), fun h => .error (h e rfl)⟩
    | ok r =>
      change NoUpdateAbort (connectTxs env pindex vtx r.1) ↔
        NoUpdateAbort (connectTxs env pindex vtx r.1 >>= _)
      exact (NoUpdateAbort.bind_iff fun _ _ => .ok _).symm

theorem checkReward_noUpdateAbort (env : Env) (pindex : CBlockIndex) (vtx : List CTransaction)
    (st : ConnectState) : NoUpdateAbort (checkReward env pindex vtx st) := by
  refine .bind ?_ fun _ => .bind (.rejectBlockIf _ _ _) fun _ => .rejectBlockIf _ _ _
  cases vtx with
  | nil => exact .ok 0
  | cons tx vtx => exact getValueOutLoop_noUpdateAbort tx.vout 0

theorem connectBlockBody_noUpdateAbort_iff {block : CBlock} {prev : CBlockIndex}
    {coins : Coins}
    (hbip30 : (enforceBIP30 env.params pindex prev && block.vtx.any (haveAnyOutput coins)) = false) :
    NoUpdateAbort (connectBlockBody env block pindex prev coins) ↔
      NoUpdateAbort (connectVtx env pindex block.vtx coins) := by
  rw [connectBlockBody, hbip30]
  change NoUpdateAbort (connectVtx env pindex block.vtx coins >>= _) ↔ _
  exact NoUpdateAbort.bind_iff fun r _ =>
    .bind (checkReward_noUpdateAbort env pindex block.vtx r.1) fun _ => .ok _

theorem connectBlock_noUpdateAbort_loop {block : CBlock}
    {view : CCoinsView} {fJustCheck : Bool} (hcheck : recheckBlock env block fJustCheck = .ok ()) :
    NoUpdateAbort (connectBlock env block pindex view fJustCheck) ↔
      (ReachesLoop env block pindex view →
        NoUpdateAbort (connectVtx env pindex block.vtx view.coins)) := by
  constructor
  · rintro h ⟨hindex, hgen, prev, hprev, hbest, hbip30⟩
    rw [isGenesis] at hgen
    simp only [connectBlock, hindex, beq_self_eq_true, assertThat, if_true, hcheck, hprev,
      Option.map_some, Option.getD_some, hbest, hgen, Bool.false_eq_true, if_false] at h
    refine (connectBlockBody_noUpdateAbort_iff hbip30).mp ?_
    exact (NoUpdateAbort.bind_iff fun r _ => .ite (.ok _) (.ok _)).mp h
  · intro h
    refine (NoUpdateAbort.bind_iff fun _ hindex => ?_).mpr (.ite (.ok ()) (.error rfl))
    refine (NoUpdateAbort.bind_iff fun _ _ => ?_).mpr (by rw [hcheck]; exact .ok ())
    refine (NoUpdateAbort.bind_iff fun _ hbest => ?_).mpr (.ite (.ok ()) (.error rfl))
    split
    · exact .ok _
    · next hgen =>
      split
      · exact .error rfl
      · next prev hprev =>
        refine (NoUpdateAbort.bind_iff fun r _ => .ite (.ok _) (.ok _)).mpr ?_
        cases hbip30 : enforceBIP30 env.params pindex prev && block.vtx.any (haveAnyOutput view.coins)
        with
        | true =>
          rw [connectBlockBody, hbip30]
          exact .error rfl
        | false =>
          refine (connectBlockBody_noUpdateAbort_iff hbip30).mpr (h ⟨?_, ?_, prev, hprev, ?_, hbip30⟩)
          · simpa using hindex
          · simpa [isGenesis] using hgen
          · simpa [hprev] using hbest

/-- A coin of the loop is one of the view or was created earlier in the block. -/
theorem mem_bookAfter {k : COutPoint} (nHeight : Nat) (pre : List CTransaction) :
    ∀ book : Ledger.Book COutPoint Coin, k ∈ bookAfter nHeight pre book →
      k ∈ book ∨ ∃ t ∈ pre, k ∈ (txCreates t nHeight).map Prod.fst := by
  induction pre with
  | nil => exact fun _ hk => .inl hk
  | cons t pre ih =>
    intro book hk
    rcases ih ((txMove nHeight t).apply book) hk with hk | ⟨t', ht', hk⟩
    · rw [Ledger.Move.apply, Ledger.mem_createAll, Ledger.mem_spendAll] at hk
      rcases hk with ⟨hk, -⟩ | hk
      · exact .inl hk
      · exact .inr ⟨t, List.mem_cons_self, hk⟩
    · exact .inr ⟨t', List.mem_cons_of_mem _ ht', hk⟩

/-- A transaction of the block repeats an earlier one of it, as only a mint transaction can, or the block
    is exempt from BIP30 and has a transaction with an unspent output. -/
def Repeats (env : Env) (block : CBlock) (pindex : CBlockIndex) (view : CCoinsView) : Prop :=
  (∃ pre tx post, block.vtx = pre ++ tx :: post ∧ tx.isCoinBase = false ∧
      ∃ t ∈ pre, t.getHash = tx.getHash) ∨
    (∃ prev, pindex.pprev = some prev ∧ enforceBIP30 env.params pindex prev = false ∧
      ∃ tx ∈ block.vtx, tx.isCoinBase = false ∧ haveAnyOutput view.coins tx = true)

theorem ReachesOverwrite.repeats {env : Env} {block : CBlock} {pindex : CBlockIndex}
    {view : CCoinsView} (hloop : ReachesLoop env block pindex view)
    (h : ReachesOverwrite env pindex block.vtx (.init view.coins)) :
    Repeats env block pindex view := by
  obtain ⟨-, -, prev, hprev, -, hbip30⟩ := hloop
  obtain ⟨pre, tx, post, -, -, -, heq, -, -, hcb, k, hk, hmem⟩ := h
  obtain ⟨hbook, hspent⟩ := (Ledger.mem_spendAll _ _ _).mp hmem
  rcases mem_bookAfter pindex.nHeight pre _ hbook with hview | ⟨t, ht, hcreated⟩
  · have htx : tx ∈ block.vtx := by
      rw [heq]
      exact List.mem_append_right _ List.mem_cons_self
    have hany : haveAnyOutput view.coins tx = true := by
      by_contra hno
      exact not_overwrites_of_haveAnyOutput pindex.nHeight (by simpa using hno)
        ⟨k, hk, (Ledger.mem_spendAll _ _ _).mpr ⟨hview, hspent⟩⟩
    refine .inr ⟨prev, hprev, ?_, tx, htx, hcb, hany⟩
    by_contra henforced
    rw [Bool.and_eq_false_iff] at hbip30
    rcases hbip30 with hoff | hnone
    · exact henforced hoff
    · exact List.any_eq_false.mp hnone tx htx hany
  · obtain ⟨e, he, rfl⟩ := List.mem_map.mp hk
    obtain ⟨e', he', hsame⟩ := List.mem_map.mp hcreated
    obtain ⟨hhash, -⟩ := createsFrom_key tx pindex.nHeight tx.vout 0 e he
    obtain ⟨hhash', -⟩ := createsFrom_key t pindex.nHeight t.vout 0 e' he'
    exact .inl ⟨pre, tx, post, heq, hcb, t, ht, by rw [← hhash', ← hhash, hsame]⟩

def coinbaseBlock : CBlock :=
  sampleBlock 0x10 mainParams.hashGenesisBlock [sampleCoinbase 0x30 1000000]

def twiceMintBlock : CBlock :=
  sampleBlock 0x10 mainParams.hashGenesisBlock
    [sampleCoinbase 0x30 1000000, sampleMint 0x20 [] [sampleOut 100000, sampleFeeOut 100],
      sampleMint 0x20 [] [sampleOut 100000, sampleFeeOut 100]]

end GarudaChain
