import GarudaChain.Node.Proofs.CoinsProofs

/-!
# What the checks on single transactions establish
-/

namespace GarudaChain

open Int64Lib

theorem wrap64_add_of_moneyRange {a b : Int} (ha : moneyRange a = true) (hb : moneyRange b = true)
    (hsum : moneyRange (wrap64 (a + b)) = true) : wrap64 (a + b) = a + b := by
  rw [moneyRange_iff] at ha hb hsum
  rcases lt_or_ge (a + b) 9223372036854775808 with hlt | hge
  · exact wrap64_of_range (by omega) hlt
  · have := wrap64_neg hge (by omega)
    omega

@[simp] theorem asBlockFailure_eq_ok {α : Type} {r : Outcome α} {a : α} :
    asBlockFailure r = .ok a ↔ r = .ok a := by
  cases r with
  | ok b => simp [asBlockFailure]
  | error e => cases e <;> simp [asBlockFailure]

variable {tx : CTransaction}

theorem isCoinBase_of_isCBDCMintTx (h : isCBDCMintTx tx = true) :
    tx.isCoinBase = false := by
  rw [isCBDCMintTx, Bool.and_eq_true] at h
  obtain ⟨-, hvin⟩ := h
  rw [CTransaction.isCoinBase]
  split at hvin
  · cases hvin
  · next txin rest heq =>
    rw [heq]
    cases rest with
    | cons t ts => rfl
    | nil =>
      have hhash : txin.prevout.hash = cbdcMintMarker := by simpa using hvin
      simp [COutPoint.isNull, hhash, cbdcMintMarker]

theorem isCBDCMintTx_of_isCoinBase (h : tx.isCoinBase = true) :
    isCBDCMintTx tx = false := by
  cases hmint : isCBDCMintTx tx with
  | false => rfl
  | true => rw [isCoinBase_of_isCBDCMintTx hmint] at h; cases h

theorem isOrdinary_eq_false_of_coinBase (h : tx.isCoinBase = true) :
    isOrdinary tx = false := by
  simp [isOrdinary, h]

theorem isOrdinary_eq_false_of_mint (h : isCBDCMintTx tx = true) :
    isOrdinary tx = false := by
  simp [isOrdinary, h]

theorem checkOutputs_spec (vout : List CTxOut) : ∀ (acc : Int) (u : Unit),
    moneyRange acc = true → checkOutputs vout acc = .ok u →
      (∀ out ∈ vout, moneyRange out.nValue = true) ∧
      moneyRange (acc + outputsValue vout) = true := by
  induction vout with
  | nil => intro acc u hacc _; simpa using hacc
  | cons out vout ih =>
    intro acc u hacc h
    rw [checkOutputs] at h
    obtain ⟨_, hneg, h⟩ := bind_eq_ok.mp h
    obtain ⟨_, hlarge, h⟩ := bind_eq_ok.mp h
    obtain ⟨_, htotal, h⟩ := bind_eq_ok.mp h
    have hout : moneyRange out.nValue = true := by
      simp only [rejectTxIf_eq_ok, decide_eq_false_iff_not, maxMoney_eq] at hneg hlarge
      rw [moneyRange_iff]
      omega
    have hsum : moneyRange (wrap64 (acc + out.nValue)) = true := by simpa using htotal
    have hexact := wrap64_add_of_moneyRange hacc hout hsum
    rw [hexact] at h hsum
    obtain ⟨hvout, htot⟩ := ih _ u hsum h
    refine ⟨?_, by rw [outputsValue_cons, ← Int.add_assoc]; exact htot⟩
    intro o ho
    rcases List.mem_cons.mp ho with rfl | ho
    · exact hout
    · exact hvout o ho

/-- What `CheckTransaction` establishes. -/
structure CheckedTx (tx : CTransaction) : Prop where
  vin_ne_nil : tx.vin ≠ []
  vout_ne_nil : tx.vout ≠ []
  amounts : ∀ out ∈ tx.vout, moneyRange out.nValue = true
  total : moneyRange (outputsValue tx.vout) = true
  inputs_nodup : (tx.vin.map CTxIn.prevout).Nodup

theorem checkTransaction_spec {u : Unit} (h : checkTransaction tx = .ok u) :
    CheckedTx tx := by
  rw [checkTransaction] at h
  obtain ⟨_, hvin, h⟩ := bind_eq_ok.mp h
  obtain ⟨_, hvout, h⟩ := bind_eq_ok.mp h
  obtain ⟨-, -, h⟩ := bind_eq_ok.mp h
  obtain ⟨_, houts, h⟩ := bind_eq_ok.mp h
  obtain ⟨_, hdup, -⟩ := bind_eq_ok.mp h
  obtain ⟨hamounts, htotal⟩ := checkOutputs_spec tx.vout 0 _ (by decide) houts
  exact ⟨by simpa using hvin, by simpa using hvout, hamounts, by simpa using htotal,
    by simpa using hdup⟩

theorem isNull_of_moneyRange {out : CTxOut} (h : moneyRange out.nValue = true) :
    out.isNull = false := by
  rw [moneyRange_iff] at h
  simp only [CTxOut.isNull, beq_eq_false_iff_ne, ne_eq]
  omega

theorem CheckedTx.notNull (h : CheckedTx tx) :
    ∀ out ∈ tx.vout, out.isNull = false := fun out hout => isNull_of_moneyRange (h.amounts out hout)

theorem getValueOutLoop_spec (vout : List CTxOut) : ∀ acc v : Int, moneyRange acc = true →
    getValueOutLoop vout acc = .ok v → v = acc + outputsValue vout ∧ moneyRange v = true := by
  induction vout with
  | nil =>
    intro acc v hacc h
    cases h
    simpa using hacc
  | cons out vout ih =>
    intro acc v hacc h
    rw [getValueOutLoop] at h
    split at h
    · cases h
    · next hcond =>
      simp only [Bool.or_eq_true, Bool.not_eq_true', not_or, Bool.not_eq_false] at hcond
      have hexact := wrap64_add_of_moneyRange hacc hcond.1 hcond.2
      obtain ⟨hv, hrange⟩ := ih _ v hcond.2 h
      rw [hexact] at hv
      exact ⟨by rw [hv, outputsValue_cons]; omega, hrange⟩

theorem getValueOut_spec {v : Int} (h : getValueOut tx = .ok v) :
    v = outputsValue tx.vout ∧ moneyRange v = true := by
  simpa using getValueOutLoop_spec tx.vout 0 v (by decide) h

/-- What the coins under a list of outpoints are worth. -/
def valueOf (book : Book) (ks : List COutPoint) : Int :=
  (ks.map (Ledger.valueAt coinValue book)).sum

theorem checkTxInputsLoop_spec (coins : Coins) (nSpendHeight : Nat) (vin : List CTxIn) :
    ∀ acc v : Int, moneyRange acc = true → checkTxInputsLoop coins nSpendHeight vin acc = .ok v →
      v = acc + valueOf coins.map (vin.map CTxIn.prevout) ∧ moneyRange v = true := by
  induction vin with
  | nil =>
    intro acc v hacc h
    cases h
    simpa [valueOf] using hacc
  | cons txin vin ih =>
    intro acc v hacc h
    rw [checkTxInputsLoop] at h
    split at h
    · cases h
    · next c hc =>
      obtain ⟨-, -, h⟩ := bind_eq_ok.mp h
      obtain ⟨_, hrange, h⟩ := bind_eq_ok.mp h
      simp only [rejectTxIf_eq_ok, Bool.or_eq_false_iff, Bool.not_eq_false'] at hrange
      have hexact := wrap64_add_of_moneyRange hacc hrange.1 hrange.2
      obtain ⟨hv, hvr⟩ := ih _ v hrange.2 h
      refine ⟨?_, hvr⟩
      rw [hv, hexact]
      have hvalue : Ledger.valueAt coinValue coins.map txin.prevout = c.out.nValue := by
        rw [Ledger.valueAt, show coins.map.lookup txin.prevout = some c from hc]
        rfl
      simp only [valueOf, List.map_cons, List.sum_cons, hvalue]
      omega

theorem checkTxInputs_spec {coins : Coins} {nSpendHeight : Nat}
    {txfee : Int} (hcb : tx.isCoinBase = false)
    (h : checkTxInputs tx coins nSpendHeight = .ok txfee) :
    (∀ txin ∈ tx.vin, txin.prevout ∈ coins.map) ∧ moneyRange txfee = true ∧
      txfee = valueOf coins.map (tx.vin.map CTxIn.prevout) - outputsValue tx.vout := by
  rw [checkTxInputs] at h
  obtain ⟨_, hhave, h⟩ := bind_eq_ok.mp h
  obtain ⟨nValueIn, hloop, h⟩ := bind_eq_ok.mp h
  obtain ⟨valueOut, hout, h⟩ := bind_eq_ok.mp h
  obtain ⟨_, hbelow, h⟩ := bind_eq_ok.mp h
  obtain ⟨_, hfee, hret⟩ := bind_eq_ok.mp h
  obtain ⟨hin, hir⟩ := checkTxInputsLoop_spec coins nSpendHeight tx.vin 0 nValueIn (by decide) hloop
  obtain ⟨hvalue, hvr⟩ := getValueOut_spec hout
  refine ⟨?_, ?_, ?_⟩
  · simp only [rejectTxIf_eq_ok, Bool.not_eq_false', Coins.haveInputs, hcb, Bool.false_or,
      List.all_eq_true, Coins.haveCoin_iff] at hhave
    exact hhave
  · cases hret
    simpa using hfee
  · cases hret
    -- the difference of two sums in range is in range, so it is stored exactly
    have hdiff : wrap64 (nValueIn - valueOut) = nValueIn - valueOut := by
      have hle : valueOut ≤ nValueIn := by simpa using hbelow
      rw [moneyRange_iff] at hvr hir
      exact wrap64_of_range (by omega) (by omega)
    rw [hdiff, hin, hvalue]
    omega

end GarudaChain
