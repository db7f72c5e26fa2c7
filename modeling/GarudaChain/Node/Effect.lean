import GarudaChain.Node.Validation

/-!
# What a block does to the coins

The abstract view of a block: every transaction is a move on the ledger of unspent coins, and a block is
the composition of its moves.
-/

namespace GarudaChain

/-- The ledger of unspent coins. -/
abbrev Book := Ledger.Book COutPoint Coin

/-- The spendable outputs among `vout`, counted from the `i`-th on, with the coins they become. -/
def createsFrom (tx : CTransaction) (nHeight : Nat) : Nat → List CTxOut → List (COutPoint × Coin)
  | _, [] => []
  | i, out :: vout =>
    if isUnspendable out.scriptPubKey then createsFrom tx nHeight (i + 1) vout
    else (⟨tx.getHash, i⟩, ⟨out, tx.isCoinBase, nHeight⟩) :: createsFrom tx nHeight (i + 1) vout

/-- The coins a transaction creates. -/
def txCreates (tx : CTransaction) (nHeight : Nat) : List (COutPoint × Coin) :=
  createsFrom tx nHeight 0 tx.vout

/-- Neither a coinbase nor a mint transaction. -/
def isOrdinary (tx : CTransaction) : Bool := !tx.isCoinBase && !isCBDCMintTx tx

def txSpends (tx : CTransaction) : List COutPoint :=
  if isOrdinary tx then tx.vin.map CTxIn.prevout else []

def txMove (nHeight : Nat) (tx : CTransaction) : Ledger.Move COutPoint Coin :=
  ⟨txSpends tx, txCreates tx nHeight⟩

/-- The value of a coin. -/
def coinValue (c : Coin) : Int := c.out.nValue

/-- The total value of the unspent coins. -/
def coinTotal (coins : Coins) : Int := Ledger.total coinValue coins.map

/-- The exact sum of the amounts of a list of outputs. -/
def outputsValue (vout : List CTxOut) : Int := (vout.map CTxOut.nValue).sum

def spendableValue (vout : List CTxOut) : Int :=
  outputsValue (vout.filter fun out => !isUnspendable out.scriptPubKey)

/-- The ledger after the transactions, in their order. -/
def bookAfter (nHeight : Nat) (vtx : List CTransaction) (book : Book) : Book :=
  vtx.foldl (fun book tx => (txMove nHeight tx).apply book) book

def chainBook (txs : List (Nat × CTransaction)) (book : Book) : Book :=
  txs.foldl (fun book t => (txMove t.1 t.2).apply book) book

def overwrites (nHeight : Nat) (tx : CTransaction) (book : Book) : Prop :=
  ∃ k ∈ (txCreates tx nHeight).map Prod.fst, k ∈ Ledger.spendAll book (txSpends tx)

theorem txMove_apply (nHeight : Nat) (tx : CTransaction) (book : Book) :
    (txMove nHeight tx).apply book =
      Ledger.createAll (Ledger.spendAll book (txSpends tx)) (txCreates tx nHeight) := rfl

@[simp] theorem bookAfter_cons (nHeight : Nat) (tx : CTransaction) (vtx : List CTransaction)
    (book : Book) : bookAfter nHeight (tx :: vtx) book =
      bookAfter nHeight vtx ((txMove nHeight tx).apply book) := rfl

@[simp] theorem outputsValue_nil : outputsValue [] = 0 := rfl

@[simp] theorem outputsValue_cons (out : CTxOut) (vout : List CTxOut) :
    outputsValue (out :: vout) = out.nValue + outputsValue vout := by
  simp [outputsValue]

theorem outputsValue_append (vout vout' : List CTxOut) :
    outputsValue (vout ++ vout') = outputsValue vout + outputsValue vout' := by
  simp [outputsValue]

theorem outputsValue_nonneg {vout : List CTxOut} (h : ∀ out ∈ vout, 0 ≤ out.nValue) :
    0 ≤ outputsValue vout := by
  refine List.sum_nonneg fun x hx => ?_
  obtain ⟨out, hout, rfl⟩ := List.mem_map.mp hx
  exact h out hout

theorem createsFrom_key (tx : CTransaction) (nHeight : Nat) (vout : List CTxOut) :
    ∀ i e, e ∈ createsFrom tx nHeight i vout →
      e.1.hash = tx.getHash ∧ i ≤ e.1.n ∧ e.1.n < i + vout.length := by
  induction vout with
  | nil => intro i e he; cases he
  | cons out vout ih =>
    intro i e he
    rw [createsFrom] at he
    rw [List.length_cons]
    split at he
    · have h := ih (i + 1) e he
      exact ⟨h.1, by omega, by omega⟩
    · rcases List.mem_cons.mp he with rfl | he
      · exact ⟨rfl, le_refl _, by simp⟩
      · have h := ih (i + 1) e he
        exact ⟨h.1, by omega, by omega⟩

theorem createsFrom_nodup (tx : CTransaction) (nHeight : Nat) (vout : List CTxOut) :
    ∀ i, ((createsFrom tx nHeight i vout).map Prod.fst).Nodup := by
  induction vout with
  | nil => intro i; simp [createsFrom]
  | cons out vout ih =>
    intro i
    rw [createsFrom]
    split
    · exact ih (i + 1)
    · rw [List.map_cons, List.nodup_cons]
      refine ⟨fun hmem => ?_, ih (i + 1)⟩
      obtain ⟨e, he, heq⟩ := List.mem_map.mp hmem
      have h := (createsFrom_key tx nHeight vout (i + 1) e he).2.1
      rw [heq] at h
      exact absurd h (by simp)

theorem txCreates_nodup (tx : CTransaction) (nHeight : Nat) :
    ((txCreates tx nHeight).map Prod.fst).Nodup := createsFrom_nodup tx nHeight tx.vout 0

theorem createsFrom_coin (tx : CTransaction) (nHeight : Nat) (vout : List CTxOut) :
    ∀ i e, e ∈ createsFrom tx nHeight i vout →
      e.2.nHeight = nHeight ∧ e.2.fCoinBase = tx.isCoinBase ∧ e.2.out ∈ vout := by
  induction vout with
  | nil => intro i e he; cases he
  | cons out vout ih =>
    intro i e he
    rw [createsFrom] at he
    split at he
    · have h := ih (i + 1) e he
      exact ⟨h.1, h.2.1, List.mem_cons_of_mem _ h.2.2⟩
    · rcases List.mem_cons.mp he with rfl | he
      · exact ⟨rfl, rfl, List.mem_cons_self⟩
      · have h := ih (i + 1) e he
        exact ⟨h.1, h.2.1, List.mem_cons_of_mem _ h.2.2⟩

theorem createsFrom_value (tx : CTransaction) (nHeight : Nat) (vout : List CTxOut) :
    ∀ i, ((createsFrom tx nHeight i vout).map fun e => coinValue e.2).sum = spendableValue vout := by
  induction vout with
  | nil => intro i; rfl
  | cons out vout ih =>
    intro i
    rw [createsFrom, spendableValue]
    cases hu : isUnspendable out.scriptPubKey with
    | true =>
      rw [if_pos rfl, List.filter_cons_of_neg (by simp [hu])]
      exact ih (i + 1)
    | false =>
      rw [if_neg (by simp), List.filter_cons_of_pos (by simp [hu]), outputsValue_cons,
        List.map_cons, List.sum_cons, ih (i + 1)]
      rfl

end GarudaChain
