import GarudaChain.Lib.Ledger
import GarudaChain.Node.Script

/-!
# The set of unspent coins

`coins.h` and `coins.cpp`: a coin, and the operations of a coins view.
-/

namespace GarudaChain

structure Coin where
  out : CTxOut
  fCoinBase : Bool
  nHeight : Nat
  deriving DecidableEq, Repr

def Coin.isSpent (c : Coin) : Bool := c.out.isNull

def Coin.Stored (c : Coin) : Prop := c.isSpent = false ∧ isUnspendable c.out.scriptPubKey = false

/-- The unspent coins of a view, by outpoint. -/
structure Coins where
  map : Ledger.Book COutPoint Coin
  stored : ∀ o c, map.lookup o = some c → c.Stored

namespace Coins

theorem ext_map {s t : Coins} (h : s.map = t.map) : s = t := by
  cases s; cases t; simp_all

instance : DecidableEq Coins := fun s t =>
  decidable_of_iff (s.map = t.map) ⟨ext_map, fun h => h ▸ rfl⟩

/-- No coins at all. -/
def empty : Coins := ⟨∅, by simp⟩

def getCoin (coins : Coins) (outpoint : COutPoint) : Option Coin := coins.map.lookup outpoint

def haveCoin (coins : Coins) (outpoint : COutPoint) : Bool := (coins.getCoin outpoint).isSome

/-- The coin without an entry that `SpendCoin` leaves. -/
def erase (coins : Coins) (outpoint : COutPoint) : Coins where
  map := coins.map.erase outpoint
  stored o c h := by
    by_cases ho : o = outpoint
    · subst ho; simp at h
    · rw [Finmap.lookup_erase_ne ho] at h
      exact coins.stored o c h

/-- The view with a stored coin put under an outpoint. -/
def insert (coins : Coins) (outpoint : COutPoint) (coin : Coin) (hcoin : coin.Stored) : Coins where
  map := coins.map.insert outpoint coin
  stored o c h := by
    by_cases ho : o = outpoint
    · subst ho
      rw [Finmap.lookup_insert] at h
      exact Option.some.inj h ▸ hcoin
    · rw [Finmap.lookup_insert_of_ne _ ho] at h
      exact coins.stored o c h

/-- `CCoinsViewCache::SpendCoin`: the coin that was moved out and the view without it, `none` where
    it returns false. -/
def spendCoin (coins : Coins) (outpoint : COutPoint) : Option (Coin × Coins) :=
  match coins.getCoin outpoint with
  | none => none
  | some coin => some (coin, coins.erase outpoint)

def addCoin (coins : Coins) (outpoint : COutPoint) (coin : Coin) (possibleOverwrite : Bool) :
    Outcome Coins :=
  if hs : coin.isSpent = true then .error (.assertFailed .addCoinNotSpent)
  else if hu : isUnspendable coin.out.scriptPubKey = true then .ok coins
  else if !possibleOverwrite && coins.haveCoin outpoint then .error (.thrown .overwriteUnspentCoin)
  else .ok (coins.insert outpoint coin ⟨by simpa using hs, by simpa using hu⟩)

/-- The loop of `AddCoins` over the outputs from the `i`-th on. -/
def addCoinsFrom (tx : CTransaction) (nHeight : Nat) (check : Bool) :
    Nat → List CTxOut → Coins → Outcome Coins
  | _, [], coins => .ok coins
  | i, out :: vout, coins => do
    let outpoint : COutPoint := ⟨tx.getHash, i⟩
    let overwrite := if check then coins.haveCoin outpoint else tx.isCoinBase
    let coins ← coins.addCoin outpoint ⟨out, tx.isCoinBase, nHeight⟩ overwrite
    addCoinsFrom tx nHeight check (i + 1) vout coins

def addCoins (coins : Coins) (tx : CTransaction) (nHeight : Nat) (check : Bool) : Outcome Coins :=
  addCoinsFrom tx nHeight check 0 tx.vout coins

def haveInputs (coins : Coins) (tx : CTransaction) : Bool :=
  tx.isCoinBase || tx.vin.all fun txin => coins.haveCoin txin.prevout

/-- `MAX_OUTPUTS_PER_BLOCK`: the block weight limit over the weight of an empty output. -/
def maxOutputsPerBlock : Nat := 4000000 / 36

/-- The loop of `AccessByTxid` over the outputs from the `n`-th on. -/
def accessByTxidFrom (coins : Coins) (txid : Uint256) : Nat → Nat → Option Coin
  | 0, _ => none
  | fuel + 1, n =>
    match coins.getCoin ⟨txid, n⟩ with
    | some alternate => some alternate
    | none => accessByTxidFrom coins txid fuel (n + 1)

/-- `AccessByTxid`: the first unspent output of the transaction. -/
def accessByTxid (coins : Coins) (txid : Uint256) : Option Coin :=
  accessByTxidFrom coins txid maxOutputsPerBlock 0

end Coins

/-- `CCoinsView`: the unspent coins, and the hash of the block they belong to. -/
structure CCoinsView where
  coins : Coins
  hashBlock : Uint256
  deriving DecidableEq

end GarudaChain
