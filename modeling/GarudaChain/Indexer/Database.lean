import GarudaChain.Api.AdminSig
import GarudaChain.Lib.Store
import Mathlib.Data.Rat.Defs

/-!
# The tables of the indexer

`src/indexer`: the tables of `migrations/001_initial.sql` that `cmd/main.go` writes and the statements
with which it writes them.
-/

namespace GarudaChain.Indexer

open Api (GoString goString)

structure VIN where
  txid : GoString
  vout : Nat
  deriving DecidableEq

/-- `VOUT`. The node prints `value` as a decimal number with eight places; here it is in satoshi. -/
structure VOUT where
  value : Int
  n : Nat
  hex : GoString
  address : GoString
  type : GoString
  deriving DecidableEq

structure TX where
  txid : GoString
  hex : GoString
  size : Int
  vin : List VIN
  vout : List VOUT
  deriving DecidableEq

structure Block where
  hash : GoString
  previousHash : GoString
  time : Int
  size : Int
  tx : List TX
  deriving DecidableEq

/-- The multiple of `ulp` nearest to a number, the even one of two that are equally near. -/
def roundTo (ulp q : Rat) : Rat :=
  let n := (q / ulp).floor
  let rest := q / ulp - n
  if rest < 1 / 2 ∨ (rest = 1 / 2 ∧ n % 2 = 0) then ulp * n else ulp * (n + 1)

def pow2 (e : Int) : Rat := if 0 ≤ e then 2 ^ e.toNat else 1 / 2 ^ (-e).toNat

def exponent (q : Rat) : Int :=
  let e := (q.num.natAbs.log2 : Int) - q.den.log2
  if pow2 e ≤ (if q < 0 then -q else q) then e else e - 1

def float64 (q : Rat) : Rat := if q = 0 then 0 else roundTo (pow2 (exponent q - 52)) q

/-- `int64(vout.Value * 1e8)` -/
def VOUT.valueSat (vout : VOUT) : Int :=
  let product := float64 (float64 (vout.value / 100000000) * 100000000)
  product.num.tdiv product.den

-- 0.29 is read as a `float64` below it
example : VOUT.valueSat ⟨5000000000, 0, [], [], []⟩ = 5000000000 ∧
    VOUT.valueSat ⟨29000000, 0, [], [], []⟩ = 28999999 := by decide +kernel

structure BlockRow where
  hash : GoString
  prevHash : GoString
  timestamp : Int
  txCount : Nat
  sizeBytes : Int
  deriving DecidableEq

inductive TxType
  | transfer
  | order
  | swap
  | mint
  deriving DecidableEq, Repr

structure TransactionRow where
  blockHeight : Nat
  blockHash : GoString
  rawHex : GoString
  feeSat : Int
  sizeBytes : Int
  timestamp : Int
  txType : TxType
  deriving DecidableEq

structure AddressRow where
  balanceSat : Int
  txCount : Nat
  firstSeen : Int
  lastSeen : Int
  deriving DecidableEq

/-- The key of a row of `utxos`: a `txid` and a `vout`. -/
abbrev Outpoint := GoString × Nat

structure UtxoRow where
  address : GoString
  valueSat : Int
  scriptHex : GoString
  blockHeight : Nat
  spent : Bool
  spentTxid : Option GoString
  deriving DecidableEq

structure Tables where
  blocks : Store Nat BlockRow
  transactions : Store GoString TransactionRow
  addresses : Store GoString AddressRow
  utxos : Store Outpoint UtxoRow
  /-- The value of `last_indexed_height` in `indexer_state`. -/
  lastIndexedHeight : Nat

/-- The tables after the migration. -/
def Tables.empty : Tables := ⟨.empty, .empty, .empty, .empty, 0⟩

namespace Tables

variable (t : Tables)

def balanceSat (address : GoString) : Int :=
  ((t.addresses.read address).map AddressRow.balanceSat).getD 0

def unspentSat (address : GoString) : Int :=
  t.utxos.total fun _ row => if row.address = address ∧ row.spent = false then row.valueSat else 0

end Tables

inductive Statement
  | insertBlock (height : Nat) (row : BlockRow)
  | insertTransaction (txid : GoString) (row : TransactionRow)
  | spendUtxo (spentTxid : GoString) (outpoint : Outpoint)
  | upsertAddress (address : GoString) (valueSat : Int) (ts : Int)
  | insertUtxo (outpoint : Outpoint) (row : UtxoRow)
  | deductSpent (outpoint : Outpoint)
  | setLastIndexedHeight (height : Nat)
  deriving DecidableEq

/-- Rows have no order. -/
def anyOrder {κ : Type} (_ _ : κ) : Bool := true

/-- The output that a statement marks as spent. -/
def UtxoRow.spentBy (row : UtxoRow) (spentTxid : GoString) : UtxoRow :=
  { row with spent := true, spentTxid := some spentTxid }

/-- `ON CONFLICT (address) DO UPDATE` -/
def AddressRow.upsert (row : Option AddressRow) (valueSat ts : Int) : AddressRow :=
  match row with
  | none => ⟨valueSat, 1, ts, ts⟩
  | some row => { row with
      balanceSat := row.balanceSat + valueSat, txCount := row.txCount + 1, lastSeen := ts }

def Statement.exec (t : Tables) : Statement → Option Tables
  | .insertBlock height row =>
    if (t.blocks.read height).isNone ∧ t.blocks.entries.any fun e => e.2.hash == row.hash then none
    else some { t with blocks := t.blocks.insertNew anyOrder height row }
  | .insertTransaction txid row =>
    some { t with transactions := t.transactions.insertNew anyOrder txid row }
  | .spendUtxo spentTxid outpoint =>
    some { t with utxos := t.utxos.modify anyOrder outpoint fun row => row.spentBy spentTxid }
  | .upsertAddress address valueSat ts =>
    let row := AddressRow.upsert (t.addresses.read address) valueSat ts
    some { t with addresses := t.addresses.write anyOrder address row }
  | .insertUtxo outpoint row => some { t with utxos := t.utxos.insertNew anyOrder outpoint row }
  | .deductSpent outpoint =>
    match t.utxos.read outpoint with
    | none => some t
    | some row =>
      if row.address = [] then some t
      else some { t with addresses := t.addresses.modify anyOrder row.address fun owner =>
        { owner with balanceSat := owner.balanceSat - row.valueSat } }
  | .setLastIndexedHeight height => some { t with lastIndexedHeight := height }

end GarudaChain.Indexer
