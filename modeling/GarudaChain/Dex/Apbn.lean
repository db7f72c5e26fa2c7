import GarudaChain.Dex.MarketSwap
import GarudaChain.Lib.Double

/-!
# The treasury

`AutoForwardToMarketMakers` of `apbn/apbn.cpp`: what lies on the address of the treasury is to be shared
out among the market makers.
-/

namespace GarudaChain.Apbn

/-- `MIN_FORWARD_AMOUNT`. -/
def minForwardAmount : Int := 100

def feeReserve : Int := 200

/-- `(int64_t)(amount * 100000000.0)` for an output that `listunspent` shows with this many satoshi. -/
def utxoSat (amount : Nat) : Int := Double.trunc (Double.mul (Double.ofRatio amount (10 ^ 8)) (10 ^ 8))

def totalSat (utxos : List Nat) : Int :=
  utxos.foldl (fun total amount => wrap64 (total + utxoSat amount)) 0

/-- `ListMarketMakers`: the first market makers in the order of their assets. -/
def listMarketMakers (db : DexDB) (maxCount : Nat) : List MarketMaker :=
  (db.marketMakers.entries.map Prod.snd).take maxCount

def activeCount (mms : List MarketMaker) : Nat := mms.countP MarketMaker.active

/-- One round of the loop that fills `mm_amounts`. -/
def addShare (perMm : Int) (amounts : Store Bytes Int) (mm : MarketMaker) : Store Bytes Int :=
  if mm.active then
    amounts.write (fun a b => decide (a < b)) mm.mmAddress
      (wrap64 ((amounts.read mm.mmAddress).getD 0 + perMm))
  else amounts

/-- `mm_amounts`. -/
def mmAmounts (perMm : Int) (mms : List MarketMaker) : Store Bytes Int :=
  mms.foldl (addShare perMm) .empty

/-- The loop over `mm_amounts`: the address is the last one, the amount is the sum. -/
def aggregate (amounts : Store Bytes Int) : Bytes × Int :=
  amounts.entries.foldl (fun sofar e => (e.1, wrap64 (sofar.2 + e.2))) ([], 0)

/-- The satoshi that the wallet reads in the text of `snprintf("%.8f", (double)total_amount /
    100000000.0)`. -/
def amountSat (totalAmount : Int) : Int :=
  Double.fixed8 (Double.div (Double.ofNat totalAmount.toNat) (10 ^ 8))

/-- The value `AutoForwardToMarketMakers` returns, and the payments that were made. -/
def autoForwardToMarketMakers (listunspent : Option (List Nat)) (sendtoaddress : SendToAddress)
    (db : DexDB) : Int × List (Bytes × Int) :=
  let utxos := listunspent.getD []
  if utxos.isEmpty then (0, [])
  else if totalSat utxos < minForwardAmount then (0, [])
  else
    let mms := listMarketMakers db 200
    if mms.isEmpty then (0, [])
    else if activeCount mms = 0 then (0, [])
    else
      let distributable := totalSat utxos - feeReserve
      if distributable ≤ 0 then (0, [])
      else
        let perMm := distributable.tdiv (activeCount mms)
        if perMm < 1 then (0, [])
        else
          let (mmAddr, totalAmount) := aggregate (mmAmounts perMm mms)
          match sendtoaddress mmAddr (amountSat totalAmount) with
          | .error _ => (0, [])
          | .ok _ => (totalAmount, [(mmAddr, amountSat totalAmount)])

/-- The number of active pairs of an address. -/
def pairsOf (mms : List MarketMaker) (address : Bytes) : Nat :=
  mms.countP fun mm => mm.active && decide (mm.mmAddress = address)

/-- What an address was paid. -/
def paidTo (payments : List (Bytes × Int)) (address : Bytes) : Int :=
  (payments.map fun p => if p.1 = address then p.2 else 0).sum

/-- The share of one active pair. -/
def shareOf (mms : List MarketMaker) (total : Int) : Int := (total - feeReserve) / activeCount mms

/-- Every active market maker is paid one share for each of its pairs, and the reserve is left. -/
def SharedOut (mms : List MarketMaker) (total : Int) (payments : List (Bytes × Int)) : Prop :=
  (∀ mm ∈ mms, mm.active = true →
    paidTo payments mm.mmAddress = shareOf mms total * pairsOf mms mm.mmAddress) ∧
  (payments.map Prod.snd).sum ≤ total - feeReserve

end GarudaChain.Apbn
