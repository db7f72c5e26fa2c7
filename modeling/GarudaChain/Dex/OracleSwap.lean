import GarudaChain.Dex.Swap

/-!
# Swaps between pegged stablecoins

The RPC `swaporacle` of `rpc/dex.cpp`.
-/

namespace GarudaChain

/-- A JSON parameter that is a number or a string. -/
inductive AmountParam
  | num (value : Int)
  | str (text : List Char)
  deriving DecidableEq

/-- `atoll`: the digits up to the first other character; a value out of range stops at the end. -/
def atoll (text : List Char) : Int :=
  let (negative, cs) := readSign (text.dropWhile isSpace)
  let n := digitsValue (cs.takeWhile Char.isDigit) 0
  max (-9223372036854775808) (min 9223372036854775807 (if negative then -(n : Int) else n))

/-- How `swaporacle` reads its amount. The help of the RPC declares a string, so a number does not pass
    the check of types that is made before the body. -/
def AmountParam.read : AmountParam → RpcResult Int
  | .num _ => .error ⟨.typeError, "Wrong type passed:\n\x7b\n    \"Position 3 (amount)\": \"JSON " ++
      "value of type number is not of expected type string\"\n\x7d"⟩
  | .str text => .ok (atoll text)

/-- What `swaporacle` looks up and computes before it touches a balance. -/
structure OracleQuote where
  fromPegId : Uint256
  toPegId : Uint256
  fromObId : Uint256
  toObId : Uint256
  amount : Int
  grdValue : Int
  toAmount : Int
  fee : Int
  deriving DecidableEq

def findPair (assets : List AssetInfo) (symbol : String) : RpcResult (AssetInfo × Uint256) :=
  match findAsset assets ("p" ++ symbol) "stablecoin_pegged" with
  | none => .error ⟨.invalidParameter, "Pegged stablecoin p" ++ symbol ++ " tidak ditemukan"⟩
  | some peg => .ok (peg, ((findAsset assets symbol "stablecoin").map AssetInfo.assetId).getD 0)

def oracleRateOf (dbs : Databases) (symbol : String) : RpcResult Int :=
  match dbs.dexDb.readOraclePegRate symbol with
  | none => .error ⟨.invalidParameter, "Oracle rate " ++ symbol ++ " belum tersedia"⟩
  | some oracle => .ok oracle.grdPerUnit

/-- The fee of 0.1%, at least one unit. -/
def oracleFee (gross : Int) : Int := max (gross.tdiv 1000) 1

/-- `swaporacle` up to the check of the balance. -/
def oracleQuote (dbs : Databases) (fromSym toSym : String) (amount : AmountParam) :
    RpcResult OracleQuote := do
  let amount ← amount.read
  let fromSym := fromSym.toUpper
  let toSym := toSym.toUpper
  throwIf (fromSym == toSym) .invalidParameter "from dan to tidak boleh sama"
  throwIf (decide (amount ≤ 0)) .invalidParameter "amount harus positif"
  let allAssets := dbs.assetDb.listAssets 500
  let (fromPeg, fromObId) ← findPair allAssets fromSym
  let (toPeg, toObId) ← findPair allAssets toSym
  let fromRate ← oracleRateOf dbs fromSym
  let toRate ← oracleRateOf dbs toSym
  let grdValue := safeMulDiv amount fromRate 1
  throwIf (decide (grdValue ≤ 0)) .invalidParameter "Nilai terlalu kecil"
  let gross := grdValue.tdiv toRate
  throwIf (decide (gross ≤ 0)) .invalidParameter "Hasil swap terlalu kecil, tambah jumlah"
  .ok { fromPegId := fromPeg.assetId
        toPegId := toPeg.assetId
        fromObId := fromObId
        toObId := toObId
        amount := amount
        grdValue := grdValue
        toAmount := gross - oracleFee gross
        fee := oracleFee gross }

/-- `swaporacle`; the two market makers are adjusted at times of their own. -/
def swaporacle (env : DexEnv) (dbs : Databases) (fromSym toSym : String) (amount : AmountParam)
    (address : Bytes) (now now' : Int) : RpcResult (Databases × OracleQuote) := do
  let q ← oracleQuote dbs fromSym toSym amount
  let fromBal := dbs.assetDb.readBalance q.fromPegId address
  throwIf (decide (fromBal < q.amount)) .invalidParameter
    ("Saldo p" ++ fromSym.toUpper ++ " tidak cukup: " ++ toString fromBal ++ " < " ++
      toString q.amount)
  let db := dbs.assetDb.writeBalance q.fromPegId address (wrap64 (fromBal - q.amount))
  let toBal := db.readBalance q.toPegId address
  let db := db.writeBalance q.toPegId address (wrap64 (toBal + q.toAmount))
  let dbs := { dbs with assetDb := db }
  let dbs := autoAdjustMMPrice env dbs q.fromObId true q.amount now
  .ok (autoAdjustMMPrice env dbs q.toObId false q.toAmount now', q)

/-- A call of `swaporacle` for one address. -/
structure OracleCall where
  fromSym : String
  toSym : String
  amount : AmountParam
  now : Int
  now' : Int

/-- A call that fails leaves everything as it is. -/
def oracleStep (env : DexEnv) (address : Bytes) (dbs : Databases) (call : OracleCall) : Databases :=
  match swaporacle env dbs call.fromSym call.toSym call.amount address call.now call.now' with
  | .ok (dbs', _) => dbs'
  | .error _ => dbs

def pegRate (dbs : Databases) (info : AssetInfo) : Int :=
  if info.type = "stablecoin_pegged" then
    ((dbs.dexDb.oraclePegRates.entries.find? fun e => "p" ++ e.1 == info.symbol).map
      fun e => e.2.grdPerUnit).getD 0
  else 0

/-- What an address has of all pegged stablecoins, in satoshi at the rates of the oracle. -/
def pegValue (address : Bytes) (dbs : Databases) : Int :=
  dbs.assetDb.assets.total fun id info => dbs.assetDb.readBalance id address * pegRate dbs info

def PegsNonneg (address : Bytes) (dbs : Databases) : Prop :=
  ∀ e ∈ dbs.assetDb.assets.entries, e.2.type = "stablecoin_pegged" →
    0 ≤ dbs.assetDb.readBalance e.1 address

def GainsNothing (env : DexEnv) (address : Bytes) (dbs : Databases) (call : OracleCall) : Prop :=
  pegValue address (oracleStep env address dbs call) ≤ pegValue address dbs ∧
    PegsNonneg address (oracleStep env address dbs call)

/-- The balance that a call credits stays below `2^63`. -/
def CreditFits (address : Bytes) (dbs : Databases) (call : OracleCall) : Prop :=
  ∀ q, oracleQuote dbs call.fromSym call.toSym call.amount = .ok q →
    q.amount ≤ dbs.assetDb.readBalance q.fromPegId address →
    dbs.assetDb.readBalance q.toPegId address + q.toAmount < 9223372036854775808

end GarudaChain
