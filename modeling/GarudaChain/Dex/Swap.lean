import GarudaChain.Dex.MarketMaker

/-!
# Swaps between forex and pegged stablecoins

The RPC `swapforextopeg` of `rpc/dex.cpp`.
-/

namespace GarudaChain

def findAsset (assets : List AssetInfo) (symbol type : String) : Option AssetInfo :=
  assets.find? fun a => a.symbol == symbol && a.type == type

inductive SwapDirection
  | forexToPeg
  | pegToForex
  deriving DecidableEq, Repr

def parseDirection (direction : String) : RpcResult SwapDirection :=
  if direction = "forex_to_peg" then .ok .forexToPeg
  else if direction = "peg_to_forex" then .ok .pegToForex
  else .error ⟨.invalidParameter, "direction harus 'forex_to_peg' atau 'peg_to_forex'"⟩

/-- What `swapforextopeg` looks up before it swaps. -/
structure SwapPair where
  forexId : Uint256
  pegId : Uint256
  oraclePrice : Int
  mm : MarketMaker

def swapPair (dbs : Databases) (symbol : String) : RpcResult SwapPair :=
  let allAssets := dbs.assetDb.listAssets 500
  match findAsset allAssets symbol "stablecoin" with
  | none => .error ⟨.invalidParameter, "Forex stablecoin " ++ symbol ++ " tidak ditemukan"⟩
  | some forex =>
    match findAsset allAssets ("p" ++ symbol) "stablecoin_pegged" with
    | none => .error ⟨.invalidParameter, "Pegged stablecoin " ++ ("p" ++ symbol) ++
        " tidak ditemukan. Buat dulu dengan issueasset type=stablecoin_pegged."⟩
    | some peg =>
      match dbs.dexDb.readOraclePegRate symbol with
      | none => .error ⟨.invalidParameter, "Oracle peg rate untuk " ++ symbol ++
          " belum di-set. Gunakan updatepegrate."⟩
      | some oracle =>
        match dbs.dexDb.readMarketMaker forex.assetId with
        | none => .error ⟨.invalidParameter, "Market maker " ++ symbol ++ " tidak aktif"⟩
        | some mm =>
          if mm.active then .ok ⟨forex.assetId, peg.assetId, oracle.grdPerUnit, mm⟩
          else .error ⟨.invalidParameter, "Market maker " ++ symbol ++ " tidak aktif"⟩

def exchange (db : AssetDB) (sellId buyId : Uint256) (address : Bytes) (sold received : Int)
    (sellSymbol : String) : RpcResult AssetDB := do
  throwIf (decide (received ≤ 0)) .invalidParameter "Jumlah terlalu kecil"
  let sellBal := db.readBalance sellId address
  throwIf (decide (sellBal < sold)) .invalidParameter
    ("Saldo " ++ sellSymbol ++ " tidak cukup: " ++ toString sellBal ++ " < " ++ toString sold)
  let db := db.writeBalance sellId address (wrap64 (sellBal - sold))
  let buyBal := db.readBalance buyId address
  .ok (db.writeBalance buyId address (wrap64 (buyBal + received)))

/-- `swapforextopeg` at a time in seconds, with what the address receives. -/
def swapforextopeg (env : DexEnv) (dbs : Databases) (direction symbol : String) (amount : Int)
    (address : Bytes) (now : Int) : RpcResult (Databases × Int) := do
  let amount ← getInt64 amount
  let direction ← parseDirection direction
  throwIf (decide (amount ≤ 0)) .invalidParameter "amount harus positif"
  let pair ← swapPair dbs symbol
  let forexPrice := pair.mm.basePrice
  match direction with
  | .forexToPeg =>
    let grdValue := safeMulDiv amount forexPrice 1
    let pegReceived := grdValue.tdiv pair.oraclePrice
    let assetDb ← exchange dbs.assetDb pair.forexId pair.pegId address amount pegReceived symbol
    let dbs := { dbs with assetDb := assetDb }
    .ok (autoAdjustMMPrice env dbs pair.forexId true amount now, pegReceived)
  | .pegToForex =>
    let grdValue := safeMulDiv amount pair.oraclePrice 1
    let forexReceived := grdValue.tdiv forexPrice
    let assetDb ← exchange dbs.assetDb pair.pegId pair.forexId address amount forexReceived
      ("p" ++ symbol)
    let dbs := { dbs with assetDb := assetDb }
    .ok (autoAdjustMMPrice env dbs pair.forexId false forexReceived now, forexReceived)

/-- A call of `swapforextopeg` for one symbol and one address. -/
structure SwapCall where
  direction : String
  amount : Int
  now : Int

/-- A call that fails leaves everything as it is. -/
def swapStep (env : DexEnv) (symbol : String) (address : Bytes) (dbs : Databases)
    (call : SwapCall) : Databases :=
  match swapforextopeg env dbs call.direction symbol call.amount address call.now with
  | .ok (dbs', _) => dbs'
  | .error _ => dbs

end GarudaChain
