import GarudaChain.Api.Mint
import Mathlib.Algebra.Order.Ring.Rat

/-!
# Token transfers through the API

`handlePrepareTransfer` and `handleDexSwap` with the node's `transferasset` and `getpeginfo` behind
them.
-/

namespace GarudaChain.Api

/-- `ParseHashV` -/
def parseHashV (name : String) (s : GoString) : RpcResult Uint256 :=
  let text := String.ofList (stringChars s)
  if s.length ≠ 64 then
    .error ⟨.invalidParameter, name ++ " must be of length 64 (not " ++ toString s.length ++
      ", for '" ++ text ++ "')"⟩
  else if !(s.all fun b => (Hex.value b).isSome) then
    .error ⟨.invalidParameter, name ++ " must be hexadecimal string (not '" ++ text ++ "')"⟩
  else .ok (parseAssetID s)

/-- A number of Go where the node reads an integer. -/
def wireInt (amount : Rat) : RpcResult Int :=
  if amount.den = 1 then .ok amount.num else .error ⟨.miscError, "JSON integer out of range"⟩

/-- `transferasset` with the parameters of a request. -/
def callTransferasset (env : NodeEnv) (db : AssetDB) (assetID : GoString) (amount : Rat)
    (fromAddr toAddr : GoString) : RpcResult (AssetDB × List Char) := do
  let assetId ← parseHashV "asset_id" assetID
  let amount ← wireInt amount
  transferasset env db assetId amount fromAddr toAddr none

inductive JsonField
  | str (s : Bytes)
  | num (x : Rat)
  deriving DecidableEq

/-- `getpeginfo`; the peg of an asset, its rate and currency, is not part of `AssetInfo` here. -/
def getpeginfo (peg : AssetInfo → Rat × Bytes) (db : AssetDB) (assetID : GoString) :
    RpcResult (List (GoString × JsonField)) := do
  let assetId ← parseHashV "asset_id" assetID
  match db.readAsset assetId with
  | none => .error ⟨.invalidParameter, "Asset tidak ditemukan"⟩
  | some info =>
    .ok [(goString "asset_id", .str (asciiBytes (getHex assetId))),
      (goString "symbol", .str (goString info.symbol)),
      (goString "type", .str (goString info.type)),
      (goString "peg_rate", .num (peg info).1),
      (goString "peg_currency", .str (peg info).2),
      (goString "total_supply", .num info.totalSupply),
      (goString "creator", .str info.creator)]

/-- A number that `json.Unmarshal` fills in: names match without regard to case. -/
def unmarshalNum (name : String) (fields : List (GoString × JsonField)) : Except String Rat :=
  match fields.find? fun f => f.1.map lowerCase == (goString name).map lowerCase with
  | some (_, .num x) => .ok x
  | some (_, .str _) => .error "json: cannot unmarshal string into Go struct field"
  | none => .ok 0

/-- The parameters that the decoder leaves; an error of it is ignored. The amount is as Go writes it
    to the node. -/
structure TransferRequest where
  assetID : GoString
  amount : Rat
  fromAddr : GoString
  toAddr : GoString
  deriving DecidableEq

inductive TransferResponse
  | postOnly
  | error (text : String)
  | opreturnData (hex : List Char)
  deriving DecidableEq

def handlePrepareTransfer (env : NodeEnv) (db : AssetDB) (method : GoString)
    (req : TransferRequest) : TransferResponse × AssetDB :=
  if method ≠ goString "POST" then (.postOnly, db)
  else if req.assetID = [] ∨ req.amount ≤ 0 ∨ req.fromAddr = [] ∨ req.toAddr = [] then
    (.error "Missing required fields", db)
  else
    match callTransferasset env db req.assetID req.amount req.fromAddr req.toAddr with
    | .error err => (.error err.message, db)
    | .ok (db, hex) => (.opreturnData hex, db)

structure SwapRequest where
  direction : GoString
  assetID : GoString
  amount : Rat
  address : GoString
  deriving DecidableEq

/-- What the API reads besides the request. -/
structure SwapEnv extends NodeEnv where
  peg : AssetInfo → Rat × Bytes
  findCBDCTokenHolder : AssetDB → GoString → GoString
  treasuryAddress : GoString
  maxAmountGRD : Rat

def feeSwapRate : Rat := 1 / 1000

def bech32Charset : Bytes := goString "qpzry9x8gf2tvdw0s3jn54khce6mua7l"

/-- `ValidAddress` -/
def validAddress (s : GoString) : Bool :=
  (goString "grd1").isPrefixOf s && decide (20 ≤ (s.drop 4).length) &&
    decide ((s.drop 4).length ≤ 90) && (s.drop 4).all bech32Charset.contains

/-- `ValidAmount(amount, 0)` -/
def validAmount (limit amount : Rat) : Except String Unit := do
  Result.failIf (decide (amount ≤ 0)) "amount must be positive"
  Result.failIf (decide (limit < amount)) "amount exceeds maximum allowed"
  Result.failIf (decide (amount < 1 / 10000000000)) "amount too small"

/-- `int64(x)` of a positive number. -/
def truncate (x : Rat) : Int := x.num / x.den

/-- The checks of `handleDexSwap` and the peg rate it goes on with. -/
def swapRate (env : SwapEnv) (db : AssetDB) (req : SwapRequest) : Except String Rat := do
  Result.require (validAssetID req.assetID) "invalid asset_id"
  Result.require (validAddress req.address) "invalid address"
  validAmount env.maxAmountGRD req.amount
  Result.require (req.direction == goString "buy" || req.direction == goString "sell")
    "direction must be 'buy' or 'sell'"
  match getpeginfo env.peg db req.assetID with
  | .error _ => .error "stablecoin peg not found"
  | .ok fields =>
    let rate ← unmarshalNum "peg_rate_grd" fields
    Result.failIf (decide (rate ≤ 0)) "invalid peg rate"
    .ok rate

/-- `handleDexSwap` as far as it moves tokens; a sale goes on where its transfer fails. -/
def handleDexSwap (env : SwapEnv) (db : AssetDB) (req : SwapRequest) : Except String AssetDB := do
  let rate ← swapRate env db req
  let holder := env.findCBDCTokenHolder db req.assetID
  if req.direction = goString "buy" then
    Result.failIf (holder == []) "stablecoin reserve unavailable"
    let tokens := truncate ((req.amount - req.amount * feeSwapRate) / rate)
    match callTransferasset env.toNodeEnv db req.assetID tokens holder req.address with
    | .error _ => .error "asset transfer failed"
    | .ok (db, _) => .ok db
  else
    let reserveTo := if holder = [] then env.treasuryAddress else holder
    match callTransferasset env.toNodeEnv db req.assetID (truncate req.amount) req.address
      reserveTo with
    | .error _ => .ok db
    | .ok (db, _) => .ok db

structure DexApi where
  db : AssetDB
  swapRateLimit : RateLimiter

/-- A request; the body of a swap decodes, or not. -/
inductive DexHttp
  | prepareTransfer (method : GoString) (req : TransferRequest)
  | dexSwap (clientIP : GoString) (now : Int) (req : Option SwapRequest)

namespace DexApi

variable (env : SwapEnv) (s : DexApi)

def dexSwap (clientIP : GoString) (now : Int) (req : Option SwapRequest) : DexApi :=
  match s.swapRateLimit.allow clientIP now, req with
  | (false, limiter), _ => { s with swapRateLimit := limiter }
  | (true, limiter), none => { s with swapRateLimit := limiter }
  | (true, limiter), some req =>
    match handleDexSwap env s.db req with
    | .error _ => { s with swapRateLimit := limiter }
    | .ok db => ⟨db, limiter⟩

def step : DexHttp → DexApi
  | .prepareTransfer method req =>
    { s with db := (handlePrepareTransfer env.toNodeEnv s.db method req).2 }
  | .dexSwap clientIP now req => s.dexSwap env clientIP now req

end DexApi

/-- No balance outside the reserve becomes less, and preparing a transfer changes none. -/
structure NeedsNoConsent (env : SwapEnv) (reserve : Bytes → Prop) (s : DexApi) (req : DexHttp) :
    Prop where
  noDecrease : ∀ assetId address, ¬ reserve address →
    s.db.readBalance assetId address ≤ (s.step env req).db.readBalance assetId address
  prepareKeeps : ∀ method transfer, req = .prepareTransfer method transfer →
    ∀ assetId address, (s.step env req).db.readBalance assetId address =
      s.db.readBalance assetId address

/-- A request to prepare a transfer that the node can execute. -/
structure Executable (env : NodeEnv) (db : AssetDB) (method : GoString) (req : TransferRequest) :
    Prop where
  post : method = goString "POST"
  fromAddr : req.fromAddr ≠ []
  toAddr : req.toAddr ≠ []
  assetID : validAssetID req.assetID = true
  integer : req.amount.den = 1
  positive : 0 < req.amount.num
  inRange : req.amount.num < 9223372036854775808
  fromValid : env.isValidDestination req.fromAddr = true
  toValid : env.isValidDestination req.toAddr = true
  exists_asset : (db.readAsset (parseAssetID req.assetID)).isSome = true
  holds : req.amount.num ≤ db.readBalance (parseAssetID req.assetID) req.fromAddr

/-- No request to prepare a transfer can be executed. -/
def NotExecutable (env : SwapEnv) (s : DexApi) : DexHttp → Prop
  | .prepareTransfer method req => ¬ Executable env.toNodeEnv s.db method req
  | .dexSwap _ _ _ => True

end GarudaChain.Api
