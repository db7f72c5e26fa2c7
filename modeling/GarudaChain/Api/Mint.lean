import GarudaChain.Api.AdminSig
import GarudaChain.Lib.Run
import GarudaChain.Node.Assets

/-!
# Minting with idempotency keys

`handleCBDCMint` past `requireAdmin`, with the response cache of `cbdc_idem.go` and the node's
`mintasset`.
-/

namespace GarudaChain.Api

structure MintResponse where
  assetID : GoString
  amount : Int
  newSupply : Int
  txid : GoString
  deriving DecidableEq

/-- A cached response. Those of `handleCBDCBurn` are kept as they are. -/
inductive CachedBody
  | mint (response : MintResponse)
  | burn (body : Bytes)
  deriving DecidableEq

structure IdemEntry where
  body : CachedBody
  created : Int
  deriving DecidableEq

def idemTTL : Int := 86400 * goSecond
def maxIdemEntries : Nat := 10000

/-- The entries under their keys. -/
abbrev IdemCache := List (GoString × IdemEntry)

/-- `op + ":" + key` -/
def idemKey (op : String) (key : GoString) : GoString := goString op ++ [58] ++ key

abbrev MapOrder := { visit : IdemCache → IdemCache // ∀ cache, (visit cache).Perm cache }

namespace IdemCache

def delete (cache : IdemCache) (key : GoString) : IdemCache := cache.filter fun e => e.1 != key

def expired (entry : IdemEntry) (now : Int) : Bool := idemTTL < now - entry.created

/-- `Get`: an expired entry is deleted. -/
def get (cache : IdemCache) (key : GoString) (now : Int) : Option IdemEntry × IdemCache :=
  match cache.lookup key with
  | none => (none, cache)
  | some entry => if expired entry now then (none, delete cache key) else (some entry, cache)

/-- The eviction of `Set`: the expired entries, or else half of all in the order of the map. -/
def evict (cache : IdemCache) (now : Int) (order : MapOrder) : IdemCache :=
  if cache.length < maxIdemEntries then cache
  else
    let live := cache.filter fun e => !expired e.2 now
    if live.length < maxIdemEntries then live else (order.1 live).drop (maxIdemEntries / 2)

/-- `Set` -/
def set (cache : IdemCache) (key : GoString) (body : CachedBody) (now : Int) (order : MapOrder) :
    IdemCache :=
  (key, ⟨body, now⟩) :: delete (evict cache now order) key

end IdemCache

def isLetter (b : UInt8) : Bool := (65 ≤ b && b ≤ 90) || (97 ≤ b && b ≤ 122)
def isDigit (b : UInt8) : Bool := 48 ≤ b && b ≤ 57

/-- `ValidSymbol` -/
def validSymbol : GoString → Bool
  | [] => false
  | b :: rest => isLetter b && rest.length ≤ 11 && rest.all fun c => isLetter c || isDigit c

/-- `ValidAssetID` -/
def validAssetID (s : GoString) : Bool := s.length == 64 && s.all fun b => (Hex.value b).isSome

def lowerCase (b : UInt8) : UInt8 := if 65 ≤ b ∧ b ≤ 90 then b + 32 else b

/-- The id of the asset to mint; `assets` are the symbols and ids that `scanAssets` finds. -/
def resolveAssetID (assets : List (GoString × GoString)) (req : MintRequest) :
    Except String GoString :=
  if req.assetID = [] ∧ req.symbol ≠ [] then do
    Result.require (validSymbol req.symbol) "invalid symbol format"
    let found := assets.find? fun a => a.1.map lowerCase == req.symbol.map lowerCase
    .ok ((found.map Prod.snd).getD [])
  else .ok req.assetID

def checkMint (maxAmountGRD : Int) (assets : List (GoString × GoString)) (req : MintRequest) :
    Except String GoString := do
  let assetID ← resolveAssetID assets req
  Result.failIf (assetID == [] || decide (req.amount ≤ 0)) "asset_id/symbol and amount required"
  Result.require (validAssetID assetID) "asset_id must be 64 hex characters"
  Result.failIf (decide (maxAmountGRD < req.amount)) "amount exceeds maximum allowed"
  .ok assetID

/-- The id that the node reads from 64 hexadecimal digits. -/
def parseAssetID (s : GoString) : Uint256 :=
  BitVec.ofNat 256 (s.foldl (fun n b => n * 16 + ((Hex.value b).getD 0).toNat) 0)

/-- How far the handler of a request is. -/
inductive MintPhase
  /-- It has not found its key in the cache and is about to call `mintasset`. -/
  | calling
  | broadcasting (minted : MintResult)
  /-- The transaction is out; the response is about to be stored. -/
  | responding (minted : MintResult) (txid : GoString)
  deriving DecidableEq

structure MintCall where
  key : GoString
  assetID : GoString
  amount : Int
  phase : MintPhase
  deriving DecidableEq

structure MintServer where
  cache : IdemCache
  mintRateLimit : RateLimiter
  db : AssetDB
  inFlight : List MintCall
  /-- The idempotency key of every `mintasset` that has taken effect. -/
  minted : List GoString

/-- What becomes of a call of the node. -/
inductive RpcOutcome
  | answered
  | answerLost
  | unreached
  deriving DecidableEq

/-- A step of one of the handlers. -/
inductive MintEvent
  /-- A request that has passed `requireAdmin`, up to the call of the node. -/
  | request (req : MintRequest) (clientIP : GoString) (assets : List (GoString × GoString))
      (now : Int)
  | mintRPC (call : Nat) (outcome : RpcOutcome)
  | broadcast (call : Nat) (txid : Option GoString)
  | respond (call : Nat) (now : Int) (order : MapOrder)
  /-- `handleCBDCBurn` looks into the cache. -/
  | burnLookup (key : GoString) (now : Int)
  /-- `handleCBDCBurn` stores its response. -/
  | burnRespond (key : GoString) (body : Bytes) (now : Int) (order : MapOrder)

namespace MintServer

variable (env : NodeEnv) (maxAmountGRD : Int) (s : MintServer)

/-- The handler past the lookup. -/
def pastLookup (req : MintRequest) (clientIP : GoString) (assets : List (GoString × GoString))
    (now : Int) : MintServer :=
  match s.mintRateLimit.allow clientIP now with
  | (false, limiter) => { s with mintRateLimit := limiter }
  | (true, limiter) =>
    let s := { s with mintRateLimit := limiter }
    match checkMint maxAmountGRD assets req with
    | .error _ => s
    | .ok assetID =>
      { s with inFlight := s.inFlight ++ [⟨req.idempotencyKey, assetID, req.amount, .calling⟩] }

/-- A request: a cached response is replayed. -/
def request (req : MintRequest) (clientIP : GoString) (assets : List (GoString × GoString))
    (now : Int) : MintServer :=
  if req.idempotencyKey = [] then s.pastLookup maxAmountGRD req clientIP assets now
  else
    match IdemCache.get s.cache (idemKey "mint" req.idempotencyKey) now with
    | (some _, cache) => { s with cache }
    | (none, cache) => { s with cache }.pastLookup maxAmountGRD req clientIP assets now

/-- The handler of a call ends. -/
def finish (i : Nat) : MintServer := { s with inFlight := s.inFlight.eraseIdx i }

/-- The call of `mintasset`, without a signature of the authority. -/
def mintRPC (i : Nat) (call : MintCall) (outcome : RpcOutcome) : MintServer :=
  match outcome, mintasset env s.db (parseAssetID call.assetID) call.amount none with
  | .unreached, _ => s.finish i
  | _, .error _ => s.finish i
  | .answerLost, .ok (db, _) => { s with db, minted := s.minted ++ [call.key] }.finish i
  | .answered, .ok (db, res) =>
    { s with db, minted := s.minted ++ [call.key]
             inFlight := s.inFlight.set i { call with phase := .broadcasting res } }

def respond (i : Nat) (call : MintCall) (res : MintResult) (txid : GoString) (now : Int)
    (order : MapOrder) : MintServer :=
  let s := s.finish i
  if call.key = [] then s
  else
    let body := CachedBody.mint ⟨call.assetID, call.amount, res.newSupply, txid⟩
    { s with cache := IdemCache.set s.cache (idemKey "mint" call.key) body now order }

def step : MintEvent → MintServer
  | .request req clientIP assets now => s.request maxAmountGRD req clientIP assets now
  | .mintRPC i outcome =>
    match s.inFlight[i]? with
    | some call => if call.phase = .calling then s.mintRPC env i call outcome else s
    | none => s
  | .broadcast i txid =>
    match s.inFlight[i]? with
    | some call =>
      match call.phase, txid with
      | .broadcasting res, some txid =>
        { s with inFlight := s.inFlight.set i { call with phase := .responding res txid } }
      | .broadcasting _, none => s.finish i
      | _, _ => s
    | none => s
  | .respond i now order =>
    match s.inFlight[i]? with
    | some call =>
      match call.phase with
      | .responding res txid => s.respond i call res txid now order
      | _ => s
    | none => s
  | .burnLookup key now => { s with cache := (IdemCache.get s.cache (idemKey "burn" key) now).2 }
  | .burnRespond key body now order =>
    { s with cache := IdemCache.set s.cache (idemKey "burn" key) (.burn body) now order }

end MintServer

section

variable (key : GoString) (start : Int) (s : MintServer)

/-- The requests with the key come, and its responses are stored, within 24 hours. -/
def WithinDay : MintEvent → Prop
  | .request req _ _ now => req.idempotencyKey = key → start ≤ now ∧ now ≤ start + idemTTL
  | .respond i now _ => ∀ call, s.inFlight[i]? = some call → call.key = key → start ≤ now
  | _ => True

/-- No other request with the key is being served, every call for it is answered, no broadcast
    fails, and no full cache drops its response. -/
def Undisturbed : MintEvent → Prop
  | .request req _ _ _ => req.idempotencyKey = key → ∀ call ∈ s.inFlight, call.key ≠ key
  | .mintRPC i outcome =>
    ∀ call, s.inFlight[i]? = some call → call.key = key → outcome ≠ .answerLost
  | .broadcast i txid => ∀ call, s.inFlight[i]? = some call → call.key = key → txid ≠ none
  | .respond _ _ _ | .burnRespond _ _ _ _ =>
    s.cache.lookup (idemKey "mint" key) ≠ none → s.cache.length < maxIdemEntries
  | .burnLookup _ _ => True

end

end GarudaChain.Api
