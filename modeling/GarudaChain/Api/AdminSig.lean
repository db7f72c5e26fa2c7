import GarudaChain.Lib.Hex
import GarudaChain.Lib.Result
import GarudaChain.Lib.Stream
import GarudaChain.Node.Cbdc

/-!
# The admin requests of the API

`requireAdmin` of `security.go` with the checks it makes: the audit breaker, the rate limit, the replay
guard of `admin_replay.go`, the request signature of `admin_sig.go` and the admin key.
-/

namespace GarudaChain.Api

/-- A text of Go, which is a sequence of bytes. -/
abbrev GoString := Bytes

def goString (s : String) : GoString := asciiBytes s.toList

/-- `r.Body`: what the connection delivers, piece by piece, and the error it ends with, if any. -/
structure Body where
  chunks : List Bytes
  failure : Option String := none
  chunks_ne : ∀ chunk ∈ chunks, chunk ≠ []

def Body.bytes (b : Body) : Bytes := b.chunks.flatten

structure Request where
  method : GoString
  path : GoString
  /-- `X-Admin-Nonce`, empty if absent, as the next two. -/
  nonce : GoString
  /-- `X-Admin-Timestamp` -/
  timestamp : GoString
  /-- `X-Admin-Sig` -/
  sig : GoString
  clientIP : GoString
  body : Body

structure SecurityConfig where
  adminKey : GoString
  strictMode : Bool
  /-- `GARUDA_ADMIN_HMAC=1` -/
  adminHMAC : Bool
  deriving DecidableEq

def adminHMACRequired (cfg : SecurityConfig) : Bool := cfg.adminHMAC || cfg.strictMode

/-- SHA-256 and HMAC-SHA256. -/
structure ApiCrypto where
  sha256 : Bytes → Bytes
  hmac : Bytes → Bytes → Bytes

/-- The errors of `VerifyAdminSig`. -/
inductive SigError
  | readingBody (err : String)
  | missing
  | badStart
  | notHex (err : Hex.DecodeError)
  | mismatch
  deriving DecidableEq

def adminSigStart : GoString := goString "hmac-sha256:"

/-- The canonical string of `buildAdminSigCanonical` and `ComputeAdminSig`. -/
def canonicalString (crypto : ApiCrypto) (method path nonce timestamp : GoString) (body : Bytes) :
    GoString :=
  method ++ [10] ++ path ++ [10] ++ nonce ++ [10] ++ timestamp ++ [10] ++
    Hex.encode (crypto.sha256 body) ++ [10]

def buildAdminSigCanonical (crypto : ApiCrypto) (r : Request) (body : Bytes) : GoString :=
  canonicalString crypto r.method r.path r.nonce r.timestamp body

def adminMac (crypto : ApiCrypto) (key : GoString) (r : Request) (body : Bytes) : Bytes :=
  crypto.hmac key (buildAdminSigCanonical crypto r body)

def computeAdminSig (crypto : ApiCrypto) (method path nonce timestamp adminKey : GoString)
    (body : Bytes) : GoString :=
  adminSigStart ++
    Hex.encode (crypto.hmac adminKey (canonicalString crypto method path nonce timestamp body))

/-- `VerifyAdminSig`, given what is left of the body when it is called. -/
def verifyAdminSig (crypto : ApiCrypto) (cfg : SecurityConfig) (r : Request) (unread : List Bytes)
    (sigRequired : Bool) : Except SigError Unit :=
  match r.body.failure with
  | some err => .error (.readingBody err)
  | none =>
    if r.sig = [] then Result.failIf sigRequired .missing
    else do
      Result.require (adminSigStart.isPrefixOf r.sig) .badStart
      match Hex.decode (r.sig.drop adminSigStart.length) with
      | .error err => .error (.notHex err)
      | .ok provided =>
        Result.require (provided == adminMac crypto cfg.adminKey r unread.flatten) .mismatch

/-- Nanoseconds. -/
def goSecond : Int := 1000000000

def replayWindow : Int := 300 * goSecond
def nonceCacheSize : Nat := 10000
def nonceCacheTTL : Int := 600 * goSecond
def minNonceLen : Nat := 8
def maxNonceLen : Nat := 128

abbrev NonceLRU := List (GoString × Int)

/-- `seenOrRecord` -/
def seenOrRecord (cache : NonceLRU) (nonce : GoString) (now : Int) : Bool × NonceLRU :=
  let cache := (cache.reverse.dropWhile fun e => e.2 ≤ now).reverse
  if cache.any fun e => e.1 == nonce then (true, cache)
  else (false, (nonce, now + nonceCacheTTL) :: cache.take (nonceCacheSize - 1))

/-- `now.Sub(ts)` of two times in nanoseconds: a `Duration` stops at the ends of `int64`. -/
def goSub (now ts : Int) : Int :=
  max (-9223372036854775808) (min 9223372036854775807 (now - ts))

/-- The errors of `CheckAdminReplay`. -/
inductive ReplayError
  /-- Says "strict mode: admin request must include nonce and timestamp". -/
  | strictNeedsBoth
  | nonceRequired
  | timestampRequired
  | nonceLength
  | outsideWindow (drift : Int)
  | nonceUsed
  deriving DecidableEq

def checkAdminReplay (cache : NonceLRU) (nonce : GoString) (tsUnix : Int) (strict : Bool)
    (now : Int) : Except ReplayError Unit × NonceLRU :=
  if nonce = [] ∧ tsUnix = 0 then
    (if strict then .error .strictNeedsBoth else .ok (), cache)
  else if nonce = [] then (.error .nonceRequired, cache)
  else if tsUnix = 0 then (.error .timestampRequired, cache)
  else if nonce.length < minNonceLen ∨ maxNonceLen < nonce.length then (.error .nonceLength, cache)
  else
    let internal := wrap64 (tsUnix + 62135596800) - 62135596800
    let drift := goSub now (internal * goSecond)
    let drift := if drift < 0 then wrap64 (-drift) else drift
    if replayWindow < drift then (.error (.outsideWindow drift), cache)
    else
      match seenOrRecord cache nonce now with
      | (true, cache) => (.error .nonceUsed, cache)
      | (false, cache) => (.ok (), cache)

/-- The digits of a decimal number. -/
def parseDigits : Bytes → Option Nat
  | [] => none
  | digits =>
    digits.foldl (fun acc b => acc.bind fun n =>
      if 48 ≤ b ∧ b ≤ 57 then some (n * 10 + (b - 48).toNat) else none) (some 0)

/-- `strconv.ParseInt(s, 10, 64)` -/
def parseInt64 (s : GoString) : Option Int :=
  let signed : Option Int := match s with
    | 43 :: digits => (parseDigits digits).map (↑)
    | 45 :: digits => (parseDigits digits).map fun n => -(n : Int)
    | digits => (parseDigits digits).map (↑)
  signed.filter fun n => -9223372036854775808 ≤ n ∧ n ≤ 9223372036854775807

structure RateLimiter where
  hits : List (GoString × List Int)
  limit : Nat
  window : Int
  deriving DecidableEq

/-- `newRateLimiter` -/
def newRateLimiter (limit : Nat) (window : Int) : RateLimiter := ⟨[], limit, window⟩

/-- `rl.hits[key]`, empty where there is no entry. -/
def RateLimiter.hitsOf (rl : RateLimiter) (key : GoString) : List Int :=
  (rl.hits.lookup key).getD []

def RateLimiter.fresh (rl : RateLimiter) (key : GoString) (now : Int) : List Int :=
  (rl.hitsOf key).filter fun t => now - rl.window < t

def RateLimiter.setHits (rl : RateLimiter) (key : GoString) (hits : List Int) : RateLimiter :=
  { rl with hits := (key, hits) :: rl.hits.filter fun e => e.1 != key }

def maxRateKeys : Nat := 10000

/-- The deletion of empty entries once there are too many. -/
def RateLimiter.prune (rl : RateLimiter) : RateLimiter :=
  if maxRateKeys < rl.hits.length then { rl with hits := rl.hits.filter fun e => e.2 ≠ [] } else rl

/-- `Allow` -/
def RateLimiter.allow (rl : RateLimiter) (key : GoString) (now : Int) : Bool × RateLimiter :=
  let fresh := rl.fresh key now
  if rl.limit ≤ fresh.length then (false, rl.setHits key fresh)
  else (true, (rl.setHits key (fresh ++ [now])).prune)

structure AdminState where
  auditBreakerTripped : Bool
  adminRateLimit : RateLimiter
  adminNonceCache : NonceLRU
  deriving DecidableEq

/-- The answer to a request that is refused. -/
inductive Refusal
  | postOnly
  | invalidJson (err : String)
  /-- Status 503, "admin operations frozen: audit log unavailable". -/
  | auditUnavailable
  | rateLimited
  | replay (err : ReplayError)
  | signature (err : SigError)
  | unauthorized
  deriving DecidableEq

def checkAdminKey (cfg : SecurityConfig) (provided : GoString) : Bool :=
  provided ≠ [] && provided == cfg.adminKey

def Request.tsUnix (r : Request) : Int := (parseInt64 r.timestamp).getD 0

/-- `requireAdmin` for a request of whose body some chunks are left unread. -/
def requireAdmin (crypto : ApiCrypto) (cfg : SecurityConfig) (s : AdminState) (r : Request)
    (unread : List Bytes) (key : GoString) (now : Int) : Except Refusal Unit × AdminState :=
  if s.auditBreakerTripped then (.error .auditUnavailable, s)
  else
    match s.adminRateLimit.allow r.clientIP now with
    | (false, limiter) => (.error .rateLimited, { s with adminRateLimit := limiter })
    | (true, limiter) =>
      match checkAdminReplay s.adminNonceCache r.nonce r.tsUnix cfg.strictMode now with
      | (.error err, nonces) =>
        (.error (.replay err), { s with adminRateLimit := limiter, adminNonceCache := nonces })
      | (.ok (), nonces) =>
        let s := { s with adminRateLimit := limiter, adminNonceCache := nonces }
        match verifyAdminSig crypto cfg r unread (adminHMACRequired cfg) with
        | .error err => (.error (.signature err), s)
        | .ok () => if checkAdminKey cfg key then (.ok (), s) else (.error .unauthorized, s)

/-- The parameters of `handleCBDCMint`. -/
structure MintRequest where
  assetID : GoString := []
  symbol : GoString := []
  amount : Int := 0
  adminKey : GoString := []
  idempotencyKey : GoString := []
  deriving DecidableEq

/-- The admin handlers that take their parameters, the admin key among them, from the body. -/
inductive AdminHandler
  | cbdcMint | cbdcBurn | cbdcIssue | qrisConfirm
  deriving DecidableEq

section

variable {P : Type} (crypto : ApiCrypto) (cfg : SecurityConfig) (adminKey : P → GoString)
  (decoder : Stream.Decoder String P) (s : AdminState) (r : Request) (now : Int)

/-- The common start of `handleCBDCMint`, `handleCBDCBurn` and `handleCBDCIssue`. -/
def startCBDC : Except Refusal P × AdminState :=
  if r.method ≠ goString "POST" then (.error .postOnly, s)
  else
    match decoder.decode r.body.failure r.body.chunks [] with
    | ((_, some err), _) => (.error (.invalidJson err), s)
    | ((req, none), unread) =>
      match requireAdmin crypto cfg s r unread (adminKey req) now with
      | (.ok (), s) => (.ok req, s)
      | (.error refusal, s) => (.error refusal, s)

/-- The start of `handleQRISConfirm`, which goes on where the body cannot be decoded. -/
def startQRISConfirm : Except Refusal P × AdminState :=
  if r.method ≠ goString "POST" then (.error .postOnly, s)
  else
    match decoder.decode r.body.failure r.body.chunks [] with
    | ((req, _), unread) =>
      match requireAdmin crypto cfg s r unread (adminKey req) now with
      | (.ok (), s) => (.ok req, s)
      | (.error refusal, s) => (.error refusal, s)

def startHandler : AdminHandler → Except Refusal P × AdminState
  | .cbdcMint | .cbdcBurn | .cbdcIssue => startCBDC crypto cfg adminKey decoder s r now
  | .qrisConfirm => startQRISConfirm crypto cfg adminKey decoder s r now

/-- Where the handler goes on, the signature is the HMAC over the body of the request; and a request
    signed over its own body is not refused for its signature. -/
structure SigBinds (h : AdminHandler) : Prop where
  sound : ∀ p, (startHandler crypto cfg adminKey decoder s r now h).1 = .ok p →
    ∃ digits, r.sig = adminSigStart ++ digits ∧
      Hex.decode digits = .ok (adminMac crypto cfg.adminKey r r.body.bytes)
  complete : r.body.bytes ≠ [] →
    r.sig = computeAdminSig crypto r.method r.path r.nonce r.timestamp cfg.adminKey r.body.bytes →
    ∀ err, (startHandler crypto cfg adminKey decoder s r now h).1 ≠ .error (.signature err)

/-- The checks before the signature. -/
def PassesGuards : Prop :=
  s.auditBreakerTripped = false ∧
  (s.adminRateLimit.allow r.clientIP now).1 = true ∧
  (checkAdminReplay s.adminNonceCache r.nonce r.tsUnix cfg.strictMode now).1 = .ok ()

/-- The body lets the handler go on: it decodes, which `handleQRISConfirm` does not ask for. -/
def BodyAccepted : AdminHandler → Prop
  | .cbdcMint | .cbdcBurn | .cbdcIssue =>
    (decoder.decode r.body.failure r.body.chunks []).1.2 = none
  | .qrisConfirm => True

instance (h : AdminHandler) : Decidable (BodyAccepted decoder r h) :=
  match h with
  | .cbdcMint | .cbdcBurn | .cbdcIssue =>
    inferInstanceAs (Decidable ((decoder.decode r.body.failure r.body.chunks []).1.2 = none))
  | .qrisConfirm => .isTrue trivial

def ReachesSig (h : AdminHandler) : Prop :=
  r.method = goString "POST" ∧ r.body.bytes ≠ [] ∧ BodyAccepted decoder r h ∧
    PassesGuards cfg s r now

end

end GarudaChain.Api
