import GarudaChain.Api.Transfer

/-!
# The reserve behind the API swap

`handleDexSwap` and `handleReceiveGRD` of `main.go` with every call they make of the nodes, each of
which can fail.
-/

namespace GarudaChain.Api.Reserve

/-- What the calls of the nodes come to. -/
structure Calls where
  /-- `getpeginfo` succeeds. -/
  peg : Bool
  /-- `findCBDCTokenHolder`, empty if there is none. -/
  holder : GoString
  /-- `transferasset` succeeds; the node moves the tokens at once. -/
  transferred : Bool
  parsed : Bool
  /-- `broadcastOpReturn` succeeds. -/
  broadcast : Bool
  /-- `getbalance` -/
  balance : Option ℚ
  /-- `sendtoaddress` succeeds. -/
  sent : Bool
  deriving DecidableEq

/-- What a request moves: GRD from the reserve to the address in it and back, and tokens likewise. -/
structure Moves where
  grdOut : ℚ := 0
  grdIn : ℚ := 0
  tokensOut : Int := 0
  tokensIn : Int := 0
  deriving DecidableEq

/-- `math.Round(x*1e8) / 1e8` of a number that is not negative. -/
def round8 (x : ℚ) : ℚ := (x * 100000000 + 1 / 2).floor / 100000000

/-- The checks before the first call. -/
def checkSwap (maxAmountGRD : ℚ) (req : SwapRequest) : Except String Unit := do
  Result.require (validAssetID req.assetID) "invalid asset_id"
  Result.require (validAddress req.address) "invalid address"
  validAmount maxAmountGRD req.amount
  Result.require (req.direction == goString "buy" || req.direction == goString "sell")
    "direction must be 'buy' or 'sell'"

/-- The tokens of a purchase. -/
def buyTokens (rate amount : ℚ) : Int := truncate ((amount - amount * feeSwapRate) / rate)

/-- `transferasset` of an amount, which the node refuses if it is not positive. -/
def Calls.transfers (calls : Calls) (tokens : Int) : Bool := calls.transferred && decide (0 < tokens)

/-- A purchase: tokens go from the reserve to the address. -/
def swapBuy (rate amount : ℚ) (calls : Calls) : Except String Unit × Moves :=
  let tokens := buyTokens rate amount
  if calls.holder = [] then (.error "stablecoin reserve unavailable", {})
  else if !calls.transfers tokens then (.error "asset transfer failed", {})
  else
    let moves : Moves := { tokensOut := tokens }
    if !calls.parsed then (.error "transfer parse error", moves)
    else if !calls.broadcast then (.error "broadcast failed", moves)
    else (.ok (), moves)

/-- The GRD of a sale. -/
def sellOut (rate : ℚ) (tokens : Int) : ℚ :=
  let grdGross := round8 (tokens * rate)
  let feeGRD := round8 (grdGross * feeSwapRate)
  round8 (grdGross - feeGRD)

/-- A sale: the transfer of the tokens to the reserve may fail, GRD goes to the address anyway. -/
def swapSell (rate amount : ℚ) (calls : Calls) : Except String Unit × Moves :=
  let tokens := truncate amount
  let grdOut := sellOut rate tokens
  let moves : Moves := { tokensIn := if calls.transfers tokens then tokens else 0 }
  match calls.balance with
  | none => (.error "reserve balance check failed", moves)
  | some balance =>
    if balance < grdOut then (.error "reserve liquidity insufficient", moves)
    else if !calls.sent then (.error "GRD payout failed", moves)
    else (.ok (), { moves with grdOut := grdOut })

def handleDexSwap (maxAmountGRD rate : ℚ) (req : SwapRequest) (calls : Calls) :
    Except String Unit × Moves :=
  match checkSwap maxAmountGRD req with
  | .error err => (.error err, {})
  | .ok () =>
    if !calls.peg then (.error "stablecoin peg not found", {})
    else if req.direction = goString "buy" then swapBuy rate req.amount calls
    else swapSell rate req.amount calls

structure ReceiveRequest where
  assetID : GoString
  amount : ℚ
  address : GoString
  deriving DecidableEq

/-- The GRD that `handleReceiveGRD` pays. -/
def receiveOut (rate amount : ℚ) : ℚ := round8 (round8 (amount * rate) * (1 - feeSwapRate))

/-- No token is looked for. -/
def handleReceiveGRD (rate : ℚ) (req : ReceiveRequest) (calls : Calls) : Except String Unit × Moves :=
  if req.assetID = [] ∨ req.amount ≤ 0 ∨ req.address = [] then (.error "Missing required fields", {})
  else if !calls.peg then (.error "Peg rate tidak ditemukan", {})
  else if !calls.sent then (.error "Gagal kirim GRD", {})
  else (.ok (), { grdOut := receiveOut rate req.amount })

inductive Request
  | dexSwap (req : SwapRequest)
  | receiveGRD (req : ReceiveRequest)
  deriving DecidableEq

/-- What the reserve holds. -/
structure State where
  grd : ℚ
  tokens : Int
  deriving DecidableEq

variable (maxAmountGRD rate : ℚ)

/-- What a request moves, given what its calls come to. -/
def moves : Request × Calls → Moves
  | (.dexSwap req, calls) => (handleDexSwap maxAmountGRD rate req calls).2
  | (.receiveGRD req, calls) => (handleReceiveGRD rate req calls).2

def State.step (s : State) (x : Request × Calls) : State where
  grd := s.grd - (moves maxAmountGRD rate x).grdOut + (moves maxAmountGRD rate x).grdIn
  tokens := s.tokens - (moves maxAmountGRD rate x).tokensOut + (moves maxAmountGRD rate x).tokensIn

/-- The value of the reserve at the peg rate. -/
def State.value (s : State) : ℚ := s.grd + s.tokens * rate

end GarudaChain.Api.Reserve
