import GarudaChain.Dex.OrderBook

/-!
# Escrow of the order book

What the order book is for: every unit of an asset and every satoshi of virtual GRD is in a balance or
held by an active order.
-/

namespace GarudaChain

/-- The virtual GRD an order holds. -/
def Order.buyHold (o : Order) : Int :=
  if o.side = .buy ∧ o.active = true then (o.amount - o.filled) * o.price else 0

/-- The units of an asset an order holds. -/
def Order.sellHold (assetId : Uint256) (o : Order) : Int :=
  if o.side = .sell ∧ o.active = true ∧ o.assetId = assetId then o.amount - o.filled else 0

namespace Databases

variable (dbs : Databases)

def grdTotal : Int := dbs.dexDb.grdBalances.total fun _ balance => balance

def assetTotal (assetId : Uint256) : Int :=
  dbs.assetDb.balances.total fun key balance => if key.1 = assetId then balance else 0

def buyEscrow : Int := dbs.dexDb.orders.total fun _ o => o.buyHold

def sellEscrow (assetId : Uint256) : Int := dbs.dexDb.orders.total fun _ o => o.sellHold assetId

/-- No balance is negative. -/
structure Nonneg : Prop where
  grd : ∀ e ∈ dbs.dexDb.grdBalances.entries, 0 ≤ e.2
  asset : ∀ e ∈ dbs.assetDb.balances.entries, 0 ≤ e.2

/-- The balances and the orders together hold this much virtual GRD and this much of each asset, and
    no balance is negative. -/
structure Backed (grd : Int) (supply : Uint256 → Int) : Prop where
  grd_eq : dbs.grdTotal + dbs.buyEscrow = grd
  asset_eq : ∀ assetId, dbs.assetTotal assetId + dbs.sellEscrow assetId = supply assetId
  nonneg : dbs.Nonneg

def grdWealth (address : Bytes) : Int :=
  dbs.dexDb.readGrdBalance address +
    dbs.dexDb.orders.total fun _ o => if o.owner = address then o.buyHold else 0

/-- The units of an asset of an address: its balance and what its active SELL orders hold. -/
def assetWealth (assetId : Uint256) (address : Bytes) : Int :=
  dbs.assetDb.readBalance assetId address +
    dbs.dexDb.orders.total fun _ o => if o.owner = address then o.sellHold assetId else 0

end Databases

inductive DexRequest
  | depositgrd (address : Bytes) (amount : Option Int) (pqcHex : Option (List Char))
  | withdrawgrd (address : Bytes) (amount : Option Int) (pqcHex : Option (List Char))
  | placeorder (assetId : Uint256) (sideStr : String) (amount : Int) (price : Option Int)
      (address : Bytes) (now : Int)
  | cancelorder (orderId : Uint256) (address : Bytes)
  | matchorders (assetId : Uint256) (clock : Nat → Int)

/-- The databases and what the run so far has done. -/
structure DexRun where
  dbs : Databases
  deposited : Int
  withdrawn : Int
  placed : List OrderKey

namespace DexRun

def exec (env : DexEnv) (s : DexRun) : DexRequest → RpcResult DexRun
  | .depositgrd address amount pqcHex => do
    let (dbs, _) ← GarudaChain.depositgrd env s.dbs address amount pqcHex
    .ok { s with dbs := dbs, deposited := s.deposited + amount.getD 0 }
  | .withdrawgrd address amount pqcHex => do
    let (dbs, _) ← GarudaChain.withdrawgrd env s.dbs address amount pqcHex
    .ok { s with dbs := dbs, withdrawn := s.withdrawn + amount.getD 0 }
  | .placeorder assetId sideStr amount price address now => do
    let (dbs, key) ← GarudaChain.placeorder env s.dbs assetId sideStr amount price address now
    .ok { s with dbs := dbs, placed := s.placed ++ [key] }
  | .cancelorder orderId address => do
    let (dbs, _) ← GarudaChain.cancelorder s.dbs orderId address
    .ok { s with dbs := dbs }
  | .matchorders assetId clock => do
    let (dbs, _) ← GarudaChain.matchorders env s.dbs assetId clock
    .ok { s with dbs := dbs }

/-- A request that fails leaves everything as it is. -/
def step (env : DexEnv) (s : DexRun) (request : DexRequest) : DexRun :=
  match s.exec env request with
  | .ok s' => s'
  | .error _ => s

def start (assetDb : AssetDB) (marketMakers : Store Uint256 MarketMaker)
    (oraclePegRates : Store String OraclePegRate) : DexRun where
  dbs := ⟨assetDb, ⟨.empty, .empty, marketMakers, oraclePegRates⟩⟩
  deposited := 0
  withdrawn := 0
  placed := []

end DexRun

/-- Orders with distinct keys that the hash separates, whose BUY orders cost what fits in `int64_t`.
    -/
structure Placeable (crypto : Crypto) (placed : List OrderKey) : Prop where
  nodup : placed.Nodup
  ids : ∀ key ∈ placed, ∀ key' ∈ placed,
    computeOrderId crypto key = computeOrderId crypto key' → key.bytes = key'.bytes
  fits : ∀ key ∈ placed, key.side = .buy → key.amount * key.price < 9223372036854775808

/-! ## A small instance

Two addresses and one asset for the witnesses and counterexamples of the order book. The hash is
SHA-256 on the keys of the orders there. -/

def sampleDigests : List (OrderKey × Uint256) :=
  [(⟨7, .sell, 30, 5, sampleSeller, 1000⟩,
      0x315f006fe15ddb1eac869542b07f9cf45f49d1d21f9ffc39cab85d1228da4dff),
    (⟨7, .buy, 40, 8, sampleBuyer, 1001⟩,
      0x83f7d5e3ac24cb78ee957d958cbca27a890612a2f635885a04bcdcae90a4998),
    (⟨7, .buy, 997, 100000000, sampleSeller, 1000⟩,
      0xa0d0d0f5b8ef4851079fdb6836aee4cb00b3a9065028794e768b263a3cdf5009),
    (⟨7, .sell, 1002, 100000000, sampleSeller, 2000⟩,
      0xaf677c9e59a1dcefef4cbffc2ce410f3592f31621c93bba93f1f7291c1273fec),
    (⟨7, .buy, 1002, 5, sampleBuyer, 1001⟩,
      0x0fc7fbd832936305f2f18dc7413276cfbbc4780e1e77eb51c1bd277a9732a8ba),
    (⟨7, .buy, 987, 100000000000, sampleBuyer, 1000⟩,
      0x8b5a4de05fb7be52c881925dfc6b771b8315ae27e877400f9d544ac277f21d1c),
    (⟨7, .buy, 996, 100000000000, sampleBuyer, 1001⟩,
      0x6fbde30e01c66c3e363d9dd756884d358d23b26d935d7180eda6f2fe23de7810),
    (⟨7, .buy, 992, 100000000000, sampleBuyer, 1000⟩,
      0xa03d963a11bcd0d811ad3a55fd37cf939d9065fc0b9f3e2d6af1031fba0ec4a2),
    (⟨7, .buy, 987, 100000000000, sampleBuyer, 1001⟩,
      0xeb85982236bdd3d2b651733f7cab22ab090d4af2c4bc79154dc11c95c8d8fc78)]

def sampleSha256 (bytes : Bytes) : Bytes :=
  match sampleDigests.find? fun e => e.1.bytes == bytes with
  | some e => uint256Bytes e.2
  | none => List.replicate 32 0

def sampleDexEnv : DexEnv where
  crypto := { sampleCrypto with sha256 := sampleSha256 }
  auth := sampleAuthority '1'
  walletMode := .cbdc
  isValidDestination address := address == sampleSeller || address == sampleBuyer
  sort before orders := orders.insertionSort fun a b => before b a = false
  sort_perm _ orders := List.perm_insertionSort _ orders

def sampleEnvWith (digests : List (Bytes × Uint256)) : DexEnv :=
  { sampleDexEnv with
    crypto := { sampleDexEnv.crypto with
      sha256 := fun bytes =>
        match digests.find? fun e => e.1 == bytes with
        | some e => uint256Bytes e.2
        | none => sampleSha256 bytes } }

end GarudaChain
