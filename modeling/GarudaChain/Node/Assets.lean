import GarudaChain.Lib.Store
import GarudaChain.Node.Interpreter
import GarudaChain.Node.Rotation

/-!
# The asset ledger

`assets/asset_db.cpp` and the RPCs `transferasset` and `mintasset` of `rpc/assets.cpp`. A `std::string`
is its bytes.
-/

namespace GarudaChain

abbrev RpcResult := Except JSONRPCError

/-- What the RPCs read of the node they run in. -/
structure NodeEnv where
  crypto : Crypto
  auth : AuthorityState
  walletMode : WalletMode
  isValidDestination : Bytes → Bool

/-- `UniValue::getInt<int64_t>` on a JSON integer. -/
def getInt64 (value : Int) : RpcResult Int :=
  if -9223372036854775808 ≤ value ∧ value < 9223372036854775808 then .ok value
  else .error ⟨.miscError, "JSON integer out of range"⟩

/-- `UPPER_BOUND` of `ParseFixedPoint`: eighteen digits. -/
def parseUpperBound : Int := 999999999999999999

/-- `AmountFromValue`, on the value in satoshi of the parameter, if it is a number with at most eight
    decimals. `ParseFixedPoint` refuses one with more than eighteen digits. -/
def amountFromValue (value : Option Int) : RpcResult Int :=
  match value with
  | none => .error ⟨.typeError, "Invalid amount"⟩
  | some amount =>
    if amount > parseUpperBound ∨ amount < -parseUpperBound then
      .error ⟨.typeError, "Invalid amount"⟩
    else if moneyRange amount then .ok amount else .error ⟨.typeError, "Amount out of range"⟩

theorem getInt64_eq_ok {value x : Int} (h : getInt64 value = .ok x) :
    x = value ∧ -9223372036854775808 ≤ x ∧ x < 9223372036854775808 := by
  unfold getInt64 at h
  split_ifs at h with hrange
  obtain rfl := Except.ok.inj h
  exact ⟨rfl, hrange⟩

theorem amountFromValue_eq_ok {value : Option Int} {x : Int} (h : amountFromValue value = .ok x) :
    value = some x ∧ 0 ≤ x ∧ x ≤ 999999999999999999 := by
  cases value with
  | none => cases h
  | some amount =>
    simp only [amountFromValue] at h
    by_cases hbound : amount > parseUpperBound ∨ amount < -parseUpperBound
    · rw [if_pos hbound] at h
      cases h
    rw [if_neg hbound] at h
    split_ifs at h with hrange
    obtain rfl := Except.ok.inj h
    rw [parseUpperBound] at hbound
    exact ⟨rfl, ((moneyRange_iff _).mp hrange).1, by omega⟩

def hexChar (d : Nat) : Char := if d < 10 then Char.ofNat (48 + d) else Char.ofNat (87 + d)

/-- `HexStr`. -/
def hexStr (bytes : Bytes) : List Char :=
  bytes.flatMap fun b => [hexChar (b.toNat / 16), hexChar (b.toNat % 16)]

/-- `uint256::GetHex`: the bytes are shown in reverse. -/
def getHex (h : Uint256) : List Char := hexStr (uint256Bytes h).reverse

/-- The characters of a `std::string`. -/
def stringChars (s : Bytes) : List Char := s.map fun b => Char.ofNat b.toNat

/-- The fields of a parameter blob, separated by `|`. -/
def joinBar : List (List Char) → List Char := List.intercalate ['|']

/-- `RequirePQCAuth` as the RPCs call it: its exception becomes an invalid parameter. -/
def requireAuth (env : NodeEnv) (pqcHex : Option (List Char)) (opName : String)
    (params : List (List Char)) : RpcResult Unit :=
  match requirePQCAuth env.crypto env.auth (pqcHex.getD []) opName.toList (joinBar params) with
  | .error what => .error ⟨.invalidParameter, what⟩
  | .ok _ => .ok ()

def keyBefore {κ : Type} (serialize : κ → Bytes) (a b : κ) : Bool :=
  decide (serialize a < serialize b)

/-- `AssetInfo`, the fields the modelled RPCs use. -/
structure AssetInfo where
  assetId : Uint256
  symbol : String
  type : String
  totalSupply : Int
  creator : Bytes
  deriving DecidableEq

structure AssetDB where
  assets : Store Uint256 AssetInfo
  balances : Store (Uint256 × Bytes) Int
  keyed : ∀ e ∈ assets.entries, e.2.assetId = e.1

namespace AssetDB

def empty : AssetDB := ⟨.empty, .empty, List.forall_mem_nil _⟩

variable (db : AssetDB)

def readAsset (assetId : Uint256) : Option AssetInfo := db.assets.read assetId

def writeAsset (info : AssetInfo) : AssetDB where
  assets := db.assets.write (keyBefore uint256Bytes) info.assetId info
  balances := db.balances
  keyed := by
    rintro ⟨id, info'⟩ he
    rcases (Store.mem_write_iff _ _).mp he with ⟨rfl, rfl⟩ | ⟨-, hmem⟩
    · rfl
    · exact db.keyed _ hmem

/-- The first assets in the order of their ids. -/
def listAssets (maxCount : Nat) : List AssetInfo := (db.assets.entries.map Prod.snd).take maxCount

def readBalance (assetId : Uint256) (address : Bytes) : Int :=
  (db.balances.read (assetId, address)).getD 0

def balanceKey (key : Uint256 × Bytes) : Bytes := uint256Bytes key.1 ++ serializeBytes key.2

def writeBalance (assetId : Uint256) (address : Bytes) (balance : Int) : AssetDB :=
  { db with balances := db.balances.write (keyBefore balanceKey) (assetId, address) balance }

@[simp] theorem readAsset_writeBalance (assetId assetId' : Uint256) (address : Bytes)
    (balance : Int) :
    (db.writeBalance assetId address balance).readAsset assetId' = db.readAsset assetId' := rfl

theorem readBalance_writeBalance (assetId assetId' : Uint256) (address address' : Bytes)
    (balance : Int) :
    (db.writeBalance assetId address balance).readBalance assetId' address' =
      if assetId' = assetId ∧ address' = address then balance
      else db.readBalance assetId' address' := by
  unfold readBalance writeBalance
  by_cases h : (assetId', address') = (assetId, address)
  · obtain ⟨rfl, rfl⟩ := Prod.mk.injEq .. ▸ h
    simp
  · rw [Store.read_write_of_ne _ _ h, if_neg (by simpa using h)]

/-- The sum of the balances of an asset. -/
def assetTotal (assetId : Uint256) : Int :=
  db.balances.total fun key balance => if key.1 = assetId then balance else 0

/-- No balance is negative. -/
def Nonneg : Prop := ∀ e ∈ db.balances.entries, 0 ≤ e.2

end AssetDB

/-- `transferasset`: both balances are read before either is written. -/
def transferasset (env : NodeEnv) (db : AssetDB) (assetId : Uint256) (amount : Int)
    (fromAddr toAddr : Bytes) (pqcHex : Option (List Char)) : RpcResult (AssetDB × List Char) := do
  let amount ← getInt64 amount
  throwIf (decide (amount ≤ 0)) .invalidParameter "Amount harus positif"
  throwIf (!env.isValidDestination fromAddr) .invalidAddressOrKey "from address tidak valid"
  throwIf (!env.isValidDestination toAddr) .invalidAddressOrKey "to address tidak valid"
  requireAuth env pqcHex "transferasset"
    [getHex assetId, (toString amount).toList, stringChars fromAddr, stringChars toAddr]
  throwIf (db.readAsset assetId).isNone .invalidParameter "Asset tidak ditemukan"
  let fromBalance := db.readBalance assetId fromAddr
  throwIf (decide (fromBalance < amount)) .invalidParameter "Saldo tidak cukup"
  let toBalance := db.readBalance assetId toAddr
  let db := db.writeBalance assetId fromAddr (wrap64 (fromBalance - amount))
  let db := db.writeBalance assetId toAddr (wrap64 (toBalance + amount))
  .ok (db, hexStr (asciiBytes ['X', 'F', 'E', 'R'] ++ uint256Bytes assetId))

/-- The status of each write of `transferasset`, for those that throw. -/
structure TransferWrites where
  sender : Option String
  receiver : Option String
  log : Option String
  deriving DecidableEq

def databaseError (status : String) : JSONRPCError :=
  ⟨.miscError, "Fatal LevelDB error: " ++ status⟩

/-- The checks of `transferasset`, and the amount and the two balances it goes on with. -/
def transferBalances (env : NodeEnv) (db : AssetDB) (assetId : Uint256) (amount : Int)
    (fromAddr toAddr : Bytes) (pqcHex : Option (List Char)) : RpcResult (Int × Int × Int) := do
  let amount ← getInt64 amount
  throwIf (decide (amount ≤ 0)) .invalidParameter "Amount harus positif"
  throwIf (!env.isValidDestination fromAddr) .invalidAddressOrKey "from address tidak valid"
  throwIf (!env.isValidDestination toAddr) .invalidAddressOrKey "to address tidak valid"
  requireAuth env pqcHex "transferasset"
    [getHex assetId, (toString amount).toList, stringChars fromAddr, stringChars toAddr]
  throwIf (db.readAsset assetId).isNone .invalidParameter "Asset tidak ditemukan"
  let fromBalance := db.readBalance assetId fromAddr
  throwIf (decide (fromBalance < amount)) .invalidParameter "Saldo tidak cukup"
  .ok (amount, fromBalance, db.readBalance assetId toAddr)

/-- `transferasset` on a database whose writes may throw. -/
def transferassetOn (writes : TransferWrites) (env : NodeEnv) (db : AssetDB) (assetId : Uint256)
    (amount : Int) (fromAddr toAddr : Bytes) (pqcHex : Option (List Char)) :
    RpcResult (List Char) × AssetDB :=
  match transferBalances env db assetId amount fromAddr toAddr pqcHex with
  | .error err => (.error err, db)
  | .ok (amount, fromBalance, toBalance) =>
    match writes.sender with
    | some status => (.error (databaseError status), db)
    | none =>
      let db := db.writeBalance assetId fromAddr (wrap64 (fromBalance - amount))
      match writes.receiver with
      | some status => (.error (databaseError status), db)
      | none =>
        let db := db.writeBalance assetId toAddr (wrap64 (toBalance + amount))
        match writes.log with
        | some status => (.error (databaseError status), db)
        | none => (.ok (hexStr (asciiBytes ['X', 'F', 'E', 'R'] ++ uint256Bytes assetId)), db)

/-- A transfer that fails and changes nothing, or creates and destroys nothing and leaves no balance
    negative. -/
def TransferConserves (db : AssetDB) (assetId : Uint256) (fromAddr toAddr : Bytes) :
    RpcResult (List Char) × AssetDB → Prop
  | (.error _, db') => ∀ id address, db'.readBalance id address = db.readBalance id address
  | (.ok _, db') =>
    (∀ id, db'.assetTotal id = db.assetTotal id) ∧ db'.Nonneg ∧
      ∀ id address, id ≠ assetId ∨ (address ≠ fromAddr ∧ address ≠ toAddr) →
        db'.readBalance id address = db.readBalance id address

/-- What `mintasset` returns. -/
structure MintResult where
  opReturnHex : List Char
  newSupply : Int
  symbol : String
  deriving DecidableEq

/-- `mintasset`: the new supply goes to the creator of the asset. -/
def mintasset (env : NodeEnv) (db : AssetDB) (assetId : Uint256) (amount : Int)
    (pqcHex : Option (List Char)) : RpcResult (AssetDB × MintResult) := do
  throwIf (env.walletMode != .cbdc) .miscError
    ("Hanya node CBDC yang boleh mint asset. " ++ "Tidak bisa cetak uang modal dengkul! " ++
      "Tambahkan walletmode=cbdc di konfigurasi.")
  let amount ← getInt64 amount
  throwIf (decide (amount ≤ 0)) .invalidParameter "Amount harus positif"
  requireAuth env pqcHex "mintasset" [getHex assetId, (toString amount).toList]
  match db.readAsset assetId with
  | none => .error ⟨.invalidParameter, "Asset tidak ditemukan"⟩
  | some info =>
    let info := { info with totalSupply := wrap64 (info.totalSupply + amount) }
    let db := db.writeAsset info
    let db := db.writeBalance assetId info.creator
      (wrap64 (db.readBalance assetId info.creator + amount))
    .ok (db, { opReturnHex := hexStr (asciiBytes ['M', 'I', 'N', 'T'] ++ uint256Bytes assetId)
               newSupply := info.totalSupply
               symbol := info.symbol })

def sampleSeller : Bytes := asciiBytes "grd1qhaclxgx8xhzxjmwg8meuwp7k2ut53t0equ002s".toList

def sampleBuyer : Bytes := asciiBytes "grd1qufk0s4hh95gn7srrj06t0pmpzfym37ndjvjjgv".toList

def sampleAssetDB : AssetDB :=
  (AssetDB.empty.writeAsset ⟨7, "IDR", "stablecoin", 10, sampleSeller⟩).writeBalance 7 sampleSeller 10

end GarudaChain
