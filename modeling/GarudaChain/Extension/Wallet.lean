import GarudaChain.Lib.Result
import Mathlib.Algebra.Order.Ring.Int
import Mathlib.Algebra.Order.Ring.Rat
import Mathlib.Data.Rat.Floor

/-!
# The wallet of the browser extension

The messages that the background worker gets, its state with the session of `store/vault.ts`, and the
transactions it builds.
-/

namespace GarudaChain.Extension

/-- The methods that the listener and `handleMessage` tell apart. -/
inductive Method
  | getPendingApproval | getAnyPending | getWalletInfo
  | walletHasVault | walletCreate | walletUnlock | walletLock | walletIsUnlocked
  | walletGetAccounts | walletAddAccount | walletExportMnemonic
  | walletGetBalance | walletGetAddressInfo | walletGetAssetList
  | walletSendNative | walletSendToken
  | garudaRequestAccounts | garudaGetAccounts | garudaPlaceOrder | garudaSignMessage
  | garudaSendTransaction | garudaSendToken
  | approvalResponse
  | unknown (name : String)
  deriving DecidableEq

/-- The value of a field of `params`. -/
inductive Scalar
  | null
  | bool (b : Bool)
  | num (x : Rat)
  | str (s : String)
  | other
  deriving DecidableEq

/-- The fields of `params`. -/
abbrev Params := List (String × Scalar)

/-- Whether a field counts as true in a condition; an absent one is `undefined`. -/
def truthy : Option Scalar → Bool
  | none | some .null => false
  | some (.bool b) => b
  | some (.num x) => x != 0
  | some (.str s) => s != ""
  | some .other => true

namespace Params

variable (params : Params)

def field (name : String) : Option Scalar := params.lookup name

def str (name : String) : Option String :=
  match params.field name with
  | some (.str s) => some s
  | _ => none

def num (name : String) : Option Rat :=
  match params.field name with
  | some (.num x) => some x
  | _ => none

end Params

structure Message where
  method : Method
  /-- `none` if they are `undefined`, from which no field can be read. -/
  params : Option Params
  origin : Option String
  id : Option String
  deriving DecidableEq

inductive Sender
  | page (origin : String) (tabId : Nat)
  | popup (origin : String)
  deriving DecidableEq

def Sender.origin : Sender → String
  | .page origin _ => origin
  | .popup origin => origin

/-- `sender.tab?.id || -1` -/
def Sender.tabId : Sender → Int
  | .page _ tabId => if tabId = 0 then -1 else tabId
  | .popup _ => -1

/-- A message and who sent it. -/
structure Cause where
  sender : Sender
  message : Message
  deriving DecidableEq

namespace Cause

variable (c : Cause)

/-- `message.origin || sender.origin` -/
def origin : String :=
  match c.message.origin with
  | some origin => if origin = "" then c.sender.origin else origin
  | none => c.sender.origin

/-- What the content script of a page passes on, under the page's own origin. -/
def relay (origin : String) (tabId : Nat) (method : Method) (params : Option Params)
    (id : Option String) : Cause :=
  ⟨.page origin tabId, ⟨method, params, some origin, id⟩⟩

/-- `msg` of the popup's pages. -/
def msg (origin : String) (method : Method) (params : Option Params) : Cause :=
  ⟨.popup origin, ⟨method, params, none, none⟩⟩

end Cause

structure AccountMeta where
  name : String
  address : String
  derivationPath : String
  index : Nat
  deriving DecidableEq

/-- `VaultData` without the settings, which the worker writes but does not read. -/
structure VaultData where
  mnemonic : String
  accounts : List AccountMeta
  connectedSites : List String
  deriving DecidableEq, Inhabited

structure PendingRequest where
  id : String
  method : Method
  params : Option Params
  origin : String
  tabId : Int
  requestId : String
  deriving DecidableEq

structure UTXO where
  txid : String
  vout : Nat
  value : Int
  deriving DecidableEq

structure TxOutput where
  address : Option String := none
  opreturn : Option String := none
  value : Rat
  deriving DecidableEq

structure DerivedKey where
  privateKey : String
  address : String
  derivationPath : String
  deriving DecidableEq

/-- What is signed with the key of an account. -/
inductive Payload
  | tx (inputs : List UTXO) (outputs : List TxOutput)
  | message (text : String)
  deriving DecidableEq

/-- What the worker does that needs consent, with the id of the request it serves. -/
inductive Effect
  | signed (request : Option String) (address : String) (payload : Payload)
  | broadcast (request : Option String) (hex : String)
  | vaultSaved (request : Option String) (vault : VaultData)
  | resolvedApproved (id : String)
  deriving DecidableEq

def Effect.request : Effect → Option String
  | .signed request _ _ | .broadcast request _ | .vaultSaved request _ => request
  | .resolvedApproved id => some id

inductive Value
  | null
  | bool (b : Bool)
  | text (s : String)
  | address (a : Option String)
  | addresses (as : List String)
  | account (a : AccountMeta)
  | accounts (as : List AccountMeta)
  | walletInfo (as : List (String × String))
  | pending (method : Method) (params : Option Params) (origin id : String)
  | api (body : String)
  | txid (txid : String)
  | signature (signature : String) (address : Option String)
  deriving DecidableEq

inductive Response
  | result (value : Value)
  | error (text : String)
  | waiting
  deriving DecidableEq

inductive Outgoing
  | sendResponse (cause : Cause) (response : Response)
  | toTab (tabId : Int) (requestId : String) (response : Response)
  deriving DecidableEq

/-- What follows once a vault has been stored. -/
inductive AfterStore
  | setSession (password : String) (vault : Nat) (address : String)
  | replyAccount (account : AccountMeta)
  | sendAccounts (pending : PendingRequest) (vault : Nat)
  deriving DecidableEq

/-- The approved request for which a vault is stored. -/
def AfterStore.request : AfterStore → Option String
  | .sendAccounts p _ => some p.id
  | _ => none

/-- The rest of a handler after an `await`. -/
inductive Task
  | create (mnemonic password accountName : String)
  | store (vault : VaultData) (password : String) (next : AfterStore)
  | unlock (password : String)
  | addAccount (vault nextIndex : Nat)
  | exportMnemonic (vault : Nat) (password : String)
  /-- A handler that only reads from the API; `wallet_getAssetList` catches its errors. -/
  | query (catches : Bool)
  | sendNative (mnemonic : String) (account : AccountMeta) (params : Params)
  | sendToken (mnemonic : String) (account : AccountMeta) (params : Params)
  | orderApproved (pending : PendingRequest) (params : Params) (vault : Nat)
  | transactionApproved (pending : PendingRequest) (params : Params) (mnemonic : String)
      (account : AccountMeta)
  | tokenApproved (pending : PendingRequest) (params : Params) (mnemonic : String)
      (account : AccountMeta)
  | messageApproved (pending : PendingRequest) (params : Params) (mnemonic : String)
      (account : AccountMeta)
  | broadcast (request : Option PendingRequest) (hex : String)
  deriving DecidableEq

/-- What a task gets from the API. -/
structure Network where
  failure : Option String := none
  /-- `error` and `opreturn_data` of a `prepare` request, `error` of a broadcast. -/
  error : Option String := none
  opreturnData : Option String := none
  utxos : List UTXO := []
  body : String := ""
  txid : String := ""
  deriving DecidableEq

/-- A request to the API that fails throws. -/
def Network.reached (net : Network) : Except String Unit :=
  match net.failure with
  | some text => .error text
  | none => .ok ()

/-- `crypto/wallet.ts` -/
structure WalletCrypto where
  deriveKey : String → Nat → DerivedKey
  buildAndSignTx : List UTXO → List TxOutput → DerivedKey → Except String String
  signBytes : List UInt8 → DerivedKey → Except String String

structure Worker where
  pendingRequests : List PendingRequest
  sessionPassword : Option String
  sessionVault : Option Nat
  vaults : List VaultData
  /-- The vault in the storage, with the password it is encrypted with. -/
  stored : Option (VaultData × String)
  tasks : List (Cause × Task)
  effects : List (Cause × Effect)
  sent : List Outgoing
  deriving DecidableEq

/-- The text of an error, or a default where it is empty. -/
def messageOr (text default : String) : String := if text = "" then default else text

namespace Worker

variable (w : Worker)

def vault (ref : Nat) : VaultData := w.vaults.getD ref default

/-- `getSession`: an empty password counts as none. -/
def getSession : Option (String × Nat) :=
  match w.sessionPassword, w.sessionVault with
  | some password, some ref => if password = "" then none else some (password, ref)
  | _, _ => none

def setSession (password : String) (ref : Nat) : Worker :=
  { w with sessionPassword := some password, sessionVault := some ref }

def clearSession : Worker := { w with sessionPassword := none, sessionVault := none }

def isUnlocked : Bool := w.sessionPassword.isSome && w.sessionVault.isSome

def isConnectedSite (origin : String) : Bool :=
  match w.sessionVault with
  | some ref => (w.vault ref).connectedSites.contains origin
  | none => false

def addConnectedSite (origin : String) : Worker :=
  match w.sessionVault with
  | some ref =>
    if (w.vault ref).connectedSites.contains origin then w
    else { w with vaults := w.vaults.modify ref fun v =>
            { v with connectedSites := v.connectedSites ++ [origin] } }
  | none => w

def loadVault (password : String) : Option VaultData :=
  match w.stored with
  | some (vault, key) => if key = password then some vault else none
  | none => none

/-- `pendingRequests.get` -/
def pendingOf (id : Option Scalar) : Option PendingRequest :=
  w.pendingRequests.find? fun p => some (.str p.id) == id

/-- `pendingRequests.delete` -/
def deletePending (id : String) : Worker :=
  { w with pendingRequests := w.pendingRequests.filter fun p => p.id != id }

/-- `pendingRequests.set`: a new key comes last, an old one keeps its place. -/
def setPending (p : PendingRequest) : Worker :=
  if w.pendingRequests.any (fun q => q.id == p.id) then
    { w with pendingRequests := w.pendingRequests.map fun q => if q.id == p.id then p else q }
  else { w with pendingRequests := w.pendingRequests ++ [p] }

def sendResultToTab (p : PendingRequest) (response : Response) : Worker :=
  if p.tabId < 0 then w else { w with sent := w.sent ++ [.toTab p.tabId p.requestId response] }

variable (c : Cause)

def addTask (task : Task) : Worker := { w with tasks := w.tasks ++ [(c, task)] }

def record (effect : Effect) : Worker := { w with effects := w.effects ++ [(c, effect)] }

def sendResponse (response : Response) : Worker :=
  { w with sent := w.sent ++ [.sendResponse c response] }

/-- The end of an approved request: the result goes to the tab, and the popup gets its answer. -/
def finishApproved (p : PendingRequest) (response : Response) : Worker :=
  (w.sendResultToTab p response).sendResponse c (.result (.text "ok"))

def fail (request : Option PendingRequest) (text : String) : Worker :=
  match request with
  | some p => w.finishApproved c p (.error (messageOr text "Error"))
  | none => w.sendResponse c (.error (messageOr text "Unknown error"))

def afterStore : AfterStore → Worker
  | .setSession password ref address =>
    (w.setSession password ref).sendResponse c (.result (.address (some address)))
  | .replyAccount account => w.sendResponse c (.result (.account account))
  | .sendAccounts p ref =>
    w.finishApproved c p (.result (.addresses ((w.vault ref).accounts.map (·.address))))

/-- `persistSession`: the vault is written out as it is now, and encrypted and stored later. -/
def persistSession (ref : Nat) (next : AfterStore) : Worker :=
  match w.sessionPassword with
  | some password =>
    if password = "" then w.afterStore c next
    else { w with sessionVault := some ref }.addTask c (.store (w.vault ref) password next)
  | none => w.afterStore c next

end Worker

def FEE : Int := 1000

/-- The amount of a payment as a number. -/
def amountOf (params : Params) : Except String Rat :=
  match params.num "amount" with
  | some amount => .ok amount
  | none => .error "Cannot convert undefined to a BigInt"

def collect (need : Rat) : List UTXO → List UTXO → Int → List UTXO × Int
  | [], selected, collected => (selected, collected)
  | u :: utxos, selected, collected =>
    if need ≤ ((collected + u.value : Int) : Rat) then (selected ++ [u], collected + u.value)
    else collect need utxos (selected ++ [u]) (collected + u.value)

/-- A change output, unless the change is dust. -/
def changeOutput (address : Option String) (change : Rat) : List TxOutput :=
  if 546 < change then [{ address := address, value := change }] else []

/-- The payment of `wallet_sendNative` and of an approved `garuda_sendTransaction`. -/
def payment (account : AccountMeta) (toAddr : Option String) (amtSat : Rat) (utxos : List UTXO)
    (short : String) : Except String (List UTXO × List TxOutput) := do
  Result.failIf utxos.isEmpty "Tidak ada UTXO tersedia"
  let (selected, collected) := collect (amtSat + FEE) utxos [] 0
  Result.failIf ((collected : Rat) < amtSat + FEE) short
  .ok (selected, { address := toAddr, value := amtSat } ::
    changeOutput (some account.address) (collected - amtSat - FEE))

/-- The transaction of `wallet_sendToken` and of an approved `garuda_sendToken`. -/
def tokenTransfer (account : AccountMeta) (net : Network) :
    Except String (List UTXO × List TxOutput) := do
  let error := net.error.getD ""
  let opreturn := net.opreturnData.getD ""
  Result.failIf (error != "" || opreturn == "") (messageOr error "Gagal prepare transfer")
  Result.failIf net.utxos.isEmpty "Tidak ada UTXO (butuh GRD untuk fee)"
  let (selected, collected) := collect (FEE + 546) net.utxos [] 0
  Result.failIf (collected < FEE) "Saldo GRD tidak cukup untuk fee"
  .ok (selected, { opreturn := some opreturn, value := 0 } ::
    changeOutput (some account.address) (collected - FEE))

/-- The transaction of an approved `garuda_placeOrder`. -/
def orderTransaction (params : Params) (net : Network) :
    Except String (List UTXO × List TxOutput) := do
  Result.failIf net.utxos.isEmpty "Tidak ada UTXO"
  let totalIn := (net.utxos.map (·.value)).sum
  .ok (net.utxos, { opreturn := net.opreturnData, value := 0 } ::
    changeOutput (params.str "address") (totalIn - FEE))

/-- `Math.round(amount * 100_000_000)` -/
def toSatoshi (amount : Rat) : Int := (amount * 100000000 + 1 / 2).floor

def memoHex (memo : String) : String :=
  String.ofList (memo.toUTF8.toList.flatMap fun b =>
    [Nat.digitChar (b.toNat / 16), Nat.digitChar (b.toNat % 16)])

def memoOutput (params : Params) : List TxOutput :=
  match params.str "memo" with
  | some memo => if memo = "" then [] else [{ opreturn := some (memoHex memo), value := 0 }]
  | none => []

def messagePayload (msg : String) : List UInt8 :=
  "\x18GarudaChain Signed Message:\n".toUTF8.toList ++ [UInt8.ofNat msg.toUTF8.size] ++
    msg.toUTF8.toList

end GarudaChain.Extension
