import GarudaChain.Extension.Wallet
import GarudaChain.Lib.Run

/-!
# The background worker of the browser extension

`background/index.ts`. One listener serves the popup and, through the content script, every web page.
-/

namespace GarudaChain.Extension

/-- `const { property, … } = message.params` -/
def destructure (property : String) : Option Params → Except String Params
  | some params => .ok params
  | none => .error ("Cannot destructure property '" ++ property ++ "' of 'message.params' as it is undefined.")

/-- `params.property` -/
def readProperty (property : String) : Option Params → Except String Params
  | some params => .ok params
  | none => .error ("Cannot read properties of undefined (reading '" ++ property ++ "')")

/-- `account.index` of an account that need not exist. -/
def existing : Option AccountMeta → Except String AccountMeta
  | some account => .ok account
  | none => .error "Cannot read properties of undefined (reading 'index')"

/-- The account with an address, or else the first one. -/
def accountFor (vault : VaultData) (address : Option String) : Option AccountMeta :=
  (vault.accounts.find? fun a => some a.address == address).or vault.accounts.head?

namespace Worker

variable (w : Worker) (c : Cause)

def requireSession : Except String (String × Nat) :=
  match w.getSession with
  | some session => .ok session
  | none => .error "Wallet terkunci"

def requestApproval (approvalId : String) (params : Option Params) : Worker :=
  (w.setPending { id := approvalId, method := c.message.method, params, origin := c.origin,
                  tabId := c.sender.tabId, requestId := c.message.id.getD "" }).sendResponse c .waiting

/-- `handleApproved` up to its first `await`. -/
def startApproved (p : PendingRequest) : Except String Worker :=
  match p.method with
  | .garudaRequestAccounts => do
    let (_, ref) ← w.requireSession
    .ok ((w.addConnectedSite p.origin).persistSession c ref (.sendAccounts p ref))
  | .garudaPlaceOrder => do
    let (_, ref) ← w.requireSession
    let params ← readProperty "assetId" p.params
    .ok (w.addTask c (.orderApproved p params ref))
  | .garudaSendTransaction => do
    let (_, ref) ← w.requireSession
    let params ← readProperty "from" p.params
    let account ← existing (accountFor (w.vault ref) (params.str "from"))
    .ok (w.addTask c (.transactionApproved p params (w.vault ref).mnemonic account))
  | .garudaSendToken => do
    let (_, ref) ← w.requireSession
    let params ← readProperty "from" p.params
    let account ← existing (accountFor (w.vault ref) (params.str "from"))
    .ok (w.addTask c (.tokenApproved p params (w.vault ref).mnemonic account))
  | .garudaSignMessage => do
    let (_, ref) ← w.requireSession
    let params ← destructure "message" p.params
    let account ← existing (accountFor (w.vault ref) (params.str "address"))
    .ok (w.addTask c (.messageApproved p params (w.vault ref).mnemonic account))
  | _ => .ok (w.sendResponse c (.result (.text "ok")))

def handleApproved (p : PendingRequest) : Worker :=
  match w.startApproved c p with
  | .ok w' => w'
  | .error text => w.fail c (some p) text

/-- `approval_response` -/
def approvalResponse (params : Params) : Worker :=
  match w.pendingOf (params.field "id") with
  | none => w.sendResponse c (.result .null)
  | some p =>
    if truthy (params.field "approved") then
      ((w.deletePending p.id).record c (.resolvedApproved p.id)).handleApproved c p
    else (w.deletePending p.id).finishApproved c p (.error "Ditolak pengguna")

/-- `handleMessage` up to its first `await`; `approvalId` is what `crypto.randomUUID` gives. -/
def handleMessage (approvalId : String) : Except String Worker :=
  match c.message.method with
  | .walletHasVault => .ok (w.sendResponse c (.result (.bool w.stored.isSome)))
  | .walletCreate => do
    let params ← destructure "mnemonic" c.message.params
    .ok (w.addTask c (.create ((params.str "mnemonic").getD "") ((params.str "password").getD "")
      (messageOr ((params.str "accountName").getD "") "Akun 1")))
  | .walletUnlock => do
    let params ← destructure "password" c.message.params
    .ok (w.addTask c (.unlock ((params.str "password").getD "")))
  | .walletLock => .ok (w.clearSession.sendResponse c (.result (.bool true)))
  | .walletIsUnlocked => .ok (w.sendResponse c (.result (.bool w.isUnlocked)))
  | .walletGetAccounts => do
    let (_, ref) ← w.requireSession
    .ok (w.sendResponse c (.result (.accounts (w.vault ref).accounts)))
  | .walletAddAccount => do
    let (_, ref) ← w.requireSession
    .ok (w.addTask c (.addAccount ref (w.vault ref).accounts.length))
  | .walletExportMnemonic => do
    let (_, ref) ← w.requireSession
    let params ← destructure "password" c.message.params
    .ok (w.addTask c (.exportMnemonic ref ((params.str "password").getD "")))
  | .walletGetBalance | .walletGetAddressInfo => do
    let _ ← w.requireSession
    .ok (w.addTask c (.query false))
  | .walletGetAssetList => .ok (w.addTask c (.query true))
  | .walletSendNative => do
    let (_, ref) ← w.requireSession
    let params ← destructure "to" c.message.params
    let account ← existing (w.vault ref).accounts.head?
    .ok (w.addTask c (.sendNative (w.vault ref).mnemonic account params))
  | .walletSendToken => do
    let (_, ref) ← w.requireSession
    let params ← destructure "to" c.message.params
    let account ← existing (w.vault ref).accounts.head?
    .ok (w.addTask c (.sendToken (w.vault ref).mnemonic account params))
  | .garudaRequestAccounts =>
    match w.getSession with
    | some (_, ref) =>
      if w.isConnectedSite c.origin then
        .ok (w.sendResponse c (.result (.addresses ((w.vault ref).accounts.map (·.address)))))
      else .ok (w.requestApproval c approvalId (some [("origin", .str c.origin)]))
    | none => .ok (w.requestApproval c approvalId (some [("origin", .str c.origin)]))
  | .garudaGetAccounts =>
    match w.getSession with
    | some (_, ref) =>
      .ok (w.sendResponse c (.result (.addresses
        (if w.isConnectedSite c.origin then (w.vault ref).accounts.map (·.address) else []))))
    | none => .ok (w.sendResponse c (.result (.addresses [])))
  | .garudaPlaceOrder => do
    let _ ← w.requireSession
    Result.require (w.isConnectedSite c.origin) "Site tidak terhubung"
    .ok (w.requestApproval c approvalId c.message.params)
  | .garudaSignMessage => do
    -- unlike the other requests, this one does not ask whether the site is connected
    let _ ← w.requireSession
    let params ← destructure "message" c.message.params
    .ok (w.requestApproval c approvalId
      (some (params.filter fun f => f.1 == "message" || f.1 == "address")))
  | .garudaSendTransaction => do
    let _ ← w.requireSession
    Result.require (w.isConnectedSite c.origin) "Site tidak terhubung"
    let params ← readProperty "from" c.message.params
    Result.failIf (!truthy (params.field "from") || !truthy (params.field "to") ||
      !truthy (params.field "amount") || (params.num "amount").any (· ≤ 0)) "Parameter tidak valid"
    .ok (w.requestApproval c approvalId (some params))
  | .garudaSendToken => do
    let _ ← w.requireSession
    Result.require (w.isConnectedSite c.origin) "Site tidak terhubung"
    let params ← readProperty "from" c.message.params
    Result.failIf (!truthy (params.field "from") || !truthy (params.field "to") ||
      !truthy (params.field "assetId") || !truthy (params.field "amount")) "Parameter tidak valid"
    .ok (w.requestApproval c approvalId (some params))
  | .approvalResponse => do
    let params ← destructure "id" c.message.params
    .ok (w.approvalResponse c params)
  | .unknown name => .error ("Unknown method: " ++ name)
  -- these three are served by the listener before it comes here
  | .getPendingApproval => .error "Unknown method: get_pending_approval"
  | .getAnyPending => .error "Unknown method: get_any_pending"
  | .getWalletInfo => .error "Unknown method: get_wallet_info"

def sendPending (p : Option PendingRequest) : Worker :=
  w.sendResponse c (.result (match p with
    | some p => .pending p.method p.params p.origin p.id
    | none => .null))

/-- The listener of `chrome.runtime.onMessage`. -/
def onMessage (approvalId : String) : Worker :=
  match c.message.method with
  | .getPendingApproval =>
    match c.message.params with
    | some params => w.sendPending c (w.pendingOf (params.field "id"))
    | none => w
  | .getAnyPending => w.sendPending c w.pendingRequests.head?
  | .getWalletInfo =>
    w.sendResponse c (.result (match w.getSession with
      | some (_, ref) =>
        if (w.vault ref).accounts.isEmpty then .null
        else .walletInfo ((w.vault ref).accounts.map fun a => (a.name, a.address))
      | none => .null))
  | _ =>
    match w.handleMessage c approvalId with
    | .ok w' => w'
    | .error text => w.fail c none text

variable (crypto : WalletCrypto) (net : Network)

def signAndBroadcast (request : Option PendingRequest)
    (built : Except String (DerivedKey × List UTXO × List TxOutput)) : Worker :=
  match built with
  | .error text => w.fail c request text
  | .ok (key, inputs, outputs) =>
    let w := w.record c (.signed (request.map (·.id)) key.address (.tx inputs outputs))
    match crypto.buildAndSignTx inputs outputs key with
    | .error text => w.fail c request text
    | .ok hex => w.addTask c (.broadcast request hex)

/-- What the API's answer to a broadcast becomes. -/
def broadcastResult (request : Option PendingRequest) : Worker :=
  match request with
  | none => w.sendResponse c (.result (.api net.body))
  | some p =>
    if p.method = .garudaPlaceOrder then w.finishApproved c p (.result (.api net.body))
    else if net.error.getD "" = "" then w.finishApproved c p (.result (.txid net.txid))
    else w.fail c (some p) (net.error.getD "")

/-- A task goes on, with what it gets from the API. -/
def resume : Task → Worker
  | .create mnemonic password accountName =>
    let key := crypto.deriveKey mnemonic 0
    let vault : VaultData :=
      { mnemonic, accounts := [⟨accountName, key.address, key.derivationPath, 0⟩]
        connectedSites := [] }
    { w with vaults := w.vaults ++ [vault] }.addTask c
      (.store vault password (.setSession password w.vaults.length key.address))
  | .store vault password next =>
    ({ w with stored := some (vault, password) }.record c
      (.vaultSaved next.request vault)).afterStore c next
  | .unlock password =>
    match w.loadVault password with
    | none => w.fail c none "Password salah"
    | some vault =>
      ({ w with vaults := w.vaults ++ [vault] }.setSession password w.vaults.length).sendResponse c
        (.result (.address (vault.accounts.head?.map AccountMeta.address)))
  | .addAccount ref nextIndex =>
    let key := crypto.deriveKey (w.vault ref).mnemonic nextIndex
    let account : AccountMeta :=
      ⟨"Akun " ++ toString (nextIndex + 1), key.address, key.derivationPath, nextIndex⟩
    { w with vaults := w.vaults.modify ref fun v =>
        { v with accounts := v.accounts ++ [account] } }.persistSession c ref
      (.replyAccount account)
  | .exportMnemonic ref password =>
    match w.loadVault password with
    | none => w.fail c none "Password salah"
    | some _ => w.sendResponse c (.result (.text (w.vault ref).mnemonic))
  | .query catches =>
    match net.reached with
    | .error text =>
      if catches then w.sendResponse c (.result (.api net.body)) else w.fail c none text
    | .ok () => w.sendResponse c (.result (.api net.body))
  | .sendNative mnemonic account params =>
    w.signAndBroadcast c crypto none do
      net.reached
      let amtSat ← amountOf params
      let tx ← payment account (params.str "to") amtSat net.utxos "Saldo tidak cukup"
      .ok (crypto.deriveKey mnemonic account.index, tx)
  | .sendToken mnemonic account _ =>
    w.signAndBroadcast c crypto none do
      net.reached
      let tx ← tokenTransfer account net
      .ok (crypto.deriveKey mnemonic account.index, tx)
  | .orderApproved p params ref =>
    w.signAndBroadcast c crypto (some p) do
      net.reached
      Result.failIf (net.error.getD "" != "") (net.error.getD "")
      let account ← existing (accountFor (w.vault ref) (params.str "address"))
      let tx ← orderTransaction params net
      .ok (crypto.deriveKey (w.vault ref).mnemonic account.index, tx)
  | .transactionApproved p params mnemonic account =>
    w.signAndBroadcast c crypto (some p) do
      net.reached
      let amount ← amountOf params
      let (inputs, outputs) ← payment account (params.str "to") (toSatoshi amount) net.utxos
        "Saldo GRD tidak cukup"
      .ok (crypto.deriveKey mnemonic account.index, inputs, outputs ++ memoOutput params)
  | .tokenApproved p _ mnemonic account =>
    w.signAndBroadcast c crypto (some p) do
      net.reached
      let tx ← tokenTransfer account net
      .ok (crypto.deriveKey mnemonic account.index, tx)
  | .messageApproved p params mnemonic account =>
    let key := crypto.deriveKey mnemonic account.index
    let text := (params.str "message").getD ""
    let w := w.record c (.signed (some p.id) key.address (.message text))
    match crypto.signBytes (messagePayload text) key with
    | .error e => w.fail c (some p) e
    | .ok signature =>
      w.finishApproved c p (.result (.signature signature (params.str "address")))
  | .broadcast request hex =>
    -- the request may have arrived even where it fails
    let w := w.record c (.broadcast (request.map (·.id)) hex)
    match net.reached with
    | .error text => w.fail c request text
    | .ok () => w.broadcastResult c net request

end Worker

/-- What happens to the worker. The timers run out and the browser stops the worker at any time. -/
inductive Event
  | page (origin : String) (tabId : Nat) (method : Method) (params : Option Params)
      (id : Option String) (approvalId : String)
  | popup (origin : String) (method : Method) (params : Option Params) (approvalId : String)
  | resume (task : Nat) (net : Network)
  | timeout (approvalId : String)
  | autoLock
  | restart
  deriving DecidableEq

/-- The message of an event. -/
def Event.cause : Event → Option Cause
  | .page origin tabId method params id _ => some (.relay origin tabId method params id)
  | .popup origin method params _ => some (.msg origin method params)
  | _ => none

namespace Worker

/-- The timer of `showApprovalPopup`. -/
def timeout (w : Worker) (approvalId : String) : Worker :=
  match w.pendingOf (some (.str approvalId)) with
  | some p => (w.deletePending approvalId).sendResultToTab p (.error "Request timeout")
  | none => w

def restart (w : Worker) : Worker :=
  { w with pendingRequests := [], sessionPassword := none, sessionVault := none, vaults := []
           tasks := [] }

def step (crypto : WalletCrypto) (w : Worker) : Event → Worker
  | .page origin tabId method params id approvalId =>
    w.onMessage (.relay origin tabId method params id) approvalId
  | .popup origin method params approvalId => w.onMessage (.msg origin method params) approvalId
  | .resume i net =>
    match w.tasks[i]? with
    | some (c, task) => { w with tasks := w.tasks.eraseIdx i }.resume c crypto net task
    | none => w
  | .timeout approvalId => w.timeout approvalId
  | .autoLock => w.clearSession
  | .restart => w.restart

end Worker

/-- The message approves the request with an id. -/
def Cause.Approves (c : Cause) (id : String) : Prop :=
  c.message.method = .approvalResponse ∧
    ∃ params, c.message.params = some params ∧ params.field "id" = some (.str id) ∧
      truthy (params.field "approved") = true

/-- The user asked for it in the popup, where it serves a request by approving it. -/
def Cause.Consents (c : Cause) (request : Option String) : Prop :=
  (∃ origin, c.sender = .popup origin) ∧ ∀ id ∈ request, c.Approves id

def Consented (events : List Event) (w : Worker) : Prop :=
  ∀ x ∈ w.effects, (∃ e ∈ events, e.cause = some x.1) ∧ x.1.Consents x.2.request

/-- A message that cannot bring about anything that needs consent, in the state in which it arrives. -/
def Harmless (w : Worker) (c : Cause) : Prop :=
  match c.message.method with
  | .walletCreate => False
  | .walletAddAccount | .walletSendNative | .walletSendToken => w.getSession = none
  | .approvalResponse => ∀ p ∈ w.pendingRequests, ¬ c.Approves p.id
  | _ => True

def PagesHarmless (w : Worker) : Event → Prop
  | .page origin tabId method params id _ => Harmless w (.relay origin tabId method params id)
  | _ => True

end GarudaChain.Extension
