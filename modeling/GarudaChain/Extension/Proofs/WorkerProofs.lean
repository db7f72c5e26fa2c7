import GarudaChain.Extension.Background

/-!
# What a step of the background worker can do

One lemma says what a message can start, one what a task can do when it goes on.
-/

namespace GarudaChain.Extension

/-- What is new in a state is for one message, with tasks of a kind and effects of a kind. -/
structure Extends (c : Cause) (T : Task → Prop) (E : Effect → Prop) (w w' : Worker) : Prop where
  tasks : ∀ x ∈ w'.tasks, x ∈ w.tasks ∨ x.1 = c ∧ T x.2
  effects : ∀ x ∈ w'.effects, x ∈ w.effects ∨ x.1 = c ∧ E x.2

section

variable {c : Cause} {T : Task → Prop} {E : Effect → Prop} {w w' w'' : Worker}

theorem Extends.of_eq (ht : w'.tasks = w.tasks) (he : w'.effects = w.effects) :
    Extends c T E w w' where
  tasks _ hx := .inl (ht ▸ hx)
  effects _ hx := .inl (he ▸ hx)

theorem Extends.trans (h : Extends c T E w w') (h' : Extends c T E w' w'') : Extends c T E w w'' where
  tasks x hx := (h'.tasks x hx).elim (h.tasks x) .inr
  effects x hx := (h'.effects x hx).elim (h.effects x) .inr

theorem Extends.mono {T' : Task → Prop} {E' : Effect → Prop} (hT : ∀ t, T t → T' t)
    (hE : ∀ e, E e → E' e) (h : Extends c T E w w') : Extends c T' E' w w' where
  tasks x hx := (h.tasks x hx).imp_right fun hnew => ⟨hnew.1, hT _ hnew.2⟩
  effects x hx := (h.effects x hx).imp_right fun hnew => ⟨hnew.1, hE _ hnew.2⟩

theorem Extends.addTask {task : Task} (h : Extends c T E w w') (hT : T task) :
    Extends c T E w (w'.addTask c task) where
  tasks x hx := by
    rcases List.mem_append.mp hx with hold | hnew
    · exact h.tasks x hold
    · rw [List.mem_singleton.mp hnew]
      exact .inr ⟨rfl, hT⟩
  effects := h.effects

theorem Extends.record {effect : Effect} (h : Extends c T E w w') (hE : E effect) :
    Extends c T E w (w'.record c effect) where
  tasks := h.tasks
  effects x hx := by
    rcases List.mem_append.mp hx with hold | hnew
    · exact h.effects x hold
    · rw [List.mem_singleton.mp hnew]
      exact .inr ⟨rfl, hE⟩

end

section

variable (w : Worker) (c : Cause)

@[simp] theorem addConnectedSite_tasks (origin : String) :
    (w.addConnectedSite origin).tasks = w.tasks := by
  unfold Worker.addConnectedSite
  split
  · split <;> rfl
  · rfl

@[simp] theorem addConnectedSite_effects (origin : String) :
    (w.addConnectedSite origin).effects = w.effects := by
  unfold Worker.addConnectedSite
  split
  · split <;> rfl
  · rfl

@[simp] theorem setPending_tasks (p : PendingRequest) : (w.setPending p).tasks = w.tasks := by
  unfold Worker.setPending
  split <;> rfl

@[simp] theorem setPending_effects (p : PendingRequest) : (w.setPending p).effects = w.effects := by
  unfold Worker.setPending
  split <;> rfl

@[simp] theorem sendResultToTab_tasks (p : PendingRequest) (r : Response) :
    (w.sendResultToTab p r).tasks = w.tasks := by
  unfold Worker.sendResultToTab
  split <;> rfl

@[simp] theorem sendResultToTab_effects (p : PendingRequest) (r : Response) :
    (w.sendResultToTab p r).effects = w.effects := by
  unfold Worker.sendResultToTab
  split <;> rfl

variable {T : Task → Prop} {E : Effect → Prop}

theorem extends_sendResponse (r : Response) : Extends c T E w (w.sendResponse c r) :=
  .of_eq rfl rfl

theorem extends_finishApproved (p : PendingRequest) (r : Response) :
    Extends c T E w (w.finishApproved c p r) :=
  .of_eq (sendResultToTab_tasks w p r) (sendResultToTab_effects w p r)

theorem extends_fail (request : Option PendingRequest) (text : String) :
    Extends c T E w (w.fail c request text) := by
  cases request with
  | none => exact extends_sendResponse w c _
  | some p => exact extends_finishApproved w c p _

theorem extends_requestApproval (approvalId : String) (params : Option Params) :
    Extends c T E w (w.requestApproval c approvalId params) :=
  .of_eq (setPending_tasks w _) (setPending_effects w _)

theorem extends_afterStore (next : AfterStore) : Extends c T E w (w.afterStore c next) := by
  cases next with
  | setSession password ref address => exact .of_eq rfl rfl
  | replyAccount account => exact extends_sendResponse w c _
  | sendAccounts p ref => exact extends_finishApproved w c p _

theorem extends_persistSession {ref : Nat} {next : AfterStore}
    (hT : ∀ vault password, T (.store vault password next)) :
    Extends c T E w (w.persistSession c ref next) := by
  unfold Worker.persistSession
  split
  · split
    · exact extends_afterStore w c next
    · exact Extends.addTask (.of_eq rfl rfl) (hT _ _)
  · exact extends_afterStore w c next

end

/-- The message approves a request that waits for it. -/
def Approved (w : Worker) (c : Cause) (p : PendingRequest) : Prop :=
  p ∈ w.pendingRequests ∧ c.Approves p.id

def PendingRequest.named (p : PendingRequest) : Option String :=
  p.params.bind fun params =>
    match p.method with
    | .garudaSendTransaction | .garudaSendToken => params.str "from"
    | _ => params.str "address"

/-- The tasks of `handleApproved`. An order keeps the vault, as its account is looked up later. -/
def ApprovedTask (w : Worker) (p : PendingRequest) : Task → Prop
  | .store _ _ next => ∃ ref, next = .sendAccounts p ref
  | .orderApproved q params ref => q = p ∧ p.named = params.str "address" ∧
      ∃ password, w.getSession = some (password, ref)
  | .transactionApproved q _ mnemonic account | .tokenApproved q _ mnemonic account
  | .messageApproved q _ mnemonic account => q = p ∧
      (p.method ≠ .garudaPlaceOrder ∧ p.method ≠ .garudaRequestAccounts) ∧
      ∃ password ref, w.getSession = some (password, ref) ∧ mnemonic = (w.vault ref).mnemonic ∧
        accountFor (w.vault ref) p.named = some account
  | _ => False

def Started (w : Worker) (c : Cause) : Task → Prop
  | .create _ _ _ => c.message.method = .walletCreate
  | .addAccount _ _ => c.message.method = .walletAddAccount ∧ w.getSession ≠ none
  | .sendNative _ _ _ => c.message.method = .walletSendNative ∧ w.getSession ≠ none
  | .sendToken _ _ _ => c.message.method = .walletSendToken ∧ w.getSession ≠ none
  | .unlock _ | .exportMnemonic _ _ | .query _ => True
  | task => ∃ p, Approved w c p ∧ ApprovedTask w p task

def Resolved (w : Worker) (c : Cause) (effect : Effect) : Prop :=
  ∃ p, Approved w c p ∧ effect = .resolvedApproved p.id

section

variable {w w' : Worker} {c : Cause} {p : PendingRequest} {approvalId : String}

theorem getSession_of_requireSession {session : String × Nat}
    (h : w.requireSession = .ok session) : w.getSession = some session := by
  unfold Worker.requireSession at h
  split at h
  · rename_i found
    rw [found, Except.ok.inj h]
  · cases h

theorem params_of_readProperty {property : String} {params : Option Params} {read : Params}
    (h : readProperty property params = .ok read) : params = some read := by
  cases params with
  | none => cases h
  | some params => rw [Except.ok.inj h]

theorem params_of_destructure {property : String} {params : Option Params} {read : Params}
    (h : destructure property params = .ok read) : params = some read := by
  cases params with
  | none => cases h
  | some params => rw [Except.ok.inj h]

theorem account_of_existing {found : Option AccountMeta} {account : AccountMeta}
    (h : existing found = .ok account) : found = some account := by
  cases found with
  | none => cases h
  | some account => rw [Except.ok.inj h]

theorem extends_startApproved {E : Effect → Prop} (h : w.startApproved c p = .ok w') :
    Extends c (ApprovedTask w p) E w w' := by
  cases hmethod : p.method with
  | garudaRequestAccounts =>
    simp only [Worker.startApproved, hmethod, Result.bind_ok_iff] at h
    obtain ⟨⟨_, ref⟩, -, h⟩ := h
    cases h
    have hsite : Extends c (ApprovedTask w p) E w (w.addConnectedSite p.origin) :=
      .of_eq (addConnectedSite_tasks w _) (addConnectedSite_effects w _)
    exact hsite.trans (extends_persistSession _ c fun _ _ => ⟨ref, rfl⟩)
  | garudaPlaceOrder =>
    simp only [Worker.startApproved, hmethod, Result.bind_ok_iff] at h
    obtain ⟨⟨password, ref⟩, hsession, params, hparams, h⟩ := h
    cases h
    refine Extends.addTask (.of_eq rfl rfl) ⟨rfl, ?_, password, getSession_of_requireSession hsession⟩
    simp [PendingRequest.named, params_of_readProperty hparams, hmethod]
  | garudaSendTransaction | garudaSendToken =>
    simp only [Worker.startApproved, hmethod, Result.bind_ok_iff] at h
    obtain ⟨⟨password, ref⟩, hsession, params, hparams, account, haccount, h⟩ := h
    cases h
    refine Extends.addTask (.of_eq rfl rfl) ⟨rfl, by simp [hmethod], password, ref,
      getSession_of_requireSession hsession, rfl, ?_⟩
    simp [PendingRequest.named, params_of_readProperty hparams, hmethod, account_of_existing haccount]
  | garudaSignMessage =>
    simp only [Worker.startApproved, hmethod, Result.bind_ok_iff] at h
    obtain ⟨⟨password, ref⟩, hsession, params, hparams, account, haccount, h⟩ := h
    cases h
    refine Extends.addTask (.of_eq rfl rfl) ⟨rfl, by simp [hmethod], password, ref,
      getSession_of_requireSession hsession, rfl, ?_⟩
    simp [PendingRequest.named, params_of_destructure hparams, hmethod, account_of_existing haccount]
  | _ =>
    simp only [Worker.startApproved, hmethod, Except.ok.injEq] at h
    subst h
    exact extends_sendResponse w c _

theorem extends_handleApproved {E : Effect → Prop} :
    Extends c (ApprovedTask w p) E w (w.handleApproved c p) := by
  unfold Worker.handleApproved
  split
  · rename_i h
    exact extends_startApproved h
  · exact extends_fail w c _ _

theorem started_of_approvedTask {task : Task} (hp : Approved w c p) (h : ApprovedTask w p task) :
    Started w c task := by
  cases task with
  | store | orderApproved | transactionApproved | tokenApproved | messageApproved => exact ⟨p, hp, h⟩
  | _ => exact h.elim

theorem extends_approvalResponse {params : Params} (hmethod : c.message.method = .approvalResponse)
    (hparams : c.message.params = some params) :
    Extends c (Started w c) (Resolved w c) w (w.approvalResponse c params) := by
  unfold Worker.approvalResponse
  split
  · exact extends_sendResponse w c _
  · rename_i p hp
    have hdelete : Extends c (Started w c) (Resolved w c) w (w.deletePending p.id) := .of_eq rfl rfl
    have hid : some (Scalar.str p.id) = params.field "id" := by simpa using List.find?_some hp
    split
    · rename_i hyes
      have happroved : Approved w c p :=
        ⟨List.mem_of_find?_eq_some hp, hmethod, params, hparams, hid.symm, hyes⟩
      refine (hdelete.record ⟨p, happroved, rfl⟩).trans ?_
      -- the session and the vaults are those of the state before
      refine extends_handleApproved.mono (fun t ht => started_of_approvedTask happroved ?_)
        fun e he => he
      cases t <;> exact ht
    · exact hdelete.trans (extends_finishApproved _ c p _)

theorem extends_handleMessage (h : w.handleMessage c approvalId = .ok w') :
    Extends c (Started w c) (Resolved w c) w w' := by
  unfold Worker.handleMessage at h
  cases hmethod : c.message.method with
  | walletCreate =>
    simp only [hmethod, Result.bind_ok_iff] at h
    obtain ⟨params, -, h⟩ := h
    cases h
    exact Extends.addTask (.of_eq rfl rfl) hmethod
  | walletAddAccount =>
    simp only [hmethod, Result.bind_ok_iff] at h
    obtain ⟨session, hsession, h⟩ := h
    cases h
    exact Extends.addTask (.of_eq rfl rfl)
      ⟨hmethod, by simp [getSession_of_requireSession hsession]⟩
  | walletSendNative | walletSendToken =>
    simp only [hmethod, Result.bind_ok_iff] at h
    obtain ⟨session, hsession, params, -, account, -, h⟩ := h
    cases h
    exact Extends.addTask (.of_eq rfl rfl)
      ⟨hmethod, by simp [getSession_of_requireSession hsession]⟩
  | approvalResponse =>
    simp only [hmethod, Result.bind_ok_iff] at h
    obtain ⟨params, hparams, h⟩ := h
    cases h
    exact extends_approvalResponse hmethod (params_of_destructure hparams)
  | walletUnlock | walletGetBalance | walletGetAddressInfo =>
    simp only [hmethod, Result.bind_ok_iff] at h
    obtain ⟨_, -, h⟩ := h
    cases h
    exact Extends.addTask (.of_eq rfl rfl) trivial
  | walletExportMnemonic =>
    simp only [hmethod, Result.bind_ok_iff] at h
    obtain ⟨_, -, _, -, h⟩ := h
    cases h
    exact Extends.addTask (.of_eq rfl rfl) trivial
  | walletGetAssetList =>
    simp only [hmethod, Except.ok.injEq] at h
    subst h
    exact Extends.addTask (.of_eq rfl rfl) trivial
  | walletHasVault | walletIsUnlocked | walletLock =>
    simp only [hmethod, Except.ok.injEq] at h
    subst h
    exact .of_eq rfl rfl
  | walletGetAccounts =>
    simp only [hmethod, Result.bind_ok_iff] at h
    obtain ⟨_, -, h⟩ := h
    cases h
    exact extends_sendResponse w c _
  | garudaGetAccounts =>
    simp only [hmethod] at h
    split at h
    all_goals
      cases h
      exact extends_sendResponse w c _
  | garudaRequestAccounts =>
    simp only [hmethod] at h
    split at h
    · split at h
      · cases h
        exact extends_sendResponse w c _
      · cases h
        exact extends_requestApproval w c _ _
    · cases h
      exact extends_requestApproval w c _ _
  | garudaPlaceOrder | garudaSignMessage =>
    simp only [hmethod, Result.bind_ok_iff] at h
    obtain ⟨_, -, _, -, h⟩ := h
    cases h
    exact extends_requestApproval w c _ _
  | garudaSendTransaction | garudaSendToken =>
    simp only [hmethod, Result.bind_ok_iff] at h
    obtain ⟨_, -, _, -, _, -, _, -, h⟩ := h
    cases h
    exact extends_requestApproval w c _ _
  | unknown name => simp [hmethod] at h
  | getPendingApproval | getAnyPending | getWalletInfo => simp [hmethod] at h

theorem extends_onMessage :
    Extends c (Started w c) (Resolved w c) w (w.onMessage c approvalId) := by
  unfold Worker.onMessage
  split
  · split
    · exact extends_sendResponse w c _
    · exact .of_eq rfl rfl
  · exact extends_sendResponse w c _
  · exact extends_sendResponse w c _
  · split
    · rename_i h
      exact extends_handleMessage h
    · exact extends_fail w c _ _

end

def Task.acts : Task → Option (Option String)
  | .create _ _ _ | .addAccount _ _ | .sendNative _ _ _ | .sendToken _ _ _ => some none
  | .store _ _ next => some next.request
  | .orderApproved p _ _ | .transactionApproved p _ _ _ | .tokenApproved p _ _ _
  | .messageApproved p _ _ _ => some (some p.id)
  | .broadcast request _ => some (request.map (·.id))
  | .unlock _ | .exportMnemonic _ _ | .query _ => none

/-- The address of the key that a task signs with. -/
def Task.signer (crypto : WalletCrypto) (w : Worker) : Task → Option String
  | .sendNative mnemonic account _ | .sendToken mnemonic account _
  | .transactionApproved _ _ mnemonic account | .tokenApproved _ _ mnemonic account
  | .messageApproved _ _ mnemonic account => some (crypto.deriveKey mnemonic account.index).address
  | .orderApproved _ params ref => (accountFor (w.vault ref) (params.str "address")).map
      fun account => (crypto.deriveKey (w.vault ref).mnemonic account.index).address
  | _ => none

def Task.Continues (task : Task) : Task → Prop
  | .store vault password next => (Task.store vault password next).acts = task.acts
  | .broadcast request hex => (Task.broadcast request hex).acts = task.acts
  | _ => False

def Task.Does (crypto : WalletCrypto) (w : Worker) (task : Task) (effect : Effect) : Prop :=
  effect.request ∈ task.acts ∧ ∀ request address payload,
    effect = .signed request address payload → task.signer crypto w = some address

theorem Task.does_signed {crypto : WalletCrypto} {w : Worker} {task : Task}
    {request : Option String} {address : String} {payload : Payload}
    (hacts : request ∈ task.acts) (hsigner : task.signer crypto w = some address) :
    task.Does crypto w (.signed request address payload) := by
  refine ⟨hacts, fun request' address' payload' heq => ?_⟩
  cases heq
  exact hsigner

section

variable {w : Worker} {c : Cause} {crypto : WalletCrypto} {net : Network}

theorem extends_signAndBroadcast {task : Task} {request : Option PendingRequest}
    {built : Except String (DerivedKey × List UTXO × List TxOutput)}
    (hacts : task.acts = some (request.map (·.id)))
    (hkey : ∀ key inputs outputs, built = .ok (key, inputs, outputs) →
      task.signer crypto w = some key.address) :
    Extends c task.Continues (task.Does crypto w) w (w.signAndBroadcast c crypto request built) := by
  unfold Worker.signAndBroadcast
  split
  · exact extends_fail w c _ _
  · rename_i key inputs outputs
    have hsigned : Extends c task.Continues (task.Does crypto w) w
        (w.record c (.signed (request.map (·.id)) key.address (.tx inputs outputs))) :=
      Extends.record (.of_eq rfl rfl) (Task.does_signed hacts (hkey key inputs outputs rfl))
    simp only
    split
    · exact hsigned.trans (extends_fail _ c _ _)
    · exact hsigned.addTask hacts.symm

theorem extends_broadcastResult {T : Task → Prop} {E : Effect → Prop}
    (request : Option PendingRequest) : Extends c T E w (w.broadcastResult c net request) := by
  cases request with
  | none => exact extends_sendResponse w c _
  | some p =>
    simp only [Worker.broadcastResult]
    split
    · exact extends_finishApproved w c p _
    · split
      · exact extends_finishApproved w c p _
      · exact extends_fail w c _ _

theorem extends_resume (task : Task) :
    Extends c task.Continues (task.Does crypto w) w (w.resume c crypto net task) := by
  cases task with
  | create mnemonic password accountName => exact Extends.addTask (.of_eq rfl rfl) rfl
  | store vault password next =>
    have hsaved : Extends c (Task.store vault password next).Continues
        ((Task.store vault password next).Does crypto w) w
        ({ w with stored := some (vault, password) }.record c (.vaultSaved next.request vault)) :=
      Extends.record (.of_eq rfl rfl) ⟨rfl, fun _ _ _ heq => nomatch heq⟩
    exact hsaved.trans (extends_afterStore _ c next)
  | unlock password =>
    simp only [Worker.resume]
    split
    · exact extends_fail w c _ _
    · exact .of_eq rfl rfl
  | addAccount ref nextIndex =>
    have hpush : ∀ vaults, Extends c (Task.addAccount ref nextIndex).Continues
        ((Task.addAccount ref nextIndex).Does crypto w) w { w with vaults } :=
      fun vaults => .of_eq rfl rfl
    exact (hpush _).trans (extends_persistSession _ c fun _ _ => rfl)
  | exportMnemonic ref password =>
    simp only [Worker.resume]
    split
    · exact extends_fail w c _ _
    · exact extends_sendResponse w c _
  | query catches =>
    simp only [Worker.resume]
    split
    · split
      · exact extends_sendResponse w c _
      · exact extends_fail w c _ _
    · exact extends_sendResponse w c _
  | sendNative mnemonic account params =>
    refine extends_signAndBroadcast rfl fun key inputs outputs hbuilt => ?_
    obtain ⟨_, -, hbuilt⟩ := Result.bind_ok_iff.mp hbuilt
    obtain ⟨_, -, hbuilt⟩ := Result.bind_ok_iff.mp hbuilt
    obtain ⟨_, -, hbuilt⟩ := Result.bind_ok_iff.mp hbuilt
    cases hbuilt
    rfl
  | sendToken mnemonic account params =>
    refine extends_signAndBroadcast rfl fun key inputs outputs hbuilt => ?_
    obtain ⟨_, -, hbuilt⟩ := Result.bind_ok_iff.mp hbuilt
    obtain ⟨_, -, hbuilt⟩ := Result.bind_ok_iff.mp hbuilt
    cases hbuilt
    rfl
  | orderApproved p params ref =>
    refine extends_signAndBroadcast rfl fun key inputs outputs hbuilt => ?_
    obtain ⟨_, -, hbuilt⟩ := Result.bind_ok_iff.mp hbuilt
    obtain ⟨_, -, hbuilt⟩ := Result.bind_ok_iff.mp hbuilt
    obtain ⟨account, haccount, hbuilt⟩ := Result.bind_ok_iff.mp hbuilt
    obtain ⟨_, -, hbuilt⟩ := Result.bind_ok_iff.mp hbuilt
    cases hbuilt
    simp [Task.signer, account_of_existing haccount]
  | transactionApproved p params mnemonic account =>
    refine extends_signAndBroadcast rfl fun key inputs outputs hbuilt => ?_
    obtain ⟨_, -, hbuilt⟩ := Result.bind_ok_iff.mp hbuilt
    obtain ⟨_, -, hbuilt⟩ := Result.bind_ok_iff.mp hbuilt
    obtain ⟨_, -, hbuilt⟩ := Result.bind_ok_iff.mp hbuilt
    cases hbuilt
    rfl
  | tokenApproved p params mnemonic account =>
    refine extends_signAndBroadcast rfl fun key inputs outputs hbuilt => ?_
    obtain ⟨_, -, hbuilt⟩ := Result.bind_ok_iff.mp hbuilt
    obtain ⟨_, -, hbuilt⟩ := Result.bind_ok_iff.mp hbuilt
    cases hbuilt
    rfl
  | messageApproved p params mnemonic account =>
    have hsigned : ∀ payload, Extends c (Task.messageApproved p params mnemonic account).Continues
        ((Task.messageApproved p params mnemonic account).Does crypto w) w (w.record c
          (.signed (some p.id) (crypto.deriveKey mnemonic account.index).address payload)) :=
      fun payload => Extends.record (.of_eq rfl rfl) (Task.does_signed rfl rfl)
    simp only [Worker.resume]
    split
    · exact (hsigned _).trans (extends_fail _ c _ _)
    · exact (hsigned _).trans (extends_finishApproved _ c p _)
  | broadcast request hex =>
    have hsent : Extends c (Task.broadcast request hex).Continues
        ((Task.broadcast request hex).Does crypto w) w
        (w.record c (.broadcast (request.map (·.id)) hex)) :=
      Extends.record (.of_eq rfl rfl) ⟨rfl, fun _ _ _ heq => nomatch heq⟩
    simp only [Worker.resume]
    split
    · exact hsent.trans (extends_fail _ c _ _)
    · exact hsent.trans (extends_broadcastResult request)

end

end GarudaChain.Extension
