import GarudaChain.Extension.Proofs.ApprovalProofs

/-!
# The key that an approved request is signed with
-/

namespace GarudaChain.Extension

def KnownAccount (vault : VaultData) (p : PendingRequest) : Prop :=
  (∃ account ∈ vault.accounts, p.named = some account.address) ∨ vault.accounts = []

theorem accountFor_nil {vault : VaultData} (h : vault.accounts = []) (address : Option String) :
    accountFor vault address = none := by
  simp [accountFor, h]

theorem accountFor_known {vault : VaultData} {p : PendingRequest} {account : AccountMeta}
    (hknown : KnownAccount vault p) (h : accountFor vault p.named = some account) :
    account ∈ vault.accounts ∧ p.named = some account.address := by
  rcases hknown with ⟨known, hmem, hnamed⟩ | hnil
  · cases hfind : vault.accounts.find? fun a => some a.address == p.named with
    | none =>
      have hnone := List.find?_eq_none.mp hfind known hmem
      simp [hnamed] at hnone
    | some found =>
      rw [accountFor, hfind, Option.some_or, Option.some.injEq] at h
      subst h
      exact ⟨List.mem_of_find?_eq_some hfind, (by simpa using List.find?_some hfind : _ = _).symm⟩
  · rw [accountFor_nil hnil] at h
    cases h

/-- If the step looks for the account of an approved request, the vault has an account with the address
    that the request names, or none at all. An order is looked at only when the API has prepared it. -/
def LooksUpKnown (w : Worker) : Event → Prop
  | .resume i net => ∀ c p params ref, w.tasks[i]? = some (c, .orderApproved p params ref) →
      net.reached = .ok () → net.error.getD "" = "" → KnownAccount (w.vault ref) p
  | e => ∀ c p password ref, e.cause = some c → Approved w c p → p.method ≠ .garudaPlaceOrder →
      p.method ≠ .garudaRequestAccounts → w.getSession = some (password, ref) →
      KnownAccount (w.vault ref) p

variable {w : Worker} {c : Cause} {ref : Nat} {task : Task}

section

variable (crypto : WalletCrypto) (V : VaultData → Prop) (Q : PendingRequest → Prop)

/-- The account is one of a vault, has the address that the request names, and the key is derived from
    that vault. -/
def NamedKey (p : PendingRequest) (mnemonic : String) (account : AccountMeta) : Prop :=
  ∃ vault, V vault ∧ vault.mnemonic = mnemonic ∧ account ∈ vault.accounts ∧
    p.named = some account.address

def Task.Named : Task → Prop
  | .orderApproved p params _ => Q p ∧ p.named = params.str "address"
  | .transactionApproved p _ mnemonic account | .tokenApproved p _ mnemonic account
  | .messageApproved p _ mnemonic account => Q p ∧ NamedKey V p mnemonic account
  | _ => True

def Effect.Named : Effect → Prop
  | .signed (some id) address _ => ∃ p mnemonic account, Q p ∧ p.id = id ∧
      NamedKey V p mnemonic account ∧ address = (crypto.deriveKey mnemonic account.index).address
  | _ => True

structure SigningInv (w : Worker) : Prop where
  tasks : ∀ x ∈ w.tasks, x.2.Named V Q
  effects : ∀ x ∈ w.effects, x.2.Named crypto V Q

variable {crypto V Q} {w w' : Worker}

theorem SigningInv.extend {T : Task → Prop} {E : Effect → Prop}
    (hinv : SigningInv crypto V Q w) (h : Extends c T E w w') (hT : ∀ task, T task → task.Named V Q)
    (hE : ∀ effect, E effect → effect.Named crypto V Q) : SigningInv crypto V Q w' where
  tasks x hx := (h.tasks x hx).elim (hinv.tasks x) fun hnew => hT _ hnew.2
  effects x hx := (h.effects x hx).elim (hinv.effects x) fun hnew => hE _ hnew.2

theorem SigningInv.of_subset (hinv : SigningInv crypto V Q w) (ht : w'.tasks ⊆ w.tasks)
    (he : w'.effects = w.effects) : SigningInv crypto V Q w' where
  tasks x hx := hinv.tasks x (ht hx)
  effects x hx := hinv.effects x (he ▸ hx)

theorem named_of_started (hvaults : ∀ ref, V (w.vault ref))
    (hpending : ∀ p ∈ w.pendingRequests, Q p)
    (hknown : ∀ p password ref, Approved w c p → p.method ≠ .garudaPlaceOrder →
      p.method ≠ .garudaRequestAccounts → w.getSession = some (password, ref) →
      KnownAccount (w.vault ref) p)
    (h : Started w c task) : task.Named V Q := by
  cases task with
  | orderApproved p params ref =>
    obtain ⟨q, happroved, rfl, hnamed, -⟩ := h
    exact ⟨hpending p happroved.1, hnamed⟩
  | transactionApproved p params mnemonic account | tokenApproved p params mnemonic account
  | messageApproved p params mnemonic account =>
    obtain ⟨q, happroved, rfl, ⟨horder, haccounts⟩, password, ref, hsession, rfl, hfor⟩ := h
    obtain ⟨hmem, hnamed⟩ :=
      accountFor_known (hknown p password ref happroved horder haccounts hsession) hfor
    exact ⟨hpending p happroved.1, w.vault ref, hvaults ref, rfl, hmem, hnamed⟩
  | _ => trivial

theorem Task.Continues.named {task' : Task} (h : task.Continues task') : task'.Named V Q := by
  cases task' with
  | store | broadcast => trivial
  | _ => exact h.elim

theorem Task.Does.named {effect : Effect} (hvaults : ∀ ref, V (w.vault ref))
    (htask : task.Named V Q)
    (hknown : ∀ p params ref, task = .orderApproved p params ref → KnownAccount (w.vault ref) p)
    (h : task.Does crypto w effect) : effect.Named crypto V Q := by
  obtain ⟨hacts, hkey⟩ := h
  cases effect with
  | signed request address payload =>
    have hsigner := hkey request address payload rfl
    cases task with
    | orderApproved p params ref =>
      obtain rfl : some p.id = request := Option.mem_some_iff.mp hacts
      obtain ⟨hasked, hnamed⟩ := htask
      obtain ⟨account, hfor, haddress⟩ := Option.map_eq_some_iff.mp hsigner
      rw [← hnamed] at hfor
      obtain ⟨hmem, haccount⟩ := accountFor_known (hknown p params ref rfl) hfor
      exact ⟨p, (w.vault ref).mnemonic, account, hasked, rfl,
        ⟨w.vault ref, hvaults ref, rfl, hmem, haccount⟩, haddress.symm⟩
    | transactionApproved p params mnemonic account | tokenApproved p params mnemonic account
    | messageApproved p params mnemonic account =>
      obtain rfl : some p.id = request := Option.mem_some_iff.mp hacts
      exact ⟨p, mnemonic, account, htask.1, rfl, htask.2, (Option.some.inj hsigner).symm⟩
    | sendNative | sendToken =>
      obtain rfl : none = request := Option.mem_some_iff.mp hacts
      trivial
    | _ => cases hsigner
  | _ => trivial

theorem resume_order_unprepared (c : Cause) (crypto : WalletCrypto) {net : Network}
    (p : PendingRequest) (params : Params) (ref : Nat)
    (h : ¬ (net.reached = .ok () ∧ net.error.getD "" = "")) :
    ∃ text, w.resume c crypto net (.orderApproved p params ref) = w.fail c (some p) text := by
  simp only [Worker.resume, Worker.signAndBroadcast]
  split
  · exact ⟨_, rfl⟩
  · rename_i hbuilt
    obtain ⟨_, hreached, hbuilt⟩ := Result.bind_ok_iff.mp hbuilt
    obtain ⟨_, hanswer, -⟩ := Result.bind_ok_iff.mp hbuilt
    refine absurd ⟨hreached, ?_⟩ h
    simpa using (Result.failIf_eq_ok _ _ _).mp hanswer

theorem signingInv_step {e : Event} (hvaults : ∀ ref, V (w.vault ref))
    (hpending : ∀ p ∈ w.pendingRequests, Q p) (hinv : SigningInv crypto V Q w)
    (hknown : LooksUpKnown w e) : SigningInv crypto V Q (w.step crypto e) := by
  cases e with
  | page | popup =>
    refine hinv.extend extends_onMessage (fun task h => ?_) fun effect h => ?_
    · exact named_of_started hvaults hpending (fun p password ref => hknown _ p password ref rfl) h
    · obtain ⟨p, -, rfl⟩ := h
      trivial
  | resume i net =>
    simp only [Worker.step]
    split
    · rename_i c task htask
      have hrest : SigningInv crypto V Q { w with tasks := w.tasks.eraseIdx i } :=
        hinv.of_subset List.eraseIdx_subset rfl
      have hresume (horder : ∀ p params ref, task = .orderApproved p params ref →
          KnownAccount (w.vault ref) p) : SigningInv crypto V Q
            (Worker.resume { w with tasks := w.tasks.eraseIdx i } c crypto net task) :=
        hrest.extend (extends_resume task) (fun task' h => h.named) fun effect h =>
          h.named hvaults (hinv.tasks _ (List.mem_of_getElem? htask)) horder
      by_cases hprepared : net.reached = .ok () ∧ net.error.getD "" = ""
      · refine hresume ?_
        rintro p params ref rfl
        exact hknown c p params ref htask hprepared.1 hprepared.2
      · -- an order that was not prepared fails before an account is looked for
        cases task with
        | orderApproved p params ref =>
          obtain ⟨text, hfail⟩ := resume_order_unprepared
            (w := { w with tasks := w.tasks.eraseIdx i }) c crypto p params ref hprepared
          rw [hfail]
          exact hrest.extend (T := fun _ => False) (E := fun _ => False) (extends_fail _ c (some p) text)
            (fun _ h => h.elim) fun _ h => h.elim
        | _ => exact hresume (fun _ _ _ h => by cases h)
    · exact hinv
  | timeout approvalId =>
    simp only [Worker.step, Worker.timeout]
    split
    · exact hinv.of_subset (by simp [Worker.deletePending]) (by simp [Worker.deletePending])
    · exact hinv
  | autoLock => exact hinv.of_subset (List.Subset.refl _) rfl
  | restart => exact hinv.of_subset (List.nil_subset _) rfl

end

theorem mem_vaults_of_account {account : AccountMeta}
    (h : account ∈ (w.vault ref).accounts) : w.vault ref ∈ w.vaults := by
  unfold Worker.vault at h ⊢
  rw [List.getD_eq_getElem?_getD] at h ⊢
  cases hget : w.vaults[ref]? with
  | none =>
    rw [hget] at h
    cases h
  | some vault => exact List.mem_of_getElem? hget

theorem handleApproved_noAccounts {p : PendingRequest} {password : String} (hmethod : p.method ∈ [.garudaSendTransaction, .garudaSendToken, .garudaSignMessage])
    (hsession : w.getSession = some (password, ref)) (hnil : (w.vault ref).accounts = []) :
    ∃ text, w.handleApproved c p = w.fail c (some p) text := by
  have hrequire : w.requireSession = .ok (password, ref) := by
    rw [Worker.requireSession, hsession]
  unfold Worker.handleApproved
  split
  · rename_i w' h
    simp only [List.mem_cons, List.not_mem_nil, or_false] at hmethod
    rcases hmethod with hmethod | hmethod | hmethod
    all_goals
      simp only [Worker.startApproved, hmethod, hrequire, Result.bind_ok_iff] at h
      obtain ⟨session, hok, params, -, account, haccount, -⟩ := h
      cases hok
      rw [accountFor_nil hnil] at haccount
      cases haccount
  · exact ⟨_, rfl⟩

theorem resume_order_noAccounts (c : Cause) (crypto : WalletCrypto) (net : Network)
    (p : PendingRequest) (params : Params) (hnil : (w.vault ref).accounts = []) :
    ∃ text, w.resume c crypto net (.orderApproved p params ref) = w.fail c (some p) text := by
  simp only [Worker.resume, Worker.signAndBroadcast]
  split
  · exact ⟨_, rfl⟩
  · rename_i hbuilt
    obtain ⟨_, -, hbuilt⟩ := Result.bind_ok_iff.mp hbuilt
    obtain ⟨_, -, hbuilt⟩ := Result.bind_ok_iff.mp hbuilt
    obtain ⟨account, haccount, -⟩ := Result.bind_ok_iff.mp hbuilt
    rw [accountFor_nil hnil] at haccount
    cases haccount

def VaultSeen (crypto : WalletCrypto) (w : Worker) (events : List Event) (vault : VaultData) : Prop :=
  ∃ initial ref, initial <+: events ∧ vault = (Run.run (Worker.step crypto) w initial).vault ref

def RequestSeen (crypto : WalletCrypto) (w : Worker) (events : List Event) (p : PendingRequest) :
    Prop :=
  ∃ initial, initial <+: events ∧ p ∈ (Run.run (Worker.step crypto) w initial).pendingRequests

/-- In a run whose looks for an account find one with the named address or none at all, every
    signature is made with the key of the account that its request names, and an empty vault gives
    an error. -/
theorem workerRun_signs_named (crypto : WalletCrypto) (w : Worker) (events : List Event)
    (htasks : w.tasks = []) (heffects : w.effects = [])
    (hknown : Run.Along (Worker.step crypto) LooksUpKnown w events) :
    (∀ x ∈ (Run.run (Worker.step crypto) w events).effects,
      x.2.Named crypto (VaultSeen crypto w events) (RequestSeen crypto w events)) ∧
    ∀ (w : Worker) (c : Cause) (p : PendingRequest) (ref : Nat), (w.vault ref).accounts = [] →
      (∀ password, p.method ∈ [.garudaSendTransaction, .garudaSendToken, .garudaSignMessage] →
        w.getSession = some (password, ref) →
        ∃ text, w.handleApproved c p = w.fail c (some p) text) ∧
      ∀ net params, ∃ text,
        w.resume c crypto net (.orderApproved p params ref) = w.fail c (some p) text := by
  refine ⟨?_, fun w c p ref hnil => ⟨fun password hmethod hsession =>
    handleApproved_noAccounts hmethod hsession hnil, fun net params =>
    resume_order_noAccounts c crypto net p params hnil⟩⟩
  have hinit : SigningInv crypto (VaultSeen crypto w events) (RequestSeen crypto w events) w :=
    { tasks := by simp [htasks], effects := by simp [heffects] }
  refine (Run.Along.inv ?_ hinit (hknown.and_reached rfl (List.nil_append events).symm)).effects
  rintro s e hinv ⟨hstep, initial, hinitial, rfl⟩
  exact signingInv_step (fun ref => ⟨initial, ref, hinitial, rfl⟩)
    (fun p hp => ⟨initial, hinitial, hp⟩) hinv hstep

/-- The transaction is signed, and the encoding of the signature fails, as with the pinned library. -/
def signingCrypto : WalletCrypto :=
  { sampleCrypto with buildAndSignTx := fun _ _ _ => .error "sig.toDERRawBytes is not a function" }

def paymentRun (source : String) : List Event :=
  sampleUnlock ++ [samplePage .garudaRequestAccounts none,
    samplePopup .approvalResponse sampleApproval, .resume 0 {},
    samplePage .garudaSendTransaction (some [("from", .str source),
      ("to", .str "grd1qcdqhwjduxunxt23mkk0qge5n8g39xyqr6tjl38"), ("amount", .num (1 / 1000))]),
    samplePopup .approvalResponse sampleApproval,
    .resume 0 { utxos := [⟨"4a5e", 0, 101000⟩] }]

def signers (w : Worker) : List String :=
  w.effects.filterMap fun x =>
    match x.2 with
    | .signed (some _) address _ => some address
    | _ => none

instance (vault : VaultData) (p : PendingRequest) : Decidable (KnownAccount vault p) :=
  inferInstanceAs (Decidable
    ((∃ account ∈ vault.accounts, p.named = some account.address) ∨ vault.accounts = []))

def waitsForKnown (w : Worker) : Event → Bool
  | .resume i _ =>
    match w.tasks[i]? with
    | some (_, .orderApproved p _ ref) => decide (KnownAccount (w.vault ref) p)
    | _ => true
  | _ => w.pendingRequests.all fun p =>
    match w.getSession with
    | some (_, ref) => p.method == .garudaPlaceOrder || p.method == .garudaRequestAccounts ||
        decide (KnownAccount (w.vault ref) p)
    | none => true

theorem looksUpKnown_of_waitsForKnown {e : Event} (h : waitsForKnown w e = true) :
    LooksUpKnown w e := by
  have hmessage : (w.pendingRequests.all fun p =>
      match w.getSession with
      | some (_, ref) => p.method == .garudaPlaceOrder || p.method == .garudaRequestAccounts ||
          decide (KnownAccount (w.vault ref) p)
      | none => true) = true → ∀ c p password ref, e.cause = some c → Approved w c p →
        p.method ≠ .garudaPlaceOrder → p.method ≠ .garudaRequestAccounts →
        w.getSession = some (password, ref) → KnownAccount (w.vault ref) p := by
    intro hall c p password ref _ happroved horder haccounts hsession
    have hp := List.all_eq_true.mp hall p happroved.1
    simpa [hsession, horder, haccounts] using hp
  cases e with
  | resume i net =>
    intro c p params ref htask _ _
    simpa [waitsForKnown, htask] using h
  | _ => exact hmessage h

theorem along_looksUpKnown {crypto : WalletCrypto} {events : List Event}
    (h : Run.Along (Worker.step crypto) (fun w e => waitsForKnown w e = true) w events) :
    Run.Along (Worker.step crypto) LooksUpKnown w events :=
  h.mono (I := fun _ => True) (fun _ _ _ _ => trivial)
    (fun _ _ _ hcheck => looksUpKnown_of_waitsForKnown hcheck) trivial

theorem workerRun_signs_named_payment :
    let events := paymentRun "grd1qmcsa39ua3nqx6r4k9f5j2e4e75nc7gu2pv32hd"
    let w := Run.run (Worker.step signingCrypto) lockedWorker events
    signers w = ["grd1qmcsa39ua3nqx6r4k9f5j2e4e75nc7gu2pv32hd"] ∧
      ∀ x ∈ w.effects, x.2.Named signingCrypto (VaultSeen signingCrypto lockedWorker events)
        (RequestSeen signingCrypto lockedWorker events) := by
  intro events w
  refine ⟨by decide +kernel, ?_⟩
  exact (workerRun_signs_named signingCrypto lockedWorker events rfl rfl
    (along_looksUpKnown (by decide +kernel))).1

/-- A payment from an address that no account of the vault has is signed with the key of the first
    account. -/
theorem workerRun_signs_first :
    let events := paymentRun "grd1qcdqhwjduxunxt23mkk0qge5n8g39xyqr6tjl38"
    let w := Run.run (Worker.step signingCrypto) lockedWorker events
    signers w = ["grd1qmcsa39ua3nqx6r4k9f5j2e4e75nc7gu2pv32hd"] ∧
      ¬ ∀ x ∈ w.effects, x.2.Named signingCrypto (VaultSeen signingCrypto lockedWorker events)
        (RequestSeen signingCrypto lockedWorker events) := by
  intro events w
  have hsigners : signers w = ["grd1qmcsa39ua3nqx6r4k9f5j2e4e75nc7gu2pv32hd"] := by decide +kernel
  refine ⟨hsigners, fun hnamed => ?_⟩
  -- no request of the run names an account of a vault of the run
  have hunknown : ∀ initial ∈ events.inits,
      ∀ p ∈ (Run.run (Worker.step signingCrypto) lockedWorker initial).pendingRequests,
      ∀ initial' ∈ events.inits,
      ∀ vault ∈ (Run.run (Worker.step signingCrypto) lockedWorker initial').vaults,
      ∀ account ∈ vault.accounts, p.named ≠ some account.address := by decide +kernel
  have hmem : "grd1qmcsa39ua3nqx6r4k9f5j2e4e75nc7gu2pv32hd" ∈ signers w := by simp [hsigners]
  obtain ⟨x, hx, hsigned⟩ := List.mem_filterMap.mp hmem
  have hx := hnamed x hx
  split at hsigned
  · rename_i id address payload heffect
    rw [heffect] at hx
    obtain ⟨p, mnemonic, account, ⟨initial, hinitial, hp⟩, -,
      ⟨vault, ⟨initial', ref, hinitial', rfl⟩, -, haccount, hname⟩, -⟩ := hx
    refine hunknown initial ((List.mem_inits _ _).mpr hinitial) p hp initial'
      ((List.mem_inits _ _).mpr hinitial') _ (mem_vaults_of_account haccount) account haccount hname
  · cases hsigned

end GarudaChain.Extension
