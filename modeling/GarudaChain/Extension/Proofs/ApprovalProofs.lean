import GarudaChain.Extension.Proofs.WorkerProofs

/-!
# What the background worker does without consent
-/

namespace GarudaChain.Extension

def Starts (w : Worker) (c : Cause) (r : Option String) : Prop :=
  match c.message.method with
  | .walletCreate => r = none
  | .walletAddAccount | .walletSendNative | .walletSendToken => r = none ∧ w.getSession ≠ none
  | .approvalResponse => ∃ p ∈ w.pendingRequests, r = some p.id ∧ c.Approves p.id
  | _ => False

section

variable {w : Worker} {c : Cause} {p : PendingRequest}

theorem starts_of_approved (h : Approved w c p) : Starts w c (some p.id) := by
  simp only [Starts, h.2.1]
  exact ⟨p, h.1, rfl, h.2⟩

theorem acts_of_approvedTask {task : Task} (h : ApprovedTask w p task) :
    task.acts = some (some p.id) := by
  cases task with
  | store vault password next =>
    obtain ⟨ref, rfl⟩ := h
    rfl
  | orderApproved | transactionApproved | tokenApproved | messageApproved =>
    obtain ⟨rfl, -⟩ := h
    rfl
  | _ => exact h.elim

theorem starts_of_started {task : Task} (h : Started w c task) : ∀ r ∈ task.acts, Starts w c r := by
  intro r hr
  cases task with
  | create => simp_all [Starts, Started, Task.acts]
  | addAccount | sendNative | sendToken =>
    obtain ⟨hmethod, hsession⟩ := h
    simp_all [Starts, Task.acts]
  | unlock | exportMnemonic | query => cases hr
  | _ =>
    obtain ⟨p, happroved, htask⟩ := h
    rw [acts_of_approvedTask htask] at hr
    rw [← Option.mem_some_iff.mp hr]
    exact starts_of_approved happroved

theorem starts_of_resolved {effect : Effect} (h : Resolved w c effect) :
    Starts w c effect.request := by
  obtain ⟨p, happroved, rfl⟩ := h
  exact starts_of_approved happroved

theorem not_starts_of_harmless (h : Harmless w c) (r : Option String) : ¬ Starts w c r := by
  intro hstarts
  unfold Harmless at h
  unfold Starts at hstarts
  split at hstarts
  case h_5 hmethod =>
    simp only [hmethod] at h
    obtain ⟨p, hp, -, happroves⟩ := hstarts
    exact h p hp happroves
  all_goals simp_all

theorem consents_of_starts {origin : String} (hsender : c.sender = .popup origin)
    {r : Option String} (h : Starts w c r) : c.Consents r := by
  refine ⟨⟨origin, hsender⟩, fun id hid => ?_⟩
  unfold Starts at h
  split at h
  case h_5 =>
    obtain ⟨p, -, rfl, happroves⟩ := h
    rw [← Option.mem_some_iff.mp hid]
    exact happroves
  all_goals simp_all

theorem Task.Continues.acts_eq {task task' : Task} (h : task.Continues task') :
    task'.acts = task.acts := by
  cases task' with
  | store | broadcast => exact h
  | _ => exact h.elim

end

/-- Everything that waits and everything that was done has the consent of a message of the run. -/
structure ConsentInv (events : List Event) (w : Worker) : Prop where
  tasks : ∀ x ∈ w.tasks, ∀ r ∈ x.2.acts, (∃ e ∈ events, e.cause = some x.1) ∧ x.1.Consents r
  effects : Consented events w

section

variable {events : List Event} {w w' : Worker} {crypto : WalletCrypto}

theorem ConsentInv.extend {c : Cause} {T : Task → Prop} {E : Effect → Prop}
    {R : Option String → Prop} (hinv : ConsentInv events w) (h : Extends c T E w w')
    (hT : ∀ task, T task → ∀ r ∈ task.acts, R r) (hE : ∀ effect, E effect → R effect.request)
    (hR : ∀ r, R r → (∃ e ∈ events, e.cause = some c) ∧ c.Consents r) : ConsentInv events w' where
  tasks x hx r hr := by
    rcases h.tasks x hx with hold | ⟨rfl, hnew⟩
    · exact hinv.tasks x hold r hr
    · exact hR r (hT _ hnew r hr)
  effects x hx := by
    rcases h.effects x hx with hold | ⟨rfl, hnew⟩
    · exact hinv.effects x hold
    · exact hR _ (hE _ hnew)

theorem ConsentInv.of_subset (hinv : ConsentInv events w) (ht : w'.tasks ⊆ w.tasks)
    (he : w'.effects = w.effects) : ConsentInv events w' where
  tasks x hx := hinv.tasks x (ht hx)
  effects x hx := hinv.effects x (he ▸ hx)

theorem ConsentInv.onMessage {c : Cause} (approvalId : String) (hinv : ConsentInv events w)
    (hR : ∀ r, Starts w c r → (∃ e ∈ events, e.cause = some c) ∧ c.Consents r) :
    ConsentInv events (w.onMessage c approvalId) :=
  hinv.extend extends_onMessage (fun _ h => starts_of_started h) (fun _ h => starts_of_resolved h) hR

theorem consentInv_step {e : Event} (he : e ∈ events) (hinv : ConsentInv events w)
    (hpages : PagesHarmless w e) : ConsentInv events (w.step crypto e) := by
  cases e with
  | page origin tabId method params id approvalId =>
    -- a harmless message starts nothing at all
    exact hinv.onMessage _ fun r hr => absurd hr (not_starts_of_harmless hpages r)
  | popup origin method params approvalId =>
    exact hinv.onMessage _ fun r hr => ⟨⟨_, he, rfl⟩, consents_of_starts rfl hr⟩
  | resume i net =>
    simp only [Worker.step]
    split
    · -- the message that started the task has consented to what it does
      rename_i c task htask
      have hmem : (c, task) ∈ w.tasks := List.mem_of_getElem? htask
      have hrest : ConsentInv events { w with tasks := w.tasks.eraseIdx i } :=
        hinv.of_subset (List.eraseIdx_subset) rfl
      refine hrest.extend (R := fun r => r ∈ task.acts) (extends_resume task)
        (fun task' h r hr => ?_) (fun effect h => h.1) fun r hr => hinv.tasks _ hmem r hr
      rwa [h.acts_eq] at hr
    · exact hinv
  | timeout approvalId =>
    simp only [Worker.step, Worker.timeout]
    split
    · exact hinv.of_subset (by simp [Worker.deletePending]) (by simp [Worker.deletePending])
    · exact hinv
  | autoLock => exact hinv.of_subset (List.Subset.refl _) rfl
  | restart => exact hinv.of_subset (List.nil_subset _) rfl

end

/-- If the pages send harmless messages only, then whatever is signed, broadcast, stored or resolved
    as approved in a run, the user asked for it in the popup. -/
theorem workerRun_consented (crypto : WalletCrypto) (w : Worker) (events : List Event)
    (htasks : w.tasks = []) (heffects : w.effects = [])
    (hpages : Run.Along (Worker.step crypto) PagesHarmless w events) :
    Consented events (Run.run (Worker.step crypto) w events) := by
  have hinit : ConsentInv events w :=
    { tasks := by simp [htasks], effects := by simp [Consented, heffects] }
  have hinv := Run.Along.inv (I := ConsentInv events)
    (fun w e hinv h => consentInv_step h.2 hinv h.1) hinit (hpages.and_mem fun e he => he)
  exact hinv.effects

def sampleMnemonic : String :=
  "abandon ability able about above absent absorb abstract absurd abuse access accident " ++
    "account accuse achieve acid acoustic acquire across act action actor actress actual"

def otherMnemonic : String :=
  "arrive arrow art artefact artist artwork ask aspect assault asset assist assume " ++
    "asthma athlete atom attack attend attitude attract auction audit august aunt author"

def sampleCrypto : WalletCrypto where
  deriveKey mnemonic index :=
    if mnemonic = sampleMnemonic ∧ index = 0 then
      ⟨"0b07c3c70386fced9d5953dddd210300099eff25a37c98290c5b4f57aab778d8",
        "grd1qmcsa39ua3nqx6r4k9f5j2e4e75nc7gu2pv32hd", "garuda-sha256"⟩
    else if mnemonic = otherMnemonic ∧ index = 0 then
      ⟨"eb21766260ed252cd9f74fef6aadc09a5edf2ca2662add4d9422e70adfdebb89",
        "grd1qcdqhwjduxunxt23mkk0qge5n8g39xyqr6tjl38", "garuda-sha256"⟩
    else ⟨"", "", ""⟩
  buildAndSignTx _ _ _ := .error ""
  signBytes _ _ := .error ""

def sampleVault : VaultData where
  mnemonic := sampleMnemonic
  accounts := [⟨"Akun 1", "grd1qmcsa39ua3nqx6r4k9f5j2e4e75nc7gu2pv32hd", "garuda-sha256", 0⟩]
  connectedSites := []

def lockedWorker : Worker where
  pendingRequests := []
  sessionPassword := none
  sessionVault := none
  vaults := []
  stored := some (sampleVault, "garuda1945")
  tasks := []
  effects := []
  sent := []

def samplePage (method : Method) (params : Option Params) : Event :=
  .page "http://localhost:5000" 7 method params (some "r1") "1b9d6bcd-bbfd-4b2d-9b5d-ab8dfbbd4bed"

def samplePopup (method : Method) (params : Option Params) : Event :=
  .popup "chrome-extension" method params ""

def sampleUnlock : List Event :=
  [samplePopup .walletUnlock (some [("password", .str "garuda1945")]), .resume 0 {}]

def sampleApproval : Option Params :=
  some [("id", .str "1b9d6bcd-bbfd-4b2d-9b5d-ab8dfbbd4bed"), ("approved", .bool true)]

def connectRun : List Event :=
  samplePage .walletSendNative (some [("to", .str "grd1qcdqhwjduxunxt23mkk0qge5n8g39xyqr6tjl38")]) ::
    sampleUnlock ++ [samplePage .garudaRequestAccounts none,
      samplePopup .approvalResponse sampleApproval, .resume 0 {}]

theorem workerRun_consented_connect :
    (Run.run (Worker.step sampleCrypto) lockedWorker connectRun).effects.map (·.2) =
      [.resolvedApproved "1b9d6bcd-bbfd-4b2d-9b5d-ab8dfbbd4bed",
        .vaultSaved (some "1b9d6bcd-bbfd-4b2d-9b5d-ab8dfbbd4bed")
          { sampleVault with connectedSites := ["http://localhost:5000"] }] ∧
    Consented connectRun (Run.run (Worker.step sampleCrypto) lockedWorker connectRun) :=
  ⟨by decide +kernel,
    workerRun_consented sampleCrypto lockedWorker connectRun rfl rfl
      ⟨rfl, trivial, trivial, trivial, trivial, trivial, trivial⟩⟩

/-- A page approves its own request, and then puts a wallet of its own in the place of the stored
    one. -/
def takeoverRun : List Event :=
  sampleUnlock ++ [samplePage .garudaRequestAccounts none,
    samplePage .approvalResponse sampleApproval, .resume 0 {},
    samplePage .walletCreate (some [("mnemonic", .str otherMnemonic), ("password", .str "x")]),
    .resume 0 {}, .resume 0 {}]

/-- What is done in that run, and who asked for it. -/
def takeoverEffects : List (Sender × Effect) :=
  [(.page "http://localhost:5000" 7, .resolvedApproved "1b9d6bcd-bbfd-4b2d-9b5d-ab8dfbbd4bed"),
    (.page "http://localhost:5000" 7, .vaultSaved (some "1b9d6bcd-bbfd-4b2d-9b5d-ab8dfbbd4bed")
      { sampleVault with connectedSites := ["http://localhost:5000"] }),
    (.page "http://localhost:5000" 7, .vaultSaved none
      ⟨otherMnemonic, [⟨"Akun 1", "grd1qcdqhwjduxunxt23mkk0qge5n8g39xyqr6tjl38", "garuda-sha256", 0⟩],
        []⟩)]

theorem workerRun_takeover :
    (Run.run (Worker.step sampleCrypto) lockedWorker takeoverRun).effects.map
      (fun x => (x.1.sender, x.2)) = takeoverEffects ∧
    ¬ Consented takeoverRun (Run.run (Worker.step sampleCrypto) lockedWorker takeoverRun) := by
  have heffects : (Run.run (Worker.step sampleCrypto) lockedWorker takeoverRun).effects.map
      (fun x => (x.1.sender, x.2)) = takeoverEffects := by decide +kernel
  refine ⟨heffects, fun hconsented => ?_⟩
  -- the first effect was caused by the page
  have hfirst : (.page "http://localhost:5000" 7,
      .resolvedApproved "1b9d6bcd-bbfd-4b2d-9b5d-ab8dfbbd4bed") ∈ takeoverEffects :=
    List.mem_cons_self
  rw [← heffects] at hfirst
  obtain ⟨x, hx, hsender⟩ := List.mem_map.mp hfirst
  obtain ⟨-, ⟨origin, horigin⟩, -⟩ := hconsented x hx
  rw [(Prod.mk.inj hsender).1] at horigin
  cases horigin

end GarudaChain.Extension
