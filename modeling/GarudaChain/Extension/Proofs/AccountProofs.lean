import GarudaChain.Extension.Proofs.ApprovalProofs

/-!
# Calls of `wallet_addAccount` that overlap

A call reads the next index before it waits for the key, and uses it afterwards; the vault it stores is
the one it had when it began to store.
-/

namespace GarudaChain.Extension

def adding (tasks : List (Cause × Task)) : List Nat :=
  tasks.filterMap fun x =>
    match x.2 with
    | .addAccount _ nextIndex => some nextIndex
    | _ => none

def storing (tasks : List (Cause × Task)) : List VaultData :=
  tasks.filterMap fun x =>
    match x.2 with
    | .store vault _ _ => some vault
    | _ => none

def returned (w : Worker) : List AccountMeta :=
  w.sent.filterMap fun x =>
    match x with
    | .sendResponse _ (.result (.account account)) => some account
    | _ => none

/-- The event is a call of `wallet_addAccount`, from whom ever, or a call goes on. -/
def AddsAccounts : Event → Prop
  | .page _ _ method _ _ _ | .popup _ method _ _ => method = .walletAddAccount
  | .resume _ _ => True
  | _ => False

def inTurn (w : Worker) : Event → Bool
  | .resume i _ =>
    match w.tasks[i]? with
    | some (_, .store _ _ _) => (storing (w.tasks.take i)).isEmpty
    | _ => true
  | _ => (adding w.tasks).isEmpty

/-- The index of each account is its position. -/
def Indexed (vault : VaultData) : Prop :=
  vault.accounts.map AccountMeta.index = List.range vault.accounts.length

instance (vault : VaultData) : Decidable (Indexed vault) :=
  inferInstanceAs (Decidable (vault.accounts.map AccountMeta.index = List.range vault.accounts.length))

/-- A session is open, and only calls of `wallet_addAccount` are under way. -/
structure AddingInv (password : String) (ref : Nat) (w : Worker) : Prop where
  password_ne : password ≠ ""
  sessionPassword : w.sessionPassword = some password
  sessionVault : w.sessionVault = some ref
  ref_lt : ref < w.vaults.length
  indexed : Indexed (w.vault ref)
  tasks : ∀ x ∈ w.tasks, (∃ nextIndex, x.2 = .addAccount ref nextIndex) ∨
    ∃ vault account, x.2 = .store vault password (.replyAccount account) ∧ account ∈ vault.accounts
  indices : adding w.tasks = [] ∨ adding w.tasks = [(w.vault ref).accounts.length]
  ordered : (storing w.tasks).Pairwise fun vault vault' => vault.accounts ⊆ vault'.accounts
  current : ∀ vault ∈ storing w.tasks, vault.accounts ⊆ (w.vault ref).accounts
  replied : ∀ account ∈ returned w, account ∈ (w.vault ref).accounts ∧
    (∃ vault, w.stored = some (vault, password) ∧ account ∈ vault.accounts) ∧
    ∀ vault ∈ storing w.tasks, account ∈ vault.accounts

section

variable {crypto : WalletCrypto} {w : Worker} {password : String} {ref : Nat}

theorem split_of_getElem? {α : Type} {l : List α} {i : Nat} {a : α} (h : l[i]? = some a) :
    l = l.take i ++ a :: l.drop (i + 1) ∧ l.eraseIdx i = l.take i ++ l.drop (i + 1) := by
  obtain ⟨hi, rfl⟩ := List.getElem?_eq_some_iff.mp h
  refine ⟨?_, List.eraseIdx_eq_take_drop_succ l i⟩
  rw [List.getElem_cons_drop]
  exact (List.take_append_drop i l).symm

theorem adding_append (l l' : List (Cause × Task)) : adding (l ++ l') = adding l ++ adding l' :=
  List.filterMap_append

theorem storing_append (l l' : List (Cause × Task)) : storing (l ++ l') = storing l ++ storing l' :=
  List.filterMap_append

theorem AddingInv.getSession (h : AddingInv password ref w) : w.getSession = some (password, ref) := by
  simp [Worker.getSession, h.sessionPassword, h.sessionVault, h.password_ne]

theorem AddingInv.onMessage {c : Cause} {approvalId : String} (h : AddingInv password ref w)
    (hmethod : c.message.method = .walletAddAccount) (hturn : adding w.tasks = []) :
    AddingInv password ref (w.onMessage c approvalId) := by
  have hstep : w.onMessage c approvalId =
      w.addTask c (.addAccount ref (w.vault ref).accounts.length) := by
    simp only [Worker.onMessage, Worker.handleMessage, hmethod, Worker.requireSession, h.getSession]
    rfl
  rw [hstep]
  have hstoring : storing (w.tasks ++ [(c, .addAccount ref (w.vault ref).accounts.length)]) =
      storing w.tasks := by
    rw [storing_append]
    exact List.append_nil _
  refine ⟨h.password_ne, h.sessionPassword, h.sessionVault, h.ref_lt, h.indexed, ?_, .inr ?_, ?_, ?_,
    ?_⟩
  · intro x hx
    rcases List.mem_append.mp hx with hold | hnew
    · exact h.tasks x hold
    · rw [List.mem_singleton.mp hnew]
      exact .inl ⟨_, rfl⟩
  · simp only [Worker.addTask, adding_append, hturn]
    rfl
  · simp only [Worker.addTask, hstoring]
    exact h.ordered
  · simp only [Worker.addTask, hstoring]
    exact h.current
  · simp only [Worker.addTask, hstoring]
    exact h.replied

def newAccount (crypto : WalletCrypto) (vault : VaultData) (nextIndex : Nat) : AccountMeta :=
  let key := crypto.deriveKey vault.mnemonic nextIndex
  ⟨"Akun " ++ toString (nextIndex + 1), key.address, key.derivationPath, nextIndex⟩

def VaultData.push (vault : VaultData) (account : AccountMeta) : VaultData :=
  { vault with accounts := vault.accounts ++ [account] }

theorem getD_modify {α : Type} {l : List α} {i : Nat} (h : i < l.length) (f : α → α) (d : α) :
    (l.modify i f).getD i d = f (l.getD i d) := by
  simp [List.getD_eq_getElem?_getD, List.getElem?_eq_getElem h]

theorem AddingInv.resume_addAccount_eq (h : AddingInv password ref w) (c : Cause)
    (crypto : WalletCrypto) (net : Network) (tasks : List (Cause × Task)) (nextIndex : Nat) :
    { w with tasks }.resume c crypto net (.addAccount ref nextIndex) =
      let account := newAccount crypto (w.vault ref) nextIndex
      { w with
        vaults := w.vaults.modify ref fun vault => vault.push account
        tasks := tasks ++
          [(c, .store ((w.vault ref).push account) password (.replyAccount account))] } := by
  have hvault := getD_modify h.ref_lt
    (fun vault : VaultData => vault.push (newAccount crypto (w.vault ref) nextIndex)) default
  simp only [Worker.resume, Worker.persistSession, h.sessionPassword, if_neg h.password_ne]
  simp only [Worker.addTask, Worker.vault, ← h.sessionVault, newAccount, VaultData.push] at hvault ⊢
  rw [hvault]

theorem Indexed.push {vault : VaultData} (h : Indexed vault) {account : AccountMeta}
    (hindex : account.index = vault.accounts.length) : Indexed (vault.push account) := by
  simp only [Indexed, VaultData.push, List.map_append, List.map_singleton, List.length_append,
    List.length_singleton, List.range_succ, hindex]
  rw [show vault.accounts.map AccountMeta.index = _ from h]

theorem AddingInv.resume_addAccount {c : Cause} {net : Network} {i nextIndex : Nat}
    (h : AddingInv password ref w) (htask : w.tasks[i]? = some (c, .addAccount ref nextIndex)) :
    AddingInv password ref ({ w with tasks := w.tasks.eraseIdx i }.resume c crypto net
      (.addAccount ref nextIndex)) := by
  obtain ⟨hsplit, herase⟩ := split_of_getElem? htask
  generalize w.tasks.take i = l₁ at hsplit herase
  generalize w.tasks.drop (i + 1) = l₂ at hsplit herase
  -- no other call waits for its key, so the index is still the next one
  have hadding : adding w.tasks = adding l₁ ++ nextIndex :: adding l₂ := by
    rw [hsplit, adding_append]
    rfl
  have hindices : adding (l₁ ++ l₂) = [] ∧ nextIndex = (w.vault ref).accounts.length := by
    rcases h.indices with hnone | hone
    · simp [hadding] at hnone
    · rw [hadding] at hone
      cases hl₁ : adding l₁ with
      | nil =>
        rw [hl₁, List.nil_append, List.cons.injEq] at hone
        exact ⟨by rw [adding_append, hl₁, hone.2]; rfl, hone.1⟩
      | cons n ns => simp [hl₁] at hone
  obtain ⟨hnone, hnext⟩ := hindices
  have hstoring : storing (l₁ ++ l₂) = storing w.tasks := by
    rw [hsplit, storing_append, storing_append]
    rfl
  rw [h.resume_addAccount_eq, herase]
  generalize haccount : newAccount crypto (w.vault ref) nextIndex = account
  have hindex : account.index = (w.vault ref).accounts.length := by
    rw [← haccount, ← hnext]
    rfl
  have hvault : (w.vaults.modify ref fun vault => vault.push account).getD ref default =
      (w.vault ref).push account := getD_modify h.ref_lt _ _
  have hstores : ∀ c, storing (l₁ ++ l₂ ++ [(c, .store ((w.vault ref).push account) password
      (.replyAccount account))]) = storing w.tasks ++ [(w.vault ref).push account] := by
    intro c
    rw [storing_append, hstoring]
    rfl
  have hsubset : (w.vault ref).accounts ⊆ ((w.vault ref).push account).accounts :=
    List.subset_append_left _ _
  refine ⟨h.password_ne, h.sessionPassword, h.sessionVault, ?_, ?_, ?_, .inl ?_, ?_, ?_, ?_⟩
  · simpa using h.ref_lt
  · rw [Worker.vault, hvault]
    exact h.indexed.push hindex
  · intro x hx
    rcases List.mem_append.mp hx with hold | hnew
    · refine h.tasks x ?_
      rw [hsplit]
      rcases List.mem_append.mp hold with hl₁ | hl₂
      · exact List.mem_append_left _ hl₁
      · exact List.mem_append_right _ (List.mem_cons_of_mem _ hl₂)
    · rw [List.mem_singleton.mp hnew]
      exact .inr ⟨_, _, rfl, List.mem_append_right _ List.mem_cons_self⟩
  · simp only [adding_append _ [_], hnone]
    rfl
  · simp only [hstores]
    refine List.pairwise_append.mpr ⟨h.ordered, List.pairwise_singleton _ _, ?_⟩
    intro vault hv vault' hv'
    rw [List.mem_singleton.mp hv']
    exact List.Subset.trans (h.current vault hv) hsubset
  · simp only [hstores]
    intro vault hv
    rw [Worker.vault, hvault]
    rcases List.mem_append.mp hv with hold | hnew
    · exact List.Subset.trans (h.current vault hold) hsubset
    · rw [List.mem_singleton.mp hnew]
      exact List.Subset.refl _
  · simp only [hstores]
    intro a ha
    rw [Worker.vault, hvault]
    obtain ⟨hmem, hstored, hall⟩ := h.replied a ha
    refine ⟨hsubset hmem, hstored, fun vault hv => ?_⟩
    rcases List.mem_append.mp hv with hold | hnew
    · exact hall vault hold
    · rw [List.mem_singleton.mp hnew]
      exact hsubset hmem

theorem AddingInv.resume_store {c : Cause} {net : Network} {i : Nat} {vault : VaultData}
    {account : AccountMeta} (h : AddingInv password ref w) (hmem : account ∈ vault.accounts)
    (htask : w.tasks[i]? = some (c, .store vault password (.replyAccount account)))
    (hturn : storing (w.tasks.take i) = []) :
    AddingInv password ref ({ w with tasks := w.tasks.eraseIdx i }.resume c crypto net
      (.store vault password (.replyAccount account))) := by
  obtain ⟨hsplit, herase⟩ := split_of_getElem? htask
  generalize w.tasks.take i = l₁ at hsplit herase hturn
  generalize w.tasks.drop (i + 1) = l₂ at hsplit herase
  have hadding : adding (l₁ ++ l₂) = adding w.tasks := by
    rw [hsplit, adding_append, adding_append]
    rfl
  have hstoring : storing w.tasks = vault :: storing (l₁ ++ l₂) := by
    rw [hsplit, storing_append, storing_append, hturn]
    rfl
  obtain ⟨hfirst, hordered⟩ := List.pairwise_cons.mp (hstoring ▸ h.ordered)
  have hcurrent : ∀ v ∈ storing (l₁ ++ l₂), v.accounts ⊆ (w.vault ref).accounts :=
    fun v hv => h.current v (hstoring ▸ List.mem_cons_of_mem _ hv)
  have hvault : vault ∈ storing w.tasks := hstoring ▸ List.mem_cons_self
  rw [herase]
  refine ⟨h.password_ne, h.sessionPassword, h.sessionVault, h.ref_lt, h.indexed, ?_,
    hadding ▸ h.indices, hordered, hcurrent, ?_⟩
  · intro x hx
    refine h.tasks x ?_
    rw [hsplit]
    rcases List.mem_append.mp hx with hl₁ | hl₂
    · exact List.mem_append_left _ hl₁
    · exact List.mem_append_right _ (List.mem_cons_of_mem _ hl₂)
  · intro a ha
    have hcases : a ∈ returned w ∨ a = account := by
      simpa [returned, Worker.resume, Worker.afterStore, Worker.sendResponse, Worker.record] using ha
    rcases hcases with hold | rfl
    · obtain ⟨hcur, -, hall⟩ := h.replied a hold
      exact ⟨hcur, ⟨vault, rfl, hall vault hvault⟩,
        fun v hv => hall v (hstoring ▸ List.mem_cons_of_mem _ hv)⟩
    · exact ⟨h.current vault hvault hmem, ⟨vault, rfl, hmem⟩, fun v hv => hfirst v hv hmem⟩

theorem addingInv_step {e : Event} (h : AddingInv password ref w) (hadds : AddsAccounts e)
    (hturn : inTurn w e = true) : AddingInv password ref (w.step crypto e) := by
  cases e with
  | page origin tabId method params id approvalId => exact h.onMessage hadds (by simpa [inTurn] using hturn)
  | popup origin method params approvalId => exact h.onMessage hadds (by simpa [inTurn] using hturn)
  | resume i net =>
    simp only [Worker.step]
    split
    · rename_i c task htask
      rcases h.tasks _ (List.mem_of_getElem? htask) with ⟨nextIndex, htask'⟩ | ⟨vault, account, htask', hmem⟩
      · obtain rfl : task = .addAccount ref nextIndex := htask'
        exact h.resume_addAccount htask
      · obtain rfl : task = .store vault password (.replyAccount account) := htask'
        exact h.resume_store hmem htask (by simpa [inTurn, htask] using hturn)
    · exact h
  | timeout | autoLock | restart => exact hadds.elim

end

/-- In a run of overlapping calls of `wallet_addAccount`, none of which starts while another one
    waits for its key, and whose vaults are stored in order, the indices are the positions, and
    every returned account is in the stored vault. -/
theorem workerRun_addAccounts (crypto : WalletCrypto) (w : Worker) (events : List Event)
    {password : String} {ref : Nat} (hsession : w.getSession = some (password, ref))
    (href : ref < w.vaults.length) (hindexed : Indexed (w.vault ref)) (htasks : w.tasks = [])
    (hreturned : returned w = []) (hadds : ∀ e ∈ events, AddsAccounts e)
    (hturn : Run.Along (Worker.step crypto) (fun w e => inTurn w e = true) w events) :
    let w' := Run.run (Worker.step crypto) w events
    Indexed (w'.vault ref) ∧ ((w'.vault ref).accounts.map AccountMeta.index).Nodup ∧
      ∀ account ∈ returned w',
        ∃ vault, w'.stored = some (vault, password) ∧ account ∈ vault.accounts := by
  obtain ⟨hpassword, hvault, hne⟩ : w.sessionPassword = some password ∧ w.sessionVault = some ref ∧
      password ≠ "" := by
    unfold Worker.getSession at hsession
    split at hsession
    · rename_i found vault hfound hv
      split at hsession
      · cases hsession
      · cases hsession
        exact ⟨hfound, hv, by assumption⟩
    · cases hsession
  have hinit : AddingInv password ref w :=
    ⟨hne, hpassword, hvault, href, hindexed, by simp [htasks], .inl (by simp [htasks, adding]),
      by simp [htasks, storing], by simp [htasks, storing], by simp [hreturned]⟩
  have hinv := Run.Along.inv (I := AddingInv password ref)
    (fun w e hinv h => addingInv_step hinv (hadds e h.2) h.1) hinit (hturn.and_mem fun e he => he)
  refine ⟨hinv.indexed, ?_, fun account haccount => (hinv.replied account haccount).2.1⟩
  rw [show List.map _ _ = _ from hinv.indexed]
  exact List.nodup_range

def accountCrypto : WalletCrypto :=
  { sampleCrypto with
    deriveKey := fun mnemonic index =>
      if mnemonic = sampleMnemonic ∧ index = 1 then
        ⟨"ed2a279952d5a976b50d1750e2167873e69e56254d8a96e2811f76449f2b65d3",
          "grd1qdr0zj6df00l0nd7uqzpv6gdq3vmxg5z3s8d6zl", "garuda-sha256|1"⟩
      else if mnemonic = sampleMnemonic ∧ index = 2 then
        ⟨"d7b1cacc2d291ee095fbfca117dafc858f88fe9e624695d6d0a271c586440a25",
          "grd1qupxhx6jet5ydj75a4lrudhetyjskt7z6s5r9xn", "garuda-sha256|2"⟩
      else sampleCrypto.deriveKey mnemonic index }

def openWorker : Worker := Run.run (Worker.step accountCrypto) lockedWorker sampleUnlock

def addCall : Event := samplePopup .walletAddAccount none

def turnsRun : List Event := [addCall, .resume 0 {}, addCall, .resume 1 {}, .resume 0 {}, .resume 0 {}]

theorem workerRun_addAccounts_turns :
    let w := Run.run (Worker.step accountCrypto) openWorker turnsRun
    (returned w).map AccountMeta.index = [1, 2] ∧ w.tasks = [] ∧
      Indexed (w.vault 0) ∧ ((w.vault 0).accounts.map AccountMeta.index).Nodup ∧
      ∀ account ∈ returned w,
        ∃ vault, w.stored = some (vault, "garuda1945") ∧ account ∈ vault.accounts := by
  intro w
  have hadds : ∀ e ∈ turnsRun, AddsAccounts e := by
    simp [turnsRun, addCall, samplePopup, AddsAccounts]
  have hopen : openWorker.getSession = some ("garuda1945", 0) ∧ 0 < openWorker.vaults.length ∧
      Indexed (openWorker.vault 0) ∧ openWorker.tasks = [] ∧ returned openWorker = [] := by
    decide +kernel
  obtain ⟨hsession, href, hindexed, htasks, hreturned⟩ := hopen
  have hend : (returned w).map AccountMeta.index = [1, 2] ∧ w.tasks = [] := by decide +kernel
  exact ⟨hend.1, hend.2, workerRun_addAccounts accountCrypto openWorker turnsRun hsession href hindexed
    htasks hreturned hadds (by decide +kernel)⟩

/-- Two calls that wait for their keys at the same time get the same index. -/
theorem workerRun_addAccounts_overlap :
    let w := Run.run (Worker.step accountCrypto) openWorker
      [addCall, addCall, .resume 0 {}, .resume 0 {}, .resume 0 {}, .resume 0 {}]
    let w' := Run.run (Worker.step accountCrypto) openWorker
      [addCall, .resume 0 {}, addCall, .resume 1 {}, .resume 1 {}, .resume 0 {}]
    (w.tasks = [] ∧ (w.vault 0).accounts.map AccountMeta.index = [0, 1, 1] ∧
      (returned w).map AccountMeta.index = [1, 1]) ∧
    w'.tasks = [] ∧ (returned w').map AccountMeta.index = [2, 1] ∧
      w'.stored.map (fun x => x.1.accounts.map AccountMeta.index) = some [0, 1] := by
  decide +kernel

end GarudaChain.Extension
