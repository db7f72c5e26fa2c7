import GarudaChain.Api.Mint
import GarudaChain.Dex.Escrow

/-!
# How often a key mints
-/

namespace GarudaChain.Api

section

variable {cache : IdemCache} {k k' : GoString} {now : Int} {order : MapOrder}

theorem lookup_delete_of_ne (h : k ≠ k') :
    (IdemCache.delete cache k').lookup k = cache.lookup k := by
  induction cache with
  | nil => rfl
  | cons e cache ih =>
    unfold IdemCache.delete at ih ⊢
    by_cases hk : e.1 = k'
    · have hne : (k == e.1) = false := by simpa [hk] using h
      rw [List.filter_cons_of_neg (by simp [hk]), ih, List.lookup_cons, hne]
    · rw [List.filter_cons_of_pos (by simpa using hk), List.lookup_cons, List.lookup_cons, ih]

theorem lookup_get_of_ne (h : k ≠ k') :
    (IdemCache.get cache k' now).2.lookup k = cache.lookup k := by
  unfold IdemCache.get
  split
  · rfl
  · split
    · exact lookup_delete_of_ne h
    · rfl

theorem lookup_set_self (body : CachedBody) :
    (IdemCache.set cache k body now order).lookup k = some ⟨body, now⟩ := by
  simp [IdemCache.set]

theorem lookup_set_of_ne (body : CachedBody) (h : k ≠ k') (hfull : cache.length < maxIdemEntries) :
    (IdemCache.set cache k' body now order).lookup k = cache.lookup k := by
  have hne : (k == k') = false := by simpa using h
  rw [IdemCache.set, List.lookup_cons, hne, IdemCache.evict, if_pos hfull]
  exact lookup_delete_of_ne h

theorem get_of_lookup {entry : IdemEntry} {start : Int} (h : cache.lookup k = some entry)
    (hcreated : start ≤ entry.created) (hnow : now ≤ start + idemTTL) :
    IdemCache.get cache k now = (some entry, cache) := by
  have hlive : IdemCache.expired entry now = false := by
    simp only [IdemCache.expired, decide_eq_false_iff_not]
    omega
  simp [IdemCache.get, h, hlive]

theorem idemKey_mint_injective (h : idemKey "mint" k = idemKey "mint" k') : k = k' :=
  List.append_cancel_left h

theorem idemKey_mint_ne_burn : idemKey "mint" k ≠ idemKey "burn" k' := by
  intro h
  have hhead := congrArg List.head? h
  simp [idemKey, goString, asciiBytes] at hhead

end

def callsOf (key : GoString) (inFlight : List MintCall) : List MintCall :=
  inFlight.filter fun call => call.key = key

section

variable {key : GoString} {inFlight : List MintCall} {i : Nat} {call : MintCall}

theorem split_at_call (h : inFlight[i]? = some call) :
    ∃ before after, inFlight = before ++ call :: after ∧
      inFlight.eraseIdx i = before ++ after ∧
      ∀ call', inFlight.set i call' = before ++ call' :: after := by
  obtain ⟨hi, hget⟩ := List.getElem?_eq_some_iff.mp h
  refine ⟨inFlight.take i, inFlight.drop (i + 1), ?_, ?_, fun call' => ?_⟩
  · rw [← hget, List.getElem_cons_drop, List.take_append_drop]
  · exact List.eraseIdx_eq_take_drop_succ inFlight i
  · rw [List.set_eq_take_append_cons_drop, if_pos hi]

theorem callsOf_eraseIdx_of_ne (h : inFlight[i]? = some call) (hkey : call.key ≠ key) :
    callsOf key (inFlight.eraseIdx i) = callsOf key inFlight := by
  obtain ⟨before, after, hsplit, herase, -⟩ := split_at_call h
  rw [herase, hsplit]
  simp [callsOf, hkey]

theorem callsOf_set_of_ne (h : inFlight[i]? = some call) (hkey : call.key ≠ key)
    {call' : MintCall} (hkey' : call'.key ≠ key) :
    callsOf key (inFlight.set i call') = callsOf key inFlight := by
  obtain ⟨before, after, hsplit, -, hset⟩ := split_at_call h
  rw [hset, hsplit]
  simp [callsOf, hkey, hkey']

theorem callsOf_only (h : inFlight[i]? = some call) (hkey : call.key = key)
    (hone : (callsOf key inFlight).length ≤ 1) :
    callsOf key inFlight = [call] ∧ callsOf key (inFlight.eraseIdx i) = [] ∧
      ∀ call' : MintCall, call'.key = key → callsOf key (inFlight.set i call') = [call'] := by
  obtain ⟨before, after, hsplit, herase, hset⟩ := split_at_call h
  have hcalls : ∀ call' : MintCall, call'.key = key → callsOf key (before ++ call' :: after) =
      callsOf key before ++ call' :: callsOf key after := by
    intro call' hkey'
    simp [callsOf, hkey']
  rw [hsplit, hcalls call hkey, List.length_append, List.length_cons] at hone
  have hbefore : callsOf key before = [] := List.eq_nil_of_length_eq_zero (by omega)
  have hafter : callsOf key after = [] := List.eq_nil_of_length_eq_zero (by omega)
  refine ⟨?_, ?_, fun call' hkey' => ?_⟩
  · rw [hsplit, hcalls call hkey, hbefore, hafter]
    rfl
  · rw [herase]
    unfold callsOf at hbefore hafter ⊢
    rw [List.filter_append, hbefore, hafter]
    rfl
  · rw [hset, hcalls call' hkey', hbefore, hafter]
    rfl

end

/-- The situation of a key on a day that begins at `start`. -/
inductive KeyState (key : GoString) (start : Int) (s : MintServer) : Prop
  /-- Nothing has been minted, and no request is served. -/
  | idle (hcalls : callsOf key s.inFlight = []) (hcount : s.minted.count key = 0)
  | calling (call : MintCall) (hcalls : callsOf key s.inFlight = [call])
      (hphase : call.phase = .calling) (hcount : s.minted.count key = 0)
  | minted (call : MintCall) (hcalls : callsOf key s.inFlight = [call])
      (hphase : call.phase ≠ .calling) (hcount : s.minted.count key = 1)
  | cached (entry : IdemEntry) (hcalls : callsOf key s.inFlight = [])
      (hcount : s.minted.count key = 1)
      (hentry : s.cache.lookup (idemKey "mint" key) = some entry)
      (hcreated : start ≤ entry.created)

variable {call : MintCall} {i : Nat} {now : Int}

section

variable {env : NodeEnv} {maxAmountGRD : Int} {key : GoString} {start : Int} {s s' : MintServer}

theorem KeyState.count_le (h : KeyState key start s) : s.minted.count key ≤ 1 := by
  cases h with
  | idle _ hcount | calling _ _ _ hcount => omega
  | minted _ _ _ hcount | cached _ _ hcount => omega

theorem KeyState.length_calls_le (h : KeyState key start s) :
    (callsOf key s.inFlight).length ≤ 1 := by
  cases h with
  | idle hcalls | cached _ hcalls => simp [hcalls]
  | calling _ hcalls | minted _ hcalls => simp [hcalls]

theorem KeyState.frame (h : KeyState key start s)
    (hcalls : callsOf key s'.inFlight = callsOf key s.inFlight)
    (hcount : s'.minted.count key = s.minted.count key)
    (hcache : s.cache.lookup (idemKey "mint" key) ≠ none →
      s'.cache.lookup (idemKey "mint" key) = s.cache.lookup (idemKey "mint" key)) :
    KeyState key start s' := by
  cases h with
  | idle hc hn => exact .idle (hcalls.trans hc) (hcount.trans hn)
  | calling call hc hphase hn => exact .calling call (hcalls.trans hc) hphase (hcount.trans hn)
  | minted call hc hphase hn => exact .minted call (hcalls.trans hc) hphase (hcount.trans hn)
  | cached entry hc hn hentry hcreated =>
    exact .cached entry (hcalls.trans hc) (hcount.trans hn)
      ((hcache (by simp [hentry])).trans hentry) hcreated

theorem pastLookup_cases (s : MintServer) (maxAmountGRD : Int) (req : MintRequest) (clientIP : GoString)
    (assets : List (GoString × GoString)) (now : Int) :
    (s.pastLookup maxAmountGRD req clientIP assets now).minted = s.minted ∧
    (s.pastLookup maxAmountGRD req clientIP assets now).cache = s.cache ∧
    ((s.pastLookup maxAmountGRD req clientIP assets now).inFlight = s.inFlight ∨
      ∃ assetID, (s.pastLookup maxAmountGRD req clientIP assets now).inFlight =
        s.inFlight ++ [⟨req.idempotencyKey, assetID, req.amount, .calling⟩]) := by
  unfold MintServer.pastLookup
  split
  · exact ⟨rfl, rfl, .inl rfl⟩
  · dsimp only
    split
    · exact ⟨rfl, rfl, .inl rfl⟩
    · rename_i assetID _
      exact ⟨rfl, rfl, .inr ⟨assetID, rfl⟩⟩

theorem keyState_pastLookup {req : MintRequest} {clientIP : GoString}
    {assets : List (GoString × GoString)} (h : KeyState key start s)
    (hidle : req.idempotencyKey = key →
      callsOf key s.inFlight = [] ∧ s.minted.count key = 0) :
    KeyState key start (s.pastLookup maxAmountGRD req clientIP assets now) := by
  obtain ⟨hminted, hcache, hinFlight⟩ :=
    pastLookup_cases s maxAmountGRD req clientIP assets now
  rcases hinFlight with hsame | ⟨assetID, hnew⟩
  · exact h.frame (by rw [hsame]) (by rw [hminted]) (fun _ => by rw [hcache])
  · by_cases hkey : req.idempotencyKey = key
    · obtain ⟨hcalls, hcount⟩ := hidle hkey
      refine .calling ⟨req.idempotencyKey, assetID, req.amount, .calling⟩ ?_ rfl
        (by rw [hminted, hcount])
      unfold callsOf at hcalls ⊢
      rw [hnew, List.filter_append, hcalls]
      simp [hkey]
    · refine h.frame ?_ (by rw [hminted]) (fun _ => by rw [hcache])
      rw [hnew]
      simp [callsOf, hkey]

theorem keyState_request {req : MintRequest} {clientIP : GoString}
    {assets : List (GoString × GoString)} (hne : key ≠ []) (h : KeyState key start s)
    (hday : WithinDay key start s (.request req clientIP assets now))
    (halone : Undisturbed key s (.request req clientIP assets now)) :
    KeyState key start (s.request maxAmountGRD req clientIP assets now) := by
  unfold MintServer.request
  split
  · rename_i hempty
    exact keyState_pastLookup h fun hkey => absurd (hkey.symm.trans hempty) hne
  · by_cases hkey : req.idempotencyKey = key
    · have hcalls : callsOf key s.inFlight = [] :=
        List.filter_eq_nil_iff.mpr fun call hcall => by simpa using halone hkey call hcall
      cases h with
      | idle _ hcount =>
        split
        · exact .idle hcalls hcount
        · exact keyState_pastLookup (.idle hcalls hcount) fun _ => ⟨hcalls, hcount⟩
      | calling _ hone | minted _ hone => simp [hone] at hcalls
      | cached entry _ hcount hentry hcreated =>
        -- the response of the same day is replayed
        rw [hkey, get_of_lookup hentry hcreated (hday hkey).2]
        exact .cached entry hcalls hcount hentry hcreated
    · have hcache : (IdemCache.get s.cache (idemKey "mint" req.idempotencyKey) now).2.lookup
          (idemKey "mint" key) = s.cache.lookup (idemKey "mint" key) :=
        lookup_get_of_ne fun heq => hkey (idemKey_mint_injective heq).symm
      split
      all_goals
        rename_i cache hget
        rw [hget] at hcache
      · exact h.frame rfl rfl fun _ => hcache
      · exact keyState_pastLookup (h.frame rfl rfl fun _ => hcache) fun hkey' => absurd hkey' hkey

theorem keyState_finish (hcall : s.inFlight[i]? = some call)
    (hphase : call.key = key → call.phase = .calling) (h : KeyState key start s) :
    KeyState key start (s.finish i) := by
  by_cases hkey : call.key = key
  · obtain ⟨hcalls, herase, -⟩ := callsOf_only hcall hkey h.length_calls_le
    cases h with
    | idle hnone | cached _ hnone => simp [hnone] at hcalls
    | calling _ _ _ hcount => exact .idle herase hcount
    | minted call' hone hphase' =>
      rw [hone, List.singleton_inj] at hcalls
      exact absurd (hphase hkey) (hcalls ▸ hphase')
  · exact h.frame (callsOf_eraseIdx_of_ne hcall hkey) rfl fun _ => rfl

theorem keyState_mintRPC {outcome : RpcOutcome}
    (hcall : s.inFlight[i]? = some call) (hphase : call.phase = .calling)
    (hanswered : call.key = key → outcome ≠ .answerLost) (h : KeyState key start s) :
    KeyState key start (s.mintRPC env i call outcome) := by
  unfold MintServer.mintRPC
  split
  · exact keyState_finish hcall (fun _ => hphase) h
  · exact keyState_finish hcall (fun _ => hphase) h
  · -- an answer that is lost is one of another key
    have hkey : call.key ≠ key := fun hkey => hanswered hkey rfl
    refine h.frame (callsOf_eraseIdx_of_ne hcall hkey) ?_ fun _ => rfl
    simp [MintServer.finish, List.count_append, hkey]
  · rename_i res _
    by_cases hkey : call.key = key
    · obtain ⟨hcalls, -, hset⟩ := callsOf_only hcall hkey h.length_calls_le
      cases h with
      | idle hnone | cached _ hnone => simp [hnone] at hcalls
      | calling _ _ _ hcount =>
        refine .minted { call with phase := .broadcasting res } (hset _ hkey) (by simp) ?_
        simp [List.count_append, hcount, hkey]
      | minted call' hone hphase' =>
        rw [hone, List.singleton_inj] at hcalls
        exact absurd hphase (hcalls ▸ hphase')
    · refine h.frame (callsOf_set_of_ne hcall hkey hkey) ?_ fun _ => rfl
      simp [List.count_append, hkey]

theorem KeyState.of_past (h : KeyState key start s)
    (hcall : s.inFlight[i]? = some call) (hkey : call.key = key) (hphase : call.phase ≠ .calling) :
    s.minted.count key = 1 := by
  obtain ⟨hcalls, -, -⟩ := callsOf_only hcall hkey h.length_calls_le
  cases h with
  | idle hnone | cached _ hnone => simp [hnone] at hcalls
  | calling call' hone hphase' =>
    rw [hone, List.singleton_inj] at hcalls
    exact absurd (hcalls ▸ hphase') hphase
  | minted _ _ _ hcount => exact hcount

theorem keyState_respond {res : MintResult} {txid : GoString} {order : MapOrder} (hne : key ≠ []) (hcall : s.inFlight[i]? = some call)
    (hphase : call.phase ≠ .calling) (hday : call.key = key → start ≤ now)
    (hfull : s.cache.lookup (idemKey "mint" key) ≠ none → s.cache.length < maxIdemEntries)
    (h : KeyState key start s) :
    KeyState key start (s.respond i call res txid now order) := by
  unfold MintServer.respond
  dsimp only
  by_cases hkey : call.key = key
  · obtain ⟨-, herase, -⟩ := callsOf_only hcall hkey h.length_calls_le
    rw [if_neg (hkey ▸ hne), hkey]
    exact .cached _ herase (h.of_past hcall hkey hphase) (lookup_set_self _) (hday hkey)
  · split
    · exact h.frame (callsOf_eraseIdx_of_ne hcall hkey) rfl fun _ => rfl
    · refine h.frame (callsOf_eraseIdx_of_ne hcall hkey) rfl fun hcached => ?_
      exact lookup_set_of_ne _ (fun heq => hkey (idemKey_mint_injective heq).symm) (hfull hcached)

theorem keyState_step {e : MintEvent} (hne : key ≠ []) (h : KeyState key start s)
    (hday : WithinDay key start s e) (hundisturbed : Undisturbed key s e) :
    KeyState key start (s.step env maxAmountGRD e) := by
  cases e with
  | request req clientIP assets now => exact keyState_request hne h hday hundisturbed
  | mintRPC i outcome =>
    simp only [MintServer.step]
    split
    · rename_i call hcall
      split
      · rename_i hphase
        exact keyState_mintRPC hcall hphase (hundisturbed call hcall) h
      · exact h
    · exact h
  | broadcast i txid =>
    simp only [MintServer.step]
    split
    · rename_i call hcall
      split
      · rename_i res txid hphase
        by_cases hkey : call.key = key
        · obtain ⟨-, -, hset⟩ := callsOf_only hcall hkey h.length_calls_le
          exact .minted { call with phase := .responding res txid } (hset _ hkey) (by simp)
            (h.of_past hcall hkey (by simp [hphase]))
        · exact h.frame (callsOf_set_of_ne hcall hkey hkey) rfl fun _ => rfl
      · -- a broadcast that fails is one of another key
        have hkey : call.key ≠ key := fun hkey => hundisturbed call hcall hkey rfl
        exact keyState_finish hcall (fun hkey' => absurd hkey' hkey) h
      · exact h
    · exact h
  | respond i now order =>
    simp only [MintServer.step]
    split
    · rename_i call hcall
      split
      · rename_i res txid hphase
        exact keyState_respond hne hcall (by simp [hphase]) (hday call hcall) hundisturbed h
      · exact h
    · exact h
  | burnLookup burnKey now =>
    exact h.frame rfl rfl fun _ => lookup_get_of_ne idemKey_mint_ne_burn
  | burnRespond burnKey body now order =>
    exact h.frame rfl rfl fun hcached =>
      lookup_set_of_ne _ idemKey_mint_ne_burn (hundisturbed hcached)

end

/-- On one day, and if nothing disturbs the requests with a key, `mintasset` takes effect for it at
    most once, whatever the other requests do. -/
theorem mintRun_atMostOnce (env : NodeEnv) (maxAmountGRD : Int) (key : GoString) (start : Int)
    (s : MintServer) (events : List MintEvent) (hne : key ≠ [])
    (hinFlight : ∀ call ∈ s.inFlight, call.key ≠ key) (hminted : key ∉ s.minted)
    (hday : Run.Along (MintServer.step env maxAmountGRD) (WithinDay key start) s events)
    (hundisturbed : Run.Along (MintServer.step env maxAmountGRD) (Undisturbed key) s events) :
    (Run.run (MintServer.step env maxAmountGRD) s events).minted.count key ≤ 1 := by
  have hidle : KeyState key start s :=
    .idle (List.filter_eq_nil_iff.mpr fun call hcall => by simpa using hinFlight call hcall)
      (List.count_eq_zero.mpr hminted)
  exact (Run.Along.inv (I := KeyState key start)
    (fun s e h hP => keyState_step hne h hP.1 hP.2) hidle (hday.and hundisturbed)).count_le

def sampleServer : MintServer := ⟨[], ⟨[], 5, 60 * goSecond⟩, sampleAssetDB, [], []⟩

def mintKey : GoString := goString "k1"

def mintAt (second : Int) : MintEvent :=
  .request { assetID := List.replicate 63 48 ++ [55], amount := 5, idempotencyKey := mintKey }
    (goString "127.0.0.1") [] (second * goSecond)

def respondAt (second : Int) : MintEvent :=
  .respond 0 (second * goSecond) ⟨id, fun _ => .refl _⟩

abbrev sampleMintRun : List MintEvent → MintServer :=
  Run.run (MintServer.step sampleDexEnv.toNodeEnv 1000000000) sampleServer

def servedRun : List MintEvent :=
  [mintAt 0, .mintRPC 0 .answered, .broadcast 0 (some (goString "t1")), respondAt 1]

theorem mintRun_atMostOnce_retry :
    (sampleMintRun (servedRun ++ [mintAt 3600])).minted = [mintKey] ∧
    (sampleMintRun (servedRun ++ [mintAt 3600])).minted.count mintKey ≤ 1 := by
  have hserved : (sampleMintRun servedRun).inFlight = [] := by decide +kernel
  refine ⟨by decide +kernel, mintRun_atMostOnce _ _ mintKey 0 _ _ (by decide +kernel)
    (List.forall_mem_nil _) List.not_mem_nil ?_ ?_⟩
  · refine Run.Along.append ⟨fun _ => ?_, trivial, trivial, fun _ _ _ => ?_, trivial⟩
      ⟨fun _ => ?_, trivial⟩
    all_goals decide
  · refine Run.Along.append ⟨fun _ => List.forall_mem_nil _, fun _ _ _ => by decide,
      fun _ _ _ => by simp, fun _ => by decide +kernel, trivial⟩ ⟨fun _ => ?_, trivial⟩
    rw [hserved]
    exact List.forall_mem_nil _

/-- Two requests look into the cache before either is served; and one is retried after a failed
    broadcast. -/
theorem mintRun_twice :
    (sampleMintRun [mintAt 0, mintAt 0, .mintRPC 0 .answered, .mintRPC 1 .answered]).minted.count
      mintKey = 2 ∧
    (sampleMintRun [mintAt 0, .mintRPC 0 .answered, .broadcast 0 none, mintAt 60,
      .mintRPC 0 .answered]).minted.count mintKey = 2 ∧
    (sampleMintRun [mintAt 0, mintAt 0, .mintRPC 0 .answered, .mintRPC 1 .answered]).db.readBalance 7
      sampleSeller = 20 := by
  refine ⟨?_, ?_, ?_⟩
  all_goals decide +kernel

end GarudaChain.Api
