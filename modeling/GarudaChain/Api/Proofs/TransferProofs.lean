import GarudaChain.Api.Transfer
import GarudaChain.Dex.Escrow

/-!
# Who moves tokens through the API
-/

namespace GarudaChain.Api

open Result (bind_ok_iff)

section

variable {env : NodeEnv} {db db' : AssetDB} {req : TransferRequest} {hex : List Char}

theorem requireAuth_eq_ok (hpqc : env.auth.authorityPqcPubkeyHashHex = []) (opName : String)
    (params : List (List Char)) : requireAuth env none opName params = .ok () := by
  simp [requireAuth, requirePQCAuth, hpqc]

theorem parseHashV_eq_ok_iff {name : String} {s : GoString} {id : Uint256} :
    parseHashV name s = .ok id ↔ validAssetID s = true ∧ parseAssetID s = id := by
  unfold parseHashV validAssetID
  dsimp only
  split_ifs with hlength hhex
  · simp [hlength]
  · have hnot : (s.all fun b => (Hex.value b).isSome) = false := by
      simpa only [Bool.not_eq_true'] using hhex
    rw [hnot]
    simp
  · have hall : (s.all fun b => (Hex.value b).isSome) = true := by
      simpa only [Bool.not_eq_true', Bool.not_eq_false] using hhex
    rw [hall, not_not.mp hlength]
    simp

theorem wireInt_eq_ok_iff {amount : Rat} {x : Int} :
    wireInt amount = .ok x ↔ amount.den = 1 ∧ amount.num = x := by
  unfold wireInt
  split_ifs with hden <;> simp [hden]

def moved (db : AssetDB) (assetId : Uint256) (amount : Int) (fromAddr toAddr : Bytes) : AssetDB :=
  (db.writeBalance assetId fromAddr (wrap64 (db.readBalance assetId fromAddr - amount))).writeBalance
    assetId toAddr (wrap64 (db.readBalance assetId toAddr + amount))

theorem executable_of_callTransferasset {method : GoString} (hpost : method = goString "POST")
    (hfrom : req.fromAddr ≠ []) (hto : req.toAddr ≠ [])
    (h : callTransferasset env db req.assetID req.amount req.fromAddr req.toAddr = .ok (db', hex)) :
    Executable env db method req ∧
      db' = moved db (parseAssetID req.assetID) req.amount.num req.fromAddr req.toAddr := by
  simp only [callTransferasset, transferasset, bind_ok_iff, throwIf_eq_ok, Except.ok.injEq,
    Prod.mk.injEq, parseHashV_eq_ok_iff, wireInt_eq_ok_iff] at h
  obtain ⟨_, ⟨hasset, rfl⟩, _, ⟨hden, rfl⟩, amount, hamount, _, hpositive, _, hfromValid, _, htoValid,
    _, -, _, hexists, _, hholds, rfl, -⟩ := h
  obtain ⟨rfl, -, hrange⟩ := getInt64_eq_ok hamount
  refine ⟨⟨hpost, hfrom, hto, hasset, hden, ?_, hrange, ?_, ?_, ?_, ?_⟩, rfl⟩
  · simpa using hpositive
  · simpa using hfromValid
  · simpa using htoValid
  · cases hread : db.readAsset (parseAssetID req.assetID) <;> simp_all
  · simpa using hholds

theorem callTransferasset_of_executable {method : GoString}
    (hpqc : env.auth.authorityPqcPubkeyHashHex = []) (h : Executable env db method req) :
    ∃ hex, callTransferasset env db req.assetID req.amount req.fromAddr req.toAddr =
      .ok (moved db (parseAssetID req.assetID) req.amount.num req.fromAddr req.toAddr, hex) := by
  have hamount : getInt64 req.amount.num = .ok req.amount.num := by
    have hlo := h.positive
    have hhi := h.inRange
    rw [getInt64, if_pos ⟨by omega, hhi⟩]
  have hexists : (db.readAsset (parseAssetID req.assetID)).isNone = false := by
    simpa using h.exists_asset
  refine ⟨hexStr (asciiBytes ['X', 'F', 'E', 'R'] ++ uint256Bytes (parseAssetID req.assetID)), ?_⟩
  simp only [callTransferasset, transferasset, bind_ok_iff, throwIf_eq_ok, Except.ok.injEq,
    Prod.mk.injEq, parseHashV_eq_ok_iff, wireInt_eq_ok_iff]
  exact ⟨_, ⟨h.assetID, rfl⟩, _, ⟨h.integer, rfl⟩, _, hamount, (), by simpa using h.positive, (),
    by simp [h.fromValid], (), by simp [h.toValid], (), requireAuth_eq_ok hpqc _ _, (), hexists, (),
    by simpa using h.holds, rfl, rfl⟩

theorem readBalance_moved_ne {assetId : Uint256} {amount : Int} {fromAddr toAddr : Bytes}
    (hpositive : 0 < amount) (hrange : amount < 9223372036854775808) :
    (moved db assetId amount fromAddr toAddr).readBalance assetId toAddr ≠
      db.readBalance assetId toAddr := by
  rw [moved, AssetDB.readBalance_writeBalance, if_pos ⟨rfl, rfl⟩]
  exact Int64Lib.wrap64_add_ne (by omega) (by omega) (by omega)

theorem swapRate_ne_ok (env : SwapEnv) (db : AssetDB) (req : SwapRequest) (rate : Rat) :
    swapRate env db req ≠ .ok rate := by
  intro h
  simp only [swapRate, bind_ok_iff] at h
  obtain ⟨_, -, _, -, _, -, _, -, h⟩ := h
  split at h
  · cases h
  · rename_i fields hfields
    simp only [getpeginfo, bind_ok_iff] at hfields
    obtain ⟨assetId, -, hfields⟩ := hfields
    split at hfields
    · cases hfields
    · cases hfields
      obtain ⟨rate, hrate, h⟩ := bind_ok_iff.mp h
      have hzero : rate = 0 := (Except.ok.inj hrate).symm
      subst hzero
      simp [Result.failIf, bind, Except.bind] at h

theorem dexSwap_db (env : SwapEnv) (s : DexApi) (clientIP : GoString) (now : Int)
    (req : Option SwapRequest) : (s.dexSwap env clientIP now req).db = s.db := by
  unfold DexApi.dexSwap
  split
  · rfl
  · rfl
  · split
    · rfl
    · rename_i db hswap
      obtain ⟨rate, hrate, -⟩ := bind_ok_iff.mp hswap
      exact absurd hrate (swapRate_ne_ok _ _ _ rate)

theorem handlePrepareTransfer_of_executable {method : GoString}
    (hpqc : env.auth.authorityPqcPubkeyHashHex = []) (h : Executable env db method req) :
    (handlePrepareTransfer env db method req).2 =
      moved db (parseAssetID req.assetID) req.amount.num req.fromAddr req.toAddr := by
  obtain ⟨hex, hcall⟩ := callTransferasset_of_executable hpqc h
  have hcomplete : ¬ (req.assetID = [] ∨ req.amount ≤ 0 ∨ req.fromAddr = [] ∨ req.toAddr = []) := by
    rintro (hnone | hamount | hnone | hnone)
    · have hasset := h.assetID
      simp [hnone, validAssetID] at hasset
    · have hnum : req.amount.num ≤ 0 := Rat.num_nonpos.mpr hamount
      have hpositive := h.positive
      omega
    · exact h.fromAddr hnone
    · exact h.toAddr hnone
  simp [handlePrepareTransfer, h.post, hcomplete, hcall]

theorem handlePrepareTransfer_of_not_executable {method : GoString}
    (h : ¬ Executable env db method req) : (handlePrepareTransfer env db method req).2 = db := by
  unfold handlePrepareTransfer
  split_ifs with hmethod hmissing
  · rfl
  · rfl
  · split
    · rfl
    · rename_i hcall
      push Not at hmissing
      exact absurd (executable_of_callTransferasset (not_not.mp hmethod) hmissing.2.2.1
        hmissing.2.2.2 hcall).1 h

end

section

variable {env : SwapEnv} {reserve : Bytes → Prop} {s : DexApi} {req : DexHttp}

theorem needsNoConsent_iff (hpqc : env.auth.authorityPqcPubkeyHashHex = []) :
    NeedsNoConsent env reserve s req ↔ NotExecutable env s req := by
  cases req with
  | dexSwap clientIP now swap =>
    have hdb : (s.step env (.dexSwap clientIP now swap)).db = s.db :=
      dexSwap_db env s clientIP now swap
    refine ⟨fun _ => trivial, fun _ => ⟨fun assetId address _ => ?_, fun method transfer heq => ?_⟩⟩
    · rw [hdb]
    · cases heq
  | prepareTransfer method transfer =>
    constructor
    · intro h hexecutable
      apply readBalance_moved_ne hexecutable.positive hexecutable.inRange
      rw [← handlePrepareTransfer_of_executable hpqc hexecutable]
      exact h.prepareKeeps method transfer rfl _ _
    · intro h
      have hdb : (s.step env (.prepareTransfer method transfer)).db = s.db :=
        handlePrepareTransfer_of_not_executable h
      refine ⟨fun assetId address _ => ?_, fun _ _ _ assetId address => ?_⟩
      · rw [hdb]
      · rw [hdb]

end

/-- In a run of requests to the two handlers tokens stay where they are without their owners' consent,
    and preparing a transfer changes no balance, exactly if no prepared transfer is executable when
    its request comes. -/
theorem dexRun_needsNoConsent_iff (env : SwapEnv) (reserve : Bytes → Prop) (s : DexApi)
    (requests : List DexHttp) (hpqc : env.auth.authorityPqcPubkeyHashHex = []) :
    Run.Along (DexApi.step env) (NeedsNoConsent env reserve) s requests ↔
      Run.Along (DexApi.step env) (NotExecutable env) s requests := by
  constructor
  · exact Run.Along.mono (I := fun _ => True) (fun _ _ _ _ => trivial)
      (fun _ _ _ h => (needsNoConsent_iff hpqc).mp h) trivial
  · exact Run.Along.mono (I := fun _ => True) (fun _ _ _ _ => trivial)
      (fun _ _ _ h => (needsNoConsent_iff hpqc).mpr h) trivial

def sampleSwapEnv : SwapEnv where
  toNodeEnv := sampleDexEnv.toNodeEnv
  peg _ := (1, goString "IDR")
  findCBDCTokenHolder _ _ := sampleSeller
  treasuryAddress := sampleSeller
  maxAmountGRD := 1000000000

def sampleApi : DexApi := ⟨sampleAssetDB.writeBalance 7 sampleBuyer 10, ⟨[], 60, 60 * goSecond⟩⟩

def prepareFromBuyer (amount : Rat) : DexHttp :=
  .prepareTransfer (goString "POST") ⟨List.replicate 63 48 ++ [55], amount, sampleBuyer, sampleSeller⟩

def sellForBuyer : DexHttp :=
  .dexSwap (goString "127.0.0.1") 0
    (some ⟨goString "sell", List.replicate 63 48 ++ [55], 5, sampleBuyer⟩)

theorem dexRun_needsNoConsent_refused :
    Run.Along (DexApi.step sampleSwapEnv) (NeedsNoConsent sampleSwapEnv (· = sampleSeller)) sampleApi
      [prepareFromBuyer 50, sellForBuyer] := by
  refine (dexRun_needsNoConsent_iff _ _ _ _ rfl).mpr ⟨fun hexecutable => ?_, trivial, trivial⟩
  exact absurd hexecutable.holds (by decide +kernel)

theorem prepareTransfer_takesTokens :
    sampleApi.db.readBalance 7 sampleBuyer = 10 ∧
    (sampleApi.step sampleSwapEnv (prepareFromBuyer 5)).db.readBalance 7 sampleBuyer = 5 ∧
    ¬ Run.Along (DexApi.step sampleSwapEnv) (NeedsNoConsent sampleSwapEnv (· = sampleSeller)) sampleApi
      [prepareFromBuyer 5] := by
  have hvalues : sampleApi.db.readBalance 7 sampleBuyer = 10 ∧
      (sampleApi.step sampleSwapEnv (prepareFromBuyer 5)).db.readBalance 7 sampleBuyer = 5 ∧
      ¬ sampleBuyer = sampleSeller := by
    decide +kernel
  obtain ⟨hbefore, hafter, hother⟩ := hvalues
  refine ⟨hbefore, hafter, fun halong => ?_⟩
  have hkept := halong.1.noDecrease 7 sampleBuyer hother
  rw [hbefore, hafter] at hkept
  exact absurd hkept (by decide)

end GarudaChain.Api
