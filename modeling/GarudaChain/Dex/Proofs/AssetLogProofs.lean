import GarudaChain.Dex.AssetLog

/-!
# The transaction log of assets
-/

namespace GarudaChain

/-- An entry with its key. -/
def AssetTxEntry.keyed (entry : AssetTxEntry) : (Uint256 × Int) × AssetTxEntry := (entry.key, entry)

def LogRun.Written (log : AssetLog) (s : LogRun) : Prop :=
  s.log = log.writeAll (keyBefore AssetTxEntry.keyBytes) (s.written.map AssetTxEntry.keyed)

theorem LogRun.Written.write {log : AssetLog} {s : LogRun} (h : s.Written log) (market : Market)
    (entry : Option AssetTxEntry) : (s.write market entry).Written log := by
  cases entry with
  | none => exact h
  | some entry =>
    show s.log.writeAssetTx entry = Store.writeAll _ _ ((s.written ++ [entry]).map _)
    rw [h, List.map_append, Store.writeAll, Store.writeAll, List.foldl_append]
    rfl

theorem logRun_written (env : DexEnv) (market : Market) (log : AssetLog)
    (requests : List LogRequest) :
    (Run.run (logStep env) ⟨market, log, []⟩ requests).Written log := by
  have hstart : LogRun.Written log ⟨market, log, []⟩ := rfl
  exact Run.run_inv (I := LogRun.Written log) (fun _ _ h => h.write _ _) hstart requests

/-- No two entries of a run are of one asset and one second, and none is of an asset and a second
    that the log has at the start. -/
def SecondsDistinct (log : AssetLog) (written : List AssetTxEntry) : Prop :=
  (written.map AssetTxEntry.key).Nodup ∧ ∀ entry ∈ written, log.read entry.key = none

/-- Over any run, every asset has gained as many entries as calls on it have succeeded exactly if no
    two of these calls were on one asset in one second. -/
theorem logRun_appendOnly_iff (env : DexEnv) (market : Market) (log : AssetLog)
    (requests : List LogRequest) :
    (Run.run (logStep env) ⟨market, log, []⟩ requests).AppendOnly log ↔
      SecondsDistinct log (Run.run (logStep env) ⟨market, log, []⟩ requests).written := by
  have hwritten := logRun_written env market log requests
  generalize Run.run (logStep env) ⟨market, log, []⟩ requests = s at hwritten
  have hcount : ∀ assetId,
      Store.writesIn Prod.fst (s.written.map AssetTxEntry.keyed) assetId =
        s.written.countP fun entry => entry.assetId = assetId := by
    intro assetId
    rw [Store.writesIn, List.countP_map]
    rfl
  have hkeys : (s.written.map AssetTxEntry.keyed).map Prod.fst = s.written.map AssetTxEntry.key := by
    rw [List.map_map]
    rfl
  have hfresh : log.Fresh (s.written.map AssetTxEntry.keyed) ↔ SecondsDistinct log s.written := by
    rw [Store.Fresh, hkeys, List.forall_mem_map]
    rfl
  rw [← hfresh, ← Store.countIn_writeAll_iff (keyBefore AssetTxEntry.keyBytes) Prod.fst,
    ← hwritten]
  simp only [hcount]
  rfl

/-- The asset of the instance, without orders. -/
def logMarket : Market := ⟨⟨sampleAssetDB, ⟨.empty, .empty, .empty, .empty⟩⟩, .empty⟩

/-- A transfer, a mint and a burn at three times. -/
def logRequests (transferred minted burned : Int) : List LogRequest :=
  [.transferasset 7 2 sampleSeller sampleBuyer none transferred,
    .mintasset 7 5 none minted,
    .burnasset 7 1 sampleBuyer none burned]

def sampleLogRun (requests : List LogRequest) : LogRun :=
  Run.run (logStep sampleDexEnv) ⟨logMarket, .empty, []⟩ requests

/-- Three calls in three seconds leave three entries; three calls in one second leave one. -/
theorem logRun_replaces :
    (sampleLogRun (logRequests 1000 1001 1002)).log.entriesOf 7 = 3 ∧
      (sampleLogRun (logRequests 1000 1000 1000)).written.length = 3 ∧
      (sampleLogRun (logRequests 1000 1000 1000)).log.entries.map Prod.snd =
        [⟨7, "burn", sampleBuyer, [], 1, 1000, ""⟩] ∧
      ¬ (sampleLogRun (logRequests 1000 1000 1000)).AppendOnly .empty := by
  have hvalues : (sampleLogRun (logRequests 1000 1001 1002)).log.entriesOf 7 = 3 ∧
      (sampleLogRun (logRequests 1000 1000 1000)).written.length = 3 ∧
      (sampleLogRun (logRequests 1000 1000 1000)).log.entries.map Prod.snd =
        [⟨7, "burn", sampleBuyer, [], 1, 1000, ""⟩] ∧
      (sampleLogRun (logRequests 1000 1000 1000)).log.entriesOf 7 = 1 ∧
      ((sampleLogRun (logRequests 1000 1000 1000)).written.countP
        fun entry => entry.assetId = 7) = 3 := by
    decide +kernel
  obtain ⟨hthree, hwritten, hentries, hlog, hcalls⟩ := hvalues
  refine ⟨hthree, hwritten, hentries, fun h => ?_⟩
  have hseven := h 7
  rw [hlog, hcalls] at hseven
  cases hseven

end GarudaChain
