import GarudaChain.Node.Assets

/-!
# Transfers of an asset
-/

namespace GarudaChain

open Int64Lib Result

namespace AssetDB

variable {db : AssetDB}

theorem readBalance_eq_share (assetId : Uint256) (address : Bytes) :
    db.readBalance assetId address =
      db.balances.share (fun key balance => if key.1 = assetId then balance else 0)
        (assetId, address) := by
  unfold readBalance Store.share
  cases db.balances.read (assetId, address) with
  | none => rfl
  | some balance => simp

theorem assetTotal_writeBalance (assetId assetId' : Uint256) (address : Bytes) (balance : Int) :
    (db.writeBalance assetId address balance).assetTotal assetId' =
      db.assetTotal assetId' +
        if assetId = assetId' then balance - db.readBalance assetId address else 0 := by
  have h := Store.total_write (keyBefore balanceKey) db.balances
    (fun key balance => if key.1 = assetId' then balance else 0) (assetId, address) balance
  refine h.trans ?_
  by_cases ha : assetId = assetId'
  · subst ha
    rw [← readBalance_eq_share, if_pos rfl, if_pos rfl, assetTotal]
    omega
  · have hshare : db.balances.share
        (fun key balance => if key.1 = assetId' then balance else 0) (assetId, address) = 0 := by
      unfold Store.share
      cases db.balances.read (assetId, address) with
      | none => rfl
      | some balance => exact if_neg ha
    rw [hshare, if_neg ha, if_neg ha, assetTotal]
    omega

theorem readAsset_writeAsset (info : AssetInfo) (assetId : Uint256) :
    (db.writeAsset info).readAsset assetId =
      if assetId = info.assetId then some info else db.readAsset assetId := by
  unfold readAsset writeAsset
  split_ifs with h
  · rw [h, Store.read_write_self]
  · exact Store.read_write_of_ne _ _ h _

theorem assetTotal_congr {db db' : AssetDB} {assetId : Uint256}
    (h : ∀ address, db'.readBalance assetId address = db.readBalance assetId address) :
    db'.assetTotal assetId = db.assetTotal assetId := by
  refine Store.total_eq_of_share_eq _ ?_
  rintro ⟨id, address⟩
  by_cases hid : id = assetId
  · subst hid
    rw [← readBalance_eq_share, ← readBalance_eq_share, h]
  · have hzero : ∀ db : AssetDB, db.balances.share
        (fun key balance => if key.1 = assetId then balance else 0) (id, address) = 0 := by
      intro db
      unfold Store.share
      cases db.balances.read (id, address) with
      | none => rfl
      | some balance => exact if_neg hid
    rw [hzero, hzero]

theorem Nonneg.readBalance (h : db.Nonneg) (assetId : Uint256) (address : Bytes) :
    0 ≤ db.readBalance assetId address := by
  unfold AssetDB.readBalance
  cases hread : db.balances.read (assetId, address) with
  | none => exact le_refl 0
  | some balance => exact h _ (Store.read_eq_some_iff _ |>.mp hread)

theorem nonneg_iff : db.Nonneg ↔ ∀ assetId address, 0 ≤ db.readBalance assetId address := by
  constructor
  · exact fun h assetId address => h.readBalance assetId address
  · rintro h ⟨⟨assetId, address⟩, balance⟩ he
    have hread := h assetId address
    rw [AssetDB.readBalance, (Store.read_eq_some_iff _).mpr he] at hread
    exact hread

theorem Nonneg.readBalance_le (h : db.Nonneg) (assetId : Uint256) (address : Bytes) :
    db.readBalance assetId address ≤ db.assetTotal assetId := by
  rw [readBalance_eq_share]
  refine Store.share_le_total _ _ ?_ _
  intro e he
  split_ifs
  · exact h e he
  · exact le_refl 0

theorem Nonneg.readBalance_add_le (h : db.Nonneg) (assetId : Uint256) {a b : Bytes} (hab : a ≠ b) :
    db.readBalance assetId a + db.readBalance assetId b ≤ db.assetTotal assetId := by
  have hzero : (db.writeBalance assetId a 0).Nonneg := by
    rintro ⟨k, v⟩ he
    rcases (Store.mem_write_iff _ _).mp he with ⟨-, rfl⟩ | ⟨-, hmem⟩
    · exact le_refl 0
    · exact h _ hmem
  have hle := hzero.readBalance_le assetId b
  rw [readBalance_writeBalance, if_neg (fun hb => hab hb.2.symm), assetTotal_writeBalance,
    if_pos rfl] at hle
  omega

theorem Nonneg.writeBalance (h : db.Nonneg) (assetId : Uint256) (address : Bytes) {balance : Int}
    (hb : 0 ≤ balance) : (db.writeBalance assetId address balance).Nonneg := by
  rintro ⟨k, v⟩ he
  rcases (Store.mem_write_iff _ _).mp he with ⟨-, rfl⟩ | ⟨-, hmem⟩
  · exact hb
  · exact h _ hmem

theorem Nonneg.credit (h : db.Nonneg) (assetId : Uint256) (address : Bytes) {amount : Int}
    (h0 : 0 ≤ amount) (hfit : db.assetTotal assetId + amount < 9223372036854775808) :
    ∃ db', db' = db.writeBalance assetId address (wrap64 (db.readBalance assetId address + amount)) ∧
      db'.Nonneg ∧
      (∀ a, db'.assetTotal a = db.assetTotal a + if assetId = a then amount else 0) ∧
      ∀ a b, db'.readBalance a b =
        db.readBalance a b + if a = assetId ∧ b = address then amount else 0 := by
  have hlo := h.readBalance assetId address
  have hhi := h.readBalance_le assetId address
  refine ⟨_, rfl, ?_⟩
  rw [wrap64_of_range (by omega) (by omega)]
  refine ⟨h.writeBalance assetId address (by omega), ?_, ?_⟩
  · intro a
    rw [assetTotal_writeBalance]
    split_ifs <;> omega
  · intro a b
    rw [readBalance_writeBalance]
    split_ifs with hab
    · rw [hab.1, hab.2]
    · omega

end AssetDB

/-- The balances of an asset are values of an `int64_t`. -/
def AssetDB.Int64 (db : AssetDB) (assetId : Uint256) : Prop :=
  ∀ address, -9223372036854775808 ≤ db.readBalance assetId address ∧
    db.readBalance assetId address < 9223372036854775808

/-- The balances of an asset after amounts have been added to those of another database, as they are
    stored in 64 bits. -/
def AssetDB.Adds (db : AssetDB) (assetId : Uint256) (add : Bytes → Int) (db' : AssetDB) : Prop :=
  ∀ a address, db'.readBalance a address =
    if a = assetId then wrap64 (db.readBalance assetId address + add address)
    else db.readBalance a address

namespace AssetDB.Adds

variable {db db' db'' : AssetDB} {assetId : Uint256} {add add' : Bytes → Int}

theorem zero (h : db.Int64 assetId) : db.Adds assetId (fun _ => 0) db := by
  intro a address
  split_ifs with ha
  · rw [ha, add_zero, wrap64_of_range (h address).1 (h address).2]
  · rfl

theorem int64 (h : db.Adds assetId add db') : db'.Int64 assetId := by
  intro address
  rw [h, if_pos rfl]
  exact wrap64_range _

theorem trans (h : db.Adds assetId add db') (h' : db'.Adds assetId add' db'') :
    db.Adds assetId (fun address => add address + add' address) db'' := by
  intro a address
  by_cases ha : a = assetId
  · rw [h', h assetId, if_pos ha, if_pos ha, if_pos rfl, wrap64_add_wrap64, add_assoc]
  · rw [h', h a, if_neg ha, if_neg ha, if_neg ha]

end AssetDB.Adds

section Transfer

variable {env : NodeEnv} {db : AssetDB} {assetId : Uint256} {amount : Int} {fromAddr toAddr : Bytes}
  {pqcHex : Option (List Char)}

theorem transferBalances_ok {x fromBalance toBalance : Int}
    (h : transferBalances env db assetId amount fromAddr toAddr pqcHex =
      .ok (x, fromBalance, toBalance)) :
    0 < x ∧ x < 9223372036854775808 ∧ fromBalance = db.readBalance assetId fromAddr ∧
      toBalance = db.readBalance assetId toAddr ∧ x ≤ fromBalance := by
  simp only [transferBalances, bind_ok_iff, throwIf_eq_ok, Except.ok.injEq, Prod.mk.injEq] at h
  obtain ⟨y, hy, _, hpos, _, -, _, -, _, -, _, -, _, hle, rfl, rfl, rfl⟩ := h
  obtain ⟨-, -, hlt⟩ := getInt64_eq_ok hy
  exact ⟨by simpa using hpos, hlt, rfl, rfl, by simpa using hle⟩

theorem moved_conserves {x : Int} (hnonneg : db.Nonneg)
    (hfits : db.assetTotal assetId < 9223372036854775808) (hne : fromAddr ≠ toAddr) (hx : 0 < x)
    (hle : x ≤ db.readBalance assetId fromAddr) (hex : List Char) :
    TransferConserves db assetId fromAddr toAddr (.ok hex,
      (db.writeBalance assetId fromAddr (wrap64 (db.readBalance assetId fromAddr - x))).writeBalance
        assetId toAddr (wrap64 (db.readBalance assetId toAddr + x))) := by
  have hfrom := hnonneg.readBalance assetId fromAddr
  have hto := hnonneg.readBalance assetId toAddr
  have htwo := hnonneg.readBalance_add_le assetId hne
  rw [wrap64_of_range (by omega) (by omega), wrap64_of_range (by omega) (by omega)]
  have hread : (db.writeBalance assetId fromAddr (db.readBalance assetId fromAddr - x)).readBalance
      assetId toAddr = db.readBalance assetId toAddr := by
    rw [AssetDB.readBalance_writeBalance, if_neg (fun h => hne h.2.symm)]
  refine ⟨?_, ?_, ?_⟩
  · intro id
    rw [AssetDB.assetTotal_writeBalance, AssetDB.assetTotal_writeBalance, hread]
    split_ifs <;> omega
  · exact (hnonneg.writeBalance assetId fromAddr (by omega)).writeBalance assetId toAddr (by omega)
  · intro id address hother
    rw [AssetDB.readBalance_writeBalance, if_neg, AssetDB.readBalance_writeBalance, if_neg]
    · rintro ⟨rfl, rfl⟩
      rcases hother with h | h
      · exact h rfl
      · exact h.1 rfl
    · rintro ⟨rfl, rfl⟩
      rcases hother with h | h
      · exact h rfl
      · exact h.2 rfl

/-- From a ledger without negative balances whose total fits, a transfer conserves the asset just where
    a check refuses it or the first write throws, or the addresses differ and no write throws. -/
theorem transferassetOn_conserves_iff (writes : TransferWrites) (env : NodeEnv) (db : AssetDB)
    (assetId : Uint256) (amount : Int) (fromAddr toAddr : Bytes) (pqcHex : Option (List Char))
    (hnonneg : db.Nonneg) (hfits : db.assetTotal assetId < 9223372036854775808) :
    TransferConserves db assetId fromAddr toAddr
        (transferassetOn writes env db assetId amount fromAddr toAddr pqcHex) ↔
      (∃ err, transferBalances env db assetId amount fromAddr toAddr pqcHex = .error err) ∨
        writes.sender.isSome ∨
        (fromAddr ≠ toAddr ∧ writes.receiver = none ∧ writes.log = none) := by
  unfold transferassetOn
  rcases hchecks : transferBalances env db assetId amount fromAddr toAddr pqcHex with
    err | ⟨x, fromBalance, toBalance⟩
  · exact ⟨fun _ => .inl ⟨err, rfl⟩, fun _ _ _ => rfl⟩
  obtain ⟨hx, hlt, rfl, rfl, hle⟩ := transferBalances_ok hchecks
  obtain ⟨sender, receiver, log⟩ := writes
  cases sender with
  | some status => exact ⟨fun _ => .inr (.inl rfl), fun _ _ _ => rfl⟩
  | none =>
    -- once the first write is through, only the last case is left
    simp only [reduceCtorEq, exists_false, Option.isSome_none, Bool.false_eq_true, false_or]
    have hcredited : wrap64 (db.readBalance assetId toAddr + x) ≠ db.readBalance assetId toAddr :=
      wrap64_add_ne hx.ne' (by omega) (by omega)
    cases receiver with
    | some status =>
      have hdebited : wrap64 (db.readBalance assetId fromAddr - x) ≠
          db.readBalance assetId fromAddr := by
        rw [sub_eq_add_neg]
        exact wrap64_add_ne (by omega) (by omega) (by omega)
      constructor
      · intro hsame
        have hfrom := hsame assetId fromAddr
        rw [AssetDB.readBalance_writeBalance, if_pos ⟨rfl, rfl⟩] at hfrom
        exact absurd hfrom hdebited
      · rintro ⟨-, hnone, -⟩
        cases hnone
    | none =>
      cases log with
      | some status =>
        constructor
        · intro hsame
          have hto := hsame assetId toAddr
          rw [AssetDB.readBalance_writeBalance, if_pos ⟨rfl, rfl⟩] at hto
          exact absurd hto hcredited
        · rintro ⟨-, -, hnone⟩
          cases hnone
      | none =>
        constructor
        · rintro ⟨htotal, -, -⟩
          refine ⟨?_, rfl, rfl⟩
          rintro rfl
          -- the second write overwrites the first one
          have hsum := htotal assetId
          rw [AssetDB.assetTotal_writeBalance, AssetDB.assetTotal_writeBalance, if_pos rfl,
            if_pos rfl, AssetDB.readBalance_writeBalance, if_pos ⟨rfl, rfl⟩] at hsum
          exact hcredited (by omega)
        · rintro ⟨hne, -, -⟩
          exact moved_conserves hnonneg hfits hne hx hle _

end Transfer

def sampleNodeEnv : NodeEnv where
  crypto := sampleCrypto
  auth := sampleAuthority '1'
  walletMode := .cbdc
  isValidDestination address := address == sampleSeller || address == sampleBuyer

theorem sampleAssetDB_nonneg : sampleAssetDB.Nonneg := by
  unfold AssetDB.Nonneg
  decide

theorem transferassetOn_conserves_sample :
    TransferConserves sampleAssetDB 7 sampleSeller sampleBuyer
      (transferassetOn ⟨none, none, none⟩ sampleNodeEnv sampleAssetDB 7 5 sampleSeller sampleBuyer
        none) ∧
    (transferassetOn ⟨none, none, none⟩ sampleNodeEnv sampleAssetDB 7 5 sampleSeller sampleBuyer
      none).2.readBalance 7 sampleBuyer = 5 := by
  constructor
  · refine (transferassetOn_conserves_iff _ _ _ _ _ _ _ _ sampleAssetDB_nonneg ?_).mpr ?_
    · decide
    · exact .inr (.inr ⟨by decide, rfl, rfl⟩)
  · decide

/-- A transfer to oneself creates the amount; and where the second write throws, the call fails and
    the amount is gone. -/
theorem transferassetOn_creates :
    sampleAssetDB.assetTotal 7 = 10 ∧
    (transferassetOn ⟨none, none, none⟩ sampleNodeEnv sampleAssetDB 7 5 sampleSeller sampleSeller
      none).1.isOk = true ∧
    (transferassetOn ⟨none, none, none⟩ sampleNodeEnv sampleAssetDB 7 5 sampleSeller sampleSeller
      none).2.assetTotal 7 = 15 ∧
    (transferassetOn ⟨none, some "IO error", none⟩ sampleNodeEnv sampleAssetDB 7 5 sampleSeller
      sampleBuyer none).1 = .error ⟨.miscError, "Fatal LevelDB error: IO error"⟩ ∧
    (transferassetOn ⟨none, some "IO error", none⟩ sampleNodeEnv sampleAssetDB 7 5 sampleSeller
      sampleBuyer none).2.assetTotal 7 = 5 := by
  decide +kernel

end GarudaChain
