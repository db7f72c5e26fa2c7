import GarudaChain.Dex.Proofs.BookProofs
import GarudaChain.Dex.StateRoot
import GarudaChain.Lib.Framing
import GarudaChain.Node.Proofs.AssemblyProofs

/-!
# What the state roots bind
-/

namespace GarudaChain

open Framing

theorem symbolBytes_injective {a b : String} (ha : IsByteString a) (hb : IsByteString b)
    (h : symbolBytes a = symbolBytes b) : a = b := by
  have hchars : ∀ xs ys : List Char, (∀ c ∈ xs, c.toNat < 256) → (∀ c ∈ ys, c.toNat < 256) →
      asciiBytes xs = asciiBytes ys → xs = ys := by
    intro xs
    induction xs with
    | nil =>
      intro ys _ _ heq
      exact (List.map_eq_nil_iff.mp heq.symm).symm
    | cons x xs ih =>
      intro ys hxs hys heq
      cases ys with
      | nil => cases heq
      | cons y ys =>
        obtain ⟨hx, hxs⟩ := List.forall_mem_cons.mp hxs
        obtain ⟨hy, hys⟩ := List.forall_mem_cons.mp hys
        obtain ⟨hhead, htail⟩ := List.cons.inj heq
        have hnat : x.toNat = y.toNat := by
          have hmod := congrArg UInt8.toNat hhead
          simp only [UInt8.toNat_ofNat'] at hmod
          omega
        rw [Char.toNat_inj.mp hnat, ih ys hxs hys htail]
  exact String.toList_inj.mp (hchars _ _ ha hb h)

theorem length_symbolBytes (symbol : String) : (symbolBytes symbol).length = symbol.length := by
  rw [symbolBytes, asciiBytes, List.length_map, String.length_toList]

/-- The hashed fields of an asset besides its id. -/
def AssetInfo.hashed (asset : AssetInfo) : String × Int := (asset.symbol, asset.totalSupply)

/-- The hashed fields of a rate besides its symbol. -/
def PegRate.hashed (rate : PegRate) : Int × Int := (rate.grdPerUnit, rate.timestamp)

def AssetShaped (symbolLength : Uint256 → Nat) (asset : AssetInfo) : Prop :=
  IsByteString asset.symbol ∧ IsInt64 asset.totalSupply ∧
    asset.symbol.length = symbolLength asset.assetId

theorem assetRecord_delimits (symbolLength : Uint256 → Nat) :
    Delimits (AssetShaped symbolLength) assetRecord
      fun asset => (asset.assetId, asset.hashed) := by
  rintro a b x y ⟨hasymbol, hasupply, halength⟩ ⟨hbsymbol, hbsupply, hblength⟩ heq
  simp only [assetRecord, List.append_assoc] at heq
  obtain ⟨hid, heq⟩ := List.append_inj heq (by simp)
  have hid := uint256Bytes_injective hid
  obtain ⟨hsymbol, heq⟩ := List.append_inj heq (by
    rw [length_symbolBytes, length_symbolBytes, halength, hblength, hid])
  obtain ⟨hsupply, hrest⟩ := List.append_inj heq (by simp)
  have hsymbol := symbolBytes_injective hasymbol hbsymbol hsymbol
  have hsupply := int64Bytes_injective hasupply hbsupply hsupply
  exact ⟨by simp only [AssetInfo.hashed, hid, hsymbol, hsupply], hrest⟩

def RateShaped (width : Nat) (rate : PegRate) : Prop :=
  IsByteString rate.symbol ∧ IsInt64 rate.grdPerUnit ∧ IsInt64 rate.timestamp ∧
    rate.symbol.length = width

theorem rateRecord_delimits (width : Nat) :
    Delimits (RateShaped width) rateRecord
      fun rate => (rate.symbol, rate.hashed) := by
  rintro a b x y ⟨hasymbol, hagrd, hatime, hawidth⟩ ⟨hbsymbol, hbgrd, hbtime, hbwidth⟩ heq
  simp only [rateRecord, List.append_assoc] at heq
  obtain ⟨hsymbol, heq⟩ := List.append_inj heq (by
    rw [length_symbolBytes, length_symbolBytes, hawidth, hbwidth])
  obtain ⟨hgrd, heq⟩ := List.append_inj heq (by simp)
  obtain ⟨htime, hrest⟩ := List.append_inj heq (by simp)
  have hsymbol := symbolBytes_injective hasymbol hbsymbol hsymbol
  have hgrd := int64Bytes_injective hagrd hbgrd hgrd
  have htime := int64Bytes_injective hatime hbtime htime
  exact ⟨by simp only [PegRate.hashed, hsymbol, hgrd, htime], hrest⟩

theorem marketMakerRecord_delimits :
    Delimits (fun mm => IsInt64 mm.basePrice) marketMakerRecord
      fun mm => (mm.assetId, mm.basePrice) := by
  intro a b x y ha hb heq
  simp only [marketMakerRecord, List.append_assoc] at heq
  obtain ⟨hid, heq⟩ := List.append_inj heq (by simp)
  obtain ⟨hprice, hrest⟩ := List.append_inj heq (by simp)
  exact ⟨Prod.ext (uint256Bytes_injective hid) (int64Bytes_injective ha hb hprice), hrest⟩

section Stores

variable {κ ν μ : Type} [DecidableEq κ] {s s' : Store κ ν}

theorem map_read_eq_some_iff (view : ν → μ) (k : κ) (v : μ) :
    (s.read k).map view = some v ↔ (k, v) ∈ s.entries.map fun e => (e.1, view e.2) := by
  rw [Option.map_eq_some_iff, List.mem_map]
  constructor
  · rintro ⟨w, hread, rfl⟩
    exact ⟨(k, w), s.read_eq_some_iff.mp hread, rfl⟩
  · rintro ⟨⟨k', w⟩, hentry, heq⟩
    obtain ⟨rfl, rfl⟩ := Prod.mk.inj heq
    exact ⟨w, s.read_eq_some_iff.mpr hentry, rfl⟩

theorem map_read_eq_of_values (key : ν → κ) (view : ν → μ) (hkey : ∀ e ∈ s.entries, key e.2 = e.1)
    (hkey' : ∀ e ∈ s'.entries, key e.2 = e.1) {vs vs' : List ν}
    (hvs : vs.Perm (s.entries.map Prod.snd)) (hvs' : vs'.Perm (s'.entries.map Prod.snd))
    (h : (vs.map fun v => (key v, view v)) = vs'.map fun v => (key v, view v)) (k : κ) :
    (s.read k).map view = (s'.read k).map view := by
  have hentries : ∀ (t : Store κ ν) {us : List ν}, (∀ e ∈ t.entries, key e.2 = e.1) →
      us.Perm (t.entries.map Prod.snd) → ∀ p, (p ∈ us.map fun v => (key v, view v)) ↔
        p ∈ t.entries.map fun e => (e.1, view e.2) := by
    intro t us ht hus p
    rw [(hus.map _).mem_iff, List.map_map]
    have hmap : t.entries.map ((fun v => (key v, view v)) ∘ Prod.snd) =
        t.entries.map fun e => (e.1, view e.2) :=
      List.map_congr_left fun e he => by rw [Function.comp_apply, ht e he]
    rw [hmap]
  refine Option.ext fun v => ?_
  rw [map_read_eq_some_iff, map_read_eq_some_iff, ← hentries s hkey hvs, h,
    hentries s' hkey' hvs']

end Stores

namespace StateDatabases

/-- The lists are not cut off, an asset's id says how long its symbol is, and the symbols of the rates
    are of one width. -/
structure Shaped (symbolLength : Uint256 → Nat) (width : Nat) (s : StateDatabases) : Prop where
  assets_le : s.assetDb.assets.entries.length ≤ 1000
  rates_le : s.rates.entries.length ≤ 500
  marketMakers_le : s.marketMakers.entries.length ≤ 500
  assetSymbols : ∀ e ∈ s.assetDb.assets.entries, e.2.symbol.length = symbolLength e.1
  rateSymbols : ∀ e ∈ s.rates.entries, e.1.length = width

def SameHashed (s s' : StateDatabases) : Prop :=
  (∀ id, (s.assetDb.readAsset id).map AssetInfo.hashed =
    (s'.assetDb.readAsset id).map AssetInfo.hashed) ∧
  (∀ symbol, (s.rates.read symbol).map PegRate.hashed = (s'.rates.read symbol).map PegRate.hashed) ∧
  (∀ id, (s.marketMakers.read id).map MarketMaker.basePrice =
    (s'.marketMakers.read id).map MarketMaker.basePrice)

def NoCollision (crypto : Crypto) (s s' : StateDatabases) : Prop :=
  (s.computeAssetStateRoot crypto = s'.computeAssetStateRoot crypto → s.assetText = s'.assetText) ∧
  (s.computeDexStateRoot crypto = s'.computeDexStateRoot crypto → s.dexText = s'.dexText)

variable {s s' : StateDatabases} {symbolLength : Uint256 → Nat} {width : Nat}

namespace Shaped

variable (h : s.Shaped symbolLength width)

include h

theorem sortedAssets_perm : s.sortedAssets.Perm (s.assetDb.assets.entries.map Prod.snd) := by
  refine (List.perm_insertionSort _ _).trans ?_
  rw [AssetDB.listAssets, List.take_of_length_le (by rw [List.length_map]; exact h.assets_le)]

theorem sortedRates_perm : s.sortedRates.Perm (s.rates.entries.map Prod.snd) := by
  refine (List.perm_insertionSort _ _).trans ?_
  rw [listOraclePegRates, List.take_of_length_le (by rw [List.length_map]; exact h.rates_le)]

theorem listMarketMakers_eq : s.listMarketMakers 500 = s.marketMakers.entries.map Prod.snd := by
  rw [listMarketMakers, List.take_of_length_le (by rw [List.length_map]; exact h.marketMakers_le)]

theorem assets_shaped : ∀ asset ∈ s.sortedAssets, AssetShaped symbolLength asset := by
  intro asset hmem
  obtain ⟨e, he, rfl⟩ := List.mem_map.mp (h.sortedAssets_perm.mem_iff.mp hmem)
  obtain ⟨hsymbol, hsupply⟩ := s.assets_typed e he
  exact ⟨hsymbol, hsupply, by rw [h.assetSymbols e he, s.assetDb.keyed e he]⟩

theorem rates_shaped : ∀ rate ∈ s.sortedRates, RateShaped width rate := by
  intro rate hmem
  obtain ⟨e, he, rfl⟩ := List.mem_map.mp (h.sortedRates_perm.mem_iff.mp hmem)
  obtain ⟨hkey, hsymbol, hgrd, htime⟩ := s.rates_typed e he
  exact ⟨hkey ▸ hsymbol, hgrd, htime, hkey ▸ h.rateSymbols e he⟩

theorem marketMakers_shaped : ∀ mm ∈ s.listMarketMakers 500, IsInt64 mm.basePrice := by
  intro mm hmem
  rw [h.listMarketMakers_eq] at hmem
  obtain ⟨e, he, rfl⟩ := List.mem_map.mp hmem
  exact (s.marketMakers_typed e he).2

end Shaped

theorem assetRecord_ne_nil (asset : AssetInfo) : assetRecord asset ≠ [] := by
  intro hnil
  have hlength := congrArg List.length hnil
  simp [assetRecord] at hlength

theorem marketMakerRecord_ne_nil (mm : MarketMaker) : marketMakerRecord mm ≠ [] := by
  intro hnil
  have hlength := congrArg List.length hnil
  simp [marketMakerRecord] at hlength

theorem sameHashed_of_texts_eq (h : s.Shaped symbolLength width) (h' : s'.Shaped symbolLength width)
    (hrates : s.rates.entries.length = s'.rates.entries.length) (hassets : s.assetText = s'.assetText)
    (hdex : s.dexText = s'.dexText) : s.SameHashed s' := by
  have hassetViews := (assetRecord_delimits symbolLength).flatMap assetRecord_ne_nil h.assets_shaped
    h'.assets_shaped hassets
  have hlength : s.sortedRates.length = s'.sortedRates.length := by
    rw [h.sortedRates_perm.length_eq, h'.sortedRates_perm.length_eq, List.length_map, List.length_map,
      hrates]
  obtain ⟨hrateViews, hmakers⟩ := (rateRecord_delimits width).flatMap_append h.rates_shaped
    h'.rates_shaped hlength hdex
  have hmakerViews := marketMakerRecord_delimits.flatMap marketMakerRecord_ne_nil
    h.marketMakers_shaped h'.marketMakers_shaped hmakers
  refine ⟨?_, ?_, ?_⟩
  · exact map_read_eq_of_values AssetInfo.assetId AssetInfo.hashed s.assetDb.keyed s'.assetDb.keyed
      h.sortedAssets_perm h'.sortedAssets_perm hassetViews
  · exact map_read_eq_of_values PegRate.symbol PegRate.hashed (fun e he => (s.rates_typed e he).1)
      (fun e he => (s'.rates_typed e he).1) h.sortedRates_perm h'.sortedRates_perm hrateViews
  · exact map_read_eq_of_values MarketMaker.assetId MarketMaker.basePrice
      (fun e he => (s.marketMakers_typed e he).1) (fun e he => (s'.marketMakers_typed e he).1)
      (.of_eq h.listMarketMakers_eq) (.of_eq h'.listMarketMakers_eq) hmakerViews

theorem commitment_inj {crypto : Crypto} {host : Host}
    (heq : s.commitment crypto host = s'.commitment crypto host) :
    s.computeAssetStateRoot crypto = s'.computeAssetStateRoot crypto ∧
      s.computeDexStateRoot crypto = s'.computeDexStateRoot crypto := by
  have hdata := (List.cons.inj (List.cons.inj heq).2).2
  obtain ⟨hfirst, hasset⟩ := List.append_inj' hdata (by simp)
  have hdex := List.append_cancel_left hfirst
  exact ⟨uint256Bytes_injective hasset, uint256Bytes_injective hdex⟩

end StateDatabases

def sampleDatabases (supply : Int) (creator : Bytes) (balance : Int) (hsupply : IsInt64 supply) :
    StateDatabases where
  assetDb :=
    { assets := ⟨[(7, ⟨7, "IDR", "stablecoin", supply, creator⟩)], List.nodup_singleton _⟩
      balances := ⟨[((7, [65]), balance)], List.nodup_singleton _⟩
      keyed := List.forall_mem_singleton.mpr rfl }
  rates := ⟨[("USD", ⟨"USD", 2, 50, 1000, "CBDC_AUTHORITY"⟩)], List.nodup_singleton _⟩
  marketMakers := ⟨[(7, ⟨7, [65], 100, 10, 1, 5, true, 1000⟩)], List.nodup_singleton _⟩
  assets_typed := List.forall_mem_singleton.mpr ⟨show IsByteString "IDR" by decide, hsupply⟩
  rates_typed := List.forall_mem_singleton.mpr ⟨rfl, by decide, by decide, by decide⟩
  marketMakers_typed := List.forall_mem_singleton.mpr ⟨rfl, show IsInt64 5 by decide⟩

def tenUnits : StateDatabases := sampleDatabases 10 [65] 10 (by decide)

def elevenUnits : StateDatabases := sampleDatabases 11 [65] 10 (by decide)

/-- SHA-256 on what is hashed of the instance. -/
def rootCrypto : Crypto :=
  { sampleCrypto with
    sha256 := fun bytes =>
      uint256Bytes
        (if bytes = tenUnits.assetText then
          0x6a000dcc4dace58d64c03280fffc085408e0b4ab9e118d8af7ed3157b34a0cb5
        else if bytes = elevenUnits.assetText then
          0x90503ba357fd2494c4e6a980172d5ec116b442bf39ed711ef66f70b29b833890
        else if bytes = tenUnits.dexText then
          0x28b4b446e3370c09c8de85eacbcd34457b8a2aea65f2efa2b42a676e02fc7e1e
        else 0) }

end GarudaChain
