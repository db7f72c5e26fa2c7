import GarudaChain.Extension.Proofs.TransactionProofs
import GarudaChain.Mobile.Wallet

/-!
# Which addresses the wallets pay to
-/

namespace GarudaChain

/-- A Bech32 or Bech32m address of the chain with the prefix `grd`, as the node decodes it. -/
def ValidAddress (address : List Char) : Prop :=
  (decodeBech32Data .main (Bech32.decode address)).2 = ""

instance (address : List Char) : Decidable (ValidAddress address) :=
  inferInstanceAs (Decidable (_ = _))

inductive ScriptBuilder
  | buildAndSignTx
  | buildAndSignQuantumTx
  | mobile
  deriving DecidableEq

namespace ScriptBuilder

def script : ScriptBuilder → List Char → Except String Bytes
  | buildAndSignTx, address => Extension.addressToScript address
  | buildAndSignQuantumTx, address => .ok (Extension.quantumAddressToScript address)
  | mobile, address => Mobile.addressToScript address

def checksCharacters : ScriptBuilder → Bool
  | buildAndSignTx | mobile => true
  | buildAndSignQuantumTx => false

theorem any_indexOfChar_neg (data : List Char) :
    (data.map Extension.indexOfChar).any (· < 0) = true ↔ ∃ c ∈ data, c ∉ Extension.CHARSET := by
  have hneg : ∀ c, Extension.indexOfChar c < 0 ↔ c ∉ Extension.CHARSET := by
    intro c
    rw [Extension.indexOfChar]
    split <;> simp [*]
  simp only [List.any_map, List.any_eq_true, Function.comp_apply, decide_eq_true_eq, hneg]

theorem script_ok_iff (builder : ScriptBuilder) (address : List Char) :
    (∃ script, builder.script address = .ok script) ↔
      ¬ (builder.checksCharacters = true ∧
        ∃ c ∈ Extension.dataPart address, c ∉ Extension.CHARSET) := by
  rw [← any_indexOfChar_neg]
  cases builder with
  | buildAndSignTx =>
    simp only [script, checksCharacters, Extension.addressToScript,
      Extension.addressToWitnessProgram, true_and]
    split <;> simp [*, bind, Except.bind, pure, Except.pure]
  | buildAndSignQuantumTx => simp [script, checksCharacters]
  | mobile =>
    simp only [script, checksCharacters, Mobile.addressToScript,
      Mobile.addressToWitnessVersionAndProgram, true_and]
    split <;> simp [*, bind, Except.bind, pure, Except.pure]

theorem script_append (builder : ScriptBuilder) (hrp hrp' : List Char) {data sum sum' : List Char}
    (hone : '1' ∉ data ++ sum) (hone' : '1' ∉ data ++ sum') (hsum : sum.length = 6)
    (hsum' : sum'.length = 6) :
    builder.script (hrp ++ '1' :: (data ++ sum)) = builder.script (hrp' ++ '1' :: (data ++ sum')) := by
  have h : Extension.dataPart (hrp ++ '1' :: (data ++ sum)) =
      Extension.dataPart (hrp' ++ '1' :: (data ++ sum')) := by
    rw [Extension.dataPart_append hrp hone hsum, Extension.dataPart_append hrp' hone' hsum']
  cases builder with
  | buildAndSignTx =>
    simp only [script, Extension.addressToScript, Extension.addressToWitnessProgram, h]
  | buildAndSignQuantumTx => simp only [script, Extension.quantumAddressToScript, h]
  | mobile =>
    simp only [script, Mobile.addressToScript, Mobile.addressToWitnessVersionAndProgram, h]

/-- A wallet that builds a script for an address can rely on the address being valid just if it is, or
    if the wallet refuses it for one of its characters. -/
theorem script_valid_iff (builder : ScriptBuilder) (address : List Char) :
    ((∃ script, builder.script address = .ok script) → ValidAddress address) ↔
      ValidAddress address ∨ builder.checksCharacters = true ∧
        ∃ c ∈ Extension.dataPart address, c ∉ Extension.CHARSET := by
  rw [builder.script_ok_iff, imp_iff_not_or, not_not, or_comm]

/-- Two exchanged letters or another prefix go unnoticed, and a quantum-safe transaction pays to any
    text. -/
theorem script_mistyped :
    let data := "qmcsa39ua3nqx6r4k9f5j2e4e75nc7gu2".toList
    let address := "grd".toList ++ '1' :: (data ++ "pv32hd".toList)
    let exchanged := "grd".toList ++ '1' :: (data ++ "pv32dh".toList)
    let foreign := "btc".toList ++ '1' :: (data ++ "pv32hd".toList)
    let noAddress := "no address".toList
    (ValidAddress address ∧ ¬ ValidAddress exchanged ∧ ¬ ValidAddress foreign ∧
        ¬ ValidAddress noAddress) ∧
      (∀ builder : ScriptBuilder, ∃ script, builder.script address = .ok script ∧
        builder.script exchanged = .ok script ∧ builder.script foreign = .ok script) ∧
      ∃ script, buildAndSignQuantumTx.script noAddress = .ok script := by
  intro data address exchanged foreign noAddress
  refine ⟨by decide +kernel, fun builder => ?_, _, rfl⟩
  have hchars : ¬ ∃ c ∈ Extension.dataPart address, c ∉ Extension.CHARSET := by
    rw [← any_indexOfChar_neg]
    decide +kernel
  obtain ⟨script, hscript⟩ := (builder.script_ok_iff address).mpr fun h => hchars h.2
  refine ⟨script, hscript, ?_, ?_⟩
  · exact (builder.script_append _ _ (by decide) (by decide) rfl rfl).trans hscript
  · exact (builder.script_append _ _ (by decide) (by decide) rfl rfl).trans hscript

end ScriptBuilder

end GarudaChain
