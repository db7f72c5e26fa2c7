import GarudaChain.Extension.Transaction
import GarudaChain.Node.Proofs.KeyIoProofs
import GarudaChain.Node.Proofs.SerializeProofs

/-!
# What the extension builds, the node reads
-/

namespace GarudaChain.Extension

open BitGroups

theorem indexOfChar_charOf : ∀ v < 32, indexOfChar (Bech32.charOf v) = v := by decide +kernel

theorem dataPart_append (hrp : List Char) {data sum : List Char} (hone : '1' ∉ data ++ sum)
    (hsum : sum.length = 6) : dataPart (hrp ++ '1' :: (data ++ sum)) = data := by
  have htake : (hrp ++ '1' :: (data ++ sum)).take ((hrp ++ '1' :: (data ++ sum)).length - 6) =
      hrp ++ '1' :: data := by
    rw [← List.cons_append, ← List.append_assoc]
    refine List.take_left' ?_
    simp only [List.length_append, List.length_cons, hsum]
    omega
  rw [dataPart, htake, Text.lastIndexOf_append hrp hone, List.append_cons]
  exact List.drop_left' (by simp)

theorem dataPart_encode {encoding : Bech32.Encoding} {hrp : List Char} {values : List Nat}
    (hvalues : ∀ v ∈ values, v < 32) :
    dataPart (Bech32.encode encoding hrp values) = values.map Bech32.charOf := by
  have hone := Bech32.one_not_mem_map_charOf
    (List.forall_mem_append.mpr ⟨hvalues, Bech32.createChecksum_lt encoding hrp values⟩)
  rw [List.map_append] at hone
  rw [Bech32.encode, List.map_append]
  exact dataPart_append hrp hone (by rw [List.length_map, Bech32.length_createChecksum]; rfl)

theorem map_indexOfChar {values : List Nat} (hvalues : ∀ v ∈ values, v < 32) :
    (values.map Bech32.charOf).map indexOfChar = values.map fun v : Nat => (v : Int) := by
  rw [List.map_map]
  exact List.map_congr_left fun v hv => indexOfChar_charOf v (hvalues v hv)

section Address

variable (dest : WitnessDestination) (codecs : TextCodecs) (chain : ChainType)

theorem symbols_address :
    (dataPart (encodeDestination codecs chain dest.destination)).map indexOfChar =
      (dest.version : Int) :: dest.values.map fun v : Nat => (v : Int) := by
  have hversion : dest.version < 32 := by
    rcases dest.sizes with h | h <;> omega
  have hvalues : ∀ v ∈ dest.version :: dest.values, v < 32 :=
    List.forall_mem_cons.mpr ⟨hversion, dest.values_spec.1⟩
  rw [dest.encodeDestination_eq, dataPart_encode hvalues, map_indexOfChar hvalues, List.map_cons]

theorem convertBits_values :
    (convertBits ((dest.values.map fun v : Nat => (v : Int)).map toUint8) 5 8 false).map UInt8.ofNat =
      dest.program := by
  obtain ⟨z, hz, hgroups, hvalues⟩ := dest.groups_values
  have hbytes : ((dest.values.map fun v : Nat => (v : Int)).map toUint8).map UInt8.toNat = dest.values := by
    rw [List.map_map, List.map_map]
    refine (List.map_congr_left fun v hv => ?_).trans (List.map_id _)
    have hv := hvalues v hv
    simp only [Function.comp_apply, toUint8, UInt8.toNat_ofNat', id_eq]
    omega
  obtain ⟨acc, hconvert, -⟩ := @convert_whole 5 32 8 _ _ (· % 2 ^ 32) z (by decide)
    (fun x => Nat.mod_mod _ _) (by decide) hvalues dest.bytes_lt (by omega) hgroups
  have hprogram : (dest.program.map UInt8.toNat).map UInt8.ofNat = dest.program := by
    rw [List.map_map]
    simp [Function.comp_def]
  rw [convertBits, hbytes]
  simp only [hconvert, Bool.false_and, Bool.false_eq_true, if_false, hprogram]

theorem addressToScript_eq :
    addressToScript (encodeDestination codecs chain dest.destination) =
      .ok (0x00 :: UInt8.ofNat dest.program.length :: dest.program) := by
  have hsymbols := symbols_address dest codecs chain
  have hnonneg : ((dataPart (encodeDestination codecs chain dest.destination)).map indexOfChar).any
      (· < 0) = false := by
    rw [hsymbols, List.any_eq_false]
    intro x hx
    rcases List.mem_cons.mp hx with rfl | hx
    · simp
    · obtain ⟨v, -, rfl⟩ := List.mem_map.mp hx
      simp
  rw [addressToScript, addressToWitnessProgram, hnonneg, hsymbols, List.tail_cons,
    convertBits_values]
  rfl

theorem quantumAddressToScript_eq :
    quantumAddressToScript (encodeDestination codecs chain dest.destination) =
      encodeOpN dest.version :: UInt8.ofNat dest.program.length :: dest.program := by
  have hversion : dest.version < 17 := by
    rcases dest.sizes with h | h <;> omega
  have hopcode : ∀ v : Nat, v < 17 →
      toUint8 (if (v : Int) = 0 then 0x00 else 0x50 + (v : Int)) = encodeOpN v := by decide
  rw [quantumAddressToScript, symbols_address]
  simp only [List.tail_cons, convertBits_values, hopcode _ hversion]

end Address

/-- The script of a quantum-safe transaction is that of the node for every witness address. -/
theorem outScript_eq_iff (dest : WitnessDestination) (codecs : TextCodecs) (chain : ChainType)
    (value : Rat) :
    let address := encodeDestination codecs chain dest.destination
    let script := getScriptForDestination (decodeDestination codecs chain address).1
    outScript (fun address => .ok (quantumAddressToScript address))
        { address := some (String.ofList address), value } = .ok script ∧
      (outScript addressToScript { address := some (String.ofList address), value } = .ok script ↔
        dest.version = 0) := by
  have hscript := dest.script_decodeDestination codecs chain
  have hversion : dest.version < 17 := by
    rcases dest.sizes with h | h <;> omega
  have hopcode : ∀ v : Nat, v < 17 → ((0 : UInt8) = encodeOpN v ↔ v = 0) := by decide
  simp only [outScript, String.toList_ofList, hscript, quantumAddressToScript_eq, addressToScript_eq,
    Except.ok.injEq, List.cons.injEq, and_true, true_and]
  exact hopcode _ hversion

def quantumDestination : WitnessDestination :=
  .unknown 2 (List.replicate 32 7) (by decide) (by decide)

/-- A payment to a quantum-safe address goes to the version 0 program of the same bytes. -/
theorem addressToScript_losesVersion :
    let address := encodeDestination sampleCodecs .main quantumDestination.destination
    outScript addressToScript { address := some (String.ofList address), value := 1 } =
        .ok (0x00 :: 32 :: List.replicate 32 7) ∧
      getScriptForDestination (decodeDestination sampleCodecs .main address).1 =
        0x52 :: 32 :: List.replicate 32 7 := by
  refine ⟨?_, quantumDestination.script_decodeDestination sampleCodecs .main⟩
  simp only [outScript, String.toList_ofList]
  exact addressToScript_eq quantumDestination sampleCodecs .main

end GarudaChain.Extension
