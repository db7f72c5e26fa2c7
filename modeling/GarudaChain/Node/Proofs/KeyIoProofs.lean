import GarudaChain.Node.KeyIo
import GarudaChain.Node.Proofs.Bech32Proofs
import GarudaChain.Node.Proofs.DestinationProofs

/-!
# The address of a witness program leads back to it
-/

namespace GarudaChain

open BitGroups

theorem lt_of_mem_map_toNat (bytes : Bytes) : ∀ v ∈ bytes.map UInt8.toNat, v < 2 ^ 8 := by
  intro v hv
  obtain ⟨b, -, rfl⟩ := List.mem_map.mp hv
  exact b.toNat_lt

theorem keep_maxAcc (frombits tobits x : Nat) :
    (x &&& (2 ^ (frombits + tobits - 1) - 1)) % 2 ^ (frombits + tobits - 1) =
      x % 2 ^ (frombits + tobits - 1) := by
  rw [Nat.and_two_pow_sub_one_eq_mod, Nat.mod_mod]

theorem convertBits_pad {frombits tobits : Nat} (hpos : 0 < tobits) {values : List Nat}
    (hvalues : ∀ v ∈ values, v < 2 ^ frombits) :
    ∃ z < tobits, groups tobits (convertBits frombits tobits true values).2 =
        groups frombits values ++ List.replicate z false ∧
      ∀ v ∈ (convertBits frombits tobits true values).2, v < 2 ^ tobits := by
  rcases hconvert : convert (· &&& (2 ^ (frombits + tobits - 1) - 1)) frombits tobits values 0 0 with
    ⟨out, acc, left⟩
  have hresult : (convertBits frombits tobits true values).2 = padded tobits out acc left := by
    simp only [convertBits, hconvert, if_true, padded, ne_eq, ite_not]
  rw [hresult]
  exact padded_spec hpos (keep_maxAcc frombits tobits) (by omega) hconvert hvalues

theorem convertBits_unpad {frombits tobits z : Nat} (hpos : 0 < tobits) (hle : frombits ≤ tobits)
    {values out : List Nat} (hvalues : ∀ v ∈ values, v < 2 ^ frombits) (hout : ∀ v ∈ out, v < 2 ^ tobits)
    (hz : z < frombits)
    (h : groups frombits values = groups tobits out ++ List.replicate z false) :
    convertBits frombits tobits false values = (true, out) := by
  obtain ⟨acc, hconvert, hrest⟩ :=
    convert_whole hpos (keep_maxAcc frombits tobits) (by omega) hvalues hout
      (by omega) h
  have hzero : (acc <<< (tobits - z)) &&& (2 ^ tobits - 1) = 0 := by
    refine eq_of_bits_eq (w := tobits) ?_ ?_ (Nat.two_pow_pos _)
    · rw [bits_fill (by omega), hrest, bits_zero, ← List.replicate_add]
      congr 1
      omega
    · rw [Nat.and_two_pow_sub_one_eq_mod]
      exact Nat.mod_lt _ (Nat.two_pow_pos _)
  have hshort : ¬ z ≥ frombits := by omega
  simp only [convertBits, hconvert, hzero, hshort]
  rfl

inductive WitnessDestination
  | keyHash (hash : Blob 20)
  | scriptHash (hash : Blob 32)
  | taproot (tap : Blob 32)
  | anchor
  | unknown (version : Nat) (program : Bytes) (hversion : 1 ≤ version ∧ version ≤ 16)
      (hprogram : 2 ≤ program.length ∧ program.length ≤ 40)

namespace WitnessDestination

def destination : WitnessDestination → CTxDestination
  | keyHash hash => .witnessV0KeyHash hash
  | scriptHash hash => .witnessV0ScriptHash hash
  | taproot tap => .witnessV1Taproot tap
  | anchor => .payToAnchor
  | unknown version program _ _ => .witnessUnknown version program

def version : WitnessDestination → Nat
  | keyHash _ | scriptHash _ => 0
  | taproot _ | anchor => 1
  | unknown version _ _ _ => version

def program : WitnessDestination → Bytes
  | keyHash hash => hash.data
  | scriptHash hash => hash.data
  | taproot tap => tap.data
  | anchor => [0x4e, 0x73]
  | unknown _ program _ _ => program

/-- The checksum that goes with the version. -/
def encoding (dest : WitnessDestination) : Bech32.Encoding :=
  if dest.version = 0 then .bech32 else .bech32m

/-- The five-bit values of the program. -/
def values (dest : WitnessDestination) : List Nat :=
  (convertBits 8 5 true (dest.program.map UInt8.toNat)).2

theorem sizes (dest : WitnessDestination) :
    dest.version = 0 ∧ (dest.program.length = 20 ∨ dest.program.length = 32) ∨
      1 ≤ dest.version ∧ dest.version ≤ 16 ∧ 2 ≤ dest.program.length ∧ dest.program.length ≤ 40 := by
  cases dest with
  | keyHash hash => exact Or.inl ⟨rfl, Or.inl hash.size⟩
  | scriptHash hash => exact Or.inl ⟨rfl, Or.inr hash.size⟩
  | taproot tap => exact Or.inr (by simp [version, program, tap.size])
  | anchor => exact Or.inr (by decide)
  | unknown version program hversion hprogram =>
    exact Or.inr ⟨hversion.1, hversion.2, hprogram.1, hprogram.2⟩

theorem bytes_lt (dest : WitnessDestination) : ∀ v ∈ dest.program.map UInt8.toNat, v < 2 ^ 8 :=
  lt_of_mem_map_toNat dest.program

theorem groups_values (dest : WitnessDestination) : ∃ z < 5, groups 5 dest.values =
    groups 8 (dest.program.map UInt8.toNat) ++ List.replicate z false ∧ ∀ v ∈ dest.values, v < 2 ^ 5 :=
  convertBits_pad (by decide) dest.bytes_lt

theorem values_spec (dest : WitnessDestination) : (∀ v ∈ dest.values, v < 32) ∧
    dest.values.length ≤ 64 ∧
    convertBits 5 8 false dest.values = (true, dest.program.map UInt8.toNat) := by
  obtain ⟨z, hz, hgroups, hvalues⟩ := dest.groups_values
  have hlength := congrArg List.length hgroups
  rw [length_groups, List.length_append, length_groups, List.length_map,
    List.length_replicate] at hlength
  have hsizes := dest.sizes
  refine ⟨hvalues, by omega, ?_⟩
  exact convertBits_unpad (by decide) (by decide) hvalues dest.bytes_lt hz hgroups

theorem encodeDestination_eq (dest : WitnessDestination) (codecs : TextCodecs) (chain : ChainType) :
    encodeDestination codecs chain dest.destination =
      Bech32.encode dest.encoding chain.bech32Hrp (dest.version :: dest.values) := by
  cases dest with
  | keyHash hash => rfl
  | scriptHash hash => rfl
  | taproot tap => rfl
  | anchor => rfl
  | unknown version program hversion hprogram =>
    have hfits : ¬ (version < 1 ∨ version > 16 ∨ program.length < 2 ∨ program.length > 40) := by
      omega
    have henc : (unknown version program hversion hprogram).encoding = .bech32m :=
      if_neg (Nat.one_le_iff_ne_zero.mp hversion.1)
    rw [henc]
    exact if_neg hfits

theorem getScriptForDestination_eq (dest : WitnessDestination) :
    getScriptForDestination dest.destination =
      encodeOpN dest.version :: UInt8.ofNat dest.program.length :: dest.program := by
  have hsizes := dest.sizes
  rw [← pushScript_short (by omega)]
  cases dest <;> rfl

theorem script_decodeProgram (dest : WitnessDestination) :
    getScriptForDestination (decodeProgram dest.version dest.program).1 =
      getScriptForDestination dest.destination := by
  rw [dest.getScriptForDestination_eq]
  have hsizes := dest.sizes
  generalize dest.version = version at *
  generalize dest.program = program at *
  rw [← pushScript_short (by omega)]
  unfold decodeProgram
  split_ifs with hzero hkey hscript htap hanchor hlarge hsize
  · subst hzero
    rw [Blob.copy_eq hkey]
    rfl
  · subst hzero
    rw [Blob.copy_eq hscript]
    rfl
  · omega
  · obtain ⟨rfl, hlen⟩ := htap
    rw [Blob.copy_eq hlen]
    rfl
  · simp only [isAnchorProgram, Bool.and_eq_true, beq_iff_eq] at hanchor
    rw [hanchor.1, hanchor.2]
    rfl
  · omega
  · rw [bech32WitnessProgMaxLen] at hsize
    omega
  · rfl

theorem plain_bech32Hrp (chain : ChainType) : ∀ c ∈ chain.bech32Hrp, Bech32.Plain c := by
  have hall : chain.bech32Hrp.all (fun c =>
      !Bech32.isUpper c && decide (33 ≤ c.toNat) && decide (c.toNat ≤ 126)) = true := by
    cases chain <;> decide
  simpa [Bech32.Plain, and_assoc] using hall

theorem decodeDestination_address (dest : WitnessDestination) (codecs : TextCodecs)
    (chain : ChainType) :
    decodeDestination codecs chain (encodeDestination codecs chain dest.destination) =
      decodeProgram dest.version dest.program := by
  obtain ⟨hvalues, hlength, hconvert⟩ := dest.values_spec
  have hhrp : chain.bech32Hrp ≠ [] ∧ chain.bech32Hrp.length ≤ 4 := by cases chain <;> decide
  have hversion : dest.version < 32 := by
    rcases dest.sizes with h | h <;> omega
  have henc : dest.encoding ≠ .invalid := by
    rw [encoding]
    split <;> decide
  have hdecode := Bech32.decode_encode henc (plain_bech32Hrp chain) hhrp.1
    (List.forall_mem_cons.mpr ⟨hversion, hvalues⟩) (by
      rw [List.length_cons, Bech32.charLimit]
      omega)
  rw [dest.encodeDestination_eq]
  have hlower : (Bech32.encode dest.encoding chain.bech32Hrp (dest.version :: dest.values)).take
      chain.bech32Hrp.length = chain.bech32Hrp := by
    rw [Bech32.encode, List.take_left']
    rfl
  have hmap : chain.bech32Hrp.map Bech32.lowerCase = chain.bech32Hrp := by
    rw [List.map_congr_left fun c hc => Bech32.lowerCase_of_plain (plain_bech32Hrp chain c hc),
      List.map_id']
  have hkind : dest.encoding = .bech32 ∨ dest.encoding = .bech32m := by
    rw [encoding]
    split <;> simp
  have hbytes : (dest.program.map UInt8.toNat).map UInt8.ofNat = dest.program := by
    rw [List.map_map]
    simp [Function.comp_def]
  have hzero : ¬ (dest.version = 0 ∧ dest.encoding ≠ .bech32) := by
    rintro ⟨h, hne⟩
    exact hne (if_pos h)
  have hone : ¬ (dest.version ≠ 0 ∧ dest.encoding ≠ .bech32m) := by
    rintro ⟨h, hne⟩
    exact hne (if_neg h)
  simp only [decodeDestination, hlower, hmap, beq_self_eq_true, Bool.not_true, Bool.false_eq_true,
    if_false, hdecode, if_pos hkind, decodeBech32Data, ne_eq, not_true_eq_false, hconvert, if_true,
    hbytes]
  rw [if_neg hzero, if_neg hone]

theorem script_decodeDestination (dest : WitnessDestination) (codecs : TextCodecs)
    (chain : ChainType) :
    getScriptForDestination
        (decodeDestination codecs chain (encodeDestination codecs chain dest.destination)).1 =
      encodeOpN dest.version :: UInt8.ofNat dest.program.length :: dest.program := by
  rw [dest.decodeDestination_address, dest.script_decodeProgram, dest.getScriptForDestination_eq]

end WitnessDestination

end GarudaChain
