import GarudaChain.Node.Destination
import GarudaChain.Node.Proofs.QuantumProofs

/-!
# The destination of a script

`Solver` only names a type for a script of exactly one shape, and the script of the destination is
written in this shape again.
-/

namespace GarudaChain

theorem Blob.copy_eq {n : Nat} {vch : Bytes} (h : vch.length = n) : Blob.copy n vch = ⟨vch, h⟩ := by
  simp [Blob.copy, ← h]

theorem Blob.ofSpan_eq {n : Nat} {vch : Bytes} (h : vch.length = n) :
    Blob.ofSpan vch = .ok (⟨vch, h⟩ : Blob n) := dif_pos h

theorem pushScript_short {data : Bytes} (h : data.length < 76) :
    pushScript data = UInt8.ofNat data.length :: data := if_pos h

theorem encodeOpN_decodeOpN {v : UInt8} (h : v = 0 ∨ op1 ≤ v ∧ v ≤ op16) :
    encodeOpN (decodeOpN v) = v ∧ decodeOpN v ≤ 16 := by
  rcases h with rfl | ⟨hlow, hhigh⟩
  · exact ⟨rfl, by decide⟩
  · have hlow' : 81 ≤ v.toNat := UInt8.le_iff_toNat_le.mp hlow
    have hhigh' : v.toNat ≤ 96 := UInt8.le_iff_toNat_le.mp hhigh
    have hne : v ≠ 0 := by
      rintro rfl
      exact absurd hlow' (by decide)
    have hop1 : op1.toNat = 81 := rfl
    have hdecode : decodeOpN v = v.toNat - 80 := by simp [decodeOpN, hne, hop1]
    have hsum : 81 + (v.toNat - 80) - 1 = v.toNat := by omega
    refine ⟨?_, by omega⟩
    rw [hdecode, encodeOpN, if_neg (by omega), hop1, hsum, UInt8.ofNat_toNat]

theorem isWitnessProgram_eq_some {script program : Bytes} {version : Nat}
    (h : isWitnessProgram script = some (version, program)) :
    script = encodeOpN version :: pushScript program ∧ version ≤ 16 ∧ program.length ≤ 40 := by
  match script with
  | [] | [_] => simp [isWitnessProgram] at h
  | v :: len :: rest =>
    dsimp only [isWitnessProgram] at h
    split_ifs at h with hlength hv hlen
    obtain ⟨rfl, rfl⟩ := Prod.mk.inj (Option.some.inj h)
    have hmax : rest.length ≤ 40 := by
      simp only [List.length_cons, Bool.or_eq_true, decide_eq_true_eq] at hlength
      omega
    have hversion : v = 0 ∨ op1 ≤ v ∧ v ≤ op16 := by
      simp only [Bool.and_eq_true, bne_iff_ne, Bool.or_eq_true, decide_eq_true_eq] at hv
      by_cases hzero : v = 0
      · exact .inl hzero
      · have hbounds := not_or.mp (not_and.mp hv hzero)
        exact .inr ⟨UInt8.not_lt.mp hbounds.1, UInt8.not_lt.mp hbounds.2⟩
    obtain ⟨hop, hle⟩ := encodeOpN_decodeOpN hversion
    have hlen : len.toNat = rest.length := by
      rw [beq_iff_eq, List.length_cons, List.length_cons] at hlen
      omega
    refine ⟨?_, hle, hmax⟩
    rw [hop, pushScript_short (by omega), ← hlen, UInt8.ofNat_toNat]

/-- What `Solver` knows of a script of which it returns this type and these solutions. -/
inductive Solved (script : Bytes) : TxoutType → List Bytes → Prop
  | scripthash {hash : Bytes} (hsize : hash.length = 20)
      (h : script = opHash160 :: pushScript hash ++ [opEqual]) : Solved script .scripthash [hash]
  | pubkeyhash {hash : Bytes} (hsize : hash.length = 20)
      (h : script = opDup :: opHash160 :: pushScript hash ++ [opEqualVerify, opCheckSig]) :
      Solved script .pubkeyhash [hash]
  | witnessV0Keyhash {program : Bytes} (hsize : program.length = 20)
      (h : script = encodeOpN 0 :: pushScript program) : Solved script .witnessV0Keyhash [program]
  | witnessV0Scripthash {program : Bytes} (hsize : program.length = 32)
      (h : script = encodeOpN 0 :: pushScript program) : Solved script .witnessV0Scripthash [program]
  | witnessV1Taproot {program : Bytes} (hsize : program.length = 32)
      (h : script = encodeOpN 1 :: pushScript program) : Solved script .witnessV1Taproot [program]
  | witnessV2Quantum {program : Bytes} (hsize : program.length = 32)
      (h : script = encodeOpN 2 :: pushScript program) : Solved script .witnessV2Quantum [program]
  | anchor (h : script = op1 :: pushScript [0x4e, 0x73]) : Solved script .anchor []
  | witnessUnknown {version : Nat} {program : Bytes} (hversion : version ≤ 16)
      (h : script = encodeOpN version :: pushScript program) :
      Solved script .witnessUnknown [[UInt8.ofNat version], program]
  | pubkey (key : Bytes) : Solved script .pubkey [key]
  | multisig (solutions : List Bytes) : Solved script .multisig solutions
  | nullData : Solved script .nullData []
  | nonstandard : Solved script .nonstandard []

theorem solveWitnessProgram_solved {script program : Bytes} {version : Nat}
    (h : isWitnessProgram script = some (version, program)) :
    Solved script (solveWitnessProgram script version program).1
      (solveWitnessProgram script version program).2 := by
  obtain ⟨hscript, hversion, -⟩ := isWitnessProgram_eq_some h
  fun_cases solveWitnessProgram script version program with
  | case1 hcase =>
    obtain ⟨rfl, hsize⟩ := by simpa only [Bool.and_eq_true, beq_iff_eq] using hcase
    exact .witnessV0Keyhash hsize hscript
  | case2 _ hcase =>
    obtain ⟨rfl, hsize⟩ := by simpa only [Bool.and_eq_true, beq_iff_eq] using hcase
    exact .witnessV0Scripthash hsize hscript
  | case3 _ _ hcase =>
    obtain ⟨rfl, hsize⟩ := by simpa only [Bool.and_eq_true, beq_iff_eq] using hcase
    exact .witnessV1Taproot hsize hscript
  | case4 _ _ _ hcase =>
    obtain ⟨rfl, hsize⟩ := by simpa only [Bool.and_eq_true, beq_iff_eq] using hcase
    exact .witnessV2Quantum hsize hscript
  | case5 _ _ _ _ hanchor => exact .anchor (beq_iff_eq.mp hanchor)
  | case6 => exact .witnessUnknown hversion hscript
  | case7 => exact .nonstandard

theorem isPayToScriptHash_eq {script : Bytes} (h : isPayToScriptHash script = true) :
    script = opHash160 :: 20 :: (script.drop 2).take 20 ++ [opEqual] := by
  simp only [isPayToScriptHash, Bool.and_eq_true, beq_iff_eq] at h
  obtain ⟨⟨⟨hlen, h0⟩, h1⟩, h22⟩ := h
  obtain ⟨a, b, rest, rfl⟩ : ∃ a b rest, script = a :: b :: rest := by
    rcases script with _ | ⟨a, _ | ⟨b, rest⟩⟩
    · cases h0
    · cases h1
    · exact ⟨a, b, rest, rfl⟩
  have hrest : rest.length = 21 := by simpa using hlen
  have hlast : rest.drop 20 = [opEqual] := by
    have h20 : rest[20]? = some opEqual := h22
    rw [List.drop_eq_getElem_cons (by omega), List.drop_eq_nil_of_le (by omega),
      (List.getElem?_eq_some_iff.mp h20).2]
  rw [Option.some.inj h0, Option.some.inj h1]
  change _ = opHash160 :: 20 :: (rest.take 20 ++ [opEqual])
  rw [← hlast, List.take_append_drop]

theorem matchPayToPubkeyHash_eq {script hash : Bytes} (h : matchPayToPubkeyHash script = some hash) :
    hash.length = 20 ∧ script = opDup :: opHash160 :: 20 :: hash ++ [opEqualVerify, opCheckSig] := by
  rw [matchPayToPubkeyHash] at h
  split at h
  · next hshape =>
    simp only [Bool.and_eq_true, beq_iff_eq] at hshape
    obtain ⟨⟨hlen, hhead⟩, htail⟩ := hshape
    cases Option.some.inj h
    refine ⟨by simp [hlen], ?_⟩
    calc script = script.take 3 ++ ((script.drop 3).take 20 ++ script.drop 23) := by
          rw [← List.drop_drop (i := 20) (j := 3), List.take_append_drop, List.take_append_drop]
      _ = opDup :: opHash160 :: 20 :: (script.drop 3).take 20 ++ [opEqualVerify, opCheckSig] := by
          rw [hhead, htail]
          rfl
  · cases h

theorem solver_solved (script : Bytes) : Solved script (solver script).1 (solver script).2 := by
  fun_cases solver script with
  | case1 hp2sh =>
    have hshape := isPayToScriptHash_eq hp2sh
    have hlen : ((script.drop 2).take 20).length = 20 := by
      have hsize : script.length = 23 := by
        simp only [isPayToScriptHash, Bool.and_eq_true, beq_iff_eq] at hp2sh
        exact hp2sh.1.1.1
      simp [hsize]
    exact .scripthash hlen (by rwa [pushScript_short (by omega), hlen])
  | case2 _ version program hwitness => exact solveWitnessProgram_solved hwitness
  | case3 => exact .nullData
  | case4 => exact .pubkey _
  | case5 _ _ _ _ data hdata =>
    obtain ⟨hlen, hshape⟩ := matchPayToPubkeyHash_eq hdata
    exact .pubkeyhash hlen (by rwa [pushScript_short (by omega), hlen])
  | case6 => exact .multisig _
  | case7 => exact .nonstandard

theorem solver_quantum_iff (script : Bytes) :
    (solver script).1 = .witnessV2Quantum ↔
      ∃ program : Bytes, program.length = 32 ∧ script = op2 :: 32 :: program := by
  constructor
  · intro htype
    have hsolved := solver_solved script
    rw [htype] at hsolved
    generalize (solver script).2 = vSolutions at hsolved
    cases hsolved with
    | witnessV2Quantum hsize h =>
      rw [pushScript_short (by omega), hsize] at h
      exact ⟨_, hsize, h⟩
  · rintro ⟨program, hsize, rfl⟩
    simp [solver, isPayToScriptHash_quantum hsize, isWitnessProgram_quantum hsize,
      solveWitnessProgram, hsize]

theorem extractDestination_quantum {script : Bytes} (h : (solver script).1 = .witnessV2Quantum) :
    extractDestination script = .error (.assertFailed .extractDestination) := by
  rcases hsolver : solver script with ⟨whichType, vSolutions⟩
  rw [hsolver] at h
  cases h
  rw [extractDestination, hsolver]

theorem extractDestination_returns {script : Bytes} (h : (solver script).1 ≠ .witnessV2Quantum) :
    ∃ addressed dest, extractDestination script = .ok (addressed, dest) ∧
      (addressed = true → getScriptForDestination dest = script) := by
  have hsolved := solver_solved script
  rcases hsolver : solver script with ⟨whichType, vSolutions⟩
  rw [hsolver] at h hsolved
  rw [extractDestination, hsolver]
  cases hsolved with
  | witnessV2Quantum => exact absurd rfl h
  | scripthash hsize hscript =>
    exact ⟨true, .scriptHash ⟨_, hsize⟩, by simp [Blob.ofSpan_eq hsize, bind, Except.bind, pure,
      Except.pure], fun _ => hscript.symm⟩
  | pubkeyhash hsize hscript =>
    exact ⟨true, .pkHash ⟨_, hsize⟩, by simp [Blob.ofSpan_eq hsize, bind, Except.bind, pure,
      Except.pure], fun _ => hscript.symm⟩
  | witnessV0Keyhash hsize hscript =>
    exact ⟨true, .witnessV0KeyHash ⟨_, hsize⟩, by rw [← Blob.copy_eq hsize]; rfl, fun _ => hscript.symm⟩
  | witnessV0Scripthash hsize hscript =>
    exact ⟨true, .witnessV0ScriptHash ⟨_, hsize⟩, by rw [← Blob.copy_eq hsize]; rfl, fun _ => hscript.symm⟩
  | witnessV1Taproot hsize hscript =>
    exact ⟨true, .witnessV1Taproot ⟨_, hsize⟩, by rw [← Blob.copy_eq hsize]; rfl, fun _ => hscript.symm⟩
  | anchor hscript => exact ⟨_, _, rfl, fun _ => hscript.symm⟩
  | @witnessUnknown version program hversion hscript =>
    have hbyte : (UInt8.ofNat version).toNat = version := by
      rw [UInt8.toNat_ofNat']
      omega
    refine ⟨_, _, rfl, fun _ => ?_⟩
    rw [hscript]
    change encodeOpN (UInt8.ofNat version).toNat :: pushScript program = _
    rw [hbyte]
  | pubkey key =>
    by_cases hkey : validPubKeySize key = true
    · exact ⟨false, .pubKeyDestination key, if_pos hkey, fun hfalse => nomatch hfalse⟩
    · exact ⟨false, .noDestination script, if_neg hkey, fun hfalse => nomatch hfalse⟩
  | multisig | nullData | nonstandard => exact ⟨_, _, rfl, fun hfalse => nomatch hfalse⟩

/-- `ExtractDestination` returns for every script but those of quantum-safe outputs, and the
    destination of an address has the script it was extracted from. -/
theorem extractDestination_roundTrip (scriptPubKey : Bytes) :
    ((∃ r, extractDestination scriptPubKey = .ok r) ↔
      ¬ ∃ program : Bytes, program.length = 32 ∧ scriptPubKey = op2 :: 32 :: program) ∧
    ∀ dest, extractDestination scriptPubKey = .ok (true, dest) →
      getScriptForDestination dest = scriptPubKey := by
  rw [← solver_quantum_iff]
  by_cases hquantum : (solver scriptPubKey).1 = .witnessV2Quantum
  · simp [extractDestination_quantum hquantum, hquantum]
  · obtain ⟨addressed, dest, hextract, hscript⟩ := extractDestination_returns hquantum
    refine ⟨iff_of_true ⟨_, hextract⟩ hquantum, fun dest' hdest => ?_⟩
    rw [hextract] at hdest
    cases hdest
    exact hscript rfl

/-- The output that pays to a quantum-safe key ends `ExtractDestination` in its assertion. -/
theorem extractDestination_aborts :
    (solver (op2 :: 32 :: List.replicate 32 0)).1 = .witnessV2Quantum ∧
      extractDestination (op2 :: 32 :: List.replicate 32 0) =
        .error (.assertFailed .extractDestination) := by
  decide

end GarudaChain
