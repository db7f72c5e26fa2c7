import GarudaChain.Node.Interpreter

/-!
# Spending a quantum-safe output
-/

namespace GarudaChain

open Result

variable {crypto : Crypto}

def bip143Digest (crypto : Crypto) (tx : CTransaction) (nIn : Fin tx.vin.length)
    (scriptCode : Bytes) (amount : Int) : Bytes :=
  crypto.hash256 (bip143Preimage tx (tx.vin.get nIn) scriptCode amount (getHashPrevouts crypto tx)
    (getHashSequence crypto tx) (getHashOutputs crypto tx))

theorem signatureHash_eq (checker : SignatureChecker crypto) (scriptCode : Bytes) :
    signatureHash checker scriptCode
      = bip143Digest crypto checker.txTo checker.nIn scriptCode checker.amount := by
  obtain ⟨tx, nIn, amount, missingData, txdata, hof⟩ := checker
  cases txdata with
  | none => rfl
  | some d =>
    by_cases hready : d.bip143SegwitReady = true
    · obtain ⟨hprevouts, hsequence, houtputs⟩ := hof d rfl hready
      simp [signatureHash, bip143Digest, Option.filter, hready, hprevouts, hsequence, houtputs]
    · simp [signatureHash, bip143Digest, Option.filter, hready]

/-- What the rule asks of a witness. -/
structure QuantumSpend (checker : SignatureChecker crypto) (program sig pk : Bytes) : Prop where
  sig_size : sig.length = 4627
  pk_size : pk.length = 2592
  pk_hash : crypto.sha256 pk = program
  verified : crypto.mldsa87Verify (bip143Digest crypto checker.txTo checker.nIn
    (op2 :: 32 :: program) checker.amount) sig pk = true

theorem checkQuantumSignature_eq_ok (checker : SignatureChecker crypto)
    (sig pubkey scriptCode : Bytes) :
    checkQuantumSignature checker sig pubkey scriptCode = .ok () ↔
      pubkey.length = 2592 ∧ sig.length = 4627 ∧ 0 ≤ checker.amount ∧
        crypto.mldsa87Verify (bip143Digest crypto checker.txTo checker.nIn scriptCode
          checker.amount) sig pubkey = true := by
  have hmissing : handleMissingData checker.missingData ≠ .ok () := by
    cases checker.missingData <;> simp [handleMissingData]
  unfold checkQuantumSignature
  simp only [bind_ok_iff, Result.failIf_eq_ok, exists_const, signatureHash_eq, bne_eq_false_iff_eq,
    mlDsa87PubkeySize, mlDsa87SigSize]
  refine and_congr_right fun _ => and_congr_right fun _ => ?_
  by_cases hneg : checker.amount < 0
  · have hnot : ¬ 0 ≤ checker.amount := Int.not_le.mpr hneg
    simp [hneg, hmissing, hnot]
  · have hpos : 0 ≤ checker.amount := Int.not_lt.mp hneg
    simp [hneg, hpos]

theorem verifyQuantumProgram_eq_ok (checker : SignatureChecker crypto) (stack : List Bytes)
    {program : Bytes} (hprogram : program.length = 32) :
    verifyQuantumProgram checker stack program = .ok () ↔
      0 ≤ checker.amount ∧ ∃ sig pk, stack = [sig, pk] ∧ QuantumSpend checker program sig pk := by
  unfold verifyQuantumProgram
  simp only [bind_ok_iff, Result.failIf_eq_ok, exists_const, bne_eq_false_iff_eq, mlDsa87PubkeySize,
    checkQuantumSignature_eq_ok, hprogram]
  constructor
  · rintro ⟨hlen, hpk, hhash, -, hsig, hamount, hverify⟩
    obtain ⟨sig, pk, rfl⟩ := List.length_eq_two.mp hlen
    exact ⟨hamount, sig, pk, rfl, hsig, hpk, hhash, hverify⟩
  · rintro ⟨hamount, sig, pk, rfl, hspend⟩
    exact ⟨rfl, hspend.pk_size, hspend.pk_hash, hspend.pk_size, hspend.sig_size, hamount,
      hspend.verified⟩

variable (engine : ScriptEngine) (checker : SignatureChecker engine.crypto) (flags : ScriptFlags)

theorem evalScript_nil (stack : List Bytes) :
    evalScript engine checker stack [] flags .base noExecData = .ok stack := rfl

section Program

variable {program : Bytes} (hprogram : program.length = 32)
include hprogram

theorem getScriptOp_push : getScriptOp (32 :: program) = some (32, program, []) := by
  have hsize : pushSize 32 program = some (32, program) := rfl
  simp [getScriptOp, hsize, hprogram]

theorem checkMinimalPush_program : checkMinimalPush program 32 = true := by
  match program, hprogram with
  | a :: b :: rest, hlen => simp [checkMinimalPush, hlen]

theorem isWitnessProgram_quantum : isWitnessProgram (op2 :: 32 :: program) = some (2, program) := by
  have hversion : decodeOpN op2 = 2 := rfl
  simp only [isWitnessProgram, List.length_cons, hprogram, hversion]
  rfl

theorem isPayToScriptHash_quantum : isPayToScriptHash (op2 :: 32 :: program) = false := by
  simp [isPayToScriptHash, hprogram]

theorem evalStep_push (code : Bytes) :
    evalStep engine checker flags .base noExecData 32 program [] ⟨[[2]], [], [], 0, code⟩
      = .ok ⟨[[2], program], [], [], 0, code⟩ := by
  have hsize : decide (program.length > maxScriptElementSize) = false := by
    rw [hprogram]
    rfl
  have hminimal : (flags.has verifyMinimalData && !checkMinimalPush program 32) = false := by
    simp [checkMinimalPush_program hprogram]
  unfold evalStep
  rw [hsize, hminimal]
  rfl

theorem evalScript_quantum :
    evalScript engine checker [] (op2 :: 32 :: program) flags .base noExecData
      = .ok [[2], program] := by
  have hop2 : getScriptOp (op2 :: 32 :: program) = some (op2, [], 32 :: program) := rfl
  have hlength : (op2 :: 32 :: program).length = 34 := by simp [hprogram]
  have hsize : (decide (SigVersion.base ≠ .tapscript) && decide (34 > maxScriptSize)) = false := rfl
  have hstep : evalStep engine checker flags .base noExecData op2 [] (32 :: program)
      ⟨[], [], [], 0, op2 :: 32 :: program⟩
      = .ok ⟨[[2]], [], [], 0, op2 :: 32 :: program⟩ := rfl
  have hloop : evalLoop engine checker flags .base noExecData 34 (op2 :: 32 :: program)
      ⟨[], [], [], 0, op2 :: 32 :: program⟩
      = .ok ⟨[[2], program], [], [], 0, op2 :: 32 :: program⟩ := by
    rw [evalLoop, hop2]
    simp only [List.isEmpty_cons, Bool.false_eq_true, if_false, hstep, ok_bind]
    rw [evalLoop, getScriptOp_push hprogram]
    simp only [List.isEmpty_cons, Bool.false_eq_true, if_false,
      evalStep_push engine checker flags hprogram, ok_bind]
    rfl
  unfold evalScript
  rw [hlength, hsize, hloop]
  rfl

end Program

/-- An output of version 2 with a 32-byte program is spent just by an empty signature script and a
    witness of a signature and a public key that satisfy the rule, where the program is no zero and
    the spent amount is not negative. -/
theorem verifyScript_quantum_iff {program : Bytes} (hprogram : program.length = 32)
    (hP2SH : flags.has verifyP2SH = true) (hwitness : flags.has verifyWitness = true)
    (hquantum : flags.has verifyQuantum = true) (scriptSig : Bytes) (witness : List Bytes) :
    verifyScript engine checker scriptSig (op2 :: 32 :: program) witness flags = .ok () ↔
      castToBool program = true ∧ 0 ≤ checker.amount ∧ scriptSig = [] ∧
        ∃ sig pk, witness = [sig, pk] ∧ QuantumSpend checker program sig pk := by
  have hprogram2 : verifyWitnessProgram engine checker witness 2 program flags false
      = verifyQuantumProgram checker witness program := by
    simp [verifyWitnessProgram, hprogram, hquantum]
  unfold verifyScript
  simp only [hwitness, hP2SH, isWitnessProgram_quantum hprogram, Bool.false_eq_true, Bool.and_false,
    isPayToScriptHash_quantum hprogram, hprogram2, bind_ok_iff, Result.failIf_eq_ok, if_true,
    if_false, exists_const]
  have hpush : isPushOnly [] = true := rfl
  constructor
  · rintro ⟨-, stackCopy, hcopy, stack, hstack, -, hcast, -, ⟨hsig, _, hverify, -⟩, -⟩
    -- the signature script is empty, so the output script ran on an empty stack
    have hnil : scriptSig = [] := by simpa using hsig
    subst hnil
    rw [evalScript_nil] at hcopy
    cases hcopy
    rw [evalScript_quantum engine checker flags hprogram] at hstack
    cases hstack
    obtain ⟨hamount, hspend⟩ := (verifyQuantumProgram_eq_ok checker witness hprogram).mp hverify
    exact ⟨by simpa using hcast, hamount, rfl, hspend⟩
  · rintro ⟨hcast, hamount, rfl, hspend⟩
    refine ⟨by simp [hpush], [], rfl, [[2], program],
      evalScript_quantum engine checker flags hprogram, rfl, by simpa using hcast, ([[2]], true),
      ⟨rfl, (), (verifyQuantumProgram_eq_ok checker witness hprogram).mpr ⟨hamount, hspend⟩, rfl⟩,
      ([[2]], true), rfl, ?_⟩
    split_ifs <;> rfl

/-! ## A small instance

A hash that gives every key the same digest, and a verifier that accepts every signature. -/

def quantumEngine (digest : Bytes) : ScriptEngine where
  crypto :=
    { sha256 := fun _ => digest
      sha256D64 := fun a _ => a
      schnorrVerify := fun _ _ _ => false
      mldsa87Verify := fun _ _ _ => true
      mldsa87Sign := fun _ _ => none
      keypairXonlyPub := fun _ => none
      schnorrsigSign32 := fun _ _ _ => none
      verifyScript := fun _ _ _ _ => .ok ()
      evalScript := fun _ => none }
  execOp _ _ _ _ _ _ st := .ok st
  checkSchnorrSignature _ _ _ _ := .error (.error .operation)
  computeTapleafHash _ _ := []
  verifyTaprootCommitment _ _ _ := false

def quantumTx : CTransaction where
  vin := [⟨⟨1, 0⟩, [], 0xffffffff, []⟩]
  vout := [⟨900, [op1]⟩]
  version := 2
  nLockTime := 0
  hash := 2
  witnessHash := 2

def quantumChecker (digest : Bytes) (amount : Int) :
    SignatureChecker (quantumEngine digest).crypto where
  txTo := quantumTx
  nIn := ⟨0, by decide⟩
  amount := amount
  missingData := .fail
  txdata := none
  txdata_of := by simp

theorem quantumSpend_sample (digest : Bytes) (amount : Int) :
    QuantumSpend (quantumChecker digest amount) digest (List.replicate 4627 0)
      (List.replicate 2592 0) :=
  ⟨List.length_replicate, List.length_replicate, rfl, rfl⟩

/-- A program of zeros and a negative amount are refused although the key and the signature are
    right. -/
theorem verifyScript_quantum_refused :
    let zeros : Bytes := List.replicate 32 0
    let ones : Bytes := List.replicate 32 1
    let witness : List Bytes := [List.replicate 4627 0, List.replicate 2592 0]
    (QuantumSpend (quantumChecker zeros 1000) zeros (List.replicate 4627 0)
        (List.replicate 2592 0) ∧
      verifyScript (quantumEngine zeros) (quantumChecker zeros 1000) [] (op2 :: 32 :: zeros) witness
        mandatoryScriptVerifyFlags = .error (.error .evalFalse)) ∧
    (QuantumSpend (quantumChecker ones (-1)) ones (List.replicate 4627 0)
        (List.replicate 2592 0) ∧
      verifyScript (quantumEngine ones) (quantumChecker ones (-1)) [] (op2 :: 32 :: ones) witness
        mandatoryScriptVerifyFlags = .error (.error .missingData)) :=
  ⟨⟨quantumSpend_sample _ _, by decide +kernel⟩, ⟨quantumSpend_sample _ _, by decide +kernel⟩⟩

theorem verifyScript_quantum_accepted :
    let ones : Bytes := List.replicate 32 1
    ones.length = 32 ∧ verifyScript (quantumEngine ones) (quantumChecker ones 1000) []
      (op2 :: 32 :: ones) [List.replicate 4627 0, List.replicate 2592 0]
      mandatoryScriptVerifyFlags = .ok () :=
  ⟨by decide, (verifyScript_quantum_iff (quantumEngine (List.replicate 32 1))
    (quantumChecker (List.replicate 32 1) 1000) mandatoryScriptVerifyFlags (by decide) (by decide)
    (by decide) (by decide) [] _).mpr
      ⟨by decide, by decide, rfl, _, _, rfl, quantumSpend_sample _ _⟩⟩

end GarudaChain
