import GarudaChain.Api.QuantumAddress
import GarudaChain.Extension.Proofs.TransactionProofs
import GarudaChain.Node.Chain
import GarudaChain.Node.Pqc

/-!
# One quantum-safe address
-/

namespace GarudaChain

open BitGroups

/-- The values that `key_io.cpp` writes for a program. -/
def programWords (program : Bytes) : List Nat := (convertBits 8 5 true (program.map UInt8.toNat)).2

theorem programWords_lt (program : Bytes) : ∀ v ∈ programWords program, v < 32 := by
  obtain ⟨-, -, -, hsmall⟩ :=
    convertBits_pad (show 0 < 5 by decide) (lt_of_mem_map_toNat program)
  exact hsmall

theorem padded_eq_programWords {w : Nat} (hw : 12 ≤ w) {program : Bytes} {out : List Nat}
    {acc left : Nat}
    (h : convert (· % 2 ^ w) 8 5 (program.map UInt8.toNat) 0 0 = (out, acc, left)) :
    padded 5 out acc left = programWords program := by
  rcases hconvert : convert (· &&& (2 ^ (8 + 5 - 1) - 1)) 8 5 (program.map UInt8.toNat) 0 0 with
    ⟨out', acc', left'⟩
  have hwords : programWords program = padded 5 out' acc' left' := by
    simp only [programWords, convertBits, hconvert, if_true, padded, ne_eq, ite_not]
  rw [hwords]
  refine padded_convert_eq (m := 12) (by decide) (fun x => ?_) (keep_maxAcc 8 5) (by decide) h
    hconvert (lt_of_mem_map_toNat program)
  exact Nat.mod_mod_of_dvd x (Nat.pow_dvd_pow 2 hw)

theorem paddedSigned_eq_programWords {w : Nat} (hw : 12 ≤ w) {program : Bytes} {out : List Nat}
    {acc : BitVec w} {left : Nat}
    (h : convertSigned 8 5 (program.map UInt8.toNat) 0 0 = (out, acc, left)) :
    (if left > 0 then out ++ [(acc <<< (5 - left) &&& BitVec.ofNat w (2 ^ 5 - 1)).toNat] else out) =
      programWords program := by
  have hconvert := convertSigned_eq (by decide) (show 5 - 1 + 8 ≤ w from hw) _ (by decide) h
  have hgroup : (acc <<< (5 - left) &&& BitVec.ofNat w (2 ^ 5 - 1)).toNat =
      (acc.toNat <<< (5 - left)) &&& (2 ^ 5 - 1) := by
    rw [toNat_and_mask (by omega), BitVec.toNat_shiftLeft, Nat.and_two_pow_sub_one_eq_mod,
      Nat.and_two_pow_sub_one_eq_mod, Nat.mod_mod_of_dvd _ (Nat.pow_dvd_pow 2 (by omega))]
  rw [← padded_eq_programWords hw hconvert, padded, hgroup]
  by_cases hzero : left = 0
  · simp [hzero]
  · rw [if_neg hzero, if_pos (Nat.pos_of_ne_zero hzero)]

theorem convertBits8to5_eq (program : Bytes) : convertBits8to5 program = programWords program := by
  rcases h : convertSigned (w := 32) 8 5 (program.map UInt8.toNat) 0 0 with ⟨out, acc, left⟩
  rw [← paddedSigned_eq_programWords (by decide) h]
  simp only [convertBits8to5, h]
  rfl

theorem Extension.convertBits_eq (program : Bytes) :
    Extension.convertBits program 8 5 true = programWords program := by
  rcases h : convert (· % 2 ^ 32) 8 5 (program.map UInt8.toNat) 0 0 with ⟨out, acc, left⟩
  rw [← padded_eq_programWords (by decide) h, padded]
  simp only [Extension.convertBits, h, Bool.true_and, decide_eq_true_eq]
  by_cases hzero : left = 0
  · simp [hzero]
  · rw [if_neg hzero, if_pos (Nat.pos_of_ne_zero hzero)]

theorem Api.pqConvertBits_eq (program : Bytes) :
    (Api.pqConvertBits program 8 5 true).map UInt8.toNat = programWords program := by
  rcases h : convertSigned (w := 64) 8 5 (program.map UInt8.toNat) 0 0 with ⟨out, acc, left⟩
  have hwords := paddedSigned_eq_programWords (by decide) h
  simp only [Api.pqConvertBits, h, Bool.true_and, decide_eq_true_eq, hwords, List.map_map]
  refine (List.map_congr_left fun v hv => ?_).trans (List.map_id _)
  have hlt := programWords_lt program v hv
  simp only [Function.comp_apply, UInt8.toNat_ofNat', id_eq]
  omega

theorem ushiftRight_and_one (x : BitVec 32) (i : Nat) : x >>> i &&& 1 ≠ 0 ↔ x.getLsbD i = true := by
  have hbit : (x >>> i).getLsbD 0 = x.getLsbD i := by simp
  change x >>> i &&& 1#32 ≠ 0 ↔ _
  rw [BitVec.and_one_eq_setWidth_ofBool_getLsbD, hbit]
  cases x.getLsbD i <;> decide

theorem sshiftRight_and_one {x : BitVec 32} (hx : x.msb = false) (i : Nat) :
    x.sshiftRight i &&& 1 ≠ 0 ↔ x.getLsbD i = true := by
  rw [BitVec.sshiftRight_eq_of_msb_false hx, ushiftRight_and_one]

theorem Api.pqPolymodRound_eq (chk v : BitVec 32) :
    Api.pqPolymodRound chk v = Bech32.polyModStep chk v := by
  simp only [Api.pqPolymodRound, Api.pqBech32Gen, Bech32.polyModStep, Bech32.xorIf,
    List.zipIdx_cons, List.zipIdx_nil, List.foldl_cons, List.foldl_nil, ushiftRight_and_one]

theorem Extension.polymodRound_eq {chk : BitVec 32} (hchk : chk.toNat < 2 ^ 30) (v : BitVec 32) :
    Extension.polymodRound chk v = Bech32.polyModStep chk v := by
  have hmsb : chk.msb = false := by
    rw [BitVec.msb_eq_false_iff_two_mul_lt]
    omega
  have htop : (chk >>> 25).msb = false := by
    rw [BitVec.msb_eq_false_iff_two_mul_lt, BitVec.toNat_ushiftRight]
    have := Nat.shiftRight_le chk.toNat 25
    omega
  simp only [Extension.polymodRound, Extension.GEN, Bech32.polyModStep, Bech32.xorIf,
    BitVec.sshiftRight_eq_of_msb_false hmsb, List.zipIdx_cons, List.zipIdx_nil, List.foldl_cons,
    List.foldl_nil, sshiftRight_and_one htop]

theorem Api.pqPolymod_eq (values : List Nat) :
    Api.pqPolymod (values.map (BitVec.ofNat 32)) = Bech32.polyMod values := by
  rw [Api.pqPolymod, List.foldl_map, Bech32.polyMod, Bech32.polyModFrom]
  congr 1
  funext chk v
  exact Api.pqPolymodRound_eq chk _

theorem Extension.polymod_eq {values : List Nat} (hvalues : ∀ v ∈ values, v < 32) :
    Extension.polymod values = Bech32.polyMod values := by
  suffices hfrom : ∀ chk : BitVec 32, chk.toNat < 2 ^ 30 →
      values.foldl (fun chk v => Extension.polymodRound chk (BitVec.ofNat 32 v)) chk =
        Bech32.polyModFrom chk values from hfrom 1 (by decide)
  -- the state stays below `2 ^ 30`, so it never has a sign
  induction values with
  | nil => exact fun _ _ => rfl
  | cons v values ih =>
    intro chk hchk
    obtain ⟨hv, hvalues⟩ := List.forall_mem_cons.mp hvalues
    rw [List.foldl_cons, Extension.polymodRound_eq hchk,
      ih hvalues _ (Bech32.polyModStep_lt chk (by rw [BitVec.toNat_ofNat]; omega))]
    rfl

theorem Extension.bech32mEncode_eq {hrp : List Char} {data : List Nat}
    (hhrp : ∀ c ∈ hrp, c.toNat ≤ 126) (hdata : ∀ v ∈ data, v < 32) :
    Extension.bech32mEncode hrp data = Bech32.encode .bech32m hrp data := by
  have hexpand : Extension.hrpExpand hrp ++ data ++ [0, 0, 0, 0, 0, 0] =
      Bech32.preparePolynomialCoefficients hrp data ++ List.replicate Bech32.checksumSize 0 := by
    simp [Extension.hrpExpand, Bech32.preparePolynomialCoefficients, Bech32.checksumSize,
      List.replicate]
  have hlt : ∀ v ∈ Bech32.preparePolynomialCoefficients hrp data ++
      List.replicate Bech32.checksumSize 0, v < 32 := by
    rw [← Bech32.preparePolynomialCoefficients_append]
    exact Bech32.preparePolynomialCoefficients_lt hhrp
      (List.forall_mem_append.mpr ⟨hdata, by simp⟩)
  have hsum : ∀ (pm : BitVec 32) (i : Nat), i < 6 →
      (pm.sshiftRight (5 * (5 - i)) &&& 31).toNat = (pm >>> (5 * (5 - i)) &&& 31).toNat := by
    intro pm i hi
    have hsigned := sshiftRight_and_mask (w := 32) (k := 5) (s := 5 * (5 - i)) (by omega) pm
    have hlogical := toNat_and_mask (w := 32) (k := 5) (by decide) (pm >>> (5 * (5 - i)))
    rw [BitVec.toNat_ushiftRight] at hlogical
    exact hsigned.trans hlogical.symm
  rw [Extension.bech32mEncode, hexpand, Extension.polymod_eq hlt, Bech32.encode,
    Bech32.createChecksum]
  congr 4
  refine List.map_congr_left fun i hi => hsum _ i ?_
  exact List.mem_range.mp hi

theorem Api.pqHRPExpand_eq {hrp : List Char} (hhrp : ∀ c ∈ hrp, c.toNat ≤ 126) :
    Api.pqHRPExpand (asciiBytes hrp) =
      (Bech32.preparePolynomialCoefficients hrp []).map (BitVec.ofNat 32) := by
  have hrune : ∀ n < 127, Api.uint32 (UInt8.ofNat n) >>> 5 = BitVec.ofNat 32 (n >>> 5) ∧
      Api.uint32 (UInt8.ofNat n) &&& 31 = BitVec.ofNat 32 (n &&& 0x1f) := by decide +kernel
  simp only [Api.pqHRPExpand, asciiBytes, Bech32.preparePolynomialCoefficients, List.map_map,
    List.map_append, List.append_assoc, List.map_cons, List.append_nil, List.cons_append,
    List.nil_append]
  congr 1
  · exact List.map_congr_left fun c hc => (hrune _ (Nat.lt_succ_of_le (hhrp c hc))).1
  · congr 1
    exact List.map_congr_left fun c hc => (hrune _ (Nat.lt_succ_of_le (hhrp c hc))).2

theorem Api.pqBech32mEncode_eq {hrp : List Char} {data : Bytes} (hhrp : ∀ c ∈ hrp, c.toNat ≤ 126)
    (hdata : ∀ v ∈ data.map UInt8.toNat, v < 32) :
    Api.pqBech32mEncode (asciiBytes hrp) data =
      asciiBytes (Bech32.encode .bech32m hrp (data.map UInt8.toNat)) := by
  have hcheck : Api.pqHRPExpand (asciiBytes hrp) ++ data.map Api.uint32 ++ [0, 0, 0, 0, 0, 0] =
      (Bech32.preparePolynomialCoefficients hrp (data.map UInt8.toNat) ++
        List.replicate Bech32.checksumSize 0).map (BitVec.ofNat 32) := by
    have hsplit := Bech32.preparePolynomialCoefficients_append hrp [] (data.map UInt8.toNat)
    rw [List.nil_append] at hsplit
    rw [Api.pqHRPExpand_eq hhrp, hsplit, List.map_append, List.map_append, List.map_map]
    rfl
  have hchar : ∀ v < 32, Api.pqBech32Charset.getD v 0 = UInt8.ofNat (Bech32.charOf v).toNat := by
    decide +kernel
  have hall := List.forall_mem_append.mpr
    ⟨hdata, Bech32.createChecksum_lt .bech32m hrp (data.map UInt8.toNat)⟩
  have hcombined : ((data.map Api.uint32 ++ (List.range 6).map fun i =>
        (Bech32.polyMod (Bech32.preparePolynomialCoefficients hrp (data.map UInt8.toNat) ++
          List.replicate Bech32.checksumSize 0) ^^^ Api.pqBech32mConst) >>> (5 * (5 - i)) &&& 31).map
        BitVec.toNat) =
      data.map UInt8.toNat ++ Bech32.createChecksum .bech32m hrp (data.map UInt8.toNat) := by
    have hbyte : ∀ b : UInt8, (Api.uint32 b).toNat = b.toNat := by
      intro b
      have := b.toNat_lt
      rw [Api.uint32, BitVec.toNat_ofNat]
      omega
    rw [List.map_append, List.map_map, List.map_map]
    congr 1
    exact List.map_congr_left fun b _ => hbyte b
  rw [← hcombined] at hall
  simp only [Api.pqBech32mEncode, hcheck, Api.pqPolymod_eq, Bech32.encode, ← hcombined]
  generalize data.map Api.uint32 ++ (List.range 6).map _ = combined at hall ⊢
  simp only [asciiBytes, List.map_append, List.map_cons, List.map_map]
  congr 2
  exact List.map_congr_left fun d hd => hchar d.toNat (hall _ (List.mem_map_of_mem hd))

theorem grd_le : ∀ c ∈ ['g', 'r', 'd'], c.toNat ≤ 126 := fun c hc =>
  (WitnessDestination.plain_bech32Hrp .main c hc).2.2

theorem pubkeyToP2PQH_eq (crypto : Crypto) (pubkey : Bytes) :
    pubkeyToP2PQH crypto pubkey =
      Bech32.encode .bech32m ['g', 'r', 'd'] (2 :: programWords (crypto.sha256 pubkey)) := by
  rw [pubkeyToP2PQH, convertBits8to5_eq]

section

variable {crypto : Crypto} {pubkey : Bytes}

theorem pubkeyToQuantumAddress_eq {api : Api.ApiCrypto} (hsha : api.sha256 = crypto.sha256)
    (hpubkey : pubkey.length = Api.pqPubkeySize) :
    Api.pubkeyToQuantumAddress api pubkey = .ok (asciiBytes (pubkeyToP2PQH crypto pubkey)) := by
  have hwords := Api.pqConvertBits_eq (crypto.sha256 pubkey)
  have hdata : (Api.pqWitnessVersion :: Api.pqConvertBits (crypto.sha256 pubkey) 8 5 true).map
      UInt8.toNat = 2 :: programWords (crypto.sha256 pubkey) := by
    rw [List.map_cons, hwords]
    rfl
  rw [Api.pubkeyToQuantumAddress, if_neg (not_not.mpr hpubkey), hsha, pubkeyToP2PQH_eq, ← hdata,
    ← Api.pqBech32mEncode_eq grd_le]
  · rfl
  · rw [hdata]
    exact List.forall_mem_cons.mpr ⟨by decide, programWords_lt _⟩

theorem Extension.pubkeyToP2PQH_eq {libs : Extension.WalletLibs} (hsha : libs.sha256 = crypto.sha256) :
    Extension.pubkeyToP2PQH libs pubkey = GarudaChain.pubkeyToP2PQH crypto pubkey := by
  rw [GarudaChain.pubkeyToP2PQH_eq, Extension.pubkeyToP2PQH, hsha, Extension.convertBits_eq]
  exact Extension.bech32mEncode_eq grd_le
    (List.forall_mem_cons.mpr ⟨by decide, programWords_lt _⟩)

end

theorem decodeBase58Data_ne_witnessUnknown (chain : ChainType) (data : Bytes) (version : Nat)
    (program : Bytes) : (decodeBase58Data chain data).1 ≠ .witnessUnknown version program := by
  unfold decodeBase58Data noDestination
  dsimp only
  split_ifs <;> simp

theorem decodeDestination_foreign (codecs : TextCodecs) {chain : ChainType} {str : List Char}
    (h : (str.take chain.bech32Hrp.length).map Bech32.lowerCase ≠ chain.bech32Hrp) (version : Nat)
    (program : Bytes) : (decodeDestination codecs chain str).1 ≠ .witnessUnknown version program := by
  have hforeign : ((str.take chain.bech32Hrp.length).map Bech32.lowerCase == chain.bech32Hrp) = false :=
    beq_eq_false_iff_ne.mpr h
  simp only [decodeDestination, hforeign, Bool.not_false, if_true]
  cases codecs.decodeBase58Check str 21 with
  | some data => exact decodeBase58Data_ne_witnessUnknown chain data version program
  | none => cases codecs.decodeBase58 str 100 <;> simp [noDestination]

theorem decodeDestination_quantum_iff {program : Bytes} (hsize : program.length = 32)
    (codecs : TextCodecs) (chain : ChainType) :
    decodeDestination codecs chain (Bech32.encode .bech32m ['g', 'r', 'd'] (2 :: programWords program)) =
        (.witnessUnknown 2 program, "") ↔ chain.bech32Hrp = ['g', 'r', 'd'] := by
  constructor
  · intro hdecode
    by_contra hhrp
    have hlong : chain.bech32Hrp = ['t', 'g', 'r', 'd'] := by
      cases chain <;> first | rfl | exact absurd rfl hhrp
    refine decodeDestination_foreign codecs ?_ 2 program (congrArg Prod.fst hdecode)
    rw [hlong, Bech32.encode]
    simp only [List.length_cons, List.length_nil, List.cons_append, List.take_succ_cons, List.map_cons]
    intro heq
    exact absurd (List.cons.inj heq).1 (by decide)
  · intro hhrp
    let dest : WitnessDestination := .unknown 2 program (by decide) (by omega)
    have haddress := dest.encodeDestination_eq codecs chain
    have hdecode := dest.decodeDestination_address codecs chain
    rw [haddress, hhrp] at hdecode
    have hanchor : isAnchorProgram 2 program = false := rfl
    have hbounds : ¬ (program.length < 2 ∨ program.length > bech32WitnessProgMaxLen) := by
      rw [hsize]
      decide
    refine hdecode.trans ?_
    change decodeProgram 2 program = _
    rw [decodeProgram, if_neg (by decide), if_neg (by simp), hanchor, if_neg Bool.false_ne_true,
      if_neg (by decide), if_neg hbounds]

/-- The API, the node and the extension give one address for a public key, and a node decodes it to
    the version 2 program with the hash of the key just if its chain has the prefix `grd`. -/
theorem quantumAddress_agrees (crypto : Crypto) (api : Api.ApiCrypto) (libs : Extension.WalletLibs)
    (hapi : api.sha256 = crypto.sha256) (hlibs : libs.sha256 = crypto.sha256) (pubkey : Bytes)
    (hsize : (crypto.sha256 pubkey).length = 32) (hpubkey : pubkey.length = 2592)
    (codecs : TextCodecs) (chain : ChainType) :
    let address := pubkeyToP2PQH crypto pubkey
    Api.pubkeyToQuantumAddress api pubkey = .ok (asciiBytes address) ∧
      Extension.pubkeyToP2PQH libs pubkey = address ∧
      (decodeDestination codecs chain address = (.witnessUnknown 2 (crypto.sha256 pubkey), "") ↔
        chain.bech32Hrp = ['g', 'r', 'd']) := by
  refine ⟨pubkeyToQuantumAddress_eq hapi hpubkey, Extension.pubkeyToP2PQH_eq hlibs, ?_⟩
  rw [pubkeyToP2PQH_eq]
  exact decodeDestination_quantum_iff hsize codecs chain

def sampleKeyHash : Bytes :=
  [79, 135, 136, 215, 71, 249, 99, 244, 145, 105, 198, 206, 246, 234, 45, 165, 72, 118, 10, 115, 108,
    229, 161, 131, 196, 199, 112, 148, 100, 246, 40, 68]

def sampleKeyCrypto : Crypto := { GarudaChain.sampleCrypto with sha256 := fun _ => sampleKeyHash }

def sampleKeyApi : Api.ApiCrypto := ⟨fun _ => sampleKeyHash, fun _ _ => []⟩

def sampleKeyLibs : Extension.WalletLibs :=
  ⟨fun _ => sampleKeyHash, fun _ => [], fun _ _ _ => .error "", fun _ _ _ => []⟩

theorem quantumAddress_agrees_sample :
    let pubkey : Bytes := List.replicate 2592 7
    let address := pubkeyToP2PQH sampleKeyCrypto pubkey
    Api.pubkeyToQuantumAddress sampleKeyApi pubkey = .ok (asciiBytes address) ∧
      Extension.pubkeyToP2PQH sampleKeyLibs pubkey = address ∧
      decodeDestination sampleCodecs .main address = (.witnessUnknown 2 sampleKeyHash, "") := by
  intro pubkey address
  obtain ⟨hapi, hlibs, hdecode⟩ := quantumAddress_agrees sampleKeyCrypto sampleKeyApi sampleKeyLibs
    rfl rfl pubkey rfl List.length_replicate sampleCodecs .main
  exact ⟨hapi, hlibs, hdecode.mpr rfl⟩

/-- A test node refuses the address that it gives itself. -/
theorem quantumAddress_refused :
    let address := pubkeyToP2PQH sampleKeyCrypto (List.replicate 2592 7)
    address = "grd1zf7rc3468l93lfytfcm80d63d54y8vznndnj6rq7ycacfge8k9pzqd66hr0".toList ∧
      decodeDestination sampleCodecs .testnet address =
        (.noDestination [], "Invalid or unsupported Segwit (Bech32) or Base58 encoding.") := by
  have haddress : pubkeyToP2PQH sampleKeyCrypto (List.replicate 2592 7) =
      "grd1zf7rc3468l93lfytfcm80d63d54y8vznndnj6rq7ycacfge8k9pzqd66hr0".toList := by
    decide +kernel
  intro address
  refine ⟨haddress, ?_⟩
  rw [show address = _ from haddress]
  decide +kernel

end GarudaChain
