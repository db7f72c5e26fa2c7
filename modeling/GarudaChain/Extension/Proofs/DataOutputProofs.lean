import GarudaChain.Extension.Proofs.QuantumTxProofs
import GarudaChain.Node.Proofs.TemplateProofs

/-!
# Outputs with data
-/

namespace GarudaChain.Extension

/-- The script is `OP_RETURN` and one push of the data, and nothing else. -/
def CarriesData (script data : Bytes) : Prop :=
  ∃ rest opcode, getScriptOp script = some (opReturn, [], rest) ∧
    getScriptOp rest = some (opcode, data, []) ∧ opcode ≤ opPushData4

theorem length_le_of_getScriptOp {op opcode : UInt8} {data : Bytes}
    (h : getScriptOp (op :: data) = some (opcode, data, [])) : data.length ≤ 75 := by
  rw [getScriptOp] at h
  cases hsize : pushSize op data with
  | none =>
    rw [hsize] at h
    cases h
  | some sized =>
    obtain ⟨nSize, rest⟩ := sized
    rw [hsize] at h
    simp only at h
    split_ifs at h with hshort
    obtain ⟨-, htake, -⟩ : op = opcode ∧ rest.take nSize = data ∧ rest.drop nSize = [] := by
      simpa using h
    have hlength : data.length ≤ nSize ∧ data.length ≤ rest.length := by
      rw [← htake, List.length_take]
      omega
    rw [pushSize] at hsize
    split_ifs at hsize with hdirect h1 h1' h2 h2' h4 h4' <;>
      obtain ⟨rfl, rfl⟩ := Prod.mk.inj (Option.some.inj hsize)
    · have hop : op.toNat < 76 := UInt8.lt_iff_toNat_lt.mp hdirect
      omega
    · rw [List.length_drop] at hlength
      omega
    · rw [List.length_drop] at hlength
      omega
    · rw [List.length_drop] at hlength
      omega
    · omega

theorem carriesData_iff (data : Bytes) :
    CarriesData (0x6a :: UInt8.ofNat data.length :: data) data ↔ data.length ≤ 75 := by
  have hreturn : getScriptOp (0x6a :: UInt8.ofNat data.length :: data) =
      some (opReturn, [], UInt8.ofNat data.length :: data) := rfl
  constructor
  · rintro ⟨rest, opcode, hfirst, hpush, -⟩
    rw [hreturn] at hfirst
    obtain ⟨-, -, rfl⟩ : opReturn = opReturn ∧ ([] : Bytes) = [] ∧
        UInt8.ofNat data.length :: data = rest := by simpa using hfirst
    exact length_le_of_getScriptOp hpush
  · intro hle
    have hpush := @getScriptOp_pushData data [] (by omega)
    rw [List.append_nil] at hpush
    refine ⟨_, _, hreturn, hpush, ?_⟩
    rw [UInt8.le_iff_toNat_le, UInt8.toNat_ofNat']
    have hop : opPushData4.toNat = 78 := rfl
    omega

/-- A text is the data in hexadecimal digits. -/
structure HexText (text : List Char) (data : Bytes) : Prop where
  length_eq : text.length = 2 * data.length
  digits : ∀ c ∈ text, (hexDigit c).isSome = true
  parse_eq : parseHex text = data

theorem HexText.fromHex_eq {text : List Char} {data : Bytes} (h : HexText text data) :
    fromHex text = data := by
  obtain ⟨hparse, -⟩ := tryParseHex_eq_fromHex data.length text h.length_eq h.digits
  rw [← h.parse_eq, parseHex, hparse]
  rfl

theorem hexText_toHex (data : Bytes) : HexText (toHex data) data where
  length_eq := by
    induction data with
    | nil => rfl
    | cons b data ih =>
      obtain ⟨htwo, -⟩ := hexByte_spec b
      rw [toHex, List.flatMap_cons, htwo, List.length_append, ← toHex, ih, List.length_cons]
      simp only [List.length_cons, List.length_nil]
      omega
  digits := by
    intro c hc
    obtain ⟨b, -, hmem⟩ := List.mem_flatMap.mp hc
    obtain ⟨htwo, -, hhigh, hlow⟩ := hexByte_spec b
    rw [htwo] at hmem
    rcases List.mem_cons.mp hmem with rfl | hmem
    · rw [hhigh]
      rfl
    · rw [List.mem_singleton.mp hmem, hlow]
      rfl
  parse_eq := parseHex_toHex data

theorem digitChars_eq_hexByte : ∀ b : UInt8,
    [Nat.digitChar (b.toNat / 16), Nat.digitChar (b.toNat % 16)] = hexByte b :=
  Hex.forall_byte (by decide +kernel)

theorem hexText_memoHex (memo : String) : HexText (memoHex memo).toList memo.toUTF8.toList := by
  have htext : (memoHex memo).toList = toHex memo.toUTF8.toList := by
    rw [memoHex, String.toList_ofList, toHex]
    exact List.flatMap_congr fun b _ => digitChars_eq_hexByte b
  rw [htext]
  exact hexText_toHex _

def GivesData (o : TxOutput) (data : Bytes) : Prop :=
  (∃ text, o.opreturn = some text ∧ HexText text.toList data) ∨
    ∃ memo : String, o.opreturn = some (memoHex memo) ∧ memo.toUTF8.toList = data

theorem GivesData.outScript_eq {o : TxOutput} {data : Bytes} (h : GivesData o data)
    (script : List Char → Except String Bytes) :
    outScript script o = .ok (0x6a :: UInt8.ofNat data.length :: data) := by
  have htext : ∃ text, o.opreturn = some text ∧ HexText text.toList data := by
    rcases h with h | ⟨memo, hopreturn, rfl⟩
    · exact h
    · exact ⟨_, hopreturn, hexText_memoHex memo⟩
  obtain ⟨text, hopreturn, hhex⟩ := htext
  rw [outScript, hopreturn]
  simp only [hhex.fromHex_eq]

theorem mapM_ok_getElem? {α β : Type} {f : α → Except String β} {as : List α} {bs : List β}
    (h : as.mapM f = .ok bs) {i : Nat} {a : α} (ha : as[i]? = some a) :
    ∃ b, f a = .ok b ∧ bs[i]? = some b := by
  induction as generalizing bs i with
  | nil => cases ha
  | cons a' as ih =>
    rw [List.mapM_cons, Result.bind_ok_iff] at h
    obtain ⟨b, hb, h⟩ := h
    obtain ⟨bs', hbs', hcons⟩ := Result.bind_ok_iff.mp h
    obtain rfl : b :: bs' = bs := Except.ok.inj hcons
    cases i with
    | zero =>
      obtain rfl : a' = a := Option.some.inj ha
      exact ⟨b, hb, rfl⟩
    | succ i => exact ih hbs' ha

theorem buildTx_output {libs : WalletLibs} {script : TxOutput → Except String Bytes}
    {scriptCode : Bytes} {witness : Nat → Bytes → Except String (List Bytes)} {inputs : List UTXO}
    {outputs : List TxOutput} {raw : List Char}
    (h : buildTx libs script scriptCode witness inputs outputs = .ok raw) {i : Nat} {o : TxOutput}
    (ho : outputs[i]? = some o) {bytes : Bytes} (hscript : script o = .ok bytes) :
    ∃ encodedOutputs witnesses value, raw = toHex (rawTx inputs encodedOutputs witnesses) ∧
      encodedOutputs[i]? =
        some (writeLE64 value ++ writeVarInt bytes.length ++ bytes) := by
  rw [buildTx, Result.bind_ok_iff] at h
  obtain ⟨outScripts, hscripts, h⟩ := h
  obtain ⟨encodedOutputs, hencoded, h⟩ := Result.bind_ok_iff.mp h
  obtain ⟨witnesses, -, h⟩ := Result.bind_ok_iff.mp h
  obtain ⟨bytes', hscript', hget⟩ := mapM_ok_getElem? hscripts ho
  obtain rfl : bytes = bytes' := Except.ok.inj (hscript.symm.trans hscript')
  have hzip : (outputs.zip outScripts)[i]? = some (o, bytes) :=
    List.getElem?_zip_eq_some.mpr ⟨ho, hget⟩
  obtain ⟨encoded, hencode, hat⟩ := mapM_ok_getElem? hencoded hzip
  change encodeOutput o bytes = .ok encoded at hencode
  rw [encodeOutput, Result.bind_ok_iff] at hencode
  obtain ⟨value, -, hvalue⟩ := hencode
  obtain rfl := Except.ok.inj hvalue
  exact ⟨encodedOutputs, _, value, (Except.ok.inj h).symm, hat⟩

/-- Where the extension builds a transaction with an output for some data, the script of this output
    is read by the node as `OP_RETURN` and one push of the data exactly up to 75 bytes. -/
theorem dataOutput_carries_iff (libs : WalletLibs) (inputs : List UTXO) (outputs : List TxOutput)
    (secretKey publicKey : Bytes) (raw : List Char) (i : Nat) (o : TxOutput) (data : Bytes)
    (hbuilt : buildAndSignTx libs inputs outputs secretKey publicKey = .ok raw ∨
      buildAndSignQuantumTx libs inputs outputs secretKey publicKey = .ok raw)
    (ho : outputs[i]? = some o) (hdata : GivesData o data) :
    ∃ encodedOutputs witnesses value script,
      raw = toHex (rawTx inputs encodedOutputs witnesses) ∧
      encodedOutputs[i]? = some (writeLE64 value ++ writeVarInt script.length ++ script) ∧
      (CarriesData script data ↔ data.length ≤ 75) := by
  have hparts : ∃ encodedOutputs witnesses value, raw = toHex (rawTx inputs encodedOutputs witnesses) ∧
      encodedOutputs[i]? = some (writeLE64 value ++
        writeVarInt (0x6a :: UInt8.ofNat data.length :: data : Bytes).length ++
          (0x6a :: UInt8.ofNat data.length :: data)) := by
    rcases hbuilt with hbuilt | hbuilt
    · exact buildTx_output hbuilt ho (hdata.outScript_eq _)
    · exact buildTx_output hbuilt ho (hdata.outScript_eq _)
  obtain ⟨encodedOutputs, witnesses, value, hraw, hat⟩ := hparts
  exact ⟨encodedOutputs, witnesses, value, _, hraw, hat, carriesData_iff data⟩

def zeroOutput (n : Nat) : TxOutput :=
  { opreturn := some (String.ofList (toHex (List.replicate n 0))), value := 0 }

theorem givesData_zeroOutput (n : Nat) : GivesData (zeroOutput n) (List.replicate n 0) :=
  .inl ⟨_, rfl, by rw [String.toList_ofList]; exact hexText_toHex _⟩

theorem buildAndSignQuantumTx_zeroOutput (n : Nat) : ∃ raw,
    buildAndSignQuantumTx sampleLibs [sampleUtxo] [zeroOutput n] [] [] = .ok raw := by
  have hscripts : [zeroOutput n].mapM
      (outScript fun address => .ok (quantumAddressToScript address)) =
      .ok [0x6a :: UInt8.ofNat (List.replicate n (0 : UInt8)).length :: List.replicate n 0] := by
    rw [List.mapM_cons, (givesData_zeroOutput n).outScript_eq]
    rfl
  rw [buildAndSignQuantumTx, buildTx, hscripts]
  exact ⟨_, rfl⟩

theorem dataOutput_carries_sample : ∃ raw encodedOutputs witnesses value script,
    buildAndSignQuantumTx sampleLibs [sampleUtxo] [zeroOutput 75] [] [] = .ok raw ∧
      raw = toHex (rawTx [sampleUtxo] encodedOutputs witnesses) ∧
      encodedOutputs[0]? = some (writeLE64 value ++ writeVarInt script.length ++ script) ∧
      CarriesData script (List.replicate 75 0) := by
  obtain ⟨raw, hbuilt⟩ := buildAndSignQuantumTx_zeroOutput 75
  obtain ⟨encodedOutputs, witnesses, value, script, hraw, hat, hiff⟩ := dataOutput_carries_iff
    sampleLibs [sampleUtxo] [zeroOutput 75] [] [] raw 0 (zeroOutput 75) _ (.inr hbuilt) rfl
    (givesData_zeroOutput 75)
  exact ⟨raw, encodedOutputs, witnesses, value, script, hbuilt, hraw, hat,
    hiff.mpr (by rw [List.length_replicate])⟩

/-- With 76 bytes the length byte is `OP_PUSHDATA1`: an empty push and 75 more of them are read. -/
theorem dataOutput_misread :
    (∃ raw, buildAndSignQuantumTx sampleLibs [sampleUtxo] [zeroOutput 76] [] [] = .ok raw) ∧
      outScript (fun address => .ok (quantumAddressToScript address)) (zeroOutput 76) = .ok (0x6a :: 76 :: List.replicate 76 0) ∧
      getScriptOp (0x6a :: 76 :: List.replicate 76 0) = some (opReturn, [], 76 :: List.replicate 76 0) ∧
      getScriptOp (76 :: List.replicate 76 0) = some (opPushData1, [], List.replicate 75 0) ∧
      ¬ CarriesData (0x6a :: 76 :: List.replicate 76 0) (List.replicate 76 0) := by
  refine ⟨buildAndSignQuantumTx_zeroOutput 76, (givesData_zeroOutput 76).outScript_eq _, rfl, rfl, ?_⟩
  intro hcarries
  have hle := (carriesData_iff (List.replicate 76 0)).mp hcarries
  rw [List.length_replicate] at hle
  omega

end GarudaChain.Extension
