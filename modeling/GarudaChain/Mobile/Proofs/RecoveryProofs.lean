import GarudaChain.Lib.Sha256
import GarudaChain.Mobile.Recovery

/-!
# Importing a recovery phrase

`validateMnemonic` looks at the words of a phrase in lower case, but the keys are derived from the text
itself, of which only the ends are trimmed.
-/

namespace GarudaChain.Mobile

/-- The phrase with these words as `generateMnemonic` writes it. -/
def spelled (words : List (List Char)) : List Char := [' '].intercalate words

section

variable {lc : LowerCase} {p q : List Char}

theorem validateMnemonic_iff : validateMnemonic lc p = true ↔ (phraseWords lc p).length = 24 ∧
    ∀ w ∈ phraseWords lc p, w ∈ WORDLIST.map String.toList := by
  by_cases hlength : (phraseWords lc p).length = 24
  · simp [validateMnemonic, hlength, List.all_eq_true]
  · simp [validateMnemonic, hlength]

theorem phraseWords_trim : phraseWords lc (Words.trim isWhite p) = phraseWords lc p := by
  rw [phraseWords, Words.trim_trim]
  rfl

theorem isValid_of_validateMnemonic (h : validateMnemonic lc p = true) : isValid lc p = true := by
  obtain ⟨hlength, -⟩ := validateMnemonic_iff.mp h
  have hcount : (Words.split isWhite (Words.trim isWhite p)).length = 24 := by
    rw [← hlength, phraseWords, Words.length_split_flatMap lc.white lc.other]
  have hne : Words.trim isWhite p ≠ [] := by
    intro hnil
    rw [hnil] at hcount
    cases hcount
  have htrim : validateMnemonic lc (Words.trim isWhite p) = true := by
    rw [validateMnemonic, phraseWords_trim]
    exact h
  simp [isValid, hne, hcount, htrim]

theorem exists_byte_of_word {w : List Char} (h : w ∈ WORDLIST.map String.toList) :
    ∃ b : UInt8, (WORDLIST.getD (b.toNat % 256) "").toList = w := by
  obtain ⟨word, hword, rfl⟩ := List.mem_map.mp h
  obtain ⟨i, hi, rfl⟩ := List.mem_iff_getElem.mp hword
  have hlength : WORDLIST.length = 256 := by decide +kernel
  refine ⟨UInt8.ofNat i, ?_⟩
  have hbyte : (UInt8.ofNat i).toNat % 256 = i := by
    rw [UInt8.toNat_ofNat']
    omega
  rw [hbyte, List.getD_eq_getElem?_getD, List.getElem?_eq_getElem hi, Option.getD_some]

theorem exists_generateMnemonic (h : validateMnemonic lc p = true) :
    ∃ entropy, generateMnemonic entropy = spelled (phraseWords lc p) := by
  obtain ⟨hlength, hwords⟩ := validateMnemonic_iff.mp h
  generalize phraseWords lc p = words at hlength hwords
  choose byte hbyte using fun i : Fin 24 => exists_byte_of_word (hwords (words.get (i.cast hlength.symm))
    (List.get_mem _ _))
  refine ⟨byte, congrArg ([' '].intercalate ·) ?_⟩
  refine List.ext_getElem (by simp [hlength]) fun i hi hi' => ?_
  simp only [List.getElem_map, List.getElem_ofFn]
  exact hbyte ⟨i, by omega⟩

end

theorem encodeText_inj {s t : List Char} (h : encodeText s = encodeText t) : s = t := by
  have hencode : s.utf8Encode = t.utf8Encode := congrArg List.toByteArray h
  rw [← String.toByteArray_ofList, ← String.toByteArray_ofList, String.toByteArray_inj] at hencode
  exact String.ofList_injective hencode

def Collision (sha256 : Bytes → Bytes) (bs bs' : Bytes) : Prop := bs ≠ bs' ∧ sha256 bs = sha256 bs'

section

variable {libs : KeyLibs} {lc : LowerCase} {p : List Char} {key : DerivedKey} {wallet : StoredWallet}

theorem privateKey_of_openWallet {mnemonic : List Char}
    (h : openWallet libs mnemonic = .ok (key, wallet)) :
    key.privateKey = libs.sha256 (encodeText mnemonic) := by
  obtain ⟨derived, hderive, h⟩ := Result.bind_ok_iff.mp h
  obtain ⟨pubKey, -, hderive⟩ := Result.bind_ok_iff.mp hderive
  cases hderive
  cases h
  rfl

theorem handleImport_eq (h : validateMnemonic lc p = true) : handleImport libs lc p =
    match openWallet libs (Words.trim isWhite p) with
    | .ok (key, wallet) => .imported key wallet
    | .error _ => .failed "Gagal mengimpor dompet. Periksa frasa pemulihan." := by
  rw [handleImport, isValid_of_validateMnemonic h]
  rfl

theorem openWallet_of_imported (h : validateMnemonic lc p = true)
    (himport : handleImport libs lc p = .imported key wallet) :
    openWallet libs (Words.trim isWhite p) = .ok (key, wallet) := by
  rw [handleImport_eq h] at himport
  split at himport
  · rename_i hopen
    cases himport
    exact hopen
  · cases himport

theorem handleOpen_eq_some {mnemonic : List Char} :
    handleOpen libs mnemonic = some (key, wallet) ↔ openWallet libs mnemonic = .ok (key, wallet) := by
  cases h : openWallet libs mnemonic <;> simp [handleOpen, h, Except.toOption]

end

/-- A phrase in the spelling of wallet creation is imported as the wallet that was created with it, so
    all such phrases with the same words give the same key and address. -/
theorem handleImport_created_iff (libs : KeyLibs) (lc : LowerCase) {p : List Char}
    (hp : validateMnemonic lc p = true) :
    (∃ entropy, generateMnemonic entropy = spelled (phraseWords lc p)) ∧
    (Words.trim isWhite p = spelled (phraseWords lc p) →
      (∀ key wallet, handleImport libs lc p = .imported key wallet ↔
        handleOpen libs (spelled (phraseWords lc p)) = some (key, wallet)) ∧
      ∀ q, validateMnemonic lc q = true → phraseWords lc q = phraseWords lc p →
        Words.trim isWhite q = spelled (phraseWords lc p) →
        handleImport libs lc q = handleImport libs lc p) ∧
    ∀ key wallet key' wallet', handleImport libs lc p = .imported key wallet →
      handleOpen libs (spelled (phraseWords lc p)) = some (key', wallet') →
      (key.privateKey = key'.privateKey ↔ Words.trim isWhite p = spelled (phraseWords lc p) ∨
        Collision libs.sha256 (encodeText (Words.trim isWhite p))
          (encodeText (spelled (phraseWords lc p)))) := by
  refine ⟨exists_generateMnemonic hp, fun hspelled => ⟨fun key wallet => ?_, fun q hq _ hqs => ?_⟩, ?_⟩
  · rw [handleOpen_eq_some, ← hspelled]
    refine ⟨openWallet_of_imported hp, fun hopen => ?_⟩
    rw [handleImport_eq hp, hopen]
  · rw [handleImport_eq hq, handleImport_eq hp, hqs, hspelled]
  · intro key wallet key' wallet' himport hcreated
    rw [privateKey_of_openWallet (openWallet_of_imported hp himport),
      privateKey_of_openWallet (handleOpen_eq_some.mp hcreated)]
    constructor
    · intro hkey
      by_cases htext : Words.trim isWhite p = spelled (phraseWords lc p)
      · exact .inl htext
      · exact .inr ⟨fun hbytes => htext (encodeText_inj hbytes), hkey⟩
    · rintro (htext | ⟨-, hkey⟩)
      · rw [htext]
      · exact hkey

theorem isWhite_letter {c : Char} (hlow : 65 ≤ c.toNat) (hhigh : c.toNat ≤ 122) :
    isWhite c = false := by
  simp [isWhite]
  omega

theorem toLower_cases (c : Char) : c.toLower = c ∨
    (65 ≤ c.toNat ∧ c.toNat ≤ 90) ∧ c.toLower.toNat = c.toNat + 32 := by
  unfold Char.toLower
  split
  · rename_i h
    have hrange : 65 ≤ c.toNat ∧ c.toNat ≤ 90 := h
    have hadd : (c.val + ('a'.val - 'A'.val)).toNat = c.toNat + 32 := by
      rw [UInt32.toNat_add]
      exact Nat.mod_eq_of_lt (show c.toNat + 32 < 2 ^ 32 by omega)
    exact .inr ⟨hrange, hadd⟩
  · exact .inl rfl

def asciiLower : LowerCase where
  lower c := [c.toLower]
  white c h := by
    rcases toLower_cases c with heq | ⟨⟨hlow, hhigh⟩, -⟩
    · rw [heq]
    · rw [isWhite_letter hlow (by omega)] at h
      cases h
  other c h := by
    refine ⟨List.cons_ne_nil _ _, List.forall_mem_singleton.mpr ?_⟩
    rcases toLower_cases c with heq | ⟨⟨hlow, hhigh⟩, hlower⟩
    · rw [heq]
      exact h
    · exact isWhite_letter (by omega) (by omega)

def samplePhrase : List Char := spelled (List.replicate 24 ['a', 'b', 'l', 'e'])

def capitalised : List Char := 'A' :: samplePhrase.tail

def sampleLibs : KeyLibs where
  sha256 := Sha256.sha256
  ripemd160 bs :=
    if bs.head? = some 0x17 then
      [0xb1, 0x1e, 0x09, 0x2c, 0x1c, 0x43, 0x0a, 0x88, 0xeb, 0x50, 0xda, 0x04, 0x8a, 0x27, 0x94, 0x8d,
       0x52, 0xe3, 0x19, 0x02]
    else
      [0x81, 0x6e, 0x45, 0xc6, 0x30, 0x08, 0x2f, 0x6c, 0xb0, 0x2b, 0x9f, 0x50, 0xef, 0xdf, 0xa0, 0x5d,
       0x53, 0xee, 0xfe, 0xf4]
  signDer _ _ _ := .error "sig.toDERRawBytes is not a function"
  mlDsa87Sign _ _ _ := []
  getPublicKey privKey := .ok (
    if privKey.head? = some 0x4f then
      [0x03, 0xba, 0x20, 0x0f, 0xd0, 0xcb, 0x12, 0x28, 0x51, 0xdd, 0xba, 0x7a, 0x42, 0xba, 0x6f, 0x67,
       0x91, 0x39, 0xc3, 0x48, 0x8b, 0x87, 0x2f, 0x7d, 0xe9, 0x24, 0xc5, 0x1c, 0x9f, 0x75, 0xaa, 0xec,
       0x66]
    else
      [0x02, 0x79, 0x7a, 0x5d, 0x18, 0xd4, 0x72, 0x25, 0xb8, 0x34, 0xd2, 0x80, 0xe0, 0x0b, 0xbf, 0x78,
       0x60, 0xab, 0x45, 0x2c, 0x1d, 0xd0, 0xeb, 0x5e, 0xee, 0xb7, 0x39, 0xf4, 0x30, 0x75, 0x3c, 0xe8,
       0xf9])
  mlDsa87Keygen _ := ([], [])

theorem samplePhrases_valid : validateMnemonic asciiLower samplePhrase = true ∧
    validateMnemonic asciiLower capitalised = true ∧
    phraseWords asciiLower capitalised = phraseWords asciiLower samplePhrase ∧
    Words.trim isWhite samplePhrase = spelled (phraseWords asciiLower samplePhrase) := by
  decide +kernel

theorem handleImport_created_sample : validateMnemonic asciiLower samplePhrase = true ∧
    ∀ key wallet, handleImport sampleLibs asciiLower samplePhrase = .imported key wallet ↔
      handleOpen sampleLibs (spelled (phraseWords asciiLower samplePhrase)) = some (key, wallet) := by
  obtain ⟨hvalid, -, -, hspelled⟩ := samplePhrases_valid
  exact ⟨hvalid, ((handleImport_created_iff sampleLibs asciiLower hvalid).2.1 hspelled).1⟩

def ImportResult.address : ImportResult → Option (List Char)
  | .imported key _ => some key.address
  | _ => none

/-- A capital letter at the beginning gives another wallet. -/
theorem handleImport_capitalised : validateMnemonic asciiLower samplePhrase = true ∧
    validateMnemonic asciiLower capitalised = true ∧
    phraseWords asciiLower capitalised = phraseWords asciiLower samplePhrase ∧
    (handleImport sampleLibs asciiLower samplePhrase).address =
      some "grd1qky0qjtqugv9g366smgzg5fu534fwxxgzwcnyyu".toList ∧
    (handleImport sampleLibs asciiLower capitalised).address =
      some "grd1qs9hyt33spqhkevptnagwlhaqt4f7alh57f4gm2".toList := by
  obtain ⟨hvalid, hvalid', hwords, -⟩ := samplePhrases_valid
  have haddresses : (handleImport sampleLibs asciiLower samplePhrase).address =
        some "grd1qky0qjtqugv9g366smgzg5fu534fwxxgzwcnyyu".toList ∧
      (handleImport sampleLibs asciiLower capitalised).address =
        some "grd1qs9hyt33spqhkevptnagwlhaqt4f7alh57f4gm2".toList := by decide +kernel
  exact ⟨hvalid, hvalid', hwords, haddresses⟩

end GarudaChain.Mobile
