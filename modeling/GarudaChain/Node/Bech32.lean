import GarudaChain.Lib.Text

/-!
# Bech32 and Bech32m

`bech32.cpp` without the location of errors. A text is a list of characters and a vector of 5-bit values
a list of numbers.
-/

namespace GarudaChain.Bech32

def checksumSize : Nat := 6

inductive Encoding
  | invalid
  | bech32
  | bech32m
  deriving DecidableEq, Repr

/-- `CharLimit::BECH32`. -/
def charLimit : Nat := 90

/-- `CHARSET`. -/
def charset : List Char := "qpzry9x8gf2tvdw0s3jn54khce6mua7l".toList

/-- `CHARSET_REV`. -/
def charsetRev : List Int := [
  -1, -1, -1, -1, -1, -1, -1, -1, -1, -1, -1, -1, -1, -1, -1, -1,
  -1, -1, -1, -1, -1, -1, -1, -1, -1, -1, -1, -1, -1, -1, -1, -1,
  -1, -1, -1, -1, -1, -1, -1, -1, -1, -1, -1, -1, -1, -1, -1, -1,
  15, -1, 10, 17, 21, 20, 26, 30,  7,  5, -1, -1, -1, -1, -1, -1,
  -1, 29, -1, 24, 13, 25,  9,  8, 23, -1, 18, 22, 31, 27, 19, -1,
   1,  0,  3, 16, 11, 28, 12, 14,  6,  4,  2, -1, -1, -1, -1, -1,
  -1, 29, -1, 24, 13, 25,  9,  8, 23, -1, 18, 22, 31, 27, 19, -1,
   1,  0,  3, 16, 11, 28, 12, 14,  6,  4,  2, -1, -1, -1, -1, -1]

def encodingConstant (encoding : Encoding) : BitVec 32 :=
  if encoding = .bech32 then 1 else 0x2bc830a3

/-- `if (cond) c ^= k`. -/
def xorIf (cond : Bool) (k c : BitVec 32) : BitVec 32 := if cond then c ^^^ k else c

/-- One round of `PolyMod`. -/
def polyModStep (c v : BitVec 32) : BitVec 32 :=
  let c0 := c >>> 25
  let c := ((c &&& 0x1ffffff) <<< 5) ^^^ v
  let c := xorIf (c0.getLsbD 0) 0x3b6a57b2 c
  let c := xorIf (c0.getLsbD 1) 0x26508e6d c
  let c := xorIf (c0.getLsbD 2) 0x1ea119fa c
  let c := xorIf (c0.getLsbD 3) 0x3d4233dd c
  xorIf (c0.getLsbD 4) 0x2a1462b3 c

/-- The loop of `PolyMod` from a state on. -/
def polyModFrom (c : BitVec 32) (values : List Nat) : BitVec 32 :=
  values.foldl (fun c v => polyModStep c (BitVec.ofNat 32 v)) c

def polyMod (values : List Nat) : BitVec 32 := polyModFrom 1 values

def isLower (c : Char) : Bool := decide ('a' ≤ c) && decide (c ≤ 'z')

def isUpper (c : Char) : Bool := decide ('A' ≤ c) && decide (c ≤ 'Z')

def lowerCase (c : Char) : Char := if isUpper c then Char.ofNat (c.toNat - 65 + 97) else c

/-- The loop of `CheckCharacters`: the positions of invalid characters. -/
def checkCharactersLoop : List Char → Nat → Bool → Bool → List Nat
  | [], _, _, _ => []
  | c :: str, i, lower, upper =>
    if isLower c then
      if upper then i :: checkCharactersLoop str (i + 1) lower upper
      else checkCharactersLoop str (i + 1) true upper
    else if isUpper c then
      if lower then i :: checkCharactersLoop str (i + 1) lower upper
      else checkCharactersLoop str (i + 1) lower true
    else if c.toNat < 33 ∨ 126 < c.toNat then i :: checkCharactersLoop str (i + 1) lower upper
    else checkCharactersLoop str (i + 1) lower upper

def checkCharacters (str : List Char) : List Nat := checkCharactersLoop str 0 false false

def preparePolynomialCoefficients (hrp : List Char) (values : List Nat) : List Nat :=
  hrp.map (fun c => c.toNat >>> 5) ++ [0] ++ hrp.map (fun c => c.toNat &&& 0x1f) ++ values

def verifyChecksum (hrp : List Char) (values : List Nat) : Encoding :=
  let check := polyMod (preparePolynomialCoefficients hrp values)
  if check = encodingConstant .bech32 then .bech32
  else if check = encodingConstant .bech32m then .bech32m
  else .invalid

def createChecksum (encoding : Encoding) (hrp : List Char) (values : List Nat) : List Nat :=
  let enc := preparePolynomialCoefficients hrp values ++ List.replicate checksumSize 0
  let mod := polyMod enc ^^^ encodingConstant encoding
  (List.range checksumSize).map fun i => ((mod >>> (5 * (5 - i))) &&& 31).toNat

/-- `CHARSET[i]`. -/
def charOf (i : Nat) : Char := charset.getD i ' '

/-- `Encode`. -/
def encode (encoding : Encoding) (hrp : List Char) (values : List Nat) : List Char :=
  hrp ++ '1' :: (values ++ createChecksum encoding hrp values).map charOf

structure DecodeResult where
  encoding : Encoding
  hrp : List Char
  data : List Nat
  deriving DecidableEq

/-- The result of a failed decoding. -/
def DecodeResult.failed : DecodeResult := ⟨.invalid, [], []⟩

def readValues : List Char → Option (List Nat)
  | [] => some []
  | c :: str =>
    let rev := charsetRev.getD c.toNat (-1)
    if rev = -1 then none
    else
      match readValues str with
      | some values => some (rev.toNat :: values)
      | none => none

/-- `Decode`. -/
def decode (str : List Char) : DecodeResult :=
  if !(checkCharacters str).isEmpty then .failed
  else
    match Text.lastIndexOf '1' str with
    | none => .failed
    | some pos =>
      if str.length > charLimit ∨ pos = 0 ∨ pos + checksumSize ≥ str.length then .failed
      else
        match readValues (str.drop (pos + 1)) with
        | none => .failed
        | some values =>
          let hrp := (str.take pos).map lowerCase
          match verifyChecksum hrp values with
          | .invalid => .failed
          | result => ⟨result, hrp, values.take (values.length - checksumSize)⟩

end GarudaChain.Bech32
