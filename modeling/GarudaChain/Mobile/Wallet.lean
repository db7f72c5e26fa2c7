import GarudaChain.Extension.Transaction

/-!
# Addresses in the mobile wallet

`utils/wallet-crypto.ts` reads an address like `crypto/wallet.ts` of the extension and has the same
`CHARSET` and `convertBits`, but takes the witness version from the address.
-/

namespace GarudaChain.Mobile

open Extension (dataPart indexOfChar convertBits toUint8)

/-- `addressToWitnessVersionAndProgram`; the version of an address without data is `undefined`. -/
def addressToWitnessVersionAndProgram (address : List Char) : Except String (Option Int × Bytes) :=
  let data := (dataPart address).map indexOfChar
  if data.any (· < 0) then .error "Invalid bech32 char"
  else .ok (data.head?, (convertBits (data.tail.map toUint8) 5 8 false).map UInt8.ofNat)

def addressToScript (address : List Char) : Except String Bytes := do
  let (version, program) ← addressToWitnessVersionAndProgram address
  let versionByte : Int := match version with
    | none => 0 -- `0x50 + undefined`
    | some version => if version = 0 then 0x00 else 0x50 + version
  return toUint8 versionByte :: UInt8.ofNat program.length :: program

end GarudaChain.Mobile
