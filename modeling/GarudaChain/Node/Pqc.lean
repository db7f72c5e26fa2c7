import GarudaChain.Lib.BitGroups
import GarudaChain.Node.Bech32
import GarudaChain.Node.Cbdc

/-!
# Quantum-safe addresses

The address of an ML-DSA-87 public key in `rpc/pqc.cpp`, which has its own conversion of bits beside
that of `key_io.cpp` and writes one prefix for all chains.
-/

namespace GarudaChain

/-- `ConvertBits8to5`; the accumulator is an `int`. -/
def convertBits8to5 (data : Bytes) : List Nat :=
  let (out, acc, bits) := BitGroups.convertSigned (w := 32) 8 5 (data.map UInt8.toNat) 0 0
  if bits > 0 then out ++ [(acc <<< (5 - bits) &&& 31).toNat] else out

def pubkeyToP2PQH (crypto : Crypto) (pubkey : Bytes) : List Char :=
  let program := crypto.sha256 pubkey
  let words := convertBits8to5 program
  Bech32.encode .bech32m ['g', 'r', 'd'] (2 :: words)

end GarudaChain
