import GarudaChain.Lib.Threads
import GarudaChain.Node.Assets

/-!
# The target test of the GPU miner

`bits_to_target` and `mine_kernel` of `garuda-gpu-miner.cu`. The threads of a launch share `d_found` and
`d_found_nonce`; the digest of a header is a parameter.
-/

namespace GarudaChain.GpuMiner

/-- The number that the hexadecimal digits at the start of a text make up. -/
def hexValue : List Char → Nat → Nat
  | [], acc => acc
  | c :: cs, acc =>
    match hexDigit c with
    | some d => hexValue cs (acc * 16 + d)
    | none => acc

/-- The `0x` that `strtoul` allows before the digits. -/
def skipBase : List Char → List Char
  | '0' :: x :: d :: cs => if (x = 'x' ∨ x = 'X') ∧ (hexDigit d).isSome then d :: cs else '0' :: x :: d :: cs
  | cs => cs

def strtoul (s : List Char) : Nat :=
  let (negative, cs) := readSign (s.dropWhile isSpace)
  let n := hexValue (skipBase cs) 0
  if n ≥ 2 ^ 64 then 2 ^ 64 - 1 else if negative then (2 ^ 64 - n) % 2 ^ 64 else n

def byteOf (n : Nat) : UInt8 := UInt8.ofNat (n % 256)

def bitsToTarget (bitsHex : List Char) : Bytes :=
  let bits := strtoul bitsHex % 2 ^ 32
  let exp : Nat := bits / 2 ^ 24
  let mant := bits % 2 ^ 24
  let target := List.replicate 32 0
  if exp ≤ 3 then
    let mant := mant / 2 ^ (8 * (3 - exp))
    ((target.set 31 (byteOf mant)).set 30 (byteOf (mant / 2 ^ 8))).set 29 (byteOf (mant / 2 ^ 16))
  else
    let off : Int := 32 - (exp : Int)
    if 0 ≤ off ∧ off < 30 then
      ((target.set off.toNat (byteOf (mant / 2 ^ 16))).set (off.toNat + 1) (byteOf (mant / 2 ^ 8))).set
        (off.toNat + 2) (byteOf mant)
    else target

structure Found where
  found : Bool
  foundNonce : Nat
  deriving DecidableEq

structure Launch where
  headerBase : Bytes
  target32 : Bytes
  startNonce : Nat
  noncesPerThread : Nat

/-- A thread is at the start of a round, or about to write one of the two variables. -/
inductive KernelThread
  | round (i : Nat)
  | winner (nonce : Nat)
  | stored
  | returned
  deriving DecidableEq

/-- The nonce of a round, in `uint32_t`. -/
def Launch.nonce (k : Launch) (tid i : Nat) : Nat :=
  ((k.startNonce + tid * k.noncesPerThread) % 2 ^ 32 + i) % 2 ^ 32

def Launch.header (k : Launch) (nonce : Nat) : Bytes := k.headerBase.take 76 ++ writeLE 4 nonce

/-- The loop over the bytes of the hash and of the target. -/
def bytesBelow : List (UInt8 × UInt8) → Bool
  | [] => false
  | (h, t) :: rest => if h < t then true else if h > t then false else bytesBelow rest

/-- `valid`: the hash is read from its last byte on, the target from its first. -/
def hashBelow (hash target32 : Bytes) : Bool :=
  bytesBelow ((List.range 32).map fun k => (hash.getD (31 - k) 0, target32.getD k 0))

/-- One step of a thread of `mine_kernel`; each of the two atomic writes is a step of its own. -/
def mineKernel (sha3 : Bytes → Bytes) (k : Launch) (tid : Nat) (s : Found) :
    KernelThread → Unit → Found × KernelThread
  | .round i, _ =>
    if i < k.noncesPerThread then
      if s.found then (s, .returned)
      else if hashBelow (sha3 (k.header (k.nonce tid i))) k.target32 then (s, .winner (k.nonce tid i))
      else (s, .round (i + 1))
    else (s, .returned)
  | .winner nonce, _ => ({ s with foundNonce := nonce }, .stored)
  | .stored, _ => ({ s with found := true }, .returned)
  | .returned, _ => (s, .returned)

/-- The host resets `d_found` before a launch. -/
def Launch.start (oldNonce : Nat) : Threads.Config Found KernelThread :=
  ⟨⟨false, oldNonce⟩, fun _ => .round 0⟩

end GarudaChain.GpuMiner
