import Mathlib.Algebra.Order.Ring.Int
import Mathlib.Tactic.Common

/-!
# Amounts in the coins database

`CompressAmount` and `DecompressAmount` of `compressor.cpp`, on numbers of 64 bits.
-/

namespace GarudaChain

/-- The loop of `CompressAmount`: what is left of `n` and of the rounds when the last digit is not zero. -/
def dropZeros : Nat → Nat → Nat × Nat
  | 0, n => (n, 0)
  | left + 1, n => if n % 10 = 0 then dropZeros left (n / 10) else (n, left + 1)

def compressAmount (n : Nat) : Nat :=
  if n = 0 then 0
  else
    let (n, left) := dropZeros 9 n
    let e := 9 - left
    if e < 9 then
      let d := n % 10
      let n := n / 10
      (1 + (n * 9 + d - 1) * 10 + e) % 2 ^ 64
    else (1 + (n - 1) * 10 + 9) % 2 ^ 64

/-- The loop of `DecompressAmount`. -/
def appendZeros : Nat → Nat → Nat
  | 0, n => n
  | e + 1, n => appendZeros e (n * 10 % 2 ^ 64)

def decompressAmount (x : Nat) : Nat :=
  if x = 0 then 0
  else
    let x := x - 1
    let e := x % 10
    let x := x / 10
    appendZeros e ((if e < 9 then x / 9 * 10 + (x % 9 + 1) else x + 1) % 2 ^ 64)

end GarudaChain
