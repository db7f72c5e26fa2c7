import Mathlib.Data.List.Basic
import Mathlib.Tactic.Common

/-!
# Hexadecimal text

Encoding of bytes as lower case hexadecimal digits, decoding of digits of either case, and that decoding
reads back what was encoded.
-/

namespace Hex

inductive DecodeError
  | invalidByte (b : UInt8)
  | oddLength
  deriving DecidableEq

/-- The digit of a value below 16. -/
def digit (n : UInt8) : UInt8 := if n < 10 then 48 + n else 87 + n

/-- The value of a digit. -/
def value (b : UInt8) : Option UInt8 :=
  if 48 ≤ b ∧ b ≤ 57 then some (b - 48)
  else if 97 ≤ b ∧ b ≤ 102 then some (b - 87)
  else if 65 ≤ b ∧ b ≤ 70 then some (b - 55)
  else none

def encode (bytes : List UInt8) : List UInt8 :=
  bytes.flatMap fun b => [digit (b / 16), digit (b % 16)]

def decode : List UInt8 → Except DecodeError (List UInt8)
  | [] => .ok []
  | [b] => if (value b).isNone then .error (.invalidByte b) else .error .oddLength
  | b :: b' :: rest =>
    match value b, value b' with
    | none, _ => .error (.invalidByte b)
    | some _, none => .error (.invalidByte b')
    | some hi, some lo =>
      match decode rest with
      | .ok bytes => .ok ((hi * 16 + lo) :: bytes)
      | .error e => .error e

theorem forall_byte {P : UInt8 → Prop} (h : ∀ n : Fin 256, P (UInt8.ofNat n)) (b : UInt8) : P b := by
  simpa using h ⟨b.toNat, b.toNat_lt⟩

theorem value_digits : ∀ b : UInt8,
    value (digit (b / 16)) = some (b / 16) ∧ value (digit (b % 16)) = some (b % 16) ∧
      b / 16 * 16 + b % 16 = b :=
  forall_byte (by decide +kernel)

theorem decode_encode (bytes : List UInt8) : decode (encode bytes) = .ok bytes := by
  induction bytes with
  | nil => rfl
  | cons b bytes ih =>
    obtain ⟨hhi, hlo, hb⟩ := value_digits b
    change decode (digit (b / 16) :: digit (b % 16) :: encode bytes) = _
    simp only [decode, hhi, hlo, ih, hb]

theorem encode_injective : Function.Injective encode := by
  intro a b h
  have hdecode := congrArg decode h
  rw [decode_encode, decode_encode] at hdecode
  exact Except.ok.inj hdecode

end Hex
