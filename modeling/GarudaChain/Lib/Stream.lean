import Mathlib.Data.List.Basic
import Mathlib.Tactic.Common

/-!
# Decoding from a stream

A stream hands out its bytes in chunks, each of them once.
-/

namespace Stream

variable {ε P : Type}

/-- A decoder of values `P`. It may leave a value behind even where it fails. -/
structure Decoder (ε P : Type) where
  /-- The verdict on the bytes read so far, or `none` if more of them are needed. -/
  scan : List UInt8 → Option (P × Option ε)
  finish : List UInt8 → P × Option ε
  zero : P
  scan_nil : scan [] = none

/-- Decode from the chunks of a stream that ends or fails after them; the result comes with the
    chunks that are left. -/
def Decoder.decode (d : Decoder ε P) (failure : Option ε) :
    List (List UInt8) → List UInt8 → (P × Option ε) × List (List UInt8)
  | [], read =>
    match d.scan read, failure with
    | some verdict, _ => (verdict, [])
    | none, none => (d.finish read, [])
    | none, some e => ((d.zero, some e), [])
  | chunk :: chunks, read =>
    match d.scan read with
    | some verdict => (verdict, chunk :: chunks)
    | none => d.decode failure chunks (read ++ chunk)

variable (d : Decoder ε P) (failure : Option ε)

theorem decode_suffix (chunks : List (List UInt8)) (read : List UInt8) :
    (d.decode failure chunks read).2 <:+ chunks := by
  induction chunks generalizing read with
  | nil =>
    unfold Decoder.decode
    split <;> exact List.suffix_rfl
  | cons chunk chunks ih =>
    unfold Decoder.decode
    split
    · exact List.suffix_rfl
    · exact (ih _).trans (List.suffix_cons chunk chunks)

theorem decode_cons_suffix (chunk : List UInt8) (chunks : List (List UInt8)) :
    (d.decode failure (chunk :: chunks) []).2 <:+ chunks := by
  unfold Decoder.decode
  rw [d.scan_nil]
  exact decode_suffix d failure chunks _

theorem unread_ne {chunks : List (List UInt8)} (hne : ∀ chunk ∈ chunks, chunk ≠ [])
    (hbody : chunks ≠ []) : (d.decode failure chunks []).2.flatten ≠ chunks.flatten := by
  cases chunks with
  | nil => exact absurd rfl hbody
  | cons chunk chunks =>
    obtain ⟨before, hbefore⟩ := decode_cons_suffix d failure chunk chunks
    intro heq
    have hlength : chunk.length ≠ 0 := by simpa using hne chunk List.mem_cons_self
    have hchunks := congrArg (fun l => l.flatten.length) hbefore
    have hsame := congrArg List.length heq
    simp only [List.flatten_append, List.flatten_cons, List.length_append] at hchunks hsame
    omega

end Stream
