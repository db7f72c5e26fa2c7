import GarudaChain.Api.AdminSig
import GarudaChain.Lib.Threads

/-!
# The master key from Vault

`VaultKeyProvider` of `key_provider.go`.
-/

namespace GarudaChain.Api

def masterKeyLen : Nat := 32

/-- What `client.Do` and `io.ReadAll` bring. -/
inductive VaultAnswer
  | failed (err : String)
  | response (status : Nat) (body : GoString)

/-- The errors of a fetch. -/
inductive VaultError
  | get (err : String)
  | status (status : Nat) (body : GoString)
  | parse (err : String)
  | missingField
  /-- Says "vault field %q: must be 64 hex chars (32 bytes), got len=%d". -/
  | badKey (rawLength : Nat)
  deriving DecidableEq

/-- The provider's field, and the library functions it uses: the fields in the answer's JSON, and
    `strings.TrimSpace`. -/
structure VaultKeyProvider where
  field : GoString
  unmarshalKV : GoString → Except String (List (GoString × GoString))
  trimSpace : GoString → GoString

/-- The key in an answer. -/
def VaultKeyProvider.decodeKey (v : VaultKeyProvider) : VaultAnswer → Except VaultError Bytes
  | .failed err => .error (.get err)
  | .response status body =>
    if status ≠ 200 then .error (.status status body)
    else
      match v.unmarshalKV body with
      | .error err => .error (.parse err)
      | .ok kv =>
        match kv.lookup v.field with
        | none => .error .missingField
        | some raw =>
          match Hex.decode (v.trimSpace raw) with
          | .error _ => .error (.badKey raw.length)
          | .ok key => if key.length ≠ masterKeyLen then .error (.badKey raw.length) else .ok key

structure FetchedKey where
  key : Bytes
  issued : Nat
  deriving DecidableEq

/-- A key that `GetMasterKey` returned, with the number of invalidations that had returned when the
    call started. -/
structure ReturnedKey extends FetchedKey where
  started : Nat
  deriving DecidableEq

structure VaultState where
  cache : Option FetchedKey
  invalidations : Nat
  returned : List ReturnedKey
  deriving DecidableEq

/-- Where a caller of `GetMasterKey` is. -/
inductive VaultCaller
  | idle
  | missed (started : Nat)
  | fetching (started issued : Nat)
  | fetched (started : Nat) (key : FetchedKey)
  deriving DecidableEq

/-- Which function a caller between calls is to call, or the answer that one in a call gets. -/
inductive VaultInput
  | getMasterKey
  | invalidateVaultCache
  | answer (a : VaultAnswer)

namespace VaultKeyProvider

/-- One step of a caller: what it does under the lock, or the sending or the answer of its fetch. -/
def act (v : VaultKeyProvider) (_ : Nat) (s : VaultState) :
    VaultCaller → VaultInput → VaultState × VaultCaller
  | .idle, .getMasterKey =>
    match s.cache with
    | some cached =>
      ({ s with returned := s.returned ++ [⟨cached, s.invalidations⟩] }, .idle)
    | none => (s, .missed s.invalidations)
  | .idle, .invalidateVaultCache =>
    ({ s with cache := none, invalidations := s.invalidations + 1 }, .idle)
  | .idle, .answer _ => (s, .idle)
  | .missed started, _ => (s, .fetching started s.invalidations)
  | .fetching started issued, .answer a =>
    match v.decodeKey a with
    | .ok key => (s, .fetched started ⟨key, issued⟩)
    | .error _ => (s, .idle)
  | .fetching started issued, _ => (s, .fetching started issued)
  | .fetched started key, _ =>
    ({ s with cache := some key, returned := s.returned ++ [⟨key, started⟩] }, .idle)

end VaultKeyProvider

/-- A new provider with no call under way. -/
def VaultState.start : Threads.Config VaultState VaultCaller := ⟨⟨none, 0, []⟩, fun _ => .idle⟩

end GarudaChain.Api
