import GarudaChain.Api.KeyProvider

/-!
# Key rotation

A fetch that was issued before an invalidation can be stored after it, and from then on every call
returns the old key.
-/

namespace GarudaChain.Api

namespace VaultKeyProvider

def StoresFresh (_ : Nat) (s : VaultState) (t : VaultCaller) (_ : VaultInput) : Prop :=
  match t with
  | .fetched _ key => key.issued = s.invalidations
  | _ => True

instance (i : Nat) (s : VaultState) (t : VaultCaller) (e : VaultInput) :
    Decidable (StoresFresh i s t e) :=
  match t with
  | .fetched _ key => inferInstanceAs (Decidable (key.issued = s.invalidations))
  | .idle | .missed _ | .fetching _ _ => .isTrue trivial

/-- The cached key was fetched since the last invalidation, and so was each key that was returned
    since its call started. -/
structure CacheFresh (s : VaultState) : Prop where
  cached : ∀ key, s.cache = some key → key.issued = s.invalidations
  returned : ∀ r ∈ s.returned, r.started ≤ r.issued

/-- The steps of a call come one after the other. -/
def CallOrdered (_ : Nat) (s : VaultState) : VaultCaller → Prop
  | .idle => True
  | .missed started => started ≤ s.invalidations
  | .fetching started issued => started ≤ issued ∧ issued ≤ s.invalidations
  | .fetched started key => started ≤ key.issued ∧ key.issued ≤ s.invalidations

variable {v : VaultKeyProvider} {s : VaultState}

theorem CallOrdered.mono {s' : VaultState} (h : s.invalidations ≤ s'.invalidations) (i : Nat)
    {t : VaultCaller} (ht : CallOrdered i s t) : CallOrdered i s' t := by
  cases t with
  | idle => trivial
  | missed started => exact le_trans ht h
  | fetching started issued => exact ⟨ht.1, le_trans ht.2 h⟩
  | fetched started key => exact ⟨ht.1, le_trans ht.2 h⟩

theorem invalidations_le_act (i : Nat) (t : VaultCaller) (e : VaultInput) :
    s.invalidations ≤ (v.act i s t e).1.invalidations := by
  fun_cases act <;> simp

theorem CacheFresh.append (h : CacheFresh s) {cache : Option FetchedKey} {r : ReturnedKey}
    (hcache : ∀ key, cache = some key → key.issued = s.invalidations)
    (hr : r.started ≤ r.issued) :
    CacheFresh { s with cache := cache, returned := s.returned ++ [r] } where
  cached := hcache
  returned r' hr' := by
    rcases List.mem_append.mp hr' with hold | hnew
    · exact h.returned r' hold
    · rw [List.mem_singleton.mp hnew]
      exact hr

theorem CacheFresh.act (h : CacheFresh s) (i : Nat) {t : VaultCaller} (ht : CallOrdered i s t)
    (e : VaultInput) (hstore : StoresFresh i s t e) :
    CacheFresh (v.act i s t e).1 ∧ CallOrdered i (v.act i s t e).1 (v.act i s t e).2 := by
  cases t with
  | idle =>
    cases e with
    | getMasterKey =>
      dsimp only [VaultKeyProvider.act]
      cases hcache : s.cache with
      | none => exact ⟨h, le_refl _⟩
      | some cached =>
        -- the call starts and ends here
        have hcached := h.cached cached hcache
        exact ⟨h.append (by simpa [hcache] using hcached) hcached.ge, trivial⟩
    | invalidateVaultCache => exact ⟨⟨by rintro key ⟨⟩, h.returned⟩, trivial⟩
    | answer a => exact ⟨h, trivial⟩
  | missed started => exact ⟨h, ht, le_refl _⟩
  | fetching started issued =>
    cases e with
    | getMasterKey => exact ⟨h, ht⟩
    | invalidateVaultCache => exact ⟨h, ht⟩
    | answer a =>
      dsimp only [VaultKeyProvider.act]
      cases v.decodeKey a with
      | error err => exact ⟨h, trivial⟩
      | ok key => exact ⟨h, ht⟩
  | fetched started key =>
    refine ⟨h.append ?_ ht.1, trivial⟩
    rintro _ ⟨⟩
    exact hstore

/-- In every run of any number of callers in which no key is stored whose fetch was issued before an
    invalidation that has returned, every key returned by a call was fetched after the invalidations
    that had returned when the call started. -/
theorem vaultRun_returnsFresh (v : VaultKeyProvider) (steps : List (Nat × VaultInput))
    (hstore : Run.Along (Threads.step v.act) (Threads.On StoresFresh) VaultState.start steps) :
    ∀ r ∈ (Run.run (Threads.step v.act) VaultState.start steps).shared.returned,
      r.started ≤ r.issued := by
  have hinv : Threads.Inv CacheFresh CallOrdered
      (Run.run (Threads.step v.act) VaultState.start steps) := by
    refine hstore.inv ?_ ⟨⟨by rintro key ⟨⟩, by rintro r ⟨⟩⟩, fun _ => trivial⟩
    intro c x hc hx
    refine hc.step x (hc.shared.act x.1 (hc.threads x.1) x.2 hx) ?_
    intro j t _ ht
    exact ht.mono (invalidations_le_act x.1 (c.threads x.1) x.2) j
  exact hinv.shared.returned

def vaultBody (key : Bytes) : GoString :=
  [123, 34, 100, 97, 116, 97, 34, 58, 123, 34, 100, 97, 116, 97, 34, 58, 123, 34, 109, 97, 115, 116,
    101, 114, 95, 107, 101, 121, 34, 58, 34] ++ Hex.encode key ++ [34, 125, 125, 125]

def sampleProvider : VaultKeyProvider where
  field := [109, 97, 115, 116, 101, 114, 95, 107, 101, 121]
  unmarshalKV body := .ok [([109, 97, 115, 116, 101, 114, 95, 107, 101, 121],
    (body.drop 31).take 64)]
  trimSpace s := s

/-- Vault answers with a key of one byte repeated. -/
def keyAnswer (b : UInt8) : VaultInput := .answer (.response 200 (vaultBody (List.replicate 32 b)))

def rotation : List (Nat × VaultInput) :=
  [(0, .getMasterKey), (0, .getMasterKey), (0, keyAnswer 1), (0, .getMasterKey),
    (1, .invalidateVaultCache),
    (0, .getMasterKey), (0, .getMasterKey), (0, keyAnswer 2), (0, .getMasterKey)]

theorem vaultRun_returnsFresh_sample :
    (Run.run (Threads.step sampleProvider.act) VaultState.start rotation).shared.returned =
        [⟨⟨List.replicate 32 1, 0⟩, 0⟩, ⟨⟨List.replicate 32 2, 1⟩, 1⟩] ∧
      ∀ r ∈ (Run.run (Threads.step sampleProvider.act) VaultState.start rotation).shared.returned,
        r.started ≤ r.issued :=
  ⟨by decide, vaultRun_returnsFresh sampleProvider rotation (by decide)⟩

/-- A fetch under way at the invalidation is stored after it: a call that starts later returns the
    key from before. -/
theorem vaultRun_returnsStale :
    ∃ r ∈ (Run.run (Threads.step sampleProvider.act) VaultState.start
        [(0, .getMasterKey), (0, .getMasterKey), (0, keyAnswer 1), (1, .invalidateVaultCache),
          (0, .getMasterKey), (1, .getMasterKey)]).shared.returned,
      r.key = List.replicate 32 1 ∧ r.issued = 0 ∧ r.started = 1 :=
  ⟨⟨⟨List.replicate 32 1, 0⟩, 1⟩, by decide, rfl, rfl, rfl⟩

end VaultKeyProvider

end GarudaChain.Api
