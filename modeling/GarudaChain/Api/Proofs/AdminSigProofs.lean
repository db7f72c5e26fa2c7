import GarudaChain.Api.AdminSig

/-!
# What the admin signature covers

The handlers decode the body before they check the signature, so the signature is checked against what
the decoder has left unread.
-/

namespace GarudaChain.Api

variable {h : AdminHandler} {unread : List Bytes}

section

variable {P : Type} {crypto : ApiCrypto} {cfg : SecurityConfig} {adminKey : P → GoString}
  {decoder : Stream.Decoder String P} {s : AdminState} {r : Request} {now : Int}

theorem sig_of_verified (h : verifyAdminSig crypto cfg r unread true = .ok ()) :
    ∃ digits, r.sig = adminSigStart ++ digits ∧
      Hex.decode digits = .ok (adminMac crypto cfg.adminKey r unread.flatten) := by
  unfold verifyAdminSig at h
  split at h
  · cases h
  · split at h
    · simp [Result.failIf] at h
    · obtain ⟨_, hstart, h⟩ := Result.bind_ok_iff.mp h
      obtain ⟨digits, hdigits⟩ :=
        List.isPrefixOf_iff_prefix.mp ((Result.require_eq_ok _ _ _).mp hstart)
      split at h
      · cases h
      · rename_i provided hprovided
        have hmac := (Result.require_eq_ok _ _ _).mp h
        refine ⟨digits, hdigits.symm, ?_⟩
        rw [← hdigits, List.drop_left] at hprovided
        rw [hprovided, eq_of_beq hmac]

theorem adminMac_injective (hsha : Function.Injective crypto.sha256)
    (hhmac : ∀ key, Function.Injective (crypto.hmac key)) (key : GoString) :
    Function.Injective (adminMac crypto key r) := by
  intro body body' h
  have hcanonical := hhmac key h
  simp only [buildAdminSigCanonical, canonicalString, List.append_cancel_left_eq,
    List.append_cancel_right_eq] at hcanonical
  exact hsha (Hex.encode_injective hcanonical)

theorem verify_computed_ne {body : Bytes}
    (hsha : Function.Injective crypto.sha256)
    (hhmac : ∀ key, Function.Injective (crypto.hmac key))
    (hsig : r.sig =
      computeAdminSig crypto r.method r.path r.nonce r.timestamp cfg.adminKey body)
    (hne : unread.flatten ≠ body) :
    ∃ err, verifyAdminSig crypto cfg r unread true = .error err := by
  cases hverified : verifyAdminSig crypto cfg r unread true with
  | error err => exact ⟨err, rfl⟩
  | ok u =>
    obtain ⟨digits, hdigits, hdecode⟩ := sig_of_verified hverified
    have hsame : digits = Hex.encode (adminMac crypto cfg.adminKey r body) :=
      List.append_cancel_left (hdigits.symm.trans hsig)
    rw [hsame, Hex.decode_encode] at hdecode
    exact absurd (adminMac_injective hsha hhmac _ (Except.ok.inj hdecode)).symm hne

theorem requireAdmin_of_passes {key : GoString}
    (h : PassesGuards cfg s r now) :
    (requireAdmin crypto cfg s r unread key now).1 =
      match verifyAdminSig crypto cfg r unread (adminHMACRequired cfg) with
      | .error err => .error (.signature err)
      | .ok () => if checkAdminKey cfg key then .ok () else .error .unauthorized := by
  obtain ⟨hbreaker, hallow, hreplay⟩ := h
  rcases hlimit : s.adminRateLimit.allow r.clientIP now with ⟨allowed, limiter⟩
  rcases hcheck : checkAdminReplay s.adminNonceCache r.nonce r.tsUnix cfg.strictMode now with
    ⟨verdict, nonces⟩
  rw [hlimit] at hallow
  rw [hcheck] at hreplay
  obtain rfl : allowed = true := hallow
  obtain rfl : verdict = .ok () := hreplay
  cases hverify : verifyAdminSig crypto cfg r unread (adminHMACRequired cfg) with
  | error err => simp [requireAdmin, hbreaker, hlimit, hcheck, hverify]
  | ok u =>
    cases hkey : checkAdminKey cfg key with
    | true => simp [requireAdmin, hbreaker, hlimit, hcheck, hverify, hkey]
    | false => simp [requireAdmin, hbreaker, hlimit, hcheck, hverify, hkey]

theorem passes_of_requireAdmin {key : GoString}
    (h : (requireAdmin crypto cfg s r unread key now).1 = .ok () ∨
      ∃ err, (requireAdmin crypto cfg s r unread key now).1 = .error (.signature err)) :
    PassesGuards cfg s r now := by
  unfold requireAdmin at h
  split at h
  · simp at h
  · rename_i hbreaker
    split at h
    · simp at h
    · rename_i hallow
      split at h
      · simp at h
      · rename_i hreplay
        exact ⟨by simpa using hbreaker, by rw [hallow], by rw [hreplay]⟩

theorem startHandler_eq (hpost : r.method = goString "POST")
    (hbody : BodyAccepted decoder r h) :
    (startHandler crypto cfg adminKey decoder s r now h).1 =
      (requireAdmin crypto cfg s r (decoder.decode r.body.failure r.body.chunks []).2
        (adminKey (decoder.decode r.body.failure r.body.chunks []).1.1) now).1.map
          fun _ => (decoder.decode r.body.failure r.body.chunks []).1.1 := by
  rcases hdecode : decoder.decode r.body.failure r.body.chunks [] with ⟨⟨req, verdict⟩, unread⟩
  cases h with
  | qrisConfirm =>
    simp only [startHandler, startQRISConfirm, hpost, hdecode, ne_eq, not_true_eq_false, if_false]
    split <;> simp_all [Except.map]
  | cbdcMint | cbdcBurn | cbdcIssue =>
    simp only [BodyAccepted, hdecode] at hbody
    subst hbody
    simp only [startHandler, startCBDC, hpost, hdecode, ne_eq, not_true_eq_false, if_false]
    split <;> simp_all [Except.map]

theorem startHandler_refused {out : Except Refusal P}
    (hout : (startHandler crypto cfg adminKey decoder s r now h).1 = out)
    (hrefused : ¬ (r.method = goString "POST" ∧ BodyAccepted decoder r h)) :
    out = .error .postOnly ∨ ∃ err, out = .error (.invalidJson err) := by
  subst hout
  by_cases hpost : r.method = goString "POST"
  · rcases hdecode : decoder.decode r.body.failure r.body.chunks [] with ⟨⟨req, verdict⟩, unread⟩
    cases h with
    | qrisConfirm => exact absurd ⟨hpost, trivial⟩ hrefused
    | cbdcMint | cbdcBurn | cbdcIssue =>
      cases verdict with
      | none => exact absurd ⟨hpost, by simp [BodyAccepted, hdecode]⟩ hrefused
      | some err =>
        refine .inr ⟨err, ?_⟩
        simp [startHandler, startCBDC, hpost, hdecode]
  · left
    cases h <;> simp [startHandler, startCBDC, startQRISConfirm, hpost]

theorem reached_of_startHandler {out : Except Refusal P}
    (hout : (startHandler crypto cfg adminKey decoder s r now h).1 = out)
    (hkind : (∃ p, out = .ok p) ∨ ∃ err, out = .error (.signature err)) :
    r.method = goString "POST" ∧ BodyAccepted decoder r h ∧ PassesGuards cfg s r now := by
  have haccepted : r.method = goString "POST" ∧ BodyAccepted decoder r h := by
    by_contra hrefused
    rcases startHandler_refused hout hrefused with rfl | ⟨err, rfl⟩
    · simp at hkind
    · simp at hkind
  refine ⟨haccepted.1, haccepted.2, ?_⟩
  rw [startHandler_eq haccepted.1 haccepted.2] at hout
  cases hverdict : (requireAdmin crypto cfg s r (decoder.decode r.body.failure r.body.chunks []).2
      (adminKey (decoder.decode r.body.failure r.body.chunks []).1.1) now).1 with
  | ok u => exact passes_of_requireAdmin (.inl hverdict)
  | error refusal =>
    rw [hverdict] at hout
    subst hout
    rcases hkind with ⟨p, hp⟩ | ⟨err, herr⟩
    · cases hp
    · cases herr
      exact passes_of_requireAdmin (.inr ⟨err, hverdict⟩)

theorem sig_of_startHandler {p : P} (hmode : adminHMACRequired cfg = true)
    (hok : (startHandler crypto cfg adminKey decoder s r now h).1 = .ok p) :
    ∃ digits, r.sig = adminSigStart ++ digits ∧
      Hex.decode digits = .ok (adminMac crypto cfg.adminKey r
        (decoder.decode r.body.failure r.body.chunks []).2.flatten) := by
  obtain ⟨hpost, hbody, hguards⟩ := reached_of_startHandler hok (.inl ⟨p, rfl⟩)
  rw [startHandler_eq hpost hbody, requireAdmin_of_passes hguards, hmode] at hok
  split at hok
  · cases hok
  · rename_i hverified
    exact sig_of_verified hverified

end

section

variable {P : Type} (crypto : ApiCrypto) (cfg : SecurityConfig) (adminKey : P → GoString)
  (decoder : Stream.Decoder String P) (s : AdminState) (r : Request) (now : Int)

/-- The signature of a request binds its body, for every signature it may carry, exactly where the
    handler does not come to check it against a body. -/
theorem sigBinds_iff_not_reachesSig (h : AdminHandler) (hmode : adminHMACRequired cfg = true)
    (hsha : Function.Injective crypto.sha256)
    (hhmac : ∀ key, Function.Injective (crypto.hmac key)) :
    (∀ sig, SigBinds crypto cfg adminKey decoder s { r with sig } now h) ↔
      ¬ ReachesSig cfg decoder s r now h := by
  constructor
  · rintro hbinds ⟨hpost, hne, hbody, hguards⟩
    -- the request signed over its own body is refused
    let sig := computeAdminSig crypto r.method r.path r.nonce r.timestamp cfg.adminKey r.body.bytes
    let own : Request := { r with sig }
    have hchunks : r.body.chunks ≠ [] := fun hnil => hne (by simp [Body.bytes, hnil])
    have hunread := Stream.unread_ne decoder r.body.failure r.body.chunks_ne hchunks
    obtain ⟨err, herr⟩ : ∃ err, verifyAdminSig crypto cfg own
        (decoder.decode own.body.failure own.body.chunks []).2 true = .error err :=
      verify_computed_ne hsha hhmac rfl hunread
    have hown : PassesGuards cfg s own now := hguards
    apply (hbinds sig).complete hne rfl err
    refine (startHandler_eq (r := own) hpost hbody).trans ?_
    rw [requireAdmin_of_passes hown, hmode, herr]
    rfl
  · intro hnot sig
    refine ⟨fun p hok => ?_, fun hne _ err herr => ?_⟩
    · obtain ⟨hpost, hbody, hguards⟩ := reached_of_startHandler hok (.inl ⟨p, rfl⟩)
      -- only an empty body is left, of which everything is unread
      have hempty : r.body.bytes = [] := by
        by_contra hne
        exact hnot ⟨hpost, hne, hbody, hguards⟩
      obtain ⟨digits, hdigits, hdecode⟩ := sig_of_startHandler hmode hok
      refine ⟨digits, hdigits, ?_⟩
      obtain ⟨before, hbefore⟩ := Stream.decode_suffix decoder r.body.failure r.body.chunks []
      have hunread : (decoder.decode r.body.failure r.body.chunks []).2.flatten = [] := by
        have hflatten := congrArg List.flatten hbefore
        rw [List.flatten_append] at hflatten
        exact (List.append_eq_nil_iff.mp (hflatten.trans hempty)).2
      simp only [hunread] at hdecode
      simpa only [hempty] using hdecode
    · obtain ⟨hpost, hbody, hguards⟩ := reached_of_startHandler herr (.inr ⟨err, rfl⟩)
      exact hnot ⟨hpost, hne, hbody, hguards⟩

end

def tabled (table : List (Bytes × Bytes)) (x : Bytes) : Bytes :=
  (table.lookup x).getD (x ++ List.replicate 33 0)

theorem mem_of_lookup {table : List (Bytes × Bytes)} {x y : Bytes} (h : table.lookup x = some y) :
    (x, y) ∈ table := by
  induction table with
  | nil => cases h
  | cons entry table ih =>
    obtain ⟨key, digest⟩ := entry
    rw [List.lookup_cons] at h
    split at h
    · rename_i hkey
      rw [eq_of_beq hkey, Option.some.inj h]
      exact List.mem_cons_self
    · exact List.mem_cons_of_mem _ (ih h)

theorem tabled_injective {table : List (Bytes × Bytes)}
    (hlength : ∀ e ∈ table, e.2.length = 32)
    (hdistinct : ∀ e ∈ table, ∀ e' ∈ table, e.2 = e'.2 → e.1 = e'.1) :
    Function.Injective (tabled table) := by
  intro x x' h
  unfold tabled at h
  cases hx : table.lookup x with
  | some y =>
    cases hx' : table.lookup x' with
    | some y' =>
      rw [hx, hx'] at h
      exact hdistinct _ (mem_of_lookup hx) _ (mem_of_lookup hx') h
    | none =>
      rw [hx, hx'] at h
      have hlong := congrArg List.length h
      simp [hlength _ (mem_of_lookup hx)] at hlong
  | none =>
    cases hx' : table.lookup x' with
    | some y' =>
      rw [hx, hx'] at h
      have hlong := congrArg List.length h
      simp [hlength _ (mem_of_lookup hx')] at hlong
    | none =>
      rw [hx, hx'] at h
      exact List.append_cancel_right h

def digestBytes (n : Nat) : Bytes := (List.range 32).reverse.map fun i => UInt8.ofNat (n / 256 ^ i)

def sampleKey : GoString := goString "garuda-test-hmac-key-pass8-known"

def sampleBody : Bytes := goString
  "\x7b\"symbol\":\"IDR\",\"amount\":1,\"admin_key\":\"garuda-test-hmac-key-pass8-known\"\x7d"

def tamperedBody : Bytes := goString
  "\x7b\"symbol\":\"IDR\",\"amount\":1000000,\"admin_key\":\"garuda-test-hmac-key-pass8-known\"\x7d"

def sampleMint (amount : Int) : MintRequest :=
  { symbol := goString "IDR", amount, adminKey := sampleKey }

theorem goString_ne_nil {s : String} (h : s ≠ "") : goString s ≠ [] := by
  intro hnil
  rw [goString, asciiBytes, List.map_eq_nil_iff, String.toList_eq_nil_iff] at hnil
  exact h hnil

theorem sampleBody_ne : sampleBody ≠ [] := goString_ne_nil (by simp)

theorem tamperedBody_ne : tamperedBody ≠ [] := goString_ne_nil (by simp)

def sampleDecoder : Stream.Decoder String MintRequest where
  scan read :=
    if read = sampleBody then some (sampleMint 1, none)
    else if read = tamperedBody then some (sampleMint 1000000, none)
    else none
  finish _ := ({}, some "unexpected EOF")
  zero := {}
  scan_nil := by rw [if_neg sampleBody_ne.symm, if_neg tamperedBody_ne.symm]

def sampleCanonical (bodyHash : Bytes) : Bytes :=
  goString "POST\n/api/cbdc/mint\nabc12345\n1713000000\n" ++ Hex.encode bodyHash ++ [10]

def emptyBodyHash : Bytes :=
  digestBytes 0xe3b0c44298fc1c149afbf4c8996fb92427ae41e4649b934ca495991b7852b855

def sampleBodyHash : Bytes :=
  digestBytes 0x7c6b85e334f964a9f22a2e0fe246fbc2cb2d470ee6ae892a86810bbb7bce455e

def sha256Table : List (Bytes × Bytes) := [([], emptyBodyHash), (sampleBody, sampleBodyHash)]

def hmacTable : List (Bytes × Bytes) :=
  [(sampleCanonical emptyBodyHash,
      digestBytes 0xe11f3138c9390439d1438f356885b12ff5b1b342c91547a1812cbf0cf2353de0),
    (sampleCanonical sampleBodyHash,
      digestBytes 0x5dd3740bd1c6e09b386a22e48ad9e9812877b0646b4ce82765180a70994e6f41)]

def sampleCrypto : ApiCrypto where
  sha256 := tabled sha256Table
  hmac key := if key = sampleKey then tabled hmacTable else tabled []

def sampleConfig : SecurityConfig := ⟨sampleKey, true, true⟩

def sampleState : AdminState := ⟨false, ⟨[], 20, 60 * goSecond⟩, []⟩

def sampleNow : Int := 1713000000 * goSecond

def sampleRequest (method : String) (sig : GoString) (body : Bytes) (hbody : body ≠ []) : Request where
  method := goString method
  path := goString "/api/cbdc/mint"
  nonce := goString "abc12345"
  timestamp := goString "1713000000"
  sig := sig
  clientIP := goString "127.0.0.1"
  body := { chunks := [body], chunks_ne := by simpa using hbody }

theorem sampleCrypto_sha256_injective : Function.Injective sampleCrypto.sha256 :=
  tabled_injective (by decide +kernel) (by decide +kernel)

theorem sampleCrypto_hmac_injective (key : Bytes) : Function.Injective (sampleCrypto.hmac key) := by
  change Function.Injective (if key = sampleKey then tabled hmacTable else tabled [])
  split
  · exact tabled_injective (by decide) (by decide)
  · exact tabled_injective (by simp) (by simp)

theorem sigBinds_sample :
    (∀ sig, SigBinds sampleCrypto sampleConfig MintRequest.adminKey sampleDecoder sampleState
      { sampleRequest "PUT" [] sampleBody sampleBody_ne with sig } sampleNow .cbdcMint) ∧
    ¬ ∀ sig, SigBinds sampleCrypto sampleConfig MintRequest.adminKey sampleDecoder sampleState
      { sampleRequest "POST" [] sampleBody sampleBody_ne with sig } sampleNow .cbdcMint := by
  constructor
  · refine (sigBinds_iff_not_reachesSig _ _ _ _ _ _ _ _ rfl sampleCrypto_sha256_injective
      sampleCrypto_hmac_injective).mpr fun hreaches => ?_
    exact absurd hreaches.1 (by decide +kernel)
  · intro hbinds
    refine (sigBinds_iff_not_reachesSig _ _ _ _ _ _ _ _ rfl sampleCrypto_sha256_injective
      sampleCrypto_hmac_injective).mp hbinds ⟨rfl, ?_, ?_, ?_, ?_, ?_⟩
    all_goals decide +kernel

def emptySig : GoString :=
  computeAdminSig sampleCrypto (goString "POST") (goString "/api/cbdc/mint") (goString "abc12345")
    (goString "1713000000") sampleKey []

/-- One signature is accepted with either body, and the one made over the body is not. -/
theorem sig_not_binding :
    (startHandler sampleCrypto sampleConfig MintRequest.adminKey sampleDecoder sampleState
      (sampleRequest "POST" emptySig sampleBody sampleBody_ne) sampleNow .cbdcMint).1 =
        .ok (sampleMint 1) ∧
    (startHandler sampleCrypto sampleConfig MintRequest.adminKey sampleDecoder sampleState
      (sampleRequest "POST" emptySig tamperedBody tamperedBody_ne) sampleNow .cbdcMint).1 =
        .ok (sampleMint 1000000) ∧
    (startHandler sampleCrypto sampleConfig MintRequest.adminKey sampleDecoder sampleState
      (sampleRequest "POST" (computeAdminSig sampleCrypto (goString "POST")
        (goString "/api/cbdc/mint") (goString "abc12345") (goString "1713000000") sampleKey sampleBody)
        sampleBody sampleBody_ne) sampleNow .cbdcMint).1 = .error (.signature .mismatch) := by
  decide +kernel

end GarudaChain.Api
