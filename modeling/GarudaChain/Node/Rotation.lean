import GarudaChain.Node.Chain

/-!
# Changing the authority's keys and fee

`RequirePQCAuth` and `SetMintFeePPM` of `cbdc/authority.cpp` and the RPC `rotateauthoritykey` of
`rpc/cbdc.cpp`, and runs of a node in which such changes come between the blocks.
-/

namespace GarudaChain

inductive WalletMode
  | normal
  | cbdc
  | creator
  | publicMode
  deriving DecidableEq, Repr

/-- `RPCErrorCode`, the members the modelled code uses. -/
inductive RPCErrorCode
  | miscError
  | typeError
  | invalidAddressOrKey
  | invalidParameter
  | internalError
  | walletError
  | deserializationError
  deriving DecidableEq, Repr

structure JSONRPCError where
  code : RPCErrorCode
  message : String
  deriving DecidableEq, Repr

def setMintFeePPM (auth : AuthorityState) (ppm : Int) : AuthorityState :=
  let ppm := if ppm < 0 then 0 else ppm
  let ppm := if ppm > 100000 then 100000 else ppm
  { auth with mintFeePpm := ppm }

/-- `RequirePQCAuth`, with the text of the exception it throws. -/
def requirePQCAuth (crypto : Crypto) (auth : AuthorityState) (pqcKeyHex opName paramsBlob : List Char) :
    Except String Unit :=
  if auth.authorityPqcPubkeyHashHex.isEmpty then .ok ()
  else do
    failIf pqcKeyHex.isEmpty ("PQC aktif. RPC ini butuh pqcseckeyhex (pk||sk, " ++
      toString (mlDsa87PubkeySize + mlDsa87SeckeySize) ++ " bytes hex).")
    let combined := parseHex pqcKeyHex
    failIf (combined.length != mlDsa87PubkeySize + mlDsa87SeckeySize)
      ("pqcseckeyhex ukuran salah: butuh " ++ toString (mlDsa87PubkeySize + mlDsa87SeckeySize) ++
        " bytes (pk||sk)")
    let pk := combined.take mlDsa87PubkeySize
    let sk := combined.drop mlDsa87PubkeySize
    let expected := parseHex auth.authorityPqcPubkeyHashHex
    failIf (expected.length != 32 || crypto.sha256 pk != expected)
      "PQC pubkey hash tidak cocok -cbdcpqcpubkeyhash"
    let msgHash := crypto.sha256 (asciiBytes chainId ++ [0x7c] ++ asciiBytes opName ++ [0x7c] ++
      asciiBytes paramsBlob)
    match crypto.mldsa87Sign msgHash sk with
    | none => .error "ML-DSA-87 signing gagal di RequirePQCAuth"
    | some sig => failIf (!crypto.mldsa87Verify msgHash sig pk) "ML-DSA-87 self-verify gagal"

/-- The parameters of `rotateauthoritykey`. -/
structure RotateRequest where
  newPubkeyHex : List Char
  oldPrivkeyHex : List Char
  newPqcHashHex : Option (List Char)
  pqcSeckeyHex : Option (List Char)

/-- `throw JSONRPCError(code, message)` where the condition holds. -/
def throwIf (cond : Bool) (code : RPCErrorCode) (message : String) : Except JSONRPCError Unit :=
  if cond then .error ⟨code, message⟩ else .ok ()

@[simp] theorem throwIf_eq_ok (cond : Bool) (code : RPCErrorCode) (message : String) (u : Unit) :
    throwIf cond code message = .ok u ↔ cond = false := by
  cases cond <;> simp [throwIf]

theorem throwIf_eq_error {cond : Bool} {code : RPCErrorCode} {message : String} {err : JSONRPCError} :
    throwIf cond code message = .error err ↔ cond = true ∧ err = ⟨code, message⟩ := by
  cases cond <;> simp [throwIf, eq_comm]

/-- The name `rotateauthoritykey`, under which it is authorized. -/
def rotateOpName : List Char := "rotateauthoritykey".toList

/-- `rotateauthoritykey`, with the randomness it draws: the new authority state. -/
def rotateAuthorityKey (crypto : Crypto) (mode : WalletMode) (auth : AuthorityState)
    (request : RotateRequest) (aux : Bytes) : Except JSONRPCError AuthorityState := do
  throwIf (mode != .cbdc) .miscError "Hanya node CBDC."
  let newPub := parseHex request.newPubkeyHex
  let oldPriv := parseHex request.oldPrivkeyHex
  throwIf (newPub.length != 32) .invalidParameter "new_pubkey_hex harus 32 bytes"
  throwIf (oldPriv.length != 32) .invalidParameter "old_privkey_hex harus 32 bytes"
  match requirePQCAuth crypto auth (request.pqcSeckeyHex.getD []) rotateOpName
      (request.newPubkeyHex ++ ['|'] ++ request.newPqcHashHex.getD []) with
  | .error what => .error ⟨.invalidParameter, what⟩
  | .ok _ =>
    match crypto.keypairXonlyPub oldPriv with
    | none => .error ⟨.invalidParameter, "Private key tidak valid"⟩
    | some pub32 => do
      throwIf (pub32 != parseHex auth.authorityPubkeyHex) .invalidParameter
        "Private key tidak cocok dengan authority key saat ini."
      let rotateHash := crypto.sha256 (asciiBytes ['R', 'O', 'T', 'A', 'T', 'E'] ++ pub32 ++ newPub)
      match crypto.schnorrsigSign32 rotateHash oldPriv aux with
      | none => .error ⟨.internalError, "Rotation signing gagal"⟩
      | some _ =>
        .ok { auth with
          authorityPubkeyHex := request.newPubkeyHex
          authorityPqcPubkeyHashHex :=
            request.newPqcHashHex.getD auth.authorityPqcPubkeyHashHex }

/-- What happens to a node. -/
inductive NodeEvent
  | block (mintFile : Option (List Char)) (block : CBlock)
  | rotate (request : RotateRequest) (aux : Bytes)
  | setFee (ppm : Int)

/-- The chain of a node and its authority state. -/
structure NodeState where
  chain : ChainState
  authority : AuthorityState

def Env.withState (env : Env) (authority : AuthorityState) (mintFile : Option (List Char)) : Env :=
  { env with authority, mintFile }

/-- One event, where it succeeds. -/
def nodeStep (env : Env) (mode : WalletMode) (s : NodeState) : NodeEvent → Option NodeState
  | .block mintFile block =>
    (connectTip (env.withState s.authority mintFile) block s.chain).toOption.map fun chain =>
      { s with chain }
  | .rotate request aux =>
    (rotateAuthorityKey env.crypto mode s.authority request aux).toOption.map fun authority =>
      { s with authority }
  | .setFee ppm => some { s with authority := setMintFeePPM s.authority ppm }

/-- A run of successful events. -/
def nodeRun (env : Env) (mode : WalletMode) : List NodeEvent → NodeState → Option NodeState
  | [], s => some s
  | event :: events, s =>
    match nodeStep env mode s event with
    | none => none
    | some s => nodeRun env mode events s

def replaySteps (env : Env) (authority : AuthorityState) : List NodeEvent → List (Env × CBlock)
  | [] => []
  | .block mintFile block :: events =>
    (env.withState authority mintFile, block) :: replaySteps env authority events
  | .rotate _ _ :: events => replaySteps env authority events
  | .setFee _ :: events => replaySteps env authority events

end GarudaChain
