import GarudaChain.Node.Effect

/-!
# Chains of blocks

The part of the active chain that `ConnectBlock` works on, and runs of blocks that are connected one on
top of the other.
-/

namespace GarudaChain

structure ChainState where
  tip : Option CBlockIndex
  view : CCoinsView

/-- The state before the genesis block. -/
def ChainState.empty : ChainState := ⟨none, ⟨Coins.empty, 0⟩⟩

/-- The height of the block that comes next. -/
def ChainState.nextHeight (s : ChainState) : Nat :=
  match s.tip with
  | none => 0
  | some pindex => pindex.nHeight + 1

/-- The index entry of a block on top of the chain. -/
def ChainState.nextIndex (s : ChainState) (block : CBlock) : CBlockIndex :=
  match s.tip with
  | none => ⟨⟨block.getHash, block.nTime⟩, []⟩
  | some pindex => pindex.next ⟨block.getHash, block.nTime⟩

/-- Connect a block on top of the chain (`ConnectTip`). -/
def connectTip (env : Env) (block : CBlock) (s : ChainState) : Outcome ChainState := do
  let pindex := s.nextIndex block
  let (view, _) ← connectBlock env block pindex s.view false
  .ok ⟨some pindex, view⟩

/-- Connect the blocks one after the other. -/
def connectChain : List (Env × CBlock) → ChainState → Outcome ChainState
  | [], s => .ok s
  | (env, block) :: steps, s => do
    let s ← connectTip env block s
    connectChain steps s

def isGenesis (env : Env) (block : CBlock) : Bool := block.getHash == env.params.hashGenesisBlock

def blockTxs (env : Env) (block : CBlock) (nHeight : Nat) : List (Nat × CTransaction) :=
  if isGenesis env block then [] else block.vtx.map (Prod.mk nHeight)

/-- The transactions that a run connects, with their heights, the first block being at `nHeight`. -/
def chainTxs : List (Env × CBlock) → Nat → List (Nat × CTransaction)
  | [], _ => []
  | (env, block) :: steps, nHeight => blockTxs env block nHeight ++ chainTxs steps (nHeight + 1)

@[simp] theorem ChainState.nextIndex_nHeight (s : ChainState) (block : CBlock) :
    (s.nextIndex block).nHeight = s.nextHeight := by
  obtain ⟨tip, view⟩ := s
  cases tip <;> rfl

/-! ## A small instance

Concrete transactions and blocks for the witnesses and counterexamples below. The hash functions
are simple mixing functions, a key is its own public key, a signature is valid if it starts with the
first byte of the key, and every script succeeds. -/

def sampleCrypto : Crypto where
  sha256 _ := List.replicate 32 0
  sha256D64 a b := a * 5 + b * 3 + 1
  schnorrVerify pubkey sig _ := pubkey.head? == sig.head?
  mldsa87Verify _ _ _ := false
  mldsa87Sign _ _ := none
  keypairXonlyPub priv := some priv
  schnorrsigSign32 _ priv _ := some (priv ++ priv)
  verifyScript _ _ _ _ := .ok ()
  evalScript _ := some []

def sampleAuthority (digit : Char) : AuthorityState := ⟨List.replicate 64 digit, [], 1000⟩

def sampleEnv (mintFile : Option (List Char)) : Env where
  params := mainParams
  crypto := sampleCrypto
  authority := sampleAuthority '1'
  mintFile := mintFile
  fScriptChecks _ := true
  parallelScriptChecks := false
  checkSignetBlockSolution _ := true

def sampleOut (nValue : Int) : CTxOut := ⟨nValue, [op1]⟩

def sampleFeeOut (nValue : Int) : CTxOut := ⟨nValue, [opReturn, 4, 0x4d, 0x46, 0x45, 0x45]⟩

def sampleCoinbase (hash : Uint256) (nValue : Int) : CTransaction where
  vin := [⟨⟨0, nullIndex⟩, [1, 1], sequenceFinal, []⟩]
  vout := [sampleOut nValue]
  version := 2
  nLockTime := 0
  hash := hash
  witnessHash := hash

def sampleMint (hash : Uint256) (further : List COutPoint) (vout : List CTxOut) : CTransaction where
  vin := ⟨⟨cbdcMintMarker, 0⟩, [], sequenceFinal, [List.replicate 64 0x11]⟩ ::
    further.map fun o => ⟨o, [], sequenceFinal, []⟩
  vout := vout
  version := cbdcMintVersion
  nLockTime := 0
  hash := hash
  witnessHash := hash

def sampleSpend (hash : Uint256) (prevout : COutPoint) (nValue : Int) : CTransaction where
  vin := [⟨prevout, [], sequenceFinal, []⟩]
  vout := [sampleOut nValue]
  version := 2
  nLockTime := 0
  hash := hash
  witnessHash := hash

def sampleBlock (hash hashPrevBlock : Uint256) (vtx : List CTransaction) : CBlock where
  nVersion := 0x20000000
  hashPrevBlock := hashPrevBlock
  hashMerkleRoot := (computeMerkleRoot sampleCrypto.sha256D64 (vtx.map CTransaction.getHash)).1
  nTime := 1700000000
  nBits := 0x1e0fffff
  nNonce := 0
  hash := hash
  vtx := vtx

def sampleGenesis : CBlock :=
  sampleBlock mainParams.hashGenesisBlock 0 [sampleCoinbase 1 1000000000]

def sampleGenesisIndex : CBlockIndex := ⟨⟨mainParams.hashGenesisBlock, 1700000000⟩, []⟩

def sampleView : CCoinsView := ⟨Coins.empty, mainParams.hashGenesisBlock⟩

def sampleIndex (block : CBlock) : CBlockIndex :=
  sampleGenesisIndex.next ⟨block.getHash, block.nTime⟩

end GarudaChain
