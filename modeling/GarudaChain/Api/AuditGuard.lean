import GarudaChain.Api.AuditChain

/-!
# What rests on the audit chain

The breaker of `audit_chain.go`, which `requireAdmin` tests before it goes on and which the audit of the
same requests trips; and the witness of `audit_witness.go`, which broadcasts the number and the hash of
the last entry.
-/

namespace GarudaChain.Api

open Json (FloatFormat)

variable {fmt : FloatFormat}

/-- `Audit`, on the audit file and the chain in memory. An event that cannot be marshalled is only
    logged. -/
def audit (crypto : ApiCrypto) (ev : AuditEvent fmt) (faults : AppendFaults) (disk : Bytes)
    (chain : AuditChain) : Bytes × AuditChain :=
  match ev.marshal with
  | none => (disk, chain)
  | some _ => appendAuditChain crypto ev faults disk chain

/-- Whether an `Audit` ends with an entry that is synced. -/
def auditSynced (crypto : ApiCrypto) (ev : AuditEvent fmt) (faults : AppendFaults)
    (chain : AuditChain) : Bool :=
  ev.marshal.isSome && chain.enabled && chain.file && !faults.lineMarshal &&
    (chainEntry crypto ev (wrap64 (chain.seq + 1)) chain.prevHash faults.hashMarshal).marshal.isSome &&
    !faults.write && !faults.sync

/-- The event of a request that `requireAdmin` lets pass. -/
def adminAuthOk (time ip path : GoString) : AuditEvent fmt :=
  ⟨time, goString "admin_auth", ip, path, [], goString "ok", []⟩

/-- The audit log and the requests under way; and how many calls of `requireAdmin` returned true
    since an audit entry was synced last. -/
structure GateState where
  disk : Bytes
  chain : AuditChain
  /-- The requests between the test of the breaker and their audit. -/
  inFlight : List Nat
  /-- The requests between their audit and `return true`. -/
  passed : List Nat
  unaudited : Nat

inductive GateEvent (fmt : FloatFormat)
  | arrive (id : Nat)
  | rateLimited (id : Nat)
  /-- It is refused by one of the later checks, and the refusal audited. -/
  | refuse (id : Nat) (ev : AuditEvent fmt) (faults : AppendFaults)
  /-- It is audited as authorized. -/
  | authorize (id : Nat) (time ip path : GoString) (faults : AppendFaults)
  /-- `requireAdmin` returns true. -/
  | returnTrue (id : Nat)
  | other (ev : AuditEvent fmt) (faults : AppendFaults)

def GateState.audited (crypto : ApiCrypto) (s : GateState) (ev : AuditEvent fmt)
    (faults : AppendFaults) : GateState :=
  { s with
    disk := (audit crypto ev faults s.disk s.chain).1
    chain := (audit crypto ev faults s.disk s.chain).2
    unaudited := if auditSynced crypto ev faults s.chain then 0 else s.unaudited }

/-- A request that is not in flight takes no further step. -/
def GateState.step (crypto : ApiCrypto) (s : GateState) : GateEvent fmt → GateState
  | .arrive id =>
    if s.chain.breakerTripped || s.inFlight.contains id || s.passed.contains id then s
    else { s with inFlight := id :: s.inFlight }
  | .rateLimited id => { s with inFlight := s.inFlight.erase id }
  | .refuse id ev faults =>
    if s.inFlight.contains id then
      { s.audited crypto ev faults with inFlight := s.inFlight.erase id }
    else s
  | .authorize id time ip path faults =>
    if s.inFlight.contains id then
      { s.audited crypto (adminAuthOk time ip path : AuditEvent fmt) faults with
        inFlight := s.inFlight.erase id, passed := id :: s.passed }
    else s
  | .returnTrue id =>
    if s.passed.contains id then
      { s with passed := s.passed.erase id, unaudited := s.unaudited + 1 }
    else s
  | .other ev faults => s.audited crypto ev faults

def GateState.start (disk : Bytes) (prevHash : GoString) (seq : Int) : GateState :=
  ⟨disk, ⟨true, prevHash, seq, true, 0, false⟩, [], [], 0⟩

def witnessMagic : Bytes := goString "GRDAUDIT"
def witnessVersion : UInt8 := 0x01

/-- `buildWitnessPayload` -/
def buildWitnessPayload (seq : Int) (tailRaw : Bytes) : Bytes :=
  if seq < 0 then []
  else witnessMagic ++ [witnessVersion] ++ (writeLE 8 seq.toNat).reverse ++ tailRaw

/-- What was given to `broadcastOpReturn`. -/
structure Broadcast where
  seq : Int
  tailHash : GoString
  payload : Bytes
  deriving DecidableEq

structure Witness where
  lastSeq : Int
  lastTailHash : GoString
  failuresTotal : Nat
  commitsTotal : Nat
  deriving DecidableEq

/-- `commitAuditTail`, given whether the broadcast succeeds: the broadcast it makes, if any. -/
def commitAuditTail (succeeds : Bool) (chain : AuditChain) (w : Witness) :
    Witness × Option Broadcast :=
  if chain.seq ≤ 0 ∨ chain.prevHash = [] ∨ chain.prevHash = emptyHash then (w, none)
  else if chain.seq = w.lastSeq ∧ chain.prevHash = w.lastTailHash then (w, none)
  else
    match Hex.decode chain.prevHash with
    | .error _ => (w, none)
    | .ok tailRaw =>
      if tailRaw.length ≠ 32 then (w, none)
      else
        let sent := some ⟨chain.seq, chain.prevHash, buildWitnessPayload chain.seq tailRaw⟩
        if succeeds then
          ({ w with lastSeq := chain.seq, lastTailHash := chain.prevHash,
                    commitsTotal := w.commitsTotal + 1 }, sent)
        else ({ w with failuresTotal := w.failuresTotal + 1 }, sent)

/-- The log, the witness and its broadcasts; and the entries whose lines are in the file and whether
    the last one is written and not synced. -/
structure WitnessState (fmt : FloatFormat) where
  disk : Bytes
  chain : AuditChain
  witness : Witness
  broadcasts : List Broadcast
  entries : List (AuditChainEntry fmt)
  unsynced : Bool

inductive WitnessOp (fmt : FloatFormat)
  | append (ev : AuditEvent fmt) (faults : AppendFaults)
  | commit (succeeds : Bool)

def WitnessState.step (crypto : ApiCrypto) (s : WitnessState fmt) : WitnessOp fmt → WitnessState fmt
  | .append ev faults =>
    let entry :=
      chainEntry crypto ev (wrap64 (s.chain.seq + 1)) s.chain.prevHash faults.hashMarshal
    let (disk, chain) := appendAuditChain crypto ev faults s.disk s.chain
    if s.disk.length < disk.length then
      { s with disk, chain, entries := s.entries ++ [entry], unsynced := faults.sync }
    else { s with disk, chain }
  | .commit succeeds =>
    match commitAuditTail succeeds s.chain s.witness with
    | (witness, sent) => { s with witness, broadcasts := s.broadcasts ++ sent.toList }

/-- `OpenAuditChain` has found these entries in the file. -/
def WitnessState.start (disk : Bytes) (entries : List (AuditChainEntry fmt)) : WitnessState fmt where
  disk := disk
  chain :=
    match entries.getLast? with
    | none => ⟨true, emptyHash, 0, true, 0, false⟩
    | some e => ⟨true, e.hash, e.seq, true, 0, false⟩
  witness := ⟨0, [], 0, 0⟩
  broadcasts := []
  entries := entries
  unsynced := false

end GarudaChain.Api
