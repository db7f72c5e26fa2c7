import GarudaChain.Api.AdminSig
import GarudaChain.Lib.GoValue

/-!
# The audit chain

`audit_chain.go`: a file with one JSON line for every audit event, each with the hash of the line before
it.
-/

namespace GarudaChain.Api

open Json (FloatFormat GoValue Tree)

/-- `emptyHash`: 64 zeros. -/
def emptyHash : GoString := List.replicate 64 0x30

structure AuditEvent (fmt : FloatFormat) where
  time : GoString
  event : GoString
  ip : GoString
  path : GoString
  actor : GoString
  result : GoString
  /-- `Meta`, by the assignments that made it. -/
  metaMap : List (GoString × GoValue fmt.Float)

/-- `json.Marshal(event)`, which `Audit` logs before it calls `appendAuditChain`. -/
def AuditEvent.marshal {fmt : FloatFormat} (ev : AuditEvent fmt) : Option Bytes :=
  (Json.mapTree fmt ev.metaMap).map fun metaMembers =>
    Json.write (.obj ([(goString "time", Tree.str ev.time), (goString "event", Tree.str ev.event),
        (goString "ip", Tree.str ev.ip), (goString "path", Tree.str ev.path)] ++
      (if ev.actor.isEmpty then [] else [(goString "actor", Tree.str ev.actor)]) ++
      [(goString "result", Tree.str ev.result)] ++
      (if metaMembers.isEmpty then [] else [(goString "meta", Tree.obj metaMembers)])))

structure AuditChainEntry (fmt : FloatFormat) where
  seq : Int
  time : GoString
  event : GoString
  ip : GoString
  path : GoString
  actor : GoString
  result : GoString
  metaMap : List (GoString × GoValue fmt.Float)
  prevHash : GoString
  hash : GoString

variable {fmt : FloatFormat}

/-- The fields of an entry up to `prev_hash`, in their order; `omitempty` leaves out an empty actor
    and an empty map. -/
def AuditChainEntry.fields (e : AuditChainEntry fmt) (metaMembers : List (GoString × Tree)) :
    List (GoString × Tree) :=
  [(goString "seq", Tree.num (Decimal.format e.seq)), (goString "time", Tree.str e.time),
    (goString "event", Tree.str e.event), (goString "ip", Tree.str e.ip),
    (goString "path", Tree.str e.path)] ++
  (if e.actor.isEmpty then [] else [(goString "actor", Tree.str e.actor)]) ++
  [(goString "result", Tree.str e.result)] ++
  (if metaMembers.isEmpty then [] else [(goString "meta", Tree.obj metaMembers)])

def AuditChainEntry.tree (e : AuditChainEntry fmt) : Option Tree :=
  (Json.mapTree fmt e.metaMap).map fun metaMembers =>
    .obj (e.fields metaMembers ++
      [(goString "prev_hash", Tree.str e.prevHash), (goString "hash", Tree.str e.hash)])

/-- `json.Marshal(e)`, `none` where it fails. -/
def AuditChainEntry.marshal (e : AuditChainEntry fmt) : Option Bytes := e.tree.map Json.write

/-- The canonical JSON of an entry that is hashed: `Hash` is blank. -/
def AuditChainEntry.body (e : AuditChainEntry fmt) : Option Bytes :=
  AuditChainEntry.marshal { e with hash := [] }

def computeEntryHash (crypto : ApiCrypto) (e : AuditChainEntry fmt) : GoString :=
  match e.body with
  | none => []
  | some body => Hex.encode (crypto.sha256 body)

/-- `foldName`: upper case, also for the long s and the Kelvin sign. -/
def foldName : GoString → GoString
  | 0xc5 :: 0xbf :: s => 0x53 :: foldName s
  | 0xe2 :: 0x84 :: 0xaa :: s => 0x4b :: foldName s
  | b :: s => (if 0x61 ≤ b ∧ b ≤ 0x7a then b - 0x20 else b) :: foldName s
  | [] => []

inductive EntryField
  | seq | time | event | ip | path | actor | result | metaMap | prevHash | hash

/-- The names of the fields, folded. -/
def entryFields : List (GoString × EntryField) :=
  [(goString "SEQ", .seq), (goString "TIME", .time), (goString "EVENT", .event),
    (goString "IP", .ip), (goString "PATH", .path), (goString "ACTOR", .actor),
    (goString "RESULT", .result), (goString "META", .metaMap), (goString "PREV_HASH", .prevHash),
    (goString "HASH", .hash)]

def matchField (key : GoString) : Option EntryField := entryFields.lookup (foldName key)

/-- A JSON value stored in a field of type string: `null` leaves it as it is. -/
def decodeString (old : GoString) : Tree → Option GoString
  | .null => some old
  | .str s => some s
  | _ => none

/-- A JSON value stored in a field of type `int64`. -/
def decodeInt64 (old : Int) : Tree → Option Int
  | .null => some old
  | .num lit =>
    (Decimal.parse lit).filter fun n =>
      decide (-9223372036854775808 ≤ n) && decide (n ≤ 9223372036854775807)
  | _ => none

/-- A JSON value stored in a map: an object is added to what the map holds, `null` empties it. -/
def decodeMap (old : List (GoString × GoValue fmt.Float)) :
    Tree → Option (List (GoString × GoValue fmt.Float))
  | .null => some []
  | .obj ms => (Json.ofMembers fmt ms).map fun ms => old ++ ms
  | _ => none

def decodeMember (e : AuditChainEntry fmt) (m : GoString × Tree) : Option (AuditChainEntry fmt) :=
  match matchField m.1 with
  | none => some e
  | some .seq => (decodeInt64 e.seq m.2).map fun seq => { e with seq }
  | some .time => (decodeString e.time m.2).map fun time => { e with time }
  | some .event => (decodeString e.event m.2).map fun event => { e with event }
  | some .ip => (decodeString e.ip m.2).map fun ip => { e with ip }
  | some .path => (decodeString e.path m.2).map fun path => { e with path }
  | some .actor => (decodeString e.actor m.2).map fun actor => { e with actor }
  | some .result => (decodeString e.result m.2).map fun result => { e with result }
  | some .metaMap => (decodeMap e.metaMap m.2).map fun metaMap => { e with metaMap }
  | some .prevHash => (decodeString e.prevHash m.2).map fun prevHash => { e with prevHash }
  | some .hash => (decodeString e.hash m.2).map fun hash => { e with hash }

def decodeMembers : List (GoString × Tree) → AuditChainEntry fmt → Option (AuditChainEntry fmt)
  | [], e => some e
  | m :: ms, e =>
    match decodeMember e m with
    | some e => decodeMembers ms e
    | none => none

/-- `var e auditChainEntry` -/
def AuditChainEntry.zero : AuditChainEntry fmt := ⟨0, [], [], [], [], [], [], [], [], []⟩

/-- `json.Unmarshal(line, &e)` into a new entry. -/
def unmarshalEntry (line : GoString) : Option (AuditChainEntry fmt) :=
  match Json.parse line with
  | some (.obj ms) => decodeMembers ms .zero
  | some .null => some .zero
  | _ => none

def maxTokenSize : Nat := 1048576

/-- The lines of a file; what stands after the last line break is a line if there is something. -/
def splitLines : Bytes → List GoString
  | [] => []
  | c :: file =>
    if c = 0x0a then [] :: splitLines file
    else
      match splitLines file with
      | [] => [[c]]
      | line :: lines => (c :: line) :: lines

/-- `bufio.ScanLines` drops a carriage return at the end of a line. -/
def dropCR (line : GoString) : GoString :=
  if line.getLast? = some 0x0d then line.dropLast else line

/-- The lines that `scanner.Scan` hands out, and whether it stops at one that fills the buffer. -/
def scanLines (file : Bytes) : List GoString × Bool :=
  let lines := splitLines file
  ((lines.takeWhile fun line => decide (line.length < maxTokenSize)).map dropCR,
    lines.any fun line => decide (maxTokenSize ≤ line.length))

/-- The errors of `VerifyAuditChain`, with the number of the line among those that count. -/
inductive VerifyError
  /-- `line %d: invalid json` -/
  | invalidJson (line : Nat)
  /-- `line %d (seq %d): prev_hash mismatch — chain broken` -/
  | prevHashMismatch (line : Nat) (seq : Int)
  /-- `line %d (seq %d): hash mismatch — row tampered` -/
  | hashMismatch (line : Nat) (seq : Int)
  /-- `bufio.Scanner: token too long` -/
  | tooLong
  deriving DecidableEq

/-- The loop of `VerifyAuditChain` over the lines. -/
def verifyLines (fmt : FloatFormat) (crypto : ApiCrypto) :
    List GoString → GoString → Nat → Nat × Option VerifyError
  | [], _, n => (n, none)
  | line :: lines, prev, n =>
    if line.isEmpty then verifyLines fmt crypto lines prev n
    else match (unmarshalEntry line : Option (AuditChainEntry fmt)) with
      | none => (n, some (.invalidJson (n + 1)))
      | some e =>
        if e.prevHash ≠ prev then (n, some (.prevHashMismatch (n + 1) e.seq))
        else if computeEntryHash crypto e ≠ e.hash then (n, some (.hashMismatch (n + 1) e.seq))
        else verifyLines fmt crypto lines e.hash (n + 1)

/-- `VerifyAuditChain`: the number of entries that are in order, and the error, if any. -/
def verifyAuditChain (fmt : FloatFormat) (crypto : ApiCrypto) (file : Bytes) :
    Nat × Option VerifyError :=
  let (lines, tooLong) := scanLines file
  match verifyLines fmt crypto lines emptyHash 0 with
  | (n, none) => (n, if tooLong then some .tooLong else none)
  | r => r

/-- `auditChainT`; `file` says whether the file is open. -/
structure AuditChain where
  file : Bool
  prevHash : GoString
  seq : Int
  enabled : Bool
  consecFails : Nat
  breakerTripped : Bool
  deriving DecidableEq

def breakerThreshold : Nat := 3

/-- The errors of `OpenAuditChain`. -/
inductive OpenError
  /-- `audit file corrupt at seq %d` -/
  | corrupt (seq : Int)
  /-- `audit chain break at seq %d: prev_hash mismatch` -/
  | prevHashMismatch (seq : Int)
  /-- `audit chain break at seq %d: hash mismatch` -/
  | hashMismatch (seq : Int)
  /-- `bufio.Scanner: token too long` -/
  | tooLong
  deriving DecidableEq

/-- The loop of `OpenAuditChain`: the last hash and sequence number. It does not skip empty lines. -/
def recoverLines (fmt : FloatFormat) (crypto : ApiCrypto) :
    List GoString → GoString → Int → Except OpenError (GoString × Int)
  | [], prev, seq => .ok (prev, seq)
  | line :: lines, prev, seq =>
    match (unmarshalEntry line : Option (AuditChainEntry fmt)) with
    | none => .error (.corrupt (wrap64 (seq + 1)))
    | some e =>
      if e.prevHash ≠ prev then .error (.prevHashMismatch e.seq)
      else if computeEntryHash crypto e ≠ e.hash then .error (.hashMismatch e.seq)
      else recoverLines fmt crypto lines e.hash e.seq

/-- `OpenAuditChain` on the audit file; a failure leaves the chain as it was. -/
def openAuditChain (fmt : FloatFormat) (crypto : ApiCrypto) (path : GoString) (disk : Bytes)
    (chain : AuditChain) : Except OpenError AuditChain :=
  if path.isEmpty then .ok { chain with enabled := false }
  else
    let (lines, tooLong) := scanLines disk
    match recoverLines fmt crypto lines emptyHash 0 with
    | .error err => .error err
    | .ok (prevHash, seq) =>
      if tooLong then .error .tooLong
      else .ok { chain with file := true, prevHash, seq, enabled := true }

def closeAuditChain (chain : AuditChain) : AuditChain :=
  { chain with file := false, enabled := false }

def bumpBreakerLocked (chain : AuditChain) : AuditChain :=
  let consecFails := chain.consecFails + 1
  { chain with
    consecFails
    breakerTripped := chain.breakerTripped || decide (consecFails ≥ breakerThreshold) }

/-- Which calls fail inside an `appendAuditChain`. -/
structure AppendFaults where
  hashMarshal : Bool
  lineMarshal : Bool
  write : Bool
  sync : Bool
  deriving DecidableEq

/-- The entry that is appended for an event. -/
def chainEntry (crypto : ApiCrypto) (ev : AuditEvent fmt) (seq : Int) (prevHash : GoString)
    (hashMarshalFails : Bool) : AuditChainEntry fmt :=
  let entry : AuditChainEntry fmt :=
    ⟨seq, ev.time, ev.event, ev.ip, ev.path, ev.actor, ev.result, ev.metaMap, prevHash, []⟩
  { entry with hash := if hashMarshalFails then [] else computeEntryHash crypto entry }

/-- `appendAuditChain`, on the file and the chain in memory. -/
def appendAuditChain (crypto : ApiCrypto) (ev : AuditEvent fmt) (faults : AppendFaults)
    (disk : Bytes) (chain : AuditChain) : Bytes × AuditChain :=
  if !chain.enabled || !chain.file then (disk, chain)
  else
    let seq := wrap64 (chain.seq + 1)
    let entry := chainEntry crypto ev seq chain.prevHash faults.hashMarshal
    match (if faults.lineMarshal then none else entry.marshal) with
    | none => (disk, bumpBreakerLocked { chain with seq := wrap64 (seq - 1) })
    | some out =>
      if faults.write then (disk, bumpBreakerLocked { chain with seq := wrap64 (seq - 1) })
      else if faults.sync then (disk ++ out ++ [0x0a], bumpBreakerLocked { chain with seq })
      else (disk ++ out ++ [0x0a],
        { chain with seq, prevHash := entry.hash, consecFails := 0 })

/-- `auditChain` at the start of the process. -/
def AuditChain.initial : AuditChain := ⟨false, emptyHash, 0, false, 0, false⟩

inductive AuditOp (fmt : FloatFormat)
  /-- `OpenAuditChain`; `fails` says whether opening or seeking fails. -/
  | openChain (path : GoString) (fails : Bool)
  | append (ev : AuditEvent fmt) (faults : AppendFaults)
  | closeChain

structure AuditState where
  disk : Bytes
  chain : AuditChain
  written : Nat
  syncFailed : Bool

def auditStep (fmt : FloatFormat) (crypto : ApiCrypto) (s : AuditState) : AuditOp fmt → AuditState
  | .openChain path fails =>
    if fails && !path.isEmpty then s
    else
      match openAuditChain fmt crypto path s.disk s.chain with
      | .error _ => s
      | .ok chain => { s with chain, syncFailed := s.syncFailed && path.isEmpty }
  | .append ev faults =>
    let (disk, chain) := appendAuditChain crypto ev faults s.disk s.chain
    let grown := decide (s.disk.length < disk.length)
    { disk, chain, written := if grown then s.written + 1 else s.written,
      syncFailed := s.syncFailed || (grown && faults.sync) }
  | .closeChain => { s with chain := closeAuditChain s.chain }

end GarudaChain.Api
