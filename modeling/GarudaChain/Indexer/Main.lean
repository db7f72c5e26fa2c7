import GarudaChain.Indexer.Database
import GarudaChain.Lib.Run

/-!
# The indexer

`src/indexer/cmd/main.go`: `indexBlock`, `indexTx` and the loop of `main`, as a process that runs next
to the node.
-/

namespace GarudaChain.Indexer

open Api (GoString goString)

/-- The data of an `OP_RETURN` script; empty where there is none. -/
def parseOPReturn (scriptHex : GoString) : GoString :=
  match Hex.decode scriptHex with
  | .error _ => []
  | .ok (op :: len :: b :: rest) =>
    if op ≠ 0x6a then []
    else
      let data := b :: rest
      if len.toNat ≤ data.length then data.take len.toNat else data
  | .ok _ => []

def opType (opData : GoString) : Option TxType :=
  if (goString "DEX:").isPrefixOf opData || (goString "ORDER:").isPrefixOf opData then some .order
  else if (goString "SWAP:").isPrefixOf opData then some .swap
  else if (goString "MINT:").isPrefixOf opData || (goString "ISSUE:").isPrefixOf opData then
    some .mint
  else none

/-- The last output with such data decides. -/
def TX.txType (tx : TX) : TxType :=
  tx.vout.foldl (fun txType vout =>
    if vout.type = goString "nulldata" then (opType (parseOPReturn vout.hex)).getD txType
    else txType) .transfer

def TX.spent (tx : TX) : List Outpoint :=
  (tx.vin.filter fun vin => vin.txid ≠ []).map fun vin => (vin.txid, vin.vout)

def Block.row (block : Block) : BlockRow where
  hash := block.hash
  prevHash := block.previousHash
  timestamp := block.time
  txCount := block.tx.length
  sizeBytes := block.size

def TX.row (tx : TX) (height : Nat) (block : Block) : TransactionRow where
  blockHeight := height
  blockHash := block.hash
  rawHex := tx.hex
  feeSat := 0
  sizeBytes := tx.size
  timestamp := block.time
  txType := tx.txType

def VOUT.row (vout : VOUT) (height : Nat) : UtxoRow where
  address := vout.address
  valueSat := vout.valueSat
  scriptHex := vout.hex
  blockHeight := height
  spent := false
  spentTxid := none

def indexVout (txid : GoString) (height : Nat) (ts : Int) (vout : VOUT) : List Statement :=
  if vout.address = [] then []
  else [.upsertAddress vout.address vout.valueSat ts, .insertUtxo (txid, vout.n) (vout.row height)]

/-- The statements of `indexTx`. -/
def indexTx (height : Nat) (block : Block) (tx : TX) : List Statement :=
  .insertTransaction tx.txid (tx.row height block) ::
    (tx.spent.map (.spendUtxo tx.txid) ++ tx.vout.flatMap (indexVout tx.txid height block.time) ++
      tx.spent.map .deductSpent)

/-- The statements of `indexBlock`. -/
def indexBlock (height : Nat) (block : Block) : List Statement :=
  .insertBlock height block.row ::
    (block.tx.flatMap (indexTx height block) ++ [.setLastIndexedHeight height])

/-- Where the process is: between ticks, in the loop over the heights, or in `indexBlock` with the
    statements that are left. -/
inductive Phase
  | waiting
  | polling (chainHeight : Nat)
  | indexing (chainHeight : Nat) (block : Block) (todo : List Statement)
  deriving DecidableEq

/-- A change of the balance of an address. -/
abbrev Change := GoString × Int

/-- The changes of one address together. -/
def net (changes : List Change) (address : GoString) : Int :=
  (changes.map fun change => if change.1 = address then change.2 else 0).sum

/-- The change of a balance that a statement makes. -/
def Statement.change (t : Tables) : Statement → List Change
  | .upsertAddress address valueSat _ => [(address, valueSat)]
  | .deductSpent outpoint =>
    match t.utxos.read outpoint with
    | none => []
    | some row =>
      if row.address = [] ∨ (t.addresses.read row.address).isNone then []
      else [(row.address, -row.valueSat)]
  | _ => []

structure Process where
  chain : List Block
  tables : Tables
  lastHeight : Nat
  phase : Phase
  recorded : List Block
  /-- The changes of balances made so far for the block that is being indexed. -/
  pending : List Change
  /-- The changes of balances made for blocks whose indexing was stopped before its end. -/
  replayed : List Change

def Statement.isNewBlock (t : Tables) : Statement → Bool
  | .insertBlock height _ => (t.blocks.read height).isNone
  | _ => false

def Statement.pendingAfter (t : Tables) (pending : List Change) : Statement → List Change
  | .setLastIndexedHeight _ => []
  | st => pending ++ st.change t

namespace Process

/-- A new process with new tables, next to a node. -/
def start (chain : List Block) : Process where
  chain := chain
  tables := .empty
  lastHeight := 0
  phase := .waiting
  recorded := []
  pending := []
  replayed := []

def runStatement (s : Process) (chainHeight : Nat) (block : Block) (st : Statement)
    (todo : List Statement) : Process :=
  match st.exec s.tables with
  | none => { s with phase := .waiting }
  | some tables =>
    { s with
      tables := tables
      phase := .indexing chainHeight block todo
      recorded := if st.isNewBlock s.tables then s.recorded ++ [block] else s.recorded
      pending := st.pendingAfter s.tables s.pending }

/-- The next step of the process. -/
def advance (s : Process) : Process :=
  match s.phase with
  -- `getblockcount`
  | .waiting => { s with phase := .polling (s.chain.length - 1) }
  | .polling chainHeight =>
    if s.lastHeight + 1 ≤ chainHeight then
      -- `getblockhash` fails above the tip
      match s.chain[s.lastHeight + 1]? with
      | none => { s with phase := .waiting }
      | some block =>
        { s with phase := .indexing chainHeight block (indexBlock (s.lastHeight + 1) block) }
    else { s with phase := .waiting }
  | .indexing chainHeight block (st :: todo) => s.runStatement chainHeight block st todo
  | .indexing chainHeight _ [] =>
    { s with lastHeight := s.lastHeight + 1, phase := .polling chainHeight }

/-- A call of the node fails. -/
def callFails (s : Process) : Process :=
  match s.phase with
  | .polling _ => { s with phase := .waiting }
  | _ => s

/-- The process is stopped and started again, with `getLastIndexedHeight`. -/
def restart (s : Process) : Process :=
  { s with
    lastHeight := s.tables.lastIndexedHeight
    phase := .waiting
    pending := []
    replayed := s.replayed ++ s.pending }

end Process

/-- What happens next. -/
inductive Event
  | node (chain : List Block)
  | advance
  | callFails
  | restart
  deriving DecidableEq

def Process.step (s : Process) : Event → Process
  | .node chain => { s with chain := chain }
  | .advance => s.advance
  | .callFails => s.callFails
  | .restart => s.restart

def Process.CaughtUp (s : Process) : Prop :=
  (∀ chainHeight block todo, s.phase ≠ .indexing chainHeight block todo) ∧
    s.chain.length ≤ s.lastHeight + 1

/-- The transactions of a chain in their order. -/
def transactions (chain : List Block) : List TX := chain.flatMap Block.tx

/-- What the consensus rules say of one transaction. -/
structure TX.Valid (tx : TX) : Prop where
  spent_nodup : tx.spent.Nodup
  vout_nodup : (tx.vout.map VOUT.n).Nodup
  spent_ne : ∀ outpoint ∈ tx.spent, outpoint.1 ≠ tx.txid

/-- What the consensus rules say of a transaction and a later one. -/
structure TX.Before (tx tx' : TX) : Prop where
  txid_ne : tx.txid ≠ tx'.txid
  spent_ne : ∀ outpoint ∈ tx.spent, outpoint.1 ≠ tx'.txid
  spent_once : ∀ outpoint ∈ tx.spent, outpoint ∉ tx'.spent

/-- What a chain that the node accepts is like. -/
structure ValidChain (chain : List Block) : Prop where
  valid : ∀ tx ∈ transactions chain, tx.Valid
  order : (transactions chain).Pairwise TX.Before

/-- The transaction of a chain that spends an output. -/
def spender (chain : List Block) (outpoint : Outpoint) : Option TX :=
  (transactions chain).find? fun tx => outpoint ∈ tx.spent

/-- The tables hold the blocks of a chain above its genesis block, their transactions, and the
    outputs with an address and who spends them. -/
structure Describes (t : Tables) (chain : List Block) : Prop where
  blocks : ∀ height row, t.blocks.read height = some row ↔
    0 < height ∧ ∃ block, chain[height]? = some block ∧ row = block.row
  transactions : ∀ txid row, t.transactions.read txid = some row ↔
    ∃ height block, 0 < height ∧ chain[height]? = some block ∧
      ∃ tx ∈ block.tx, tx.txid = txid ∧ row = tx.row height block
  utxos : ∀ outpoint row, t.utxos.read outpoint = some row ↔
    ∃ height block, 0 < height ∧ chain[height]? = some block ∧
      ∃ tx ∈ block.tx, ∃ vout ∈ tx.vout, vout.address ≠ [] ∧ outpoint = (tx.txid, vout.n) ∧
        row = { vout.row height with
          spent := (spender chain.tail outpoint).isSome
          spentTxid := (spender chain.tail outpoint).map TX.txid }

end GarudaChain.Indexer
