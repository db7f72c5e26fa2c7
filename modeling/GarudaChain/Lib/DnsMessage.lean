import GarudaChain.Lib.Reader
import Mathlib.Algebra.Order.Ring.Nat
import Mathlib.Tactic.Ring

/-!
# Messages of the domain name system

The format of RFC 1035: a header with the numbers of questions and of records of three sections, and
then these.
-/

namespace DnsMessage

open Reader

/-- A number of bytes, the highest first. -/
def fromBytes (bs : List UInt8) : Nat := bs.foldl (fun n b => n * 256 + b.toNat) 0

/-- The lowest bytes of a number, the highest of them first. -/
def toBytes : Nat → Nat → List UInt8
  | 0, _ => []
  | width + 1, n => UInt8.ofNat (n / 256 ^ width) :: toBytes width n

@[simp] theorem length_toBytes (width n : Nat) : (toBytes width n).length = width := by
  induction width with
  | zero => rfl
  | succ width ih => rw [toBytes, List.length_cons, ih]

theorem fromBytes_toBytes {width n : Nat} (h : n < 256 ^ width) : fromBytes (toBytes width n) = n := by
  have hfold : ∀ width start, (toBytes width n).foldl (fun n b => n * 256 + b.toNat) start =
      start * 256 ^ width + n % 256 ^ width := by
    intro width
    induction width with
    | zero => intro start; simp [toBytes, Nat.mod_one]
    | succ width ih =>
      intro start
      have hbyte : (UInt8.ofNat (n / 256 ^ width)).toNat = n / 256 ^ width % 256 := UInt8.toNat_ofNat'
      rw [toBytes, List.foldl_cons, ih, hbyte, pow_succ, Nat.mod_mul]
      ring
  rw [fromBytes, hfold, zero_mul, zero_add, Nat.mod_eq_of_lt h]

/-- The bytes of a name without pointers. -/
def nameBytes (name : List (List UInt8)) : List UInt8 :=
  name.flatMap (fun label => UInt8.ofNat label.length :: label) ++ [0]

/-- A label that may be written. -/
def ValidLabel (label : List UInt8) : Prop := 1 ≤ label.length ∧ label.length ≤ 63

instance (label : List UInt8) : Decidable (ValidLabel label) :=
  inferInstanceAs (Decidable (_ ∧ _))

/-- A name that may be written. -/
structure ValidName (name : List (List UInt8)) : Prop where
  labels : ∀ label ∈ name, ValidLabel label
  size : (nameBytes name).length ≤ 255

def number (width : Nat) : Reader String Nat := do
  let bs ← Reader.bytes "message too short" width
  return fromBytes bs

/-- Continue at an earlier place of the message, and come back. -/
def jump {α : Type} (r : Reader String α) (target : List UInt8) : Reader String α := fun s =>
  match r target with
  | .ok (a, _) => .ok (a, s)
  | .error e => .error e

/-- The labels of a name, over at most so many labels and pointers. -/
def labels (msg : List UInt8) : Nat → Reader String (List (List UInt8))
  | 0 => Reader.fail "name too long"
  | fuel + 1 => do
    let len ← number 1
    if len = 0 then return []
    else if len < 64 then do
      let label ← Reader.bytes "message too short" len
      let rest ← labels msg fuel
      return label :: rest
    else if len < 192 then Reader.fail "reserved label type"
    else do
      let low ← number 1
      jump (labels msg fuel) (msg.drop ((len - 192) * 256 + low))

def name (msg : List UInt8) : Reader String (List (List UInt8)) := do
  let name ← labels msg 256
  Reader.check (decide ((nameBytes name).length ≤ 255)) "name too long"
  return name

structure Question where
  qname : List (List UInt8)
  qtype : Nat
  qclass : Nat
  deriving DecidableEq

structure Record where
  owner : List (List UInt8)
  rtype : Nat
  rclass : Nat
  ttl : Nat
  rdata : List UInt8
  deriving DecidableEq

structure Message where
  id : Nat
  flags : Nat
  questions : List Question
  answers : List Record
  authorities : List Record
  additionals : List Record
  deriving DecidableEq

def question (msg : List UInt8) : Reader String Question := do
  let qname ← name msg
  let qtype ← number 2
  let qclass ← number 2
  return ⟨qname, qtype, qclass⟩

def record (msg : List UInt8) : Reader String Record := do
  let owner ← name msg
  let rtype ← number 2
  let rclass ← number 2
  let ttl ← number 4
  let rdlength ← number 2
  let rdata ← Reader.bytes "message too short" rdlength
  return ⟨owner, rtype, rclass, ttl, rdata⟩

def sections (msg : List UInt8) : Reader String Message := do
  let id ← number 2
  let flags ← number 2
  let qdcount ← number 2
  let ancount ← number 2
  let nscount ← number 2
  let arcount ← number 2
  let questions ← (question msg).many qdcount
  let answers ← (record msg).many ancount
  let authorities ← (record msg).many nscount
  let additionals ← (record msg).many arcount
  return ⟨id, flags, questions, answers, authorities, additionals⟩

/-- A message with nothing after it. -/
def parse (msg : List UInt8) : Except String Message :=
  match sections msg msg with
  | .ok (m, []) => .ok m
  | .ok (_, _ :: _) => .error "bytes after the message"
  | .error e => .error e

def questionBytes (q : Question) : List UInt8 := nameBytes q.qname ++ toBytes 2 q.qtype ++ toBytes 2 q.qclass

def recordBytes (r : Record) : List UInt8 :=
  nameBytes r.owner ++ toBytes 2 r.rtype ++ toBytes 2 r.rclass ++ toBytes 4 r.ttl ++
    toBytes 2 r.rdata.length ++ r.rdata

/-- A record that may be written. -/
structure ValidRecord (r : Record) : Prop where
  owner : ValidName r.owner
  rtype : r.rtype < 2 ^ 16
  rclass : r.rclass < 2 ^ 16
  ttl : r.ttl < 2 ^ 32
  rdata : r.rdata.length < 2 ^ 16

variable {msg : List UInt8}

theorem reads_number {width : Nat} {bs : List UInt8} (h : bs.length = width) :
    Reads (number width) bs (fromBytes bs) :=
  (Reads.bytes _ h).map

theorem reads_toBytes {width n : Nat} (h : n < 256 ^ width) : Reads (number width) (toBytes width n) n := by
  have hread := reads_number (length_toBytes width n)
  rwa [fromBytes_toBytes h] at hread

theorem nameBytes_cons (label : List UInt8) (name : List (List UInt8)) :
    nameBytes (label :: name) = toBytes 1 label.length ++ (label ++ nameBytes name) := by
  simp [nameBytes, toBytes]

theorem reads_labels {name : List (List UInt8)} (hvalid : ∀ label ∈ name, ValidLabel label) : ∀ {fuel : Nat},
    name.length < fuel → Reads (labels msg fuel) (nameBytes name) name := by
  induction name with
  | nil =>
    intro fuel hfuel
    obtain ⟨fuel, rfl⟩ := Nat.exists_eq_succ_of_ne_zero (show fuel ≠ 0 by omega)
    have hzero : Reads (number 1) (toBytes 1 0) 0 := reads_toBytes (by decide)
    change Reads _ (toBytes 1 0 ++ []) _
    exact hzero.bind (Reads.pure [])
  | cons label name ih =>
    intro fuel hfuel
    obtain ⟨fuel, rfl⟩ := Nat.exists_eq_succ_of_ne_zero (show fuel ≠ 0 by omega)
    obtain ⟨⟨hpos, hle⟩, hname⟩ := List.forall_mem_cons.mp hvalid
    rw [nameBytes_cons]
    refine (reads_toBytes (by omega)).bind ?_
    rw [if_neg (by omega), if_pos (by omega)]
    exact (Reads.bytes _ rfl).bind ((ih hname (by simpa using hfuel)).map (f := fun rest => label :: rest))

theorem length_nameBytes_ge {name : List (List UInt8)} (hvalid : ∀ label ∈ name, ValidLabel label) :
    2 * name.length + 1 ≤ (nameBytes name).length := by
  induction name with
  | nil => simp [nameBytes]
  | cons label name ih =>
    obtain ⟨⟨hpos, -⟩, hname⟩ := List.forall_mem_cons.mp hvalid
    rw [nameBytes_cons, List.length_append, List.length_append, length_toBytes, List.length_cons]
    have := ih hname
    omega

theorem reads_name {n : List (List UInt8)} (h : ValidName n) : Reads (name msg) (nameBytes n) n := by
  have hlength := length_nameBytes_ge h.labels
  have hsize := h.size
  rw [← List.append_nil (nameBytes n)]
  refine (reads_labels h.labels (by omega)).bind ?_
  exact Reads.check_bind _ (decide_eq_true hsize) (Reads.pure n)

theorem reads_question {q : Question} (hname : ValidName q.qname) (htype : q.qtype < 2 ^ 16)
    (hclass : q.qclass < 2 ^ 16) : Reads (question msg) (questionBytes q) q := by
  rw [questionBytes, List.append_assoc]
  exact (reads_name hname).bind ((reads_toBytes (by simpa using htype)).bind
    ((reads_toBytes (by simpa using hclass)).map (f := fun c => Question.mk q.qname q.qtype c)))

theorem reads_record {r : Record} (h : ValidRecord r) : Reads (record msg) (recordBytes r) r := by
  simp only [recordBytes, List.append_assoc]
  exact (reads_name h.owner).bind ((reads_toBytes (by simpa using h.rtype)).bind
    ((reads_toBytes (by simpa using h.rclass)).bind ((reads_toBytes (by simpa using h.ttl)).bind
      ((reads_toBytes (by simpa using h.rdata)).bind
        ((Reads.bytes _ rfl).map (f := fun d => Record.mk r.owner r.rtype r.rclass r.ttl d))))))

/-- A reply to one question: a header without further sections, the question and the answers. -/
def replyBytes (id flags : List UInt8) (q : Question) (answers : List Record) : List UInt8 :=
  id ++ (flags ++ (toBytes 2 1 ++ (toBytes 2 answers.length ++ (toBytes 2 0 ++ (toBytes 2 0 ++
    (questionBytes q ++ answers.flatMap recordBytes))))))

section

variable {id flags : List UInt8} (hid : id.length = 2) (hflags : flags.length = 2) (q : Question)
  (answers : List Record)

include hid hflags

theorem ancount_replyBytes :
    ((replyBytes id flags q answers).drop 6).take 2 = toBytes 2 answers.length := by
  have hsplit : replyBytes id flags q answers = (id ++ flags ++ toBytes 2 1) ++ (toBytes 2 answers.length ++
      (toBytes 2 0 ++ (toBytes 2 0 ++ (questionBytes q ++ answers.flatMap recordBytes)))) := by
    simp only [replyBytes, List.append_assoc]
  rw [hsplit, List.drop_left' (by simp [hid, hflags]), List.take_left' (length_toBytes _ _)]

theorem drop_replyBytes :
    (replyBytes id flags q answers).drop 12 = questionBytes q ++ answers.flatMap recordBytes := by
  have hsplit : replyBytes id flags q answers = (id ++ flags ++ toBytes 2 1 ++ toBytes 2 answers.length ++
      toBytes 2 0 ++ toBytes 2 0) ++ (questionBytes q ++ answers.flatMap recordBytes) := by
    simp only [replyBytes, List.append_assoc]
  rw [hsplit, List.drop_left' (by simp [hid, hflags])]

theorem length_replyBytes : (replyBytes id flags q answers).length =
    12 + ((nameBytes q.qname).length + 4) + (answers.flatMap recordBytes).length := by
  simp [replyBytes, questionBytes, hid, hflags]
  omega

end

theorem parse_replyBytes {id flags : List UInt8} (hid : id.length = 2) (hflags : flags.length = 2)
    {q : Question} (hname : ValidName q.qname) (htype : q.qtype < 2 ^ 16) (hclass : q.qclass < 2 ^ 16)
    {answers : List Record} (hanswers : ∀ r ∈ answers, ValidRecord r) (hcount : answers.length < 2 ^ 16) :
    parse (replyBytes id flags q answers) =
      .ok ⟨fromBytes id, fromBytes flags, [q], answers, [], []⟩ := by
  have hread : ∀ msg, Reads (sections msg) (replyBytes id flags q answers)
      ⟨fromBytes id, fromBytes flags, [q], answers, [], []⟩ := by
    intro msg
    have hquestions : Reads ((question msg).many 1) (questionBytes q) [q] := by
      have hmany : Reads ((question msg).many [q].length) ([q].flatMap questionBytes) [q] :=
        Reads.many (by simpa using reads_question hname htype hclass)
      rwa [List.flatMap_singleton] at hmany
    have hrecords : Reads ((record msg).many answers.length) (answers.flatMap recordBytes) answers :=
      Reads.many fun r hr => reads_record (hanswers r hr)
    refine (reads_number hid).bind ((reads_number hflags).bind ((reads_toBytes (by decide)).bind
      ((reads_toBytes (by simpa using hcount)).bind ((reads_toBytes (by decide)).bind
        ((reads_toBytes (by decide)).bind (hquestions.bind ?_))))))
    rw [← List.append_nil (answers.flatMap recordBytes)]
    exact hrecords.bind (Reads.pure _)
  have hall := hread (replyBytes id flags q answers) []
  rw [List.append_nil] at hall
  rw [parse, hall]

end DnsMessage
