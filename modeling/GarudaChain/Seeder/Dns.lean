import GarudaChain.Seeder.Crawler

/-!
# The DNS server of the seeder

It answers the queries for one host name with the addresses of the nodes that the crawler has found.
-/

namespace GarudaChain.Seeder

def maxAnswers : Nat := 25

/-- The dot. -/
def dot : UInt8 := 0x2e

/-- The two bytes of a number. -/
def bytes16 (n : Nat) : Bytes := [UInt8.ofNat (n / 256), UInt8.ofNat n]

structure Question where
  name : Bytes
  qtype : Nat
  qclass : Nat
  stop : Nat
  deriving DecidableEq

/-- The loop of `parseQuestion`: the parts, and what is left after them. Every round takes a byte. -/
def readParts : Nat → Bytes → Option (List Bytes × Bytes)
  | 0, data => some ([], data)
  | _ + 1, [] => some ([], [])
  | fuel + 1, l :: data =>
    if l = 0 then some ([], data)
    else if data.length < l.toNat then none
    else (readParts fuel (data.drop l.toNat)).map fun (parts, rest) => (data.take l.toNat :: parts, rest)

/-- `strings.Join(parts, ".") + "."`. -/
def dottedName (parts : List Bytes) : Bytes := [dot].intercalate parts ++ [dot]

def parseQuestion (data : Bytes) : Option Question :=
  (readParts data.length data).bind fun (parts, rest) =>
    match rest with
    | t1 :: t0 :: c1 :: c0 :: rest' =>
      some ⟨dottedName parts, t1.toNat * 256 + t0.toNat, c1.toNat * 256 + c0.toNat,
        data.length - rest'.length⟩
    | _ => none

/-- `strings.TrimSuffix(name, ".")`. -/
def trimDot (name : Bytes) : Bytes := if name.getLast? = some dot then name.dropLast else name

def encodeName (name : Bytes) : Bytes :=
  ((trimDot name).splitOn dot).flatMap (fun p => UInt8.ofNat p.length :: p) ++ [0]

def buildRR (name : Bytes) (rtype ttl : Nat) (rdata : Bytes) : Bytes :=
  encodeName name ++ bytes16 rtype ++ [0, 1] ++
    [UInt8.ofNat (ttl / 2 ^ 24), UInt8.ofNat (ttl / 2 ^ 16), UInt8.ofNat (ttl / 2 ^ 8), UInt8.ofNat ttl] ++
    bytes16 rdata.length ++ rdata

def recordOf (qtype : Nat) (ip : Bytes) : Option (Nat × Bytes) :=
  if qtype = 1 ∨ qtype = 255 then (to4 ip).map fun ip4 => (1, ip4)
  else if qtype = 28 then
    match to16 ip, to4 ip with
    | some ip6, none => some (28, ip6)
    | _, _ => none
  else none

/-- The loop of `handle` over the nodes, after so many answers. -/
def collectAnswers (qname : Bytes) (qtype : Nat) : Nat → List Bytes → List Bytes
  | _, [] => []
  | added, ip :: nodes =>
    if maxAnswers ≤ added then []
    else match recordOf qtype ip with
      | some (rtype, rdata) => buildRR qname rtype 30 rdata :: collectAnswers qname qtype (added + 1) nodes
      | none => collectAnswers qname qtype added nodes

def buildResponse (txid flags qdcount question : Bytes) (answers : List Bytes) : Bytes :=
  txid ++ flags ++ qdcount ++ bytes16 answers.length ++ [0, 0] ++ [0, 0] ++ question ++ answers.flatten

/-- The host of `dns.New`. -/
def newHost (toLower : Bytes → Bytes) (host : Bytes) : Bytes :=
  toLower (if host.getLast? = some dot then host else host ++ [dot])

/-- The name that `handle` compares with the host. -/
def fqdn (toLower : Bytes → Bytes) (qname : Bytes) : Bytes :=
  let lower := toLower qname
  if lower.getLast? = some dot then lower else lower ++ [dot]

/-- `handle`: the reply to a packet, if there is one. -/
def handle (toLower : Bytes → Bytes) (host : Bytes) (nodes : List Bytes) (pkt : Bytes) : Option Bytes :=
  if pkt.length < 12 then none
  else
    let txid := pkt.take 2
    let rdBit := pkt.getD 2 0 &&& 0x01
    let qdcount := (pkt.drop 4).take 2
    (parseQuestion (pkt.drop 12)).map fun q =>
      let question := (pkt.drop 12).take q.stop
      if fqdn toLower q.name ≠ host then buildResponse txid [0x84 ||| rdBit, 0x03] qdcount question []
      else buildResponse txid [0x84 ||| rdBit, 0x00] qdcount question (collectAnswers q.name q.qtype 0 nodes)

end GarudaChain.Seeder
