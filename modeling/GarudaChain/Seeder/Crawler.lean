import GarudaChain.Node.Serialize

/-!
# The peers that the seeder asks for

After the handshake the crawler of the seeder sends `getaddr`, reads one message and takes its payload
for a list of addresses.
-/

namespace GarudaChain.Seeder

def v4InV6Prefix : Bytes := [0, 0, 0, 0, 0, 0, 0, 0, 0, 0, 0xff, 0xff]

/-- `IP.To4`. -/
def to4 (ip : Bytes) : Option Bytes :=
  if ip.length = 4 then some ip
  else if ip.length = 16 ∧ ip.take 12 = v4InV6Prefix then some (ip.drop 12)
  else none

/-- `IP.To16`. -/
def to16 (ip : Bytes) : Option Bytes :=
  if ip.length = 4 then some (v4InV6Prefix ++ ip)
  else if ip.length = 16 then some ip
  else none

/-- `readFull`: the next bytes, and what follows them. -/
def readFull (n : Nat) (conn : Bytes) : Option (Bytes × Bytes) :=
  if n ≤ conn.length then some (conn.take n, conn.drop n) else none

/-- The command of a header, padded with zeros. -/
def command (hdr : Bytes) : Bytes := (hdr.drop 4).take 12

def payloadLength (hdr : Bytes) : Nat := readLE ((hdr.drop 16).take 4)

structure PeerAddr where
  ip : String
  port : Nat
  deriving DecidableEq

section

variable (ipString : Bytes → String)

def parseEntry (entry : Bytes) : PeerAddr :=
  let ip := (entry.drop 12).take 16
  ⟨ipString ((to4 ip).getD ip), readLE ((entry.drop 28).take 2).reverse⟩

/-- The loop of `parseAddr`: at most so many entries, from what is left. -/
def parseEntries : Nat → Bytes → List PeerAddr
  | 0, _ => []
  | count + 1, rest =>
    if 30 ≤ rest.length then parseEntry ipString rest :: parseEntries count (rest.drop 30) else []

def parseAddr : Bytes → List PeerAddr
  | [] => []
  | count :: rest => parseEntries ipString count.toNat rest

def getaddr (conn : Bytes) : List PeerAddr :=
  match readFull 24 conn with
  | none => []
  | some (hdr, conn) =>
    if payloadLength hdr > 512 * 1024 then []
    else match readFull (payloadLength hdr) conn with
      | none => []
      | some (payload, _) => parseAddr ipString payload

end

/-- An entry of an `addr` message. -/
structure NetAddress where
  time : UInt32
  services : UInt64
  ip : Bytes
  port : UInt16
  ip_length : ip.length = 16

def serializeNetAddress (a : NetAddress) : Bytes :=
  writeLE 4 a.time.toNat ++ writeLE 8 a.services.toNat ++ a.ip ++ (writeLE 2 a.port.toNat).reverse

/-- The payload of an `addr` message. -/
def addrPayload (peers : List NetAddress) : Bytes := serializeVector serializeNetAddress peers

/-- A peer as the crawler keeps it. -/
def NetAddress.shown (ipString : Bytes → String) (a : NetAddress) : PeerAddr :=
  ⟨ipString ((to4 a.ip).getD a.ip), a.port.toNat⟩

/-- `"addr"` in twelve bytes. -/
def addrCommand : Bytes := [0x61, 0x64, 0x64, 0x72, 0, 0, 0, 0, 0, 0, 0, 0]

def firstMessage (conn : Bytes) : Option (Bytes × Bytes) :=
  (readFull 24 conn).bind fun (hdr, rest) =>
    (readFull (payloadLength hdr) rest).map fun (payload, _) => (hdr, payload)

end GarudaChain.Seeder
