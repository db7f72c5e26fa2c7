import GarudaChain.Lib.Words
import GarudaChain.Mobile.Wallet

/-!
# Recovery phrases in the mobile wallet

`utils/wallet-crypto.ts` from phrases to keys, the screen that opens a new wallet (`dompet-siap.tsx`)
and the one that imports a phrase (`impor-dompet.tsx`).
-/

namespace GarudaChain.Mobile

open Extension (polymod hrpExpand CHARSET convertBits toHex)

def WORDLIST : List String :=
  ["abandon", "ability", "able", "about", "above", "absent", "absorb", "abstract", "absurd",
    "abuse", "access", "accident", "account", "accuse", "achieve", "acid", "acoustic", "acquire",
    "across", "act", "action", "actor", "actress", "actual", "adapt", "add", "addict", "address",
    "adjust", "admit", "adult", "advance", "advice", "aerobic", "affair", "afford", "afraid",
    "again", "age", "agent", "agree", "ahead", "aim", "air", "airport", "aisle", "alarm", "album",
    "alcohol", "alert", "alien", "all", "alley", "allow", "almost", "alone", "alpha", "already",
    "also", "alter", "always", "amateur", "amazing", "among", "amount", "amused", "analyst",
    "anchor", "ancient", "anger", "angle", "angry", "animal", "ankle", "announce", "annual",
    "another", "answer", "antenna", "antique", "anxiety", "any", "apart", "apology", "appear",
    "apple", "approve", "april", "arch", "arctic", "area", "arena", "argue", "arm", "armed",
    "armor", "army", "around", "arrange", "arrest", "arrive", "arrow", "art", "artefact", "artist",
    "artwork", "ask", "aspect", "assault", "asset", "assist", "assume", "asthma", "athlete",
    "atom", "attack", "attend", "attitude", "attract", "auction", "audit", "august", "aunt",
    "author", "auto", "autumn", "average", "avocado", "avoid", "awake", "aware", "awesome",
    "awful", "awkward", "axis", "baby", "bachelor", "bacon", "badge", "bag", "balance", "balcony",
    "ball", "bamboo", "banana", "banner", "bar", "barely", "bargain", "barrel", "base", "basic",
    "basket", "battle", "beach", "bean", "beauty", "because", "become", "beef", "before", "begin",
    "behave", "behind", "believe", "below", "belt", "bench", "benefit", "best", "betray", "better",
    "between", "beyond", "bicycle", "bid", "bike", "bind", "biology", "bird", "birth", "bitter",
    "black", "blade", "blame", "blanket", "blast", "bleak", "bless", "blind", "blood", "blossom",
    "blow", "blue", "blur", "blush", "board", "boat", "body", "boil", "bomb", "bone", "bonus",
    "book", "boost", "border", "boring", "borrow", "boss", "bottom", "bounce", "box", "boy",
    "bracket", "brain", "brand", "brass", "brave", "bread", "breeze", "brick", "bridge", "brief",
    "bright", "bring", "brisk", "broccoli", "broken", "bronze", "broom", "brother", "brown",
    "brush", "bubble", "buddy", "budget", "buffalo", "build", "bulb", "bulk", "bullet", "bundle",
    "bunny", "burden", "burger", "burst", "bus", "business", "busy", "butter", "buyer", "buzz",
    "cabbage", "cabin", "cable", "cactus"]

/-- `generateMnemonic`, on 24 random bytes. -/
def generateMnemonic (entropy : Fin 24 → UInt8) : List Char :=
  [' '].intercalate
    ((List.ofFn entropy).map fun b => (WORDLIST.getD (b.toNat % 256) "").toList)

/-- White space and line ends, which `trim` drops and `\s` matches. -/
def isWhite (c : Char) : Bool :=
  [0x09, 0x0a, 0x0b, 0x0c, 0x0d, 0x20, 0xa0, 0x1680, 0x2028, 0x2029, 0x202f, 0x205f, 0x3000,
    0xfeff].contains c.toNat || decide (0x2000 ≤ c.toNat ∧ c.toNat ≤ 0x200a)

/-- `toLowerCase`, character by character; no word of the list has a final sigma. -/
structure LowerCase where
  lower : Char → List Char
  white : ∀ c, isWhite c = true → lower c = [c]
  other : ∀ c, isWhite c = false → lower c ≠ [] ∧ ∀ d ∈ lower c, isWhite d = false

/-- The words of a phrase that `validateMnemonic` looks at. -/
def phraseWords (lc : LowerCase) (mnemonic : List Char) : List (List Char) :=
  Words.split isWhite ((Words.trim isWhite mnemonic).flatMap lc.lower)

def validateMnemonic (lc : LowerCase) (mnemonic : List Char) : Bool :=
  let words := phraseWords lc mnemonic
  if words.length ≠ 24 then false
  else words.all fun w => (WORDLIST.map String.toList).contains w

structure KeyLibs extends Extension.WalletLibs where
  getPublicKey : Bytes → Except String Bytes
  mlDsa87Keygen : Bytes → Bytes × Bytes

structure DerivedKey where
  privateKey : Bytes
  publicKey : Bytes
  address : List Char
  privateKeyHex : List Char
  publicKeyHex : List Char
  deriving DecidableEq

structure DerivedQuantumKey where
  publicKey : Bytes
  secretKey : Bytes
  address : List Char
  publicKeyHex : List Char
  secretKeyHex : List Char
  deriving DecidableEq

/-- `TextEncoder.encode`. -/
def encodeText (s : List Char) : Bytes := s.flatMap String.utf8EncodeChar

def bech32Encode (hrp : List Char) (data : List Nat) : List Char :=
  let checkValues := hrpExpand hrp ++ data ++ [0, 0, 0, 0, 0, 0]
  let pm := polymod checkValues ^^^ 1
  let combined := data ++ (List.range 6).map fun i => (pm.sshiftRight (5 * (5 - i)) &&& 31).toNat
  hrp ++ '1' :: combined.map fun d => CHARSET.getD d ' '

def pubkeyToP2WPKH (libs : KeyLibs) (pubkey : Bytes) : List Char :=
  let h160 := libs.hash160 pubkey
  let words := convertBits h160 8 5 true
  bech32Encode ['g', 'r', 'd'] (0 :: words)

def deriveKey (libs : KeyLibs) (mnemonic : List Char) (accountIndex : Nat) :
    Except String DerivedKey := do
  let phrase := if accountIndex = 0 then mnemonic
    else mnemonic ++ '|' :: Nat.toDigits 10 accountIndex
  let privKey := libs.sha256 (encodeText phrase)
  let pubKey ← libs.getPublicKey privKey
  return { privateKey := privKey
           publicKey := pubKey
           address := pubkeyToP2WPKH libs pubKey
           privateKeyHex := toHex privKey
           publicKeyHex := toHex pubKey }

def deriveQuantumKey (libs : KeyLibs) (mnemonic : List Char) (accountIndex : Nat) :
    DerivedQuantumKey :=
  let phrase := if accountIndex = 0 then mnemonic ++ ['|', 'p', 'q']
    else mnemonic ++ ['|', 'p', 'q', '|'] ++ Nat.toDigits 10 accountIndex
  let seed := libs.sha256 (encodeText phrase)
  let (publicKey, secretKey) := libs.mlDsa87Keygen seed
  { publicKey
    secretKey
    address := Extension.pubkeyToP2PQH libs.toWalletLibs publicKey
    publicKeyHex := toHex publicKey
    secretKeyHex := toHex secretKey }

structure WalletAccount where
  id : String
  name : String
  address : List Char
  publicKey : List Char
  accountIndex : Nat
  quantumAddress : List Char
  deriving DecidableEq

structure StoredWallet where
  mnemonic : List Char
  accounts : List WalletAccount
  activeAccountId : String
  deriving DecidableEq

/-- `saveWallet`. -/
def saveWallet (mnemonic : List Char) (firstAccount : WalletAccount) : StoredWallet :=
  ⟨mnemonic, [firstAccount], firstAccount.id⟩

def openWallet (libs : KeyLibs) (mnemonic : List Char) : Except String (DerivedKey × StoredWallet) := do
  let key ← deriveKey libs mnemonic 0
  let qkey := deriveQuantumKey libs mnemonic 0
  return (key, saveWallet mnemonic
    { id := "account-0"
      name := "Akun 1"
      address := key.address
      publicKey := key.publicKeyHex
      accountIndex := 0
      quantumAddress := qkey.address })

/-- `handleOpen` of `dompet-siap.tsx`; `none` if the screen stays as it is. -/
def handleOpen (libs : KeyLibs) (mnemonic : List Char) : Option (DerivedKey × StoredWallet) :=
  (openWallet libs mnemonic).toOption

inductive ImportResult
  | ignored
  | failed (error : String)
  | imported (key : DerivedKey) (wallet : StoredWallet)
  deriving DecidableEq

/-- `isValid` of `impor-dompet.tsx`. -/
def isValid (lc : LowerCase) (phrase : List Char) : Bool :=
  let trimmed := Words.trim isWhite phrase
  let wordCount := if trimmed = [] then 0 else (Words.split isWhite trimmed).length
  wordCount == 24 && validateMnemonic lc trimmed

/-- `handleImport`, while no other import is under way. -/
def handleImport (libs : KeyLibs) (lc : LowerCase) (phrase : List Char) : ImportResult :=
  if !isValid lc phrase then .ignored
  else
    match openWallet libs (Words.trim isWhite phrase) with
    | .ok (key, wallet) => .imported key wallet
    | .error _ => .failed "Gagal mengimpor dompet. Periksa frasa pemulihan."

end GarudaChain.Mobile
