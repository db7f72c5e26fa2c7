import GarudaChain.Lib.Hex
import GarudaChain.Lib.Utf8

/-!
# JSON as the Go library writes and reads it

The writer of `encoding/json` with HTML escaping, and its reader: the scanner as a machine that takes
one byte after the other and keeps the open arrays and objects on a stack, and the decoding of strings.
-/

namespace Json

/-- A JSON value with its strings decoded; a number stays as it is written. -/
inductive Tree
  | null
  | bool (b : Bool)
  | num (lit : List UInt8)
  | str (s : List UInt8)
  | arr (xs : List Tree)
  | obj (ms : List (List UInt8 × Tree))

/-- `appendString` on a byte below `utf8.RuneSelf`. -/
def escapeByte (b : UInt8) : List UInt8 :=
  -- the quote and the backslash, then `\b`, `\f`, `\n`, `\r` and `\t`
  if b = 0x22 ∨ b = 0x5c then [0x5c, b]
  else if b = 0x08 then [0x5c, 0x62]
  else if b = 0x0c then [0x5c, 0x66]
  else if b = 0x0a then [0x5c, 0x6e]
  else if b = 0x0d then [0x5c, 0x72]
  else if b = 0x09 then [0x5c, 0x74]
  -- the other control characters, and `<`, `>` and `&`
  else if b < 0x20 ∨ b = 0x3c ∨ b = 0x3e ∨ b = 0x26 then
    [0x5c, 0x75, 0x30, 0x30, Hex.digit (b / 16), Hex.digit (b % 16)]
  else [b]

/-- `appendString` on a character of several bytes; U+2028 and U+2029 are escaped as well. -/
def escapeRune (r : List UInt8) : List UInt8 :=
  if r = [0xe2, 0x80, 0xa8] then [0x5c, 0x75, 0x32, 0x30, 0x32, 0x38]
  else if r = [0xe2, 0x80, 0xa9] then [0x5c, 0x75, 0x32, 0x30, 0x32, 0x39]
  else r

/-- What is written for a byte that is not part of a character: `\ufffd`. -/
def escapedReplacement : List UInt8 := [0x5c, 0x75, 0x66, 0x66, 0x66, 0x64]

/-- The loop of `appendString`. Every round takes at least one byte, so the length is enough fuel. -/
def escapeLoop : Nat → List UInt8 → List UInt8
  | 0, _ => []
  | _ + 1, [] => []
  | fuel + 1, b :: s =>
    if b < 0x80 then escapeByte b ++ escapeLoop fuel s
    else match Utf8.runeLen (b :: s) with
      | 0 => escapedReplacement ++ escapeLoop fuel s
      | n + 1 => escapeRune ((b :: s).take (n + 1)) ++ escapeLoop fuel ((b :: s).drop (n + 1))

def escape (s : List UInt8) : List UInt8 := escapeLoop s.length s

/-- A string in quotes. -/
def quote (s : List UInt8) : List UInt8 := 0x22 :: (escape s ++ [0x22])

mutual

def write : Tree → List UInt8
  | .null => [0x6e, 0x75, 0x6c, 0x6c]
  | .bool true => [0x74, 0x72, 0x75, 0x65]
  | .bool false => [0x66, 0x61, 0x6c, 0x73, 0x65]
  | .num lit => lit
  | .str s => quote s
  | .arr [] => [0x5b, 0x5d]
  | .arr (x :: xs) => 0x5b :: (write x ++ writeElems xs)
  | .obj [] => [0x7b, 0x7d]
  | .obj ((k, v) :: ms) => 0x7b :: (quote k ++ 0x3a :: (write v ++ writeMembers ms))

/-- The elements of an array after the first, and its end. -/
def writeElems : List Tree → List UInt8
  | [] => [0x5d]
  | x :: xs => 0x2c :: (write x ++ writeElems xs)

/-- The members of an object after the first, and its end. -/
def writeMembers : List (List UInt8 × Tree) → List UInt8
  | [] => [0x7d]
  | (k, v) :: ms => 0x2c :: (quote k ++ 0x3a :: (write v ++ writeMembers ms))

end

/-- The value of four hexadecimal digits. -/
def hex4 : List UInt8 → Option Nat
  | [a, b, c, d] =>
    match Hex.value a, Hex.value b, Hex.value c, Hex.value d with
    | some a, some b, some c, some d =>
      some (((a.toNat * 16 + b.toNat) * 16 + c.toNat) * 16 + d.toNat)
    | _, _, _, _ => none
  | _ => none

/-- `getu4`: the number that a `\uXXXX` at the start of the text stands for. -/
def getu4 (s : List UInt8) : Option Nat :=
  if s.take 2 = [0x5c, 0x75] then hex4 ((s.drop 2).take 4) else none

/-- `utf8.EncodeRune`. -/
def encodeRune (n : Nat) : List UInt8 :=
  if n < 0x80 then [.ofNat n]
  else if n < 0x800 then [.ofNat (0xc0 + n / 64), .ofNat (0x80 + n % 64)]
  else if n < 0x10000 then
    [.ofNat (0xe0 + n / 4096), .ofNat (0x80 + n / 64 % 64), .ofNat (0x80 + n % 64)]
  else
    [.ofNat (0xf0 + n / 262144), .ofNat (0x80 + n / 4096 % 64), .ofNat (0x80 + n / 64 % 64),
      .ofNat (0x80 + n % 64)]

/-- U+FFFD in UTF-8. -/
def replacement : List UInt8 := [0xef, 0xbf, 0xbd]

/-- `utf16.DecodeRune`: the character of a pair of surrogates. -/
def decodeSurrogates (hi lo : Nat) : Option Nat :=
  if 0xd800 ≤ hi && hi < 0xdc00 && 0xdc00 ≤ lo && lo < 0xe000 then
    some ((hi - 0xd800) * 1024 + (lo - 0xdc00) + 0x10000)
  else none

/-- What an escape of two characters stands for, given its second one. -/
def unescapeByte (e : UInt8) : UInt8 :=
  if e = 0x62 then 0x08
  else if e = 0x66 then 0x0c
  else if e = 0x6e then 0x0a
  else if e = 0x72 then 0x0d
  else if e = 0x74 then 0x09
  else e

/-- The loop of `unquoteBytes` over the text between the quotes, which the scanner has checked. -/
def unquoteLoop : Nat → List UInt8 → List UInt8
  | 0, _ => []
  | _ + 1, [] => []
  | fuel + 1, b :: s =>
    if b = 0x5c then
      match getu4 (b :: s) with
      | some rr =>
        if 0xd800 ≤ rr && rr < 0xe000 then
          match (getu4 (s.drop 5)).bind (decodeSurrogates rr) with
          | some dec => encodeRune dec ++ unquoteLoop fuel (s.drop 11)
          | none => replacement ++ unquoteLoop fuel (s.drop 5)
        else encodeRune rr ++ unquoteLoop fuel (s.drop 5)
      | none => (s.take 1).map unescapeByte ++ unquoteLoop fuel (s.drop 1)
    else match Utf8.runeLen (b :: s) with
      | 0 => replacement ++ unquoteLoop fuel s
      | n + 1 => (b :: s).take (n + 1) ++ unquoteLoop fuel ((b :: s).drop (n + 1))

def unquote (raw : List UInt8) : List UInt8 := unquoteLoop raw.length raw

/-- Where the scanner is in a number: after the sign, a leading zero, the digits, the point, the
    digits after it, the `e`, its sign, the digits of the exponent. -/
inductive NumPart
  | neg | zero | int | dot | frac | exp | expSign | expDigits

def isDigit (c : UInt8) : Bool := decide (0x30 ≤ c) && decide (c ≤ 0x39)

def isExp (c : UInt8) : Bool := c == 0x65 || c == 0x45

/-- The part of a number that its first byte begins. -/
def numStart (c : UInt8) : Option NumPart :=
  if c = 0x2d then some .neg
  else if c = 0x30 then some .zero
  else if isDigit c then some .int
  else none

/-- The next byte of a number, `none` if it does not go on with it. -/
def numStep : NumPart → UInt8 → Option NumPart
  | .neg, c => if c = 0x30 then some .zero else if isDigit c then some .int else none
  | .zero, c => if c = 0x2e then some .dot else if isExp c then some .exp else none
  | .int, c =>
    if isDigit c then some .int else if c = 0x2e then some .dot else if isExp c then some .exp
    else none
  | .dot, c => if isDigit c then some .frac else none
  | .frac, c => if isDigit c then some .frac else if isExp c then some .exp else none
  | .exp, c =>
    if c = 0x2b || c = 0x2d then some .expSign else if isDigit c then some .expDigits else none
  | .expSign, c => if isDigit c then some .expDigits else none
  | .expDigits, c => if isDigit c then some .expDigits else none

/-- A number may end here. -/
def numEnd : NumPart → Bool
  | .zero | .int | .frac | .expDigits => true
  | .neg | .dot | .exp | .expSign => false

/-- The part that the rest of a literal leads to. -/
def numRun : NumPart → List UInt8 → Option NumPart
  | part, [] => some part
  | part, c :: lit =>
    match numStep part c with
    | some part => numRun part lit
    | none => none

/-- The literal is a number of JSON. -/
def isNumber : List UInt8 → Bool
  | [] => false
  | c :: lit =>
    match (numStart c).bind fun part => numRun part lit with
    | some part => numEnd part
    | none => false

/-- An open array with the elements read so far, or an open object with its members and the key that
    is being read; the last ones first. -/
inductive Frame
  | arr (xs : List Tree)
  | obj (ms : List (List UInt8 × Tree)) (key : List UInt8)

inductive Mode
  | beginValue
  | beginValueOrEmpty
  | beginKey
  | beginKeyOrEmpty
  | colon
  | endValue
  | inString (isKey : Bool) (raw : List UInt8)
  | inEscape (isKey : Bool) (raw : List UInt8)
  /-- Inside `\uXXXX`, with the number of digits that are still to come. -/
  | inHex (isKey : Bool) (digits : Nat) (raw : List UInt8)
  | inNumber (part : NumPart) (lit : List UInt8)
  | inLiteral (rest : List UInt8) (v : Tree)
  | endTop (v : Tree)

/-- The scanner: what it expects, and the arrays and objects it is in, the innermost first. -/
structure Scanner where
  mode : Mode
  stack : List Frame

def maxNestingDepth : Nat := 10000

def isSpace (c : UInt8) : Bool := c == 0x20 || c == 0x09 || c == 0x0d || c == 0x0a

/-- A value has been read. -/
def deliver (v : Tree) : List Frame → Scanner
  | [] => ⟨.endTop v, []⟩
  | .arr xs :: stack => ⟨.endValue, .arr (v :: xs) :: stack⟩
  | .obj ms key :: stack => ⟨.endValue, .obj ((key, v) :: ms) [] :: stack⟩

/-- `pushParseState`. -/
def push (frame : Frame) (mode : Mode) (stack : List Frame) : Option Scanner :=
  if stack.length + 1 ≤ maxNestingDepth then some ⟨mode, frame :: stack⟩ else none

/-- A string has been read, as a key or as a value. -/
def deliverString (isKey : Bool) (raw : List UInt8) (stack : List Frame) : Option Scanner :=
  if isKey then
    match stack with
    | .obj ms _ :: stack => some ⟨.colon, .obj ms (unquote raw) :: stack⟩
    | _ => none
  else some (deliver (.str (unquote raw)) stack)

def stepBeginValue (c : UInt8) (stack : List Frame) : Option Scanner :=
  if isSpace c then some ⟨.beginValue, stack⟩
  else if c = 0x7b then push (.obj [] []) .beginKeyOrEmpty stack
  else if c = 0x5b then push (.arr []) .beginValueOrEmpty stack
  else if c = 0x22 then some ⟨.inString false [], stack⟩
  else if c = 0x74 then some ⟨.inLiteral [0x72, 0x75, 0x65] (.bool true), stack⟩
  else if c = 0x66 then some ⟨.inLiteral [0x61, 0x6c, 0x73, 0x65] (.bool false), stack⟩
  else if c = 0x6e then some ⟨.inLiteral [0x75, 0x6c, 0x6c] .null, stack⟩
  else (numStart c).map fun part => ⟨.inNumber part [c], stack⟩

def stepBeginKey (c : UInt8) (stack : List Frame) : Option Scanner :=
  if isSpace c then some ⟨.beginKey, stack⟩
  else if c = 0x22 then some ⟨.inString true [], stack⟩
  else none

/-- `stateEndValue` inside an array or an object. -/
def stepEndValue (c : UInt8) (stack : List Frame) : Option Scanner :=
  if isSpace c then some ⟨.endValue, stack⟩
  else match stack with
    | .arr xs :: outer =>
      if c = 0x2c then some ⟨.beginValue, stack⟩
      else if c = 0x5d then some (deliver (.arr xs.reverse) outer)
      else none
    | .obj ms _ :: outer =>
      if c = 0x2c then some ⟨.beginKey, stack⟩
      else if c = 0x7d then some (deliver (.obj ms.reverse) outer)
      else none
    | [] => none

/-- The byte after a value: `stateEndValue`, or `stateEndTop` after the outermost one. -/
def stepAfter (sc : Scanner) (c : UInt8) : Option Scanner :=
  match sc.mode with
  | .endValue => stepEndValue c sc.stack
  | .endTop v => if isSpace c then some ⟨.endTop v, sc.stack⟩ else none
  | _ => none

def step (sc : Scanner) (c : UInt8) : Option Scanner :=
  match sc.mode with
  | .beginValue => stepBeginValue c sc.stack
  | .beginValueOrEmpty =>
    if isSpace c then some sc
    else if c = 0x5d then stepEndValue c sc.stack
    else stepBeginValue c sc.stack
  | .beginKey => stepBeginKey c sc.stack
  | .beginKeyOrEmpty =>
    if isSpace c then some sc
    else if c = 0x7d then stepEndValue c sc.stack
    else stepBeginKey c sc.stack
  | .colon =>
    if isSpace c then some sc
    else if c = 0x3a then some ⟨.beginValue, sc.stack⟩
    else none
  | .inString isKey raw =>
    if c = 0x22 then deliverString isKey raw sc.stack
    else if c = 0x5c then some ⟨.inEscape isKey (raw ++ [c]), sc.stack⟩
    else if c < 0x20 then none
    else some ⟨.inString isKey (raw ++ [c]), sc.stack⟩
  | .inEscape isKey raw =>
    if c = 0x75 then some ⟨.inHex isKey 4 (raw ++ [c]), sc.stack⟩
    else if c ∈ [0x62, 0x66, 0x6e, 0x72, 0x74, 0x5c, 0x2f, 0x22] then
      some ⟨.inString isKey (raw ++ [c]), sc.stack⟩
    else none
  | .inHex isKey digits raw =>
    if (Hex.value c).isNone then none
    else if digits ≤ 1 then some ⟨.inString isKey (raw ++ [c]), sc.stack⟩
    else some ⟨.inHex isKey (digits - 1) (raw ++ [c]), sc.stack⟩
  | .inNumber part lit =>
    match numStep part c with
    | some part => some ⟨.inNumber part (lit ++ [c]), sc.stack⟩
    | none => if numEnd part then stepAfter (deliver (.num lit) sc.stack) c else none
  | .inLiteral rest v =>
    match rest with
    | [] => none
    | [d] => if c = d then some (deliver v sc.stack) else none
    | d :: rest => if c = d then some ⟨.inLiteral rest v, sc.stack⟩ else none
  | .endValue | .endTop _ => stepAfter sc c

/-- The scanner on one byte after the other. -/
def feed (sc : Scanner) : List UInt8 → Option Scanner
  | [] => some sc
  | c :: s =>
    match step sc c with
    | some sc => feed sc s
    | none => none

/-- The value of a whole text. At its end the scanner is given a space, which ends a number. -/
def parse (s : List UInt8) : Option Tree :=
  match feed ⟨.beginValue, []⟩ (s ++ [0x20]) with
  | some ⟨.endTop v, _⟩ => some v
  | _ => none

end Json
