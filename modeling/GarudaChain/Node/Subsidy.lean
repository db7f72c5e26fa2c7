import GarudaChain.Lib.Int64
import GarudaChain.Node.Primitives

/-!
# The block subsidy

`GetBlockSubsidy` of `validation.cpp`.
-/

namespace GarudaChain

/-- `std::isspace` in the classic locale. -/
def isSpace (c : Char) : Bool :=
  c == ' ' || c == '\t' || c == '\n' || c == '\x0b' || c == '\x0c' || c == '\r'

def digitsValue : List Char → Nat → Nat
  | [], acc => acc
  | c :: cs, acc => digitsValue cs (acc * 10 + (c.toNat - '0'.toNat))

/-- The sign in front of a number, and what follows it. -/
def readSign : List Char → Bool × List Char
  | '-' :: cs => (true, cs)
  | '+' :: cs => (false, cs)
  | cs => (false, cs)

/-- `stream >> n` for a `long long`: the number and the rest of the stream. -/
def readLongLong (stream : List Char) : Option (Int × List Char) :=
  let (negative, cs) := readSign (stream.dropWhile isSpace)
  let digits := cs.takeWhile Char.isDigit
  if digits.isEmpty then none
  else
    let n : Int := if negative then -(digitsValue digits 0 : Int) else digitsValue digits 0
    if n < -9223372036854775808 || n > 9223372036854775807 then none
    else some (n, cs.dropWhile Char.isDigit)

/-- `HISTORICAL_MINTS`: heights and amounts in whole GRD. -/
def historicalMints : List (Nat × Int) := [(161, 1000000000), (257, 1000000000)]

/-- The loop over the lines `<height> <amount_grd>` of `/tmp/garuda-mint`: the amount of the first
    match. -/
def pendingMintLoop (nHeight : Nat) : Nat → List Char → Option Int
  | 0, _ => none
  | fuel + 1, f =>
    match readLongLong f with
    | none => none
    | some (th, f) =>
      match readLongLong f with
      | none => none
      | some (amt, f) =>
        if th == (nHeight : Int) && decide (amt > 0) then some (wrap64 (amt * oneCoin))
        else pendingMintLoop nHeight fuel f

def getBlockSubsidy (mintFile : Option (List Char)) (nHeight : Nat) : Int :=
  if nHeight == 0 then 10 * oneCoin
  else match historicalMints.lookup nHeight with
    | some amount => amount * oneCoin
    | none =>
      match mintFile.bind fun f => pendingMintLoop nHeight f.length f with
      | some subsidy => subsidy
      | none => oneCoin / 100

end GarudaChain
