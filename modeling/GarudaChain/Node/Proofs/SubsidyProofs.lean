import GarudaChain.Node.Chain

/-!
# The subsidy and the mint file
-/

namespace GarudaChain

open Int64Lib

theorem pendingMintLoop_range (nHeight : Nat) (fuel : Nat) : ∀ (f : List Char) (subsidy : Int),
    pendingMintLoop nHeight fuel f = some subsidy →
      -9223372036854775808 ≤ subsidy ∧ subsidy < 9223372036854775808 := by
  induction fuel with
  | zero => intro f subsidy h; cases h
  | succ fuel ih =>
    intro f subsidy h
    rw [pendingMintLoop] at h
    split at h
    · cases h
    · split at h
      · cases h
      · split at h
        · cases h
          exact wrap64_range _
        · exact ih _ subsidy h

theorem historicalMints_range {nHeight : Nat} {amount : Int}
    (h : historicalMints.lookup nHeight = some amount) :
    -9223372036854775808 ≤ amount * oneCoin ∧ amount * oneCoin < 9223372036854775808 := by
  simp only [historicalMints, List.lookup_cons] at h
  split at h
  · cases h; decide
  · split at h
    · cases h; decide
    · cases h

theorem getBlockSubsidy_range (mintFile : Option (List Char)) (nHeight : Nat) :
    -9223372036854775808 ≤ getBlockSubsidy mintFile nHeight ∧
      getBlockSubsidy mintFile nHeight < 9223372036854775808 := by
  rw [getBlockSubsidy]
  split
  · decide
  · split
    · next amount hlookup => exact historicalMints_range hlookup
    · split
      · next subsidy hpending =>
        obtain ⟨f, -, hf⟩ := Option.bind_eq_some_iff.mp hpending
        exact pendingMintLoop_range nHeight _ f subsidy hf
      · decide

theorem getBlockSubsidy_ge (mintFile : Option (List Char)) (nHeight : Nat) :
    -9223372036854775808 ≤ getBlockSubsidy mintFile nHeight :=
  (getBlockSubsidy_range mintFile nHeight).1

theorem digitsValue_eq_ofDigitChars (cs : List Char) : ∀ acc : Nat,
    digitsValue cs acc = Nat.ofDigitChars 10 cs acc := by
  induction cs with
  | nil => intro acc; simp [digitsValue]
  | cons c cs ih =>
    intro acc
    rw [digitsValue, ih, Nat.ofDigitChars_cons, Nat.mul_comm]

theorem isSpace_of_isDigit {c : Char} (h : c.isDigit = true) : isSpace c = false := by
  by_contra hspace
  simp only [isSpace, Bool.not_eq_false, Bool.or_eq_true, beq_iff_eq] at hspace
  rcases hspace with ((((rfl | rfl) | rfl) | rfl) | rfl) | rfl <;> exact absurd h (by decide)

theorem readSign_of_isDigit {c : Char} (h : c.isDigit = true) (cs : List Char) :
    readSign (c :: cs) = (false, c :: cs) := by
  rw [readSign.eq_def]
  split
  · next heq =>
    cases heq
    exact absurd h (by decide)
  · next heq =>
    cases heq
    exact absurd h (by decide)
  · rfl

theorem digitsValue_toDigits (n : Nat) : digitsValue (Nat.toDigits 10 n) 0 = n := by
  rw [digitsValue_eq_ofDigitChars, Nat.ofDigitChars_toDigits (by decide) (by decide)]

theorem isDigit_toDigits (n : Nat) : ∀ d ∈ Nat.toDigits 10 n, d.isDigit = true :=
  fun _ hd => Nat.isDigit_of_mem_toDigits (by decide) (by decide) hd

theorem takeWhile_toDigits (n : Nat) {c : Char} (hc : c.isDigit = false) (rest : List Char) :
    (Nat.toDigits 10 n ++ c :: rest).takeWhile Char.isDigit = Nat.toDigits 10 n := by
  rw [List.takeWhile_append_of_pos (isDigit_toDigits n), List.takeWhile_cons_of_neg (by simp [hc])]
  simp

theorem readSign_toDigits (n : Nat) (rest : List Char) :
    readSign ((Nat.toDigits 10 n ++ rest).dropWhile isSpace) = (false, Nat.toDigits 10 n ++ rest) := by
  cases htext : Nat.toDigits 10 n with
  | nil => exact absurd htext Nat.toDigits_ne_nil
  | cons d ds =>
    have hd : d.isDigit = true := isDigit_toDigits n d (by rw [htext]; exact List.mem_cons_self)
    rw [List.cons_append, List.dropWhile_cons_of_neg (by simp [isSpace_of_isDigit hd]),
      readSign_of_isDigit hd]

theorem readLongLong_toDigits {n : Nat} (hn : n < 2 ^ 63) {c : Char} (hc : c.isDigit = false)
    (rest : List Char) :
    readLongLong (Nat.toDigits 10 n ++ c :: rest) = some ((n : Int), c :: rest) := by
  have hdrop : (Nat.toDigits 10 n ++ c :: rest).dropWhile Char.isDigit = c :: rest := by
    rw [List.dropWhile_append_of_pos (isDigit_toDigits n), List.dropWhile_cons_of_neg (by simp [hc])]
  simp only [readLongLong, readSign_toDigits, takeWhile_toDigits n hc, hdrop, digitsValue_toDigits,
    Bool.false_eq_true, if_false]
  rw [if_neg (by simp), if_neg (by simp; omega)]

def fixedSubsidyHeights : List Nat := 0 :: historicalMints.map Prod.fst

def mintFileFor (nHeight : Nat) : List Char := Nat.toDigits 10 nHeight ++ [' ', '1']

theorem pendingMintLoop_mintFileFor {nHeight : Nat} (h : nHeight < 2 ^ 63) (fuel : Nat) :
    pendingMintLoop nHeight (fuel + 1) (mintFileFor nHeight) = some oneCoin := by
  have hsecond : readLongLong [' ', '1'] = some (1, []) := by decide
  rw [pendingMintLoop, mintFileFor, readLongLong_toDigits h (by decide)]
  simp only [hsecond, beq_self_eq_true, Bool.true_and]
  rw [if_pos (by decide)]
  decide

theorem getBlockSubsidy_mintFileFor {nHeight : Nat} (h : nHeight < 2 ^ 63)
    (hfree : nHeight ∉ fixedSubsidyHeights) :
    getBlockSubsidy (some (mintFileFor nHeight)) nHeight = oneCoin ∧
      getBlockSubsidy none nHeight = oneCoin / 100 := by
  simp only [fixedSubsidyHeights, historicalMints, List.map_cons, List.map_nil, List.mem_cons,
    List.not_mem_nil, or_false, not_or] at hfree
  have hlookup : historicalMints.lookup nHeight = none := by
    rw [historicalMints, List.lookup_cons, List.lookup_cons, beq_false_of_ne hfree.2.1,
      beq_false_of_ne hfree.2.2, List.lookup_nil]
  have hlen : (mintFileFor nHeight).length = (mintFileFor nHeight).length - 1 + 1 := by
    simp [mintFileFor]
  have hpending : pendingMintLoop nHeight (mintFileFor nHeight).length (mintFileFor nHeight) =
      some oneCoin := by
    rw [hlen]
    exact pendingMintLoop_mintFileFor h _
  constructor
  · simp [getBlockSubsidy, hfree, hlookup, hpending]
  · simp [getBlockSubsidy, hfree, hlookup]

theorem getBlockSubsidy_fixed {nHeight : Nat} (hfixed : nHeight ∈ fixedSubsidyHeights)
    (file file' : Option (List Char)) :
    getBlockSubsidy file nHeight = getBlockSubsidy file' nHeight := by
  simp only [fixedSubsidyHeights, historicalMints, List.map_cons, List.map_nil, List.mem_cons,
    List.not_mem_nil, or_false] at hfixed
  rcases hfixed with rfl | rfl | rfl <;> rfl

def Env.withMintFile (env : Env) (mintFile : Option (List Char)) : Env := { env with mintFile }

theorem connectTxs_withMintFile (env : Env) (file : Option (List Char)) (pindex : CBlockIndex)
    (vtx : List CTransaction) : ∀ st : ConnectState,
      connectTxs (env.withMintFile file) pindex vtx st = connectTxs env pindex vtx st := by
  induction vtx with
  | nil => intro st; rfl
  | cons tx vtx ih =>
    intro st
    rw [connectTxs, connectTxs]
    simp only [ih]
    rfl

theorem connectBlock_withMintFile {env : Env} {block : CBlock} {pindex : CBlockIndex}
    {file file' : Option (List Char)}
    (h : getBlockSubsidy file pindex.nHeight = getBlockSubsidy file' pindex.nHeight)
    (view : CCoinsView) (fJustCheck : Bool) :
    connectBlock (env.withMintFile file) block pindex view fJustCheck =
      connectBlock (env.withMintFile file') block pindex view fJustCheck := by
  have hloop : ∀ f, connectVtx (env.withMintFile f) pindex block.vtx view.coins =
      connectVtx env pindex block.vtx view.coins := by
    intro f
    cases hvtx : block.vtx with
    | nil => rfl
    | cons tx vtx =>
      rw [connectVtx, connectVtx]
      simp only [connectTxs_withMintFile]
      rfl
  have hreward : ∀ st, checkReward (env.withMintFile file) pindex block.vtx st =
      checkReward (env.withMintFile file') pindex block.vtx st := by
    intro st
    simp only [checkReward, Env.withMintFile, h]
    rfl
  have hbody : ∀ prev, connectBlockBody (env.withMintFile file) block pindex prev view.coins =
      connectBlockBody (env.withMintFile file') block pindex prev view.coins := by
    intro prev
    simp only [connectBlockBody, hloop, hreward]
    rfl
  simp only [connectBlock, hbody]
  rfl

/-- The subsidy, and with it the verdict of `ConnectBlock`, is the same for all contents of the mint
    file at the heights the code fixes, and at no other height. -/
theorem subsidy_independent_iff {nHeight : Nat} (h : nHeight < 2 ^ 31) :
    ((∀ file file', getBlockSubsidy file nHeight = getBlockSubsidy file' nHeight) ∧
      (∀ (env : Env) (file file' : Option (List Char)) (block : CBlock) (pindex : CBlockIndex)
        (view : CCoinsView) (fJustCheck : Bool), pindex.nHeight = nHeight →
        connectBlock (env.withMintFile file) block pindex view fJustCheck =
          connectBlock (env.withMintFile file') block pindex view fJustCheck)) ↔
      nHeight ∈ fixedSubsidyHeights := by
  constructor
  · rintro ⟨hsame, -⟩
    by_contra hfree
    obtain ⟨hfile, hnone⟩ := getBlockSubsidy_mintFileFor (by omega) hfree
    have heq := hsame (some (mintFileFor nHeight)) none
    rw [hfile, hnone] at heq
    exact absurd heq (by decide)
  · intro hfixed
    refine ⟨getBlockSubsidy_fixed hfixed, ?_⟩
    rintro env file file' block pindex view fJustCheck rfl
    exact connectBlock_withMintFile (getBlockSubsidy_fixed hfixed file file') view fJustCheck

theorem subsidy_independent_161 : (161 : Nat) < 2 ^ 31 ∧
    getBlockSubsidy (some (mintFileFor 161)) 161 = getBlockSubsidy none 161 :=
  ⟨by decide, ((subsidy_independent_iff (by decide)).mpr (by decide)).1 _ _⟩

/-- A block at height 1 whose coinbase takes 5 GRD. -/
def fiveCoinsBlock : CBlock :=
  sampleBlock 0x10 mainParams.hashGenesisBlock [sampleCoinbase 0x30 500000000]

/-- One node accepts the block and another one, without the line in its mint file, rejects it. -/
theorem fiveCoinsBlock_verdicts :
    (connectBlock ((sampleEnv none).withMintFile (some ['1', ' ', '5'])) fiveCoinsBlock
      (sampleIndex fiveCoinsBlock) sampleView false).isOk = true ∧
    connectBlock ((sampleEnv none).withMintFile none) fiveCoinsBlock
      (sampleIndex fiveCoinsBlock) sampleView false =
      .error (.blockInvalid .consensus "bad-cb-amount") := by
  constructor <;> decide

end GarudaChain
