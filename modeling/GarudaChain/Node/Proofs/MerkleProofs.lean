import GarudaChain.Node.Chain
import Mathlib.Data.Nat.Log

/-!
# A Merkle root stands for one list of transactions

A level of odd length repeats its last hash, so a list and the list with its end repeated have one root.
`CheckMerkleRoot` refuses the second one.
-/

namespace GarudaChain

/-- The pairs that are hashed for the next level. -/
def levelPairs : List Uint256 → List (Uint256 × Uint256)
  | [] => []
  | [a] => [(a, a)]
  | a :: b :: hashes => (a, b) :: levelPairs hashes

variable (sha256D64 : Uint256 → Uint256 → Uint256)

/-- The pairs that are hashed on all levels of a tree. -/
def merklePairs : Nat → List Uint256 → List (Uint256 × Uint256)
  | 0, _ => []
  | height + 1, hashes => levelPairs hashes ++ merklePairs height (merkleLevel sha256D64 hashes)

def rootAt : Nat → List Uint256 → Uint256
  | 0, hashes => hashes.headD 0
  | height + 1, hashes => rootAt height (merkleLevel sha256D64 hashes)

def mutatedAt : Nat → List Uint256 → Bool
  | 0, _ => false
  | height + 1, hashes => levelMutated hashes || mutatedAt height (merkleLevel sha256D64 hashes)

def noCollision (pairs : List (Uint256 × Uint256)) : Bool :=
  pairs.all fun p => pairs.all fun q => sha256D64 p.1 p.2 != sha256D64 q.1 q.2 || p == q

variable {f : Uint256 → Uint256 → Uint256} {xs ys : List Uint256}

theorem merkleLevel_eq_map (xs : List Uint256) :
    merkleLevel f xs = (levelPairs xs).map fun p => f p.1 p.2 := by
  fun_induction levelPairs xs <;> simp_all [merkleLevel]

theorem merkleLevel_length (xs : List Uint256) : (merkleLevel f xs).length = (xs.length + 1) / 2 := by
  fun_induction merkleLevel f xs with
  | case1 => rfl
  | case2 a => simp
  | case3 a b hashes ih =>
    simp only [List.length_cons, ih]
    omega

/-- Without two equal hashes in a pair, the pairs tell whether the last hash was repeated. -/
theorem levelPairs_inj (hpairs : levelPairs xs = levelPairs ys) (hxs : levelMutated xs = false)
    (hys : levelMutated ys = false) : xs = ys := by
  fun_induction levelPairs xs generalizing ys with
  | case1 => rcases ys with _ | ⟨c, _ | ⟨d, ys⟩⟩ <;> simp [levelPairs] at hpairs ⊢
  | case2 a =>
    rcases ys with _ | ⟨c, _ | ⟨d, ys⟩⟩
    · simp [levelPairs] at hpairs
    · simpa [levelPairs] using hpairs
    · simp only [levelPairs, List.cons.injEq, Prod.mk.injEq] at hpairs
      simp [levelMutated, ← hpairs.1.1, ← hpairs.1.2] at hys
  | case3 a b xs ih =>
    rcases ys with _ | ⟨c, _ | ⟨d, ys⟩⟩
    · simp [levelPairs] at hpairs
    · simp only [levelPairs, List.cons.injEq, Prod.mk.injEq] at hpairs
      simp [levelMutated, hpairs.1.1, hpairs.1.2] at hxs
    · simp only [levelPairs, List.cons.injEq, Prod.mk.injEq] at hpairs
      simp only [levelMutated, Bool.or_eq_false_iff] at hxs hys
      rw [hpairs.1.1, hpairs.1.2, ih hpairs.2 hxs.2 hys.2]

theorem map_inj_of_noCollision {all ps qs : List (Uint256 × Uint256)} (h : noCollision f all = true)
    (hps : ∀ p ∈ ps, p ∈ all) (hqs : ∀ q ∈ qs, q ∈ all)
    (heq : ps.map (fun p => f p.1 p.2) = qs.map fun q => f q.1 q.2) : ps = qs := by
  induction ps generalizing qs with
  | nil => simpa using heq.symm
  | cons p ps ih =>
    cases qs with
    | nil => simp at heq
    | cons q qs =>
      simp only [List.map_cons, List.cons.injEq] at heq
      obtain ⟨hp, hps⟩ := List.forall_mem_cons.mp hps
      obtain ⟨hq, hqs⟩ := List.forall_mem_cons.mp hqs
      have hpq := List.all_eq_true.mp (List.all_eq_true.mp h p hp) q hq
      rw [ih hps hqs heq.2, show p = q by simpa [heq.1] using hpq]

theorem clog_merkleLevel (h : 1 < xs.length) :
    Nat.clog 2 xs.length = Nat.clog 2 (merkleLevel f xs).length + 1 := by
  rw [Nat.clog_of_two_le (by omega) h, merkleLevel_length]
  rfl

theorem computeMerkleRootLoop_eq {fuel : Nat} (hfuel : Nat.clog 2 xs.length ≤ fuel) (mutation : Bool) :
    computeMerkleRootLoop f fuel xs mutation = (rootAt f (Nat.clog 2 xs.length) xs,
      mutation || mutatedAt f (Nat.clog 2 xs.length) xs) := by
  have hleaf {xs : List Uint256} (h : ¬ 1 < xs.length) : Nat.clog 2 xs.length = 0 :=
    Nat.clog_of_right_le_one (by omega) 2
  induction fuel generalizing xs mutation with
  | zero => simp [computeMerkleRootLoop, Nat.le_zero.mp hfuel, rootAt, mutatedAt]
  | succ fuel ih =>
    rw [computeMerkleRootLoop]
    by_cases h : xs.length > 1
    · rw [if_pos h, clog_merkleLevel (f := f) h] at *
      rw [ih (by omega), rootAt, mutatedAt, Bool.or_assoc]
    · rw [if_neg h, hleaf h]
      simp [rootAt, mutatedAt]

/-- By induction on the height: the pairs of a level are known from the hashes of the next one. -/
theorem rootAt_inj {height : Nat} (hxs : Nat.clog 2 xs.length = height)
    (hys : Nat.clog 2 ys.length = height) (hxne : xs ≠ []) (hyne : ys ≠ [])
    (hroot : rootAt f height xs = rootAt f height ys) (hmx : mutatedAt f height xs = false)
    (hmy : mutatedAt f height ys = false) {all : List (Uint256 × Uint256)}
    (hax : ∀ p ∈ merklePairs f height xs, p ∈ all) (hay : ∀ p ∈ merklePairs f height ys, p ∈ all)
    (hcoll : noCollision f all = true) : xs = ys := by
  have hone {xs : List Uint256} (hne : xs ≠ []) (h : Nat.clog 2 xs.length = 0) : ∃ a, xs = [a] := by
    rw [← List.length_eq_one_iff]
    have := List.length_pos_of_ne_nil hne
    by_contra hlen
    exact absurd h (Nat.clog_pos (by omega) (by omega)).ne'
  induction height generalizing xs ys with
  | zero =>
    obtain ⟨a, rfl⟩ := hone hxne hxs
    obtain ⟨b, rfl⟩ := hone hyne hys
    exact congrArg (fun a => [a]) hroot
  | succ height ih =>
    have hnext {xs : List Uint256} (h : Nat.clog 2 xs.length = height + 1) :
        Nat.clog 2 (merkleLevel f xs).length = height ∧ merkleLevel f xs ≠ [] := by
      have hlong : 1 < xs.length := by
        by_contra hlen
        rw [Nat.clog_of_right_le_one (by omega)] at h
        omega
      rw [clog_merkleLevel (f := f) hlong] at h
      refine ⟨by omega, List.ne_nil_of_length_pos ?_⟩
      rw [merkleLevel_length]
      omega
    simp only [mutatedAt, Bool.or_eq_false_iff] at hmx hmy
    simp only [merklePairs, List.forall_mem_append] at hax hay
    have hlevel := ih (hnext hxs).1 (hnext hys).1 (hnext hxs).2 (hnext hys).2 hroot hmx.2 hmy.2 hax.2 hay.2
    rw [merkleLevel_eq_map, merkleLevel_eq_map] at hlevel
    exact levelPairs_inj (map_inj_of_noCollision hcoll hax.1 hay.1 hlevel) hmx.1 hmy.1

/-- The pairs that are hashed for the Merkle root of a block. -/
def CBlock.merklePairs (block : CBlock) (sha256D64 : Uint256 → Uint256 → Uint256) :
    List (Uint256 × Uint256) :=
  GarudaChain.merklePairs sha256D64 (Nat.clog 2 block.vtx.length) (block.vtx.map CTransaction.getHash)

theorem checkMerkleRoot_spec {env : Env} {block : CBlock} (h : checkMerkleRoot env block = .ok ()) :
    rootAt env.crypto.sha256D64 (Nat.clog 2 block.vtx.length) (block.vtx.map CTransaction.getHash) =
        block.hashMerkleRoot ∧
      mutatedAt env.crypto.sha256D64 (Nat.clog 2 block.vtx.length)
        (block.vtx.map CTransaction.getHash) = false := by
  have hroot := computeMerkleRootLoop_eq (f := env.crypto.sha256D64)
    (Nat.clog_le_of_le_pow (b := 2) (block.vtx.map CTransaction.getHash).length.lt_two_pow_self.le) false
  rw [List.length_map] at hroot
  simp only [checkMerkleRoot, blockMerkleRoot, computeMerkleRoot, List.length_map, hroot, bind_eq_ok,
    rejectBlockIf_eq_ok, exists_const, bne_eq_false_iff_eq, Bool.false_or] at h
  exact ⟨h.1.symm, h.2⟩

/-- Two blocks that pass `CheckMerkleRoot` with one root and trees of one height have the same
    transactions, unless two of the pairs hashed for them collide. -/
theorem checkMerkleRoot_binds {env : Env} {block₁ block₂ : CBlock}
    (h₁ : checkMerkleRoot env block₁ = .ok ()) (h₂ : checkMerkleRoot env block₂ = .ok ())
    (hroot : block₁.hashMerkleRoot = block₂.hashMerkleRoot) (hne₁ : block₁.vtx ≠ [])
    (hne₂ : block₂.vtx ≠ [])
    (hheight : Nat.clog 2 block₁.vtx.length = Nat.clog 2 block₂.vtx.length)
    (hcoll : noCollision env.crypto.sha256D64
      (block₁.merklePairs env.crypto.sha256D64 ++ block₂.merklePairs env.crypto.sha256D64) = true) :
    block₁.vtx.map CTransaction.getHash = block₂.vtx.map CTransaction.getHash := by
  obtain ⟨hr₁, hm₁⟩ := checkMerkleRoot_spec h₁
  obtain ⟨hr₂, hm₂⟩ := checkMerkleRoot_spec h₂
  rw [← hheight] at hr₂ hm₂
  refine rootAt_inj (by rw [List.length_map]) (by rw [List.length_map, hheight]) (by simpa using hne₁)
    (by simpa using hne₂) (hr₁.trans (hroot.trans hr₂.symm)) hm₁ hm₂ ?_ ?_ hcoll
  · exact fun p hp => List.mem_append_left _ hp
  · exact fun p hp => List.mem_append_right _ (by rwa [CBlock.merklePairs, ← hheight])

theorem checkMerkleRoot_binds_sample :
    let vtx := [sampleCoinbase 1 50, sampleCoinbase 2 50, sampleCoinbase 3 50]
    (sampleBlock 7 5 vtx).vtx.map CTransaction.getHash =
      (sampleBlock 8 6 vtx).vtx.map CTransaction.getHash :=
  @checkMerkleRoot_binds (sampleEnv none) _ _ (by decide) (by decide) rfl (by decide) (by decide) rfl
    (by decide)

end GarudaChain
