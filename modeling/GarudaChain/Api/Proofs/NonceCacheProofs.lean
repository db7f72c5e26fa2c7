import GarudaChain.Api.NonceCache
import GarudaChain.Lib.Run
import Mathlib.Data.List.Dedup
import Mathlib.Data.List.DropRight
import Mathlib.Data.List.Perm.Subperm
import Mathlib.Data.List.TakeWhile

/-!
# What the nonce cache remembers
-/

namespace GarudaChain.Api

namespace NonceCache

/-- The map leads from the nonces of the list to their elements, and from no other nonce. -/
structure Indexed (n : NonceCache) : Prop where
  index : ∀ nonce a, n.idx nonce = some a ↔ ∃ e ∈ n.ll, e.nonce = nonce ∧ e.addr = a
  nonces : (n.ll.map NonceElement.nonce).Nodup
  addrs : (n.ll.map NonceElement.addr).Nodup
  addr_lt : ∀ e ∈ n.ll, e.addr < n.next

variable {n : NonceCache} {nonce : GoString} {now : Int}

theorem indexed_empty (maxLen : Nat) (ttl : Int) : (empty maxLen ttl).Indexed :=
  ⟨by simp [empty], .nil, .nil, nofun⟩

theorem Indexed.removeBack (h : n.Indexed) {l : List NonceElement} {e : NonceElement} (hll : n.ll = l ++ [e]) :
    (n.removeBack e).Indexed ∧ (n.removeBack e).ll = l := by
  have hll' : (n.removeBack e).ll = l := by simp [NonceCache.removeBack, hll]
  obtain ⟨hindex, hnonces, haddrs, hlt⟩ := h
  rw [hll] at hindex hnonces haddrs hlt
  rw [List.map_append, List.nodup_append] at hnonces haddrs
  obtain ⟨hnodup, -, hne⟩ := hnonces
  refine ⟨⟨?_, by rwa [hll'], by rw [hll']; exact haddrs.1, ?_⟩, hll'⟩
  · intro nonce a
    have hother : ∀ f ∈ l, f.nonce ≠ e.nonce := fun f hf =>
      hne _ (List.mem_map_of_mem hf) _ (List.mem_singleton_self _)
    rw [hll']
    by_cases hnonce : nonce = e.nonce
    · subst hnonce
      simp only [NonceCache.removeBack, Function.update_self, reduceCtorEq, false_iff]
      rintro ⟨f, hf, hfn, -⟩
      exact hother f hf hfn
    · simp only [NonceCache.removeBack, Function.update_of_ne hnonce, hindex nonce a, List.mem_append,
        List.mem_singleton]
      constructor
      · rintro ⟨f, hf | rfl, hfn, ha⟩
        · exact ⟨f, hf, hfn, ha⟩
        · exact absurd hfn.symm hnonce
      · rintro ⟨f, hf, hfa⟩
        exact ⟨f, .inl hf, hfa⟩
  · rw [hll']
    exact fun f hf => hlt f (List.mem_append_left _ hf)

structure Evicted (n n' : NonceCache) (ll : List NonceElement) : Prop where
  indexed : n'.Indexed
  ll_eq : n'.ll = ll
  maxLen : n'.maxLen = n.maxLen
  ttl : n'.ttl = n.ttl

theorem evictExpired_spec (now : Int) (fuel : Nat) : ∀ {n : NonceCache}, n.Indexed → n.ll.length ≤ fuel →
    Evicted n (evictExpired now fuel n) (n.ll.rdropWhile fun e => e.expireAt ≤ now) := by
  induction fuel with
  | zero =>
    intro n h hfuel
    have hnil : n.ll = [] := List.length_eq_zero_iff.mp (by omega)
    exact ⟨h, by simp [evictExpired, hnil], rfl, rfl⟩
  | succ fuel ih =>
    intro n h hfuel
    rcases List.eq_nil_or_concat' n.ll with hnil | ⟨l, e, hll⟩
    · simp only [evictExpired, hnil, List.getLast?_nil]
      exact ⟨h, by simp [hnil], rfl, rfl⟩
    · simp only [evictExpired, hll, List.getLast?_concat]
      by_cases hlate : e.expireAt > now
      · rw [if_pos hlate, List.rdropWhile_concat_neg _ _ _ (by simpa using hlate)]
        exact ⟨h, hll, rfl, rfl⟩
      · obtain ⟨hback, hl⟩ := h.removeBack hll
        have hlength : n.ll.length = l.length + 1 := by rw [hll, List.length_append, List.length_singleton]
        obtain ⟨hindexed, hlist, hmax, httl⟩ := ih hback (by rw [hl]; omega)
        rw [hl] at hlist
        rw [if_neg hlate, List.rdropWhile_concat_pos _ _ _ (by simpa using hlate)]
        exact ⟨hindexed, hlist, hmax, httl⟩

theorem evictOldest_spec (fuel : Nat) : ∀ {n : NonceCache}, n.Indexed → n.ll.length ≤ fuel → 1 ≤ n.maxLen →
    Evicted n (evictOldest fuel n) (n.ll.take (n.maxLen - 1)) := by
  induction fuel with
  | zero =>
    intro n h hfuel _
    have hnil : n.ll = [] := List.length_eq_zero_iff.mp (by omega)
    exact ⟨h, by simp [evictOldest, hnil], rfl, rfl⟩
  | succ fuel ih =>
    intro n h hfuel hmax
    by_cases hfull : n.ll.length ≥ n.maxLen
    · rcases List.eq_nil_or_concat' n.ll with hnil | ⟨l, e, hll⟩
      · rw [hnil, List.length_nil] at hfull
        omega
      · obtain ⟨hback, hl⟩ := h.removeBack hll
        have hlength : n.ll.length = l.length + 1 := by rw [hll, List.length_append, List.length_singleton]
        obtain ⟨hindexed, hlist, hmaxLen, httl⟩ := ih hback (by rw [hl]; omega) hmax
        have hround : evictOldest (fuel + 1) n = evictOldest fuel (n.removeBack e) := by
          rw [evictOldest, if_pos hfull]
          simp only [hll, List.getLast?_concat]
        rw [hround]
        refine ⟨hindexed, ?_, hmaxLen, httl⟩
        rw [hlist, hl, hll, List.take_append_of_le_length (by omega)]
        rfl
    · simp only [evictOldest, if_neg hfull]
      exact ⟨h, (List.take_of_length_le (by omega)).symm, rfl, rfl⟩

theorem Indexed.pushFront (h : n.Indexed) (hnew : ∀ e ∈ n.ll, e.nonce ≠ nonce) :
    (n.pushFront nonce now).Indexed := by
  refine ⟨?_, ?_, ?_, ?_⟩
  · intro nonce' a
    simp only [NonceCache.pushFront, List.mem_cons, exists_eq_or_imp]
    by_cases hnonce : nonce' = nonce
    · subst hnonce
      simp only [Function.update_self, Option.some.injEq, true_and]
      constructor
      · exact .inl
      · rintro (ha | ⟨e, he, hne, -⟩)
        · exact ha
        · exact absurd hne (hnew e he)
    · rw [Function.update_of_ne hnonce, h.index]
      simp [Ne.symm hnonce]
  · rw [NonceCache.pushFront, List.map_cons, List.nodup_cons]
    refine ⟨?_, h.nonces⟩
    intro hmem
    obtain ⟨e, he, heq⟩ := List.mem_map.mp hmem
    exact hnew e he heq
  · rw [NonceCache.pushFront, List.map_cons, List.nodup_cons]
    refine ⟨?_, h.addrs⟩
    intro hmem
    obtain ⟨e, he, heq⟩ := List.mem_map.mp hmem
    exact absurd heq (h.addr_lt e he).ne
  · intro e he
    rcases List.mem_cons.mp he with rfl | he
    · exact Nat.lt_succ_self _
    · exact (h.addr_lt e he).trans (Nat.lt_succ_self _)

/-- What a call does: it finds the nonce among the elements left, or records it in front of them. -/
theorem seenOrRecord_spec (h : n.Indexed) (hmax : 1 ≤ n.maxLen) (nonce : GoString) (now : Int) :
    ∃ seen n' kept, n.seenOrRecord nonce now = (seen, n') ∧
      kept = (n.ll.rdropWhile fun e => e.expireAt ≤ now) ∧ (kept.map NonceElement.nonce).Nodup ∧
      (seen = true ↔ nonce ∈ kept.map NonceElement.nonce) ∧
      ∃ a, Evicted n n' (if seen then kept else ⟨a, nonce, now + n.ttl⟩ :: kept.take (n.maxLen - 1)) := by
  obtain ⟨hindexed, hll, hmaxLen, httl⟩ := evictExpired_spec now n.ll.length h (le_refl _)
  rw [← hll]
  unfold NonceCache.seenOrRecord
  simp only
  generalize evictExpired now n.ll.length n = m at *
  cases hidx : m.idx nonce with
  | some a =>
    obtain ⟨e, he, hnonce, -⟩ := (hindexed.index nonce a).mp hidx
    refine ⟨true, m, m.ll, rfl, rfl, hindexed.nonces, ?_, a, hindexed, rfl, hmaxLen, httl⟩
    exact iff_of_true rfl (List.mem_map.mpr ⟨e, he, hnonce⟩)
  | none =>
    have hnew : ∀ e ∈ m.ll, e.nonce ≠ nonce := by
      intro e he hnonce
      have hsome := (hindexed.index nonce e.addr).mpr ⟨e, he, hnonce, rfl⟩
      rw [hidx] at hsome
      cases hsome
    obtain ⟨hindexed', hll', hmaxLen', httl'⟩ :=
      evictOldest_spec m.ll.length hindexed (le_refl _) (by rw [hmaxLen]; exact hmax)
    rw [hmaxLen] at hll'
    refine ⟨false, _, m.ll, rfl, rfl, hindexed.nonces, ?_, (evictOldest m.ll.length m).next,
      hindexed'.pushFront ?_, ?_, hmaxLen'.trans hmaxLen, httl'.trans httl⟩
    · refine iff_of_false (by simp) fun hmem => ?_
      obtain ⟨e, he, hnonce⟩ := List.mem_map.mp hmem
      exact hnew e he hnonce
    · rw [hll']
      exact fun e he => hnew e (List.mem_of_mem_take he)
    · simp only [NonceCache.pushFront, hll', httl', httl, Bool.false_eq_true, if_false]

/-- The replay guard's view of the cache: the list alone decides. -/
theorem seenOrRecord_entries (h : n.Indexed) (hsize : n.maxLen = nonceCacheSize) (httl : n.ttl = nonceCacheTTL)
    (nonce : GoString) (now : Int) :
    ((n.seenOrRecord nonce now).1, (n.seenOrRecord nonce now).2.entries) =
      Api.seenOrRecord n.entries nonce now := by
  obtain ⟨seen, n', kept, hcall, hkept, -, hseen, a, -, hll, -, -⟩ :=
    seenOrRecord_spec h (by rw [hsize]; decide) nonce now
  have hentries : (n.entries.reverse.dropWhile fun e => e.2 ≤ now).reverse =
      kept.map fun e => (e.nonce, e.expireAt) := by
    rw [hkept, entries, ← List.map_reverse, List.dropWhile_map, ← List.map_reverse]
    rfl
  have hany : ((kept.map fun e => (e.nonce, e.expireAt)).any fun e => e.1 == nonce) = seen := by
    rw [Bool.eq_iff_iff, hseen]
    simp [List.mem_map]
  unfold Api.seenOrRecord
  rw [hcall]
  simp only [hentries, hany]
  cases seen with
  | true => simp [entries, hll]
  | false => simp [entries, hll, hsize, httl]

/-- The cache holds the entries of the replay guard's list. -/
structure Lists (n : NonceCache) (cache : NonceLRU) : Prop where
  indexed : n.Indexed
  maxLen : n.maxLen = nonceCacheSize
  ttl : n.ttl = nonceCacheTTL
  entries_eq : n.entries = cache

theorem Lists.step {cache : NonceLRU} (h : n.Lists cache) (nonce : GoString) (now : Int) :
    (n.seenOrRecord nonce now).1 = (Api.seenOrRecord cache nonce now).1 ∧
      (n.seenOrRecord nonce now).2.Lists (Api.seenOrRecord cache nonce now).2 := by
  have heq := seenOrRecord_entries h.indexed h.maxLen h.ttl nonce now
  obtain ⟨seen, n', kept, hcall, -, -, -, a, hnext⟩ :=
    seenOrRecord_spec h.indexed (by rw [h.maxLen]; decide) nonce now
  rw [h.entries_eq, hcall] at heq
  rw [← heq, hcall]
  exact ⟨rfl, hnext.indexed, hnext.maxLen.trans h.maxLen, hnext.ttl.trans h.ttl, rfl⟩

/-- After any calls, the list with its map answers the next call as the replay guard's list does. -/
theorem nonceCalls_refine (calls : List NonceCall) (nonce : GoString) (now : Int) :
    ((Run.run (fun n c => (n.seenOrRecord c.nonce c.now).2) (empty nonceCacheSize nonceCacheTTL)
        calls).seenOrRecord nonce now).1 =
      (Api.seenOrRecord (Run.run (fun cache c => (Api.seenOrRecord cache c.nonce c.now).2) []
        calls) nonce now).1 := by
  have hrun {n : NonceCache} {cache : NonceLRU} (h : n.Lists cache) :
      (Run.run (fun n c => (n.seenOrRecord c.nonce c.now).2) n calls).Lists
        (Run.run (fun cache c => (Api.seenOrRecord cache c.nonce c.now).2) cache calls) := by
    induction calls generalizing n cache with
    | nil => exact h
    | cons c calls ih => exact ih (h.step c.nonce c.now).2
  exact ((hrun ⟨indexed_empty _ _, rfl, rfl, rfl⟩).step nonce now).1

end NonceCache

/-- The recordings that the cache holds at a time. -/
def remembered (maxLen : Nat) (ttl now : Int) (recorded : List (GoString × Int)) : List (GoString × Int) :=
  (recorded.take maxLen).takeWhile fun x => now < x.2 + ttl

/-- The last recording of a nonce is less than `ttl` ago, with fewer than `maxLen` other nonces since. -/
def IsRecent (maxLen : Nat) (ttl now : Int) (recorded : List (GoString × Int)) (nonce : GoString) : Prop :=
  ∃ since t older, recorded = since ++ (nonce, t) :: older ∧ nonce ∉ since.map Prod.fst ∧
    now - t < ttl ∧ (since.map Prod.fst).dedup.length < maxLen

section

variable {maxLen : Nat} {ttl now : Int} {recorded : List (GoString × Int)}

theorem remembered_cons (hmax : 1 ≤ maxLen) (httl : 0 < ttl) (nonce : GoString) :
    remembered maxLen ttl now ((nonce, now) :: recorded) =
      (nonce, now) :: (remembered maxLen ttl now recorded).take (maxLen - 1) := by
  obtain ⟨k, rfl⟩ : ∃ k, maxLen = k + 1 := ⟨maxLen - 1, by omega⟩
  rw [remembered, remembered, List.take_succ_cons, List.takeWhile_cons_of_pos (by simpa using httl),
    Nat.add_sub_cancel, List.take_takeWhile, List.take_take, Nat.min_eq_left (Nat.le_succ k)]

/-- What is less than `ttl` ago is held, as far as there is room. -/
theorem remembered_append {since older : List (GoString × Int)}
    (hfresh : ∀ x ∈ since, now < x.2 + ttl) :
    remembered maxLen ttl now (since ++ older) =
      since.take maxLen ++ remembered (maxLen - since.length) ttl now older := by
  rw [remembered, remembered, List.take_append, List.takeWhile_append_of_pos]
  intro x hx
  simpa using hfresh x (List.mem_of_mem_take hx)

theorem isRecent_of_mem_remembered (hnodup : ((remembered maxLen ttl now recorded).map Prod.fst).Nodup)
    {nonce : GoString} (hmem : nonce ∈ (remembered maxLen ttl now recorded).map Prod.fst) :
    IsRecent maxLen ttl now recorded nonce := by
  obtain ⟨⟨nonce, t⟩, hx, rfl⟩ := List.mem_map.mp hmem
  obtain ⟨rest, hrest⟩ : remembered maxLen ttl now recorded <+: recorded :=
    (List.takeWhile_prefix _).trans (List.take_prefix _ _)
  have hfresh : now < t + ttl := by simpa using List.mem_takeWhile_imp hx
  have hlength : (remembered maxLen ttl now recorded).length ≤ maxLen :=
    (List.takeWhile_prefix _).length_le.trans (List.length_take_le _ _)
  obtain ⟨since, older, hsplit⟩ := List.append_of_mem hx
  rw [hsplit] at hrest hnodup hlength
  refine ⟨since, t, older ++ rest, by rw [← hrest]; simp, ?_, by omega, ?_⟩
  · rw [List.map_append, List.nodup_append] at hnodup
    exact fun hsince => hnodup.2.2 _ hsince _ (by simp) rfl
  · have hdedup := (List.dedup_sublist (since.map Prod.fst)).length_le
    simp only [List.length_append, List.length_cons, List.length_map] at hlength hdedup
    omega

/-- With `maxLen` recordings or more that have not expired, so many different nonces were recorded. -/
theorem length_lt_of_dedup_lt {since older : List (GoString × Int)} (hsince : ∀ x ∈ since, now < x.2 + ttl)
    (hnodup : ((remembered maxLen ttl now (since ++ older)).map Prod.fst).Nodup)
    (hothers : (since.map Prod.fst).dedup.length < maxLen) : since.length < maxLen := by
  by_contra hfull
  rw [remembered_append hsince, List.map_append, List.nodup_append] at hnodup
  have hsub : (since.take maxLen).map Prod.fst ⊆ (since.map Prod.fst).dedup := fun x hx =>
    List.mem_dedup.mpr (List.map_subset _ (List.take_subset _ _) hx)
  have hle := (List.Nodup.subperm hnodup.1 hsub).length_le
  rw [List.length_map, List.length_take] at hle
  omega

theorem mem_remembered_of_isRecent (hordered : recorded.Pairwise fun x y => y.2 ≤ x.2)
    (hnodup : ((remembered maxLen ttl now recorded).map Prod.fst).Nodup) {nonce : GoString}
    (h : IsRecent maxLen ttl now recorded nonce) :
    nonce ∈ (remembered maxLen ttl now recorded).map Prod.fst := by
  obtain ⟨since, t, older, rfl, -, hfresh, hothers⟩ := h
  have hsince : ∀ x ∈ since, now < x.2 + ttl := by
    intro x hx
    have hle := (List.pairwise_append.mp hordered).2.2 x hx (nonce, t) (by simp)
    simp only at hle
    omega
  have hroom := length_lt_of_dedup_lt hsince hnodup hothers
  obtain ⟨k, hk⟩ : ∃ k, maxLen - since.length = k + 1 := ⟨maxLen - since.length - 1, by omega⟩
  have hhead : (nonce, t) ∈ remembered (maxLen - since.length) ttl now ((nonce, t) :: older) := by
    rw [remembered, hk, List.take_succ_cons, List.takeWhile_cons_of_pos (by simp; omega)]
    exact List.mem_cons_self
  rw [remembered_append hsince]
  exact List.mem_map.mpr ⟨(nonce, t), List.mem_append_right _ hhead, rfl⟩

end

/-- Dropping from the back, where the elements that are dropped stand at the back. -/
theorem rdropWhile_eq_takeWhile {α : Type} {p : α → Bool} {l : List α}
    (hl : l.Pairwise fun x y => p x = true → p y = true) : l.rdropWhile p = l.takeWhile fun x => !p x := by
  induction l using List.reverseRecOn with
  | nil => rfl
  | append_singleton l x ih =>
    obtain ⟨hl, -, hlast⟩ := List.pairwise_append.mp hl
    by_cases hx : p x = true
    · rw [List.rdropWhile_concat_pos _ _ _ hx, ih hl, List.takeWhile_append]
      split_ifs with hall
      · rw [List.takeWhile_cons_of_neg (by simpa using hx), List.append_nil]
        exact (List.takeWhile_prefix _).eq_of_length hall
      · rfl
    · rw [List.rdropWhile_concat_neg _ _ _ hx, List.takeWhile_append_of_pos, List.takeWhile_cons_of_pos]
      · rfl
      · simpa using hx
      · intro y hy
        simpa using fun hpy => hx (hlast y hy x (List.mem_singleton_self x) hpy)

/-- The nonces and the expiry times that the list is to hold. -/
def expiries (ttl : Int) (recorded : List (GoString × Int)) : List (GoString × Int) :=
  recorded.map fun x => (x.1, x.2 + ttl)

/-- The cache holds the latest recordings that have not expired by the last call. -/
structure NonceRun.Ok (maxLen : Nat) (ttl : Int) (r : NonceRun) : Prop where
  indexed : r.cache.Indexed
  maxLen_eq : r.cache.maxLen = maxLen
  ttl_eq : r.cache.ttl = ttl
  ordered : r.recorded.Pairwise fun x y => y.2 ≤ x.2
  past : ∀ x ∈ r.recorded, x.2 ≤ r.clock
  holds : r.cache.entries = expiries ttl (remembered maxLen ttl r.clock r.recorded)

section

variable {maxLen : Nat} {ttl : Int} {r : NonceRun} (h : r.Ok maxLen ttl)

include h

theorem NonceRun.Ok.sorted : r.cache.ll.Pairwise fun e f => f.expireAt ≤ e.expireAt := by
  have hpairs : r.cache.entries.Pairwise fun x y => y.2 ≤ x.2 := by
    rw [h.holds, expiries, List.pairwise_map]
    refine (h.ordered.sublist ?_).imp fun hle => Int.add_le_add_right hle ttl
    exact (List.takeWhile_sublist _).trans (List.take_sublist _ _)
  exact List.pairwise_map.mp hpairs

theorem NonceRun.Ok.length_le : r.cache.ll.length ≤ maxLen := by
  have hlength := congrArg List.length h.holds
  rw [NonceCache.entries, expiries, List.length_map, List.length_map] at hlength
  rw [hlength]
  exact (List.takeWhile_prefix _).length_le.trans (List.length_take_le _ _)

/-- What the first loop of a call leaves. -/
theorem NonceRun.Ok.kept {now : Int} (hclock : r.clock ≤ now) :
    (r.cache.ll.rdropWhile fun e => e.expireAt ≤ now).map (fun e => (e.nonce, e.expireAt)) =
      expiries ttl (remembered maxLen ttl now r.recorded) := by
  have hmap : (r.cache.ll.takeWhile fun e => !decide (e.expireAt ≤ now)).map (fun e => (e.nonce, e.expireAt)) =
      r.cache.entries.takeWhile fun x => !decide (x.2 ≤ now) := by
    rw [NonceCache.entries, List.takeWhile_map]
    rfl
  rw [rdropWhile_eq_takeWhile, hmap, h.holds, expiries, expiries, List.takeWhile_map, remembered, remembered,
    List.takeWhile_takeWhile]
  · congr 2
    funext x
    simp only [Function.comp, Bool.not_eq_true', decide_eq_false_iff_not, decide_eq_true_eq, decide_eq_decide]
    omega
  · refine h.sorted.imp fun hle hexp => ?_
    simp only [decide_eq_true_eq] at hexp ⊢
    omega

/-- What a call reports. -/
theorem NonceRun.Ok.seen_iff (hmax : 1 ≤ maxLen) {now : Int} (hclock : r.clock ≤ now) (nonce : GoString) :
    (r.cache.seenOrRecord nonce now).1 = true ↔ IsRecent maxLen ttl now r.recorded nonce := by
  obtain ⟨seen, n', kept, hcall, hkept, hnodup, hseen, -⟩ :=
    r.cache.seenOrRecord_spec h.indexed (by rw [h.maxLen_eq]; exact hmax) nonce now
  have hnonces : kept.map NonceElement.nonce = (remembered maxLen ttl now r.recorded).map Prod.fst := by
    have hfst := congrArg (List.map Prod.fst) (h.kept hclock)
    rw [← hkept, expiries, List.map_map, List.map_map] at hfst
    exact hfst
  rw [hnonces] at hnodup hseen
  rw [hcall]
  exact hseen.trans ⟨isRecent_of_mem_remembered hnodup, mem_remembered_of_isRecent h.ordered hnodup⟩

theorem NonceRun.Ok.step (hmax : 1 ≤ maxLen) (httl : 0 < ttl) {call : NonceCall} (hclock : r.clock ≤ call.now) :
    (r.step call).Ok maxLen ttl := by
  have hpast : ∀ x ∈ r.recorded, x.2 ≤ call.now := fun x hx => (h.past x hx).trans hclock
  obtain ⟨seen, n', kept, hcall, hkept, -, -, a, hindexed, hll, hmaxLen, hsame⟩ :=
    r.cache.seenOrRecord_spec h.indexed (by rw [h.maxLen_eq]; exact hmax) call.nonce call.now
  have hheld := h.kept hclock
  rw [← hkept] at hheld
  rw [NonceRun.step, hcall]
  rw [h.maxLen_eq] at hmaxLen hll
  rw [h.ttl_eq] at hsame hll
  cases seen with
  | true => exact ⟨hindexed, hmaxLen, hsame, h.ordered, hpast, by rw [NonceCache.entries, hll]; exact hheld⟩
  | false =>
    refine ⟨hindexed, hmaxLen, hsame, List.pairwise_cons.mpr ⟨hpast, h.ordered⟩, ?_, ?_⟩
    · intro x hx
      rcases List.mem_cons.mp hx with rfl | hx
      · exact le_refl _
      · exact hpast x hx
    · simp only [NonceCache.entries, hll, Bool.false_eq_true, if_false, List.map_cons, List.map_take, hheld,
        remembered_cons hmax httl, expiries]

end

theorem nonceRun_ok {maxLen : Nat} {ttl : Int} (hmax : 1 ≤ maxLen) (httl : 0 < ttl) (start : Int)
    {calls : List NonceCall}
    (hclock : Run.Along NonceRun.step (fun r call => r.clock ≤ call.now) ⟨.empty maxLen ttl, start, []⟩ calls) :
    (Run.run NonceRun.step ⟨.empty maxLen ttl, start, []⟩ calls).Ok maxLen ttl := by
  refine Run.Along.inv (fun r call hr hcall => hr.step hmax httl hcall) ?_ hclock
  exact ⟨NonceCache.indexed_empty maxLen ttl, rfl, rfl, .nil, nofun,
    by simp [NonceCache.empty, NonceCache.entries, remembered, expiries]⟩

/-- After any calls with a clock that does not go back, the map and the list hold the same nonces, at most
    `maxLen` and in the order of their expiry; and the next call reports a nonce as seen if and only if its
    last recording is less than `ttl` ago and fewer than `maxLen` other nonces have been recorded since. -/
theorem nonceRun_remembers {maxLen : Nat} {ttl : Int} (hmax : 1 ≤ maxLen) (httl : 0 < ttl) (start : Int)
    {calls : List NonceCall}
    (hclock : Run.Along NonceRun.step (fun r call => r.clock ≤ call.now) ⟨.empty maxLen ttl, start, []⟩ calls) :
    let r := Run.run NonceRun.step ⟨.empty maxLen ttl, start, []⟩ calls
    r.cache.Indexed ∧ r.cache.ll.length ≤ maxLen ∧ r.cache.ll.Pairwise (fun e f => f.expireAt ≤ e.expireAt) ∧
      ∀ nonce now, r.clock ≤ now →
        ((r.cache.seenOrRecord nonce now).1 = true ↔ IsRecent maxLen ttl now r.recorded nonce) := by
  intro r
  have hr : r.Ok maxLen ttl := nonceRun_ok hmax httl start hclock
  exact ⟨hr.indexed, hr.length_le, hr.sorted, fun nonce now hnow => hr.seen_iff hmax hnow nonce⟩

/-- Three nonces in a cache for two: the first one is forgotten, the second one is seen. -/
def threeCalls : List NonceCall := [⟨[1], 0⟩, ⟨[2], 1⟩, ⟨[3], 2⟩]

theorem nonceRun_remembers_threeCalls :
    (Run.run NonceRun.step ⟨.empty 2 10, 0, []⟩ threeCalls).recorded = [([3], 2), ([2], 1), ([1], 0)] ∧
    ((Run.run NonceRun.step ⟨.empty 2 10, 0, []⟩ threeCalls).cache.seenOrRecord [1] 3).1 = false ∧
    IsRecent 2 10 3 [([3], 2), ([2], 1), ([1], 0)] [2] := by
  have hseen := (nonceRun_remembers (by decide : 1 ≤ 2) (by decide : (0 : Int) < 10) 0
    (by decide : Run.Along NonceRun.step (fun r call => r.clock ≤ call.now) ⟨.empty 2 10, 0, []⟩ threeCalls)).2.2.2
      [2] 3 (by decide)
  exact ⟨by decide, by decide, hseen.mp (by decide)⟩

end GarudaChain.Api
