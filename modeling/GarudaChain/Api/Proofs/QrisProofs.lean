import GarudaChain.Api.Qris
import Mathlib.Tactic.Linarith
import Mathlib.Tactic.NormNum

/-!
# The life and the totals of QRIS deposits
-/

namespace GarudaChain.Api

/-- The status changes at most once, GRD is sent at most once, and while nobody is at work it was
    sent exactly where the deposit is confirmed. -/
structure LifeCycle (s : QRISShared) : Prop where
  once : (s.status = .pending ∧ s.changes = []) ∨ (s.status ≠ .pending ∧ s.changes = [s.status])
  sent_once : s.sends ≤ 1
  sent_iff : s.lock = none → (s.sends = 1 ↔ s.status = .confirmed)

def NoStaleExpiry (_ : Nat) (s : QRISShared) (t : QRISThread) (_ : QRISInput) : Prop :=
  t = .expiring → s.status ≠ .confirmed

instance (i : Nat) (s : QRISShared) (t : QRISThread) (e : QRISInput) :
    Decidable (NoStaleExpiry i s t e) :=
  inferInstanceAs (Decidable (t = .expiring → s.status ≠ .confirmed))

namespace QRISThread

def holdsLock : QRISThread → Bool
  | .testing | .sending | .confirming | .expiring | .unlocking => true
  | _ => false

/-- What a thread that holds the lock knows. -/
def Knows (s : QRISShared) : QRISThread → Prop
  | .sending => s.status = .pending ∧ s.sends = 0
  | .confirming => s.status = .pending ∧ s.sends = 1
  | .testing | .expiring | .unlocking => s.sends = 1 ↔ s.status = .confirmed
  | _ => True

structure Consistent (i : Nat) (s : QRISShared) (t : QRISThread) : Prop where
  lock : t.holdsLock = true ↔ s.lock = some i
  knows : t.Knows s

theorem knows_of_not_holdsLock {t : QRISThread} (h : t.holdsLock = false) (s : QRISShared) :
    t.Knows s := by
  cases t <;> trivial

theorem Arriving.not_holdsLock {t : QRISThread} (h : t.Arriving) : t.holdsLock = false := by
  rcases h with rfl | rfl | rfl <;> rfl

end QRISThread

namespace QRISShared

variable {expiresAt : Int} {s : QRISShared} {i : Nat} {t : QRISThread} {e : QRISInput}

theorem act_of_not_holdsLock (expiresAt : Int) (s : QRISShared) (i : Nat) (e : QRISInput)
    (h : t.holdsLock = false) :
    ((s.act expiresAt i t e).1 = s ∧ (s.act expiresAt i t e).2.holdsLock = false) ∨
      (s.lock = none ∧ (s.act expiresAt i t e).1 = { s with lock := some i } ∧
        ((s.act expiresAt i t e).2 = .testing ∨ (s.act expiresAt i t e).2 = .expiring)) := by
  cases t with
  | testing | sending | confirming | expiring | unlocking => cases h
  | sleeping | finished => exact .inl ⟨rfl, rfl⟩
  | authorizing =>
    refine .inl ⟨rfl, ?_⟩
    dsimp only [act]
    split_ifs <;> rfl
  | looking =>
    refine .inl ⟨rfl, ?_⟩
    dsimp only [act]
    split_ifs <;> rfl
  | reading =>
    refine .inl ⟨rfl, ?_⟩
    dsimp only [act]
    split_ifs <;> rfl
  | comparing =>
    refine .inl ⟨rfl, ?_⟩
    dsimp only [act]
    split_ifs <;> rfl
  | locking =>
    dsimp only [act]
    split_ifs with hlock
    · exact .inr ⟨hlock, rfl, .inl rfl⟩
    · exact .inl ⟨rfl, rfl⟩
  | lockingToExpire =>
    dsimp only [act]
    split_ifs with hlock
    · exact .inr ⟨hlock, rfl, .inr rfl⟩
    · exact .inl ⟨rfl, rfl⟩

theorem lock_act_of_holdsLock (expiresAt : Int) (s : QRISShared) (i : Nat) (e : QRISInput)
    (h : t.holdsLock = true) :
    (s.act expiresAt i t e).1.lock = s.lock ∨ (s.act expiresAt i t e).1.lock = none := by
  cases t with
  | sleeping | authorizing | looking | reading | comparing | finished | locking | lockingToExpire =>
    cases h
  | testing | confirming | expiring => exact .inl rfl
  | sending =>
    unfold act
    cases e.sent <;> exact .inl rfl
  | unlocking => exact .inr rfl

theorem consistent_other (hi : t.Consistent i s) {j : Nat} (hj : j ≠ i) {u : QRISThread}
    (hu : u.Consistent j s) : u.Consistent j (s.act expiresAt i t e).1 := by
  by_cases hholds : t.holdsLock = true
  · -- the lock is not the other thread's, before and after
    have hlock := hi.lock.mp hholds
    have hnot : u.holdsLock = false := by
      rw [Bool.eq_false_iff, Ne, hu.lock, hlock]
      simpa using Ne.symm hj
    refine ⟨?_, QRISThread.knows_of_not_holdsLock hnot _⟩
    rw [hnot]
    rcases lock_act_of_holdsLock expiresAt s i e hholds with hsame | hnone
    · rw [hsame, hlock]
      simpa using Ne.symm hj
    · rw [hnone]
      simp
  · rcases act_of_not_holdsLock expiresAt s i e (Bool.eq_false_iff.mpr hholds) with
      ⟨hsame, -⟩ | ⟨hnone, htaken, -⟩
    · rw [hsame]
      exact hu
    · have hnot : u.holdsLock = false := by
        rw [Bool.eq_false_iff, Ne, hu.lock, hnone]
        simp
      rw [htaken]
      refine ⟨?_, QRISThread.knows_of_not_holdsLock hnot _⟩
      rw [hnot]
      simpa using Ne.symm hj

theorem setStatus_of_pending (hs : LifeCycle s) (hpending : s.status = .pending)
    {status : QRISStatus} (hstatus : status ≠ .pending) :
    s.setStatus status = { s with status := status, changes := [status] } := by
  rcases hs.once with ⟨-, hchanges⟩ | ⟨hnot, -⟩
  · rw [setStatus, hpending, if_neg hstatus, hchanges]
  · exact absurd hpending hnot

theorem lifeCycle_act_of_holdsLock (hs : LifeCycle s) (ht : t.Consistent i s)
    (hholds : t.holdsLock = true) (hfresh : NoStaleExpiry i s t e) :
    LifeCycle (s.act expiresAt i t e).1 ∧
      (s.act expiresAt i t e).2.Consistent i (s.act expiresAt i t e).1 := by
  have hlock := ht.lock.mp hholds
  have hbusy : s.lock ≠ none := by simp [hlock]
  have hknows := ht.knows
  cases t with
  | sleeping | authorizing | looking | reading | comparing | finished | locking | lockingToExpire =>
    cases hholds
  | testing =>
    refine ⟨hs, ?_⟩
    dsimp only [act]
    split_ifs with hpending
    · have hnot : s.sends ≠ 1 := fun hone => by
        have hconfirmed := hknows.mp hone
        rw [hpending] at hconfirmed
        cases hconfirmed
      have hle := hs.sent_once
      exact ⟨by simp [QRISThread.holdsLock, hlock], hpending, by omega⟩
    · exact ⟨by simp [QRISThread.holdsLock, hlock], hknows⟩
  | sending =>
    obtain ⟨hpending, hzero⟩ := hknows
    dsimp only [act]
    split_ifs with hsent
    · refine ⟨⟨hs.once, ?_, fun hnone => absurd hnone hbusy⟩, ?_, hpending, ?_⟩
      · change s.sends + 1 ≤ 1
        omega
      · simp [QRISThread.holdsLock, hlock]
      · change s.sends + 1 = 1
        omega
    · refine ⟨hs, by simp [QRISThread.holdsLock, hlock], ?_⟩
      simp [QRISThread.Knows, hpending, hzero]
  | confirming =>
    obtain ⟨hpending, hone⟩ := hknows
    dsimp only [act]
    rw [setStatus_of_pending hs hpending (by decide)]
    refine ⟨⟨.inr ⟨by simp, rfl⟩, hs.sent_once, fun hnone => absurd hnone hbusy⟩, ?_, ?_⟩
    · simp [QRISThread.holdsLock, hlock]
    · simp [QRISThread.Knows, hone]
  | expiring =>
    have hnot := hfresh rfl
    have hnotSent : s.sends ≠ 1 := fun hone => hnot (hknows.mp hone)
    have hafter : LifeCycle (s.setStatus .expired) := by
      rcases hs.once with ⟨hpending, -⟩ | ⟨hended, hchanges⟩
      · rw [setStatus_of_pending hs hpending (by decide)]
        exact ⟨.inr ⟨by simp, rfl⟩, hs.sent_once, fun hnone => absurd hnone hbusy⟩
      · -- the status is expired already
        have hexpired : s.status = .expired := by
          cases hstatus : s.status with
          | pending => exact absurd hstatus hended
          | confirmed => exact absurd hstatus hnot
          | expired => rfl
        have hsame : s.setStatus .expired = s := by
          rw [setStatus, if_pos hexpired.symm, ← hexpired]
        rw [hsame]
        exact hs
    refine ⟨hafter, by simp [QRISThread.holdsLock, act, setStatus, hlock], ?_⟩
    simp [QRISThread.Knows, act, setStatus, hnotSent]
  | unlocking =>
    refine ⟨⟨hs.once, hs.sent_once, fun _ => hknows⟩, ?_, trivial⟩
    simp [QRISThread.holdsLock, act]

theorem lifeCycle_act (hs : LifeCycle s) (ht : t.Consistent i s) (hfresh : NoStaleExpiry i s t e) :
    LifeCycle (s.act expiresAt i t e).1 ∧
      (s.act expiresAt i t e).2.Consistent i (s.act expiresAt i t e).1 := by
  by_cases hholds : t.holdsLock = true
  · exact lifeCycle_act_of_holdsLock hs ht hholds hfresh
  · rcases act_of_not_holdsLock expiresAt s i e (Bool.eq_false_iff.mpr hholds) with
      ⟨hsame, hnot⟩ | ⟨hnone, htaken, hnext⟩
    · rw [hsame]
      have hlock : s.lock ≠ some i := fun hlock => hholds (ht.lock.mpr hlock)
      refine ⟨hs, ?_, QRISThread.knows_of_not_holdsLock hnot s⟩
      simp [hnot, hlock]
    · rw [htaken]
      refine ⟨⟨hs.once, hs.sent_once, fun h => by cases h⟩, ?_⟩
      rcases hnext with hnext | hnext
      · rw [hnext]
        exact ⟨by simp [QRISThread.holdsLock], hs.sent_iff hnone⟩
      · rw [hnext]
        exact ⟨by simp [QRISThread.holdsLock], hs.sent_iff hnone⟩

theorem not_lifeCycle_of_stale (expiresAt : Int) (i : Nat) (e : QRISInput) (hs : LifeCycle s)
    (hconfirmed : s.status = .confirmed) :
    ¬ LifeCycle (s.act expiresAt i .expiring e).1 := by
  intro hafter
  rcases hs.once with ⟨hpending, -⟩ | ⟨-, hchanges⟩
  · rw [hpending] at hconfirmed
    cases hconfirmed
  · rcases hafter.once with ⟨hpending, -⟩ | ⟨-, htwice⟩
    · cases hpending
    · simp [act, setStatus, hconfirmed, hchanges] at htwice

end QRISShared

/-- The life of a deposit is in order after every step of a run, of any number of threads, exactly
    where no request for the status writes over a confirmation. -/
theorem qris_lifeCycle_iff (expiresAt : Int) (arrivals : Nat → QRISThread)
    (harrivals : ∀ i, (arrivals i).Arriving) (steps : List (Nat × QRISInput)) :
    Run.Along (Threads.step (QRISShared.act expiresAt))
        (fun c x => LifeCycle (Threads.step (QRISShared.act expiresAt) c x).shared)
        (QRISShared.start arrivals) steps ↔
      Run.Along (Threads.step (QRISShared.act expiresAt)) (Threads.On NoStaleExpiry)
        (QRISShared.start arrivals) steps := by
  have hstart : Threads.Inv LifeCycle (fun i s t => QRISThread.Consistent i s t)
      (QRISShared.start arrivals) := by
    refine ⟨⟨.inl ⟨rfl, rfl⟩, by simp [QRISShared.start], by simp [QRISShared.start]⟩, ?_⟩
    intro i
    have hnot := (harrivals i).not_holdsLock
    exact ⟨by simp [QRISShared.start, hnot], QRISThread.knows_of_not_holdsLock hnot _⟩
  have hkept : ∀ (c : Threads.Config QRISShared QRISThread) x,
      Threads.Inv LifeCycle (fun i s t => QRISThread.Consistent i s t) c →
      Threads.On NoStaleExpiry c x →
      Threads.Inv LifeCycle (fun i s t => QRISThread.Consistent i s t)
        (Threads.step (QRISShared.act expiresAt) c x) := by
    intro c x hc hx
    refine hc.step x (QRISShared.lifeCycle_act hc.shared (hc.threads x.1) hx) ?_
    exact fun j u hj hu => QRISShared.consistent_other (hc.threads x.1) hj hu
  have hneeded : ∀ (c : Threads.Config QRISShared QRISThread) x,
      Threads.Inv LifeCycle (fun i s t => QRISThread.Consistent i s t) c →
      LifeCycle (Threads.step (QRISShared.act expiresAt) c x).shared →
      Threads.On NoStaleExpiry c x := by
    intro c x hc hafter hexpiring hconfirmed
    refine QRISShared.not_lifeCycle_of_stale expiresAt x.1 x.2 hc.shared hconfirmed ?_
    exact hexpiring ▸ hafter
  constructor
  · intro h
    exact h.mono (fun c x hc hx => hkept c x hc (hneeded c x hc hx)) hneeded hstart
  · intro h
    exact h.mono hkept (fun c x hc hx => (hkept c x hc hx).shared) hstart

def sampleArrivals : Nat → QRISThread
  | 0 => .sleeping
  | 1 => .authorizing
  | _ => .looking

theorem sampleArrivals_arriving (i : Nat) : (sampleArrivals i).Arriving := by
  unfold sampleArrivals
  split
  · exact .inl rfl
  · exact .inr (.inl rfl)
  · exact .inr (.inr rfl)

def turns (n i : Nat) (sent : Bool) (now : Int) : List (Nat × QRISInput) :=
  List.replicate n (i, ⟨true, sent, now⟩)

theorem qris_lifeCycle_sample :
    Run.Along (Threads.step (QRISShared.act 1800))
      (fun c x => LifeCycle (Threads.step (QRISShared.act 1800) c x).shared)
      (QRISShared.start sampleArrivals)
      (turns 5 0 false 10 ++ turns 6 1 true 1801 ++ turns 3 2 true 1802) :=
  (qris_lifeCycle_iff 1800 sampleArrivals sampleArrivals_arriving _).mpr (by decide)

/-- A request for the status reads `pending` before the confirmation, and marks the deposit as
    expired after it. -/
theorem qris_expiredAfterConfirmed :
    (Run.run (Threads.step (QRISShared.act 1800)) (QRISShared.start sampleArrivals)
      (turns 5 0 false 10 ++ turns 3 2 true 1801 ++ turns 6 1 true 1801 ++
        turns 3 2 true 1802)).shared = ⟨.expired, none, 1, [.expired, .confirmed]⟩ := by
  decide

/-- No two pending deposits have the same total. -/
def TotalsDistinct (items : QRISItems) : Prop :=
  ∀ e ∈ items.entries, ∀ e' ∈ items.entries, e.2.status = .pending → e'.2.status = .pending →
    e.2.totalIDR = e'.2.totalIDR → e.1 = e'.1

structure QRISDeposit.WellPriced (d : QRISDeposit) : Prop where
  whole : ∃ n : Int, d.amountIDR = n * 1000
  code_range : 100 ≤ d.uniqueCode ∧ d.uniqueCode ≤ 999
  total : d.totalIDR = d.amountIDR + d.uniqueCode

/-- The codes that `handleQRISCreate` tries for a request. -/
def QRISCreate.candidates (req : QRISCreate) (left k : Nat) (code : Int) : List Int :=
  code :: (List.range' k left).map req.retryCode

/-- A request for a whole amount, with a clock after 1970, for which one of the codes that are tried
    is free. -/
structure QRISCreate.Identifiable (items : QRISItems) (req : QRISCreate) : Prop where
  whole : req.amountGRD.den = 1
  nano : 0 ≤ req.nano
  retryNano : ∀ k < codeAttempts, 0 ≤ req.retryNano k ∧ req.retryNano k < 9223372036854775000
  free : ∃ code ∈ req.candidates codeAttempts 0 (codeOf req.nano),
    codeConflict items (req.amountGRD * qrisGRDRate) code = false

def CreatesIdentifiable (items : QRISItems) : QRISEvent → Prop
  | .create req => req.Identifiable items
  | _ => True

variable {items : QRISItems}

theorem chooseCode_mem (amountIDR : ℚ) (req : QRISCreate) (left k : Nat) (code : Int) :
    chooseCode items amountIDR req left k code ∈ req.candidates left k code := by
  induction left generalizing k code with
  | zero => exact List.mem_cons_self
  | succ left ih =>
    unfold chooseCode
    split_ifs with hconflict
    · exact List.mem_cons_of_mem _ (ih (k + 1) (req.retryCode k))
    · exact List.mem_cons_self

theorem chooseCode_free {amountIDR : ℚ} {req : QRISCreate} {left k : Nat} {code : Int}
    (hfree : ∃ c ∈ req.candidates left k code, codeConflict items amountIDR c = false) :
    codeConflict items amountIDR (chooseCode items amountIDR req left k code) = false := by
  induction left generalizing k code with
  | zero =>
    obtain ⟨c, hc, hc_free⟩ := hfree
    rw [List.mem_singleton.mp hc] at hc_free
    exact hc_free
  | succ left ih =>
    unfold chooseCode
    split_ifs with hconflict
    · obtain ⟨c, hc, hc_free⟩ := hfree
      refine ih ⟨c, ?_, hc_free⟩
      rcases List.mem_cons.mp hc with rfl | hc
      · rw [hconflict] at hc_free
        cases hc_free
      · exact hc
    · exact Bool.eq_false_iff.mpr hconflict

theorem codeOf_range {nano : Int} (h : 0 ≤ nano) : 100 ≤ codeOf nano ∧ codeOf nano ≤ 999 := by
  rw [codeOf, Int.tmod_eq_emod_of_nonneg h]
  omega

theorem QRISCreate.Identifiable.candidate_range {req : QRISCreate} (h : req.Identifiable items)
    {code : Int} (hcode : code ∈ req.candidates codeAttempts 0 (codeOf req.nano)) :
    100 ≤ code ∧ code ≤ 999 := by
  rcases List.mem_cons.mp hcode with rfl | hcode
  · exact codeOf_range h.nano
  · obtain ⟨k, hk, rfl⟩ := List.mem_map.mp hcode
    rw [List.mem_range'_1, codeAttempts] at hk
    obtain ⟨hlo, hhi⟩ := h.retryNano k (by rw [codeAttempts]; omega)
    rw [QRISCreate.retryCode, Int64Lib.wrap64_of_range (by omega) (by omega)]
    exact codeOf_range (by omega)

theorem QRISDeposit.WellPriced.eq_of_total_eq {d d' : QRISDeposit} (h : d.WellPriced)
    (h' : d'.WellPriced) (htotal : d.totalIDR = d'.totalIDR) :
    d.amountIDR = d'.amountIDR ∧ d.uniqueCode = d'.uniqueCode := by
  obtain ⟨n, hn⟩ := h.whole
  obtain ⟨n', hn'⟩ := h'.whole
  have hcode := h.code_range
  have hcode' := h'.code_range
  have hsum : n * 1000 + d.uniqueCode = n' * 1000 + d'.uniqueCode := by
    rw [h.total, h'.total, hn, hn'] at htotal
    exact_mod_cast htotal
  have hsame : n = n' := by omega
  exact ⟨by rw [hn, hn', hsame], by omega⟩

theorem qrisStep_create_cases (depositID : GoString → ℚ → Int → Int → GoString)
    (items : QRISItems) (req : QRISCreate) :
    qrisStep depositID items (.create req) = items ∨
      ∃ id, qrisStep depositID items (.create req) = items.write qrisBefore id
        ⟨req.address, req.amountGRD, req.amountGRD * qrisGRDRate,
          chooseCode items (req.amountGRD * qrisGRDRate) req codeAttempts 0 (codeOf req.nano),
          req.amountGRD * qrisGRDRate +
            chooseCode items (req.amountGRD * qrisGRDRate) req codeAttempts 0 (codeOf req.nano),
          .pending⟩ := by
  cases hcreate : handleQRISCreate depositID items req with
  | error err =>
    refine .inl ?_
    simp only [qrisStep, hcreate]
  | ok items' =>
    refine .inr ⟨depositID req.address req.amountGRD (chooseCode items
      (req.amountGRD * qrisGRDRate) req codeAttempts 0 (codeOf req.nano)) req.idNano, ?_⟩
    simp only [qrisStep, hcreate]
    obtain ⟨_, -, hcreate⟩ := Result.bind_ok_iff.mp hcreate
    obtain ⟨_, -, hcreate⟩ := Result.bind_ok_iff.mp hcreate
    obtain ⟨_, -, hcreate⟩ := Result.bind_ok_iff.mp hcreate
    exact (Except.ok.inj hcreate).symm

theorem mem_of_pending_modify {id : GoString} {f : QRISDeposit → QRISDeposit}
    (hf : ∀ d, (f d).status ≠ .pending) {e : GoString × QRISDeposit}
    (he : e ∈ (items.modify qrisBefore id f).entries) (hpending : e.2.status = .pending) :
    e ∈ items.entries := by
  cases hread : items.read id with
  | none =>
    rw [items.modify_of_none qrisBefore hread] at he
    exact he
  | some d =>
    rw [items.modify_of_some qrisBefore hread, Store.mem_write_iff] at he
    rcases he with ⟨-, hd⟩ | ⟨-, he⟩
    · rw [hd] at hpending
      exact absurd hpending (hf d)
    · exact he

theorem QRISDeposit.confirm_status (d : QRISDeposit) : d.confirm.status ≠ .pending := by
  unfold QRISDeposit.confirm
  split_ifs with hpending
  · simp
  · exact hpending

structure Priced (items : QRISItems) : Prop where
  distinct : TotalsDistinct items
  wellPriced : ∀ e ∈ items.entries, e.2.status = .pending → e.2.WellPriced

theorem Priced.of_pending_subset {items' : QRISItems} (h : Priced items)
    (hsub : ∀ e ∈ items'.entries, e.2.status = .pending → e ∈ items.entries) : Priced items' where
  distinct e he e' he' hpending hpending' :=
    h.distinct e (hsub e he hpending) e' (hsub e' he' hpending') hpending hpending'
  wellPriced e he hpending := h.wellPriced e (hsub e he hpending) hpending

theorem Priced.write (h : Priced items) (id : GoString) {d : QRISDeposit} (hd : d.WellPriced)
    (hfree : codeConflict items d.amountIDR d.uniqueCode = false) :
    Priced (items.write qrisBefore id d) := by
  have hnew : ∀ e ∈ items.entries, e.2.status = .pending → e.2.totalIDR ≠ d.totalIDR := by
    intro e he hpending htotal
    obtain ⟨hamount, hcode⟩ := (h.wellPriced e he hpending).eq_of_total_eq hd htotal
    have hconflict : codeConflict items d.amountIDR d.uniqueCode = true :=
      List.any_eq_true.mpr ⟨e, he, decide_eq_true ⟨hpending, hcode, hamount⟩⟩
    rw [hfree] at hconflict
    cases hconflict
  refine ⟨?_, ?_⟩
  · rintro ⟨k, v⟩ he ⟨k', v'⟩ he' hpending hpending' htotal
    rcases (Store.mem_write_iff ..).mp he with ⟨hk, hv⟩ | ⟨-, hold⟩
    · rcases (Store.mem_write_iff ..).mp he' with ⟨hk', -⟩ | ⟨-, hold'⟩
      · exact hk.trans hk'.symm
      · rw [hv] at htotal
        exact absurd htotal.symm (hnew _ hold' hpending')
    · rcases (Store.mem_write_iff ..).mp he' with ⟨-, hv'⟩ | ⟨-, hold'⟩
      · rw [hv'] at htotal
        exact absurd htotal (hnew _ hold hpending)
      · exact h.distinct _ hold _ hold' hpending hpending' htotal
  · rintro ⟨k, v⟩ he hpending
    rcases (Store.mem_write_iff ..).mp he with ⟨-, hv⟩ | ⟨-, hold⟩
    · rw [hv]
      exact hd
    · exact h.wellPriced _ hold hpending

theorem Priced.step (depositID : GoString → ℚ → Int → Int → GoString) (h : Priced items)
    (event : QRISEvent) (hevent : CreatesIdentifiable items event) :
    Priced (qrisStep depositID items event) := by
  cases event with
  | confirm id =>
    exact h.of_pending_subset fun e he => mem_of_pending_modify QRISDeposit.confirm_status he
  | expire id =>
    exact h.of_pending_subset fun e he =>
      mem_of_pending_modify (f := QRISDeposit.expire) (fun d => by simp [QRISDeposit.expire]) he
  | create req =>
    rcases qrisStep_create_cases depositID items req with hsame | ⟨id, hwrite⟩
    · rw [hsame]
      exact h
    · rw [hwrite]
      refine h.write id ⟨⟨req.amountGRD.num, ?_⟩, ?_, rfl⟩ (chooseCode_free hevent.free)
      · have hwhole := (Rat.coe_int_num_of_den_eq_one hevent.whole).symm
        exact congrArg (fun x : ℚ => x * 1000) hwhole
      · exact hevent.candidate_range (chooseCode_mem _ _ _ _ _)

/-- In every run of creations, confirmations and expiries in which the amounts are whole, the clock
    is after 1970 and a free code is among those tried, no two pending deposits ever have the same
    total. -/
theorem qrisRun_totalsDistinct (depositID : GoString → ℚ → Int → Int → GoString)
    (events : List QRISEvent)
    (hevents : Run.Along (qrisStep depositID) CreatesIdentifiable Store.empty events) :
    TotalsDistinct (Run.run (qrisStep depositID) Store.empty events) := by
  have hpriced : Priced (Run.run (qrisStep depositID) Store.empty events) := by
    refine hevents.inv (fun items event h hevent => h.step depositID event hevent) ?_
    exact ⟨fun _ he => (by cases he), fun _ he => (by cases he)⟩
  exact hpriced.distinct

def createOne : QRISCreate := ⟨[97], 1, 1713000000000000700, fun _ => 0, 1713000000000000750⟩
def createLater (amountGRD : ℚ) : QRISCreate :=
  ⟨[97], amountGRD, 1713000001000000500, fun _ => 0, 1713000001000000550⟩

def sampleDepositID (_ : GoString) (amountGRD : ℚ) (uniqueCode nano : Int) : GoString :=
  if uniqueCode = 200 ∧ nano = 1713000000000000750 then
    [81, 82, 45, 50, 53, 102, 49, 49, 48, 98, 97, 100, 99, 98, 54]
  else if amountGRD = 2 then
    [81, 82, 45, 56, 56, 102, 51, 51, 100, 102, 53, 51, 49, 56, 50]
  else [81, 82, 45, 56, 102, 51, 56, 101, 102, 99, 50, 102, 57, 100, 54]

def pendingTotals (items : QRISItems) : List ℚ :=
  (items.entries.filter fun e => e.2.status = .pending).map fun e => e.2.totalIDR

theorem qrisRun_totalsDistinct_sample :
    pendingTotals (Run.run (qrisStep sampleDepositID) Store.empty
        [.create createOne, .create (createLater 2)]) = [2100, 1200] ∧
      TotalsDistinct (Run.run (qrisStep sampleDepositID) Store.empty
        [.create createOne, .create (createLater 2)]) := by
  refine ⟨by decide +kernel, qrisRun_totalsDistinct sampleDepositID _ ⟨?_, ?_, trivial⟩⟩
  · exact ⟨by decide, by decide, fun _ _ => by simp [createOne], 200, by decide, by decide +kernel⟩
  · exact ⟨by decide, by decide, fun _ _ => by simp [createLater], 100, by decide,
      by decide +kernel⟩

/-- 1 GRD with code 200 and 11/10 GRD with code 100 come to the same total. -/
theorem qrisRun_totalsEqual :
    pendingTotals (Run.run (qrisStep sampleDepositID) Store.empty
      [.create createOne, .create (createLater (11 / 10))]) = [1200, 1200] := by
  decide +kernel

end GarudaChain.Api
