import GarudaChain.Realtime.Hub
import Mathlib.Data.List.Basic

/-!
# Sends on closed channels

`Unregister` takes a client out of every topic before it closes its channel, so no `Publish` that
collects the subscribers later sends to it.
-/

namespace GarudaChain.Realtime

theorem mem_visited {α : Type} [DecidableEq α] (order elems : List α) (x : α) :
    x ∈ visited order elems ↔ x ∈ elems := by
  unfold visited
  split
  · rename_i hperm
    exact (List.isPerm_iff.mp hperm).mem_iff
  · exact Iff.rfl

variable {μ : Type}

namespace Hub

@[simp] theorem topics_send (h : Hub μ) (c : Nat) (msg : μ) (full : Bool) :
    (h.send c msg full).topics = h.topics := by
  unfold send
  split_ifs <;> rfl

@[simp] theorem clientTopics_send (h : Hub μ) (c : Nat) (msg : μ) (full : Bool) :
    (h.send c msg full).clientTopics = h.clientTopics := by
  unfold send
  split_ifs <;> rfl

@[simp] theorem closed_send (h : Hub μ) (c : Nat) (msg : μ) (full : Bool) (k : Nat) :
    ((h.send c msg full).chans k).closed = (h.chans k).closed := by
  unfold send
  split_ifs
  · rfl
  · rfl
  · by_cases hk : k = c
    · subst hk
      simp
    · simp [hk]

theorem crashed_send {h : Hub μ} {c : Nat} (hopen : (h.chans c).closed = false) (msg : μ) (full : Bool) :
    (h.send c msg full).crashed = h.crashed := by
  unfold send
  rw [if_neg (by simp [hopen])]
  split_ifs <;> rfl

theorem topics_close (h : Hub μ) (c : Nat) : (h.close c).topics = h.topics := by
  unfold close
  split_ifs <;> rfl

theorem clientTopics_close (h : Hub μ) (c : Nat) : (h.close c).clientTopics = h.clientTopics := by
  unfold close
  split_ifs <;> rfl

theorem chans_close_of_ne (h : Hub μ) {c k : Nat} (hk : k ≠ c) : (h.close c).chans k = h.chans k := by
  unfold close
  split_ifs
  · rfl
  · exact Function.update_of_ne hk _ _

theorem crashed_close {h : Hub μ} (hcrash : h.crashed ≠ some .sendOnClosedChannel) (c : Nat) :
    (h.close c).crashed ≠ some .sendOnClosedChannel := by
  unfold close
  split_ifs
  · rintro ⟨⟩
  · exact hcrash

structure SubscribersOpen (h : Hub μ) : Prop where
  noted : ∀ t, ∀ c ∈ h.topics t, t ∈ h.clientTopics c
  isOpen : ∀ t, ∀ c ∈ h.topics t, (h.chans c).closed = false
  alive : h.crashed ≠ some .sendOnClosedChannel

namespace SubscribersOpen

variable {h : Hub μ}

theorem register (hopen : h.SubscribersOpen) (c : Nat) : (h.register c).SubscribersOpen :=
  ⟨hopen.noted, hopen.isOpen, hopen.alive⟩

theorem send (hopen : h.SubscribersOpen) {c : Nat} (hc : (h.chans c).closed = false) (msg : μ)
    (full : Bool) : (h.send c msg full).SubscribersOpen where
  noted := by simpa using hopen.noted
  isOpen := by simpa using hopen.isOpen
  alive := by rw [crashed_send hc]; exact hopen.alive

theorem subscribe (hopen : h.SubscribersOpen) {c : Nat} (hc : (h.chans c).closed = false)
    (topic : String) : (h.subscribe c topic).SubscribersOpen := by
  -- the only new pair of a topic and a subscriber is `topic` and `c`
  have hmem : ∀ t k, k ∈ (h.subscribe c topic).topics t → (t = topic ∧ k = c) ∨ k ∈ h.topics t := by
    intro t k hk
    by_cases ht : t = topic
    · subst ht
      simp only [Hub.subscribe, Function.update_self, List.mem_insert_iff] at hk
      exact hk.imp_left fun h => ⟨rfl, h⟩
    · simp only [Hub.subscribe, Function.update_of_ne ht] at hk
      exact .inr hk
  refine ⟨?_, ?_, hopen.alive⟩
  · intro t k hk
    by_cases hkc : k = c
    · subst hkc
      simp only [Hub.subscribe, Function.update_self, List.mem_insert_iff]
      exact (hmem t k hk).imp And.left (hopen.noted t k)
    · simp only [Hub.subscribe, Function.update_of_ne hkc]
      exact hopen.noted t k ((hmem t k hk).resolve_left fun h => hkc h.2)
  · intro t k hk
    rcases hmem t k hk with ⟨-, rfl⟩ | hold
    · exact hc
    · exact hopen.isOpen t k hold

theorem unsubscribe (hopen : h.SubscribersOpen) (c : Nat) (topic : String) :
    (h.unsubscribe c topic).SubscribersOpen := by
  have hmem : ∀ t k, k ∈ (h.unsubscribe c topic).topics t → k ∈ h.topics t ∧ ¬ (t = topic ∧ k = c) := by
    intro t k hk
    by_cases ht : t = topic
    · subst ht
      simp only [Hub.unsubscribe, Function.update_self, List.mem_filter, decide_eq_true_eq] at hk
      exact ⟨hk.1, fun h => hk.2 h.2⟩
    · simp only [Hub.unsubscribe, Function.update_of_ne ht] at hk
      exact ⟨hk, fun h => ht h.1⟩
  refine ⟨?_, fun t k hk => hopen.isOpen t k (hmem t k hk).1, hopen.alive⟩
  intro t k hk
  obtain ⟨hold, hother⟩ := hmem t k hk
  by_cases hkc : k = c
  · subst hkc
    simp only [Hub.unsubscribe, Function.update_self, List.mem_filter, decide_eq_true_eq]
    exact ⟨hopen.noted t k hold, fun ht => hother ⟨ht, rfl⟩⟩
  · simpa only [Hub.unsubscribe, Function.update_of_ne hkc] using hopen.noted t k hold

theorem unregister (hopen : h.SubscribersOpen) (c : Nat) : (h.unregister c).SubscribersOpen := by
  unfold Hub.unregister
  split
  · rename_i hc
    have hleft : ∀ t k, (k ∈ if t ∈ h.clientTopics c then (h.topics t).filter (· ≠ c) else h.topics t) →
        k ∈ h.topics t ∧ k ≠ c := by
      intro t k hk
      split_ifs at hk with ht
      · simpa using hk
      · exact ⟨hk, fun hkc => ht (hopen.noted t c (hkc ▸ hk))⟩
    refine ⟨?_, ?_, crashed_close (by exact hopen.alive) c⟩
    · intro t k hk
      rw [topics_close] at hk
      rw [clientTopics_close]
      exact hopen.noted t k (hleft t k hk).1
    · intro t k hk
      rw [topics_close] at hk
      obtain ⟨hold, hkc⟩ := hleft t k hk
      rw [chans_close_of_ne _ hkc]
      exact hopen.isOpen t k hold
  · exact hopen

end SubscribersOpen

theorem chans_unregister_of_ne (h : Hub μ) {c k : Nat} (hk : k ≠ c) :
    (h.unregister c).chans k = h.chans k := by
  unfold unregister
  split
  · exact chans_close_of_ne _ hk
  · rfl

end Hub

def SendsToOpen (h : Hub μ) : HubCall μ → Prop
  | .idle => True
  | .sending clients _ => ∀ c ∈ clients, (h.chans c).closed = false

/-- A client subscribes before its channel is closed, and is unregistered while no `Publish` has yet to
    send to it. -/
def HubInTurn (c : Threads.Config (Hub μ) (HubCall μ)) (x : Nat × HubInput μ) : Prop :=
  match x.2 with
  | .subscribe k _ => (c.shared.chans k).closed = false
  | .unregister k => ∀ j clients payload, c.threads j = .sending clients payload → k ∉ clients
  | _ => True

theorem closed_call {h : Hub μ} {input : HubInput μ} {k : Nat}
    (hk : ∀ c, input = .unregister c → k ≠ c) : ((h.call input).1.chans k).closed = (h.chans k).closed := by
  cases input with
  | unregister c => exact congrArg Chan.closed (h.chans_unregister_of_ne (hk c rfl))
  | register _ | subscribe _ _ | unsubscribe _ _ | publish _ _ _ | send _ => rfl

theorem call_subscribersOpen {h : Hub μ} (hopen : h.SubscribersOpen) {input : HubInput μ}
    (hsub : ∀ c topic, input = .subscribe c topic → (h.chans c).closed = false) :
    (h.call input).1.SubscribersOpen ∧ SendsToOpen (h.call input).1 (h.call input).2 := by
  cases input with
  | register c => exact ⟨hopen.register c, trivial⟩
  | unregister c => exact ⟨hopen.unregister c, trivial⟩
  | subscribe c topic => exact ⟨hopen.subscribe (hsub c topic rfl) topic, trivial⟩
  | unsubscribe c topic => exact ⟨hopen.unsubscribe c topic, trivial⟩
  | publish topic msg order =>
    exact ⟨hopen, fun c hc => hopen.isOpen topic c ((mem_visited _ _ c).mp hc)⟩
  | send _ => exact ⟨hopen, trivial⟩

theorem SendsToOpen.of_closed_eq {h h' : Hub μ} {t : HubCall μ} (ht : SendsToOpen h t)
    (hclosed : ∀ clients payload, t = .sending clients payload →
      ∀ c ∈ clients, (h'.chans c).closed = (h.chans c).closed) : SendsToOpen h' t := by
  cases t with
  | idle => trivial
  | sending clients payload =>
    intro c hc
    rw [hclosed clients payload rfl c hc]
    exact ht c hc

theorem hubStep_cases (i : Nat) (h : Hub μ) (t : HubCall μ) (input : HubInput μ) :
    hubStep i h t input = h.call input ∨
    (∃ c clients payload full, t = .sending (c :: clients) payload ∧
      hubStep i h t input = (h.send c payload full, .sending clients payload)) ∨
    hubStep i h t input = (h, t) := by
  unfold hubStep
  split_ifs with hcrash
  · exact .inr (.inr rfl)
  · split
    · exact .inl rfl
    · rename_i c clients payload full
      exact .inr (.inl ⟨c, clients, payload, full, rfl, rfl⟩)
    · exact .inl rfl
    · exact .inr (.inr rfl)

theorem hubStep_keeps {c : Threads.Config (Hub μ) (HubCall μ)} {x : Nat × HubInput μ}
    (hinv : Threads.Inv Hub.SubscribersOpen (fun _ => SendsToOpen) c) (hturn : HubInTurn c x) :
    Threads.Inv Hub.SubscribersOpen (fun _ => SendsToOpen) (Threads.step hubStep c x) := by
  obtain ⟨i, input⟩ := x
  refine Threads.inv_step _ ?_ ?_
  · rcases hubStep_cases i c.shared (c.threads i) input with hcall | ⟨k, clients, payload, full, ht, hsend⟩ | hstay
    · rw [hcall]
      refine call_subscribersOpen hinv.shared ?_
      rintro k topic rfl
      exact hturn
    · have hown := hinv.threads i
      rw [ht] at hown
      obtain ⟨hk, hrest⟩ := List.forall_mem_cons.mp hown
      rw [hsend]
      exact ⟨hinv.shared.send hk payload full, by simpa [SendsToOpen] using hrest⟩
    · rw [hstay]
      exact ⟨hinv.shared, hinv.threads i⟩
  · intro j _
    refine (hinv.threads j).of_closed_eq ?_
    intro clients payload hj k hk
    rcases hubStep_cases i c.shared (c.threads i) input with hcall | ⟨_, _, _, _, _, hsend⟩ | hstay
    · rw [hcall]
      refine closed_call ?_
      rintro _ rfl rfl
      exact hturn j clients payload hj hk
    · rw [hsend]
      exact Hub.closed_send ..
    · rw [hstay]

def hubStart : Threads.Config (Hub μ) (HubCall μ) := ⟨.empty, fun _ => .idle⟩

/-- If no client subscribes after its channel is closed, and none is unregistered while a `Publish` has
    yet to send to it, then no interleaving of the calls sends on a closed channel. -/
theorem hubRun_no_send_on_closed {xs : List (Nat × HubInput μ)}
    (h : Run.Along (Threads.step hubStep) HubInTurn hubStart xs) :
    (Run.run (Threads.step hubStep) (hubStart (μ := μ)) xs).shared.crashed ≠ some .sendOnClosedChannel := by
  have hstart : Threads.Inv Hub.SubscribersOpen (fun _ => SendsToOpen) (hubStart (μ := μ)) :=
    ⟨⟨fun _ _ hc => absurd hc List.not_mem_nil, fun _ _ hc => absurd hc List.not_mem_nil, by rintro ⟨⟩⟩,
      fun _ => trivial⟩
  exact (h.inv (fun _ _ => hubStep_keeps) hstart).shared.alive

def leaveEvents : List (Nat × HubInput String) :=
  [(0, .register 7), (0, .subscribe 7 "oracle"), (1, .publish "oracle" "rates" []), (1, .send false),
    (0, .unregister 7), (1, .publish "oracle" "rates" [])]

theorem hubRun_no_send_on_closed_leave :
    Run.Along (Threads.step hubStep) HubInTurn hubStart leaveEvents ∧
      ((Run.run (Threads.step hubStep) hubStart leaveEvents).shared.chans 7 = ⟨["rates"], true⟩) ∧
      (Run.run (Threads.step hubStep) hubStart leaveEvents).shared.crashed ≠ some .sendOnClosedChannel := by
  have hturn : Run.Along (Threads.step hubStep) HubInTurn hubStart leaveEvents := by
    refine ⟨trivial, rfl, trivial, trivial, ?_, trivial, trivial⟩
    intro j clients payload hj
    by_cases h1 : j = 1
    · subst h1
      cases hj
      decide
    · by_cases h0 : j = 0
      · subst h0
        cases hj
      · simp [Threads.step, h0, h1, hubStart] at hj
  exact ⟨hturn, by decide, hubRun_no_send_on_closed hturn⟩

/-- The client leaves between the two parts of a `Publish`. -/
def leaveEarlyEvents : List (Nat × HubInput String) :=
  [(0, .register 7), (0, .subscribe 7 "oracle"), (1, .publish "oracle" "rates" []), (0, .unregister 7),
    (1, .send false)]

/-- A `Publish` that has collected a client before it is unregistered sends on its closed channel. -/
theorem hubRun_sends_on_closed :
    (Run.run (Threads.step hubStep) hubStart leaveEarlyEvents).shared.crashed =
      some .sendOnClosedChannel := by
  decide

end GarudaChain.Realtime
