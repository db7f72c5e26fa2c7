import GarudaChain.Mobile.P2PStorage

/-!
# Updates of the list of orders

Each call writes back the whole list that it has read, so a call that writes while another one holds a
list undoes or is undone.
-/

namespace GarudaChain.Mobile

/-- The order with an id, as `getOrderById` finds it. -/
def orderOf (id : String) (orders : List P2POrder) : Option P2POrder :=
  orders.find? fun o => o.id == id

def Change.effect (id : String) (found : Option P2POrder) : Change → Option P2POrder
  | .created order | .updated order => if order.id = id then some order else found
  | .released clock => found.map (P2POrder.autoRelease clock)

def Change.put : Change → Option P2POrder
  | .created order | .updated order => some order
  | .released _ => none

theorem autoRelease_id (clock : Clock) (order : P2POrder) : (order.autoRelease clock).id = order.id := by
  unfold P2POrder.autoRelease
  split <;> rfl

theorem orderOf_cons (id : String) (order : P2POrder) (orders : List P2POrder) :
    orderOf id (order :: orders) = if order.id = id then some order else orderOf id orders := by
  by_cases h : order.id = id <;> simp [orderOf, h]

theorem orderOf_set (id : String) (updated : P2POrder) (orders : List P2POrder) : ∀ idx,
    orders.findIdx? (fun o => o.id == updated.id) = some idx →
      orderOf id (orders.set idx updated) =
        if updated.id = id then some updated else orderOf id orders := by
  induction orders with
  | nil => intro idx h; cases h
  | cons order orders ih =>
    intro idx h
    rw [List.findIdx?_cons] at h
    by_cases hid : order.id = updated.id
    · rw [if_pos (by simpa using hid)] at h
      cases h
      rw [List.set_cons_zero, orderOf_cons, orderOf_cons, hid]
      split_ifs <;> rfl
    · rw [if_neg (by simpa using hid)] at h
      obtain ⟨i, hi, rfl⟩ := Option.map_eq_some_iff.mp h
      rw [List.set_cons_succ, orderOf_cons, orderOf_cons, ih i hi]
      split_ifs with hold hnew
      · exact absurd (hold.trans hnew.symm) hid
      all_goals rfl

theorem orderOf_updateIn (id : String) (updated : P2POrder) (orders : List P2POrder) :
    orderOf id (updateIn updated orders) =
      if updated.id = id then some updated else orderOf id orders := by
  unfold updateIn
  split
  · rename_i idx hidx
    exact orderOf_set id updated orders idx hidx
  · exact orderOf_cons id updated orders

theorem orderOf_map_autoRelease (id : String) (clock : Clock) (orders : List P2POrder) :
    orderOf id (orders.map (P2POrder.autoRelease clock)) =
      (orderOf id orders).map (P2POrder.autoRelease clock) := by
  simp only [orderOf, List.find?_map, Function.comp_def, autoRelease_id]

theorem orderOf_apply (id : String) (change : Change) (orders : List P2POrder) :
    orderOf id (change.apply orders) = change.effect id (orderOf id orders) := by
  cases change with
  | created order => exact orderOf_cons id order orders
  | updated order => exact orderOf_updateIn id order orders
  | released clock => exact orderOf_map_autoRelease id clock orders

def replay (id : String) (found : Option P2POrder) (log : List Change) : Option P2POrder :=
  log.foldl (fun found change => change.effect id found) found

variable {c : Threads.Config OrderStorage Call} {i : Nat} {id : String} {next : OrderStorage × Call}
  {op : Operation}

theorem isSome_effect {found : Option P2POrder} (h : found.isSome = true)
    (change : Change) : (change.effect id found).isSome = true := by
  cases change with
  | created order | updated order =>
    simp only [Change.effect]
    split_ifs
    · rfl
    · exact h
  | released clock => simpa [Change.effect] using h

theorem isSome_replay {found : Option P2POrder} (h : found.isSome = true)
    (log : List Change) : (replay id found log).isSome = true := by
  induction log generalizing found with
  | nil => exact h
  | cons change log ih => exact ih (isSome_effect h change)

theorem effect_of_put {change : Change} {order : P2POrder} (hput : change.put = some order)
    (found : Option P2POrder) : change.effect order.id found = some order := by
  cases change with
  | created other | updated other =>
    cases hput
    exact if_pos rfl
  | released clock => cases hput

theorem isSome_replay_of_put {change : Change} {order : P2POrder} {log : List Change}
    (hmem : change ∈ log) (hput : change.put = some order) (found : Option P2POrder) :
    (replay order.id found log).isSome = true := by
  obtain ⟨before, after, rfl⟩ := List.append_of_mem hmem
  rw [replay, List.foldl_append, List.foldl_cons, effect_of_put hput]
  exact isSome_replay rfl after

theorem autoRelease_cases (clock : Clock) (order : P2POrder) : order.autoRelease clock = order ∨
    order.status = .dibayar ∧ (order.autoRelease clock).status = .autoLepas := by
  unfold P2POrder.autoRelease
  split
  · rename_i hdue
    have hpaid : order.status = .dibayar := by
      simp only [P2POrder.isDue, Bool.and_eq_true, beq_iff_eq] at hdue
      exact hdue.1
    exact .inr ⟨hpaid, rfl⟩
  · exact .inl rfl

theorem replay_released (order : P2POrder) {log : List Change}
    (hputs : ∀ change ∈ log, ∀ other, change.put = some other → other.id ≠ id) :
    ∃ order', replay id (some order) log = some order' ∧ (order' = order ∨
      order.status = .dibayar ∧ ∃ clock, .released clock ∈ log ∧ order' = order.autoRelease clock) := by
  induction log generalizing order with
  | nil => exact ⟨order, rfl, .inl rfl⟩
  | cons change log ih =>
    obtain ⟨hfirst, hrest⟩ := List.forall_mem_cons.mp hputs
    cases change with
    | created other | updated other =>
      have hne : other.id ≠ id := hfirst other rfl
      obtain ⟨order', hreplay, hcases⟩ := ih order hrest
      refine ⟨order', ?_, hcases.imp_right fun ⟨hpaid, clock, hmem, heq⟩ =>
        ⟨hpaid, clock, List.mem_cons_of_mem _ hmem, heq⟩⟩
      rw [← hreplay]
      simp [replay, Change.effect, hne]
    | released clock =>
      obtain ⟨order', hreplay, hcases⟩ := ih (order.autoRelease clock) hrest
      refine ⟨order', hreplay, ?_⟩
      rcases autoRelease_cases clock order with hsame | ⟨hpaid, hreleased⟩
      · rw [hsame] at hcases
        exact hcases.imp_right fun ⟨hpaid, clock', hmem, heq⟩ =>
          ⟨hpaid, clock', List.mem_cons_of_mem _ hmem, heq⟩
      · rcases hcases with rfl | ⟨hstill, -⟩
        · exact .inr ⟨hpaid, clock, List.mem_cons_self, rfl⟩
        · rw [hreleased] at hstill
          cases hstill

def Call.finished : Call → Bool
  | .idle | .returned _ => true
  | .reading _ | .writing .. => false

def Call.carries (op : Operation) : Call → Prop
  | .reading op' => op' = op
  | .writing change _ _ => ∃ clock, change = op.change clock
  | .idle | .returned _ => False

def InTurn (c : Threads.Config OrderStorage Call) (x : Nat × Input) : Prop :=
  match c.threads x.1, x.2 with
  | .reading _, .answer _ failed => failed = false
  | .writing .., .answer _ failed =>
    failed = false ∧ ∀ j, j ≠ x.1 → ∀ change orders released, c.threads j ≠ .writing change orders released
  | _, _ => True

def startOf (stored : Option (List P2POrder)) : Threads.Config OrderStorage Call where
  shared := ⟨stored, [], []⟩
  threads := fun _ => .idle

def HoldsCurrent (s : OrderStorage) : Call → Prop
  | .writing change orders _ => orders = change.apply s.orders
  | _ => True

def Serial (stored : Option (List P2POrder)) (s : OrderStorage) : Prop :=
  ∀ id, orderOf id s.orders = replay id (orderOf id (stored.getD [])) s.log

theorem afterRead_holdsCurrent (clock : Clock) (op : Operation) (s : OrderStorage) :
    HoldsCurrent s (afterRead clock op s.orders) := by
  cases op with
  | createOrder order | updateOrder updated => rfl
  | processAutoReleases =>
    simp only [afterRead]
    split
    · trivial
    · rfl

theorem afterRead_carries (hop : op ≠ .processAutoReleases) (clock : Clock)
    (orders : List P2POrder) : (afterRead clock op orders).carries op := by
  cases op with
  | createOrder order | updateOrder updated => exact ⟨clock, rfl⟩
  | processAutoReleases => exact absurd rfl hop

inductive Moves (c : Threads.Config OrderStorage Call) (i : Nat) : OrderStorage × Call → Prop
  | called (op : Operation) : (c.threads i).finished = true →
      Moves c i ({ c.shared with calls := c.shared.calls ++ [op] }, .reading op)
  | read (op : Operation) (clock : Clock) : c.threads i = .reading op →
      Moves c i (c.shared, afterRead clock op c.shared.orders)
  | wrote (change : Change) (orders : List P2POrder) (released : List String) :
      c.threads i = .writing change orders released →
      (∀ j, j ≠ i → ∀ change' orders' released', c.threads j ≠ .writing change' orders' released') →
      Moves c i ({ c.shared with stored := some orders, log := c.shared.log ++ [change] },
        .returned (some released))
  | stayed : Moves c i (c.shared, c.threads i)

theorem moves_of_inTurn {x : Nat × Input} (hturn : InTurn c x) :
    Moves c x.1 (orderStep x.1 c.shared (c.threads x.1) x.2) := by
  obtain ⟨i, input⟩ := x
  unfold InTurn at hturn
  have hstay : Moves c i (c.shared, c.threads i) := .stayed
  cases hcall : c.threads i with
  | idle | returned _ =>
    rw [hcall] at hstay
    cases input with
    | call op => exact .called op (by rw [hcall]; rfl)
    | answer clock failed => exact hstay
  | reading op =>
    rw [hcall] at hstay
    cases input with
    | call op' => exact hstay
    | answer clock failed =>
      simp only [hcall] at hturn
      subst hturn
      exact .read op clock hcall
  | writing change orders released =>
    rw [hcall] at hstay
    cases input with
    | call op => exact hstay
    | answer clock failed =>
      simp only [hcall] at hturn
      obtain ⟨rfl, hothers⟩ := hturn
      exact .wrote change orders released hcall hothers

theorem HoldsCurrent.of_orders_eq {s s' : OrderStorage} (h : s'.orders = s.orders) {t : Call}
    (ht : HoldsCurrent s t) : HoldsCurrent s' t := by
  cases t with
  | writing change orders released => exact Eq.trans ht (congrArg change.apply h.symm)
  | idle | reading _ | returned _ => trivial

theorem Moves.serial {stored : Option (List P2POrder)} (h : Moves c i next)
    (hinv : Threads.Inv (Serial stored) (fun _ => HoldsCurrent) c) :
    (Serial stored next.1 ∧ HoldsCurrent next.1 next.2) ∧
      ∀ j, j ≠ i → HoldsCurrent next.1 (c.threads j) := by
  cases h with
  | called op _ =>
    exact ⟨⟨hinv.shared, trivial⟩, fun j _ => (hinv.threads j).of_orders_eq rfl⟩
  | read op clock _ =>
    exact ⟨⟨hinv.shared, afterRead_holdsCurrent clock op _⟩, fun j _ => hinv.threads j⟩
  | stayed => exact ⟨⟨hinv.shared, hinv.threads i⟩, fun j _ => hinv.threads j⟩
  | wrote change orders released hcall hothers =>
    have hcurrent : orders = change.apply c.shared.orders := by
      have := hinv.threads i
      rwa [hcall] at this
    refine ⟨⟨?_, trivial⟩, ?_⟩
    · intro id
      rw [replay, List.foldl_append]
      change orderOf id orders = change.effect id (replay id _ _)
      rw [← hinv.shared id, ← orderOf_apply, hcurrent]
    · -- no other call holds a list that this write could make stale
      intro j hj
      cases hother : c.threads j with
      | writing change' orders' released' => exact absurd hother (hothers j hj _ _ _)
      | idle | reading _ | returned _ => trivial

def Accounted (c : Threads.Config OrderStorage Call) : Prop :=
  ∀ op ∈ c.shared.calls, op ≠ .processAutoReleases →
    (∃ i, (c.threads i).carries op) ∨ ∃ clock, op.change clock ∈ c.shared.log

theorem carries_of_finished {t : Call} (hfinished : t.finished = true) :
    ¬ t.carries op := by
  cases t with
  | idle | returned _ => exact id
  | reading _ | writing _ _ _ => cases hfinished

theorem Moves.carries (h : Moves c i next) (hop : op ≠ .processAutoReleases)
    (hcarries : (c.threads i).carries op) :
    next.2.carries op ∨ ∃ clock, op.change clock ∈ next.1.log := by
  cases h with
  | called _ hfinished => exact absurd hcarries (carries_of_finished hfinished)
  | read op' clock hcall =>
    rw [hcall] at hcarries
    cases hcarries
    exact .inl (afterRead_carries hop clock _)
  | wrote change orders released hcall _ =>
    rw [hcall] at hcarries
    obtain ⟨clock, rfl⟩ := hcarries
    exact .inr ⟨clock, by simp⟩
  | stayed => exact .inl hcarries

theorem Moves.calls (h : Moves c i next) : (∀ change ∈ c.shared.log, change ∈ next.1.log) ∧
      ∀ op ∈ next.1.calls, op ∈ c.shared.calls ∨ next.2.carries op := by
  cases h with
  | called op _ =>
    refine ⟨fun _ h => h, ?_⟩
    intro op' hmem
    rcases List.mem_append.mp hmem with hold | hnew
    · exact .inl hold
    · exact .inr (List.mem_singleton.mp hnew).symm
  | read _ _ _ | stayed => exact ⟨fun _ h => h, fun _ h => .inl h⟩
  | wrote change _ _ _ _ => exact ⟨fun _ h => List.mem_append_left _ h, fun _ h => .inl h⟩

theorem orderStep_accounted {x : Nat × Input}
    (hinv : Accounted c) (hturn : InTurn c x) : Accounted (Threads.step orderStep c x) := by
  have hmoves := moves_of_inTurn hturn
  obtain ⟨hlog, hcalls⟩ := hmoves.calls
  intro op hmem hop
  have hown : (orderStep x.1 c.shared (c.threads x.1) x.2).2.carries op →
      ∃ i, ((Threads.step orderStep c x).threads i).carries op := by
    intro hcarries
    exact ⟨x.1, by simpa only [Threads.step, Function.update_self] using hcarries⟩
  rcases hcalls op hmem with hold | hnew
  · rcases hinv op hold hop with ⟨i, hcarries⟩ | ⟨clock, hwritten⟩
    · by_cases hi : i = x.1
      · subst hi
        exact (hmoves.carries hop hcarries).imp_left hown
      · exact .inl ⟨i, by simpa only [Threads.step, Function.update_of_ne hi] using hcarries⟩
    · exact .inr ⟨clock, hlog _ hwritten⟩
  · exact .inl (hown hnew)

section

variable {stored : Option (List P2POrder)} {xs : List (Nat × Input)}
  (h : Run.Along (Threads.step orderStep) InTurn (startOf stored) xs)

include h

theorem orderRun_serial : Serial stored (Run.run (Threads.step orderStep) (startOf stored) xs).shared :=
  (h.inv (I := Threads.Inv (Serial stored) fun _ => HoldsCurrent)
    (fun _ x hinv hturn =>
      have hnext := (moves_of_inTurn hturn).serial hinv
      Threads.inv_step x hnext.1 hnext.2)
    (show Threads.Inv _ _ (startOf stored) from ⟨fun _ => rfl, fun _ => trivial⟩)).shared

theorem orderRun_accounted : Accounted (Run.run (Threads.step orderStep) (startOf stored) xs) :=
  h.inv (fun _ _ => orderStep_accounted) (by rintro op ⟨⟩)

end

/-- If the storage does not fail and a call writes only while no other call holds a list, then the
    last order that was put under an id is in the list as it was put, or released if it was put as
    paid, and in the end every creation and update is written. -/
theorem orderRun_keeps_updates {stored : Option (List P2POrder)} {xs : List (Nat × Input)}
    (h : Run.Along (Threads.step orderStep) InTurn (startOf stored) xs) :
    let c := Run.run (Threads.step orderStep) (startOf stored) xs
    ((∀ i, (c.threads i).finished = true) →
      (∀ op ∈ c.shared.calls, op ≠ .processAutoReleases → ∃ clock, op.change clock ∈ c.shared.log) ∧
      ∀ order, .createOrder order ∈ c.shared.calls → ∃ kept ∈ c.shared.orders, kept.id = order.id) ∧
    ∀ before change after order, c.shared.log = before ++ change :: after → change.put = some order →
      (∀ later ∈ after, ∀ other, later.put = some other → other.id ≠ order.id) →
      ∃ kept, orderOf order.id c.shared.orders = some kept ∧ (kept = order ∨
        order.status = .dibayar ∧ ∃ clock, .released clock ∈ after ∧ kept = order.autoRelease clock) := by
  intro c
  refine ⟨?_, ?_⟩
  · intro hfinished
    have hwritten : ∀ op ∈ c.shared.calls, op ≠ .processAutoReleases →
        ∃ clock, op.change clock ∈ c.shared.log := by
      intro op hmem hop
      rcases orderRun_accounted h op hmem hop with ⟨i, hcarries⟩ | hlog
      · exact absurd hcarries (carries_of_finished (hfinished i))
      · exact hlog
    refine ⟨hwritten, ?_⟩
    intro order hmem
    obtain ⟨clock, hlog⟩ := hwritten _ hmem (by rintro ⟨⟩)
    have hsome := isSome_replay_of_put hlog (show _ = some order from rfl) (orderOf order.id (stored.getD []))
    rw [← orderRun_serial h order.id] at hsome
    obtain ⟨kept, hkept⟩ := Option.isSome_iff_exists.mp hsome
    exact ⟨kept, List.mem_of_find?_eq_some hkept, by simpa using List.find?_some hkept⟩
  · intro before change after order hlog hput hlater
    obtain ⟨kept, hkept, hcases⟩ := replay_released order hlater
    refine ⟨kept, ?_, hcases⟩
    rw [orderRun_serial h order.id, ← hkept]
    change replay order.id _ c.shared.log = _
    rw [hlog, replay, List.foldl_append, List.foldl_cons, effect_of_put hput, replay]

def paidOrder : P2POrder where
  id := "a"
  myRole := .buyer
  asset := "GRD"
  assetAmount := "1"
  status := .dibayar
  releasedAt := none
  autoReleaseAt := some 100
  messages := []

def otherOrder : P2POrder := { paidOrder with id := "b", status := .menunggu, autoReleaseAt := none }

def doneOrder : P2POrder := { paidOrder with status := .selesai, releasedAt := some 100 }

def noon : Clock := ⟨100, "12:00"⟩

/-- A creation, and then an update while `processAutoReleases` waits for the list. -/
def turnEvents : List (Nat × Input) :=
  [(0, .call (.createOrder paidOrder)), (0, .answer noon false), (0, .answer noon false),
    (0, .call (.updateOrder doneOrder)), (1, .call .processAutoReleases), (0, .answer noon false),
    (0, .answer noon false), (1, .answer noon false)]

theorem orderRun_keeps_updates_sample :
    Run.Along (Threads.step orderStep) InTurn (startOf none) turnEvents ∧
      ∃ kept, orderOf "a" (Run.run (Threads.step orderStep) (startOf none) turnEvents).shared.orders =
        some kept ∧ kept.status = .selesai := by
  have hturn : Run.Along (Threads.step orderStep) InTurn (startOf none) turnEvents := by
    refine ⟨trivial, rfl, ⟨rfl, ?_⟩, trivial, trivial, rfl, ⟨rfl, ?_⟩, rfl, trivial⟩
    all_goals
      intro j hj change orders released hcall
      by_cases hj1 : j = 1
      · subst hj1
        cases hcall
      · simp [Threads.step, hj, hj1, startOf] at hcall
  obtain ⟨kept, hkept, hcases⟩ := (orderRun_keeps_updates hturn).2 [.created paidOrder] (.updated doneOrder)
    [] doneOrder (by decide +kernel) rfl (by simp)
  refine ⟨hturn, kept, hkept, ?_⟩
  rcases hcases with rfl | ⟨hpaid, -⟩
  · rfl
  · cases hpaid

def createEvents : List (Nat × Input) :=
  [(0, .call (.createOrder paidOrder)), (1, .call (.createOrder otherOrder)), (0, .answer noon false),
    (1, .answer noon false), (0, .answer noon false), (1, .answer noon false)]

/-- The buyer closes the order while a pass of `processAutoReleases` holds the list. -/
def closeEvents : List (Nat × Input) :=
  [(0, .call .processAutoReleases), (0, .answer noon false), (1, .call (.updateOrder doneOrder)),
    (1, .answer noon false), (1, .answer noon false), (0, .answer noon false)]

/-- Two creations at once lose an order, and a pass of `processAutoReleases` undoes an update that was
    written while it held the list. -/
theorem orderRun_loses_updates :
    ((Run.run (Threads.step orderStep) (startOf none) createEvents).shared =
      ⟨some [otherOrder], [.createOrder paidOrder, .createOrder otherOrder],
        [.created paidOrder, .created otherOrder]⟩) ∧
    ((Run.run (Threads.step orderStep) (startOf (some [paidOrder])) closeEvents).shared.log =
      [.updated doneOrder, .released noon]) ∧
    ((orderOf "a" (Run.run (Threads.step orderStep) (startOf (some [paidOrder])) closeEvents).shared.orders).map
      P2POrder.status = some .autoLepas) := by
  refine ⟨?_, ?_, ?_⟩ <;> decide +kernel

end GarudaChain.Mobile
