import HelsterApi.Subscriptions.Orders
import HelsterApi.Subscriptions.UserGroups
import HelsterApi.Transition.Accounts

/-! The life of subscription orders under requests, purchases, callbacks, reconciliation and expiry
in any order. Each locks the order row for its transaction, so an order is a cell that is decided
once, with one subscription for the verdict "success" and none for any other.
-/

namespace HelsterApi.Subscriptions

open Function List Option Relational Transition
open Payments (PaymentProvider TopUpStatus)

section

open Store

/-- `listed` are the orders that reconciliation runs have still to go through, `created` the
subscriptions of each order.
-/
structure OrderState where
  store : OrderStore
  (listed requested : List SubscriptionOrder := [])
  created : String → List ℤ := fun _ => []

inductive OrderAction where
  | request (order : SubscriptionOrder)
  | purchase (w : OrderStatements) (now dbNow userId planId orderId : ℤ) (tradeNo : String)
  | callback (w : OrderStatements) (now dbNow : ℤ) (tradeNo providerPayload : String)
      (expected : Option PaymentProvider) (actualPaymentMethod : String)
  | list (limit minAgeSeconds maxAgeSeconds now : ℤ)
  | reconcile (index : ℕ) (w : OrderStatements) (now dbNow : ℤ)
      (query : Except String EpayOrderQueryResult) (payload : String) (dryRun : Bool)
  | expire (w : OrderStatements) (now : ℤ) (tradeNo : String)
      (expected : Option PaymentProvider)
  | saveFailed (index : ℕ) (succeeds : Bool)
  | subscriptions (action : Action)

structure OrderSettings where
  calendar : Calendar
  quotaPerUnit : ℚ
  epayId : String

def OrderState.after (s : OrderState) (tradeNo : String) (store : OrderStore) (created : Option ℤ)
    : OrderState :=
  { s with
    store := store
    created := update s.created tradeNo (s.created tradeNo ++ created.toList) }

/-- A handler that requests a payment inserts a pending order; without a checkout session it saves
its copy as failed.
-/
def OrderState.next (cfg : OrderSettings) (s : OrderState) : OrderAction → Option OrderState
  | .request order =>
    if order.status = .pending then
      (s.store.orders.insert order).map fun orders =>
        { s with
          store := { s.store with orders := orders }
          requested := order :: s.requested }
    else none
  | .purchase w now dbNow userId planId orderId tradeNo =>
    match purchaseSubscriptionWithBalance cfg.calendar cfg.quotaPerUnit w now dbNow userId
        planId orderId tradeNo s.store with
    | .error _ => some s
    | .ok store => some (s.after tradeNo store (some w.id))
  | .callback w now dbNow tradeNo providerPayload expected actualPaymentMethod =>
    match completeSubscriptionOrder cfg.calendar w now dbNow tradeNo providerPayload expected
        actualPaymentMethod s.store with
    | .error _ => some s
    | .ok (store, created) => some (s.after tradeNo store created)
  | .list limit minAgeSeconds maxAgeSeconds now =>
    let orders := getPendingEpaySubscriptionOrders limit minAgeSeconds maxAgeSeconds now
      s.store.orders
    some { s with listed := s.listed ++ orders }
  | .reconcile index w now dbNow query payload dryRun =>
    s.listed[index]?.map fun order =>
      let (_, store, created) := reconcileSubscription cfg.epayId cfg.calendar w now dbNow
        query payload dryRun order s.store
      ({ s with listed := s.listed.eraseIdx index } : OrderState).after order.tradeNo store created
  | .expire w now tradeNo expected =>
    match expireSubscriptionOrder w now tradeNo expected s.store with
    | .error _ => some s
    | .ok store => some { s with store := store }
  | .saveFailed index succeeds =>
    s.requested[index]?.map fun order =>
      { s with
        store := { s.store with
          orders := if succeeds then s.store.orders.save { order with status := .failed }
            else s.store.orders }
        requested := s.requested.eraseIdx index }
  | .subscriptions action =>
    some { s with
      store := { s.store with
        subscriptions := step cfg.calendar s.store.subscriptions action } }

def orderMachine (cfg : OrderSettings) : Machine OrderState OrderAction where
  initial s := s.store.orders.rows = [] ∧ s.listed = [] ∧ s.requested = []
    ∧ s.created = fun _ => []
  next := OrderState.next cfg

/-- Whether a step locks the order rows it writes, and deletes no subscription. The save of a failed
order writes a copy.
-/
def OrderAction.locks : OrderAction → Bool
  | .saveFailed _ _ => false
  | .subscriptions (.delete _ _ _) => false
  | _ => true

def LocksOrder (_ : OrderState) (action : OrderAction) : Prop :=
  action.locks = true
  deriving Decidable

def KeepsIds (s s' : Store) : Prop := ∀ a ∈ s.subs.rows, ∃ b ∈ s'.subs.rows, b.id = a.id

theorem KeepsIds.refl (store) : KeepsIds store store :=
  fun a member => ⟨a, member, rfl⟩

variable {cal : Calendar} {before : Store}

theorem KeepsIds.of_rewrites {R}
    (rule : WriteRule cal R) {after} (rewritten : before.Rewrites R after)
    : KeepsIds before after := by
  intro a member
  obtain ⟨b, memberB, related⟩ := rewritten.image member
  exact ⟨b, memberB, rule.keepsId related⟩

theorem KeepsIds.saveSub (store : Store) (sub) : KeepsIds store (store.saveSub sub) := by
  intro a member
  by_cases same : a.id = sub.id
  · exact ⟨sub, Keyed.mem_save.mpr (.inl ⟨rfl, a, member, same⟩), same.symm⟩
  · exact ⟨a, Keyed.mem_save.mpr (.inr ⟨member, same⟩), rfl⟩

theorem createFromPlan_ids {fault id userId now plan after}
    (done : createUserSubscriptionFromPlanTx cal fault id userId plan now before = .ok after)
    : KeepsIds before after ∧ ∃ b ∈ after.subs.rows, b.id = id := by
  obtain ⟨_, endTime, _, rows, _⟩ := createFromPlan_ok done
  constructor
  · intro a member
    exact ⟨a, by rw [rows]; exact mem_append_left _ member, rfl⟩
  · exact ⟨_, by rw [rows]; exact mem_append_right _ (mem_singleton_self _), rfl⟩

theorem KeepsIds.step {store a} (keeps : ∀ w id now, a ≠ .delete w id now)
    : KeepsIds store (Subscriptions.step cal store a) := by
  have rule := sameTerms_writeRule cal
  have same := refl store
  cases a with
  | create fault id userId plan now =>
    exact committed_of same fun _ done => (createFromPlan_ids done).1
  | invalidate w id now =>
    refine committed_of same fun after done => ?_
    obtain ⟨sub, _, downgraded⟩ := adminInvalidate_ok done
    unfold KeepsIds
    rw [downgradeUserGroup_subs downgraded]
    exact saveSub store (sub.cancelled now)
  | delete w id now => exact absurd rfl (keeps w id now)
  | expireUser w userId now =>
    refine committed_of same fun after done a member => ?_
    rw [expireSubscriptions_subs done]
    refine ⟨_, mem_expire.mpr ⟨a, member, rfl⟩, ?_⟩
    split <;> rfl
  | preConsume w call => exact .of_rewrites rule (sameTerms_preConsume cal w call store)
  | refund | postConsume | resetDue | adminResetUser | adminResetPlan =>
    exact .of_rewrites rule (step_rewrites rule (by trivial) store)

/-- One subscription is created for a successful order and none for any other. -/
def CreationPolicy (status : TopUpStatus) (ids : List ℤ) : Prop :=
  ids.length = if status = .success then 1 else 0
  deriving Decidable

/-- A step creates subscriptions from one order and loses none. -/
structure Adds (store store' : OrderStore) (created created' : String → List ℤ)
    (tradeNo : String) (ids : List ℤ) : Prop where
  created : created' = update created tradeNo (created tradeNo ++ ids)
  keeps : KeepsIds store.subscriptions store'.subscriptions
  added : ∀ id ∈ ids, ∃ sub ∈ store'.subscriptions.subs.rows, sub.id = id

/-- A step leaves the orders alone, inserts a pending order or one with its final status, or
gives a pending order its final status.
-/
inductive Turn (store store' : OrderStore) (created created' : String → List ℤ) : Prop where
  | same (orders : store'.orders = store.orders) (tradeNo : String)
      (adds : Adds store store' created created' tradeNo [])
  | requested (order : SubscriptionOrder) (pending : order.status = .pending)
      (inserted : store.orders.insert order = some store'.orders)
      (adds : Adds store store' created created' order.tradeNo [])
  | bought (order : SubscriptionOrder) (ids : List ℤ) (final : order.status ≠ .pending)
      (policy : CreationPolicy order.status ids)
      (inserted : store.orders.insert order = some store'.orders)
      (adds : Adds store store' created created' order.tradeNo ids)
  | ended (order order' : SubscriptionOrder) (ids : List ℤ)
      (found : store.orders.get? order'.tradeNo = some order)
      (pending : order.status = .pending) (final : order'.status ≠ .pending)
      (policy : CreationPolicy order'.status ids)
      (orders : store'.orders = store.orders.save order')
      (adds : Adds store store' created created' order'.tradeNo ids)

section

variable {store store' : OrderStore} {created : String → List ℤ} {tradeNo : String}

theorem Adds.none (tradeNo) (keeps : KeepsIds store.subscriptions store'.subscriptions)
    : Adds store store' created created tradeNo [] where
  created := by rw [append_nil, update_eq_self]
  keeps := keeps
  added := fun id member => (by cases member)

variable {cal : Calendar} {userId now : ℤ}

theorem Adds.one {fault id plan}
    (bought : createUserSubscriptionFromPlanTx cal fault id userId plan now
      store.subscriptions = .ok store'.subscriptions)
    : Adds store store' created
        (update created tradeNo (created tradeNo ++ [id])) tradeNo [id] := by
  obtain ⟨keeps, added⟩ := createFromPlan_ids bought
  refine ⟨rfl, keeps, fun other member => ?_⟩
  rwa [mem_singleton.mp member]

theorem Turn.refl : Turn store store created created := .same rfl "" (.none "" (KeepsIds.refl _))

theorem tradeNo_of_found {orders : Keyed SubscriptionOrder.tradeNo} {order : SubscriptionOrder}
    (found : orders.get? tradeNo = some order)
    : order.tradeNo = tradeNo := (Keyed.get?_eq_some.mp found).2

variable {w : OrderStatements} {dbNow : ℤ} {expected : Option PaymentProvider}

theorem turn_of_completion {payload method} {id : Option ℤ}
    (done : completeSubscriptionOrder cal w now dbNow tradeNo payload expected method store
      = .ok (store', id))
    : Turn store store' created
        (update created tradeNo (created tradeNo ++ id.toList)) := by
  rcases completeOrder_ok done with
    ⟨rfl, rfl⟩ | ⟨order, plan, found, pending, orders, _, bought, rfl⟩
  · rw [toList_none, append_nil, update_eq_self]
    exact .refl
  · have same := tradeNo_of_found found
    subst same
    have final : TopUpStatus.success ≠ .pending := by decide
    exact .ended order (order.completed now payload method) [w.id] found pending final rfl
      orders (.one bought)

theorem turn_of_expiry (done : expireSubscriptionOrder w now tradeNo expected store = .ok store')
    : Turn store store' created created := by
  unfold expireSubscriptionOrder at done
  split at done
  · cases done
  next order locked =>
    split at done
    · cases done
      exact .refl
    next pending =>
      split at done <;> cases done
      have final : TopUpStatus.expired ≠ .pending := by decide
      have found := lockOrder_eq_ok locked
      rw [← tradeNo_of_found found] at found
      exact .ended order { order with status := .expired, completeTime := now } [] found
        (not_not.mp pending) final rfl rfl (.none order.tradeNo (KeepsIds.refl _))

theorem OrderState.next_turn {cfg s s' action}
    (locks : LocksOrder s action) (moved : s.next cfg action = some s')
    : Turn s.store s'.store s.created s'.created := by
  cases action with try dsimp only [next] at moved
  | request order =>
    obtain ⟨pending, moved⟩ := ite_none_right_eq_some.mp moved
    obtain ⟨orders, inserted, rfl⟩ := map_eq_some_iff.mp moved
    exact .requested order pending inserted (.none order.tradeNo (KeepsIds.refl _))
  | purchase w now dbNow userId planId orderId tradeNo =>
    split at moved
    · cases moved
      exact .refl
    next store bought =>
      cases moved
      obtain ⟨order, plan, _, _, rfl, successful, inserted, bought, _⟩ :=
        purchaseWithBalance_ok bought
      refine .bought order [w.id] ?_ ?_ inserted (.one bought) <;> rw [successful]
      · decide
      · rfl
  | callback w now dbNow tradeNo payload expected method =>
    split at moved
    · cases moved
      exact .refl
    next store id done =>
      cases moved
      exact turn_of_completion done
  | list limit minAgeSeconds maxAgeSeconds now =>
    cases moved
    exact .refl
  | reconcile index w now dbNow query payload dryRun =>
    obtain ⟨order, _, rfl⟩ := map_eq_some_iff.mp moved
    generalize reported : reconcileSubscription cfg.epayId cfg.calendar w now dbNow query
      payload dryRun order s.store = report
    obtain ⟨action, store, id⟩ := report
    rcases reconcileSubscription_cases reported with ⟨rfl, rfl⟩ | ⟨method, completed⟩
    · dsimp only [after]
      rw [toList_none, append_nil, update_eq_self]
      exact .refl
    · exact turn_of_completion completed
  | expire w now tradeNo expected =>
    split at moved
    · cases moved
      exact .refl
    next store done =>
      cases moved
      exact turn_of_expiry done
  | saveFailed index succeeds => cases locks
  | subscriptions action =>
    cases moved
    refine .same rfl "" (.none "" (KeepsIds.step ?_))
    rintro w id now rfl
    cases locks

end

end

open OrderState Keyed

def OrderState.verdict (s : OrderState) (tradeNo : String) : Option TopUpStatus :=
  ((s.store.orders.get? tradeNo).map SubscriptionOrder.status).filter (· ≠ .pending)

section

variable {s : OrderState} {tradeNo : String}

theorem OrderState.verdict_of_found {order} (found : s.store.orders.get? tradeNo = some order)
    : s.verdict tradeNo = if order.status = .pending then none else some order.status := by
  simp [verdict, found, map_some, filter_some]

theorem OrderState.verdict_of_absent (absent : s.store.orders.get? tradeNo = none)
    : s.verdict tradeNo = none := by
  unfold verdict
  rw [absent, map_none, filter_none]

theorem OrderState.verdict_eq_some_iff {status}
    : s.verdict tradeNo = some status
      ↔ ∃ order, s.store.orders.get? tradeNo = some order ∧ order.status = status
        ∧ status ≠ .pending := by
  unfold verdict
  rw [filter_eq_some_iff, decide_eq_true_iff, map_eq_some_iff]
  constructor
  · rintro ⟨⟨order, found, same⟩, final⟩
    exact ⟨order, found, same, final⟩
  · rintro ⟨order, found, same, final⟩
    exact ⟨⟨order, found, same⟩, final⟩

end

section

variable {cfg : OrderSettings} {s s' : OrderState} {tradeNo : String}

/-- A step leaves an order's final status and subscriptions alone, or gives the order a final status
with the subscriptions that belong to it.
-/
def OrderState.Moves (s : OrderState) (tradeNo : String) (s' : OrderState) : Prop :=
  (s'.verdict tradeNo = s.verdict tradeNo ∧ s'.created tradeNo = s.created tradeNo)
  ∨ (s.verdict tradeNo = none ∧ ∃ status ids, s'.verdict tradeNo = some status
      ∧ CreationPolicy status ids ∧ s'.created tradeNo = s.created tradeNo ++ ids)

theorem OrderState.Moves.of_adds {ids tradeNo'}
    (adds : Adds s.store s'.store s.created s'.created tradeNo' ids)
    (here : (s'.verdict tradeNo' = s.verdict tradeNo' ∧ ids = [])
      ∨ (s.verdict tradeNo' = none ∧ ∃ status, s'.verdict tradeNo' = some status
        ∧ CreationPolicy status ids))
    (elsewhere : ∀ other, other ≠ tradeNo'
      → s'.store.orders.get? other = s.store.orders.get? other) (tradeNo)
    : s.Moves tradeNo s' := by
  by_cases same : tradeNo = tradeNo'
  · subst same
    have created : s'.created tradeNo = s.created tradeNo ++ ids := by
      rw [adds.created, update_self]
    rcases here with ⟨verdict, rfl⟩ | ⟨undecided, status, decided, policy⟩
    · exact .inl ⟨verdict, by rw [created, append_nil]⟩
    · exact .inr ⟨undecided, status, ids, decided, policy, created⟩
  · refine .inl ⟨?_, ?_⟩
    · unfold verdict
      rw [elsewhere tradeNo same]
    · rw [adds.created, update_of_ne same]

theorem OrderState.next_moves (turn : Turn s.store s'.store s.created s'.created) (tradeNo)
    : s.Moves tradeNo s' := by
  cases turn with
  | same orders other adds =>
    refine .of_adds adds (.inl ⟨?_, rfl⟩) (fun other _ => by rw [orders]) tradeNo
    unfold verdict
    rw [orders]
  | requested order pending inserted adds =>
    refine .of_adds adds (.inl ⟨?_, rfl⟩)
      (fun other different => get?_insert_of_ne inserted different) tradeNo
    rw [verdict_of_absent (get?_of_insert inserted),
      verdict_of_found (get?_insert_self inserted), if_pos pending]
  | bought order ids final policy inserted adds =>
    refine .of_adds adds (.inr ⟨?_, order.status, ?_, policy⟩)
      (fun other different => get?_insert_of_ne inserted different) tradeNo
    · exact verdict_of_absent (get?_of_insert inserted)
    · rw [verdict_of_found (get?_insert_self inserted), if_neg final]
  | ended order order' ids found pending final policy orders adds =>
    have found' : s'.store.orders.get? order'.tradeNo = some order' := by
      rw [orders, get?_save_self found]
    refine .of_adds adds (.inr ⟨?_, order'.status, ?_, policy⟩)
      (fun other different => by rw [orders, get?_save_of_ne different]) tradeNo
    · rw [verdict_of_found found, if_pos pending]
    · rw [verdict_of_found found', if_neg final]

def OrderState.Present (s : OrderState) : Prop :=
  ∀ tradeNo, ∀ id ∈ s.created tradeNo, ∃ sub ∈ s.store.subscriptions.subs.rows, sub.id = id

theorem OrderState.Present.add (present : s.Present) {ids}
    (adds : Adds s.store s'.store s.created s'.created tradeNo ids)
    : s'.Present := by
  intro other id member
  have before : id ∈ s.created other → ∃ sub ∈ s'.store.subscriptions.subs.rows, sub.id = id := by
    intro member
    obtain ⟨sub, memberSub, rfl⟩ := present other id member
    exact adds.keeps sub memberSub
  rw [adds.created] at member
  by_cases same : other = tradeNo
  · rw [same, update_self, mem_append] at member
    rcases member with old | new
    · exact before (same ▸ old)
    · exact adds.added id new
  · rw [update_of_ne same] at member
    exact before member

theorem OrderState.Present.next (present : s.Present)
    (turn : Turn s.store s'.store s.created s'.created)
    : s'.Present := by
  cases turn with
  | same _ _ adds => exact present.add adds
  | requested _ _ _ adds => exact present.add adds
  | bought _ _ _ _ _ adds => exact present.add adds
  | ended _ _ _ _ _ _ _ _ adds => exact present.add adds

/-- Relates the system to a cell with the final status of an order and its subscriptions. -/
structure OrderState.Tracks (tradeNo : String) (s : OrderState) (c : Cell TopUpStatus ℤ)
    : Prop where
  verdict : c.verdict = s.verdict tradeNo
  owed : c.owed = []
  performed : c.performed = s.created tradeNo

theorem orderMachine_simulates (cfg tradeNo)
    : (orderMachine cfg).Simulates LocksOrder (Cell.machine CreationPolicy)
        (OrderState.Tracks tradeNo) where
  initial := by
    rintro s ⟨noOrders, _, _, noneCreated⟩
    refine ⟨⟨none, [], []⟩, rfl, ?_, rfl, ?_⟩
    · symm
      apply verdict_of_absent
      unfold get?
      rw [noOrders, find?_nil]
    · rw [noneCreated]
  step := by
    intro s action s' c _ tracks locks moved
    have moves := next_moves (next_turn locks moved) tradeNo
    unfold OrderState.Moves at moves
    rw [← tracks.verdict, ← tracks.performed] at moves
    exact ⟨_, Cell.follows tracks.owed moves, rfl, rfl, rfl⟩

theorem present_of_reaches (reached : (orderMachine cfg).Reaches LocksOrder s) : s.Present := by
  refine reached.invariant OrderState.Present ?_ fun _ present locks moved =>
    present.next (next_turn locks moved)
  rintro s ⟨_, _, _, noneCreated⟩ tradeNo id member
  simp [noneCreated] at member

theorem OrderState.Tracks.length_created {c} (tracks : s.Tracks tradeNo c)
    (sound : c.Sound CreationPolicy) {order} (found : s.store.orders.get? tradeNo = some order)
    : (s.created tradeNo).length = if order.status = .success then 1 else 0 := by
  have verdict := tracks.verdict.trans (verdict_of_found found)
  rw [← tracks.performed]
  by_cases pending : order.status = .pending
  · rw [if_pos pending] at verdict
    simp [(sound.undecided verdict).2, pending]
  · rw [if_neg pending] at verdict
    have policy := sound.decided order.status verdict
    rwa [tracks.owed, append_nil] at policy

/-- Over every run of requests, callbacks, reconciliation and expiry, at most one subscription
is created from an order, one exists exactly if the order is successful, and a final status
never changes.
-/
theorem order_created_once_iff_success (reached : (orderMachine cfg).Reaches LocksOrder s)
    {order} (found : s.store.orders.get? tradeNo = some order)
    : (s.created tradeNo).length ≤ 1
      ∧ ((∃ sub ∈ s.store.subscriptions.subs.rows, sub.id ∈ s.created tradeNo)
        ↔ order.status = .success)
      ∧ ∀ s', (orderMachine cfg).Leads LocksOrder s s' → order.status ≠ .pending
        → ∃ order', s'.store.orders.get? tradeNo = some order'
          ∧ order'.status = order.status := by
  have simulation := orderMachine_simulates cfg tradeNo
  obtain ⟨c, reachedCell, tracks⟩ := simulation.reaches reached
  have length := tracks.length_created (Cell.sound_of_reaches reachedCell) found
  refine ⟨?_, ?_, ?_⟩
  · rw [length]
    split <;> decide
  · constructor
    · rintro ⟨sub, _, member⟩
      by_contra unsuccessful
      rw [if_neg unsuccessful] at length
      simp [length_eq_zero_iff.mp length] at member
    · intro successful
      rw [if_pos successful] at length
      obtain ⟨id, only⟩ := length_eq_one_iff.mp length
      obtain ⟨sub, member, same⟩ := present_of_reaches reached tradeNo id (by rw [only]; simp)
      exact ⟨sub, member, by rw [only, same]; simp⟩
  · intro s' led final
    obtain ⟨c', ledCell, tracks'⟩ := simulation.leads reachedCell tracks led
    have decided := verdict_eq_some_iff.mpr ⟨order, found, rfl, final⟩
    rw [← tracks.verdict] at decided
    have still := Cell.verdict_stable ledCell decided
    rw [tracks'.verdict] at still
    obtain ⟨order', found', same, _⟩ := verdict_eq_some_iff.mp still
    exact ⟨order', found', same⟩

end

def sampleSettings : OrderSettings := ⟨plainCalendar, 500000, "1000"⟩

def sampleState : OrderState where
  store := ⟨.empty, .empty, .fresh fun _ => some "default", fun _ => some 0⟩

def sampleOrder (provider : PaymentProvider) : SubscriptionOrder where
  id := 1
  userId := 7
  planId := 3
  money := 10
  tradeNo := "SUB-7"
  paymentMethod := ""
  paymentProvider := provider
  status := .pending

def statementsDone (id : ℤ) : OrderStatements := ⟨true, .ok { id := 3 }, id, none, none, none⟩

def repeatedCallbacks : List OrderAction :=
  [.request (sampleOrder .stripe),
    .callback (statementsDone 1) 100 100 "SUB-7" "" (some .stripe) "",
    .callback (statementsDone 2) 101 101 "SUB-7" "" (some .stripe) "",
    .expire (statementsDone 3) 102 "SUB-7" (some .stripe)]

/-- Witness: one subscription exists after two callbacks and an expiry. -/
theorem repeatedCallbacks_create_once
    : ((orderMachine sampleSettings).play sampleState repeatedCallbacks).created "SUB-7" = [1]
      ∧ ∃ sub ∈ ((orderMachine sampleSettings).play sampleState
          repeatedCallbacks).store.subscriptions.subs.rows,
        sub.id ∈ ((orderMachine sampleSettings).play sampleState
          repeatedCallbacks).created "SUB-7" := by
  have plays : (orderMachine sampleSettings).Plays LocksOrder sampleState repeatedCallbacks := by
    decide +kernel
  have found : ((orderMachine sampleSettings).play sampleState
      repeatedCallbacks).store.orders.get? "SUB-7"
        = some ((sampleOrder .stripe).completed 100 "" "") := by decide +kernel
  have begun : (orderMachine sampleSettings).initial sampleState := ⟨rfl, rfl, rfl, rfl⟩
  have reached := Machine.reaches_play begun plays
  exact ⟨by decide +kernel, (order_created_once_iff_success reached found).2.1.mpr rfl⟩

/-- The save of a copy of the order, read while it was pending, overwrites its success. -/
example : (((orderMachine sampleSettings).play sampleState
      (repeatedCallbacks ++ [.saveFailed 0 true])).store.orders.get? "SUB-7").map (·.status)
    = some .failed := by
  decide +kernel

end HelsterApi.Subscriptions
