import HelsterApi.Subscriptions.Orders
import HelsterApi.Subscriptions.Writes

/-! Purchases of several channels side by side, statement by statement. Each counts the user's
subscriptions of the plan and then inserts another one, in a transaction that locks the order, the
user or nothing; so two may count before either inserts.
-/

namespace HelsterApi.Subscriptions

open List Option Relational Keyed
open Transition
open Payments (PaymentProvider)

structure Plans where
  find : ℤ → Except String PricedPlan
  find_id : ∀ {planId plan}, find planId = .ok plan → plan.id = planId

/-- From the balance, by the callback for an order, or bound by an administrator. -/
inductive Channel where
  | balance (userId planId : ℤ)
  | order (tradeNo : String)
  | admin (userId planId : ℤ)

inductive LockedRow where
  | user (userId : ℤ)
  | order (tradeNo : String)
  deriving DecidableEq

def Channel.lock : Channel → Option LockedRow
  | .balance userId _ => some (.user userId)
  | .order tradeNo => some (.order tradeNo)
  | .admin _ _ => none

def Channel.terms (s : OrderStore) : Channel → Option (ℤ × ℤ)
  | .balance userId planId => some (userId, planId)
  | .order tradeNo => (s.orders.get? tradeNo).map fun order => (order.userId, order.planId)
  | .admin userId planId => some (userId, planId)

/-- A transaction in progress: its number, its plan, and the subscriptions that it counted. -/
structure Purchase where
  tx : ℤ
  channel : Channel
  userId : ℤ
  plan : PricedPlan
  counted : Option ℕ

structure PurchaseState where
  store : OrderStore
  running : Keyed Purchase.tx

def Store.purchases (s : Store) (userId planId : ℤ) : ℕ :=
  s.subs.rows.countP fun sub => decide (sub.userId = userId ∧ sub.planId = planId)

def adminBindSubscription (cal : Calendar) (w : OrderStatements) (dbNow userId planId : ℤ)
    (s : OrderStore)
    : Except OrderError OrderStore :=
  if userId ≤ 0 ∨ planId ≤ 0 then .error .invalidIds
  else
    match w.plan with
    | .error text => .error (.database text)
    | .ok plan =>
      match createUserSubscriptionFromPlanTx cal w.create w.id userId plan.toSubscriptionPlan
          dbNow s.subscriptions with
      | .error e => .error (.subscription e)
      | .ok subscriptions => .ok { s with subscriptions := subscriptions }

def PricedPlan.unlimited (plan : PricedPlan) : PricedPlan :=
  { plan with maxPurchasePerUser := 0 }

structure FinishReads where
  statements : OrderStatements
  (now dbNow orderId : ℤ)
  (tradeNo providerPayload : String)
  expectedPaymentProvider : Option PaymentProvider
  actualPaymentMethod : String

def Purchase.finish (cal : Calendar) (quotaPerUnit : ℚ) (p : Purchase) (w : FinishReads)
    (s : OrderStore)
    : Except OrderError OrderStore :=
  let statements := { w.statements with plan := .ok p.plan.unlimited }
  match p.channel with
  | .balance userId planId =>
    purchaseSubscriptionWithBalance cal quotaPerUnit statements w.now w.dbNow userId planId
      w.orderId w.tradeNo s
  | .order tradeNo =>
    (completeSubscriptionOrder cal statements w.now w.dbNow tradeNo w.providerPayload
      w.expectedPaymentProvider w.actualPaymentMethod s).map Prod.fst
  | .admin userId planId => adminBindSubscription cal statements w.dbNow userId planId s

inductive PurchaseAction where
  | start (tx : ℤ) (channel : Channel)
  | count (tx : ℤ)
  | finish (tx : ℤ) (w : FinishReads)
  | rollback (tx : ℤ)

/-- Beginning a transaction: it waits while another one holds the row it locks. -/
def PurchaseState.start (plans : Plans) (s : PurchaseState) (tx : ℤ) (channel : Channel)
    : Option PurchaseState :=
  if channel.lock ≠ none ∧ s.running.rows.any (decide <| ·.channel.lock = channel.lock) then none
  else
    match channel.terms s.store with
    | none => none
    | some (userId, planId) =>
      match plans.find planId with
      | .error _ => none
      | .ok plan =>
        (s.running.insert ⟨tx, channel, userId, plan, none⟩).map fun running =>
          { s with running := running }

def PurchaseState.count (s : PurchaseState) (p : Purchase) : PurchaseState :=
  let count := s.store.subscriptions.purchases p.userId p.plan.id
  if 0 < p.plan.maxPurchasePerUser ∧ p.plan.maxPurchasePerUser ≤ count then
    { s with running := s.running.erase p.tx }
  else { s with running := s.running.save { p with counted := some count } }

/-- The end of a transaction: its writes become visible, or none of them. -/
def PurchaseState.finish (cal : Calendar) (quotaPerUnit : ℚ) (s : PurchaseState)
    (p : Purchase) (w : FinishReads)
    : PurchaseState :=
  { store := match p.finish cal quotaPerUnit w s.store with
      | .error _ => s.store
      | .ok store => store
    running := s.running.erase p.tx }

def PurchaseState.next (cal : Calendar) (quotaPerUnit : ℚ) (plans : Plans) (s : PurchaseState)
    : PurchaseAction → Option PurchaseState
  | .start tx channel => s.start plans tx channel
  | .count tx =>
    match s.running.get? tx with
    | none => none
    | some p => if p.counted = none then some (s.count p) else none
  | .finish tx w =>
    match s.running.get? tx with
    | none => none
    | some p => if p.counted = none then none else some (s.finish cal quotaPerUnit p w)
  | .rollback tx => some { s with running := s.running.erase tx }

def OrderStore.WithinLimits (plans : Plans) (s : OrderStore) : Prop :=
  ∀ userId planId plan, plans.find planId = .ok plan → 0 < plan.maxPurchasePerUser
    → s.subscriptions.purchases userId planId ≤ plan.maxPurchasePerUser

def purchaseMachine (cal : Calendar) (quotaPerUnit : ℚ) (plans : Plans)
    : Machine PurchaseState PurchaseAction where
  initial s := s.store.WithinLimits plans ∧ s.running.rows = []
  next s a := s.next cal quotaPerUnit plans a

/-- A purchase finishes only while the user has as many subscriptions of the plan as it counted. -/
def CountStands (s : PurchaseState) : PurchaseAction → Prop
  | .finish tx _ => ∀ p ∈ s.running.get? tx,
      p.counted = some (s.store.subscriptions.purchases p.userId p.plan.id)
  | _ => True

variable {cal : Calendar} {fault : Option String} {id userId now : ℤ} {plan : PricedPlan}
  {s : Store}

theorem create_unlimited (passes : ¬(0 < plan.maxPurchasePerUser
      ∧ plan.maxPurchasePerUser ≤ s.purchases userId plan.id))
    : createUserSubscriptionFromPlanTx cal fault id userId plan.toSubscriptionPlan now s
      = createUserSubscriptionFromPlanTx cal fault id userId plan.unlimited.toSubscriptionPlan
        now s := by
  have limited : ¬(0 < plan.maxPurchasePerUser ∧ plan.maxPurchasePerUser
      ≤ s.subs.rows.countP fun sub => decide (sub.userId = userId ∧ sub.planId = plan.id)) := passes
  have unlimited : ¬(0 < plan.unlimited.maxPurchasePerUser ∧ plan.unlimited.maxPurchasePerUser
      ≤ s.subs.rows.countP fun sub =>
        decide (sub.userId = userId ∧ sub.planId = plan.unlimited.id)) :=
    fun reached => lt_irrefl _ reached.1
  unfold createUserSubscriptionFromPlanTx
  rw [if_neg limited, if_neg unlimited]
  rfl

/-- At most one subscription is added, of the user and the plan, and the orders keep theirs. -/
structure Buys (userId planId : ℤ) (s s' : OrderStore) : Prop where
  rows : s'.subscriptions.subs.rows = s.subscriptions.subs.rows
    ∨ ∃ sub, sub.userId = userId ∧ sub.planId = planId
      ∧ s'.subscriptions.subs.rows = s.subscriptions.subs.rows ++ [sub]
  orders : ∀ {tradeNo order}, s.orders.get? tradeNo = some order
    → ∃ order', s'.orders.get? tradeNo = some order' ∧ order'.userId = order.userId
      ∧ order'.planId = order.planId

theorem added_of_created {s'}
    (created : createUserSubscriptionFromPlanTx cal fault id userId
      plan.unlimited.toSubscriptionPlan now s = .ok s')
    : ∃ sub, sub.userId = userId ∧ sub.planId = plan.id
      ∧ s'.subs.rows = s.subs.rows ++ [sub] := by
  obtain ⟨_, endTime, _, rows, _⟩ := createFromPlan_ok created
  exact ⟨_, rfl, rfl, rows⟩

variable {s' : OrderStore} {planId : ℤ}

theorem Purchase.buys {quotaPerUnit} {p : Purchase} {w s}
    (terms : p.channel.terms s = some (p.userId, planId))
    (done : p.finish cal quotaPerUnit w s = .ok s')
    : Buys p.userId p.plan.id s s' := by
  unfold finish at done
  cases channel : p.channel with rw [channel] at done terms
  | balance userId planId =>
    cases terms
    obtain ⟨order, plan, _, _, _, _, inserted, created, planned, _⟩ :=
      purchaseWithBalance_ok done
    cases planned
    refine ⟨.inr (added_of_created created), fun {tradeNo old} found => ?_⟩
    exact ⟨old, get?_insert_of_some inserted found, rfl, rfl⟩
  | order tradeNo =>
    obtain ⟨order, found, same⟩ := map_eq_some_iff.mp terms
    obtain ⟨sameUser, _⟩ := Prod.mk.inj same
    obtain ⟨⟨after, id⟩, completed, rfl⟩ := Control.map_eq_ok.mp done
    rcases completeOrder_ok completed with
      ⟨rfl, _⟩ | ⟨order', plan, found', _, orders, planned, created, _⟩
    · exact ⟨.inl rfl, fun {_ old} stored => ⟨old, stored, rfl, rfl⟩⟩
    · cases planned
      cases found.symm.trans found'
      rw [← sameUser]
      refine ⟨.inr (added_of_created created), fun {other old} stored => ?_⟩
      rw [orders]
      have saved := (get?_eq_some.mp found).2
      by_cases own : other = order.tradeNo
      · rw [own, saved, found] at stored
        cases stored
        rw [← saved] at found
        exact ⟨_, (congrArg _ own).trans (get?_save_self found), rfl, rfl⟩
      · refine ⟨old, ?_, rfl, rfl⟩
        rw [get?_save_of_ne, stored]
        exact own
  | admin userId planId =>
    cases terms
    dsimp only [adminBindSubscription] at done
    obtain ⟨_, done⟩ := Control.ite_error_eq_ok.mp done
    split at done
    · cases done
    rename_i subscriptions created
    cases done
    exact ⟨.inr (added_of_created created), fun {_ old} stored => ⟨old, stored, rfl, rfl⟩⟩

theorem Buys.purchases_le {s} (buys : Buys userId planId s s') (otherUser otherPlan)
    : s'.subscriptions.purchases otherUser otherPlan
      ≤ s.subscriptions.purchases otherUser otherPlan
        + if otherUser = userId ∧ otherPlan = planId then 1 else 0 := by
  unfold Store.purchases
  rcases buys.rows with same | ⟨sub, rfl, rfl, added⟩
  · rw [same]
    exact Nat.le_add_right _ _
  · rw [added, countP_append, countP_singleton]
    refine Nat.add_le_add_left ?_ _
    by_cases own : otherUser = sub.userId ∧ otherPlan = sub.planId
    · rw [if_pos own]
      split <;> omega
    · rw [if_neg own, if_neg]
      rw [decide_eq_true_iff]
      exact fun same => own ⟨same.1.symm, same.2.symm⟩

/-- The limits are kept, and each transaction in progress has found its plan and order and, once
it has counted, was within the limit.
-/
structure PurchaseState.Sound (plans : Plans) (s : PurchaseState) : Prop where
  limits : s.store.WithinLimits plans
  found : ∀ p ∈ s.running.rows, plans.find p.plan.id = .ok p.plan
  terms : ∀ p ∈ s.running.rows, ∃ planId, p.channel.terms s.store = some (p.userId, planId)
  checked : ∀ p ∈ s.running.rows, ∀ c, p.counted = some c
    → 0 < p.plan.maxPurchasePerUser → c < p.plan.maxPurchasePerUser

section

variable {cal : Calendar} {quotaPerUnit : ℚ} {plans : Plans} {s s' : PurchaseState}

variable (sound : s.Sound plans)

include sound

theorem PurchaseState.Sound.erase (tx : ℤ)
    : PurchaseState.Sound plans { s with running := s.running.erase tx } where
  limits := sound.limits
  found p member := sound.found p (mem_erase.mp member).1
  terms p member := sound.terms p (mem_erase.mp member).1
  checked p member := sound.checked p (mem_erase.mp member).1

theorem PurchaseState.Sound.start {tx channel} (begun : s.start plans tx channel = some s')
    : s'.Sound plans := by
  unfold PurchaseState.start at begun
  split at begun
  · cases begun
  split at begun
  · cases begun
  rename_i userId planId terms
  split at begun
  · cases begun
  rename_i plan found
  obtain ⟨running, inserted, rfl⟩ := map_eq_some_iff.mp begun
  have added : ∀ p ∈ running.rows, p ∈ s.running.rows ∨ p = ⟨tx, channel, userId, plan, none⟩ := by
    intro p member
    rwa [Table.insert_eq_some inserted, mem_append, mem_singleton] at member
  refine ⟨sound.limits, fun p member => ?_, fun p member => ?_, fun p member => ?_⟩
  · rcases added p member with old | rfl
    · exact sound.found p old
    · simp [plans.find_id found, found]
  · rcases added p member with old | rfl
    · exact sound.terms p old
    · exact ⟨planId, terms⟩
  · rcases added p member with old | rfl
    · exact sound.checked p old
    · intro c counted
      cases counted

variable {p : Purchase}

theorem PurchaseState.Sound.count (running : p ∈ s.running.rows) : (s.count p).Sound plans := by
  dsimp only [PurchaseState.count]
  split
  · exact sound.erase p.tx
  next within =>
    have saved : ∀ q ∈ (s.running.save { p with
        counted := some (s.store.subscriptions.purchases p.userId p.plan.id) }).rows,
        q ∈ s.running.rows ∨ q = { p with
          counted := some (s.store.subscriptions.purchases p.userId p.plan.id) } := by
      intro q member
      rcases mem_save.mp member with ⟨same, _⟩ | ⟨old, _⟩
      · exact .inr same
      · exact .inl old
    refine ⟨sound.limits, fun q member => ?_, fun q member => ?_, fun q member => ?_⟩
    · rcases saved q member with old | rfl
      · exact sound.found q old
      · exact sound.found p running
    · rcases saved q member with old | rfl
      · exact sound.terms q old
      · exact sound.terms p running
    · rcases saved q member with old | rfl
      · exact sound.checked q old
      · intro c counted limited
        cases counted
        exact not_le.mp fun reached => within ⟨limited, reached⟩

theorem PurchaseState.Sound.finish {w} (running : p ∈ s.running.rows)
    (stands : p.counted = some (s.store.subscriptions.purchases p.userId p.plan.id))
    : (s.finish cal quotaPerUnit p w).Sound plans := by
  obtain ⟨planId, terms⟩ := sound.terms p running
  unfold PurchaseState.finish
  cases done : p.finish cal quotaPerUnit w s.store with
  | error e => exact sound.erase p.tx
  | ok store =>
    have buys := Purchase.buys terms done
    refine ⟨?_, ?_, ?_, ?_⟩
    · intro userId planId plan found limited
      have added := buys.purchases_le userId planId
      have before := sound.limits userId planId plan found limited
      by_cases own : userId = p.userId ∧ planId = p.plan.id
      · obtain ⟨rfl, rfl⟩ := own
        cases found.symm.trans (sound.found p running)
        have checked := sound.checked p running _ stands limited
        rw [if_pos ⟨rfl, rfl⟩] at added
        dsimp only
        omega
      · rw [if_neg own] at added
        dsimp only
        omega
    · exact fun q member => sound.found q (mem_erase.mp member).1
    · intro q member
      obtain ⟨planId, terms⟩ := sound.terms q (mem_erase.mp member).1
      cases channel : q.channel with rw [channel] at terms
      | balance | admin => exact ⟨_, terms⟩
      | order tradeNo =>
        obtain ⟨order, found, same⟩ := map_eq_some_iff.mp terms
        obtain ⟨order', found', sameUser, samePlan⟩ := buys.orders found
        refine ⟨planId, map_eq_some_iff.mpr ⟨order', found', ?_⟩⟩
        rw [sameUser, samePlan, same]
    · exact fun q member => sound.checked q (mem_erase.mp member).1

end

/-- In every run of purchases in which each finishes while its count still stands, no user gets more
subscriptions of a plan than its limit allows.
-/
theorem purchases_within_limit {cal quotaPerUnit plans s}
    (reached : (purchaseMachine cal quotaPerUnit plans).Reaches CountStands s)
    : s.store.WithinLimits plans := by
  have sound : s.Sound plans := by
    refine reached.invariant (PurchaseState.Sound plans) ?_ ?_
    · rintro s ⟨limits, idle⟩
      have none : ∀ p, p ∉ s.running.rows := by
        rw [idle]
        exact fun p => not_mem_nil
      exact ⟨limits, fun p member => absurd member (none p),
        fun p member => absurd member (none p), fun p member => absurd member (none p)⟩
    · intro s a s' _ sound stands moved
      change s.next cal quotaPerUnit plans a = some s' at moved
      unfold PurchaseState.next at moved
      split at moved
      · exact sound.start moved
      · split at moved
        · cases moved
        next p running =>
          obtain ⟨_, same⟩ := ite_none_right_eq_some.mp moved
          cases same
          exact sound.count (get?_eq_some.mp running).1
      · split at moved
        · cases moved
        next p running =>
          obtain ⟨_, same⟩ := ite_none_left_eq_some.mp moved
          cases same
          exact sound.finish (get?_eq_some.mp running).1 (stands p running)
      · cases moved
        exact sound.erase _
  exact sound.limits

def onlyOnce : Plans where
  find planId :=
    if planId = 1 then .ok { id := 1, title := "plan", maxPurchasePerUser := 1 }
    else .error "record not found"
  find_id := by
    intro planId plan found
    split at found
    next same =>
      cases found
      exact same.symm
    · cases found

def pendingOrder (tradeNo : String) : SubscriptionOrder :=
  { id := 1, userId := 1, planId := 1, money := 10, tradeNo := tradeNo,
    paymentMethod := "alipay", paymentProvider := .epay, status := .pending }

def twoOrders : PurchaseState where
  store := ⟨⟨[pendingOrder "A", pendingOrder "B"], by decide⟩, Table.empty,
    .fresh fun _ => some "default", fun _ => some 0⟩
  running := Table.empty

def finishCallback (id : ℤ) : FinishReads :=
  ⟨⟨true, .error "", id, none, none, none⟩, 1700000000, 1700000000, id, "", "", none, ""⟩

theorem twoOrders_initial : (purchaseMachine plainCalendar 500000 onlyOnce).initial twoOrders :=
  ⟨fun _ _ _ _ limited => limited.le, rfl⟩

/-- One callback after the other: the second one finds the limit reached. -/
theorem purchases_within_limit_callbacks
    : ∃ s : PurchaseState, s.store.subscriptions.purchases 1 1 = 1 ∧ s.running.rows.length = 0
      ∧ s.store.WithinLimits onlyOnce := by
  let m := purchaseMachine plainCalendar 500000 onlyOnce
  let actions : List PurchaseAction :=
    [.start 1 (.order "A"), .start 2 (.order "B"), .count 1, .finish 1 (finishCallback 1), .count 2]
  have plays : m.Plays CountStands twoOrders actions := by
    refine ⟨trivial, by decide, trivial, by decide, trivial, by decide, ?_, by decide, trivial,
      by decide, trivial⟩
    intro p found
    cases found
    rfl
  exact ⟨m.play twoOrders actions, by decide, by decide,
    purchases_within_limit (Machine.reaches_play twoOrders_initial plays)⟩

/-- Two callbacks that count before either finishes give the user two subscriptions of a plan that
may be bought once.
-/
theorem purchases_exceed_limit
    : ∃ s : PurchaseState, (purchaseMachine plainCalendar 500000 onlyOnce).Reaches anyStep s
      ∧ s.store.subscriptions.purchases 1 1 = 2 ∧ ¬ s.store.WithinLimits onlyOnce := by
  let m := purchaseMachine plainCalendar 500000 onlyOnce
  let actions : List PurchaseAction :=
    [.start 1 (.order "A"), .start 2 (.order "B"), .count 1, .count 2,
      .finish 1 (finishCallback 1), .finish 2 (finishCallback 2)]
  obtain ⟨s, reached, two⟩ : ∃ s, m.Reaches anyStep s
      ∧ s.store.subscriptions.purchases 1 1 = 2 :=
    ⟨m.play twoOrders actions, Machine.reaches_play twoOrders_initial (by decide), by decide⟩
  refine ⟨s, reached, two, fun limits => ?_⟩
  have most := limits 1 1 _ rfl (by decide)
  rw [two] at most
  exact absurd most (by decide)

end HelsterApi.Subscriptions
