import HelsterApi.Payments.Orders
import HelsterApi.Subscriptions.Groups

/-! Subscription orders and the transactions that end them. A completion locks the order row,
creates the subscription, mirrors the order as a top-up and marks it successful in one transaction;
an expiry locks the row and ends it without a subscription.
-/

namespace HelsterApi.Subscriptions

open Relational
open Payments (PaymentProvider TopUp TopUpStatus)

structure SubscriptionOrder where
  (id userId planId : ℤ)
  money : ℚ
  (tradeNo paymentMethod : String)
  paymentProvider : PaymentProvider
  status : TopUpStatus
  (createTime completeTime : ℤ := 0)
  providerPayload : String := ""
  deriving DecidableEq

structure MirroredTopUp extends TopUp where
  tradeNo : String
  createTime : ℤ

structure PricedPlan extends SubscriptionPlan where
  enabled : Bool := true
  priceAmount : ℚ := 0
  allowBalancePay : Option Bool := none

/-- The orders and the mirrored top-ups by trade number, the subscriptions, and the quota of
each user.
-/
structure OrderStore where
  orders : Keyed SubscriptionOrder.tradeNo
  topUps : Keyed MirroredTopUp.tradeNo
  subscriptions : Store
  quotas : ℤ → Option ℤ

inductive OrderError where
  | tradeNoEmpty
  | orderNotFound
  | paymentMethodMismatch
  | orderStatusInvalid
  | invalidIds
  | planDisabled
  | negativePrice
  | balanceNotAllowed
  | quotaUnit
  | insufficientBalance
  | subscription (error : SubscriptionError)
  | database (text : String)

def OrderError.message : OrderError → String
  | .tradeNoEmpty => "tradeNo is empty"
  | .orderNotFound => "subscription order not found"
  | .paymentMethodMismatch => "payment method mismatch"
  | .orderStatusInvalid => "subscription order status invalid"
  | .invalidIds => "invalid userId or planId"
  | .planDisabled => "套餐未启用"
  | .negativePrice => "套餐价格不能为负数"
  | .balanceNotAllowed => "该套餐不允许使用余额兑换"
  | .quotaUnit => "额度单位配置错误"
  | .insufficientBalance => "余额不足"
  | .subscription error => error.message
  | .database text => text

/-- The locked read, the plan looked up, the key and the writes of the subscription, of the mirrored
top-up and of the order, the commit included.
-/
structure OrderStatements where
  read : Bool
  plan : Except String PricedPlan
  id : ℤ
  (create topUp save : Option String)

/-- The locked read of an order with the check of its provider; no expected provider skips
the check.
-/
def lockOrder (read : Bool) (tradeNo : String) (expected : Option PaymentProvider) (s : OrderStore)
    : Except OrderError SubscriptionOrder :=
  if tradeNo = "" then .error .tradeNoEmpty
  else
    match if read then s.orders.get? tradeNo else none with
    | none => .error .orderNotFound
    | some order =>
      if expected ≠ none ∧ expected ≠ some order.paymentProvider then .error .paymentMethodMismatch
      else .ok order

def upsertSubscriptionTopUpTx (fault : Option String) (order : SubscriptionOrder) (now : ℤ)
    (topUps : Keyed MirroredTopUp.tradeNo)
    : Except OrderError (Keyed MirroredTopUp.tradeNo) :=
  match fault with
  | some text => .error (.database text)
  | none =>
    match topUps.get? order.tradeNo with
    | none =>
      let topUp : MirroredTopUp := {
        userId := order.userId
        amount := 0
        money := order.money
        tradeNo := order.tradeNo
        paymentMethod := order.paymentMethod
        paymentProvider := .other ""
        createTime := order.createTime
        completeTime := now
        status := .success }
      match topUps.insert topUp with
      | none => .error (.database "duplicate key")
      | some topUps => .ok topUps
    | some topUp =>
      if topUp.paymentMethod ≠ "" ∧ topUp.paymentMethod ≠ order.paymentMethod then
        .error .paymentMethodMismatch
      else
        .ok (topUps.save { topUp with
          money := order.money
          paymentMethod := order.paymentMethod
          createTime := if topUp.createTime = 0 then order.createTime else topUp.createTime
          completeTime := now
          status := .success })

def SubscriptionOrder.completed (order : SubscriptionOrder) (now : ℤ)
    (providerPayload actualPaymentMethod : String)
    : SubscriptionOrder :=
  { order with
    status := .success
    completeTime := now
    providerPayload := if providerPayload ≠ "" then providerPayload else order.providerPayload
    paymentMethod := if actualPaymentMethod ≠ "" ∧ order.paymentMethod ≠ actualPaymentMethod then
        actualPaymentMethod else order.paymentMethod }

/-- The rows, and the subscription created. `dbNow` is the time of the database. -/
def completeSubscriptionOrder (cal : Calendar) (w : OrderStatements) (now dbNow : ℤ)
    (tradeNo providerPayload : String) (expectedPaymentProvider : Option PaymentProvider)
    (actualPaymentMethod : String) (s : OrderStore)
    : Except OrderError (OrderStore × Option ℤ) :=
  match lockOrder w.read tradeNo expectedPaymentProvider s with
  | .error e => .error e
  | .ok order =>
    if order.status = .success then .ok (s, none)
    else if order.status ≠ .pending then .error .orderStatusInvalid
    else
      match w.plan with
      | .error text => .error (.database text)
      | .ok plan =>
        match createUserSubscriptionFromPlanTx cal w.create w.id order.userId
            plan.toSubscriptionPlan dbNow s.subscriptions with
        | .error e => .error (.subscription e)
        | .ok subscriptions =>
          match upsertSubscriptionTopUpTx w.topUp order now s.topUps with
          | .error e => .error e
          | .ok topUps =>
            match w.save with
            | some text => .error (.database text)
            | none =>
              .ok ({ s with
                orders := s.orders.save
                  (order.completed now providerPayload actualPaymentMethod)
                topUps := topUps
                subscriptions := subscriptions }, some w.id)

def expireSubscriptionOrder (w : OrderStatements) (now : ℤ) (tradeNo : String)
    (expectedPaymentProvider : Option PaymentProvider) (s : OrderStore)
    : Except OrderError OrderStore :=
  match lockOrder w.read tradeNo expectedPaymentProvider s with
  | .error e => .error e
  | .ok order =>
    if order.status ≠ .pending then .ok s
    else
      match w.save with
      | some text => .error (.database text)
      | none =>
        .ok { s with
          orders := s.orders.save { order with status := .expired, completeTime := now } }

variable {tradeNo : String} {expected : Option PaymentProvider} {s : OrderStore}

/-- A locked order is in the table. -/
theorem lockOrder_eq_ok {read order} (locked : lockOrder read tradeNo expected s = .ok order)
    : s.orders.get? tradeNo = some order := by
  obtain ⟨_, locked⟩ := Control.ite_error_eq_ok.mp locked
  split at locked
  · cases locked
  rename_i found
  obtain ⟨_, ⟨⟩⟩ := Control.ite_error_eq_ok.mp locked
  split at found
  · exact found
  · cases found

variable {cal : Calendar} {w : OrderStatements} {now dbNow : ℤ} {s' : OrderStore}

/-- A completion does nothing, or ends a pending order with a new subscription. -/
theorem completeOrder_ok {providerPayload method created}
    (done : completeSubscriptionOrder cal w now dbNow tradeNo providerPayload expected method s
      = .ok (s', created))
    : (s' = s ∧ created = none)
      ∨ ∃ order plan, s.orders.get? tradeNo = some order ∧ order.status = .pending
        ∧ s'.orders = s.orders.save (order.completed now providerPayload method)
        ∧ w.plan = .ok plan
        ∧ createUserSubscriptionFromPlanTx cal w.create w.id order.userId
          plan.toSubscriptionPlan dbNow s.subscriptions = .ok s'.subscriptions
        ∧ created = some w.id := by
  unfold completeSubscriptionOrder at done
  split at done
  · cases done
  rename_i order locked
  split at done
  · cases done
    exact .inl ⟨rfl, rfl⟩
  · obtain ⟨pending, done⟩ := Control.ite_error_eq_ok.mp done
    split at done
    · cases done
    rename_i plan planned
    split at done
    · cases done
    rename_i subscriptions bought
    split at done
    · cases done
    split at done
    · cases done
    cases done
    exact .inr ⟨order, plan, lockOrder_eq_ok locked, not_not.mp pending, rfl, planned, bought, rfl⟩

def calcSubscriptionBalanceQuota (quotaPerUnit priceAmount : ℚ) : Except OrderError ℤ :=
  if priceAmount ≤ 0 then .ok 0
  else if quotaPerUnit ≤ 0 then .error .quotaUnit
  else .ok ⌈priceAmount * quotaPerUnit⌉

/-- Its order, with the given key and trade number, is successful from the start. -/
def purchaseSubscriptionWithBalance (cal : Calendar) (quotaPerUnit : ℚ) (w : OrderStatements)
    (now dbNow userId planId orderId : ℤ) (tradeNo : String) (s : OrderStore)
    : Except OrderError OrderStore :=
  if userId ≤ 0 ∨ planId ≤ 0 then .error .invalidIds
  else
    match w.plan with
    | .error text => .error (.database text)
    | .ok plan =>
      if plan.enabled = false then .error .planDisabled
      else if plan.priceAmount < 0 then .error .negativePrice
      else if plan.allowBalancePay = some false then .error .balanceNotAllowed
      else
        match calcSubscriptionBalanceQuota quotaPerUnit plan.priceAmount with
        | .error e => .error e
        | .ok requiredQuota =>
          match if w.read then s.quotas userId else none with
          | none => .error (.database "record not found")
          | some quota =>
            if 0 < requiredQuota ∧ quota < requiredQuota then .error .insufficientBalance
            else
              match createUserSubscriptionFromPlanTx cal w.create w.id userId
                  plan.toSubscriptionPlan dbNow s.subscriptions with
              | .error e => .error (.subscription e)
              | .ok subscriptions =>
                let order : SubscriptionOrder := {
                  id := orderId
                  userId := userId
                  planId := plan.id
                  money := plan.priceAmount
                  tradeNo := tradeNo
                  paymentMethod := "balance"
                  paymentProvider := .other "balance"
                  status := .success
                  createTime := now
                  completeTime := now
                  providerPayload := "charged_quota=" ++ toString requiredQuota }
                match w.save, s.orders.insert order with
                | none, some orders =>
                  .ok { s with
                    orders := orders
                    subscriptions := subscriptions
                    quotas := Function.update s.quotas userId
                      (some (if 0 < requiredQuota then quota - requiredQuota
                        else quota)) }
                | _, _ => .error (.database "insert failed")

/-- A purchase inserts a successful order with its subscription. -/
theorem purchaseWithBalance_ok {quotaPerUnit userId planId orderId}
    (done : purchaseSubscriptionWithBalance cal quotaPerUnit w now dbNow userId planId orderId
      tradeNo s = .ok s')
    : ∃ order plan requiredQuota quota, order.tradeNo = tradeNo ∧ order.status = .success
      ∧ s.orders.insert order = some s'.orders
      ∧ createUserSubscriptionFromPlanTx cal w.create w.id userId plan.toSubscriptionPlan dbNow
          s.subscriptions
        = .ok s'.subscriptions
      ∧ w.plan = .ok plan
      ∧ calcSubscriptionBalanceQuota quotaPerUnit plan.priceAmount = .ok requiredQuota
      ∧ s.quotas userId = some quota
      ∧ s'.quotas = Function.update s.quotas userId
        (some (if 0 < requiredQuota then quota - requiredQuota else quota)) := by
  obtain ⟨_, done⟩ := Control.ite_error_eq_ok.mp done
  split at done
  · cases done
  rename_i plan planned
  rw [Control.ite_error_eq_ok, Control.ite_error_eq_ok, Control.ite_error_eq_ok] at done
  obtain ⟨_, _, _, done⟩ := done
  split at done
  · cases done
  rename_i requiredQuota required
  split at done
  · cases done
  rename_i quota read
  have found : s.quotas userId = some quota := by
    split at read
    · exact read
    · cases read
  obtain ⟨_, done⟩ := Control.ite_error_eq_ok.mp done
  split at done
  · cases done
  rename_i subscriptions bought
  dsimp only at done
  split at done
  next inserted =>
    cases done
    exact ⟨_, plan, requiredQuota, quota, rfl, rfl, inserted, bought, planned, required, found, rfl⟩
  · cases done

/-- The provider's answer on an order. `money` is the amount its text stands for, if any. -/
structure EpayOrderQueryResult where
  (code status : ℤ)
  (pid type : String)
  money : Option ℚ
  outTradeNo : String

def validateEpayResult (epayId : String) (result : EpayOrderQueryResult) (tradeNo : String)
    (money : ℚ)
    : Except String Unit :=
  if result.code ≠ 1 then .error "provider did not find a successful query result"
  else if result.outTradeNo ≠ tradeNo then .error "provider out_trade_no mismatch"
  else if result.pid ≠ epayId then .error "provider pid mismatch"
  else
    match result.money with
    | none => .error "provider money mismatch"
    | some amount => if 1 / 100 ≤ |amount - money| then .error "provider money mismatch" else .ok ()

inductive ReconcileAction where
  | providerQueryFailed (error : String)
  | validationFailed (error : String)
  | providerPending
  | wouldComplete
  | completeFailed (error : String)
  | completed

def getPendingEpaySubscriptionOrders (limit minAgeSeconds maxAgeSeconds now : ℤ)
    (orders : Keyed SubscriptionOrder.tradeNo)
    : List SubscriptionOrder :=
  let limit := if limit ≤ 0 ∨ 1000 < limit then 100 else limit
  let selected := orders.rows.filter fun order => decide (order.status = .pending
    ∧ order.paymentProvider = .epay
    ∧ (0 < minAgeSeconds → order.createTime ≤ now - minAgeSeconds)
    ∧ (0 < maxAgeSeconds → now - maxAgeSeconds ≤ order.createTime))
  (selected.insertionSort fun a b => a.id ≤ b.id).take limit.toNat

/-- For an order as it was read before: what it reports, the rows, and the subscription created.
`payload` is the provider's answer.
-/
def reconcileSubscription (epayId : String) (cal : Calendar) (w : OrderStatements)
    (now dbNow : ℤ) (query : Except String EpayOrderQueryResult) (payload : String)
    (dryRun : Bool) (order : SubscriptionOrder) (s : OrderStore)
    : ReconcileAction × OrderStore × Option ℤ :=
  match query with
  | .error e => (.providerQueryFailed e, s, none)
  | .ok result =>
    match validateEpayResult epayId result order.tradeNo order.money with
    | .error e => (.validationFailed e, s, none)
    | .ok () =>
      if result.status ≠ 1 then (.providerPending, s, none)
      else if dryRun then (.wouldComplete, s, none)
      else
        match completeSubscriptionOrder cal w now dbNow order.tradeNo payload (some .epay)
            result.type s with
        | .error e => (.completeFailed e.message, s, none)
        | .ok (s', created) => (.completed, s', created)

/-- A reconciliation does nothing or completes the order. -/
theorem reconcileSubscription_cases {epayId query payload dryRun order action created}
    (reported : reconcileSubscription epayId cal w now dbNow query payload dryRun order s
      = (action, s', created))
    : (s' = s ∧ created = none)
      ∨ ∃ method, completeSubscriptionOrder cal w now dbNow order.tradeNo payload (some .epay)
          method s
        = .ok (s', created) := by
  unfold reconcileSubscription at reported
  split at reported
  · cases reported
    exact .inl ⟨rfl, rfl⟩
  next result =>
    split at reported
    · cases reported
      exact .inl ⟨rfl, rfl⟩
    · split at reported
      · cases reported
        exact .inl ⟨rfl, rfl⟩
      · split at reported
        · cases reported
          exact .inl ⟨rfl, rfl⟩
        · split at reported
          · cases reported
            exact .inl ⟨rfl, rfl⟩
          next completed =>
            cases reported
            exact .inr ⟨result.type, completed⟩

end HelsterApi.Subscriptions
