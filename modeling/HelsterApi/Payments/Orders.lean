import HelsterApi.Arithmetic.Rounding

/-! Top-up orders and the transactions that end them. Every completion locks the order row,
checks it, marks it successful and credits the user in one transaction.
-/

namespace HelsterApi.Payments

open Arithmetic Function

inductive TopUpStatus where
  | pending | success | failed | expired
  deriving DecidableEq

inductive PaymentProvider where
  | epay
  | stripe
  | creem
  | waffo
  | waffoPancake
  | other (name : String)
  deriving DecidableEq

structure TopUp where
  (userId amount : ℤ)
  money : ℚ
  paymentMethod : String
  paymentProvider : PaymentProvider
  completeTime : ℤ := 0
  status : TopUpStatus

structure User where
  quota : ℤ
  (email stripeCustomer : String)

structure Store where
  topUps : String → Option TopUp
  users : ℤ → Option User

inductive TopUpError where
  | paymentMethodMismatch
  | topUpNotFound
  | topUpStatusInvalid
  | orderMissing
  | orderStatusWrong
  | orderNotPending
  | invalidQuota
  | userNotFound
  | tradeNoMissing
  | orderNoMissing
  | rechargeFailed
  | database (text : String)

def TopUpError.message : TopUpError → String
  | .paymentMethodMismatch => "payment method mismatch"
  | .topUpNotFound => "topup not found"
  | .topUpStatusInvalid => "topup status invalid"
  | .orderMissing => "充值订单不存在"
  | .orderStatusWrong => "充值订单状态错误"
  | .orderNotPending => "订单状态不是待支付，无法补单"
  | .invalidQuota => "无效的充值额度"
  | .userNotFound => "用户不存在"
  | .tradeNoMissing => "未提供支付单号"
  | .orderNoMissing => "未提供订单号"
  | .rechargeFailed => "充值失败，请稍后重试"
  | .database text => text

/-- The quota unit, the floating-point product, and how the database stores a fraction in the
integer quota column.
-/
structure QuotaSettings where
  quotaPerUnit : ℚ
  floatMul : ℚ → ℚ → ℚ
  storeQuota : ℚ → ℤ
  storeQuota_intCast : ∀ n : ℤ, storeQuota n = n

/-- How the statements of a transaction fail, if they do: saving the order, those on the user row,
and the commit.
-/
structure Statements where
  (save user commit : Option String := none)

def Statements.done : Statements :=
  {}

/-- How the completions differ: the provider they require, whether they take a successful order for
done, the quota they add, whether they reject one that is not positive, what else they write, and
their errors.
-/
structure Completion where
  provider : Option PaymentProvider
  idempotent : Bool
  quotaToAdd : TopUp → ℚ
  rejectsNonPositive : Bool
  finish : TopUp → TopUp := id
  profile : User → User := id
  (missing notPending : TopUpError)

variable (cfg : QuotaSettings)

/-- The common transaction of the completions: the rows after the commit and the quota
credited, none if the order was already successful.
-/
def complete (c : Completion) (w : Statements) (now : ℤ) (tradeNo : String) (store : Store)
    : Except TopUpError (Store × Option ℤ) :=
  match store.topUps tradeNo with
  | none => .error c.missing
  | some order =>
    if c.provider.any (· ≠ order.paymentProvider) then .error .paymentMethodMismatch
    else if c.idempotent ∧ order.status = .success then .ok (store, none)
    else if order.status ≠ .pending then .error c.notPending
    else if c.rejectsNonPositive ∧ c.quotaToAdd order ≤ 0 then .error .invalidQuota
    else
      match w.save, w.user, store.users order.userId, w.commit with
      | some text, _, _, _ => .error (.database text)
      | none, some text, _, _ => .error (.database text)
      | none, none, none, _ => .error .userNotFound
      | none, none, some _, some text => .error (.database text)
      | none, none, some user, none =>
        let quota := cfg.storeQuota (user.quota + c.quotaToAdd order)
        .ok (
          { topUps := update store.topUps tradeNo
              (some { c.finish order with status := .success, completeTime := now })
            users := update store.users order.userId
              (some { c.profile user with quota := quota }) },
          some (quota - user.quota))

def Completes (c : Completion) (now : ℤ) (tradeNo : String)
    (store store' : Store) (quota : ℤ) : Prop :=
  ∃ order user, store.topUps tradeNo = some order ∧ order.status = .pending
    ∧ store'.topUps = update store.topUps tradeNo
      (some { c.finish order with status := .success, completeTime := now })
    ∧ store.users order.userId = some user
    ∧ quota = cfg.storeQuota (user.quota + c.quotaToAdd order) - user.quota
    ∧ store'.users = update store.users order.userId
      (some { c.profile user with quota := user.quota + quota })

variable {w : Statements} {tradeNo : String} {store store' : Store}

/-- A completion finds the order completed, or credits it. -/
theorem complete_ok {cfg c now credit}
    (completed : complete cfg c w now tradeNo store = .ok (store', credit))
    : (store' = store ∧ credit = none)
      ∨ ∃ quota, credit = some quota ∧ Completes cfg c now tradeNo store store' quota := by
  unfold complete at completed
  split at completed
  · cases completed
  rename_i order found
  split at completed
  · cases completed
  split at completed
  · cases completed
    exact .inl ⟨rfl, rfl⟩
  · split at completed
    · cases completed
    next pending =>
      split at completed
      · cases completed
      split at completed
      case h_5 =>
        rename_i user _ _ userFound _
        cases completed
        refine .inr ⟨_, rfl, order, user, found, not_not.mp pending, rfl, userFound,
          rfl, ?_⟩
        rw [add_sub_cancel]
      all_goals cases completed

def QuotaSettings.amountQuota (order : TopUp) : ℤ := truncate (order.amount * cfg.quotaPerUnit)

def QuotaSettings.moneyQuota (order : TopUp) : ℤ := truncate (order.money * cfg.quotaPerUnit)

/-- `CompleteEpayTopUp`, shared by the callback and the reconciliation. -/
def completeEpayTopUp (w : Statements) (now : ℤ)
    (tradeNo actualPaymentMethod : String) (store : Store)
    : Except TopUpError (Store × Option ℤ) :=
  complete cfg {
    provider := some .epay
    idempotent := true
    quotaToAdd := fun order => cfg.amountQuota order
    rejectsNonPositive := false
    finish := fun order =>
      if actualPaymentMethod ≠ "" then { order with paymentMethod := actualPaymentMethod }
      else order
    missing := .topUpNotFound
    notPending := .topUpStatusInvalid } w now tradeNo store

def recharge (w : Statements) (now : ℤ) (referenceId customerId : String) (store : Store)
    : Except TopUpError (Store × Option ℤ) :=
  if referenceId = "" then .error .tradeNoMissing
  else
    (complete cfg {
      provider := some .stripe
      idempotent := false
      quotaToAdd := fun order => cfg.floatMul order.money cfg.quotaPerUnit
      rejectsNonPositive := false
      profile := fun user => { user with stripeCustomer := customerId }
      missing := .orderMissing
      notPending := .orderStatusWrong } w now referenceId store).mapError
        fun _ => .rechargeFailed

def manualCompleteTopUp (w : Statements) (now : ℤ) (tradeNo : String) (store : Store)
    : Except TopUpError (Store × Option ℤ) :=
  if tradeNo = "" then .error .orderNoMissing
  else
    complete cfg {
      provider := none
      idempotent := true
      quotaToAdd := fun order =>
        if order.paymentProvider = .stripe then cfg.moneyQuota order else cfg.amountQuota order
      rejectsNonPositive := true
      missing := .orderMissing
      notPending := .orderNotPending } w now tradeNo store

/-- `RechargeCreem`; an email is stored only if the user has none. -/
def rechargeCreem (w : Statements) (now : ℤ) (referenceId customerEmail : String) (store : Store)
    : Except TopUpError (Store × Option ℤ) :=
  if referenceId = "" then .error .tradeNoMissing
  else
    (complete cfg {
      provider := some .creem
      idempotent := false
      quotaToAdd := fun order => order.amount
      rejectsNonPositive := false
      profile := fun user =>
        if customerEmail ≠ "" ∧ user.email = "" then { user with email := customerEmail }
        else user
      missing := .orderMissing
      notPending := .orderStatusWrong } w now referenceId store).mapError
        fun _ => .rechargeFailed

def waffoCompletion (provider : PaymentProvider) : Completion where
  provider := some provider
  idempotent := true
  quotaToAdd := fun order => cfg.amountQuota order
  rejectsNonPositive := true
  missing := .orderMissing
  notPending := .orderStatusWrong

def rechargeWaffo (w : Statements) (now : ℤ) (tradeNo : String) (store : Store)
    : Except TopUpError (Store × Option ℤ) :=
  if tradeNo = "" then .error .tradeNoMissing
  else
    (complete cfg (waffoCompletion cfg .waffo) w now tradeNo store).mapError
      fun _ => .rechargeFailed

def rechargeWaffoPancake (w : Statements) (now : ℤ) (tradeNo : String) (store : Store)
    : Except TopUpError (Store × Option ℤ) :=
  if tradeNo = "" then .error .tradeNoMissing
  else
    (complete cfg (waffoCompletion cfg .waffoPancake) w now tradeNo store).mapError
      fun _ => .rechargeFailed

/-- `UpdatePendingTopUpStatus`; no expected provider accepts any. -/
def updatePendingTopUpStatus (w : Statements) (tradeNo : String)
    (expectedPaymentProvider : Option PaymentProvider) (targetStatus : TopUpStatus) (store : Store)
    : Except TopUpError Store :=
  if tradeNo = "" then .error .tradeNoMissing
  else
    match store.topUps tradeNo with
    | none => .error .topUpNotFound
    | some order =>
      if expectedPaymentProvider.any (· ≠ order.paymentProvider) then .error .paymentMethodMismatch
      else if order.status ≠ .pending then .error .topUpStatusInvalid
      else
        match w.save.or w.commit with
        | some text => .error (.database text)
        | none =>
          .ok { store with
            topUps := update store.topUps tradeNo
              (some { order with status := targetStatus }) }

/-- Only a pending order gets another status. -/
theorem updatePendingStatus_ok {expected target}
    (updated : updatePendingTopUpStatus w tradeNo expected target store = .ok store')
    : ∃ order, store.topUps tradeNo = some order ∧ order.status = .pending
      ∧ store' = { store with
          topUps := update store.topUps tradeNo
            (some { order with status := target }) } := by
  unfold updatePendingTopUpStatus at updated
  split at updated
  · cases updated
  split at updated
  · cases updated
  rename_i order found
  split at updated
  · cases updated
  split at updated
  · cases updated
  rename_i pending
  split at updated
  · cases updated
  cases updated
  exact ⟨order, found, not_not.mp pending, rfl⟩

end HelsterApi.Payments
