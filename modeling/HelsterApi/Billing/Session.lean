import HelsterApi.Arithmetic.Rounding
import HelsterApi.Billing.Subscription

/-! The billing session of one request: how it is opened, with the trust bypass and the choice
between wallet and subscription, and its `Settle`, `Reserve` and `Refund` calls. Each returns the
session and the rows it leaves behind with the error it reports.
-/

namespace HelsterApi.Billing

section

inductive ErrorCode where
  | invalidRequest | modelPriceError | queryDataError | updateDataError | insufficientUserQuota
  | preConsumeTokenQuotaFailed
  deriving DecidableEq

inductive TokenError where
  | model (error : LedgerError)
  | quotaNotEnough (remain need : ℤ)

inductive ErrorCause where
  | model (error : LedgerError)
  | token (error : TokenError)
  | subscriptionUnavailable (error : LedgerError)
  | userQuotaExhausted (userQuota : ℤ)
  | userQuotaTooLow (userQuota need : ℤ)
  | preConsumeNegative (quota : ℤ)
  | quotaClamped (text : String)

/-- Text of a token error; `formatQuota` renders a quota in the configured display unit. -/
def TokenError.message (formatQuota : ℤ → String) : TokenError → String
  | .model error => error.message
  | .quotaNotEnough remain need =>
    "token quota is not enough, token remain quota: " ++ formatQuota remain
      ++ ", need quota: " ++ formatQuota need

def ErrorCause.message (formatQuota : ℤ → String) : ErrorCause → String
  | .model error => error.message
  | .token error => error.message formatQuota
  | .subscriptionUnavailable error => "订阅额度不足或未配置订阅: " ++ error.message
  | .userQuotaExhausted userQuota => "用户额度不足, 剩余额度: " ++ formatQuota userQuota
  | .userQuotaTooLow userQuota need =>
    "预扣费额度失败, 用户剩余额度: " ++ formatQuota userQuota
      ++ ", 需要预扣费额度: " ++ formatQuota need
  | .preConsumeNegative quota => "pre-consume quota cannot be negative: " ++ toString quota
  | .quotaClamped text => text

structure NewAPIError where
  cause : ErrorCause
  errorCode : ErrorCode
  statusCode : ℕ
  (skipRetry recordErrorLog : Bool)

/-- `NewErrorWithStatusCode` with `403`, not retried and not logged. -/
def forbidden (cause : ErrorCause) (errorCode : ErrorCode) : NewAPIError :=
  ⟨cause, errorCode, 403, true, false⟩

/-- `NewError` with the option to skip retries; the status is `500`. -/
def internalError (cause : ErrorCause) (errorCode : ErrorCode) : NewAPIError :=
  ⟨cause, errorCode, 500, true, true⟩

inductive BillingSource where
  | wallet | subscription
  deriving DecidableEq

/-- The fields of `RelayInfo` that billing reads and writes. -/
structure RelayInfo where
  userId : ℤ
  requestId : String
  (isPlayground tokenUnlimited forcePreConsume : Bool)
  billingPreference : String
  (userQuota finalPreConsumedQuota : ℤ := 0)
  billingSource : Option BillingSource := none
  (subscriptionId subscriptionPreConsumed subscriptionPostDelta subscriptionAmountTotal : ℤ := 0)
  subscriptionAmountUsedAfterPreConsume : ℤ := 0

/-- `SubscriptionFunding`, without the plan id and title that only logs show. -/
structure SubscriptionFunding where
  requestId : String
  (userId amount : ℤ)
  (subscriptionId preConsumed amountTotal amountUsedAfter : ℤ := 0)

/-- `FundingSource`: the wallet with the amount it consumed, or a subscription. -/
inductive Funding where
  | wallet (consumed : ℤ)
  | subscription (funding : SubscriptionFunding)

def Funding.source : Funding → BillingSource
  | .wallet _ => .wallet
  | .subscription _ => .subscription

structure FundingWrite where
  wallet : Write
  subscription : Save
  deriving DecidableEq

variable (w : FundingWrite) (delta : ℤ)

def Funding.settle (funding : Funding) (l : Ledger) : Except LedgerError Ledger :=
  if delta = 0 then .ok l
  else
    match funding with
    | .wallet _ =>
      if 0 < delta then decreaseUserQuota w.wallet delta l
      else increaseUserQuota w.wallet (-delta) l
    | .subscription f => postConsumeUserSubscriptionDelta w.subscription f.subscriptionId delta l

/-- The loop of `refundWithRetry`: the attempts left, the index of the next one and the
last error.
-/
def refundAttempts (attempt : ℕ → Ledger → Option LedgerError × Ledger)
    : ℕ → ℕ → Option LedgerError → Ledger → Option LedgerError × Ledger
  | 0, _, lastError, l => (lastError, l)
  | left + 1, i, _, l =>
    match attempt i l with
    | (none, l') => (none, l')
    | (some e, l') => refundAttempts attempt left (i + 1) (some e) l'

def refundWithRetry (attempt : ℕ → Ledger → Option LedgerError × Ledger) (l : Ledger)
    : Option LedgerError × Ledger := refundAttempts attempt 3 0 none l

structure FundingRefund where
  wallet : Write
  attempt : ℕ → RefundAttempt

/-- Only the subscription retries. -/
def Funding.refund (w : FundingRefund) (funding : Funding) (l : Ledger)
    : Option LedgerError × Ledger :=
  match funding with
  | .wallet consumed =>
    if consumed ≤ 0 then (none, l)
    else
      match increaseUserQuota w.wallet consumed l with
      | .error e => (some e, l)
      | .ok l' => (none, l')
  | .subscription f =>
    if f.preConsumed ≤ 0 then (none, l)
    else refundWithRetry (fun i => refundSubscriptionPreConsume (w.attempt i) f.requestId) l

/-- `BillingSession`. Its mutex serializes the calls, so each call is one step. -/
structure BillingSession where
  relayInfo : RelayInfo
  funding : Funding
  (preConsumedQuota tokenConsumed extraReserved : ℤ := 0)
  (trusted fundingSettled settled refunded : Bool := false)

variable (s : BillingSession)

def BillingSession.syncRelayInfo : BillingSession :=
  let info := { s.relayInfo with
    finalPreConsumedQuota := s.preConsumedQuota
    billingSource := some s.funding.source }
  match s.funding with
  | .subscription f =>
    { s with relayInfo := { info with
        subscriptionId := f.subscriptionId
        subscriptionPreConsumed := f.preConsumed + s.extraReserved
        subscriptionPostDelta := 0
        subscriptionAmountTotal := f.amountTotal
        subscriptionAmountUsedAfterPreConsume := f.amountUsedAfter + s.extraReserved } }
  | .wallet _ =>
    { s with relayInfo := { info with subscriptionId := 0, subscriptionPreConsumed := 0 } }

structure SettleWrites where
  funding : FundingWrite
  token : Write
  deriving DecidableEq

def RelayInfo.adjustToken (w : Write) (delta : ℤ) (info : RelayInfo) (l : Ledger)
    : Option LedgerError × Ledger :=
  if info.isPlayground then (none, l)
  else
    match (if 0 < delta then decreaseTokenQuota w delta l
      else increaseTokenQuota w (-delta) l) with
    | .error e => (some e, l)
    | .ok l' => (none, l')

def BillingSession.addPostDelta (s : BillingSession) : BillingSession :=
  match s.funding with
  | .subscription _ =>
    { s with relayInfo := { s.relayInfo with
        subscriptionPostDelta := s.relayInfo.subscriptionPostDelta + delta } }
  | .wallet _ => s

/-- It looks at `settled` but not at `refunded`. -/
def BillingSession.settle (w : SettleWrites) (actualQuota : ℤ) (s : BillingSession) (l : Ledger)
    : Option LedgerError × BillingSession × Ledger :=
  if s.settled then (none, s, l)
  else
    let delta := actualQuota - s.preConsumedQuota
    if delta = 0 then (none, { s with settled := true }, l)
    else
      match (if s.fundingSettled then .ok l else s.funding.settle w.funding delta l) with
      | .error e => (some e, s, l)
      | .ok l =>
        -- a token error is reported but undoes nothing
        let (tokenError, l) := s.relayInfo.adjustToken w.token delta l
        (tokenError,
          { s.addPostDelta delta with fundingSettled := true, settled := true }, l)

def BillingSession.needsRefund : Bool :=
  if s.settled || s.refunded || s.fundingSettled then false
  else if 0 < s.tokenConsumed then true
  else
    match s.funding with
    | .subscription f => decide (0 < f.preConsumed)
    | .wallet _ => false

/-- The values `Refund` copies for the job it starts; the funding source is shared. -/
structure RefundJob where
  isPlayground : Bool
  (tokenConsumed extraReserved subscriptionId : ℤ)

def BillingSession.refundJob : RefundJob :=
  ⟨s.relayInfo.isPlayground, s.tokenConsumed, s.extraReserved, s.relayInfo.subscriptionId⟩

/-- `Refund`: mark the session and start the job, unless there is nothing to give back. -/
def BillingSession.refund : BillingSession × Option RefundJob :=
  if s.settled || s.refunded || !s.needsRefund then (s, none)
  else ({ s with refunded := true }, some s.refundJob)

structure RefundWrites where
  funding : FundingRefund
  extra : Save
  token : Write

/-- What `Reserve` added to a subscription after the pre-consume. -/
def RefundJob.refundExtra (w : Save) (job : RefundJob) (funding : Funding) (l : Ledger) : Ledger :=
  if 0 < job.extraReserved ∧ funding.source = .subscription ∧ 0 < job.subscriptionId then
    match postConsumeUserSubscriptionDelta w job.subscriptionId (-job.extraReserved) l with
    | .error _ => l
    | .ok l' => l'
  else l

def RefundJob.refundToken (w : Write) (job : RefundJob) (l : Ledger) : Ledger :=
  if 0 < job.tokenConsumed ∧ job.isPlayground = false then
    match increaseTokenQuota w job.tokenConsumed l with
    | .error _ => l
    | .ok l' => l'
  else l

def RefundJob.run (w : RefundWrites) (job : RefundJob) (funding : Funding) (l : Ledger) : Ledger :=
  job.refundToken w.token (job.refundExtra w.extra funding (funding.refund w.funding l).2)

/-- The remaining quota it checks is a separate, possibly cached read. -/
def preConsumeTokenQuota (info : RelayInfo) (read : Except String ℤ) (w : Write)
    (quota : ℤ) (l : Ledger)
    : Except TokenError Ledger :=
  if quota < 0 then .error (.model .quotaNegative)
  else if info.isPlayground then .ok l
  else
    match read with
    | .error text => .error (.model (.database text))
    | .ok remain =>
      if info.tokenUnlimited = false ∧ remain < quota then .error (.quotaNotEnough remain quota)
      else (decreaseTokenQuota w quota l).mapError .model

/-- The rollback is issued only when the token refuses. -/
structure ReserveWrites where
  funding : FundingWrite
  tokenRead : Except String ℤ
  token : Write
  rollback : FundingWrite

def BillingSession.reserveFunding (s : BillingSession) (l : Ledger)
    : Except NewAPIError (BillingSession × Ledger) :=
  match s.funding with
  | .wallet consumed =>
    match decreaseUserQuota w.wallet delta l with
    | .error e => .error (internalError (.model e) .updateDataError)
    | .ok l' => .ok ({ s with funding := .wallet (consumed + delta) }, l')
  | .subscription f =>
    match postConsumeUserSubscriptionDelta w.subscription f.subscriptionId delta l with
    | .error e => .error (forbidden (.subscriptionUnavailable e) .insufficientUserQuota)
    | .ok l' => .ok (s, l')

/-- A failed rollback is only logged. -/
def BillingSession.rollbackFundingReserve (s : BillingSession) (l : Ledger)
    : BillingSession × Ledger :=
  match s.funding with
  | .wallet consumed =>
    match increaseUserQuota w.wallet delta l with
    | .error _ => (s, l)
    | .ok l' => ({ s with funding := .wallet (consumed - delta) }, l')
  | .subscription f =>
    match postConsumeUserSubscriptionDelta w.subscription f.subscriptionId (-delta) l with
    | .error _ => (s, l)
    | .ok l' => (s, l')

def BillingSession.reserveToken (read : Except String ℤ) (w : Write) (delta : ℤ)
    (s : BillingSession) (l : Ledger)
    : Except NewAPIError Ledger :=
  if delta ≤ 0 ∨ s.relayInfo.isPlayground then .ok l
  else
    (preConsumeTokenQuota s.relayInfo read w delta l).mapError
      fun e => forbidden (.token e) .preConsumeTokenQuotaFailed

def BillingSession.reserve (w : ReserveWrites) (targetQuota : ℤ) (s : BillingSession) (l : Ledger)
    : Option NewAPIError × BillingSession × Ledger :=
  if s.settled || s.refunded || s.trusted || decide (targetQuota ≤ s.preConsumedQuota) then
    (none, s, l)
  else
    let delta := targetQuota - s.preConsumedQuota
    if delta ≤ 0 then (none, s, l)
    else
      match s.reserveFunding w.funding delta l with
      | .error e => (some e, s, l)
      | .ok (s, l) =>
        match s.reserveToken w.tokenRead w.token delta l with
        | .error e => (some e, s.rollbackFundingReserve w.rollback delta l)
        | .ok l =>
          let s := { s with
            preConsumedQuota := s.preConsumedQuota + delta
            tokenConsumed := s.tokenConsumed + delta
            extraReserved := s.extraReserved + delta }
          (none, s.syncRelayInfo, l)

end

open Arithmetic

def getTrustQuota (quotaPerUnit : ℚ) : ℤ := truncate (10 * quotaPerUnit)

/-- The quota unit, and the token quota the authentication middleware stored in the request
context.
-/
structure TrustSettings where
  quotaPerUnit : ℚ
  tokenQuota : ℤ

variable (cfg : TrustSettings)

def BillingSession.shouldTrust (s : BillingSession) : Bool :=
  if s.relayInfo.forcePreConsume then false
  else
    let trustQuota := getTrustQuota cfg.quotaPerUnit
    if trustQuota ≤ 0 then false
    else if s.relayInfo.tokenUnlimited || decide (trustQuota < cfg.tokenQuota) then
      match s.funding with
      | .wallet _ => decide (trustQuota < s.relayInfo.userQuota)
      | .subscription _ => false
    else false

/-- The rollback is issued only when the funding source refuses. -/
structure PreConsumeOutcome where
  tokenRead : Except String ℤ
  (token wallet : Write)
  subscription : PreConsumeWrites
  rollback : Write

variable (w : PreConsumeOutcome)

/-- `PreConsume` of the funding source; the subscription charges its own amount. -/
def Funding.preConsume (amount : ℤ) (funding : Funding) (l : Ledger)
    : Except LedgerError (Funding × Ledger) :=
  match funding with
  | .wallet consumed =>
    if amount ≤ 0 then .ok (.wallet consumed, l)
    else (decreaseUserQuota w.wallet amount l).map fun l' => (.wallet amount, l')
  | .subscription f =>
    (preConsumeUserSubscription w.subscription f.requestId f.userId f.amount l).map
      fun (result, l') =>
        (.subscription { f with
          subscriptionId := result.userSubscriptionId
          preConsumed := result.preConsumed
          amountTotal := result.amountTotal
          amountUsedAfter := result.amountUsedAfter }, l')

def fundingRefused (e : LedgerError) : NewAPIError :=
  if containsText e.message "no active subscription"
    || containsText e.message "subscription quota insufficient" then
    forbidden (.subscriptionUnavailable e) .insufficientUserQuota
  else internalError (.model e) .updateDataError

def BillingSession.rollbackToken (w : Write) (s : BillingSession) (l : Ledger) : Ledger :=
  if 0 < s.tokenConsumed ∧ s.relayInfo.isPlayground = false then
    match increaseTokenQuota w s.tokenConsumed l with
    | .error _ => l
    | .ok l' => l'
  else l

def BillingSession.preConsume (quota : ℤ) (s : BillingSession) (l : Ledger)
    : Except NewAPIError BillingSession × Ledger :=
  let trusted := s.shouldTrust cfg
  let effectiveQuota := if trusted then 0 else quota
  let s := { s with trusted := trusted }
  match (if 0 < effectiveQuota then
      preConsumeTokenQuota s.relayInfo w.tokenRead w.token effectiveQuota l
    else .ok l) with
  | .error e => (.error (forbidden (.token e) .preConsumeTokenQuotaFailed), l)
  | .ok l =>
    let s := { s with
      tokenConsumed := if 0 < effectiveQuota then effectiveQuota else s.tokenConsumed }
    match s.funding.preConsume w effectiveQuota l with
    | .error e => (.error (fundingRefused e), s.rollbackToken w.rollback l)
    | .ok (funding, l) =>
      let s := { s with funding := funding, preConsumedQuota := effectiveQuota }
      (.ok s.syncRelayInfo, l)

/-- `read` is the balance `GetUserQuota` returned, which may be a cached one. -/
def tryWallet (read : Except String ℤ) (w : PreConsumeOutcome)
    (info : RelayInfo) (preConsumedQuota : ℤ) (l : Ledger)
    : Except NewAPIError BillingSession × Ledger :=
  match read with
  | .error text => (.error (internalError (.model (.database text)) .queryDataError), l)
  | .ok userQuota =>
    if userQuota ≤ 0 then
      (.error (forbidden (.userQuotaExhausted userQuota) .insufficientUserQuota), l)
    else if userQuota - preConsumedQuota < 0 then
      (.error (forbidden (.userQuotaTooLow userQuota preConsumedQuota) .insufficientUserQuota), l)
    else
      let session : BillingSession :=
        { relayInfo := { info with userQuota := userQuota }, funding := .wallet 0 }
      session.preConsume cfg w preConsumedQuota l

def subConsume (preConsumedQuota : ℤ) : ℤ :=
  if preConsumedQuota ≤ 0 then 1 else preConsumedQuota

def trySubscription (info : RelayInfo) (preConsumedQuota : ℤ) (l : Ledger)
    : Except NewAPIError BillingSession × Ledger :=
  let amount := subConsume preConsumedQuota
  let session : BillingSession :=
    { relayInfo := info,
      funding := .subscription
        { requestId := info.requestId, userId := info.userId, amount := amount } }
  session.preConsume cfg w amount l

inductive BillingPreference where
  | subscriptionFirst | walletFirst | subscriptionOnly | walletOnly
  deriving DecidableEq

def trimSpace (text : String) : String := String.ofList (Text.trimSpace text)

def normalizeBillingPreference (pref : String) : BillingPreference :=
  match trimSpace pref with
  | "wallet_first" => .walletFirst
  | "subscription_only" => .subscriptionOnly
  | "wallet_only" => .walletOnly
  | _ => .subscriptionFirst

/-- Each funding source is tried at most once. -/
structure OpenOutcome where
  userQuota : Except String ℤ
  (wallet subscription : PreConsumeOutcome)
  (hasActiveSubscription allowWalletOverflow : Except String Bool)

def newBillingSession (o : OpenOutcome) (info : RelayInfo) (preConsumedQuota : ℤ) (l : Ledger)
    : Except NewAPIError BillingSession × Ledger :=
  let wallet := tryWallet cfg o.userQuota o.wallet info preConsumedQuota
  let subscription := trySubscription cfg o.subscription info preConsumedQuota
  match normalizeBillingPreference info.billingPreference with
  | .subscriptionOnly => subscription l
  | .walletOnly => wallet l
  | .walletFirst =>
    match wallet l with
    | (.error e, l') =>
      if e.errorCode = .insufficientUserQuota then subscription l' else (.error e, l')
    | opened => opened
  | .subscriptionFirst =>
    match o.hasActiveSubscription with
    | .error text => (.error (internalError (.model (.database text)) .queryDataError), l)
    | .ok false => wallet l
    | .ok true =>
      match subscription l with
      | (.error e, l') =>
        if e.errorCode = .insufficientUserQuota then
          match o.allowWalletOverflow with
          | .error text => (.error (internalError (.model (.database text)) .queryDataError), l')
          | .ok true => wallet l'
          | .ok false => (.error e, l')
        else (.error e, l')
      | opened => opened

/-- `quotaClamp` is the error price calculation left behind when it had to clamp a quota. -/
def preConsumeBilling (o : OpenOutcome) (quotaClamp : Option String)
    (info : RelayInfo) (preConsumedQuota : ℤ) (l : Ledger)
    : Except NewAPIError BillingSession × Ledger :=
  match quotaClamp with
  | some text => (.error ⟨.quotaClamped text, .modelPriceError, 400, true, true⟩, l)
  | none =>
    if preConsumedQuota < 0 then
      (.error ⟨.preConsumeNegative preConsumedQuota, .modelPriceError, 400, true, true⟩, l)
    else newBillingSession cfg o info preConsumedQuota l

end HelsterApi.Billing
