import HelsterApi.Billing.ExactCharge
import HelsterApi.Realtime.Pricing

/-! The deduction for a turn of a realtime session, and the settlement of a request, by its billing
session or against what was pre-consumed.
-/

namespace HelsterApi.Realtime

open Billing

inductive TurnError where
  | model (error : LedgerError)
  | userQuotaNotEnough (userQuota need : ℤ)
  | tokenQuotaNotEnough (remain need : ℤ)
  | subscriptionIdMissing

def TurnError.message (formatQuota : ℤ → String) : TurnError → String
  | .model error => error.message
  | .userQuotaNotEnough userQuota need =>
    "user quota is not enough, user quota: " ++ formatQuota userQuota
      ++ ", need quota: " ++ formatQuota need
  | .tokenQuotaNotEnough remain need =>
    "token quota is not enough, token remain quota: " ++ formatQuota remain
      ++ ", need quota: " ++ formatQuota need
  | .subscriptionIdMissing => "subscription id is missing"

def consumeFunding (w : FundingWrite) (info : RelayInfo) (quota : ℤ) (l : Ledger)
    : Except TurnError (RelayInfo × Ledger) :=
  if info.billingSource = some .subscription then
    if info.subscriptionId = 0 then .error .subscriptionIdMissing
    else if quota = 0 then .ok (info, l)
    else
      match postConsumeUserSubscriptionDelta w.subscription info.subscriptionId quota l with
      | .error e => .error (.model e)
      | .ok l' =>
        .ok ({ info with subscriptionPostDelta := info.subscriptionPostDelta + quota }, l')
  else
    match (if 0 < quota then decreaseUserQuota w.wallet quota l
      else increaseUserQuota w.wallet (-quota) l) with
    | .error e => .error (.model e)
    | .ok l' => .ok (info, l')

def postConsumeQuota (w : SettleWrites) (info : RelayInfo) (quota : ℤ) (l : Ledger)
    : Option TurnError × RelayInfo × Ledger :=
  match consumeFunding w.funding info quota l with
  | .error e => (some e, info, l)
  | .ok (info, l) =>
    let (tokenError, l) := info.adjustToken w.token quota l
    (tokenError.map .model, info, l)

structure RealtimeSettings where
  usePrice : Bool
  quotaPerUnit : ℚ

/-- What the deduction for one turn reads, and how its writes come out: the wallet balance, the
token's remaining quota and unlimited flag, the ratios of the group, of the automatically selected
one and of the pair of user group and group, and those of the requested model.
-/
structure Turn where
  userQuota : Except String ℤ
  token : Except String (ℤ × Bool)
  groupRatio : ℚ
  (autoGroupRatio userGroupRatio : Option ℚ)
  (modelRatio completionRatio audioRatio audioCompletionRatio : ℚ)
  writes : SettleWrites

def Turn.quotaInfo (cfg : RealtimeSettings) (turn : Turn) (usage : RealtimeUsage) : QuotaInfo where
  usage := usage
  usePrice := cfg.usePrice
  modelPrice := 0
  quotaPerUnit := cfg.quotaPerUnit
  modelRatio := turn.modelRatio
  groupRatio := turn.userGroupRatio.getD (turn.autoGroupRatio.getD turn.groupRatio)
  completionRatio := turn.completionRatio
  audioRatio := turn.audioRatio
  audioCompletionRatio := turn.audioCompletionRatio

/-- Result of a deduction; `deducted` is the price taken from the funding source, if the
deduction got that far.
-/
structure TurnResult where
  error : Option TurnError
  info : RelayInfo
  ledger : Ledger
  deducted : Option QuotaInfo

def preWssConsumeQuota (cfg : RealtimeSettings) (turn : Turn) (usage : RealtimeUsage)
    (info : RelayInfo) (l : Ledger)
    : TurnResult :=
  if cfg.usePrice then ⟨none, info, l, none⟩
  else
    match turn.userQuota, turn.token with
    | .error text, _ => ⟨some (.model (.database text)), info, l, none⟩
    | .ok _, .error text => ⟨some (.model (.database text)), info, l, none⟩
    | .ok userQuota, .ok (remain, unlimited) =>
      let price := turn.quotaInfo cfg usage
      let quota := calculateAudioQuota price
      if userQuota < quota then ⟨some (.userQuotaNotEnough userQuota quota), info, l, none⟩
      else if unlimited = false ∧ remain < quota then
        ⟨some (.tokenQuotaNotEnough remain quota), info, l, none⟩
      else
        let (error, info', l') := postConsumeQuota turn.writes info quota l
        ⟨error, info', l',
          match consumeFunding turn.writes.funding info quota l with
          | .error _ => none
          | .ok _ => some price⟩

/-- `SettleBilling`: settle the billing session if there is one, else consume the difference to what
was pre-consumed.
-/
def settleBilling (billing : Option BillingSession) (w : SettleWrites) (actualQuota : ℤ)
    (info : RelayInfo) (l : Ledger)
    : Option TurnError × Ledger :=
  match billing with
  | some s =>
    let (error, _, l) := s.settle w actualQuota l
    (error.map .model, l)
  | none =>
    let quotaDelta := actualQuota - info.finalPreConsumedQuota
    if quotaDelta ≠ 0 then
      let (error, _, l) := postConsumeQuota w info quotaDelta l
      (error, l)
    else (none, l)

end HelsterApi.Realtime
