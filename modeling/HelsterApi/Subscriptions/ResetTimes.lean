import HelsterApi.Clock.Dates
import HelsterApi.Subscriptions.Orders

/-! Whether the resets of a subscription move on. An administrator may ask for a reset after any
positive number of seconds, counted as nanoseconds in a 64-bit word; the other periods follow the
server's calendar.
-/

namespace HelsterApi.Subscriptions

open Clock Location
open Billing (isBlank trimSpace)

def ResetPeriod.text : ResetPeriod → String
  | .never => "never"
  | .daily => "daily"
  | .weekly => "weekly"
  | .monthly => "monthly"
  | .custom => "custom"

inductive PlanError where
  | invalidId | titleEmpty | negativePrice | priceTooHigh | negativePurchaseLimit | negativeTotal
  | upgradeGroupMissing | downgradeGroupMissing | resetSeconds
  deriving DecidableEq

def PlanError.message : PlanError → String
  | .invalidId => "无效的ID"
  | .titleEmpty => "套餐标题不能为空"
  | .negativePrice => "价格不能为负数"
  | .priceTooHigh => "价格不能超过9999"
  | .negativePurchaseLimit => "购买上限不能为负数"
  | .negativeTotal => "总额度不能为负数"
  | .upgradeGroupMissing => "升级分组不存在"
  | .downgradeGroupMissing => "降级分组不存在"
  | .resetSeconds => "自定义重置周期需大于0秒"

def PricedPlan.normalized (plan : PricedPlan) : PricedPlan :=
  let unit := if plan.durationUnit = "" then "month" else plan.durationUnit
  { plan with
    durationUnit := unit
    durationValue :=
      if plan.durationValue ≤ 0 ∧ unit ≠ "custom" then 1 else plan.durationValue
    upgradeGroup := trimSpace plan.upgradeGroup
    downgradeGroup := trimSpace plan.downgradeGroup
    quotaResetPeriod := (normalizeResetPeriod plan.quotaResetPeriod).text }

variable (groups : String → Bool)

/-- The checks of a plan to be stored, and the plan stored. A group exists if it has a ratio. -/
def checkPlan (request : PricedPlan) : Except PlanError PricedPlan :=
  let plan := request.normalized
  if isBlank plan.title then .error .titleEmpty
  else if plan.priceAmount < 0 then .error .negativePrice
  else if 9999 < plan.priceAmount then .error .priceTooHigh
  else if plan.maxPurchasePerUser < 0 then .error .negativePurchaseLimit
  else if plan.totalAmount < 0 then .error .negativeTotal
  else if plan.upgradeGroup ≠ "" ∧ ¬groups plan.upgradeGroup then .error .upgradeGroupMissing
  else if plan.downgradeGroup ≠ "" ∧ ¬groups plan.downgradeGroup then .error .downgradeGroupMissing
  else if plan.quotaResetPeriod = "custom" ∧ plan.quotaResetCustomSeconds ≤ 0 then
    .error .resetSeconds
  else .ok plan

/-- The database chooses the id. -/
def adminCreateSubscriptionPlan (id : ℤ) (request : PricedPlan) : Except PlanError PricedPlan :=
  checkPlan groups
    { request with id := id, allowBalancePay := some (request.allowBalancePay.getD true) }

def adminUpdateSubscriptionPlan (id : ℤ) (request : PricedPlan) : Except PlanError PricedPlan :=
  if id ≤ 0 then .error .invalidId
  else checkPlan groups { request with id := id }

def PricedPlan.Accepted (plan : PricedPlan) : Prop :=
  ∃ groups id request, adminCreateSubscriptionPlan groups id request = .ok plan
    ∨ adminUpdateSubscriptionPlan groups id request = .ok plan

@[simp]
theorem normalizeResetPeriod_text (period : ResetPeriod)
    : normalizeResetPeriod period.text = period := by
  cases period <;> decide

theorem checkPlan_seconds {groups request plan} (passes : checkPlan groups request = .ok plan)
    (custom : normalizeResetPeriod plan.quotaResetPeriod = .custom)
    : 0 < plan.quotaResetCustomSeconds := by
  dsimp only [checkPlan] at passes
  split_ifs at passes with _ _ _ _ _ _ _ tooFew
  cases passes
  have asked : normalizeResetPeriod request.quotaResetPeriod = .custom := by
    simpa [PricedPlan.normalized] using custom
  have stored : request.normalized.quotaResetPeriod = "custom" := by
    simp [PricedPlan.normalized, asked, ResetPeriod.text]
  exact not_le.mp fun few => tooFew ⟨stored, few⟩

theorem PricedPlan.Accepted.seconds {plan : PricedPlan} (accepted : plan.Accepted)
    (custom : normalizeResetPeriod plan.quotaResetPeriod = .custom)
    : 0 < plan.quotaResetCustomSeconds := by
  obtain ⟨groups, id, request, created | updated⟩ := accepted
  · exact checkPlan_seconds created custom
  · unfold adminUpdateSubscriptionPlan at updated
    split at updated
    · cases updated
    · exact checkPlan_seconds updated custom

def zoneCalendar (loc : Location) : Calendar where
  addYears start years := loc.addMonths start (12 * years)
  addMonths start months := loc.addMonths start months
  nextMidnight base := loc.addDays (loc.date (loc.day base * 86400)) 1
  nextMonday base :=
    -- Monday is one and Sunday seven.
    let weekday := if loc.weekday base = 0 then 7 else loc.weekday base
    loc.addDays (loc.date (loc.day base * 86400)) (8 - weekday)
  nextMonth base := loc.addMonths (loc.date (monthStart (monthOf (loc.day base)) * 86400)) 1

variable {loc : Location} {cal : Calendar} {plan : SubscriptionPlan} {base now endTime : ℤ}

def SubscriptionPlan.FollowsCalendar (plan : SubscriptionPlan) : Prop :=
  normalizeResetPeriod plan.quotaResetPeriod ≠ .never
    ∧ normalizeResetPeriod plan.quotaResetPeriod ≠ .custom

/-- The next reset is none, or strictly after the time it is computed from. -/
def ResetsForward (cal : Calendar) (plan : SubscriptionPlan) (base endTime : ℤ) : Prop :=
  calcNextResetTime cal base plan endTime = 0
    ∨ base < calcNextResetTime cal base plan endTime

theorem calcNextResetTime_never (never : normalizeResetPeriod plan.quotaResetPeriod = .never)
    (cal base endTime)
    : calcNextResetTime cal base plan endTime = 0 := by
  simp only [calcNextResetTime, nextReset, never]

def santiago : Location := .changing (-14400) (-10800) 1725768000 (by decide)

def resetEvery (period : ResetPeriod) (seconds : ℤ) : PricedPlan :=
  { id := 1, title := "plan", quotaResetPeriod := period.text,
    quotaResetCustomSeconds := seconds, allowBalancePay := some true }

end HelsterApi.Subscriptions
