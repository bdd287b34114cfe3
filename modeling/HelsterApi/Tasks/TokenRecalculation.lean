import HelsterApi.Tasks.RatioBilling

/-! The final quota of a task billed by tokens. Its row keeps the group in use and, in the billing
context, the group ratio it was priced with; the recalculation reads a ratio of its own, as if the
user belonged to the group in use.
-/

namespace HelsterApi.Tasks

open Billing Realtime Relay

structure BilledTask where
  userId : ℤ
  (group originModelName : String)
  billingContext : Option TaskBillingContext

variable (pricing : TaskPricing)

/-- `InitTask` and the billing context that `RelayTask` stores with the task. -/
def TaskRelayInfo.billedTask (info : TaskRelayInfo) : BilledTask where
  userId := info.userId
  group := info.routing.usingGroup
  originModelName := info.originModelName
  billingContext := some {
    modelPrice := info.priceData.modelPrice
    groupRatio := info.priceData.groupRatio
    modelRatio := info.priceData.modelRatio
    otherRatios := info.priceData.validRatios
    originModelName := info.originModelName
    perCallBilling := info.originModelName ∈ pricing.taskPricePatches ∨ info.priceData.usePrice }

def taskModelName (task : BilledTask) : String :=
  match task.billingContext with
  | some context =>
    if context.originModelName ≠ "" then context.originModelName else task.originModelName
  | none => task.originModelName

def taskBillingContextPriceData (context : Option TaskBillingContext) : Option TaskPriceData :=
  context.bind fun context =>
    if context.otherRatios.entries.isEmpty then none
    else
      let (price, some_) := ({} : TaskPriceData).replaceOtherRatios context.otherRatios
      if some_ then some price else none

/-- The group the recalculation takes the ratio of; `userGroup` is that of the user's row, if it can
be read.
-/
def BilledTask.recalculationGroup (task : BilledTask) (userGroup : Option String) : String :=
  if task.group = "" then userGroup.getD "" else task.group

structure TokenRecalculation where
  totalTokens : ℤ
  (modelRatio groupRatio otherMultiplier : ℚ)
  actualQuota : ℤ
  deriving DecidableEq

/-- Up to the quota it settles at; none if it leaves the task alone. -/
def recalculateTaskQuotaByTokens (userGroup : Option String) (task : BilledTask) (totalTokens : ℤ)
    : Option TokenRecalculation :=
  let (modelRatio, hasRatioSetting, _) := pricing.getModelRatio (taskModelName task)
  let group := task.recalculationGroup userGroup
  if totalTokens ≤ 0 then none
  else if !hasRatioSetting ∨ modelRatio ≤ 0 then none
  else if group = "" then none
  else
    let groupRatio := pricing.ratios.getUserGroupRatio group group
    let otherMultiplier :=
      match taskBillingContextPriceData task.billingContext with
      | some price => price.otherRatioMultiplier
      | none => 1
    some {
      totalTokens, modelRatio, groupRatio, otherMultiplier
      actualQuota := quotaFromFloat (totalTokens * modelRatio * groupRatio * otherMultiplier) }

def BilledTask.completionQuota (userGroup : Option String)
    (adaptorQuota totalTokens : ℤ) (task : BilledTask)
    : CompletionQuota where
  adaptorQuota := adaptorQuota
  totalTokens := totalTokens
  tokenQuota :=
    (recalculateTaskQuotaByTokens pricing userGroup task totalTokens).map (·.actualQuota)

/-- The ratio configured for users of one group that use another is the one configured for users of
`group` that use it: the special ratio of the pair, or the own ratio of the group in use.
-/
def RatiosAgree (ratios : GroupRatios) (userGroup usingGroup group : String) : Prop :=
  (ratios.groupGroupRatio userGroup usingGroup).getD ((ratios.groupRatio usingGroup).getD 1)
    = (ratios.groupGroupRatio group group).getD ((ratios.groupRatio group).getD 1)
  deriving Decidable

theorem getUserGroupRatio_eq (ratios : GroupRatios) (userGroup group)
    : ratios.getUserGroupRatio userGroup group
      = (ratios.groupGroupRatio userGroup group).getD ((ratios.groupRatio group).getD 1) := by
  unfold GroupRatios.getUserGroupRatio
  cases ratios.groupGroupRatio userGroup group with
  | none | some => rfl

/-- Adding ratios changes nothing else about a price, by induction on the added ones. -/
theorem TaskPriceData.addOtherRatios_eq (price : TaskPriceData) (ratios)
    : ∃ added, price.addOtherRatios ratios = { price with otherRatios := added } := by
  unfold addOtherRatios
  generalize ratios.entries = entries
  induction entries generalizing price with
  | nil => exact ⟨price.otherRatios, rfl⟩
  | cons entry entries ih =>
    obtain ⟨added, same⟩ := ih (price.addOtherRatio entry.1 entry.2)
    refine ⟨added, ?_⟩
    rw [List.foldl_cons, same]
    unfold addOtherRatio
    split <;> rfl

theorem applyEstimate_groupRatio (modelName estimated) (price : TaskPriceData)
    : (pricing.applyEstimate modelName estimated price).1.groupRatio = price.groupRatio := by
  obtain ⟨added, same⟩ := price.addOtherRatios_eq estimated
  unfold TaskPricing.applyEstimate
  rw [same]
  split <;> rfl

theorem TaskAttempt.submitted_groups {pricing} {attempt : TaskAttempt}
    {info : TaskRelayInfo} {cfg relayInfo}
    {billing l result}
    {rest}
    (submitted : relayTaskSubmit cfg (attempt.submission pricing info).1 relayInfo billing l
      = (.ok result, rest))
    : (attempt.submission pricing info).2.routing.usingGroup = info.routing.nextUsingGroup
      ∧ (attempt.submission pricing info).2.priceData.groupRatio
        = pricing.ratios.getUserGroupRatio info.routing.userGroup info.routing.nextUsingGroup := by
  obtain ⟨notRejected, _⟩ := relayTaskSubmit_ok submitted
  unfold submission at notRejected ⊢
  split at notRejected
  · cases notRejected
  rename_i price info' priced
  obtain ⟨base, called, same, routing, stored⟩ := price_ok priced
  obtain ⟨_, _, _, ratio⟩ := priceHelperPerCall_ok called
  have kept : price.groupRatio = pricing.ratios.getUserGroupRatio info.routing.userGroup
      info.routing.nextUsingGroup := by
    rw [same, applyEstimate_groupRatio, ratio]
    rfl
  cases attempt.response with
  | error e => exact ⟨congrArg Routing.usingGroup routing, by rw [← kept, ← stored]⟩
  | ok answer => exact ⟨congrArg Routing.usingGroup routing, kept⟩

/-- The recalculation of a submitted task uses the group ratio of its billing context exactly
if the configured ratio of the requester's group for the group in use is the one that users
of the recalculated group have for their own.
-/
theorem recalculated_group_ratio_iff (cfg : TaskSettings)
    (attempt : TaskAttempt) (info : TaskRelayInfo) (relayInfo : RelayInfo)
    (billing : Option BillingSession) (l : Ledger) (userGroup : Option String) (totalTokens : ℤ)
    {result : TaskSubmitResult} {task : BilledTask} {context : TaskBillingContext}
    {recalculation : TokenRecalculation}
    (submitted : (relayTaskSubmit cfg (attempt.submission pricing info).1 relayInfo billing
      l).1 = .ok result) (inserted : (attempt.submission pricing info).2.billedTask pricing = task)
    (stored : task.billingContext = some context)
    (recalculated : recalculateTaskQuotaByTokens pricing userGroup task totalTokens
      = some recalculation)
    : recalculation.groupRatio = context.groupRatio
      ↔ RatiosAgree pricing.ratios info.routing.userGroup info.routing.nextUsingGroup
          (task.recalculationGroup userGroup) := by
  obtain ⟨_, priced⟩ := TaskAttempt.submitted_groups (Prod.ext submitted rfl)
  have contextRatio : context.groupRatio
      = (attempt.submission pricing info).2.priceData.groupRatio := by
    rw [← inserted] at stored
    cases stored
    rfl
  dsimp only [recalculateTaskQuotaByTokens] at recalculated
  split at recalculated <;> [cases recalculated; split at recalculated] <;>
    [cases recalculated; split at recalculated] <;> cases recalculated
  rw [contextRatio, priced, getUserGroupRatio_eq, getUserGroupRatio_eq, eq_comm]
  exact Iff.rfl

/-- Settings under which one model is billed by tokens, and users of the group `vip` pay half
the ratio of the group `default`.
-/
def tokenPricing : TaskPricing where
  ratios := ⟨fun _ => some 1,
    fun userGroup group => if userGroup = "vip" ∧ group = "default" then some 0.5 else none⟩
  modelPriceMap := fun _ => none
  defaultModelPrice := fun _ => none
  modelRatioMap := fun name => if name = "doubao-seedance" then some 0.2 else none
  selfUseModeEnabled := false
  quotaPerUnit := 500000
  enableFreeModelPreConsume := false
  taskPricePatches := []
  isAdmin := fun _ => false
  formatFloat := fun _ => ""

def tokenRequest (userGroup : String) : TaskRelayInfo where
  userId := 1
  originModelName := "doubao-seedance"
  routing := { tokenGroup := "default", userGroup := userGroup, usingGroup := "default" }

def videoAttempt : TaskAttempt where
  rejected := none
  adaptor := .estimating false ∅
  actionModelName := ""
  opening := tenUnitsOpening
  response := .ok ⟨"cgt-1", "", .video, none⟩

/-- A task of a user of the group in use is recalculated with the ratio it was priced with. -/
theorem recalculated_group_ratio_iff_own
    : ∃ recalculation, recalculateTaskQuotaByTokens tokenPricing none
        ((videoAttempt.submission tokenPricing (tokenRequest "default")).2.billedTask
          tokenPricing) 1000 = some recalculation
      ∧ recalculation.groupRatio
        = (videoAttempt.submission tokenPricing
          (tokenRequest "default")).2.priceData.groupRatio := by
  have submitted : (relayTaskSubmit sampleSettings
      (videoAttempt.submission tokenPricing (tokenRequest "default")).1 sampleInfo none
      tenUnits).1 = .ok ⟨"cgt-1", "", .video, 50000⟩ := by
    decide +kernel
  have recalculated : recalculateTaskQuotaByTokens tokenPricing none
      ((videoAttempt.submission tokenPricing (tokenRequest "default")).2.billedTask tokenPricing)
      1000 = some ⟨1000, 0.2, 1, 1, 200⟩ := by
    decide +kernel
  exact ⟨_, recalculated, (recalculated_group_ratio_iff tokenPricing sampleSettings videoAttempt
    (tokenRequest "default") sampleInfo none tenUnits none 1000 submitted rfl rfl
    recalculated).mpr (by decide +kernel)⟩

/-- A task priced at half the ratio of the group `default`, since its user belongs to `vip`, is
recalculated at the full ratio: a thousand tokens cost 200 and not 100.
-/
theorem recalculated_at_other_ratio
    : (relayTaskSubmit sampleSettings
          (videoAttempt.submission tokenPricing (tokenRequest "vip")).1 sampleInfo none
          tenUnits).1 = .ok ⟨"cgt-1", "", .video, 25000⟩
      ∧ (((videoAttempt.submission tokenPricing (tokenRequest "vip")).2.billedTask
          tokenPricing).billingContext.map (·.groupRatio)) = some 0.5
      ∧ (recalculateTaskQuotaByTokens tokenPricing (some "vip")
          ((videoAttempt.submission tokenPricing (tokenRequest "vip")).2.billedTask
            tokenPricing) 1000).map (·.groupRatio) = some 1
      ∧ (((videoAttempt.submission tokenPricing (tokenRequest "vip")).2.billedTask
          tokenPricing).completionQuota tokenPricing (some "vip") 0 1000).tokenQuota
        = some 200
      ∧ quotaFromFloat (1000 * 0.2 * 0.5) = 100 := by
  decide +kernel

end HelsterApi.Tasks
