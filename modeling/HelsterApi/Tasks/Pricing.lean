import HelsterApi.Net.HostPort
import HelsterApi.Relay.GroupSelection
import HelsterApi.Tasks.Submission
import Mathlib.Data.List.AList

/-! The price of an asynchronous task: the extra ratios kept beside a price, the origin task of a
remix, the price of one call, and the steps of `RelayTaskSubmit` that make a quota of them. Floating
point numbers are exact rationals.
-/

namespace HelsterApi.Tasks

open Arithmetic
open Billing (OpenOutcome containsText)
open Net
open Realtime
open Relay
open TextBilling (isValidOtherRatio startsWith endsWith)

/-- A rational is always a number. -/
inductive QuotaClampKind where
  | overflow | underflow
  deriving DecidableEq

structure QuotaClamp where
  op : String
  kind : QuotaClampKind
  original : ℚ
  clamped : ℤ

/-- `Error` of a clamp; `formatFloat` is the `%g` of the number. -/
def QuotaClamp.error (formatFloat : ℚ → String) (clamp : QuotaClamp) : String :=
  let kind := match clamp.kind with
    | .overflow => "overflow"
    | .underflow => "underflow"
  "quota conversion (" ++ clamp.op ++ ") " ++ kind ++ ": original="
    ++ formatFloat clamp.original ++ ", clamped=" ++ toString clamp.clamped

def saturateQuota (value : ℚ) (op : String) : ℤ × Option QuotaClamp :=
  if maxQuota ≤ value then (maxQuota, some ⟨op, .overflow, value, maxQuota⟩)
  else if value ≤ minQuota then (minQuota, some ⟨op, .underflow, value, minQuota⟩)
  else (truncate value, none)

def quotaFromFloatChecked (value : ℚ) : ℤ × Option QuotaClamp :=
  saturateQuota value "QuotaFromFloat"

def quotaFromFloat (value : ℚ) : ℤ := (quotaFromFloatChecked value).1

def strictQuota (converted : ℤ × Option QuotaClamp) : Except QuotaClamp ℤ :=
  match converted.2 with
  | some clamp => .error clamp
  | none => .ok converted.1

/-- The checked conversion truncates within the bounds. -/
theorem quotaFromFloat_eq (value : ℚ)
    : quotaFromFloat value = truncateWithin minQuota maxQuota value := by
  unfold quotaFromFloat quotaFromFloatChecked saturateQuota truncateWithin
  split_ifs <;> rfl

/-- A strict quota lies within the bounds. -/
theorem strictQuota_ok {value quota}
    (converted : strictQuota (quotaFromFloatChecked value) = .ok quota)
    : minQuota < quota ∧ quota < maxQuota := by
  unfold quotaFromFloatChecked saturateQuota at converted
  split at converted
  · cases converted
  rename_i below
  split at converted
  · cases converted
  rename_i above
  cases converted
  unfold truncate
  split
  next nonneg =>
    refine ⟨lt_of_lt_of_le (by decide) (Int.floor_nonneg.mpr nonneg), ?_⟩
    exact Int.floor_lt.mpr (not_le.mp below)
  next negative =>
    have notPositive := Int.ceil_le.mpr (by exact_mod_cast (not_le.mp negative).le)
    exact ⟨Int.lt_ceil.mpr (not_le.mp above), lt_of_le_of_lt notPositive (by decide)⟩

abbrev RatioMap := AList fun _ : String => ℚ

def RatioMap.product (ratios : RatioMap) : ℚ := (ratios.entries.map Sigma.snd).prod

def RatioMap.Positive (ratios : RatioMap) : Prop :=
  ∀ entry ∈ ratios.entries, 0 < entry.2
  deriving Decidable

structure TaskPriceData where
  freeModel : Bool := false
  (modelPrice modelRatio : ℚ := 0)
  otherRatios : RatioMap := ∅
  usePrice : Bool := false
  quota : ℤ := 0
  groupRatio : ℚ := 0

namespace TaskPriceData

variable (price : TaskPriceData)

def addOtherRatio (key : String) (ratio : ℚ) : TaskPriceData :=
  if isValidOtherRatio ratio then { price with otherRatios := price.otherRatios.insert key ratio }
  else price

def addOtherRatios (ratios : RatioMap) : TaskPriceData :=
  ratios.entries.foldl (fun price entry => price.addOtherRatio entry.1 entry.2) price

def replaceOtherRatios (ratios : RatioMap) : TaskPriceData × Bool :=
  let price := { price with otherRatios := ∅ }.addOtherRatios ratios
  (price, !price.otherRatios.entries.isEmpty)

def validRatios : RatioMap where
  entries := price.otherRatios.entries.filter fun entry => isValidOtherRatio entry.2
  nodupKeys := price.otherRatios.nodupKeys.sublist List.filter_sublist

def otherRatioMultiplier : ℚ :=
  price.otherRatios.entries.foldl
    (fun multiplier entry =>
      if isValidOtherRatio entry.2 ∧ entry.2 ≠ 1 then multiplier * entry.2 else multiplier)
    1

def applyOtherRatiosToFloat (value : ℚ) : ℚ := value * price.otherRatioMultiplier

def removeOtherRatiosFromFloat (value : ℚ) : ℚ :=
  price.otherRatios.entries.foldl
    (fun value entry =>
      if isValidOtherRatio entry.2 ∧ entry.2 ≠ 1 then value / entry.2 else value)
    value

def applyToQuota : TaskPriceData × Option QuotaClamp :=
  let (quota, clamp) := quotaFromFloatChecked (price.applyOtherRatiosToFloat price.quota)
  ({ price with quota }, clamp)

def recalcQuotaFromRatios (ratios : RatioMap) : Option ℤ :=
  let baseQuota := price.removeOtherRatiosFromFloat price.quota
  let (replaced, some_) := price.replaceOtherRatios ratios
  if some_ then some (quotaFromFloat (replaced.applyOtherRatiosToFloat baseQuota)) else none

/-- The price after the adjustment an adaptor makes once upstream has answered; without ratios it
stays.
-/
def adjust (adjusted : RatioMap) : TaskPriceData :=
  if adjusted.entries.isEmpty then price
  else
    match price.recalcQuotaFromRatios adjusted with
    | some quota => { (price.replaceOtherRatios adjusted).1 with quota }
    | none => price

end TaskPriceData

/-- `formatFloat` is the `%g` of a number. -/
structure TaskPricing where
  ratios : GroupRatios
  (modelPriceMap defaultModelPrice modelRatioMap : String → Option ℚ)
  selfUseModeEnabled : Bool
  quotaPerUnit : ℚ
  enableFreeModelPreConsume : Bool
  taskPricePatches : List String
  isAdmin : ℤ → Bool
  formatFloat : ℚ → String

def handleThinkingBudgetModel (name start wildcard : String) : String :=
  if startsWith name start ∧ containsText name "-thinking-" then wildcard else name

def formatMatchingModelName (name : String) : String :=
  let name :=
    if startsWith name "gemini-2.5-flash-lite" then
      handleThinkingBudgetModel name "gemini-2.5-flash-lite" "gemini-2.5-flash-lite-thinking-*"
    else if startsWith name "gemini-2.5-flash" then
      handleThinkingBudgetModel name "gemini-2.5-flash" "gemini-2.5-flash-thinking-*"
    else if startsWith name "gemini-2.5-pro" then
      handleThinkingBudgetModel name "gemini-2.5-pro" "gemini-2.5-pro-thinking-*"
    else name
  let name := if startsWith name "gpt-4-gizmo" then "gpt-4-gizmo-*" else name
  if startsWith name "gpt-4o-gizmo" then "gpt-4o-gizmo-*" else name

def compactModelSuffix : String := "-openai-compact"

def compactWildcardModelKey : String := "*" ++ compactModelSuffix

variable (pricing : TaskPricing)

def TaskPricing.getModelPrice (name : String) : Option ℚ :=
  let name := formatMatchingModelName name
  (pricing.modelPriceMap name).or
    (if endsWith name compactModelSuffix then pricing.modelPriceMap compactWildcardModelKey
      else none)

def TaskPricing.getModelRatio (name : String) : ℚ × Bool × String :=
  let name := formatMatchingModelName name
  match (pricing.modelRatioMap name).or
      (if endsWith name compactModelSuffix then pricing.modelRatioMap compactWildcardModelKey
        else none) with
  | some ratio => (ratio, true, name)
  | none => (37.5, pricing.selfUseModeEnabled, name)

def modelPriceNotConfiguredError (modelName : String) (admin : Bool) : String :=
  if admin then
    "模型 " ++ modelName
      ++ " 的价格未配置。请前往「系统设置 → 运营设置」开启自用模式，"
      ++ "或在「系统设置 → 分组与模型定价设置」中为该模型配置价格；Model "
      ++ modelName
      ++ " price not configured. Go to System Settings → Operation Settings to enable "
      ++ "self-use mode, or configure the model price in System Settings → "
      ++ "Group & Model Pricing."
  else
    "模型 " ++ modelName
      ++ " 的价格尚未由管理员配置，暂时无法使用，请联系站点管理员开启该模型；Model "
      ++ modelName
      ++ " has not been priced by the administrator yet. Please contact the site "
      ++ "administrator to enable this model."

inductive TaskAction where
  | generate
  | textGenerate
  | firstTailGenerate
  | referenceGenerate
  | remixGenerate
  | other (text : String)
  deriving DecidableEq

structure TaskRelayInfo where
  userId : ℤ
  (path videoId : String := "")
  action : TaskAction := .other ""
  (originTaskID originModelName : String := "")
  channelId : ℤ := 0
  lockedChannel : Option ℤ := none
  acceptUnsetRatioModel : Bool := false
  routing : Routing
  priceData : TaskPriceData := {}
  quotaClamp : Option QuotaClamp := none

inductive CallPrice where
  | price (modelPrice : ℚ)
  | ratio (modelRatio : ℚ)

def TaskPricing.callPrice (info : TaskRelayInfo) : Except String CallPrice :=
  match (pricing.getModelPrice info.originModelName).or
      (pricing.defaultModelPrice info.originModelName) with
  | some modelPrice => .ok (.price modelPrice)
  | none =>
    let (modelRatio, success, matchName) := pricing.getModelRatio info.originModelName
    if !success ∧ !info.acceptUnsetRatioModel then
      .error (modelPriceNotConfiguredError matchName (pricing.isAdmin info.userId))
    else .ok (.ratio modelRatio)

def TaskPricing.priceDataOf (groupRatio : ℚ)
    : CallPrice → Except QuotaClamp TaskPriceData
  | .price modelPrice =>
    (strictQuota (quotaFromFloatChecked
        (modelPrice * pricing.quotaPerUnit * groupRatio))).map fun quota =>
      let freeModel := !pricing.enableFreeModelPreConsume
        ∧ (groupRatio = 0 ∨ modelPrice = 0)
      { freeModel, modelPrice, usePrice := true, quota := if freeModel then 0 else quota
        groupRatio }
  | .ratio modelRatio =>
    (strictQuota (quotaFromFloatChecked
        (modelRatio / 2 * pricing.quotaPerUnit * groupRatio))).map fun quota =>
      let freeModel := !pricing.enableFreeModelPreConsume
        ∧ (groupRatio = 0 ∨ modelRatio = 0)
      { freeModel, modelPrice := -1, modelRatio, quota := if freeModel then 0 else quota
        groupRatio }

/-- With the groups as `HandleGroupRatio` leaves them. -/
def modelPriceHelperPerCall (info : TaskRelayInfo) : Except String TaskPriceData × Routing :=
  let (groupRatio, routing) := handleGroupRatio pricing.ratios info.routing
  (do
      let callPrice ← pricing.callPrice info
      (pricing.priceDataOf groupRatio callPrice).mapError (·.error pricing.formatFloat),
    routing)

structure TaskBillingContext where
  (modelPrice groupRatio modelRatio : ℚ := 0)
  otherRatios : RatioMap := ∅
  originModelName : String := ""
  perCallBilling : Bool := false

/-- The texts a remix takes from the data of its origin; one that is missing or of another type is
empty.
-/
structure OriginData where
  (model seconds size : String := "")

structure OriginTask where
  channelId : ℤ
  (originModelName upstreamModelName : String := "")
  data : OriginData := {}
  billingContext : Option TaskBillingContext := none

/-- What `ResolveOriginTask` reads: tasks of a user, whether a channel is enabled, and its next key,
or the text and the status of why there is none.
-/
structure OriginReads where
  getByTaskId : ℤ → String → Except String (Option OriginTask)
  channelEnabled : ℤ → Except String Bool
  getNextEnabledKey : ℤ → Except (String × ℤ) String

/-- With the text as it is after sensitive parts were masked. -/
def taskErrorWrapper (text code : String) (statusCode : ℤ) : TaskError :=
  ⟨code, text, statusCode, false⟩

def maxTaskDurationSeconds : ℤ := 3600

def OriginTask.modelName (origin : OriginTask) : String :=
  if origin.originModelName ≠ "" then origin.originModelName
  else if origin.upstreamModelName ≠ "" then origin.upstreamModelName
  else origin.data.model

def largeSize (size : String) : Bool := size = "1792x1024" ∨ size = "1024x1792"

def OriginData.addRatios (data : OriginData) (price : TaskPriceData) : TaskPriceData :=
  let seconds := atoiValue data.seconds
  let seconds := if seconds ≤ 0 then 4 else seconds
  let seconds := if maxTaskDurationSeconds < seconds then maxTaskDurationSeconds else seconds
  let price := (price.addOtherRatio "seconds" seconds).addOtherRatio "size" 1
  if largeSize data.size then price.addOtherRatio "size" 1.666667 else price

def OriginTask.addRatios (origin : OriginTask) (price : TaskPriceData) : TaskPriceData :=
  match origin.billingContext with
  | some context => price.addOtherRatios context.otherRatios
  | none => origin.data.addRatios price

def TaskRelayInfo.remixPath (info : TaskRelayInfo) : Bool :=
  containsText info.path "/v1/videos/" && endsWith info.path "/remix"

variable (reads : OriginReads)

def OriginReads.takeKey (info : TaskRelayInfo) (origin : OriginTask) : Except TaskError Unit :=
  if origin.channelId ≠ info.channelId then
    ((reads.getNextEnabledKey origin.channelId).mapError fun (text, statusCode) =>
      taskErrorWrapper text "channel_no_available_key" statusCode).map fun _ => ()
  else .ok ()

def TaskRelayInfo.adoptOrigin (info : TaskRelayInfo) (origin : OriginTask)
    : Except TaskError TaskRelayInfo := do
  let enabled ← (reads.channelEnabled origin.channelId).mapError
    (taskErrorWrapperLocal · "channel_not_found" 400)
  if !enabled then
    .error (taskErrorWrapperLocal "the channel of the origin task is disabled"
      "task_channel_disable" 400)
  else do
    let _ ← reads.takeKey info origin
    .ok { info with
      originModelName :=
        if info.originModelName = "" then origin.modelName else info.originModelName
      channelId := origin.channelId
      lockedChannel := some origin.channelId
      priceData :=
        if info.action = .remixGenerate then origin.addRatios info.priceData
        else info.priceData }

def resolveOriginTask (info : TaskRelayInfo) : Except TaskError TaskRelayInfo :=
  let info := if info.remixPath then { info with action := .remixGenerate } else info
  if info.action = .remixGenerate ∧ Text.trimSpace info.videoId = [] then
    .error (taskErrorWrapperLocal "video_id is required" "invalid_request" 400)
  else
    let info :=
      if info.action = .remixGenerate then { info with originTaskID := info.videoId } else info
    if info.originTaskID = "" then .ok info
    else
      match reads.getByTaskId info.userId info.originTaskID with
      | .error text => .error (taskErrorWrapper text "get_origin_task_failed" 500)
      | .ok none => .error (taskErrorWrapperLocal "task_origin_not_exist" "task_not_exist" 400)
      | .ok (some origin) => info.adoptOrigin reads origin

structure TaskSubmitReq where
  seconds : String := ""
  duration : ℤ := 0
  size : String := ""
  hasImage : Bool := false

/-- The task adaptors, by how they set the action of a request and which ratios they estimate: Sora;
those without an estimate of their own, with the action they set; and those that estimate ratios
from the request, which set an action of a generation.
-/
inductive TaskAdaptor where
  | sora (request : TaskSubmitReq)
  | plain (action : TaskAction)
  | estimating (hasImage : Bool) (ratios : RatioMap)

def generateAction (hasImage : Bool) : TaskAction :=
  if hasImage then .generate else .textGenerate

def TaskAdaptor.setAction (adaptor : TaskAdaptor) (action : TaskAction) : TaskAction :=
  match adaptor with
  | .sora request =>
    if action = .remixGenerate then .remixGenerate else generateAction request.hasImage
  | .plain action => action
  | .estimating hasImage _ => generateAction hasImage

def TaskSubmitReq.ratios (request : TaskSubmitReq) : RatioMap :=
  let seconds := atoiValue request.seconds
  let seconds := if seconds = 0 then request.duration else seconds
  let seconds := if seconds ≤ 0 then 4 else seconds
  let ratios : RatioMap := AList.insert "size" 1 (AList.singleton "seconds" (seconds : ℚ))
  if largeSize request.size then ratios.insert "size" 1.666667 else ratios

def TaskAdaptor.estimateBilling (adaptor : TaskAdaptor) (action : TaskAction) : RatioMap :=
  match adaptor with
  | .sora request => if action = .remixGenerate then ∅ else request.ratios
  | .plain _ => ∅
  | .estimating _ ratios => ratios

/-- Every adaptor embeds the one that adjusts nothing. -/
def TaskAdaptor.adjustBillingOnSubmit (_ : TaskAdaptor) : RatioMap := ∅

/-- What one attempt meets: an error of finding the adaptor, validating the request or mapping the
model; the adaptor; the model name of its action; how a pre-consume comes out; and the answer of
upstream.
-/
structure TaskAttempt where
  rejected : Option TaskError
  adaptor : TaskAdaptor
  actionModelName : String
  opening : OpenOutcome
  response : Except TaskError Accepted

/-- Steps 1 and 2 of `RelayTaskSubmit`. -/
def TaskAttempt.prepare (attempt : TaskAttempt) (info : TaskRelayInfo) : TaskRelayInfo :=
  { info with
    action := attempt.adaptor.setAction info.action
    originModelName :=
      if info.originModelName = "" then attempt.actionModelName else info.originModelName }

/-- Steps 5 and 6 of `RelayTaskSubmit`: the estimated ratios are added, and applied unless the model
is patched.
-/
def TaskPricing.applyEstimate (modelName : String) (estimated : RatioMap) (price : TaskPriceData)
    : TaskPriceData × Option QuotaClamp :=
  let price := price.addOtherRatios estimated
  if modelName ∈ pricing.taskPricePatches then (price, none) else price.applyToQuota

/-- Steps 1 to 6 of `RelayTaskSubmit`. -/
def TaskAttempt.price (attempt : TaskAttempt) (info : TaskRelayInfo)
    : Except TaskError TaskPriceData × TaskRelayInfo :=
  match attempt.rejected with
  | some e => (.error e, info)
  | none =>
    let info := attempt.prepare info
    match modelPriceHelperPerCall pricing info with
    | (.error text, routing) =>
      (.error (taskErrorWrapper text "model_price_error" 400), { info with routing })
    | (.ok price, routing) =>
      -- the price data is replaced, with whatever ratios it had
      let (priceData, clamp) := pricing.applyEstimate info.originModelName
        (attempt.adaptor.estimateBilling info.action) price
      (.ok priceData, { info with
        routing, priceData, quotaClamp := info.quotaClamp.or clamp })

/-- What `relayTaskSubmit` meets in an attempt, and the information after it. -/
def TaskAttempt.submission (attempt : TaskAttempt) (info : TaskRelayInfo)
    : Submission × TaskRelayInfo :=
  match attempt.price pricing info with
  | (.error e, info) =>
    ({ rejected := some e, quota := 0, freeModel := false, quotaClamp := none
       opening := attempt.opening, response := attempt.response }, info)
  | (.ok price, info) =>
    let adjusted := attempt.adaptor.adjustBillingOnSubmit
    ({ rejected := none
       quota := price.quota
       freeModel := price.freeModel
       quotaClamp := info.quotaClamp.map (·.error pricing.formatFloat)
       opening := attempt.opening
       response := attempt.response.map fun answer =>
         { answer with
           adjustedQuota :=
             if adjusted.entries.isEmpty then none
             else price.recalcQuotaFromRatios adjusted } },
      match attempt.response with
      | .error _ => info
      | .ok _ => { info with priceData := price.adjust adjusted })

def TaskRelayInfo.after (earlier : List TaskAttempt) (info : TaskRelayInfo)
    : TaskRelayInfo := earlier.foldl (fun info attempt => (attempt.submission pricing info).2) info

end HelsterApi.Tasks
