import HelsterApi.Realtime.Pricing
import HelsterApi.TextBilling.Usage

/-! The quota of a text request: the weighted tokens of its usage or its model's fixed price, and
the surcharge of its tool calls, rounded once. Decimals are exact rationals.
-/

namespace HelsterApi.TextBilling

open Arithmetic Realtime

structure PriceData where
  (modelPrice modelRatio completionRatio cacheRatio cacheCreationRatio : ℚ := 0)
  (cacheCreation5mRatio cacheCreation1hRatio imageRatio : ℚ := 0)
  otherRatios : List (String × ℚ) := []
  usePrice : Bool := false
  groupRatio : ℚ := 0

def isValidOtherRatio (ratio : ℚ) : Bool := ratio > 0

def PriceData.applyOtherRatiosToDecimal (price : PriceData) (value : ℚ) : ℚ :=
  price.otherRatios.foldl
    (fun value entry =>
      if isValidOtherRatio entry.2 ∧ entry.2 ≠ 1 then value * entry.2 else value)
    value

def PriceData.ratio (price : PriceData) : ℚ := price.modelRatio * price.groupRatio

def getGPTImage1PriceOnceCall (quality size : String) : ℚ :=
  if quality = "low" ∧ size = "1024x1024" then 0.011
  else if quality = "low" ∧ (size = "1024x1536" ∨ size = "1536x1024") then 0.016
  else if quality = "medium" ∧ size = "1024x1024" then 0.042
  else if quality = "medium" ∧ (size = "1024x1536" ∨ size = "1536x1024") then 0.063
  else if quality = "high" ∧ size = "1024x1024" then 0.167
  else if quality = "high" ∧ (size = "1024x1536" ∨ size = "1536x1024") then 0.25
  else 0.167

def startsWith (modelName start : String) : Bool := start.toList.isPrefixOf modelName.toList

def endsWith (modelName ending : String) : Bool := ending.toList.isSuffixOf modelName.toList

def getGeminiInputAudioPricePerMillionTokens (modelName : String) : ℚ :=
  if startsWith modelName "gemini-2.5-flash-preview-native-audio" then 3
  else if startsWith modelName "gemini-2.5-flash-preview-lite" then 0.5
  else if startsWith modelName "gemini-2.5-flash-preview" then 1
  else if startsWith modelName "gemini-2.5-flash" then 1
  else if startsWith modelName "gemini-2.0-flash" then 0.7
  else if startsWith modelName "gemini-robotics-er-1.5" then 1
  else 0

/-- Settings of the installation: the quota of a unit of money, the price of a thousand tool calls
by a model, and the built-in model ratios.
-/
structure Settings where
  quotaPerUnit : ℚ
  toolPrice : String → String → ℚ
  defaultModelRatio : String → Option ℚ

structure BuiltInTools where
  (webSearchPreview fileSearch : Option ℤ := none)

structure TextRelay where
  originModelName : String := ""
  priceData : PriceData := {}
  estimatePromptTokens : ℤ := 0
  (claudeFormat openRouter : Bool := false)
  responsesTools : Option BuiltInTools := none
  claudeWebSearchRequests : ℤ := 0
  imageGenerationCall : Option (String × String) := none

def TextRelay.unit (relay : TextRelay) (settings : Settings) : ℚ :=
  relay.priceData.groupRatio * settings.quotaPerUnit

variable (settings : Settings)

def webSearchSurcharge (relay : TextRelay) : ℚ :=
  let price := settings.toolPrice "web_search_preview" relay.originModelName
  match relay.responsesTools with
  | some tools =>
    match tools.webSearchPreview with
    | some callCount => if callCount > 0 then price * callCount / 1000 * relay.unit settings else 0
    | none => 0
  | none =>
    if endsWith relay.originModelName "search-preview" then price / 1000 * relay.unit settings
    else 0

def claudeWebSearchSurcharge (relay : TextRelay) : ℚ :=
  if relay.claudeWebSearchRequests > 0 then
    settings.toolPrice "web_search" "" / 1000 * relay.unit settings
      * relay.claudeWebSearchRequests
  else 0

def fileSearchSurcharge (relay : TextRelay) : ℚ :=
  match relay.responsesTools.bind BuiltInTools.fileSearch with
  | some callCount =>
    if callCount > 0 then
      settings.toolPrice "file_search" "" * callCount / 1000 * relay.unit settings
    else 0
  | none => 0

def imageGenerationSurcharge (relay : TextRelay) : ℚ :=
  match relay.imageGenerationCall with
  | some (quality, size) => getGPTImage1PriceOnceCall quality size * relay.unit settings
  | none => 0

def calculateTextToolCallSurcharge (relay : TextRelay) : ℚ :=
  webSearchSurcharge settings relay + claudeWebSearchSurcharge settings relay
    + fileSearchSurcharge settings relay + imageGenerationSurcharge settings relay

structure TextQuotaSummary where
  (promptTokens completionTokens totalTokens cacheTokens cacheCreationTokens : ℤ)
  (cacheCreationTokens5m cacheCreationTokens1h imageTokens audioTokens : ℤ)
  isClaudeUsageSemantic : Bool
  toolCallSurchargeQuota : ℚ
  quota : ℤ

def usageSemanticFromUsage (relay : TextRelay) (usage : Option Usage) : String :=
  match usage with
  | some usage =>
    if usage.usageSemantic ≠ "" then usage.usageSemantic
    else if relay.claudeFormat then "anthropic" else "openai"
  | none => if relay.claudeFormat then "anthropic" else "openai"

def isLegacyClaudeDerivedOpenAIUsage (relay : TextRelay) (usage : Usage) : Bool :=
  !relay.claudeFormat && usage.usageSource = "" && usage.usageSemantic = ""
  && (usage.claudeCacheCreation5mTokens > 0 || usage.claudeCacheCreation1hTokens > 0)

def hasCustomModelRatio (modelName : String) (currentRatio : ℚ) : Bool :=
  match settings.defaultModelRatio modelName with
  | none => true
  | some defaultRatio => currentRatio ≠ defaultRatio

def calcOpenRouterCacheCreateTokens (usage : Usage) (price : PriceData) : ℤ :=
  if price.cacheCreationRatio = 1 then 0
  else
    let quotaPrice := price.modelRatio / settings.quotaPerUnit
    roundHalfAway
      ((usage.cost.getD 0 - usage.promptTokens * quotaPrice
          + usage.promptTokensDetails.cachedTokens
            * (quotaPrice - quotaPrice * price.cacheRatio)
          - usage.completionTokens * (quotaPrice * price.completionRatio))
        / (quotaPrice * price.cacheCreationRatio - quotaPrice))

/-- The counts that a usage is billed by. OpenRouter reports cached and cache-writing tokens within
the prompt and may leave the latter to be found from the cost. The cost read from a response is
never the integer zero the source compares it with.
-/
def TextQuotaSummary.ofUsage (relay : TextRelay) (usage : Usage) (isClaudeUsageSemantic : Bool)
    : TextQuotaSummary :=
  let price := relay.priceData
  let details := usage.promptTokensDetails
  let byCost := price.cacheCreationRatio ≠ 1
    ∧ ¬(price.usePrice ∨ hasCustomModelRatio settings relay.originModelName price.modelRatio)
  let uncached := usage.promptTokens - details.cachedTokens
  let found := calcOpenRouterCacheCreateTokens settings usage price
  let cacheCreationTokens :=
    if relay.openRouter ∧ isClaudeUsageSemantic ∧ details.cacheCreationTokensTotal = 0
        ∧ byCost ∧ 0 ≤ found ∧ found ≤ uncached then
      found
    else details.cacheCreationTokensTotal
  { promptTokens :=
      if relay.openRouter ∧ isClaudeUsageSemantic then uncached - cacheCreationTokens
      else usage.promptTokens
    completionTokens := usage.completionTokens
    totalTokens := usage.promptTokens + usage.completionTokens
    cacheTokens := details.cachedTokens
    cacheCreationTokens
    cacheCreationTokens5m := usage.claudeCacheCreation5mTokens
    cacheCreationTokens1h := usage.claudeCacheCreation1hTokens
    imageTokens := details.imageTokens
    audioTokens := details.audioTokens
    isClaudeUsageSemantic
    toolCallSurchargeQuota := calculateTextToolCallSurcharge settings relay
    quota := 0 }

variable (summary : TextQuotaSummary)

def TextQuotaSummary.writesCache : Prop :=
  summary.cacheCreationTokens ≠ 0
  ∨ summary.cacheCreationTokens5m > 0 ∨ summary.cacheCreationTokens1h > 0
  deriving Decidable

namespace TextQuotaSummary

/-- The tokens that the prompt ratio applies to: the prompt without what is priced apart.
A Claude usage counts cached tokens (`apart`) outside the prompt. Overlapping counts never
make the base negative.
-/
def baseTokens (apart : Bool) (audioPrice : ℚ) : ℚ :=
  let base : ℚ := summary.promptTokens
  let base := if summary.cacheTokens ≠ 0 ∧ !apart then base - summary.cacheTokens else base
  let base :=
    if summary.writesCache ∧ !apart then base - summary.cacheCreationTokens else base
  let base := if summary.imageTokens ≠ 0 then base - summary.imageTokens else base
  let base :=
    if summary.audioTokens ≠ 0 ∧ audioPrice > 0 then base - summary.audioTokens else base
  if base < 0 then 0 else base

def cachedCreationTokensWithRatio (price : PriceData) (apart : Bool) : ℚ :=
  if summary.writesCache then
    if apart then
      let remaining := summary.cacheCreationTokens - summary.cacheCreationTokens5m
        - summary.cacheCreationTokens1h
      (if remaining < 0 then 0 else remaining : ℤ) * price.cacheCreationRatio
        + summary.cacheCreationTokens5m * price.cacheCreation5mRatio
        + summary.cacheCreationTokens1h * price.cacheCreation1hRatio
    else summary.cacheCreationTokens * price.cacheCreationRatio
  else 0

def audioInputQuota (unit audioPrice : ℚ) : ℚ :=
  if summary.audioTokens ≠ 0 ∧ audioPrice > 0 then audioPrice / 1000000 * summary.audioTokens * unit
  else 0

def weightedTokens (price : PriceData) (apart : Bool) (audioPrice : ℚ) : ℚ :=
  summary.baseTokens apart audioPrice
    + summary.cacheTokens * price.cacheRatio
    + summary.imageTokens * price.imageRatio
    + summary.cachedCreationTokensWithRatio price apart
    + summary.completionTokens * price.completionRatio

def ratioPrice (settings : Settings) (relay : TextRelay) (apart : Bool) : ℚ :=
  let audioPrice := getGeminiInputAudioPricePerMillionTokens relay.originModelName
  relay.priceData.applyOtherRatiosToDecimal
    (summary.weightedTokens relay.priceData apart audioPrice * relay.priceData.ratio
      + summary.toolCallSurchargeQuota
      + summary.audioInputQuota (relay.unit settings) audioPrice)

def fixedPrice (settings : Settings) (relay : TextRelay) : ℚ :=
  relay.priceData.applyOtherRatiosToDecimal
    (relay.priceData.modelPrice * settings.quotaPerUnit * relay.priceData.groupRatio
      + summary.toolCallSurchargeQuota)

def decimal (settings : Settings) (relay : TextRelay) (apart : Bool) : ℚ :=
  if relay.priceData.usePrice then summary.fixedPrice settings relay
  else if relay.priceData.ratio ≠ 0 ∧ summary.ratioPrice settings relay apart ≤ 0 then 1
  else summary.ratioPrice settings relay apart

end TextQuotaSummary

/-- Nothing is charged for a usage without tokens, and something for every other one unless a
ratio is zero.
-/
def chargedQuota (totalTokens : ℤ) (ratio decimal : ℚ) : ℤ :=
  if totalTokens = 0 then 0
  else if ratio ≠ 0 ∧ quotaFromDecimal decimal = 0 then 1
  else quotaFromDecimal decimal

/-- The clamp it also notes is only logged. -/
def calculateTextQuotaSummary (relay : TextRelay) (usage : Option Usage) : TextQuotaSummary :=
  let isClaudeUsageSemantic := usageSemanticFromUsage relay usage = "anthropic"
  let usage := usage.getD
    { promptTokens := relay.estimatePromptTokens, totalTokens := relay.estimatePromptTokens }
  let summary := TextQuotaSummary.ofUsage settings relay usage isClaudeUsageSemantic
  let apart := isClaudeUsageSemantic || isLegacyClaudeDerivedOpenAIUsage relay usage
  { summary with
    quota := chargedQuota summary.totalTokens relay.priceData.ratio
      (summary.decimal settings relay apart) }

end HelsterApi.TextBilling
