import HelsterApi.TextBilling.QuotaBounds

/-! Settlement of a text request: its quota, which a tiered expression may replace, goes to the
billing session, to the used quota of user and channel and to the log. The engine that evaluates
expressions is a parameter. An expression uses the group ratio of its snapshot, all else the one
beside the price.
-/

namespace HelsterApi.TextBilling

open Arithmetic Realtime

section

open Option List

structure BillingSnapshot where
  (billingMode exprString : String := "")
  groupRatio : ℚ := 0
  estimatedQuotaAfterGroup : ℤ := 0
  quotaPerUnit : ℚ := 0

structure TokenParams where
  (p c len cr cc cc1h img imgO ai ao : ℚ)

/-- Counts that an expression prices through a variable of their own are taken off the totals. -/
def buildTieredTokenParams (usage : Usage) (isClaudeUsageSemantic : Bool) (usedVars : String → Bool)
    : TokenParams :=
  let cr : ℚ := usage.promptTokensDetails.cachedTokens
  let anthropic := usage.usageSemantic = "anthropic"
  let cc5m : ℚ :=
    if anthropic then usage.claudeCacheCreation5mTokens
    else usage.promptTokensDetails.cacheCreationTokensTotal
  let cc1h : ℚ := if anthropic then usage.claudeCacheCreation1hTokens else 0
  let img : ℚ := usage.promptTokensDetails.imageTokens
  let ai : ℚ := usage.promptTokensDetails.audioTokens
  let imgO : ℚ := usage.completionTokenDetails.imageTokens
  let ao : ℚ := usage.completionTokenDetails.audioTokens
  let used (name : String) (tokens : ℚ) : ℚ :=
    if !isClaudeUsageSemantic && usedVars name then tokens else 0
  let p := usage.promptTokens - used "cr" cr - used "cc" cc5m - used "cc1h" cc1h
    - used "img" img - used "ai" ai
  let c := usage.completionTokens - used "img_o" imgO - used "ao" ao
  { p := if p < 0 then 0 else p
    c := if c < 0 then 0 else c
    len :=
      if isClaudeUsageSemantic then usage.promptTokens + cr + cc5m + cc1h
      else usage.promptTokens
    cr, cc := cc5m, cc1h, img, imgO, ai, ao }

/-- The engine of billing expressions: the variables an expression uses, and its value for a
request, `none` if it fails.
-/
structure ExprEngine where
  usedVars : String → String → Bool
  run : String → TokenParams → Option ℚ

/-- `TieredResult`, without the tier that only the log shows. -/
structure TieredResult where
  actualQuotaBeforeGroup : ℚ
  actualQuotaAfterGroup : ℤ

/-- `QuotaRound` rounds like `QuotaFromDecimal`. -/
def computeTieredQuotaWithRequest (engine : ExprEngine) (snap : BillingSnapshot)
    (params : TokenParams)
    : Option TieredResult :=
  (engine.run snap.exprString params).map fun cost =>
    let quotaBeforeGroup := cost / 1000000 * snap.quotaPerUnit
    ⟨quotaBeforeGroup, quotaFromDecimal (quotaBeforeGroup * snap.groupRatio)⟩

structure SettleInfo extends TextRelay where
  tieredBillingSnapshot : Option BillingSnapshot := none
  finalPreConsumedQuota : ℤ := 0
  (hasBillingSession logConsumeEnabled : Bool := true)

def SettleInfo.tieredSnapshot (info : SettleInfo) : Option BillingSnapshot :=
  info.tieredBillingSnapshot.filter fun snap => snap.billingMode = "tiered_expr"

/-- If the expression fails the pre-consumed quota is kept, or the estimate where there is none. -/
def tryTieredSettle (engine : ExprEngine) (info : SettleInfo) (params : TokenParams)
    : Option (ℤ × Option TieredResult) :=
  info.tieredSnapshot.map fun snap =>
    match computeTieredQuotaWithRequest engine snap params with
    | some result => (result.actualQuotaAfterGroup, some result)
    | none =>
      (if info.finalPreConsumedQuota ≤ 0 then snap.estimatedQuotaAfterGroup
        else info.finalPreConsumedQuota, none)

def composeTieredTextQuota (info : SettleInfo) (summary : TextQuotaSummary)
    (tieredQuota : ℤ) (tieredResult : Option TieredResult)
    : ℤ :=
  if summary.toolCallSurchargeQuota = 0 then tieredQuota
  else
    match tieredResult, info.tieredBillingSnapshot with
    | some result, some snap =>
      quotaFromDecimal (result.actualQuotaBeforeGroup * snap.groupRatio
        + summary.toolCallSurchargeQuota)
    | _, _ => quotaFromDecimal (tieredQuota + summary.toolCallSurchargeQuota)

/-- What `SettleBilling` does: settle the session at an amount, adjust what was
pre-consumed, or nothing.
-/
inductive SettleCall where
  | settleSession (actualQuota : ℤ)
  | postConsume (quotaDelta : ℤ)
  | nothing

def settleBilling (info : SettleInfo) (actualQuota : ℤ) : SettleCall :=
  if info.hasBillingSession then .settleSession actualQuota
  else if actualQuota - info.finalPreConsumedQuota ≠ 0 then
    .postConsume (actualQuota - info.finalPreConsumedQuota)
  else .nothing

def SettleCall.amount (preConsumed : ℤ) : SettleCall → ℤ
  | .settleSession actualQuota => actualQuota
  | .postConsume quotaDelta => preConsumed + quotaDelta
  | .nothing => preConsumed

/-- The writes of a settlement: what is added to the used quota of user and channel (`none` where
they are not updated), the settle call and the quotas of the log rows.
-/
structure Settlement where
  (userUsedQuota channelUsedQuota : Option ℤ)
  settle : SettleCall
  consumeLog : List ℤ

def settledSummary (settings : Settings) (engine : ExprEngine) (info : SettleInfo)
    (usage : Option Usage)
    : TextQuotaSummary :=
  let billingUsage := usage.map effectiveBillingUsage
  let summary := calculateTextQuotaSummary settings info.toTextRelay billingUsage
  let usedVars :=
    engine.usedVars ((info.tieredBillingSnapshot.map BillingSnapshot.exprString).getD "")
  match billingUsage.bind fun usage => tryTieredSettle engine info
      (buildTieredTokenParams usage summary.isClaudeUsageSemantic usedVars) with
  | some (tieredQuota, tieredResult) =>
    { summary with quota := composeTieredTextQuota info summary tieredQuota tieredResult }
  | none => summary

def postTextConsumeQuota (settings : Settings) (engine : ExprEngine) (info : SettleInfo)
    (usage : Option Usage)
    : Settlement :=
  let summary := settledSummary settings engine info usage
  { userUsedQuota := if summary.totalTokens = 0 then none else some summary.quota
    channelUsedQuota := if summary.totalTokens = 0 then none else some summary.quota
    settle := settleBilling info summary.quota
    consumeLog := if info.logConsumeEnabled then [summary.quota] else [] }

/-- The amount settled is the amount added to the used quotas and the amount of every log row. -/
def Settlement.SameAmount (settlement : Settlement) (preConsumed : ℤ) : Prop :=
  let amount := settlement.settle.amount preConsumed
  settlement.userUsedQuota.getD 0 = amount ∧ settlement.channelUsedQuota.getD 0 = amount
  ∧ ∀ row ∈ settlement.consumeLog, row = amount
  deriving Decidable

theorem settleBilling_amount (info : SettleInfo) (actualQuota)
    : (settleBilling info actualQuota).amount info.finalPreConsumedQuota = actualQuota := by
  unfold settleBilling
  split_ifs with session changed
  · rfl
  · exact add_sub_cancel _ _
  · exact (sub_eq_zero.mp (not_not.mp changed)).symm

/-- What an expression and the tool calls of a request amount to before rounding: the value at the
frozen ratio, or the fallback if it fails, and the surcharge.
-/
def tieredCharge (settings : Settings) (engine : ExprEngine) (info : SettleInfo)
    (snap : BillingSnapshot) (params : TokenParams)
    : ℚ :=
  (match engine.run snap.exprString params with
    | some cost => cost / 1000000 * snap.quotaPerUnit * snap.groupRatio
    | none =>
      if info.finalPreConsumedQuota ≤ 0 then snap.estimatedQuotaAfterGroup
      else info.finalPreConsumedQuota)
  + calculateTextToolCallSurcharge settings info.toTextRelay

theorem abs_intCast_lt_half_iff {n : ℤ} : |(n : ℚ)| < 1 / 2 ↔ n = 0 := by
  constructor
  · intro below
    have small : |n| < 1 := by
      have : (|n| : ℚ) < 1 := lt_trans below (by norm_num)
      exact_mod_cast this
    exact Int.abs_lt_one_iff.mp small
  · rintro rfl
    norm_num

variable {settings : Settings} {engine : ExprEngine} {info : SettleInfo}

variable {tieredQuota : ℤ} {tieredResult : Option TieredResult}

theorem composeTieredQuota_eq_zero_iff {snap params}
    {summary : TextQuotaSummary} (tiered : info.tieredSnapshot = some snap)
    (surcharge : summary.toolCallSurchargeQuota
      = calculateTextToolCallSurcharge settings info.toTextRelay)
    (settled : tryTieredSettle engine info params = some (tieredQuota, tieredResult))
    : composeTieredTextQuota info summary tieredQuota tieredResult = 0
      ↔ |tieredCharge settings engine info snap params| < 1 / 2 := by
  have snapshot := (filter_eq_some_iff.mp tiered).1
  rw [tryTieredSettle, tiered, map_some, some.injEq] at settled
  unfold composeTieredTextQuota tieredCharge
  rw [← surcharge]
  cases ran : engine.run snap.exprString params with
  | some cost =>
    simp only [computeTieredQuotaWithRequest, ran, map_some, Prod.mk.injEq] at settled
    obtain ⟨rfl, rfl⟩ := settled
    split
    next free => simp only [free, add_zero, quotaFromDecimal_eq_zero_iff_abs]
    · simp only [snapshot, quotaFromDecimal_eq_zero_iff_abs]
  | none =>
    simp only [computeTieredQuotaWithRequest, ran, map_none, Prod.mk.injEq] at settled
    obtain ⟨rfl, rfl⟩ := settled
    split
    next free => rw [free, add_zero, ← abs_intCast_lt_half_iff, apply_ite (Int.cast (R := ℚ))]
    · simp only [quotaFromDecimal_eq_zero_iff_abs, apply_ite (Int.cast (R := ℚ))]

def tieredParams (engine : ExprEngine) (info : SettleInfo) (billingUsage : Usage) : TokenParams :=
  buildTieredTokenParams billingUsage
    (usageSemanticFromUsage info.toTextRelay (some billingUsage) = "anthropic")
    (engine.usedVars ((info.tieredBillingSnapshot.map BillingSnapshot.exprString).getD ""))

/-- A request billed by an expression reports no prompt and completion tokens, but amounts to at
least half a unit.
-/
def ChargesWithoutTokens (settings : Settings) (engine : ExprEngine) (info : SettleInfo)
    (usage : Option Usage)
    : Prop :=
  ∃ reported ∈ usage, ∃ snap ∈ info.tieredSnapshot,
    (effectiveBillingUsage reported).promptTokens
        + (effectiveBillingUsage reported).completionTokens = 0
    ∧ 1 / 2 ≤ |tieredCharge settings engine info snap
        (tieredParams engine info (effectiveBillingUsage reported))|

theorem settledSummary_totalTokens (usage : Option Usage)
    : (settledSummary settings engine info usage).totalTokens
      = (calculateTextQuotaSummary settings info.toTextRelay
          (usage.map effectiveBillingUsage)).totalTokens := by
  dsimp only [settledSummary]
  split <;> rfl

theorem postTextConsumeQuota_sameAmount_iff (usage)
    : (postTextConsumeQuota settings engine info usage).SameAmount info.finalPreConsumedQuota
      ↔ (settledSummary settings engine info usage).totalTokens ≠ 0
        ∨ (settledSummary settings engine info usage).quota = 0 := by
  simp only [Settlement.SameAmount, postTextConsumeQuota, settleBilling_amount]
  by_cases empty : (settledSummary settings engine info usage).totalTokens = 0
  · simp only [empty, if_true, getD_none, ne_eq, not_true_eq_false, false_or]
    constructor
    · rintro ⟨same, _⟩
      exact same.symm
    · intro zero
      refine ⟨zero.symm, zero.symm, fun row member => ?_⟩
      split at member
      · exact mem_singleton.mp member
      · exact absurd member not_mem_nil
  · simp only [empty, if_false, getD_some, true_and, ne_eq, not_false_eq_true, true_or, iff_true]
    intro row member
    split at member
    · exact mem_singleton.mp member
    · exact absurd member not_mem_nil

theorem settledSummary_quota_of_tiered {reported} (settled : tryTieredSettle engine info
        (tieredParams engine info (effectiveBillingUsage reported))
      = some (tieredQuota, tieredResult))
    : (settledSummary settings engine info (some reported)).quota
      = composeTieredTextQuota info (calculateTextQuotaSummary settings info.toTextRelay
          (some (effectiveBillingUsage reported))) tieredQuota tieredResult := by
  have settledFrom : tryTieredSettle engine info
      (buildTieredTokenParams (effectiveBillingUsage reported)
        (calculateTextQuotaSummary settings info.toTextRelay
          (some (effectiveBillingUsage reported))).isClaudeUsageSemantic
        (engine.usedVars
          ((info.tieredBillingSnapshot.map BillingSnapshot.exprString).getD "")))
      = some (tieredQuota, tieredResult) := settled
  simp [settledSummary, settledFrom]

theorem settledSummary_quota_of_empty {usage}
    (empty : (settledSummary settings engine info usage).totalTokens = 0)
    : (settledSummary settings engine info usage).quota = 0
      ↔ ¬ChargesWithoutTokens settings engine info usage := by
  rw [settledSummary_totalTokens] at empty
  have plain : (calculateTextQuotaSummary settings info.toTextRelay
      (usage.map effectiveBillingUsage)).quota = 0 := if_pos empty
  cases usage with
  | none =>
    refine iff_of_true plain ?_
    rintro ⟨reported, absent, _⟩
    cases absent
  | some reported =>
    cases tiered : info.tieredSnapshot with
    | none =>
      have untouched : (settledSummary settings engine info (some reported)).quota
          = (calculateTextQuotaSummary settings info.toTextRelay
              (some (effectiveBillingUsage reported))).quota := by
        simp [settledSummary, tryTieredSettle, tiered]
      refine iff_of_true (untouched.trans plain) ?_
      rintro ⟨_, _, snap, found, _⟩
      simp [tiered] at found
    | some snap =>
      obtain ⟨⟨tieredQuota, tieredResult⟩, settled⟩ : ∃ result,
          tryTieredSettle engine info
            (tieredParams engine info (effectiveBillingUsage reported)) = some result := by
        simp [tryTieredSettle, tiered]
      rw [settledSummary_quota_of_tiered settled,
        composeTieredQuota_eq_zero_iff tiered rfl settled, ← not_le, not_iff_not]
      constructor
      · intro large
        exact ⟨reported, rfl, snap, tiered, empty, large⟩
      · rintro ⟨_, ⟨⟩, other, found, _, large⟩
        rw [tiered] at found
        cases found
        exact large

/-- The amount settled, the amounts added to used quotas and the amount logged are the same
for every request but those billed by an expression that report no tokens and still amount
to at least half a unit.
-/
theorem postTextConsumeQuota_sameAmount (settings : Settings) (engine : ExprEngine)
    (info : SettleInfo) (usage : Option Usage)
    : (postTextConsumeQuota settings engine info usage).SameAmount info.finalPreConsumedQuota
      ↔ ¬ChargesWithoutTokens settings engine info usage := by
  rw [postTextConsumeQuota_sameAmount_iff]
  by_cases empty : (settledSummary settings engine info usage).totalTokens = 0
  · rw [settledSummary_quota_of_empty empty, or_iff_right (not_not.mpr empty)]
  · refine iff_of_true (.inl empty) ?_
    rintro ⟨reported, ⟨⟩, snap, _, none, _⟩
    exact empty ((settledSummary_totalTokens _).trans none)

def linearEngine : ExprEngine where
  usedVars := fun _ _ => false
  run := fun _ params => some (2 * params.p + 8 * params.c)

def searchInfo : SettleInfo where
  originModelName := "claude-sonnet"
  priceData := { groupRatio := 1 }
  claudeWebSearchRequests := 1
  tieredBillingSnapshot := some
    { billingMode := "tiered_expr", exprString := "2p + 8c", groupRatio := 1
      quotaPerUnit := 500000 }

/-- Without tokens the search is settled and logged at 5000, but added to no used quota. -/
theorem searchInfo_amounts_differ
    : ¬(postTextConsumeQuota plainSettings linearEngine searchInfo (some {})).SameAmount
        searchInfo.finalPreConsumedQuota := by
  decide +kernel

end

open TextRelay

/-- The group ratio of a request's quota: the frozen one of an expression, otherwise the one beside
the price.
-/
def settlementRatio (info : SettleInfo) : ℚ :=
  match info.tieredSnapshot with
  | some snap => snap.groupRatio
  | none => info.priceData.groupRatio

def surchargeRatio (info : SettleInfo) : ℚ := info.priceData.groupRatio

/-- One group ratio is applied to the settled quota and to its surcharge. -/
structure SettlesAt (info : SettleInfo) (ratio : ℚ) : Prop where
  settlement : settlementRatio info = ratio
  surcharge : surchargeRatio info = ratio

variable {info : SettleInfo}

def atUnitRatio (relay : TextRelay) : TextRelay :=
  { relay with priceData := { relay.priceData with groupRatio := 1 } }

def toolCallCost (settings : Settings) (relay : TextRelay) : ℚ :=
  calculateTextToolCallSurcharge settings (atUnitRatio relay)

section

variable (settings : Settings) (relay : TextRelay)

theorem webSearchSurcharge_eq
    : webSearchSurcharge settings relay
      = webSearchSurcharge settings (atUnitRatio relay) * relay.priceData.groupRatio := by
  dsimp only [webSearchSurcharge, unit, atUnitRatio]
  cases relay.responsesTools with
  | none => split_ifs <;> ring
  | some tools =>
    dsimp only
    cases tools.webSearchPreview with
    | none => exact (zero_mul _).symm
    | some callCount =>
      dsimp only
      split_ifs <;> ring

theorem claudeWebSearchSurcharge_eq
    : claudeWebSearchSurcharge settings relay
      = claudeWebSearchSurcharge settings (atUnitRatio relay)
        * relay.priceData.groupRatio := by
  dsimp only [claudeWebSearchSurcharge, unit, atUnitRatio]
  split_ifs <;> ring

theorem fileSearchSurcharge_eq
    : fileSearchSurcharge settings relay
      = fileSearchSurcharge settings (atUnitRatio relay) * relay.priceData.groupRatio := by
  dsimp only [fileSearchSurcharge, unit, atUnitRatio]
  cases relay.responsesTools.bind BuiltInTools.fileSearch with
  | none => exact (zero_mul _).symm
  | some callCount =>
    dsimp only
    split_ifs <;> ring

theorem imageGenerationSurcharge_eq
    : imageGenerationSurcharge settings relay
      = imageGenerationSurcharge settings (atUnitRatio relay)
        * relay.priceData.groupRatio := by
  dsimp only [imageGenerationSurcharge, unit, atUnitRatio]
  cases relay.imageGenerationCall with
  | none => exact (zero_mul _).symm
  | some image => ring

end

theorem toolCallSurcharge_eq (settings) (info : SettleInfo)
    : calculateTextToolCallSurcharge settings info.toTextRelay
      = toolCallCost settings info.toTextRelay * surchargeRatio info := by
  rw [toolCallCost, calculateTextToolCallSurcharge, calculateTextToolCallSurcharge,
    webSearchSurcharge_eq, claudeWebSearchSurcharge_eq, fileSearchSurcharge_eq,
    imageGenerationSurcharge_eq, surchargeRatio]
  ring

variable {settings : Settings}

theorem settledSummary_quota_tiered {engine usage snap cost}
    (tiered : info.tieredSnapshot = some snap) (value : engine.run snap.exprString
      (tieredParams engine info (effectiveBillingUsage usage)) = some cost)
    : (settledSummary settings engine info (some usage)).quota
      = quotaFromDecimal (cost / 1000000 * snap.quotaPerUnit * settlementRatio info
          + toolCallCost settings info.toTextRelay * surchargeRatio info) := by
  have snapshot := (Option.filter_eq_some_iff.mp tiered).1
  have ratio : settlementRatio info = snap.groupRatio := by simp only [settlementRatio, tiered]
  have computed : computeTieredQuotaWithRequest engine snap
      (tieredParams engine info (effectiveBillingUsage usage))
      = some ⟨cost / 1000000 * snap.quotaPerUnit,
          quotaFromDecimal (cost / 1000000 * snap.quotaPerUnit * snap.groupRatio)⟩ := by
    simp only [computeTieredQuotaWithRequest, value, Option.map_some]
  have surcharge : (calculateTextQuotaSummary settings info.toTextRelay
      (some (effectiveBillingUsage usage))).toolCallSurchargeQuota
      = toolCallCost settings info.toTextRelay * surchargeRatio info :=
    toolCallSurcharge_eq settings info
  rw [settledSummary_quota_of_tiered (by
    simp only [tryTieredSettle, tiered, Option.map_some, computed]; rfl)]
  simp only [composeTieredTextQuota, surcharge, snapshot, ratio]
  split
  next free => rw [free, add_zero]
  · rfl

theorem ofUsage_price_configured (configured : info.tieredSnapshot = none) (usage : Usage)
    (isClaude apart : Bool)
    : let summary := TextQuotaSummary.ofUsage settings info.toTextRelay usage isClaude
      let audioPrice := getGeminiInputAudioPricePerMillionTokens info.originModelName
      let surcharge := toolCallCost settings info.toTextRelay * surchargeRatio info
      summary.fixedPrice settings info.toTextRelay
        = info.priceData.applyOtherRatiosToDecimal
            (info.priceData.modelPrice * settings.quotaPerUnit * settlementRatio info
              + surcharge)
      ∧ summary.ratioPrice settings info.toTextRelay apart
        = info.priceData.applyOtherRatiosToDecimal
            (summary.weightedTokens info.priceData apart audioPrice
                * (info.priceData.modelRatio * settlementRatio info)
              + surcharge
              + summary.audioInputQuota (settlementRatio info * settings.quotaPerUnit)
                  audioPrice) := by
  have ratio : settlementRatio info = info.priceData.groupRatio := by
    simp only [settlementRatio, configured]
  rw [ratio, ← toolCallSurcharge_eq]
  exact ⟨rfl, rfl⟩

end HelsterApi.TextBilling
