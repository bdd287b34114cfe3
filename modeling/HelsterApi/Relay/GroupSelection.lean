import HelsterApi.Control.Loop
import HelsterApi.Relay.RetryLoop
import HelsterApi.TextBilling.Settlement

/-! The groups of a request: the scan of an `auto` token over its groups, the group ratio kept with
the price, and the retry loop of `Relay` with the channel selection of each iteration.
-/

namespace HelsterApi.Relay

open Arithmetic Control Realtime TextBilling

structure GroupRatios where
  groupRatio : String → Option ℚ
  groupGroupRatio : String → String → Option ℚ

variable (ratios : GroupRatios)

/-- The ratio of an unknown group is one. -/
def GroupRatios.getUserGroupRatio (userGroup group : String) : ℚ :=
  match ratios.groupGroupRatio userGroup group with
  | some ratio => ratio
  | none => (ratios.groupRatio group).getD 1

/-- What a request carries through its attempts. `selectedGroups` are the groups of its channels,
and `settled` is what the settlement read.
-/
structure Routing where
  (tokenGroup userGroup usingGroup : String)
  crossGroupRetry : Bool := false
  autoGroup : Option String := none
  autoGroupIndex : Option ℕ := none
  hasChannelMeta : Bool := false
  info : SettleInfo := {}
  selectedGroups : List String := []
  settled : Option SettleInfo := none

def useGroup (usingGroup group : String) : String :=
  if Text.trimSpace group ≠ [] then group else usingGroup

def Routing.nextUsingGroup (routing : Routing) : String :=
  match routing.autoGroup with
  | some group => useGroup routing.usingGroup group
  | none => routing.usingGroup

def handleGroupRatio (routing : Routing) : ℚ × Routing :=
  let usingGroup := routing.nextUsingGroup
  (ratios.getUserGroupRatio routing.userGroup usingGroup, { routing with usingGroup })

inductive ModelPricing where
  | configured (price : PriceData)
  | tieredExpr (exprString : String)

structure Pricing where
  ratios : GroupRatios
  settings : Settings
  engine : ExprEngine
  preConsumedQuota : ℤ
  enableFreeModelPreConsume : Bool
  model : ModelPricing

def quotaFromFloatStrict (value : ℚ) : Option ℤ :=
  if maxQuota ≤ value ∨ value ≤ minQuota then none else some (truncate value)

def quotaRoundStrict (value : ℚ) : Option ℤ :=
  if maxQuota ≤ roundHalfAway value ∨ roundHalfAway value ≤ minQuota then none
  else some (roundHalfAway value)

/-- The group ratio is frozen in the snapshot. -/
def modelPriceHelperTiered (pricing : Pricing) (exprString : String)
    (promptTokens maxTokens : ℤ) (groupRatio : ℚ) (routing : Routing)
    : Option Routing :=
  let estimatedCompletionTokens :=
    if maxTokens = 0 ∧ groupRatio ≠ 0 then 8192 else maxTokens
  let quotaPerUnit := pricing.settings.quotaPerUnit
  (pricing.engine.run exprString
      { p := promptTokens, c := estimatedCompletionTokens, len := promptTokens
        cr := 0, cc := 0, cc1h := 0, img := 0, imgO := 0, ai := 0, ao := 0 }).bind
    fun rawCost =>
      (quotaRoundStrict (rawCost / 1000000 * quotaPerUnit * groupRatio)).map fun quota =>
        let estimatedQuotaAfterGroup :=
          if !pricing.enableFreeModelPreConsume ∧ groupRatio = 0 then 0 else quota
        { routing with
          info :=
            { routing.info with
              priceData := { groupRatio }
              tieredBillingSnapshot := some
                { billingMode := "tiered_expr", exprString, groupRatio
                  estimatedQuotaAfterGroup, quotaPerUnit } } }

/-- The quota to pre-consume is left to the billing session. -/
def modelPriceHelper (pricing : Pricing) (promptTokens maxTokens : ℤ) (routing : Routing)
    : Option Routing :=
  let (groupRatio, routing) := handleGroupRatio pricing.ratios routing
  match pricing.model with
  | .tieredExpr exprString =>
    modelPriceHelperTiered pricing exprString promptTokens maxTokens groupRatio routing
  | .configured price =>
    let price := { price with groupRatio }
    let estimate : ℚ :=
      if price.usePrice then
        price.applyOtherRatiosToDecimal
          (price.modelPrice * pricing.settings.quotaPerUnit * groupRatio)
      else
        (max promptTokens pricing.preConsumedQuota + maxTokens : ℤ)
          * (price.modelRatio * groupRatio)
    (quotaFromFloatStrict estimate).map fun _ =>
      { routing with info := { routing.info with priceData := price } }

/-- What one channel selection meets: the groups of the user, the channel drawn at a position for a
priority, which channels are cooling down, and an error of setting up the selected one.
-/
structure Selection where
  autoGroups : List String
  getRandomSatisfiedChannel : ℕ → String → ℤ → Except String (Option ℤ)
  isChannelCoolingDown : ℤ → Bool
  setupError : Option RelayError

/-- The groups from a position on, with the channel that was found and its group. -/
def scanGroups (selection : Selection) (retryTimes : ℤ) (startGroupIndex : ℕ)
    : List String → ℕ → Routing → RetryParam → Option (ℤ × String) × Routing × RetryParam
  | [], _, routing, param => (none, routing, param)
  | autoGroup :: rest, i, routing, param =>
    let priorityRetry := if i > startGroupIndex then 0 else param.retry
    match selection.getRandomSatisfiedChannel i autoGroup priorityRetry with
    | .ok (some channel) =>
      if selection.isChannelCoolingDown channel then
        scanGroups selection retryTimes startGroupIndex rest (i + 1) routing
          { param with retry := param.retry + 1 }
      else if routing.crossGroupRetry ∧ priorityRetry ≥ retryTimes then
        -- the next attempt moves on to the next group
        (some (channel, autoGroup),
          { routing with autoGroup := some autoGroup, autoGroupIndex := some (i + 1) },
          ⟨0, true⟩)
      else
        (some (channel, autoGroup),
          { routing with autoGroup := some autoGroup, autoGroupIndex := some i },
          param)
    | _ =>
      scanGroups selection retryTimes startGroupIndex rest (i + 1)
        { routing with autoGroupIndex := some (i + 1) } { param with retry := 0 }

def cacheGetRandomSatisfiedChannel (selection : Selection) (retryTimes : ℤ)
    (routing : Routing) (param : RetryParam)
    : Except String (Option (ℤ × String)) × Routing × RetryParam :=
  if routing.tokenGroup = "auto" then
    let startGroupIndex := routing.autoGroupIndex.getD 0
    let (found, routing, param) := scanGroups selection retryTimes startGroupIndex
      (selection.autoGroups.drop startGroupIndex) startGroupIndex routing param
    (.ok found, routing, param)
  else
    match selection.getRandomSatisfiedChannel 0 routing.tokenGroup param.retry with
    | .error text => (.error text, routing, param)
    | .ok (some channel) =>
      if selection.isChannelCoolingDown channel then (.ok none, routing, param)
      else (.ok (some (channel, routing.tokenGroup)), routing, param)
    | .ok none => (.ok none, routing, param)

/-- A channel is drawn from a group and is not cooling down. -/
def Selection.Serves (selection : Selection) (i : ℕ) (group : String) (retry : ℤ) (channel : ℤ)
    : Prop :=
  selection.getRandomSatisfiedChannel i group retry = .ok (some channel)
    ∧ selection.isChannelCoolingDown channel = false

def priorityRetry (startGroupIndex i : ℕ) (param : RetryParam) : ℤ :=
  if i > startGroupIndex then 0 else param.retry

/-- What a scan leaves: no group served, or one did, which the next attempt stays in or has used up.
-/
def Selection.Finds (selection : Selection) (startGroupIndex : ℕ) (groups : List String)
    (i : ℕ) (param : RetryParam)
    : Option (ℤ × String) → Option ℕ → RetryParam → Prop
  | none, _, _ => ∀ k group channel, groups[k]? = some group
      → ¬selection.Serves (i + k) group (priorityRetry startGroupIndex (i + k) param) channel
  | some (channel, group), autoGroupIndex, param' => ∃ k, groups[k]? = some group
      ∧ selection.Serves (i + k) group (priorityRetry startGroupIndex (i + k) param) channel
      ∧ (autoGroupIndex = some (i + k) ∧ (k = 0 → param' = param)
          ∧ param'.resetNextTry = param.resetNextTry ∧ (0 ≤ param.retry → 0 ≤ param'.retry)
        ∨ autoGroupIndex = some (i + k + 1) ∧ param' = ⟨0, true⟩)

variable (retryTimes : ℤ)

section

variable {selection : Selection} {startGroupIndex i : ℕ} {rest : List String}
  {param param' : RetryParam}

variable {group : String}

theorem Selection.Finds.cons {param₁ found autoGroupIndex}
    (finds : selection.Finds startGroupIndex rest (i + 1) param₁ found autoGroupIndex param')
    (from_ : startGroupIndex ≤ i)
    (unserved : ∀ channel,
      ¬selection.Serves i group (priorityRetry startGroupIndex i param) channel)
    (reset : param₁.resetNextTry = param.resetNextTry)
    (counted : 0 ≤ param.retry → 0 ≤ param₁.retry)
    : selection.Finds startGroupIndex (group :: rest) i param found autoGroupIndex param' := by
  have moved : ∀ k, i + 1 + k = i + (k + 1) := fun k => by omega
  -- past the first group the priority does not depend on the counters
  have same : ∀ k, priorityRetry startGroupIndex (i + (k + 1)) param₁
      = priorityRetry startGroupIndex (i + (k + 1)) param := by
    intro k
    rw [priorityRetry, priorityRetry, if_pos (by omega), if_pos (by omega)]
  cases found with
  | none =>
    rintro (_ | k) other channel at_
    · cases at_
      exact unserved channel
    · rw [← same, ← moved]
      exact finds k other channel at_
  | some other =>
    obtain ⟨k, at_, serves, left⟩ := finds
    rw [moved, same] at serves
    rw [moved] at left
    refine ⟨k + 1, at_, serves, left.imp_left fun stays => ?_⟩
    exact ⟨stays.1, by simp, stays.2.2.1.trans reset, stays.2.2.2 ∘ counted⟩

/-- A scan writes nothing but the group it found and the position it is at, by induction on
the groups.
-/
theorem scanGroups_eq (groups routing)
    (param) (from_ : startGroupIndex ≤ i)
    : ∃ found autoGroupIndex param',
        scanGroups selection retryTimes startGroupIndex groups i routing param
          = (found,
            { routing with
              autoGroup := (found.map Prod.snd).or routing.autoGroup, autoGroupIndex },
            param')
        ∧ selection.Finds startGroupIndex groups i param found autoGroupIndex param' := by
  induction groups generalizing i routing param with
  | nil => exact ⟨none, routing.autoGroupIndex, param, rfl, by simp [Selection.Finds]⟩
  | cons group rest ih =>
    have priority : (if i > startGroupIndex then 0 else param.retry)
        = priorityRetry startGroupIndex i param := rfl
    simp only [scanGroups, priority]
    split
    next channel drawn =>
      split
      next cooling =>
        obtain ⟨found, index, param', scanned, finds⟩ := ih _ _ (Nat.le_succ_of_le from_)
        refine ⟨found, index, param', scanned, finds.cons from_ ?_ rfl Int.le_add_one⟩
        rintro other ⟨same, uncooled⟩
        cases drawn.symm.trans same
        simp [cooling] at uncooled
      next uncooled =>
        have serves : selection.Serves i group (priorityRetry startGroupIndex i param) channel :=
          ⟨drawn, Bool.eq_false_iff.mpr uncooled⟩
        split
        · exact ⟨some (channel, group), some (i + 1), _, rfl, 0, rfl, serves, .inr ⟨rfl, rfl⟩⟩
        · exact ⟨some (channel, group), some i, _, rfl, 0, rfl, serves,
            .inl ⟨rfl, fun _ => rfl, rfl, id⟩⟩
    next undrawn =>
      obtain ⟨found, index, param', scanned, finds⟩ := ih _ _ (Nat.le_succ_of_le from_)
      refine ⟨found, index, param', scanned, finds.cons from_ ?_ rfl fun _ => le_rfl⟩
      rintro channel ⟨drawn, _⟩
      exact undrawn channel drawn

theorem cacheGetRandom_eq (selection retryTimes)
    {routing} (auto : routing.tokenGroup = "auto") (param)
    : ∃ found autoGroupIndex param',
        cacheGetRandomSatisfiedChannel selection retryTimes routing param
          = (.ok found,
            { routing with
              autoGroup := (found.map Prod.snd).or routing.autoGroup, autoGroupIndex },
            param')
        ∧ selection.Finds (routing.autoGroupIndex.getD 0)
          (selection.autoGroups.drop (routing.autoGroupIndex.getD 0))
          (routing.autoGroupIndex.getD 0) param found autoGroupIndex param' := by
  obtain ⟨found, index, param', scanned, finds⟩ := scanGroups_eq retryTimes _ routing param le_rfl
  refine ⟨found, index, param', ?_, finds⟩
  simp only [cacheGetRandomSatisfiedChannel, if_pos auto, scanned]

/-- The groups that a selection looks into, with the retry whose priority it takes there: the group
of the token, or the `auto` groups from the current position on.
-/
def Routing.LooksInto (routing : Routing) (autoGroups : List String) (param : RetryParam) (i : ℕ)
    (group : String) (retry : ℤ)
    : Prop :=
  if routing.tokenGroup = "auto" then
    routing.autoGroupIndex.getD 0 ≤ i ∧ autoGroups[i]? = some group
      ∧ retry = priorityRetry (routing.autoGroupIndex.getD 0) i param
  else i = 0 ∧ group = routing.tokenGroup ∧ retry = param.retry

/-- What is found was drawn in a group that the selection looks into. -/
theorem serves_of_found {retryTimes routing channel}
    (found : (cacheGetRandomSatisfiedChannel selection retryTimes routing param).1
      = .ok (some (channel, group)))
    : ∃ i retry, routing.LooksInto selection.autoGroups param i group retry
      ∧ selection.Serves i group retry channel := by
  unfold Routing.LooksInto
  split
  next auto =>
    obtain ⟨_, _, _, selected, finds⟩ :=
      cacheGetRandom_eq selection retryTimes auto param
    rw [selected] at found
    cases found
    obtain ⟨k, at_, serves, _⟩ := finds
    exact ⟨_, _, ⟨Nat.le_add_right _ k, List.getElem?_drop ▸ at_, rfl⟩, serves⟩
  next explicit =>
    simp only [cacheGetRandomSatisfiedChannel, if_neg explicit] at found
    split at found
    · cases found
    next channel drawn =>
      split at found <;> cases found
      rename_i uncooled
      exact ⟨0, _, ⟨rfl, rfl, rfl⟩, drawn, Bool.eq_false_iff.mpr uncooled⟩
    · cases found

end

def autoRequest (userGroup : String) (crossGroupRetry : Bool) (relay : TextRelay) : Routing where
  tokenGroup := "auto"
  userGroup := userGroup
  usingGroup := "auto"
  crossGroupRetry := crossGroupRetry
  info := { relay with }

/-- The first attempts use the channel that the middleware selected; later ones select one and
refresh the group ratio.
-/
def getChannel (selection : Selection) (retryTimes : ℤ) (routing : Routing) (param : RetryParam)
    : Option RelayError × Routing × RetryParam :=
  if routing.hasChannelMeta then
    let (found, routing, param) := cacheGetRandomSatisfiedChannel selection retryTimes routing param
    let (groupRatio, routing) := handleGroupRatio ratios routing
    let routing :=
      { routing with
        info :=
          { routing.info with priceData := { routing.info.priceData with groupRatio } } }
    let group := routing.tokenGroup
    let model := routing.info.originModelName
    match found with
    | .error text =>
      (some ⟨"get_channel_failed", 500, true,
        s!"获取分组 {group} 下模型 {model} 的可用渠道失败（retry）: {text}"⟩, routing, param)
    | .ok none =>
      (some ⟨"get_channel_failed", 500, true,
        s!"分组 {group} 下模型 {model} 的可用渠道不存在（retry）"⟩, routing, param)
    | .ok (some (_, group)) =>
      (selection.setupError,
        { routing with selectedGroups := routing.selectedGroups ++ [group] }, param)
  else (none, routing, param)

/-- The response an attempt was served with. A request to compact a conversation is priced once more
before it is settled.
-/
structure Response where
  usage : Option Usage
  (claudeFormat openRouter : Bool := false)
  responsesTools : Option BuiltInTools := none
  claudeWebSearchRequests : ℤ := 0
  imageGenerationCall : Option (String × String) := none
  compact : Bool := false
  priceErrorText : String := ""
  writes : Billing.SettleWrites

def Response.noteIn (response : Response) (info : SettleInfo) : SettleInfo :=
  { info with
    claudeFormat := response.claudeFormat
    openRouter := response.openRouter
    responsesTools := response.responsesTools
    claudeWebSearchRequests := response.claudeWebSearchRequests
    imageGenerationCall := response.imageGenerationCall }

inductive AttemptResult where
  | unreadableBody (tooLarge : Bool) (text : String)
  | limiterDown (text : String)
  | rateLimited
  | failed (failure : Failure)
  | served (response : Response)

inductive Iteration where
  | disconnected
  | attempt (selection : Selection) (result : AttemptResult)

def Routing.settle (pricing : Pricing) (routing : Routing) (param : RetryParam)
    (response : Response)
    : Outcome × Routing :=
  let noted := { routing with hasChannelMeta := true, info := response.noteIn routing.info }
  let priced :=
    if response.compact then modelPriceHelper pricing noted.info.estimatePromptTokens 0 noted
    else some noted
  match priced with
  | none =>
    (.failed param
      { error := ⟨"model_price_error", 400, true, response.priceErrorText⟩
        disconnected := false, semanticOutput := false, affinitySkip := false
        specificChannel := false },
      noted)
  | some priced =>
    (.served
      (settledSummary pricing.settings pricing.engine priced.info response.usage).quota
      response.writes,
      { priced with
        info := { priced.info with priceData := noted.info.priceData }
        settled := some priced.info })

def Routing.iterate (pricing : Pricing) (retryTimes : ℤ) (routing : Routing) (param : RetryParam)
    : Iteration → Outcome × Routing
  | .disconnected => (.disconnected, routing)
  | .attempt selection result =>
    match getChannel pricing.ratios selection retryTimes routing param with
    | (some error, routing, _) => (.noChannel error, routing)
    | (none, routing, param) =>
      match result with
      | .unreadableBody tooLarge text => (.unreadableBody tooLarge text, routing)
      | .limiterDown text => (.limiterDown text, routing)
      | .rateLimited => (.rateLimited param, routing)
      | .failed failure => (.failed param failure, { routing with hasChannelMeta := true })
      | .served response => routing.settle pricing param response

/-- `none` if the list does not end exactly where the loop does. -/
def relayGroups (pricing : Pricing) (cfg : RetrySettings)
    : List Iteration → LoopState → Routing → Option (LoopState × Routing)
  | [], st, routing => if st.retryParam.retry ≤ cfg.retryTimes then none else some (st, routing)
  | iteration :: rest, st, routing =>
    if st.retryParam.retry ≤ cfg.retryTimes then
      match routing.iterate pricing cfg.retryTimes st.retryParam iteration with
      | (outcome, routing) =>
        match st.attempt cfg outcome with
        | (st, true) =>
          relayGroups pricing cfg rest
            { st with retryParam := st.retryParam.increaseRetry } routing
        | (st, false) => if rest.isEmpty then some (st, routing) else none
    else none

def relayEnters (cfg : RetrySettings) (s : LoopState × Routing) : Bool :=
  decide (s.1.retryParam.retry ≤ cfg.retryTimes)

def relayBody (pricing : Pricing) (cfg : RetrySettings) (s : LoopState × Routing)
    (iteration : Iteration)
    : (LoopState × Routing) × Bool :=
  let (outcome, routing) := s.2.iterate pricing cfg.retryTimes s.1.retryParam iteration
  let (st, goesOn) := s.1.attempt cfg outcome
  ((st, routing), goesOn)

def relayAdvance (s : LoopState × Routing) : LoopState × Routing :=
  ({ s.1 with retryParam := s.1.retryParam.increaseRetry }, s.2)

section

variable {pricing : Pricing} {cfg : RetrySettings} {iterations : List Iteration}
  {st st' : LoopState} {routing routing' : Routing}

/-- `Relay` is a loop in the general sense, by induction on the iterations. -/
theorem relayGroups_eq_loop
    : relayGroups pricing cfg iterations st routing
      = loop (relayEnters cfg) (relayBody pricing cfg) relayAdvance iterations (st, routing) := by
  induction iterations generalizing st routing with
  | nil => simp [relayGroups, loop, relayEnters]
  | cons iteration rest ih =>
    simp only [relayGroups, loop, relayEnters, relayBody, decide_eq_true_eq]
    rcases st.attempt cfg (routing.iterate pricing cfg.retryTimes st.retryParam iteration).1
      with ⟨after, goesOn⟩
    cases goesOn with
    | true => simp only [ih, relayAdvance]
    | false => rfl

theorem relayBody_eq {iteration after goesOn}
    (went : relayBody pricing cfg (st, routing) iteration = (after, goesOn))
    : ∃ outcome, routing.iterate pricing cfg.retryTimes st.retryParam iteration
        = (outcome, after.2)
      ∧ st.attempt cfg outcome = (after.1, goesOn) := by
  cases went
  exact ⟨_, rfl, rfl⟩

/-- A run over groups is a run of the loop over some outcomes, by induction on the iterations. -/
theorem relayGroups_outcomes
    (run : relayGroups pricing cfg iterations st routing = some (st', routing'))
    : ∃ outcomes, relayLoop cfg outcomes st = some st' := by
  rw [relayGroups_eq_loop] at run
  induction iterations generalizing st routing with
  | nil =>
    obtain ⟨exhausted, ⟨⟩⟩ := loop_nil run
    exact ⟨[], by simpa [relayLoop, relayEnters] using exhausted⟩
  | cons iteration rest ih =>
    obtain ⟨within, ⟨middle, continued, onwards⟩ | ⟨stopped, _⟩⟩ := loop_cons run
    · obtain ⟨outcome, _, attempted⟩ := relayBody_eq continued
      obtain ⟨outcomes, looped⟩ := ih onwards
      exact ⟨outcome :: outcomes, by simp [relayLoop, of_decide_eq_true within, attempted, looped]⟩
    · obtain ⟨outcome, _, attempted⟩ := relayBody_eq stopped
      exact ⟨[outcome], by simp [relayLoop, of_decide_eq_true within, attempted]⟩

end

end HelsterApi.Relay
