import HelsterApi.Relay.GroupSelection

/-! The group ratio of a request that is retried over groups. Every selection refreshes the ratio
beside the price; the snapshot of an expression keeps the ratio from before the first attempt.
-/

namespace HelsterApi.Relay

open Arithmetic Option Realtime TextBilling List

variable (usingGroup : String)

def lastNamed (groups : List String) : String := groups.foldl useGroup usingGroup

theorem lastNamed_append (groups group)
    : lastNamed usingGroup (groups ++ [group]) = useGroup (lastNamed usingGroup groups) group := by
  simp [lastNamed]

/-- The group in use and the ratio beside the price are those of the groups selected so far, and the
snapshot is from before the first attempt.
-/
structure Routing.Follows (routing : Routing) (ratios : GroupRatios) (request : Routing)
    (snapshot : Option BillingSnapshot)
    : Prop where
  tokenGroup : routing.tokenGroup = "auto"
  userGroup : routing.userGroup = request.userGroup
  autoGroup : routing.autoGroup = routing.selectedGroups.getLast?
  usingGroup : routing.usingGroup = lastNamed request.usingGroup routing.selectedGroups
  groupRatio : routing.info.priceData.groupRatio
    = ratios.getUserGroupRatio request.userGroup routing.usingGroup
  snapshot : routing.info.tieredBillingSnapshot = snapshot
  unsettled : routing.settled = none

variable (model : ModelPricing)

section

variable {pricing : Pricing} {request routing routing' : Routing}
  {snapshot : Option BillingSnapshot}

section

variable (follows : routing.Follows pricing.ratios request snapshot)

include follows

theorem Routing.Follows.nextUsingGroup_eq
    : routing.nextUsingGroup = lastNamed request.usingGroup routing.selectedGroups := by
  unfold nextUsingGroup
  rw [follows.autoGroup, follows.usingGroup]
  rcases eq_nil_or_concat routing.selectedGroups with empty | ⟨groups, group, some⟩
  · simp [empty]
  · simp only [some, concat_eq_append, lastNamed_append, useGroup, getLast?_concat]
    split_ifs <;> rfl

theorem Routing.Follows.handleGroupRatio_eq
    : handleGroupRatio pricing.ratios routing
      = (pricing.ratios.getUserGroupRatio request.userGroup routing.usingGroup, routing) := by
  have same := follows.nextUsingGroup_eq.trans follows.usingGroup.symm
  simp only [handleGroupRatio, same, follows.userGroup]
  rw [← follows.userGroup]

variable {selection : Selection}

theorem Routing.Follows.getChannel {retryTimes param param' error}
    (selected : Relay.getChannel pricing.ratios selection retryTimes routing param
      = (error, routing', param'))
    : routing'.Follows pricing.ratios request snapshot := by
  unfold Relay.getChannel at selected
  split at selected
  · obtain ⟨found, autoGroupIndex, _, scanned, _⟩ :=
      cacheGetRandom_eq selection retryTimes follows.tokenGroup param
    simp only [scanned] at selected
    cases found with
    | none =>
      -- nothing was selected, so the group in use stays
      have kept : Routing.Follows { routing with autoGroupIndex } pricing.ratios request
          snapshot := { follows with }
      simp only [map_none, none_or, kept.handleGroupRatio_eq] at selected
      cases selected
      exact { follows with groupRatio := rfl }
    | some group =>
      simp only [map_some, some_or, handleGroupRatio, nextUsingGroup] at selected
      cases selected
      refine { follows with autoGroup := ?_, usingGroup := ?_, groupRatio := ?_ }
      · simp
      · rw [lastNamed_append, ← follows.usingGroup]
      · rw [follows.userGroup]
  · cases selected
    exact follows

end

/-- The snapshot of an expression holds a group ratio; a model with a configured price has no
snapshot.
-/
def FrozenAt (snapshot : Option BillingSnapshot) (ratio : ℚ) : Prop :=
  match model with
  | .configured _ => snapshot = none
  | .tieredExpr _ =>
    ∃ snap, snapshot = some snap ∧ snap.billingMode = "tiered_expr" ∧ snap.groupRatio = ratio

variable {promptTokens maxTokens : ℤ} {frozen : ℚ}

theorem modelPriceHelper_eq {priced}
    (before : ∀ price, pricing.model = .configured price →
      FrozenAt pricing.model routing.info.tieredBillingSnapshot frozen)
    (helped : modelPriceHelper pricing promptTokens maxTokens routing = some priced)
    : ∃ info, priced = { routing with usingGroup := routing.nextUsingGroup, info }
      ∧ info.priceData.groupRatio
        = pricing.ratios.getUserGroupRatio routing.userGroup routing.nextUsingGroup
      ∧ FrozenAt pricing.model info.tieredBillingSnapshot
          (pricing.ratios.getUserGroupRatio routing.userGroup routing.nextUsingGroup) := by
  simp only [modelPriceHelper, handleGroupRatio] at helped
  cases model : pricing.model with
  | configured price =>
    simp only [model, map_eq_some_iff] at helped before
    obtain ⟨_, _, rfl⟩ := helped
    exact ⟨_, rfl, rfl, before price rfl⟩
  | tieredExpr exprString =>
    simp only [model, modelPriceHelperTiered, bind_eq_some_iff, map_eq_some_iff] at helped
    obtain ⟨_, _, _, _, rfl⟩ := helped
    exact ⟨_, rfl, rfl, _, rfl, rfl, rfl⟩

/-- A settlement read the ratio of the group in use after the selected ones, and a snapshot frozen
at a ratio.
-/
structure SettledFor (pricing : Pricing) (request : Routing) (groups : List String)
    (frozen : ℚ) (info : SettleInfo)
    : Prop where
  groupRatio : info.priceData.groupRatio = pricing.ratios.getUserGroupRatio request.userGroup
    (lastNamed request.usingGroup groups)
  snapshot : FrozenAt pricing.model info.tieredBillingSnapshot frozen

variable {groups : List String} {info : SettleInfo}

/-- The ratio of the snapshot when a response is settled: a request to compact a conversation
freezes it anew.
-/
def frozenRatio (pricing : Pricing) (request : Routing) (groups : List String) (response : Response)
    : ℚ :=
  pricing.ratios.getUserGroupRatio request.userGroup (lastNamed request.usingGroup
    (if response.compact then groups else request.selectedGroups))

def Routing.Served (routing' : Routing) (pricing : Pricing) (request : Routing)
    (iteration : Iteration) (outcome : Outcome)
    : Prop :=
  ∃ selection response info, iteration = .attempt selection (.served response)
    ∧ outcome = .served
        (settledSummary pricing.settings pricing.engine info response.usage).quota
        response.writes
    ∧ routing'.settled = some info
    ∧ SettledFor pricing request routing'.selectedGroups
        (frozenRatio pricing request routing'.selectedGroups response) info

variable {param : RetryParam} {outcome : Outcome}

section

variable (follows : routing.Follows pricing.ratios request snapshot)

include follows

theorem Routing.Follows.noted (response : Response)
    : Routing.Follows
        { routing with hasChannelMeta := true, info := response.noteIn routing.info }
        pricing.ratios request snapshot :=
  { follows with }

variable (freezes : FrozenAt pricing.model snapshot (pricing.ratios.getUserGroupRatio
  request.userGroup (lastNamed request.usingGroup request.selectedGroups)))

include freezes

theorem Routing.Follows.settle {response}
    (settled : routing.settle pricing param response = (outcome, routing'))
    : (routing'.Follows pricing.ratios request snapshot ∧ ∀ q w, outcome ≠ .served q w)
      ∨ routing'.Served pricing request (.attempt selection (.served response)) outcome := by
  have noted := follows.noted response
  unfold Routing.settle at settled
  cases compact : response.compact with
  | false =>
    simp only [compact, Bool.false_eq_true, if_false] at settled
    cases settled
    refine .inr ⟨selection, response, _, rfl, rfl, rfl, ⟨?_, ?_⟩⟩
    · exact noted.groupRatio.trans (by rw [noted.usingGroup])
    · have kept : (response.noteIn routing.info).tieredBillingSnapshot = snapshot :=
        follows.snapshot
      simpa only [frozenRatio, compact, Bool.false_eq_true, if_false, kept] using freezes
  | true =>
    simp only [compact, if_true] at settled
    split at settled
    · cases settled
      exact .inl ⟨noted, nofun⟩
    next priced helped =>
      cases settled
      obtain ⟨info, rfl, groupRatio, snapshot⟩ := modelPriceHelper_eq
        (fun _ _ => noted.snapshot ▸ freezes) helped
      rw [noted.nextUsingGroup_eq, noted.userGroup] at groupRatio snapshot
      refine .inr ⟨selection, response, _, rfl, rfl, rfl, ⟨groupRatio, ?_⟩⟩
      simpa only [frozenRatio, compact, if_true] using snapshot

theorem Routing.Follows.iterate {retryTimes iteration}
    (iterated : routing.iterate pricing retryTimes param iteration = (outcome, routing'))
    : (routing'.Follows pricing.ratios request snapshot ∧ ∀ q w, outcome ≠ .served q w)
      ∨ routing'.Served pricing request iteration outcome := by
  cases iteration with
  | disconnected =>
    cases iterated
    exact .inl ⟨follows, nofun⟩
  | attempt selection result =>
    unfold Routing.iterate at iterated
    rcases selected : Relay.getChannel pricing.ratios selection retryTimes routing param with
      ⟨error, next, param'⟩
    have kept := follows.getChannel selected
    simp only [selected] at iterated
    cases error with
    | some error =>
      cases iterated
      exact .inl ⟨kept, nofun⟩
    | none =>
      cases result with try cases iterated
      | served response => exact kept.settle freezes iterated
      | failed failure => exact .inl ⟨{ kept with }, nofun⟩
      | unreadableBody | limiterDown | rateLimited => exact .inl ⟨kept, nofun⟩

end

variable {retryTimes : ℤ} {userGroup : String} {crossGroupRetry : Bool} {relay : TextRelay}
  {first : FirstChannel}

end

def twoGroups : Pricing where
  ratios :=
    { groupRatio := fun group =>
        if group = "cheap" then some 1 else if group = "dear" then some 2 else none
      groupGroupRatio := fun _ _ => none }
  settings := plainSettings
  engine := linearEngine
  preConsumedQuota := 500
  enableFreeModelPreConsume := true
  model

def onlyIn (group : String) : Selection where
  autoGroups := ["cheap", "dear"]
  getRandomSatisfiedChannel := fun _ other _ => .ok (if other = group then some 1 else none)
  isChannelCoolingDown := fun _ => false
  setupError := none

def searchResponse : Response where
  usage := some { promptTokens := 1000, completionTokens := 100 }
  claudeWebSearchRequests := 1
  writes := ⟨.done, .applied⟩

def crossGroupRun : List Iteration :=
  [.attempt (onlyIn "cheap") (.failed
    { error := ⟨"bad_response_status_code", 500, false, "upstream error"⟩
      disconnected := false, semanticOutput := false, affinitySkip := false
      specificChannel := false }),
  .attempt (onlyIn "dear") (.served searchResponse)]

def retryOnce : RetrySettings := ⟨1, [(500, 599)]⟩

end HelsterApi.Relay
