import HelsterApi.Tasks.Pricing
import Mathlib.Algebra.Order.BigOperators.GroupWithZero.List

/-! What the extra ratios of a task do to its quota. A remix is charged without the ratios of its
origin, since pricing an attempt replaces the price data they were put into. A recalculation from
adjusted ratios divides a truncated quota.
-/

namespace HelsterApi.Tasks

open AList Arithmetic Billing Control List Realtime TaskPriceData
open Relay
open TextBilling (isValidOtherRatio)

/-- Multiplying with a function of the valid ratios other than one multiplies with that of all
positive ratios if it keeps one, by induction on them.
-/
theorem foldl_ratios (factor : ℚ → ℚ) (keepsOne : factor 1 = 1)
    {entries : List (Σ _ : String, ℚ)} (positive : ∀ entry ∈ entries, 0 < entry.2) (value : ℚ)
    : entries.foldl
        (fun value entry =>
          if isValidOtherRatio entry.2 ∧ entry.2 ≠ 1 then value * factor entry.2 else value)
        value
      = value * (entries.map fun entry => factor entry.2).prod := by
  induction entries generalizing value with
  | nil => simp
  | cons entry entries ih =>
    have valid : isValidOtherRatio entry.2 = true := by
      simpa [isValidOtherRatio] using positive entry mem_cons_self
    rw [foldl_cons, ih fun entry member => positive entry (mem_cons_of_mem _ member),
      map_cons, prod_cons]
    by_cases one : entry.2 = 1
    · simp [one, keepsOne]
    · rw [if_pos ⟨valid, one⟩, mul_assoc]

section

variable {price : TaskPriceData} {ratios : RatioMap}

theorem RatioMap.Positive.product_pos (positive : ratios.Positive) : 0 < ratios.product := by
  refine prod_pos fun ratio member => ?_
  obtain ⟨entry, listed, rfl⟩ := mem_map.mp member
  exact positive entry listed

theorem TaskPriceData.otherRatioMultiplier_eq (positive : price.otherRatios.Positive)
    : price.otherRatioMultiplier = price.otherRatios.product := by
  have multiplied := foldl_ratios id rfl positive 1
  rwa [one_mul] at multiplied

theorem TaskPriceData.removeRatios_eq (positive : price.otherRatios.Positive)
    (value : ℚ)
    : price.removeOtherRatiosFromFloat value = value / price.otherRatios.product := by
  simp only [removeOtherRatiosFromFloat, div_eq_mul_inv]
  rw [foldl_ratios (·⁻¹) inv_one positive, RatioMap.product, prod_inv, map_map]
  rfl

structure TaskPriceData.Carries (price price' : TaskPriceData) (ratios : RatioMap) : Prop where
  same : price' = { price with otherRatios := price'.otherRatios }
  entries : price'.otherRatios.entries.Perm ratios.entries

/-- Adding positive ratios under new names puts them in front of those there, by induction on the
added ones.
-/
theorem foldl_addOtherRatio (price : TaskPriceData) {entries : List (Σ _ : String, ℚ)}
    (positive : ∀ entry ∈ entries, 0 < entry.2) (distinct : entries.NodupKeys)
    (fresh : ∀ entry ∈ entries, entry.1 ∉ price.otherRatios)
    : ∃ ratios : RatioMap,
        entries.foldl (fun price entry => price.addOtherRatio entry.1 entry.2) price
          = { price with otherRatios := ratios }
        ∧ ratios.entries = entries.reverse ++ price.otherRatios.entries := by
  induction entries generalizing price with
  | nil => exact ⟨price.otherRatios, rfl, rfl⟩
  | cons entry entries ih =>
    have valid : isValidOtherRatio entry.2 = true := by
      simpa [isValidOtherRatio] using positive entry mem_cons_self
    have new := fresh entry mem_cons_self
    obtain ⟨notLater, distinctRest⟩ := nodupKeys_cons.mp distinct
    have freshRest : ∀ later ∈ entries, later.1 ∉ price.otherRatios.insert entry.1 entry.2 := by
      intro later member inserted
      rcases (mem_insert _).mp inserted with same | old
      · exact notLater (same ▸ mem_keys_of_mem member)
      · exact fresh later (mem_cons_of_mem _ member) old
    obtain ⟨ratios, added, order⟩ :=
      ih { price with otherRatios := price.otherRatios.insert entry.1 entry.2 }
        (fun later member => positive later (mem_cons_of_mem _ member)) distinctRest
        freshRest
    refine ⟨ratios, ?_, ?_⟩
    · rw [foldl_cons, addOtherRatio, if_pos valid, added]
    · rw [order, entries_insert_of_notMem new, reverse_cons, append_assoc, singleton_append]

theorem TaskPriceData.addOtherRatios_carries (empty : price.otherRatios = ∅)
    (positive : ratios.Positive)
    : price.Carries (price.addOtherRatios ratios) ratios := by
  obtain ⟨carried, added, order⟩ := foldl_addOtherRatio price positive ratios.nodupKeys
    fun entry _ => by
      rw [empty]
      exact notMem_empty entry.1
  rw [addOtherRatios, added]
  refine ⟨rfl, ?_⟩
  rw [order, empty, empty_entries, append_nil]
  exact reverse_perm ratios.entries

theorem TaskPriceData.Carries.multiplier {price'}
    (carries : price.Carries price' ratios) (positive : ratios.Positive)
    : price'.otherRatios.Positive ∧ price'.otherRatios.product = ratios.product := by
  refine ⟨fun entry member => positive entry (carries.entries.mem_iff.mp member), ?_⟩
  exact (carries.entries.map Sigma.snd).prod_eq

end

def leftOut (value : ℚ) : ℚ := |value - quotaFromFloat value|

section

variable {pricing : TaskPricing} {modelName : String} {price : TaskPriceData}
  {estimated adjusted : RatioMap}

theorem applyEstimate_quota (unpatched : modelName ∉ pricing.taskPricePatches)
    (empty : price.otherRatios = ∅) (positive : estimated.Positive)
    : (pricing.applyEstimate modelName estimated price).1.quota
        = quotaFromFloat (price.quota * estimated.product)
      ∧ (pricing.applyEstimate modelName estimated price).1.otherRatios.Positive
      ∧ (pricing.applyEstimate modelName estimated price).1.otherRatios.product
        = estimated.product := by
  have carries := addOtherRatios_carries empty positive
  obtain ⟨carriedPositive, carriedProduct⟩ := carries.multiplier positive
  have kept : (price.addOtherRatios estimated).quota = price.quota := by rw [carries.same]
  rw [TaskPricing.applyEstimate, if_neg unpatched]
  refine ⟨?_, carriedPositive, carriedProduct⟩
  rw [applyToQuota, applyOtherRatiosToFloat,
    otherRatioMultiplier_eq carriedPositive, carriedProduct, kept]
  rfl

theorem recalcQuotaFromRatios_eq (oldPositive : price.otherRatios.Positive)
    (positive : adjusted.Positive) (nonempty : adjusted.entries ≠ [])
    : price.recalcQuotaFromRatios adjusted
      = some (quotaFromFloat
          (adjusted.product / price.otherRatios.product * price.quota)) := by
  have carries : ({ price with otherRatios := ∅ } : TaskPriceData).Carries
      (({ price with otherRatios := ∅ } : TaskPriceData).addOtherRatios adjusted) adjusted :=
    addOtherRatios_carries rfl positive
  obtain ⟨carriedPositive, carriedProduct⟩ := carries.multiplier positive
  have left : (({ price with otherRatios := ∅ } : TaskPriceData).addOtherRatios
      adjusted).otherRatios.entries.isEmpty = false := by
    rw [isEmpty_eq_false_iff]
    intro gone
    have noEntries := carries.entries
    rw [gone] at noEntries
    exact nonempty noEntries.nil_eq.symm
  rw [recalcQuotaFromRatios, replaceOtherRatios]
  simp only [left, Bool.not_false, if_true]
  rw [applyOtherRatiosToFloat, otherRatioMultiplier_eq carriedPositive,
    carriedProduct, removeRatios_eq oldPositive]
  congr 2
  ring

/-- A quota that was charged with the estimated ratios is recalculated to the quota of the
adjusted ones exactly if what the first truncation left out, scaled from the estimated to
the adjusted ratios, is no more than what the quota of the adjusted ratios leaves out.
-/
theorem recalculated_quota_iff (pricing : TaskPricing) (modelName : String) (price : TaskPriceData)
    (estimated adjusted : RatioMap) (unpatched : modelName ∉ pricing.taskPricePatches)
    (empty : price.otherRatios = ∅) (estimatedPositive : estimated.Positive)
    (adjustedPositive : adjusted.Positive) (nonempty : adjusted.entries ≠ [])
    : (pricing.applyEstimate modelName adjusted price).1.quota
        = quotaFromFloat (price.quota * adjusted.product)
      ∧ ((pricing.applyEstimate modelName estimated price).1.recalcQuotaFromRatios adjusted
          = some (pricing.applyEstimate modelName adjusted price).1.quota
        ↔ adjusted.product / estimated.product * leftOut (price.quota * estimated.product)
          ≤ leftOut (price.quota * adjusted.product)) := by
  obtain ⟨charged, oldPositive, oldProduct⟩ := applyEstimate_quota unpatched empty estimatedPositive
  obtain ⟨direct, _, _⟩ := applyEstimate_quota unpatched empty adjustedPositive
  refine ⟨direct, ?_⟩
  have scalePositive := div_pos adjustedPositive.product_pos estimatedPositive.product_pos
  have rescaled : adjusted.product / estimated.product * (price.quota * estimated.product)
      = price.quota * adjusted.product := by
    have nonzero := estimatedPositive.product_pos.ne'
    field_simp
  have low : minQuota < 0 := by decide
  have high : 0 < maxQuota := by decide
  have scaled := truncateWithin_scale_iff low high scalePositive
    (price.quota * estimated.product)
  rw [rescaled] at scaled
  rw [recalcQuotaFromRatios_eq oldPositive adjustedPositive nonempty, charged, oldProduct,
    direct, Option.some_inj]
  simp only [leftOut, quotaFromFloat_eq]
  exact scaled

end

def fixedPricing : TaskPricing where
  ratios := ⟨fun _ => some 1, fun _ _ => none⟩
  modelPriceMap := fun name => if name = "sora-2-pro" then some 0.2 else none
  defaultModelPrice := fun _ => none
  modelRatioMap := fun _ => none
  selfUseModeEnabled := false
  quotaPerUnit := 500000
  enableFreeModelPreConsume := false
  taskPricePatches := []
  isAdmin := fun _ => false
  formatFloat := fun _ => ""

def fifthOfUnit : TaskPriceData where
  modelPrice := 0.2
  usePrice := true
  quota := 100000
  groupRatio := 1

/-- A video of eight seconds that turns out to have four loses nothing. -/
theorem recalculated_quota_iff_seconds
    : (fixedPricing.applyEstimate "sora-2-pro" (singleton "seconds" 8)
          fifthOfUnit).1.recalcQuotaFromRatios (singleton "seconds" 4)
        = some (fixedPricing.applyEstimate "sora-2-pro" (singleton "seconds" 4)
          fifthOfUnit).1.quota :=
  (recalculated_quota_iff fixedPricing "sora-2-pro" fifthOfUnit
    (singleton "seconds" 8) (singleton "seconds" 4) (by decide) rfl
    (by decide +kernel) (by decide +kernel) (by decide)).2.mpr (by decide +kernel)

/-- A video estimated at the large size that turns out small is charged one less than a small one.
-/
theorem recalculated_quota_loses_one
    : (fixedPricing.applyEstimate "sora-2-pro" (singleton "size" 1.666667)
          fifthOfUnit).1.quota = 166666
      ∧ (fixedPricing.applyEstimate "sora-2-pro" (singleton "size" 1.666667)
          fifthOfUnit).1.recalcQuotaFromRatios (singleton "size" 1) = some 99999
      ∧ (fixedPricing.applyEstimate "sora-2-pro" (singleton "size" 1)
          fifthOfUnit).1.quota = 100000 := by
  decide +kernel

theorem TaskAdaptor.estimateBilling_remix {adaptor : TaskAdaptor} {action}
    (remix : adaptor.setAction action = .remixGenerate)
    : adaptor.estimateBilling .remixGenerate = ∅ := by
  cases adaptor with
  | sora | plain => rfl
  | estimating hasImage ratios => cases hasImage <;> cases remix

section

variable {pricing : TaskPricing} {attempt : TaskAttempt} {info info' : TaskRelayInfo}

variable {price : TaskPriceData}

theorem priceHelperPerCall_ok (priced : (modelPriceHelperPerCall pricing info).1 = .ok price)
    : price.otherRatios = ∅ ∧ minQuota < price.quota ∧ price.quota < maxQuota
      ∧ price.groupRatio = (handleGroupRatio pricing.ratios info.routing).1 := by
  obtain ⟨callPrice, _, converted⟩ := bind_eq_ok.mp priced
  rw [mapError_eq_ok] at converted
  have bounds : ∀ {free : Prop} [Decidable free] {quota : ℤ},
      minQuota < quota ∧ quota < maxQuota
      → minQuota < (if free then 0 else quota) ∧ (if free then 0 else quota) < maxQuota := by
    intro free _ quota inside
    split
    · decide
    · exact inside
  cases callPrice with
  | price | ratio =>
    obtain ⟨quota, strict, rfl⟩ := map_eq_ok.mp converted
    exact ⟨rfl, (bounds (strictQuota_ok strict)).1, (bounds (strictQuota_ok strict)).2, rfl⟩

theorem TaskAttempt.price_ok (priced : attempt.price pricing info = (.ok price, info'))
    : ∃ base, (modelPriceHelperPerCall pricing (attempt.prepare info)).1 = .ok base
      ∧ price = (pricing.applyEstimate (attempt.prepare info).originModelName
          (attempt.adaptor.estimateBilling (attempt.prepare info).action) base).1
      ∧ info'.routing = (handleGroupRatio pricing.ratios info.routing).2
      ∧ info'.priceData = price := by
  unfold TaskAttempt.price at priced
  split at priced
  · cases priced
  dsimp only at priced
  split at priced
  · cases priced
  rename_i base routing called
  cases priced
  refine ⟨base, by rw [called], rfl, ?_, rfl⟩
  exact (congrArg Prod.snd called).symm

variable {cfg : TaskSettings} {relayInfo : RelayInfo} {billing : Option BillingSession} {l : Ledger}
  {result : TaskSubmitResult} {rest : Option BillingSession × Ledger}

theorem relayTaskSubmit_ok {sub}
    (submitted : relayTaskSubmit cfg sub relayInfo billing l = (.ok result, rest))
    : sub.rejected = none
      ∧ ∃ answer, sub.response = .ok answer
        ∧ result.quota = answer.adjustedQuota.getD sub.quota := by
  unfold relayTaskSubmit at submitted
  split at submitted
  · cases submitted
  rename_i notRejected
  split at submitted
  · cases submitted
  split at submitted
  · cases submitted
  rename_i answer answered
  cases submitted
  exact ⟨notRejected, answer, answered, rfl⟩

theorem applyEstimate_empty {modelName base}
    (empty : base.otherRatios = ∅) (low : minQuota < base.quota) (high : base.quota < maxQuota)
    : (pricing.applyEstimate modelName ∅ base).1.quota = base.quota := by
  by_cases patched : modelName ∈ pricing.taskPricePatches
  · rw [TaskPricing.applyEstimate, if_pos patched]
    rfl
  · have none : (∅ : RatioMap).Positive := fun entry member => by cases member
    rw [(applyEstimate_quota patched empty none).1, quotaFromFloat_eq, RatioMap.product,
      empty_entries, map_nil, prod_nil, mul_one]
    exact truncateWithin_intCast low.le high.le

/-- The ratios of the origin are put into the price data of a remix, but the quota charged
for it is that of one call with these ratios exactly if the call costs nothing, or the
ratios multiply to at least one and add less than one to its quota.
-/
theorem remix_quota_iff (pricing : TaskPricing) (cfg : TaskSettings) (reads : OriginReads)
    (request : TaskRelayInfo) (earlier : List TaskAttempt) (attempt : TaskAttempt)
    (relayInfo : RelayInfo) (billing : Option BillingSession) (l : Ledger) {origin}
    {context : TaskBillingContext} {result : TaskSubmitResult} (path : request.remixPath = true)
    (found : reads.getByTaskId request.userId request.videoId = .ok (some origin))
    (billed : origin.billingContext = some context)
    (resolved : resolveOriginTask reads request = .ok info)
    (remix : (attempt.prepare (info.after pricing earlier)).action = .remixGenerate)
    (submitted : (relayTaskSubmit cfg
      (attempt.submission pricing (info.after pricing earlier)).1 relayInfo billing l).1
        = .ok result)
    : info.priceData = request.priceData.addOtherRatios context.otherRatios
      ∧ ∃ base, (modelPriceHelperPerCall pricing
            (attempt.prepare (info.after pricing earlier))).1 = .ok base
          ∧ (result.quota = quotaFromFloat (base.quota * context.otherRatios.product)
            ↔ base.quota = 0
              ∨ 1 ≤ context.otherRatios.product
                ∧ |(base.quota : ℚ)| * (context.otherRatios.product - 1) < 1) := by
  have preset : info.priceData = origin.addRatios request.priceData := by
    simp only [resolveOriginTask, path, if_true] at resolved
    obtain ⟨named, resolved⟩ := ite_error_eq_ok.mp resolved
    have nonempty : request.videoId ≠ "" := by
      intro blank
      rw [blank] at named
      exact named ⟨trivial, rfl⟩
    rw [if_neg nonempty, found] at resolved
    obtain ⟨enabled, _, resolved⟩ := bind_eq_ok.mp resolved
    obtain ⟨_, resolved⟩ := ite_error_eq_ok.mp resolved
    obtain ⟨_, _, resolved⟩ := bind_eq_ok.mp resolved
    cases resolved
    rfl
  rw [OriginTask.addRatios, billed] at preset
  obtain ⟨notRejected, answer, answered, charged⟩ := relayTaskSubmit_ok (Prod.ext submitted rfl)
  unfold TaskAttempt.submission at notRejected answered charged
  split at notRejected
  · cases notRejected
  rename_i price info' priced
  obtain ⟨base, called, same, _⟩ := TaskAttempt.price_ok priced
  simp only [priced] at answered charged
  obtain ⟨_, _, rfl⟩ := map_eq_ok.mp answered
  replace charged := charged.trans (congrArg quota same)
  obtain ⟨empty, low, high, _⟩ := priceHelperPerCall_ok called
  refine ⟨preset, base, called, ?_⟩
  rw [charged, remix, TaskAdaptor.estimateBilling_remix remix,
    applyEstimate_empty empty low high, quotaFromFloat_eq, eq_comm]
  exact truncateWithin_mul_eq_self_iff (by decide) (by decide) low high _

end

def tenUnitsOpening : OpenOutcome where
  userQuota := .ok 5000000
  wallet := { samplePreConsume with tokenRead := .ok 5000000 }
  subscription := samplePreConsume
  hasActiveSubscription := .ok false
  allowWalletOverflow := .ok true

def tenUnits : Ledger where
  userQuota := 5000000
  tokenRemain := 5000000
  tokenUsed := 0
  subs := fun _ => none
  records := fun _ => none

def originBilled (ratios : RatioMap) : OriginReads where
  getByTaskId := fun _ _ =>
    .ok (some {
      channelId := 3
      originModelName := "sora-2-pro"
      billingContext := some { otherRatios := ratios } })
  channelEnabled := fun _ => .ok true
  getNextEnabledKey := fun _ => .ok "key"

def remixRequest : TaskRelayInfo where
  userId := 1
  path := "/v1/videos/task_1/remix"
  videoId := "task_1"
  routing := { tokenGroup := "default", userGroup := "default", usingGroup := "default" }

def soraAttempt : TaskAttempt where
  rejected := none
  adaptor := .sora {}
  actionModelName := ""
  opening := tenUnitsOpening
  response := .ok ⟨"video_1", "", .video, none⟩

def resolvedRemix (ratios : RatioMap) : TaskRelayInfo :=
  { remixRequest with
    action := .remixGenerate
    originTaskID := "task_1"
    originModelName := "sora-2-pro"
    channelId := 3
    lockedChannel := some 3
    priceData := ({} : TaskPriceData).addOtherRatios ratios }

def remixResult : TaskSubmitResult := ⟨"video_1", "", .video, 100000⟩

/-- The remix of a task that was billed at the small size is charged right. -/
theorem remix_quota_iff_small
    : ∃ base, (modelPriceHelperPerCall fixedPricing
          (soraAttempt.prepare (resolvedRemix (singleton "size" 1)))).1 = .ok base
        ∧ remixResult.quota
          = quotaFromFloat (base.quota * RatioMap.product (singleton "size" 1)) := by
  have resolved : resolveOriginTask (originBilled (singleton "size" 1)) remixRequest
      = .ok (resolvedRemix (singleton "size" 1)) := rfl
  have submitted : (relayTaskSubmit sampleSettings
      (soraAttempt.submission fixedPricing (resolvedRemix (singleton "size" 1))).1
      sampleInfo none tenUnits).1 = .ok remixResult := by
    decide +kernel
  obtain ⟨_, base, called, charged⟩ := remix_quota_iff fixedPricing sampleSettings
    (originBilled (singleton "size" 1)) remixRequest [] soraAttempt sampleInfo none
    tenUnits (by decide +kernel) rfl rfl resolved rfl submitted
  exact ⟨base, called, charged.mpr (.inr (by simp [RatioMap.product]))⟩

/-- The remix of a task billed for twelve seconds at the large size is charged for one call, without
the ratios.
-/
theorem remix_charged_without_ratios
    : ∃ info, resolveOriginTask
          (originBilled ((singleton "seconds" 12).insert "size" 1.666667)) remixRequest
          = .ok info
        ∧ info.priceData.otherRatioMultiplier = 20.000004
        ∧ (relayTaskSubmit sampleSettings (soraAttempt.submission fixedPricing info).1
            sampleInfo none tenUnits).1 = .ok remixResult
        ∧ remixResult.quota = 100000
        ∧ quotaFromFloat (100000 * 20.000004) = 2000000 :=
  ⟨resolvedRemix ((singleton "seconds" 12).insert "size" 1.666667), rfl,
    by decide +kernel, by decide +kernel, rfl, by decide +kernel⟩

end HelsterApi.Tasks
