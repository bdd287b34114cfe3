import HelsterApi.Channels.Cache
import HelsterApi.Sampling.Weighted
import HelsterApi.Tasks.Pricing

/-! The channel of a request, selected from the cached candidates of its group and model: by the
retry's priority first, then by weight. Each is picked as often as its weight says, for each time it
is listed.
-/

namespace HelsterApi.Channels

open Channel ChannelCache List Sampling Transition
open Tasks (formatMatchingModelName)

def ChannelCache.listed (cache : ChannelCache) (group model : String) : List ℤ :=
  ((cache.group2model2channels group).map fun models => models model).getD []

/-- `filterChannelsByRequestPathAndModel`: advanced custom channels are kept if a route of theirs
matches, unknown channels so that their absence is reported.
-/
def ChannelCache.filterChannelsByRequestPathAndModel (cache : ChannelCache)
    (channels : List ℤ) (requestPath model : String)
    : List ℤ :=
  if requestPath = "" ∨ channels = [] then channels
  else
    channels.filter fun channelId =>
      match cache.channelsIDM channelId with
      | none => true
      | some channel =>
        if channel.type ≠ channelTypeAdvancedCustom then true
        else
          match cache.channel2advancedCustomConfig channelId with
          | some config => config.supportsPathForModel requestPath model
          | none => false

/-- The candidates for a request: the channels of the exact model name, else of the normalised one.
-/
def ChannelCache.candidates (cache : ChannelCache) (group model requestPath : String) : List ℤ :=
  let channels := cache.filterChannelsByRequestPathAndModel (cache.listed group model)
    requestPath model
  if channels = [] then
    cache.filterChannelsByRequestPathAndModel
      (cache.listed group (formatMatchingModelName model)) requestPath model
  else channels

def ChannelCache.lookup (cache : ChannelCache) (channelId : ℤ) : Except String Channel :=
  match cache.channelsIDM channelId with
  | some channel => .ok channel
  | none => .error s!"数据库一致性错误，渠道# {channelId} 不存在，请联系管理员修复"

def routesBefore (left right : Channel) : Bool :=
  if left.responseTime = 0 ∧ right.responseTime ≠ 0 then false
  else if right.responseTime = 0 ∧ left.responseTime ≠ 0 then true
  else if left.responseTime ≠ right.responseTime then left.responseTime < right.responseTime
  else if left.getWeight ≠ right.getWeight then left.getWeight > right.getWeight
  else left.id < right.id

def sortChannelsForRouting (channels : List Channel) : List Channel :=
  channels.insertionSort fun left right => ¬routesBefore right left

/-- The weights that a draw goes by: their sum, and what the weight of a channel is multiplied by
and increased by.
-/
structure Smoothing where
  (sumWeight smoothingFactor smoothingAdjustment : ℤ)

def smooth (sumWeight : ℤ) (channels : ℕ) : Smoothing :=
  if sumWeight = 0 then ⟨channels * 100, 1, 100⟩
  else if sumWeight / channels < 10 then ⟨sumWeight, 100, 0⟩
  else ⟨sumWeight, 1, 0⟩

/-- `rand.Intn` panics without a positive bound. -/
def intnPanic : String := "invalid argument to Intn"

/-- The channel of the target priority that a draw picks. `intn` is what `rand.Intn` yields for each
bound.
-/
def drawChannel (targetChannels : List Channel) (sumWeight : ℤ) (intn : ℤ → ℤ)
    : Except String (Option Channel) :=
  let smoothing := smooth sumWeight targetChannels.length
  let totalWeight := smoothing.sumWeight * smoothing.smoothingFactor
  if totalWeight ≤ 0 then .error intnPanic
  else
    match pick
        (fun channel => channel.getWeight * smoothing.smoothingFactor
          + smoothing.smoothingAdjustment)
        targetChannels (intn totalWeight) with
    | some channel => .ok (some channel)
    | none => .error "channel not found"

def selectChannel (group model : String) (retry : ℕ) (channels : List Channel) (intn : ℤ → ℤ)
    : Except String (Option Channel) :=
  let uniquePriorities := (channels.map getPriority).dedup
  let sortedUniquePriorities := uniquePriorities.insertionSort (· ≥ ·)
  let retry :=
    if retry ≥ uniquePriorities.length then uniquePriorities.length - 1 else retry
  match sortedUniquePriorities[retry]? with
  | none => .error "index out of range"
  | some targetPriority =>
    let targetChannels := channels.filter fun channel =>
      channel.getPriority = targetPriority
    if targetChannels = [] then
      .error s!"no channel found, group: {group}, model: {model}, priority: {targetPriority}"
    else
      drawChannel (sortChannelsForRouting targetChannels)
        (targetChannels.map getWeight).sum intn

def ChannelCache.getRandomSatisfiedChannel (cache : ChannelCache) (group model : String)
    (retry : ℕ) (requestPath : String) (intn : ℤ → ℤ)
    : Except String (Option Channel) :=
  match cache.candidates group model requestPath with
  | [] => .ok none
  | [channelId] => (cache.lookup channelId).map some
  | channels =>
    (channels.mapM cache.lookup).bind fun found =>
      selectChannel group model retry found intn

def priorities (channels : List Channel) : Finset ℤ := (channels.map getPriority).toFinset

/-- The priority is the one for a retry: as many distinct ones are higher, or all others if there
are fewer.
-/
def IsRetryPriority (channels : List Channel) (retry : ℕ) (priority : ℤ) : Prop :=
  HasRank (priorities channels) (min retry ((priorities channels).card - 1)) priority

def ofPriority (channels : List Channel) (priority : ℤ) : List Channel :=
  channels.filter fun channel => channel.getPriority = priority

/-- The weight of a channel among others: a hundred each if all weigh nothing, a hundred
times its own if they weigh less than ten on average.
-/
def effectiveWeight (channels : List Channel) (channel : Channel) : ℤ :=
  if ∀ other ∈ channels, other.getWeight = 0 then 100
  else if (channels.map getWeight).sum < 10 * channels.length then 100 * channel.getWeight
  else channel.getWeight

def totalWeight (channels : List Channel) : ℤ := (channels.map (effectiveWeight channels)).sum

def ChannelCache.candidateChannels (cache : ChannelCache) (group model requestPath : String)
    : List Channel := (cache.candidates group model requestPath).filterMap cache.channelsIDM

/-- Each value below the total weight selects a channel, and each channel is selected by as many
values as it effectively weighs. `select` is given what `rand.Intn` yields for each bound.
-/
structure DrawsByWeight (channels : List Channel)
    (select : (ℤ → ℤ) → Except String (Option Channel))
    : Prop where
  positive : 0 < totalWeight channels
  picks : ∀ intn : ℤ → ℤ, 0 ≤ intn (totalWeight channels)
    → intn (totalWeight channels) < totalWeight channels
    → ∃ channel ∈ channels, select intn = .ok (some channel)
  counts : ∀ draws : ℤ → ℤ → ℤ, (∀ r, draws r (totalWeight channels) = r)
    → ∀ channel ∈ channels,
      (((Finset.Ico 0 (totalWeight channels)).filter fun r =>
          select (draws r) = .ok (some channel)).card : ℤ)
        = effectiveWeight channels channel

def PicksByWeight (channels : List Channel) (retry : ℕ)
    (select : (ℤ → ℤ) → Except String (Option Channel))
    : Prop :=
  ∃ priority, IsRetryPriority channels retry priority
    ∧ DrawsByWeight (ofPriority channels priority) select

theorem Channel.getWeight_nonneg (channel : Channel) : 0 ≤ channel.getWeight := Int.natCast_nonneg _

theorem sum_getWeight_nonneg (channels : List Channel) : 0 ≤ (channels.map getWeight).sum := by
  refine sum_nonneg ?_
  intro value listed
  obtain ⟨channel, _, rfl⟩ := mem_map.mp listed
  exact channel.getWeight_nonneg

theorem sum_getWeight_eq_zero_iff (channels : List Channel)
    : (channels.map getWeight).sum = 0
      ↔ ∀ channel ∈ channels, channel.getWeight = 0 := by
  induction channels with
  | nil => simp
  | cons first rest ih =>
    have firstWeighs := first.getWeight_nonneg
    have restWeigh := sum_getWeight_nonneg rest
    rw [map_cons, sum_cons, forall_mem_cons, ← ih]
    omega

def smoothedWeight (channels : List Channel) (channel : Channel) : ℤ :=
  channel.getWeight
      * (smooth (channels.map getWeight).sum channels.length).smoothingFactor
    + (smooth (channels.map getWeight).sum channels.length).smoothingAdjustment

variable {channels : List Channel} {channel : Channel}

/-- The smoothed weight of each channel is its effective weight. The average is below ten exactly if
its integer part is.
-/
theorem smoothedWeight_eq (member : channel ∈ channels)
    : smoothedWeight channels channel = effectiveWeight channels channel := by
  have some : 0 < (channels.length : ℤ) := Int.natCast_pos.mpr (length_pos_of_mem member)
  have average : (channels.map getWeight).sum / (channels.length : ℤ) < 10
      ↔ (channels.map getWeight).sum < 10 * channels.length := Int.ediv_lt_iff_lt_mul some
  unfold smoothedWeight effectiveWeight smooth
  by_cases nothing : (channels.map getWeight).sum = 0
  · have weighsNothing := (sum_getWeight_eq_zero_iff channels).mp nothing
    simp only [nothing, if_true, weighsNothing channel member]
    rw [if_pos weighsNothing]
    rfl
  · rw [if_neg nothing, if_neg (mt (sum_getWeight_eq_zero_iff channels).mpr nothing)]
    by_cases small : (channels.map getWeight).sum < 10 * channels.length
    · rw [if_pos (average.mpr small), if_pos small]
      ring
    · rw [if_neg (mt average.mp small), if_neg small]
      ring

theorem smooth_spec {sumWeight channels} (weighs : 0 ≤ sumWeight) (some : 0 < channels)
    : (smooth sumWeight channels).sumWeight * (smooth sumWeight channels).smoothingFactor
        = sumWeight * (smooth sumWeight channels).smoothingFactor
          + channels * (smooth sumWeight channels).smoothingAdjustment
      ∧ 0 < (smooth sumWeight channels).sumWeight
          * (smooth sumWeight channels).smoothingFactor
      ∧ 0 ≤ (smooth sumWeight channels).smoothingFactor
      ∧ 0 ≤ (smooth sumWeight channels).smoothingAdjustment := by
  unfold smooth
  split_ifs <;> refine ⟨?_, ?_, ?_, ?_⟩ <;> dsimp only <;> omega

/-- Scaled and increased weights sum up to the scaled and increased sum, by induction on the
channels.
-/
theorem sum_scaled (channels : List Channel) (factor adjustment)
    : (channels.map fun channel => channel.getWeight * factor + adjustment).sum
      = (channels.map getWeight).sum * factor + channels.length * adjustment := by
  induction channels with
  | nil => simp
  | cons first rest ih =>
    simp only [map_cons, sum_cons, length_cons, ih, Nat.cast_succ]
    ring

theorem smooth_total (nonempty : channels ≠ [])
    : (smooth (channels.map getWeight).sum channels.length).sumWeight
          * (smooth (channels.map getWeight).sum channels.length).smoothingFactor
        = (channels.map (smoothedWeight channels)).sum
      ∧ 0 < (channels.map (smoothedWeight channels)).sum := by
  obtain ⟨scales, positive, _⟩ :=
    smooth_spec (sum_getWeight_nonneg channels) (length_pos_of_ne_nil nonempty)
  have total : (channels.map (smoothedWeight channels)).sum
      = (smooth (channels.map getWeight).sum channels.length).sumWeight
        * (smooth (channels.map getWeight).sum channels.length).smoothingFactor :=
    (sum_scaled channels _ _).trans scales.symm
  rw [total]
  exact ⟨rfl, positive⟩

theorem totalWeight_eq (channels : List Channel)
    : totalWeight channels = (channels.map (smoothedWeight channels)).sum := by
  refine congrArg sum (map_congr_left ?_)
  intro channel member
  exact (smoothedWeight_eq member).symm

theorem perm_sortChannelsForRouting (channels)
    : (sortChannelsForRouting channels).Perm channels := perm_insertionSort _ _

theorem sum_sorted (channels)
    : ((sortChannelsForRouting channels).map (smoothedWeight channels)).sum
      = totalWeight channels := by
  rw [totalWeight_eq]
  exact ((perm_sortChannelsForRouting channels).map _).sum_eq

section

variable {channels : List Channel} {select : (ℤ → ℤ) → Except String (Option Channel)}

/-- A selection draws from the channels, at least where the drawn value is below their total weight.
-/
def Draws (channels : List Channel) (select : (ℤ → ℤ) → Except String (Option Channel)) : Prop :=
  ∀ intn : ℤ → ℤ, 0 ≤ intn (totalWeight channels)
    → intn (totalWeight channels) < totalWeight channels
    → select intn
      = drawChannel (sortChannelsForRouting channels) (channels.map getWeight).sum intn

variable (draws : Draws channels select)

include draws

variable (nonempty : channels ≠ [])

include nonempty

theorem Draws.eq_some_iff {intn} (start : 0 ≤ intn (totalWeight channels))
    (below : intn (totalWeight channels) < totalWeight channels) (channel)
    : select intn = .ok (some channel)
      ↔ pick (smoothedWeight channels) (sortChannelsForRouting channels)
          (intn (totalWeight channels)) = some channel := by
  obtain ⟨bound, positive⟩ := smooth_total nonempty
  have length := (perm_sortChannelsForRouting channels).length_eq
  rw [draws intn start below, totalWeight_eq]
  simp only [drawChannel, length, bound, if_neg (not_le.mpr positive)]
  change (match pick (smoothedWeight channels) _ _ with
    | some channel => _
    | none => _) = _ ↔ _
  cases pick (smoothedWeight channels) (sortChannelsForRouting channels) _ <;> simp

theorem Draws.picks {intn} (start : 0 ≤ intn (totalWeight channels))
    (below : intn (totalWeight channels) < totalWeight channels)
    : ∃ channel ∈ channels, select intn = .ok (some channel) := by
  have inSum : intn (totalWeight channels)
      < ((sortChannelsForRouting channels).map (smoothedWeight channels)).sum := by
    rwa [sum_sorted]
  obtain ⟨channel, member, picked⟩ := exists_pick start inSum
  exact ⟨channel, (perm_sortChannelsForRouting channels).mem_iff.mp member,
    (draws.eq_some_iff nonempty start below channel).mpr picked⟩

theorem Draws.counts (drawn : ℤ → ℤ → ℤ) (yields : ∀ r, drawn r (totalWeight channels) = r)
    (member : channel ∈ channels)
    : (((Finset.Ico 0 (totalWeight channels)).filter fun r =>
          select (drawn r) = .ok (some channel)).card : ℤ)
      = channels.count channel * effectiveWeight channels channel := by
  have picks : ∀ r ∈ Finset.Ico 0 (totalWeight channels),
      (select (drawn r) = .ok (some channel)
        ↔ pick (smoothedWeight channels) (sortChannelsForRouting channels) r
          = some channel) := by
    intro r inside
    obtain ⟨start, below⟩ := Finset.mem_Ico.mp inside
    have startDrawn : 0 ≤ drawn r (totalWeight channels) := by rwa [yields r]
    have belowDrawn : drawn r (totalWeight channels) < totalWeight channels := by
      rwa [yields r]
    rw [draws.eq_some_iff nonempty startDrawn belowDrawn channel, yields r]
  have weighs : ∀ other ∈ sortChannelsForRouting channels, 0 ≤ smoothedWeight channels other := by
    intro other _
    obtain ⟨_, _, factor, adjustment⟩ :=
      smooth_spec (sum_getWeight_nonneg channels) (length_pos_of_ne_nil nonempty)
    exact add_nonneg (mul_nonneg other.getWeight_nonneg factor) adjustment
  have counted := card_pick weighs channel
  rw [sum_sorted, (perm_sortChannelsForRouting channels).count_eq channel,
    smoothedWeight_eq member] at counted
  rw [Finset.filter_congr picks, counted]

theorem Draws.byWeight_iff
    : DrawsByWeight channels select
      ↔ ∀ channel ∈ channels, effectiveWeight channels channel ≠ 0
          → channels.count channel = 1 := by
  constructor
  · intro byWeight channel member weighs
    have counted := draws.counts nonempty (fun r _ => r) (fun _ => rfl) member
    rw [byWeight.counts (fun r _ => r) (fun _ => rfl) channel member] at counted
    have once := mul_right_cancel₀ weighs (counted.symm.trans (one_mul _).symm)
    exact_mod_cast once
  · intro once
    refine ⟨?_, ?_, ?_⟩
    · rw [totalWeight_eq]
      exact (smooth_total nonempty).2
    · exact fun _ => draws.picks nonempty
    · intro drawn yields channel member
      rw [draws.counts nonempty drawn yields member]
      by_cases weighs : effectiveWeight channels channel = 0
      · rw [weighs, mul_zero]
      · rw [once channel member weighs, Nat.cast_one, one_mul]

end

theorem pairwise_sortedPriorities (values : List ℤ)
    : (values.dedup.insertionSort (· ≥ ·)).Pairwise (· > ·) := by
  have sorted := pairwise_insertionSort (· ≥ ·) values.dedup
  have distinct := (perm_insertionSort (· ≥ ·) values.dedup).nodup_iff.mpr (nodup_dedup values)
  exact (sorted.and distinct).imp fun ⟨above, different⟩ => lt_of_le_of_ne above different.symm

theorem exists_retryPriority {values : List ℤ} (nonempty : values ≠ []) (retry)
    : ∃ priority,
      (values.dedup.insertionSort (· ≥ ·))[
          if retry ≥ values.dedup.length then values.dedup.length - 1 else retry]?
        = some priority
      ∧ HasRank values.toFinset (min retry (values.toFinset.card - 1)) priority := by
  have permuted := perm_insertionSort (· ≥ ·) values.dedup
  have same : (values.dedup.insertionSort (· ≥ ·)).toFinset = values.toFinset := by
    ext priority
    rw [mem_toFinset, permuted.mem_iff, mem_dedup, mem_toFinset]
  have card : values.toFinset.card = values.dedup.length := card_toFinset _
  have some : 0 < values.dedup.length := by
    rwa [length_pos_iff, Ne, dedup_eq_nil]
  have position : (if retry ≥ values.dedup.length then values.dedup.length - 1 else retry)
      = min retry (values.toFinset.card - 1) := by
    rw [card]
    split <;> omega
  have inside : min retry (values.toFinset.card - 1)
      < (values.dedup.insertionSort (· ≥ ·)).length := by
    rw [permuted.length_eq, card]
    omega
  rw [position]
  refine ⟨_, getElem?_eq_getElem inside, ?_⟩
  have rank := hasRank_of_getElem? (pairwise_sortedPriorities _)
    (getElem?_eq_getElem inside)
  rwa [same] at rank

theorem IsRetryPriority.ofPriority_ne_nil {retry priority}
    (isRetry : IsRetryPriority channels retry priority)
    : ofPriority channels priority ≠ [] := by
  obtain ⟨channel, member, same⟩ := mem_map.mp (mem_toFinset.mp isRetry.1)
  exact ne_nil_of_mem (mem_filter.mpr ⟨member, decide_eq_true same⟩)

theorem draws_single (retry channel)
    : ∃ priority, IsRetryPriority [channel] retry priority
      ∧ Draws (ofPriority [channel] priority) fun _ => .ok (some channel) := by
  obtain ⟨priority, _, isRetry⟩ := exists_retryPriority (cons_ne_nil channel.getPriority []) retry
  have same : priority = channel.getPriority := by simpa using isRetry.1
  have only : ofPriority [channel] priority = [channel] := by
    refine filter_eq_self.mpr ?_
    intro listed isListed
    rw [mem_singleton.mp isListed, decide_eq_true_iff, same]
  refine ⟨priority, isRetry, ?_⟩
  rw [only]
  intro intn start below
  obtain ⟨picked, isPicked, selected⟩ :=
    Draws.picks (fun _ _ _ => rfl) (cons_ne_nil channel []) start below
  rw [mem_singleton.mp isPicked] at selected
  exact selected.symm

section

variable {cache : ChannelCache} {group model requestPath : String}

theorem lists_of_mem_candidates {id} (member : id ∈ cache.candidates group model requestPath)
    : Listing.Lists cache.group2model2channels id := by
  have ofFilter {channels : List ℤ} (kept : id ∈
      cache.filterChannelsByRequestPathAndModel channels requestPath model)
      : id ∈ channels := by
    unfold filterChannelsByRequestPathAndModel at kept
    split at kept
    · exact kept
    · exact mem_of_mem_filter kept
  have ofListed {model : String} (listed : id ∈ cache.listed group model)
      : Listing.Lists cache.group2model2channels id := by
    unfold ChannelCache.listed at listed
    cases found : cache.group2model2channels group with
    | none => simp [found] at listed
    | some models =>
      rw [found] at listed
      exact ⟨group, models, model, found, listed⟩
  dsimp only [candidates] at member
  split at member <;> exact ofListed (ofFilter member)

/-- Known channels are all looked up, by induction on their ids. -/
theorem mapM_lookup {ids : List ℤ}
    (known : ∀ id ∈ ids, ∃ channel, cache.channelsIDM id = some channel)
    : ids.mapM cache.lookup = .ok (ids.filterMap cache.channelsIDM) := by
  induction ids with
  | nil => rfl
  | cons id rest ih =>
    obtain ⟨channel, found⟩ := known id mem_cons_self
    have onwards := ih fun other member => known other (mem_cons_of_mem _ member)
    rw [mapM_cons, onwards, ChannelCache.lookup, filterMap_cons, found]
    rfl

/-- A channel is among those of some ids as often as its id is, by induction on the ids. -/
theorem count_filterMap {known} (keyed : Keyed known)
    (found : known channel.id = some channel) (ids : List ℤ)
    : (ids.filterMap known).count channel = ids.count channel.id := by
  induction ids with
  | nil => rfl
  | cons id rest ih =>
    by_cases same : id = channel.id
    · rw [same, filterMap_cons_some found, count_cons_self, count_cons_self, ih]
    · rw [count_cons_of_ne same, ← ih]
      cases stored : known id with
      | none => rw [filterMap_cons_none stored]
      | some other =>
        have different : other ≠ channel := by
          rintro rfl
          exact same (keyed id other stored).symm
        rw [filterMap_cons_some stored, count_cons_of_ne different]

theorem ChannelCache.Consistent.draws (consistent : cache.Consistent) (retry)
    (candidates : cache.candidates group model requestPath ≠ [])
    : ∃ priority,
      IsRetryPriority (cache.candidateChannels group model requestPath) retry priority
      ∧ Draws (ofPriority (cache.candidateChannels group model requestPath) priority)
          (cache.getRandomSatisfiedChannel group model retry requestPath) := by
  have known : ∀ id ∈ cache.candidates group model requestPath,
      ∃ channel, cache.channelsIDM id = some channel :=
    fun id member => consistent.known id (lists_of_mem_candidates member)
  unfold getRandomSatisfiedChannel candidateChannels
  cases listed : cache.candidates group model requestPath with
  | nil => exact absurd listed candidates
  | cons id rest =>
    rw [listed] at known
    obtain ⟨channel, found⟩ := known id mem_cons_self
    cases rest with
    | nil =>
      have only : [id].filterMap cache.channelsIDM = [channel] := by
        rw [filterMap_cons_some found, filterMap_nil]
      have selected : (cache.lookup id).map some = .ok (some channel) := by
        rw [lookup, found]
        rfl
      simp only [only, selected]
      exact draws_single retry channel
    | cons second rest =>
      have nonempty : (id :: second :: rest).filterMap cache.channelsIDM ≠ [] := by
        rw [filterMap_cons_some found]
        exact cons_ne_nil _ _
      simp only [mapM_lookup known]
      obtain ⟨priority, found, isRetry⟩ :=
        exists_retryPriority (mt map_eq_nil_iff.mp nonempty) retry
      refine ⟨priority, isRetry, fun intn _ _ => ?_⟩
      change selectChannel group model retry _ intn = _
      simp only [selectChannel, found]
      exact if_neg (IsRetryPriority.ofPriority_ne_nil isRetry)

/-- With the memory cache a request's channel is of the retry's priority and selected by
weight exactly if each candidate of that priority that weighs something is listed once.
-/
theorem picked_by_weight_iff {advancedCustom}
    (reached : (cacheMachine advancedCustom).Reaches anyStep cache) (retry : ℕ)
    (candidates : cache.candidates group model requestPath ≠ [])
    : PicksByWeight (cache.candidateChannels group model requestPath) retry
        (cache.getRandomSatisfiedChannel group model retry requestPath)
      ↔ ∀ priority,
        IsRetryPriority (cache.candidateChannels group model requestPath) retry priority
        → ∀ channel ∈ ofPriority (cache.candidateChannels group model requestPath) priority,
          effectiveWeight
              (ofPriority (cache.candidateChannels group model requestPath) priority) channel
            ≠ 0
          → (cache.candidates group model requestPath).count channel.id = 1 := by
  have consistent := consistent_of_reaches reached
  obtain ⟨priority, isRetry, draws⟩ := consistent.draws retry candidates
  have counts {channel : Channel} (member : channel ∈ ofPriority
      (cache.candidateChannels group model requestPath) priority)
      : (ofPriority (cache.candidateChannels group model requestPath) priority).count channel
        = (cache.candidates group model requestPath).count channel.id := by
    obtain ⟨isCandidate, ofRetry⟩ := mem_filter.mp member
    obtain ⟨id, _, found⟩ := mem_filterMap.mp isCandidate
    have itself : cache.channelsIDM channel.id = some channel := by
      rw [consistent.keyed id channel found, found]
    have filtered : (ofPriority (cache.candidateChannels group model requestPath)
          priority).count channel
        = (cache.candidateChannels group model requestPath).count channel := count_filter ofRetry
    rw [filtered]
    exact count_filterMap consistent.keyed itself _
  have byWeight := draws.byWeight_iff isRetry.ofPriority_ne_nil
  constructor
  · rintro ⟨other, otherRetry, drawn⟩ third thirdRetry channel member weighs
    cases otherRetry.unique isRetry
    cases thirdRetry.unique isRetry
    rw [← counts member]
    exact byWeight.mp drawn channel member weighs
  · intro once
    refine ⟨priority, isRetry, byWeight.mpr ?_⟩
    intro channel member weighs
    rw [counts member]
    exact once priority isRetry channel member weighs

end

def weighsTen (id : ℤ) (models : String) : Channel :=
  ⟨id, 1, channelStatusEnabled, some 10, some 0, 0, models, "default", ""⟩

def synced (channels : List Channel) : ChannelCache :=
  (initChannelCache (fun _ => none) channels ["default"]).getD .empty

theorem synced_eq (succeeds : (initChannelCache (fun _ => none) channels ["default"]).isSome)
    : initChannelCache (fun _ => none) channels ["default"] = some (synced channels) := by
  obtain ⟨cache, isCache⟩ := Option.isSome_iff_exists.mp succeeds
  rw [synced, isCache, Option.getD_some]

theorem reaches_synced (succeeds : (initChannelCache (fun _ => none) channels ["default"]).isSome)
    : (cacheMachine fun _ => none).Reaches anyStep (synced channels) :=
  .step (a := .initChannelCache channels ["default"]) (.initial rfl) trivial
    (synced_eq succeeds)

/-- Two channels of the same weight that are listed once each are picked by weight. -/
theorem picked_by_weight_iff_two
    : PicksByWeight
        ((synced [weighsTen 1 "m", weighsTen 2 "m"]).candidateChannels "default" "m" "") 0
        ((synced [weighsTen 1 "m", weighsTen 2 "m"]).getRandomSatisfiedChannel "default" "m" 0
          "") := by
  refine (picked_by_weight_iff (reaches_synced (by decide)) 0 (by decide)).mpr ?_
  have once : ∀ channel ∈
      (synced [weighsTen 1 "m", weighsTen 2 "m"]).candidateChannels "default" "m" "",
      ((synced [weighsTen 1 "m", weighsTen 2 "m"]).candidates "default" "m" "").count
        channel.id = 1 := by
    decide
  intro priority _ channel member _
  exact once channel (mem_of_mem_filter member)

/-- A channel whose models name one of them twice is picked for twice as many values as it
weighs.
-/
theorem picked_twice_as_often
    : (cacheMachine fun _ => none).Reaches anyStep
        (synced [weighsTen 1 "m,m", weighsTen 2 "m"])
      ∧ (synced [weighsTen 1 "m,m", weighsTen 2 "m"]).candidates "default" "m" ""
        = [1, 1, 2]
      ∧ IsRetryPriority ((synced [weighsTen 1 "m,m", weighsTen 2 "m"]).candidateChannels
          "default" "m" "") 0 0
      ∧ totalWeight
          (ofPriority ((synced [weighsTen 1 "m,m", weighsTen 2 "m"]).candidateChannels
            "default" "m" "") 0) = 30
      ∧ effectiveWeight
          (ofPriority ((synced [weighsTen 1 "m,m", weighsTen 2 "m"]).candidateChannels
            "default" "m" "") 0)
          (weighsTen 1 "m,m") = 10
      ∧ ((Finset.Ico 0 30).filter fun r =>
          (synced [weighsTen 1 "m,m", weighsTen 2 "m"]).getRandomSatisfiedChannel
              "default" "m" 0 "" (fun _ => r)
            = .ok (some (weighsTen 1 "m,m"))).card = 20 := by
  refine ⟨reaches_synced (by decide), by decide, ⟨by decide, by decide⟩, by decide, by decide,
    by decide⟩

end HelsterApi.Channels
