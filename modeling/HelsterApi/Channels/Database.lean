import HelsterApi.Channels.Selection
import HelsterApi.Channels.Tables

/-! The selection of a channel without the cache. It takes the priority of the retry before the
channels are filtered by path, the cache afterwards.
-/

namespace HelsterApi.Channels

open List Option Sampling Ability
open Tasks (formatMatchingModelName)

/-- A selection: the tables, how configurations are read, and the parameters of `GetChannel`. -/
structure Query where
  tables : Tables
  advancedCustom : String → Option AdvancedCustomConfig
  (group model : String)
  retry : ℕ
  requestPath : String

namespace Query

def channels (q : Query) : List Channel := q.tables.channels.map (·.toChannel)

def enabledAbilities (q : Query) : List Ability :=
  q.tables.abilities.filter fun ability =>
    ability.group = q.group ∧ ability.model = q.model ∧ ability.enabled

def getPriority (q : Query) : Except String ℤ :=
  let priorities := (q.enabledAbilities.map Ability.priority).dedup
  match (priorities.insertionSort (· ≥ ·))[
      if q.retry ≥ priorities.length then priorities.length - 1 else q.retry]? with
  | none => .error "数据库一致性被破坏"
  | some priorityToUse => .ok priorityToUse

/-- The abilities that the query of `getChannelQuery` finds, the heaviest first. -/
def getChannelQuery (q : Query) : Except String (List Ability) :=
  let abilities := q.enabledAbilities.insertionSort (·.weight ≥ ·.weight)
  if q.retry ≠ 0 then
    q.getPriority.map fun priority => abilities.filter fun ability => ability.priority = priority
  else .ok (abilities.filter fun ability => ∀ other ∈ abilities, other.priority ≤ ability.priority)

def keeps (q : Query) (channelId : ℤ) : Bool :=
  match byId q.channels channelId with
  | none => true
  | some channel =>
    if channel.type ≠ channelTypeAdvancedCustom then true
    else
      match advancedCustomConfigs q.advancedCustom q.channels channelId with
      | some config => config.supportsPathForModel q.requestPath q.model
      | none => false

def filterAbilitiesByRequestPathAndModel (q : Query) (abilities : List Ability) : List Ability :=
  if q.requestPath = "" ∨ abilities = [] then abilities
  else abilities.filter fun ability => q.keeps ability.channelId

def routesBefore (q : Query) (left right : Ability) : Bool :=
  let heavier : Bool :=
    if left.weight ≠ right.weight then left.weight > right.weight
    else left.channelId < right.channelId
  match byId q.channels left.channelId, byId q.channels right.channelId with
  | some first, some second =>
    if first.responseTime ≠ second.responseTime then
      if first.responseTime = 0 then false
      else if second.responseTime = 0 then true
      else first.responseTime < second.responseTime
    else heavier
  | _, _ => heavier

def drawAbility : List Ability → ℤ → ℤ
  | [], _ => 0
  | ability :: rest, weight =>
    let weight := weight - (ability.weight + 10)
    if weight ≤ 0 then ability.channelId else drawAbility rest weight

def weightSum (abilities : List Ability) : ℤ :=
  (abilities.map fun ability => (ability.weight + 10 : ℤ)).sum

def candidateAbilities (q : Query) : Except String (List Ability) :=
  q.getChannelQuery.map q.filterAbilitiesByRequestPathAndModel

/-- The id of the channel that `GetChannel` picks; `intn` is what `rand.Intn` yields. -/
def pickChannelId (q : Query) (intn : ℤ → ℤ) : Except String (Option ℤ) :=
  q.candidateAbilities.map fun abilities =>
    if abilities = [] then none
    else
      some (drawAbility (abilities.insertionSort fun left right => ¬q.routesBefore right left)
        (intn (weightSum abilities)))

def getChannel (q : Query) (intn : ℤ → ℤ) : Except String (Option Channel) :=
  (q.pickChannelId intn).bind fun
    | none => .ok none
    | some id =>
      match byId q.channels id with
      | some channel => .ok (some channel)
      | none => .error "record not found"

theorem drawn_by_own_weight_iff {abilities} (nonempty : abilities ≠ [])
    : (∀ ability ∈ abilities,
        ((Finset.Ico 0 (weightSum abilities)).filter fun value =>
          drawAbility abilities value = ability.channelId).card = ability.weight + 10)
      ↔ abilities.length = 1 := by
  cases abilities with
  | nil => exact absurd rfl nonempty
  | cons first rest =>
    have total : weightSum (first :: rest) = first.weight + 10 + weightSum rest := rfl
    cases rest with
    | nil =>
      refine iff_of_true (fun ability member => ?_) rfl
      cases mem_singleton.mp member
      rw [Finset.filter_true_of_mem, Int.card_Ico, total]
      · simp only [weightSum, map_nil, sum_nil]
        omega
      · intro value inside
        rw [total, Finset.mem_Ico] at inside
        exact if_pos (by simp [weightSum] at inside; omega)
    | cons second rest =>
      refine iff_of_false (fun exact_ => ?_) (by simp)
      have others : 0 ≤ weightSum rest := sum_nonneg (by simp; omega)
      have inside : Finset.Icc 0 (first.weight + 10 : ℤ)
          ⊆ (Finset.Ico 0 (weightSum (first :: second :: rest))).filter fun value =>
            drawAbility (first :: second :: rest) value = first.channelId := by
        intro value member
        obtain ⟨start, below⟩ := Finset.mem_Icc.mp member
        refine Finset.mem_filter.mpr ⟨Finset.mem_Ico.mpr ⟨start, ?_⟩, if_pos (by omega)⟩
        simp only [weightSum, map_cons, sum_cons] at others ⊢
        omega
      have counted := Finset.card_le_card inside
      rw [exact_ first mem_cons_self, Int.card_Icc] at counted
      omega

end Query

open Query

/-- Each channel is picked for as many values as its weight and ten, exactly if it is the only one.
-/
theorem picked_by_own_weight_iff {q : Query} {abilities : List Ability}
    (found : q.candidateAbilities = .ok abilities) (nonempty : abilities ≠ [])
    : (∀ ability ∈ abilities,
        ((Finset.Ico 0 (weightSum abilities)).filter fun value =>
          q.pickChannelId (fun _ => value) = .ok (some ability.channelId)).card
        = ability.weight + 10)
      ↔ abilities.length = 1 := by
  have permuted := perm_insertionSort (fun left right => ¬q.routesBefore right left) abilities
  have picks (value id : ℤ)
      : q.pickChannelId (fun _ => value) = .ok (some id)
        ↔ drawAbility (abilities.insertionSort fun left right => ¬q.routesBefore right left)
            value = id := by
    simp [pickChannelId, found, Except.map, nonempty]
  have sum : weightSum abilities = weightSum (abilities.insertionSort _) :=
    (permuted.map _).sum_eq.symm
  simp only [picks, sum, ← permuted.length_eq, ← permuted.mem_iff]
  exact drawn_by_own_weight_iff (mt (fun none_ => (none_ ▸ permuted).nil_eq.symm) nonempty)

def queryOf (rows : List ChannelRow) (model : String) : Query where
  tables := ⟨rows, rows.map fun row => row.ability row.models row.group⟩
  advancedCustom _ := none
  group := "default"
  model := model
  retry := 0
  requestPath := ""

theorem picked_by_own_weight_iff_only
    : ((Finset.Ico 0 10).filter fun value =>
        (queryOf [defaultRow] "m").pickChannelId (fun _ => value) = .ok (some 1)).card = 10 := by
  have found : (queryOf [defaultRow] "m").candidateAbilities
      = .ok [defaultRow.ability "m" "default"] := by
    decide
  exact (picked_by_own_weight_iff found (by decide)).mpr rfl _ mem_cons_self

/-- Of 20 values eleven pick the first of two channels. -/
theorem first_picked_too_often
    : ((Finset.Ico 0 20).filter fun value =>
        (queryOf [defaultRow, { defaultRow with id := 2 }] "m").pickChannelId (fun _ => value)
          = .ok (some 1)).card = 11 := by
  decide

/-- The channels have ids of their own and the abilities are those of the channels. -/
structure Tables.Agrees (t : Tables) : Prop where
  keys : (t.channels.map (·.id)).Nodup
  abilities : ∀ ability, ability ∈ t.abilities ↔ ∃ row ∈ t.channels, ∃ model group,
    (group, model) ∈ row.listings ∧ ability = row.ability model group

namespace Query

/-- The enabled channels that list a model. -/
def serving (q : Query) (model : String) : List Channel :=
  (placed q.channels q.group model).filterMap (byId q.channels)

/-- Those of them that the filter by path leaves, for the model as it was requested. -/
def admitting (q : Query) (model : String) : List Channel :=
  ((placed q.channels q.group model).filter fun id => q.requestPath = "" ∨ q.keeps id).filterMap
    (byId q.channels)

/-- The channels that the cache selects from. -/
def candidates (q : Query) : List Channel :=
  if q.admitting q.model = [] then q.admitting (formatMatchingModelName q.model)
  else q.admitting q.model

def fromTables (q : Query) : Set ℤ :=
  {id | ∃ ability ∈ q.candidateAbilities.toOption.getD [], ability.channelId = id}

/-- Those of some channels that have the priority that a retry takes among others. -/
def drawn (q : Query) (channels among : List Channel) : Set ℤ :=
  {id | ∃ channel ∈ channels, IsRetryPriority among q.retry channel.getPriority
    ∧ channel.id = id}

def fromCache (q : Query) (cache : ChannelCache) : Set ℤ :=
  q.drawn (cache.candidateChannels q.group q.model q.requestPath)
    (cache.candidateChannels q.group q.model q.requestPath)

variable {q : Query} {ability : Ability}

/-- The query takes the retry's priority among all enabled abilities. -/
theorem mem_getChannelQuery
    : ability ∈ q.getChannelQuery.toOption.getD []
      ↔ ability ∈ q.enabledAbilities
        ∧ HasRank (q.enabledAbilities.map priority).toFinset
          (min q.retry ((q.enabledAbilities.map priority).toFinset.card - 1))
          ability.priority := by
  by_cases first : q.retry = 0
  · simp [getChannelQuery, first, Except.toOption, HasRank, Finset.filter_eq_empty_iff]
    grind
  · by_cases none_ : q.enabledAbilities = []
    · simp [getChannelQuery, first, getPriority, none_, Except.toOption, Except.map]
    · have some : q.enabledAbilities.map priority ≠ [] :=
        mt map_eq_nil_iff.mp none_
      obtain ⟨priority, found, rank⟩ := exists_retryPriority some q.retry
      have isPriority : q.getPriority = .ok priority := by simp only [getPriority, found]
      simp only [getChannelQuery, first, ne_eq, not_false_eq_true, if_true, isPriority, Except.map,
        Except.toOption, getD_some, mem_filter, mem_insertionSort, decide_eq_true_eq]
      exact and_congr_right fun _ =>
        ⟨fun same => same ▸ rank, fun otherRank => otherRank.unique rank⟩

theorem mem_candidateAbilities
    : ability ∈ q.candidateAbilities.toOption.getD []
      ↔ ability ∈ q.getChannelQuery.toOption.getD []
        ∧ (q.requestPath = "" ∨ q.keeps ability.channelId) := by
  unfold candidateAbilities filterAbilitiesByRequestPathAndModel
  cases q.getChannelQuery with
  | error => simp [Except.map, Except.toOption]
  | ok abilities =>
    simp only [Except.map, Except.toOption, getD_some]
    split
    next unfiltered =>
      rcases unfiltered with noPath | none_
      · simp [noPath]
      · simp [none_]
    next filters => simp [(not_or.mp filters).1]

/-- A channel with an id of its own is known under it. -/
theorem byId_eq (keys : (q.tables.channels.map (·.id)).Nodup) {row}
    (member : row ∈ q.tables.channels)
    : byId q.channels row.id = some row.toChannel := by
  obtain ⟨before, after, split⟩ := append_of_mem member
  rw [split, map_append, map_cons] at keys
  have notAfter := (nodup_cons.mp (nodup_append.mp keys).2.1).1
  have kept (known : ℤ → Option Channel)
      : (after.map (·.toChannel)).foldl learn known row.id = known row.id := by
    clear split keys
    induction after generalizing known with
    | nil => rfl
    | cons other rest ih =>
      obtain ⟨different, notAfter⟩ := not_or.mp (mt mem_cons.mpr notAfter)
      exact (ih notAfter _).trans (Function.update_of_ne different ..)
  rw [byId, channels, split, map_append, map_cons, foldl_append, foldl_cons,
    kept, learn, Function.update_self]

section

variable (agrees : q.tables.Agrees)

include agrees

theorem mem_enabledAbilities
    : ability ∈ q.enabledAbilities
      ↔ ∃ row ∈ q.tables.channels, row.id ∈ placed q.channels q.group q.model
        ∧ ability = row.ability q.model q.group := by
  simp only [enabledAbilities, mem_filter, agrees.abilities, decide_eq_true_eq]
  constructor
  · rintro ⟨⟨row, member, _, _, listed, rfl⟩, sameGroup, sameModel, enabled⟩
    cases sameGroup
    cases sameModel
    exact ⟨row, member, mem_placed.mpr ⟨row.toChannel, mem_map_of_mem member,
      of_decide_eq_true enabled, listed, rfl⟩, rfl⟩
  · rintro ⟨row, member, isPlaced, rfl⟩
    obtain ⟨channel, isChannel, enabled, listed, same⟩ := mem_placed.mp isPlaced
    obtain ⟨other, isOther, rfl⟩ := mem_map.mp isChannel
    cases inj_on_of_nodup_map agrees.keys isOther member same
    exact ⟨⟨row, member, q.model, q.group, listed, rfl⟩, rfl, rfl, decide_eq_true enabled⟩

theorem mem_known {ids model} (known : ids ⊆ placed q.channels q.group model) {channel}
    : channel ∈ ids.filterMap (byId q.channels)
      ↔ ∃ row ∈ q.tables.channels, row.id ∈ ids ∧ channel = row.toChannel := by
  rw [mem_filterMap]
  constructor
  · rintro ⟨id, isId, found⟩
    obtain ⟨channel, isChannel, _, _, rfl⟩ := mem_placed.mp (known isId)
    obtain ⟨row, member, rfl⟩ := mem_map.mp isChannel
    rw [byId_eq agrees.keys member] at found
    cases found
    exact ⟨row, member, isId, rfl⟩
  · rintro ⟨row, member, isId, rfl⟩
    exact ⟨row.id, isId, byId_eq agrees.keys member⟩

theorem mem_admitting {model channel}
    : channel ∈ q.admitting model
      ↔ ∃ row ∈ q.tables.channels, (row.id ∈ placed q.channels q.group model
          ∧ (q.requestPath = "" ∨ q.keeps row.id))
        ∧ channel = row.toChannel := by
  simp [admitting, mem_known agrees filter_sublist.subset]

theorem fromTables_eq : q.fromTables = q.drawn (q.admitting q.model) (q.serving q.model) := by
  have same : (q.enabledAbilities.map priority).toFinset
      = priorities (q.serving q.model) := by
    ext priority
    simp only [List.mem_toFinset, List.mem_map, priorities, mem_enabledAbilities agrees, serving,
      mem_known agrees (List.Subset.refl _)]
    constructor
    · rintro ⟨_, ⟨row, member, isPlaced, rfl⟩, rfl⟩
      exact ⟨row.toChannel, ⟨row, member, isPlaced, rfl⟩, rfl⟩
    · rintro ⟨_, ⟨row, member, isPlaced, rfl⟩, rfl⟩
      exact ⟨_, ⟨row, member, isPlaced, rfl⟩, rfl⟩
  ext id
  simp only [fromTables, drawn, Set.mem_ofPred_eq, mem_candidateAbilities, mem_getChannelQuery,
    same, mem_enabledAbilities agrees, mem_admitting agrees]
  constructor
  · rintro ⟨_, ⟨⟨⟨row, member, isPlaced, rfl⟩, isRetry⟩, admits⟩, isId⟩
    exact ⟨row.toChannel, ⟨row, member, ⟨isPlaced, admits⟩, rfl⟩, isRetry, isId⟩
  · rintro ⟨_, ⟨row, member, ⟨isPlaced, admits⟩, rfl⟩, isRetry, isId⟩
    exact ⟨_, ⟨⟨⟨row, member, isPlaced, rfl⟩, isRetry⟩, admits⟩, isId⟩

theorem fromCache_eq {cache} (synced : q.tables.initChannelCache q.advancedCustom = some cache)
    : q.fromCache cache = q.drawn q.candidates q.candidates := by
  obtain ⟨covered, isCache⟩ := initChannelCache_eq_some_iff.mp synced
  have listed (model : String)
      : (cache.listed q.group model).Perm (placed q.channels q.group model) := by
    by_cases named : q.group ∈ q.tables.abilities.map Ability.group
    · simp only [isCache, ChannelCache.listed, if_pos named, map_some, getD_some]
      exact perm_insertionSort _ _
    · have none_ : placed q.channels q.group model = [] := by
        refine eq_nil_iff_forall_not_mem.mpr fun id isPlaced => named ?_
        obtain ⟨channel, member, enabled, places, _⟩ := mem_placed.mp isPlaced
        exact covered channel member enabled _ places
      simp only [isCache, ChannelCache.listed, if_neg named, map_none, getD_none, none_]
      exact .nil
  have kept (model : String)
      : (cache.filterChannelsByRequestPathAndModel (cache.listed q.group model) q.requestPath
          q.model).Perm
        ((placed q.channels q.group model).filter fun id => q.requestPath = "" ∨ q.keeps id) := by
    unfold ChannelCache.filterChannelsByRequestPathAndModel
    split
    next unfiltered =>
      rcases unfiltered with noPath | none_
      · simpa [noPath] using listed model
      · have nothing := listed model
        rw [none_] at nothing
        simp [none_, nothing.nil_eq.symm]
    next filters =>
      have same : (fun id => decide (q.requestPath = "" ∨ q.keeps id)) = q.keeps := by
        simp [(not_or.mp filters).1]
      rw [same, isCache]
      exact (isCache ▸ listed model).filter q.keeps
  have none_ : cache.filterChannelsByRequestPathAndModel (cache.listed q.group q.model)
        q.requestPath q.model = []
      ↔ q.admitting q.model = [] := by
    simp only [eq_nil_iff_forall_not_mem, (kept q.model).mem_iff, mem_admitting agrees,
      mem_filter, decide_eq_true_eq]
    constructor
    · rintro none_ channel ⟨row, _, isKept, _⟩
      exact none_ row.id isKept
    · intro none_ id isKept
      obtain ⟨channel, isChannel, _, _, rfl⟩ := mem_placed.mp isKept.1
      obtain ⟨row, member, rfl⟩ := mem_map.mp isChannel
      exact none_ row.toChannel ⟨row, member, isKept, rfl⟩
  have candidates : (cache.candidateChannels q.group q.model q.requestPath).Perm q.candidates := by
    unfold ChannelCache.candidateChannels ChannelCache.candidates candidates
    have known : cache.channelsIDM = byId q.channels := by
      rw [isCache]
      rfl
    simp only [none_, known]
    split <;> exact (kept _).filterMap _
  have same : priorities (cache.candidateChannels q.group q.model q.requestPath)
      = priorities q.candidates := toFinset_eq_of_perm _ _ (candidates.map _)
  simp only [fromCache, drawn, IsRetryPriority, same, candidates.mem_iff]

end

theorem exists_drawn {channels} (nonempty : channels ≠ [])
    : ∃ channel ∈ channels, IsRetryPriority channels q.retry channel.getPriority := by
  have some : channels.map Channel.getPriority ≠ [] := mt map_eq_nil_iff.mp nonempty
  obtain ⟨priority, _, isRetry⟩ := exists_retryPriority some q.retry
  obtain ⟨channel, member, rfl⟩ := mem_map.mp (mem_toFinset.mp isRetry.1)
  exact ⟨channel, member, isRetry⟩

end Query

/-- The tables and the cache synchronised from them offer the same channels exactly if the filter by
path does not change the retry's priority and no channel is listed for the normalised model name
only.
-/
theorem same_candidates_iff {q : Query} (agrees : q.tables.Agrees) {cache : ChannelCache}
    (synced : q.tables.initChannelCache q.advancedCustom = some cache)
    : q.fromTables = q.fromCache cache
      ↔ (∀ priority, IsRetryPriority (q.admitting q.model) q.retry priority
          → IsRetryPriority (q.serving q.model) q.retry priority)
        ∧ (q.admitting q.model = [] → q.admitting (formatMatchingModelName q.model) = []) := by
  rw [fromTables_eq agrees, fromCache_eq agrees synced, Set.ext_iff]
  simp only [drawn, Set.mem_ofPred_eq]
  by_cases none_ : q.admitting q.model = []
  · simp only [candidates, none_, if_true, not_mem_nil, false_and, exists_false, false_iff,
      true_implies]
    constructor
    · intro nothing
      refine ⟨fun priority isRetry => by simp [IsRetryPriority, HasRank, priorities] at isRetry, ?_⟩
      by_contra nonempty
      obtain ⟨channel, member, isRetry⟩ := exists_drawn nonempty
      exact nothing channel.id ⟨channel, member, isRetry, rfl⟩
    · rintro ⟨_, normalised⟩
      simp [normalised]
  · simp only [candidates, none_, if_false, false_implies, and_true]
    constructor
    · intro same priority isRetry
      obtain ⟨channel, member, rfl⟩ := mem_map.mp (mem_toFinset.mp isRetry.1)
      obtain ⟨other, isOther, isRetry, sameId⟩ :=
        (same channel.id).mpr ⟨channel, member, isRetry, rfl⟩
      obtain ⟨row, isRow, _, rfl⟩ := (mem_admitting agrees).mp member
      obtain ⟨otherRow, isOtherRow, _, rfl⟩ := (mem_admitting agrees).mp isOther
      cases inj_on_of_nodup_map agrees.keys isOtherRow isRow sameId
      exact isRetry
    · intro higher id
      obtain ⟨drawn, _, isDrawn⟩ := exists_drawn none_
      refine exists_congr fun channel => and_congr_right fun _ => and_congr_left fun _ => ?_
      exact ⟨fun isRetry => (higher _ isDrawn).unique isRetry ▸ isDrawn, higher _⟩

theorem agrees_queryOf {rows} (distinct : (rows.map fun row : ChannelRow => row.id).Nodup)
    (listings : ∀ row ∈ rows, row.listings = [(row.group, row.models)]) (model)
    : (queryOf rows model).tables.Agrees := by
  refine ⟨distinct, fun ability => ?_⟩
  rw [queryOf, List.mem_map]
  refine exists_congr fun row => and_congr_right fun member => ?_
  rw [listings row member]
  simp [eq_comm]

/-- The second priority of two channels, for a request with a path. -/
def retried : Query :=
  { queryOf [{ defaultRow with id := 2, priority := some 5 }, defaultRow] "m" with
    retry := 1, requestPath := "/v1/chat/completions" }

theorem same_candidates_iff_only
    : retried.fromTables
      = retried.fromCache (synced (retried.tables.channels.map ChannelRow.toChannel)) := by
  have agrees : retried.tables.Agrees := agrees_queryOf (by decide) (by decide) "m"
  refine (same_candidates_iff agrees rfl).mpr ⟨?_, by decide⟩
  have all : retried.admitting "m" = retried.serving "m" := by decide
  exact fun priority isRetry => all ▸ isRetry

def gizmoRow : ChannelRow :=
  { defaultRow with models := "gpt-4-gizmo-*" }

/-- Only the cache tries the normalised model name. -/
theorem candidates_differ
    : (queryOf [gizmoRow] "gpt-4-gizmo-x").tables.Agrees
      ∧ (queryOf [gizmoRow] "gpt-4-gizmo-x").tables.initChannelCache (fun _ => none)
        = some (synced [gizmoRow.toChannel])
      ∧ 1 ∈ (queryOf [gizmoRow] "gpt-4-gizmo-x").fromCache (synced [gizmoRow.toChannel])
      ∧ (queryOf [gizmoRow] "gpt-4-gizmo-x").getChannel (fun _ => 0) = .ok none := by
  exact ⟨agrees_queryOf (by decide) (by decide) _, rfl,
    ⟨gizmoRow.toChannel, by decide, ⟨by decide, by decide⟩, rfl⟩, by decide⟩

end HelsterApi.Channels
