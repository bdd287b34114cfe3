import HelsterApi.Transition.Machine

/-! The channels in memory: the lists of enabled channels by group and model, as read from the
database, and the updates of single channels in between. In every run the listed channels are known
under their ids.
-/

namespace HelsterApi.Channels

open Function List Option Transition

structure Channel where
  (id type status : ℤ)
  weight : Option ℕ
  priority : Option ℤ
  responseTime : ℤ
  (models group otherSettings : String)
  deriving DecidableEq

variable (channel : Channel)

def Channel.getPriority : ℤ := channel.priority.getD 0

def Channel.getWeight : ℤ := (channel.weight.getD 0 : ℕ)

def channelStatusEnabled : ℤ := 1

def channelTypeAdvancedCustom : ℤ := 58

structure AdvancedCustomConfig where
  supportsPathForModel : String → String → Bool

structure ChannelCache where
  group2model2channels : String → Option (String → List ℤ)
  channelsIDM : ℤ → Option Channel
  channel2advancedCustomConfig : ℤ → Option AdvancedCustomConfig

def ChannelCache.empty : ChannelCache := ⟨fun _ => none, fun _ => none, fun _ => none⟩

def splitComma (text : String) : List String := (text.toList.splitOn ',').map String.ofList

def Channel.listings : List (String × String) :=
  (splitComma channel.group).flatMap fun group =>
    (splitComma channel.models).map fun model => (group, model)

abbrev Listing := String → Option (String → List ℤ)

/-- A channel is appended to the list of a group and a model; `none` where the group has no map,
which panics.
-/
def Listing.append (id : ℤ) (listing : Listing) (place : String × String) : Option Listing :=
  (listing place.1).map fun models =>
    update listing place.1
      (some (update models place.2 (models place.2 ++ [id])))

/-- One channel of the loop of `InitChannelCache`; a disabled one is skipped. -/
def Listing.add (listing : Listing) (channel : Channel) : Option Listing :=
  if channel.status ≠ channelStatusEnabled then some listing
  else channel.listings.foldlM (Listing.append channel.id) listing

def learn (known : ℤ → Option Channel) (channel : Channel) : ℤ → Option Channel :=
  update known channel.id (some channel)

def byId (channels : List Channel) : ℤ → Option Channel := channels.foldl learn fun _ => none

/-- The configurations of the advanced custom channels, read by `advancedCustom` out of a channel's
other settings.
-/
def advancedCustomConfigs (advancedCustom : String → Option AdvancedCustomConfig)
    (channels : List Channel)
    : ℤ → Option AdvancedCustomConfig :=
  channels.foldl
    (fun known channel =>
      if channel.type = channelTypeAdvancedCustom then
        match advancedCustom channel.otherSettings with
        | some config => update known channel.id (some config)
        | none => known
      else known)
    fun _ => none

def sortByPriority (known : ℤ → Option Channel) (ids : List ℤ) : List ℤ :=
  ids.insertionSort fun left right =>
    ((known left).map Channel.getPriority).getD 0 ≥ ((known right).map Channel.getPriority).getD 0

/-- `InitChannelCache` with the rows of the channels and the groups of the abilities that it
reads; `none` if it panics.
-/
def initChannelCache (advancedCustom : String → Option AdvancedCustomConfig)
    (channels : List Channel) (abilityGroups : List String)
    : Option ChannelCache :=
  let newChannelId2channel := byId channels
  let groups : Listing := fun group => if group ∈ abilityGroups then some fun _ => [] else none
  (channels.foldlM Listing.add groups).map fun listing =>
    { group2model2channels := fun group =>
        (listing group).map fun models model =>
          sortByPriority newChannelId2channel (models model)
      channelsIDM := newChannelId2channel
      channel2advancedCustomConfig := advancedCustomConfigs advancedCustom channels }

/-- `CacheUpdateChannelStatus`: a channel that is no longer enabled is removed from each list,
once.
-/
def ChannelCache.cacheUpdateChannelStatus (cache : ChannelCache) (id status : ℤ) : ChannelCache :=
  { cache with
    channelsIDM :=
      match cache.channelsIDM id with
      | some channel =>
        update cache.channelsIDM id (some { channel with status := status })
      | none => cache.channelsIDM
    group2model2channels :=
      if status ≠ channelStatusEnabled then
        fun group => (cache.group2model2channels group).map fun models model =>
          (models model).erase id
      else cache.group2model2channels }

def ChannelCache.cacheUpdateChannel (advancedCustom : String → Option AdvancedCustomConfig)
    (cache : ChannelCache) (channel : Channel)
    : ChannelCache :=
  { cache with
    channelsIDM := learn cache.channelsIDM channel
    channel2advancedCustomConfig :=
      update cache.channel2advancedCustomConfig channel.id
        (if channel.type = channelTypeAdvancedCustom then advancedCustom channel.otherSettings
        else none) }

inductive CacheChange where
  | initChannelCache (channels : List Channel) (abilityGroups : List String)
  | cacheUpdateChannelStatus (id status : ℤ)
  | cacheUpdateChannel (channel : Channel)

def cacheMachine (advancedCustom : String → Option AdvancedCustomConfig)
    : Machine ChannelCache CacheChange where
  initial cache := cache = .empty
  next cache
    | .initChannelCache channels abilityGroups =>
      initChannelCache advancedCustom channels abilityGroups
    | .cacheUpdateChannelStatus id status => some (cache.cacheUpdateChannelStatus id status)
    | .cacheUpdateChannel channel => some (cache.cacheUpdateChannel advancedCustom channel)

def Listing.Lists (listing : Listing) (id : ℤ) : Prop :=
  ∃ group models model, listing group = some models ∧ id ∈ models model

def Keyed (known : ℤ → Option Channel) : Prop :=
  ∀ id channel, known id = some channel → channel.id = id

/-- Each listed channel is known, and each known one under its own id. -/
structure ChannelCache.Consistent (cache : ChannelCache) : Prop where
  known : ∀ id, Listing.Lists cache.group2model2channels id
    → ∃ channel, cache.channelsIDM id = some channel
  keyed : Keyed cache.channelsIDM

def Listing.extend (listing : Listing) (added : String → String → List ℤ) : Listing :=
  fun group => (listing group).map fun models model => models model ++ added group model

/-- What one channel adds to the list of a group and a model: its id, for each time they are among
its own.
-/
def Channel.placed (group model : String) : List ℤ :=
  if channel.status = channelStatusEnabled then
    replicate (channel.listings.count (group, model)) channel.id
  else []

def placed (channels : List Channel) (group model : String) : List ℤ :=
  channels.flatMap fun channel => channel.placed group model

variable {listing next : Listing} {id other : ℤ}

namespace Listing

theorem extend_extend (listing : Listing) (first second)
    : (listing.extend first).extend second
      = listing.extend fun group model => first group model ++ second group model := by
  funext group
  cases found : listing group with
  | none | some => simp [extend, found]

@[simp]
theorem extend_nil (listing : Listing) : (listing.extend fun _ _ => []) = listing := by
  funext group
  simp [extend]

@[simp]
theorem isSome_extend (added group)
    : (listing.extend added group).isSome = (listing group).isSome := by
  simp [extend]

theorem append_eq_some_iff {place}
    : listing.append id place = some next
      ↔ (listing place.1).isSome
        ∧ next = listing.extend fun group model =>
            if (group, model) = place then [id] else [] := by
  obtain ⟨atGroup, atModel⟩ := place
  cases found : listing atGroup with
  | none => simp [append, found]
  | some models =>
    simp only [append, found, map_some, some.injEq, isSome_some, true_and, eq_comm (b := next)]
    refine iff_of_eq (congrArg (next = ·) ?_)
    funext group
    by_cases sameGroup : group = atGroup
    · subst sameGroup
      rw [update_self, extend, found, map_some]
      congr 1
      funext model
      by_cases sameModel : model = atModel <;> simp [sameModel]
    · simp [sameGroup, extend]

/-- The places of a channel are all written to if each of their groups has a map, by induction on
them.
-/
theorem foldlM_append_eq_some_iff {places : List (String × String)}
    : places.foldlM (append id) listing = some next
      ↔ (∀ place ∈ places, (listing place.1).isSome)
        ∧ next = listing.extend fun group model =>
            replicate (places.count (group, model)) id := by
  induction places generalizing listing with
  | nil => simp [eq_comm (a := next)]
  | cons place rest ih =>
    have adds : (fun group model => (if (group, model) = place then [id] else [])
          ++ replicate (rest.count (group, model)) id)
        = fun group model => replicate ((place :: rest).count (group, model)) id := by
      funext group model
      by_cases same : (group, model) = place
      · subst same
        simp [replicate_succ]
      · simp [same, count_cons_of_ne (Ne.symm same)]
    simp only [foldlM_cons, bind_eq_bind, bind_eq_some_iff, append_eq_some_iff, ih]
    constructor
    · rintro ⟨_, ⟨first, rfl⟩, later, rfl⟩
      rw [extend_extend, adds]
      simpa [first] using later
    · rintro ⟨all, rfl⟩
      refine ⟨_, ⟨all place mem_cons_self, rfl⟩, ?_, ?_⟩
      · simpa using fun group model member => all (group, model) (mem_cons_of_mem _ member)
      · rw [extend_extend, adds]

variable {channels : List Channel}

/-- The loop over the channels adds what each of them adds, by induction on the channels. -/
theorem foldlM_add_eq_some_iff
    : channels.foldlM add listing = some next
      ↔ (∀ channel ∈ channels, channel.status = channelStatusEnabled
          → ∀ place ∈ channel.listings, (listing place.1).isSome)
        ∧ next = listing.extend (placed channels) := by
  have one (listing next : Listing) (channel : Channel)
      : listing.add channel = some next
        ↔ (channel.status = channelStatusEnabled
            → ∀ place ∈ channel.listings, (listing place.1).isSome)
          ∧ next = listing.extend channel.placed := by
    unfold add Channel.placed
    by_cases enabled : channel.status = channelStatusEnabled
    · simpa [enabled, true_implies] using foldlM_append_eq_some_iff
    · simp [enabled, eq_comm (a := next)]
  induction channels generalizing listing with
  | nil =>
    have nothing : placed [] = fun _ _ => [] := rfl
    simp [eq_comm (a := next), nothing]
  | cons channel rest ih =>
    simp only [foldlM_cons, bind_eq_bind, bind_eq_some_iff, one, ih]
    constructor
    · rintro ⟨_, ⟨first, rfl⟩, later, rfl⟩
      rw [extend_extend]
      exact ⟨forall_mem_cons.mpr ⟨first, by simpa using later⟩, rfl⟩
    · rintro ⟨all, rfl⟩
      obtain ⟨first, later⟩ := forall_mem_cons.mp all
      refine ⟨_, ⟨first, rfl⟩, by simpa using later, ?_⟩
      rw [extend_extend]
      rfl

end Listing

theorem mem_placed {group model}
    : id ∈ placed channels group model
      ↔ ∃ channel ∈ channels, channel.status = channelStatusEnabled
        ∧ (group, model) ∈ channel.listings ∧ channel.id = id := by
  simp only [placed, mem_flatMap, Channel.placed]
  refine exists_congr fun channel => and_congr_right fun _ => ?_
  by_cases enabled : channel.status = channelStatusEnabled
  · simp [enabled, mem_replicate, ← Nat.pos_iff_ne_zero, count_pos_iff, eq_comm (a := id)]
  · simp [enabled]

variable {known : ℤ → Option Channel}

theorem Keyed.learn (keyed : Keyed known) (first) : Keyed (learn known first) := by
  intro id channel found
  by_cases same : id = first.id
  · subst same
    rw [Channels.learn, update_self] at found
    cases found
    rfl
  · rw [Channels.learn, update_of_ne same] at found
    exact keyed id channel found

theorem exists_learn (first : Channel)
    (isKnown : (∃ channel, known id = some channel) ∨ first.id = id)
    : ∃ channel, learn known first id = some channel := by
  by_cases same : id = first.id
  · subst same
    exact ⟨first, update_self ..⟩
  · rcases isKnown with ⟨channel, found⟩ | isFirst
    · exact ⟨channel, (update_of_ne same ..).trans found⟩
    · exact absurd isFirst.symm same

/-- All learned channels are known, by induction on the channels. -/
theorem exists_foldl_learn (channels : List Channel)
    (isKnown : (∃ channel, known id = some channel) ∨ ∃ channel ∈ channels, channel.id = id)
    : ∃ channel, channels.foldl learn known id = some channel := by
  induction channels generalizing known with
  | nil =>
    rcases isKnown with earlier | ⟨channel, member, _⟩
    · exact earlier
    · cases member
  | cons first rest ih =>
    refine ih ?_
    rcases isKnown with earlier | ⟨channel, member, isId⟩
    · exact .inl (exists_learn first (.inl earlier))
    · rcases mem_cons.mp member with rfl | later
      · exact .inl (exists_learn channel (.inr isId))
      · exact .inr ⟨channel, later, isId⟩

variable {cache : ChannelCache} {advancedCustom : String → Option AdvancedCustomConfig}

/-- A synchronisation completes exactly if each group of each enabled channel is the group of an
ability.
-/
theorem initChannelCache_eq_some_iff {abilityGroups}
    : initChannelCache advancedCustom channels abilityGroups = some cache
      ↔ (∀ channel ∈ channels, channel.status = channelStatusEnabled
          → ∀ place ∈ channel.listings, place.1 ∈ abilityGroups)
        ∧ cache = ⟨fun group =>
              if group ∈ abilityGroups then
                some fun model => sortByPriority (byId channels) (placed channels group model)
              else none,
            byId channels, advancedCustomConfigs advancedCustom channels⟩ := by
  have hasMap (group : String)
      : (if group ∈ abilityGroups then some fun _ => [] else none
          : Option (String → List ℤ)).isSome ↔ group ∈ abilityGroups := by
    split <;> simp_all
  simp only [initChannelCache, map_eq_some_iff, Listing.foldlM_add_eq_some_iff, hasMap]
  constructor
  · rintro ⟨_, ⟨covered, rfl⟩, rfl⟩
    refine ⟨covered, ?_⟩
    congr 1
    funext group
    by_cases named : group ∈ abilityGroups <;> simp [Listing.extend, named]
  · rintro ⟨covered, rfl⟩
    refine ⟨_, ⟨covered, rfl⟩, ?_⟩
    congr 1
    funext group
    by_cases named : group ∈ abilityGroups <;> simp [Listing.extend, named]

theorem consistent_of_initChannelCache {abilityGroups}
    (synced : initChannelCache advancedCustom channels abilityGroups = some cache)
    : cache.Consistent := by
  obtain ⟨_, rfl⟩ := initChannelCache_eq_some_iff.mp synced
  have nothingKnown : Keyed fun _ => none := by
    intro id channel found
    cases found
  refine ⟨?_, foldlRecOn channels _ nothingKnown fun _ keyed channel _ => keyed.learn channel⟩
  rintro id ⟨group, models, model, isGroup, member⟩
  dsimp only at isGroup
  split at isGroup
  · cases isGroup
    obtain ⟨channel, isChannel, _, _, same⟩ := mem_placed.mp ((mem_insertionSort _).mp member)
    exact exists_foldl_learn channels (.inr ⟨channel, isChannel, same⟩)
  · cases isGroup

theorem lists_of_cacheUpdateChannelStatus {status}
    (lists : Listing.Lists (cache.cacheUpdateChannelStatus id status).group2model2channels other)
    : Listing.Lists cache.group2model2channels other := by
  dsimp only [ChannelCache.cacheUpdateChannelStatus] at lists
  split at lists
  · obtain ⟨group, models, model, isGroup, member⟩ := lists
    obtain ⟨before, found, rfl⟩ := map_eq_some_iff.mp isGroup
    exact ⟨group, before, model, found, mem_of_mem_erase member⟩
  · exact lists

theorem ChannelCache.Consistent.cacheUpdateChannelStatus (consistent : cache.Consistent)
    (id status)
    : (cache.cacheUpdateChannelStatus id status).Consistent := by
  refine ⟨?_, ?_⟩
  · intro other lists
    obtain ⟨channel, found⟩ := consistent.known other (lists_of_cacheUpdateChannelStatus lists)
    unfold ChannelCache.cacheUpdateChannelStatus
    by_cases same : other = id
    · subst same
      simp [found]
    · cases stored : cache.channelsIDM id with
      | none => exact ⟨channel, found⟩
      | some old => exact ⟨channel, by simp [same, found]⟩
  · intro other channel found
    unfold ChannelCache.cacheUpdateChannelStatus at found
    cases stored : cache.channelsIDM id with simp only [stored] at found
    | none => exact consistent.keyed other channel found
    | some old =>
      by_cases same : other = id
      · subst same
        rw [update_self] at found
        cases found
        exact consistent.keyed other old stored
      · rw [update_of_ne same] at found
        exact consistent.keyed other channel found

theorem ChannelCache.Consistent.cacheUpdateChannel (consistent : cache.Consistent)
    (advancedCustom channel)
    : (cache.cacheUpdateChannel advancedCustom channel).Consistent := by
  refine ⟨?_, consistent.keyed.learn channel⟩
  intro other lists
  exact exists_learn channel (.inl (consistent.known other lists))

theorem consistent_of_reaches (reached : (cacheMachine advancedCustom).Reaches anyStep cache)
    : cache.Consistent := by
  refine reached.invariant ChannelCache.Consistent ?_ ?_
  · intro cache start
    cases start
    refine ⟨?_, ?_⟩
    · rintro id ⟨group, models, model, isGroup, _⟩
      cases isGroup
    · intro id channel found
      cases found
  · intro cache change next _ consistent _ moved
    cases change with
    | initChannelCache channels abilityGroups => exact consistent_of_initChannelCache moved
    | cacheUpdateChannelStatus id status =>
      cases moved
      exact consistent.cacheUpdateChannelStatus id status
    | cacheUpdateChannel channel =>
      cases moved
      exact consistent.cacheUpdateChannel advancedCustom channel

end HelsterApi.Channels
