import HelsterApi.Channels.Selection

/-! A channel that is disabled between two synchronisations leaves the routing lists, once from
each. A list that names it twice still routes to it.
-/

namespace HelsterApi.Channels

open List Listing Sampling Transition

def IsIntn (intn : ℤ → ℤ) : Prop := ∀ bound, 0 < bound → 0 ≤ intn bound ∧ intn bound < bound

def Resyncs : CacheChange → Prop
  | .initChannelCache _ _ => True
  | _ => False

/-- A channel is in no list any more, nothing else was removed, and it is not selected before the
next synchronisation.
-/
structure Removed (cache later : ChannelCache) (id : ℤ) : Prop where
  gone : ¬Lists later.group2model2channels id
  others : later.group2model2channels = fun group =>
    (cache.group2model2channels group).map fun models model => (models model).filter (· ≠ id)
  unselected : ∀ advancedCustom afterwards,
    (cacheMachine advancedCustom).Leads (fun _ change => ¬Resyncs change) later afterwards
    → ∀ group model retry requestPath intn channel, IsIntn intn
      → afterwards.getRandomSatisfiedChannel group model retry requestPath intn
        = .ok (some channel)
      → channel.id ≠ id

variable {cache : ChannelCache} {id : ℤ}

theorem ChannelCache.Consistent.lists_of_selected (consistent : cache.Consistent)
    {group model requestPath retry intn} (drawn : IsIntn intn)
    {channel}
    (selected : cache.getRandomSatisfiedChannel group model retry requestPath intn
      = .ok (some channel))
    : Lists cache.group2model2channels channel.id := by
  by_cases candidates : cache.candidates group model requestPath = []
  · simp [getRandomSatisfiedChannel, candidates] at selected
  · obtain ⟨priority, isRetry, draws⟩ := consistent.draws retry candidates
    have nonempty := isRetry.ofPriority_ne_nil
    have positive := (smooth_total nonempty).2
    rw [← totalWeight_eq] at positive
    obtain ⟨start, below⟩ := drawn _ positive
    obtain ⟨other, member, same⟩ := draws.picks nonempty start below
    cases selected.symm.trans same
    obtain ⟨known, isCandidate, found⟩ := mem_filterMap.mp (mem_of_mem_filter member)
    rw [consistent.keyed known channel found]
    exact lists_of_mem_candidates isCandidate

theorem not_lists_of_leads {advancedCustom later}
    (led : (cacheMachine advancedCustom).Leads (fun _ change => ¬Resyncs change) cache later)
    (consistent : cache.Consistent) (gone : ¬Lists cache.group2model2channels id)
    : later.Consistent ∧ ¬Lists later.group2model2channels id := by
  refine led.preserves
    (fun cache => cache.Consistent ∧ ¬Lists cache.group2model2channels id)
    ⟨consistent, gone⟩ ?_
  rintro cache change next ⟨consistent, gone⟩ unsynced moved
  cases change with
  | initChannelCache channels abilityGroups => exact absurd trivial unsynced
  | cacheUpdateChannelStatus other status =>
    cases moved
    exact ⟨consistent.cacheUpdateChannelStatus other status,
      fun lists => gone (lists_of_cacheUpdateChannelStatus lists)⟩
  | cacheUpdateChannel channel =>
    cases moved
    exact ⟨consistent.cacheUpdateChannel advancedCustom channel, gone⟩

/-- An element that is listed once at most is erased with all its occurrences, by induction
on the list.
-/
theorem erase_eq_filter {l : List ℤ} (once : l.count id ≤ 1) : l.erase id = l.filter (· ≠ id) := by
  induction l with
  | nil => rfl
  | cons head rest ih =>
    by_cases same : head = id
    · subst same
      rw [count_cons_self] at once
      have absent : head ∉ rest := count_eq_zero.mp (by omega)
      rw [erase_cons_head, filter_cons_of_neg (by simp), eq_comm, filter_eq_self]
      intro other member
      exact decide_eq_true fun same => absent (same ▸ member)
    · rw [count_cons_of_ne same] at once
      rw [erase_cons_tail (by simpa using same), filter_cons_of_pos (by simpa), ih once]

variable {channels : List Channel}

/-- The list of a group and a model names a channel as often as the channel names them. -/
theorem count_placed (keys : (channels.map Channel.id).Nodup) {channel}
    (member : channel ∈ channels) (group model)
    : (placed channels group model).count channel.id
      = if channel.status = channelStatusEnabled then channel.listings.count (group, model)
        else 0 := by
  obtain ⟨before, after, rfl⟩ := append_of_mem member
  have others {rest : List Channel} (absent : channel.id ∉ rest.map Channel.id)
      : (placed rest group model).count channel.id = 0 := by
    refine count_eq_zero.mpr fun listed => absent ?_
    obtain ⟨other, isOther, _, _, same⟩ := mem_placed.mp listed
    exact mem_map.mpr ⟨other, isOther, same⟩
  simp only [map_append, map_cons, nodup_append, nodup_cons] at keys
  obtain ⟨_, ⟨notAfter, _⟩, disjoint⟩ := keys
  have notBefore : channel.id ∉ before.map Channel.id :=
    fun listed => disjoint _ listed _ mem_cons_self rfl
  have split : placed (before ++ channel :: after) group model
      = placed before group model ++ (channel.placed group model ++ placed after group model) := by
    simp [placed]
  rw [split, count_append, count_append, others notBefore, others notAfter, Channel.placed]
  split <;> simp

/-- A channel is removed exactly if no list names it twice. -/
theorem ChannelCache.Consistent.removed_iff (consistent : cache.Consistent) {status}
    (disabled : status ≠ channelStatusEnabled)
    : Removed cache (cache.cacheUpdateChannelStatus id status) id
      ↔ ∀ group models model, cache.group2model2channels group = some models
        → (models model).count id ≤ 1 := by
  have erased : (cache.cacheUpdateChannelStatus id status).group2model2channels
      = fun group => (cache.group2model2channels group).map fun models model =>
          (models model).erase id := if_pos disabled
  constructor
  · rintro ⟨gone, _, _⟩ group models model found
    by_contra twice
    refine gone ⟨group, _, model, (congrFun erased group).trans (by rw [found]; rfl), ?_⟩
    refine count_pos_iff.mp ?_
    rw [count_erase_self]
    omega
  · intro once
    have gone : ¬Lists
        (cache.cacheUpdateChannelStatus id status).group2model2channels id := by
      rintro ⟨group, _, model, isGroup, member⟩
      rw [erased] at isGroup
      obtain ⟨models, found, rfl⟩ := Option.map_eq_some_iff.mp isGroup
      have counted := count_pos_iff.mpr member
      rw [count_erase_self] at counted
      have := once group models model found
      omega
    refine ⟨gone, ?_, ?_⟩
    · rw [erased]
      funext group
      refine Option.map_congr fun models found => funext fun model => ?_
      exact erase_eq_filter (once group models model found)
    · intro advancedCustom afterwards led group model retry requestPath intn channel drawn
        selected same
      obtain ⟨consistentOn, goneOn⟩ :=
        not_lists_of_leads led (consistent.cacheUpdateChannelStatus id status) gone
      exact goneOn (same ▸ consistentOn.lists_of_selected drawn selected)

/-- After a synchronisation of any channels, disabling one removes it, and nothing else, from all
routing lists exactly if it was disabled already or its groups and models name no pair of them
twice.
-/
theorem removed_after_sync_iff {advancedCustom abilityGroups}
    (keys : (channels.map Channel.id).Nodup)
    (synced : initChannelCache advancedCustom channels abilityGroups = some cache) {status}
    (disabled : status ≠ channelStatusEnabled)
    : Removed cache (cache.cacheUpdateChannelStatus id status) id
      ↔ ∀ channel ∈ channels, channel.id = id → channel.status = channelStatusEnabled
        → channel.listings.Nodup := by
  rw [(consistent_of_initChannelCache synced).removed_iff disabled]
  obtain ⟨covered, rfl⟩ := initChannelCache_eq_some_iff.mp synced
  have sorted (group model : String)
      : (sortByPriority (byId channels) (placed channels group model)).count id
        = (placed channels group model).count id := (perm_insertionSort _ _).count_eq id
  constructor
  · rintro once channel member rfl enabled
    refine nodup_iff_count_le_one.mpr ?_
    rintro ⟨group, model⟩
    have counted := count_placed keys member group model
    rw [if_pos enabled] at counted
    by_cases named : (group, model) ∈ channel.listings
    · have atMost := once group _ model (if_pos (covered channel member enabled _ named))
      rwa [sorted, counted] at atMost
    · rw [count_eq_zero.mpr named]
      exact Nat.zero_le 1
  · intro once group models model found
    dsimp only at found
    split at found
    · cases found
      rw [sorted]
      by_cases known : ∃ channel ∈ channels, channel.id = id
      · obtain ⟨channel, member, rfl⟩ := known
        rw [count_placed keys member group model]
        split
        next enabled => exact nodup_iff_count_le_one.mp (once channel member rfl enabled) _
        · exact Nat.zero_le 1
      · rw [count_eq_zero.mpr]
        · exact Nat.zero_le 1
        · intro listed
          obtain ⟨channel, member, _, _, same⟩ := mem_placed.mp listed
          exact known ⟨channel, member, same⟩
    · cases found

/-- Two channels of one model each, of which the first is disabled. -/
theorem removed_after_sync_iff_two
    : Removed (synced [weighsTen 1 "m", weighsTen 2 "m"])
        ((synced [weighsTen 1 "m", weighsTen 2 "m"]).cacheUpdateChannelStatus 1 2) 1 :=
  (removed_after_sync_iff (by decide) (synced_eq (by decide)) (by decide)).mpr (by decide)

/-- A channel whose models name one of them twice is selected after it was disabled. -/
theorem selected_after_disabling
    : ((synced [weighsTen 1 "m,m"]).cacheUpdateChannelStatus 1 2).listed "default" "m" = [1]
      ∧ ∀ intn, ((synced [weighsTen 1 "m,m"]).cacheUpdateChannelStatus 1
            2).getRandomSatisfiedChannel "default" "m" 0 "" intn
          = .ok (some { weighsTen 1 "m,m" with status := 2 }) := by
  have only : ((synced [weighsTen 1 "m,m"]).cacheUpdateChannelStatus 1 2).candidates "default"
      "m" "" = [1] := by
    decide
  refine ⟨by decide, fun intn => ?_⟩
  simp only [ChannelCache.getRandomSatisfiedChannel, only]
  rfl

end HelsterApi.Channels
