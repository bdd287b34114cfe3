import HelsterApi.Channels.Cache

/-! The tables of the channels and of their abilities, as the administration writes them, and the
synchronisation of the cache from them. It needs an ability for each group of an enabled channel,
which the operations provide unless a later statement of theirs fails.
-/

namespace HelsterApi.Channels

open List Transition

structure ChannelRow extends Channel where
  tag : Option String

/-- A row of the abilities. An unset priority is stored as the default zero. -/
structure Ability where
  (group model : String)
  channelId : ℤ
  enabled : Bool
  priority : ℤ
  weight : ℕ
  tag : Option String
  deriving DecidableEq

structure Tables where
  channels : List ChannelRow
  abilities : List Ability

variable (row : ChannelRow)

def ChannelRow.ability (model group : String) : Ability :=
  ⟨group, model, row.id, row.status = channelStatusEnabled, row.getPriority,
    row.weight.getD 0, row.tag⟩

def Ability.key (ability : Ability) : String := ability.group ++ "|" ++ ability.model

/-- The loop over `abilitySet`: an ability whose key was met before is skipped. -/
def distinctAbilities : List String → List Ability → List Ability
  | _, [] => []
  | abilitySet, ability :: rest =>
    if ability.key ∈ abilitySet then distinctAbilities abilitySet rest
    else ability :: distinctAbilities (ability.key :: abilitySet) rest

def ChannelRow.newAbilities : List Ability :=
  distinctAbilities [] <|
    (splitComma row.models).flatMap fun model =>
      (splitComma row.group).map fun group => row.ability model group

/-- `AddAbilities`: chunks of 50 abilities, up to the first that is refused. A row whose
primary key exists is left as it is.
-/
def ChannelRow.addAbilities (chunks : ℕ) (abilities : List Ability) (row : ChannelRow)
    : List Ability :=
  abilities ++ (row.newAbilities.take (50 * chunks)).filter fun new =>
    ∀ old ∈ abilities,
      ¬(old.group = new.group ∧ old.model = new.model ∧ old.channelId = new.channelId)

def ChannelRow.allChunks : ℕ := row.newAbilities.length

def ChannelRow.addAllAbilities (abilities : List Ability) (row : ChannelRow) : List Ability :=
  row.addAbilities row.allChunks abilities

/-- `UpdateAbilities`, if its transaction commits. -/
def ChannelRow.updateAbilities (abilities : List Ability) (row : ChannelRow) : List Ability :=
  row.addAllAbilities (abilities.filter fun ability => ability.channelId ≠ row.id)

def ChannelRow.created : ChannelRow :=
  { row with
    status := if row.status = 0 then channelStatusEnabled else row.status
    group := if row.group = "" then "default" else row.group }

/-- `Updates`: the fields of a struct that are not zero are written. -/
def ChannelRow.updates (edit : ChannelRow) : ChannelRow where
  id := row.id
  type := if edit.type = 0 then row.type else edit.type
  status := if edit.status = 0 then row.status else edit.status
  weight := edit.weight.or row.weight
  priority := edit.priority.or row.priority
  responseTime := if edit.responseTime = 0 then row.responseTime else edit.responseTime
  models := if edit.models = "" then row.models else edit.models
  group := if edit.group = "" then row.group else edit.group
  otherSettings := if edit.otherSettings = "" then row.otherSettings else edit.otherSettings
  tag := edit.tag.or row.tag

/-- The operations that change the tables, with what becomes of their later statements: how many
chunks of abilities are added, and whether the abilities follow the channels. One transaction is
done as a whole.
-/
inductive TableChange where
  | insert (row : ChannelRow) (chunks : ℕ)
  | batchInsertChannels (rows : List ChannelRow)
  | update (edit : ChannelRow) (follows : Bool)
  | editChannelByTag (tag : String) (newTag : Option String) (models group : String)
      (priority : Option ℤ) (weight : Option ℕ) (follows : ℤ → Bool)
  /-- `UpdateChannelStatus`, or `EnableChannelByTag` and `DisableChannelByTag`. -/
  | setStatus (selects : ℤ → Option String → Bool) (status : ℤ) (follows : Bool)
  /-- `Delete`, `BatchDeleteChannels`, or `DeleteChannelByStatus`, which no ability follows. -/
  | delete (ids : List ℤ) (follows : Bool)
  | batchSetChannelTag (ids : List ℤ) (tag : Option String)
  | fixAbility (chunks : ℤ → ℕ)

/-- The tables after an operation; `none` where a new row has the key of another. -/
def Tables.next (t : Tables) : TableChange → Option Tables
  | .insert row chunks =>
    if ((t.channels ++ [row.created]).map (·.id)).Nodup then
      some ⟨t.channels ++ [row.created], row.created.addAbilities chunks t.abilities⟩
    else none
  | .batchInsertChannels rows =>
    let rows := rows.map ChannelRow.created
    if ((t.channels ++ rows).map (·.id)).Nodup then
      some ⟨t.channels ++ rows, rows.foldl ChannelRow.addAllAbilities t.abilities⟩
    else none
  | .update edit follows =>
    let channels := t.channels.map fun row =>
      if row.id = edit.id then row.updates edit else row
    some ⟨channels, (channels.filter fun row => row.id = edit.id ∧ follows).foldl
      ChannelRow.updateAbilities t.abilities⟩
  | .editChannelByTag tag newTag models group priority weight follows =>
    let edit : ChannelRow := ⟨⟨0, 0, 0, weight, priority, 0, models, group, ""⟩, newTag⟩
    let channels := t.channels.map fun row =>
      if row.tag = some tag then row.updates edit else row
    some ⟨channels,
      if models ≠ "" ∨ group ≠ "" then
        (channels.filter fun row => row.tag = some (newTag.getD tag) ∧ follows row.id).foldl
          ChannelRow.updateAbilities t.abilities
      else
        t.abilities.map fun ability =>
          if ability.tag = some tag ∧ follows ability.channelId then
            { ability with
              tag := newTag.or ability.tag
              priority := priority.getD ability.priority
              weight := if weight.getD 0 = 0 then ability.weight else weight.getD 0 }
          else ability⟩
  | .setStatus selects status follows =>
    some ⟨t.channels.map fun row =>
        if selects row.id row.tag then { row with status := status } else row,
      t.abilities.map fun ability =>
        if follows ∧ selects ability.channelId ability.tag then
          { ability with enabled := status = channelStatusEnabled }
        else ability⟩
  | .delete ids follows =>
    some ⟨t.channels.filter fun row => row.id ∉ ids,
      t.abilities.filter fun ability => ¬(follows ∧ ability.channelId ∈ ids)⟩
  | .batchSetChannelTag ids tag =>
    -- the channels are read outside of the transaction, with their old tags
    some ⟨t.channels.map fun row => if row.id ∈ ids then { row with tag := tag } else row,
      (t.channels.filter fun row => row.id ∈ ids).foldl ChannelRow.updateAbilities t.abilities⟩
  | .fixAbility chunks =>
    some ⟨t.channels, t.channels.foldl
      (fun abilities row => row.addAbilities (chunks row.id) abilities) []⟩

def tableMachine : Machine Tables TableChange where
  initial t := t = ⟨[], []⟩
  next := Tables.next

def Tables.initChannelCache (advancedCustom : String → Option AdvancedCustomConfig) (t : Tables)
    : Option ChannelCache :=
  Channels.initChannelCache advancedCustom (t.channels.map (·.toChannel))
    (t.abilities.map Ability.group)

/-- Whatever the tables hold, a synchronisation completes exactly if each group of each enabled
channel has some ability.
-/
theorem initChannelCache_isSome_iff (advancedCustom : String → Option AdvancedCustomConfig)
    (t : Tables)
    : (t.initChannelCache advancedCustom).isSome
      ↔ ∀ row ∈ t.channels, row.status = channelStatusEnabled
        → ∀ group ∈ splitComma row.group, ∃ ability ∈ t.abilities, ability.group = group := by
  have named (row : ChannelRow)
      : (∀ place ∈ row.toChannel.listings, place.1 ∈ t.abilities.map Ability.group)
        ↔ ∀ group ∈ splitComma row.group, ∃ ability ∈ t.abilities, ability.group = group := by
    obtain ⟨model, models, isFirst⟩ := exists_cons_of_ne_nil
      (show splitComma row.models ≠ [] by simp [splitComma])
    simp only [Channel.listings, mem_flatMap, mem_map, isFirst]
    constructor
    · intro all group member
      exact all (group, model) ⟨group, member, model, mem_cons_self, rfl⟩
    · rintro all _ ⟨group, member, _, _, rfl⟩
      exact all group member
  simp only [Option.isSome_iff_exists, Tables.initChannelCache, initChannelCache_eq_some_iff,
    exists_and_left, exists_eq, and_true, forall_mem_map, named]

/-- Each group of the channel is that of an ability of it. -/
def ChannelRow.Covered (abilities : List Ability) (row : ChannelRow) : Prop :=
  ∀ group ∈ splitComma row.group,
    ∃ ability ∈ abilities, ability.group = group ∧ ability.channelId = row.id

/-- Channels have ids of their own, and all are covered. -/
structure Tables.Covered (t : Tables) : Prop where
  distinct : (t.channels.map (·.id)).Nodup
  covered : ∀ row ∈ t.channels, row.Covered t.abilities

/-- The later statements of an operation succeed: every chunk of the abilities is added, and the
abilities follow a change of the channels. Changes of status and deletions need not be followed.
-/
def Followed (t : Tables) : TableChange → Prop
  | .insert row chunks => row.created.newAbilities.length ≤ 50 * chunks
  | .update _ follows => follows
  | .editChannelByTag _ _ _ _ _ _ follows => ∀ id, follows id
  | .fixAbility chunks => ∀ row ∈ t.channels, row.newAbilities.length ≤ 50 * chunks row.id
  | _ => True

variable {row} {abilities abilities' : List Ability} {rows : List ChannelRow}

/-- Of the abilities with one key among the first ones, one is kept. -/
theorem exists_kept {abilitySet} {first later : List Ability} {ability}
    (member : ability ∈ first) (fresh : ability.key ∉ abilitySet)
    : ∃ kept ∈ first, kept ∈ distinctAbilities abilitySet (first ++ later)
      ∧ kept.key = ability.key := by
  induction first generalizing abilitySet with
  | nil => cases member
  | cons head rest ih =>
    rw [cons_append, distinctAbilities]
    by_cases met : head.key ∈ abilitySet
    · have other : ability ≠ head := fun same => fresh (same ▸ met)
      obtain ⟨kept, listed, isKept, same⟩ := ih ((mem_cons.mp member).resolve_left other) fresh
      exact ⟨kept, mem_cons_of_mem _ listed, by rwa [if_pos met], same⟩
    · rw [if_neg met]
      by_cases same : head.key = ability.key
      · exact ⟨head, mem_cons_self, mem_cons_self, same⟩
      · have other : ability ≠ head := fun equal => same (equal ▸ rfl)
        have fresh : ability.key ∉ head.key :: abilitySet := by simp [fresh, Ne.symm same]
        obtain ⟨kept, listed, isKept, same⟩ := ih ((mem_cons.mp member).resolve_left other) fresh
        exact ⟨kept, mem_cons_of_mem _ listed, mem_cons_of_mem _ isKept, same⟩

/-- The abilities of the first model name every group, since their keys differ in the group only. -/
theorem ChannelRow.covered_newAbilities (row : ChannelRow) : row.Covered row.newAbilities := by
  intro group member
  obtain ⟨model, models, isFirst⟩ := exists_cons_of_ne_nil
    (show splitComma row.models ≠ [] by simp [splitComma])
  have own : row.ability model group ∈ (splitComma row.group).map (row.ability model) :=
    mem_map_of_mem member
  obtain ⟨kept, listed, isKept, same⟩ := @exists_kept [] _
    (models.flatMap fun model => (splitComma row.group).map (row.ability model)) _ own not_mem_nil
  obtain ⟨other, _, rfl⟩ := mem_map.mp listed
  refine ⟨_, by rwa [newAbilities, isFirst, flatMap_cons], ?_, rfl⟩
  simpa [Ability.key, ability, String.append_assoc] using same

theorem ChannelRow.Covered.mono (covered : row.Covered abilities)
    (kept : ∀ ability ∈ abilities, ability.channelId = row.id → ability ∈ abilities')
    : row.Covered abilities' := by
  intro group member
  obtain ⟨ability, listed, same, own⟩ := covered group member
  exact ⟨ability, kept ability listed own, same, own⟩

/-- Adding every chunk of a channel's abilities covers it. -/
theorem ChannelRow.covered_addAbilities {chunks} (complete : row.newAbilities.length ≤ 50 * chunks)
    : row.Covered (row.addAbilities chunks abilities) := by
  intro group member
  obtain ⟨new, listed, same, own⟩ := row.covered_newAbilities group member
  by_cases fresh : ∀ old ∈ abilities,
      ¬(old.group = new.group ∧ old.model = new.model ∧ old.channelId = new.channelId)
  · refine ⟨new, mem_append_right _ (mem_filter.mpr ⟨?_, decide_eq_true fresh⟩), same, own⟩
    rwa [take_of_length_le complete]
  · push Not at fresh
    obtain ⟨old, stored, sameGroup, _, sameId⟩ := fresh
    exact ⟨old, mem_append_left _ stored, sameGroup.trans same, sameId.trans own⟩

theorem ChannelRow.Covered.addAbilities (covered : row.Covered abilities) (chunks)
    (other : ChannelRow) : row.Covered (other.addAbilities chunks abilities) :=
  covered.mono fun _ listed _ => mem_append_left _ listed

/-- Adding the abilities of some channels covers these and keeps others covered. -/
theorem covered_foldl_addAbilities {chunks : ChannelRow → ℕ}
    (complete : ∀ row ∈ rows, row.newAbilities.length ≤ 50 * chunks row)
    (covers : row ∈ rows ∨ row.Covered abilities)
    : row.Covered (rows.foldl (fun abilities row => row.addAbilities (chunks row) abilities)
      abilities) := by
  induction rows generalizing abilities with
  | nil => exact covers.resolve_left not_mem_nil
  | cons first rest ih =>
    rw [forall_mem_cons] at complete
    refine ih complete.2 ?_
    rcases covers with listed | covered
    · rcases mem_cons.mp listed with rfl | later
      · exact .inr (ChannelRow.covered_addAbilities complete.1)
      · exact .inl later
    · exact .inr (covered.addAbilities _ first)

/-- Renewing the abilities of some channels covers these and keeps others covered. -/
theorem covered_foldl_updateAbilities (distinct : (rows.map (·.id)).Nodup)
    (covers : row ∈ rows ∨ row.Covered abilities ∧ row.id ∉ rows.map (·.id))
    : row.Covered (rows.foldl ChannelRow.updateAbilities abilities) := by
  induction rows generalizing abilities with
  | nil => exact (covers.resolve_left not_mem_nil).1
  | cons first rest ih =>
    rw [map_cons, nodup_cons] at distinct
    refine ih distinct.2 ?_
    rcases covers with listed | ⟨covered, other⟩
    · rcases mem_cons.mp listed with rfl | later
      · exact .inr ⟨ChannelRow.covered_addAbilities (by simp [ChannelRow.allChunks]; omega),
          distinct.1⟩
      · exact .inl later
    · rw [map_cons, mem_cons, not_or] at other
      refine .inr ⟨.addAbilities (covered.mono fun ability listed own => ?_) _ first, other.2⟩
      exact mem_filter.mpr ⟨listed, decide_eq_true (own ▸ other.1)⟩

theorem ChannelRow.Covered.map (covered : row.Covered abilities) {change : Ability → Ability}
    (kept : ∀ ability, (change ability).group = ability.group
      ∧ (change ability).channelId = ability.channelId)
    : row.Covered (abilities.map change) := by
  intro group member
  obtain ⟨ability, listed, same, own⟩ := covered group member
  exact ⟨_, mem_map_of_mem listed, (kept ability).1.trans same, (kept ability).2.trans own⟩

variable {t t' : Tables}

theorem Tables.Covered.mapRows (distinct : (t.channels.map (·.id)).Nodup)
    {change : ChannelRow → ChannelRow} (sameId : ∀ row, (change row).id = row.id)
    (covered : ∀ row ∈ t.channels, (change row).Covered abilities)
    : Tables.Covered ⟨t.channels.map change, abilities⟩ where
  distinct := by simpa [Function.comp_def, sameId] using distinct
  covered := forall_mem_map.mpr covered

/-- Renewing the abilities of the changed channels that are selected keeps all covered if the others
are left alone.
-/
theorem Tables.Covered.renew (before : t.Covered) {change : ChannelRow → ChannelRow}
    (sameId : ∀ row, (change row).id = row.id) {selects : ChannelRow → Bool}
    (others : ∀ row, selects (change row) = false → change row = row)
    : Tables.Covered ⟨t.channels.map change,
      ((t.channels.map change).filter selects).foldl ChannelRow.updateAbilities t.abilities⟩ := by
  have changed : ((t.channels.map change).map (·.id)).Nodup := by
    simpa [Function.comp_def, sameId] using before.distinct
  refine .mapRows before.distinct sameId fun row listed => ?_
  have member : change row ∈ t.channels.map change := mem_map_of_mem listed
  refine covered_foldl_updateAbilities (changed.sublist (filter_sublist.map _)) ?_
  cases selected : selects (change row) with
  | true => exact .inl (mem_filter.mpr ⟨member, selected⟩)
  | false =>
    refine .inr ⟨?_, fun same => ?_⟩
    · rw [others row selected]
      exact before.covered row listed
    obtain ⟨other, isOther, sameId⟩ := mem_map.mp same
    obtain ⟨otherListed, otherSelected⟩ := mem_filter.mp isOther
    cases inj_on_of_nodup_map changed otherListed member sameId
    cases selected.symm.trans otherSelected

/-- An operation whose later statements succeed keeps every channel covered. -/
theorem Tables.Covered.next {change} (covered : t.Covered) (followed : Followed t change)
    (moved : t.next change = some t')
    : t'.Covered := by
  obtain ⟨distinct, covered⟩ := covered
  have complete (row : ChannelRow) : row.newAbilities.length ≤ 50 * row.allChunks :=
    Nat.le_mul_of_pos_left _ (by decide)
  cases change with dsimp only [Tables.next] at moved
  | insert row chunks =>
    split at moved <;> cases moved
    rename_i distinct
    refine ⟨distinct, fun other listed => ?_⟩
    rcases mem_append.mp listed with old | new
    · exact (covered other old).addAbilities chunks _
    · cases mem_singleton.mp new
      exact ChannelRow.covered_addAbilities followed
  | batchInsertChannels rows =>
    split at moved <;> cases moved
    rename_i distinct
    refine ⟨distinct, fun other listed => ?_⟩
    exact covered_foldl_addAbilities (fun row _ => complete row)
      ((mem_append.mp listed).symm.imp_right (covered other))
  | update edit follows =>
    cases moved
    refine Tables.Covered.renew ⟨distinct, covered⟩ (fun row => ?_) fun row unselected => ?_
    · split <;> rfl
    · have follows : follows = true := followed
      grind [ChannelRow.updates]
  | editChannelByTag tag newTag models group priority weight follows =>
    cases moved
    by_cases edited : models ≠ "" ∨ group ≠ ""
    · rw [if_pos edited]
      refine Tables.Covered.renew ⟨distinct, covered⟩ (fun row => ?_) fun row unselected => ?_
      · split <;> rfl
      · have follows : ∀ id, follows id = true := followed
        grind [ChannelRow.updates]
    · rw [if_neg edited]
      refine .mapRows distinct (fun row => by split <;> rfl) fun row listed => ?_
      refine ChannelRow.Covered.map ?_ fun ability => by split <;> exact ⟨rfl, rfl⟩
      have sameGroup : group = "" := not_not.mp (not_or.mp edited).2
      split
      · subst sameGroup
        exact covered row listed
      · exact covered row listed
  | setStatus selects status follows =>
    cases moved
    refine .mapRows distinct (fun row => by split <;> rfl) fun row listed => ?_
    refine ChannelRow.Covered.map ?_ fun ability => by split <;> exact ⟨rfl, rfl⟩
    split <;> exact covered row listed
  | delete ids follows =>
    cases moved
    refine ⟨distinct.sublist (filter_sublist.map _), fun row listed => ?_⟩
    obtain ⟨listed, alive⟩ := mem_filter.mp listed
    refine (covered row listed).mono fun ability stored own => mem_filter.mpr ⟨stored, ?_⟩
    simp_all
  | batchSetChannelTag ids tag =>
    cases moved
    have renewed := @Tables.Covered.renew t ⟨distinct, covered⟩ id (fun _ => rfl)
      (fun row => row.id ∈ ids) fun _ _ => rfl
    rw [map_id] at renewed
    refine .mapRows distinct (fun row => by split <;> rfl) fun row listed => ?_
    split <;> exact renewed.covered row listed
  | fixAbility chunks =>
    cases moved
    exact ⟨distinct, fun row listed => covered_foldl_addAbilities followed (.inl listed)⟩

/-- In every run of the operations whose later statements succeed, the synchronisation completes.
-/
theorem sync_completes (reached : tableMachine.Reaches Followed t)
    (advancedCustom : String → Option AdvancedCustomConfig)
    : (t.initChannelCache advancedCustom).isSome := by
  have covered : t.Covered := by
    refine reached.invariant _ ?_ fun _ covered followed moved => covered.next followed moved
    rintro t rfl
    exact ⟨nodup_nil, nofun⟩
  refine (initChannelCache_isSome_iff advancedCustom t).mpr fun row listed _ group member => ?_
  obtain ⟨ability, stored, same, _⟩ := covered.covered row listed group member
  exact ⟨ability, stored, same⟩

def defaultRow : ChannelRow :=
  ⟨⟨1, 1, channelStatusEnabled, none, none, 0, "m", "default", ""⟩, none⟩

/-- Witness: the synchronisation after an insert and an update that the abilities follow. -/
theorem sync_completes_vip
    : ((tableMachine.play ⟨[], []⟩ [.insert defaultRow 1,
        .update { defaultRow with group := "vip" } true]).initChannelCache fun _ => none).isSome :=
  sync_completes (Machine.reaches_play rfl (by
    exact ⟨show _ ≤ 50 * 1 by decide, rfl, rfl, rfl, trivial⟩)) _

def unfollowedUpdate : List TableChange :=
  [.insert defaultRow 1, .update { defaultRow with group := "vip" } false]

/-- After an update that the abilities do not follow, the next synchronisation panics. -/
theorem sync_panics
    : tableMachine.Reaches anyStep (tableMachine.play ⟨[], []⟩ unfollowedUpdate)
      ∧ ∀ advancedCustom,
        (tableMachine.play ⟨[], []⟩ unfollowedUpdate).initChannelCache advancedCustom = none := by
  refine ⟨Machine.reaches_play rfl (by decide), fun advancedCustom => ?_⟩
  rfl

end HelsterApi.Channels
