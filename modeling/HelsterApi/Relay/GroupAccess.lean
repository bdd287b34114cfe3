import HelsterApi.Relay.GroupSelection

/-! Which group a request is served with: the group of the token, of image models, of the
playground, or the one an `auto` token selects.
-/

namespace HelsterApi.Relay

open List Text

/-- The groups that all users may use, what differs for the users of one group, in the order the map
is iterated, and which groups have a ratio.
-/
structure GroupSettings where
  userUsableGroups : List String
  groupSpecialUsableGroup : String → List String
  containsGroupRatio : String → Bool

/-- One special setting: `-:` takes a group away, `+:` or no sign adds it. -/
def applySpecialGroup (groups : List String) (specialGroup : String) : List String :=
  match specialGroup.toList with
  | '-' :: ':' :: group => groups.filter (· ≠ String.ofList group)
  | '+' :: ':' :: group => String.ofList group :: groups
  | _ => specialGroup :: groups

variable (settings : GroupSettings)

def GroupSettings.getUserUsableGroups (userGroup : String) : List String :=
  if userGroup = "" then settings.userUsableGroups
  else
    let groups := (settings.groupSpecialUsableGroup userGroup).foldl applySpecialGroup
      settings.userUsableGroups
    if userGroup ∈ groups then groups else userGroup :: groups

def GroupSettings.groupInUserUsableGroups (userGroup groupName : String)
    : Bool := decide (groupName ∈ settings.getUserUsableGroups userGroup)

/-- The usable groups but `auto`, the cheapest first. -/
def GroupSettings.getUserAutoGroup (ratios : GroupRatios) (userGroup : String) : List String :=
  ((settings.getUserUsableGroups userGroup).dedup.filter (· ≠ "auto")).mergeSort fun left right =>
    let leftRatio := ratios.getUserGroupRatio userGroup left
    let rightRatio := ratios.getUserGroupRatio userGroup right
    if leftRatio = rightRatio then decide (left ≤ right) else decide (leftRatio < rightRatio)

def imageGenerationModels : List String :=
  ["dall-e-3", "dall-e-2", "gpt-image-1", "prefix:imagen-", "flux-", "flux.1-"]

variable (lower : LowerCase)

def isImageGenerationModel (modelName : String) : Bool :=
  let modelName := modelName.toList.map lower.toLower
  imageGenerationModels.any fun m =>
    modelName.tails.any m.toList.isPrefixOf
      || ("prefix:".toList.isPrefixOf m.toList && (m.toList.drop 7).isPrefixOf modelName)

/-- What decides the group of a request. `playgroundGroup` is the group its body names, which only
the playground reads, `specificChannel` tells that an administrator named the channel, and
`rejected` is the error of any other check.
-/
structure GroupRequest where
  (userGroup tokenGroup model path : String)
  playgroundGroup : String := ""
  shouldSelectChannel : Bool := true
  specificChannel : Bool := false
  rejected : Option String := none

/-- The settings as the checks of one request see them: a map is iterated in a new order each
time.
-/
structure SettingsViews where
  (token image playground auto : GroupSettings)

def tokenAuthGroup (request : GroupRequest) : Except String String :=
  if request.tokenGroup = "" then .ok request.userGroup
  else if request.tokenGroup ∉ settings.getUserUsableGroups request.userGroup then
    .error ("无权访问 " ++ request.tokenGroup ++ " 分组")
  else if settings.containsGroupRatio request.tokenGroup = false ∧ request.tokenGroup ≠ "auto" then
    .error ("分组 " ++ request.tokenGroup ++ " 已被弃用")
  else .ok request.tokenGroup

/-- The group in use for an image model: requests with the default group are sent to `gpt`. -/
def imageGroup (settings : GroupSettings) (request : GroupRequest) (usingGroup : String) : String :=
  if isImageGenerationModel lower request.model ∧ usingGroup = "default"
      ∧ settings.groupInUserUsableGroups request.userGroup "gpt" then
    "gpt"
  else usingGroup

def GroupRequest.namedGroup (request : GroupRequest) : String :=
  if "/pg/chat/completions".toList.isPrefixOf request.path.toList then request.playgroundGroup
  else ""

def playgroundGroup (request : GroupRequest) (usingGroup : String) : Except String String :=
  if request.namedGroup = "" then .ok usingGroup
  else if settings.groupInUserUsableGroups usingGroup request.namedGroup = false
      ∧ request.namedGroup ≠ usingGroup then
    .error "distributor.group_access_denied"
  else .ok request.namedGroup

/-- The group in use, the group its channel was selected from, and the one an `auto` request
selected.
-/
structure Admitted where
  (usingGroup selectGroup : String)
  autoGroup : Option String

def Admitted.pricedGroup (admitted : Admitted) : String :=
  match admitted.autoGroup with
  | some group => useGroup admitted.usingGroup group
  | none => admitted.usingGroup

/-- In which groups the preferred channel can be used, if there is one, and what the selection
draws.
-/
structure Channels where
  affinity : Option (String → Bool)
  draw : Selection
  retryTimes : ℤ

def Channels.preferred (channels : Channels) (autoGroups : List String) (usingGroup : String)
    : Option String :=
  channels.affinity.bind fun enabled =>
    if usingGroup = "auto" then autoGroups.find? enabled
    else if enabled usingGroup then some usingGroup
    else none

def selectGroup (ratios : GroupRatios) (channels : Channels) (userGroup usingGroup : String)
    : Except String Admitted :=
  let autoGroups := settings.getUserAutoGroup ratios userGroup
  let servedWith (group : String) : Admitted :=
    ⟨usingGroup, group, if usingGroup = "auto" then some group else none⟩
  match channels.preferred autoGroups usingGroup with
  | some group => .ok (servedWith group)
  | none =>
    match (cacheGetRandomSatisfiedChannel { channels.draw with autoGroups } channels.retryTimes
        { tokenGroup := usingGroup, userGroup, usingGroup } ⟨0, false⟩).1 with
    | .error _ => .error "distributor.get_channel_failed"
    | .ok none => .error "distributor.no_available_channel"
    | .ok (some (_, group)) => .ok (servedWith group)

def distributeGroup (views : SettingsViews) (ratios : GroupRatios)
    (channels : Channels) (request : GroupRequest) (usingGroup : String)
    : Except String Admitted :=
  match request.rejected with
  | some err => .error err
  | none =>
    if request.specificChannel ∨ request.shouldSelectChannel = false then
      .ok ⟨usingGroup, usingGroup, none⟩
    else if request.model = "" then .error "distributor.model_name_required"
    else
      match playgroundGroup views.playground request
          (imageGroup lower views.image request usingGroup) with
      | .error err => .error err
      | .ok usingGroup => selectGroup views.auto ratios channels request.userGroup usingGroup

def admitRequest (views : SettingsViews) (ratios : GroupRatios)
    (channels : Channels) (request : GroupRequest)
    : Except String Admitted :=
  match tokenAuthGroup views.token request with
  | .error err => .error err
  | .ok usingGroup => distributeGroup lower views ratios channels request usingGroup

structure GroupSettings.Reorders (s s' : GroupSettings) : Prop where
  usable : s'.userUsableGroups = s.userUsableGroups
  special : ∀ group, (s.groupSpecialUsableGroup group).Perm (s'.groupSpecialUsableGroup group)
  ratios : s'.containsGroupRatio = s.containsGroupRatio

structure SettingsViews.Of (views : SettingsViews) (s : GroupSettings) : Prop where
  token : s.Reorders views.token
  image : s.Reorders views.image
  playground : s.Reorders views.playground
  auto : s.Reorders views.auto

/-- The users of a group may use another one, if the settings are iterated in some order, and always
their own.
-/
def GroupSettings.Allows (s : GroupSettings) (userGroup group : String) : Prop :=
  group = userGroup ∨ ∃ s', s.Reorders s' ∧ group ∈ s'.getUserUsableGroups userGroup

variable {s : GroupSettings} {ratios : GroupRatios} {userGroup group : String}

variable {usingGroup : String} {channels : Channels}

/-- A request was let through with the group in use, and with a channel of it or of one the user may
use.
-/
structure Selects (s : GroupSettings) (ratios : GroupRatios) (userGroup usingGroup : String)
    (admitted : Admitted) : Prop where
  inUse : admitted.usingGroup = usingGroup
  selected : admitted.selectGroup = usingGroup
    ∨ admitted.selectGroup ∈ s.getUserUsableGroups userGroup
  auto : ∀ group ∈ admitted.autoGroup, group = admitted.selectGroup

variable {admitted : Admitted}

theorem selects_of_selectGroup
    (passed : selectGroup s ratios channels userGroup usingGroup = .ok admitted)
    : Selects s ratios userGroup usingGroup admitted := by
  have selects : ∀ group,
      (if usingGroup = "auto" then group ∈ s.getUserAutoGroup ratios userGroup
        else group = usingGroup)
      → Selects s ratios userGroup usingGroup
          ⟨usingGroup, group, if usingGroup = "auto" then some group else none⟩ := by
    intro group member
    refine ⟨rfl, ?_, ?_⟩
    · split at member
      · rw [GroupSettings.getUserAutoGroup, mem_mergeSort, mem_filter, mem_dedup] at member
        exact .inr member.1
      · exact .inl member
    · intro other found
      split at found <;> cases found
      rfl
  dsimp only [selectGroup] at passed
  split at passed
  next group found =>
    cases passed
    refine selects group ?_
    obtain ⟨enabled, _, chosen⟩ := Option.bind_eq_some_iff.mp found
    split at chosen
    next auto =>
      rw [if_pos auto]
      exact mem_of_find?_eq_some chosen
    next explicit =>
      rw [if_neg explicit]
      split at chosen <;> cases chosen
      rfl
  · split at passed
    · cases passed
    · cases passed
    next group found =>
      cases passed
      refine selects group ?_
      obtain ⟨_, _, looks, _⟩ := serves_of_found found
      unfold Routing.LooksInto at looks
      split
      next auto =>
        obtain ⟨_, at_, _⟩ := (if_pos auto).mp looks
        exact mem_of_getElem? at_
      next explicit =>
        rw [if_neg explicit] at looks
        exact looks.2.1

def GroupRequest.Explicit (request : GroupRequest) : Prop :=
  request.tokenGroup ≠ "" ∧ request.tokenGroup ≠ "auto"

def GroupRequest.SentToGpt (settings : GroupSettings) (request : GroupRequest) : Prop :=
  isImageGenerationModel lower request.model = true ∧ request.tokenGroup = "default"
    ∧ settings.groupInUserUsableGroups request.userGroup "gpt" = true

/-- The groups a request is served with are allowed to its user, and a group that the token names is
kept.
-/
structure Respects (s : GroupSettings) (request : GroupRequest) (admitted : Admitted) : Prop where
  inUse : s.Allows request.userGroup admitted.usingGroup
  selected : s.Allows request.userGroup admitted.selectGroup
  priced : s.Allows request.userGroup admitted.pricedGroup
  kept : request.Explicit → admitted.usingGroup = request.tokenGroup

/-- No channel is selected, or the request names no group for the playground and is sent to no other
group than its token names, or it names a group its user may use, and the one of its token if that
names one.
-/
def GroupRequest.Regular (settings s : GroupSettings) (request : GroupRequest) : Prop :=
  request.specificChannel = true ∨ request.shouldSelectChannel = false
    ∨ (request.namedGroup = "" ∧ ¬request.SentToGpt lower settings)
    ∨ (request.namedGroup ≠ "" ∧ s.Allows request.userGroup request.namedGroup
      ∧ (request.Explicit → request.namedGroup = request.tokenGroup))

variable {request : GroupRequest}

theorem tokenAuthGroup_eq_ok {views} (reorders : s.Reorders views)
    (passed : tokenAuthGroup views request = .ok usingGroup)
    : s.Allows request.userGroup usingGroup
      ∧ usingGroup = if request.tokenGroup = "" then request.userGroup else request.tokenGroup := by
  unfold tokenAuthGroup at passed
  split at passed
  next empty =>
    cases passed
    exact ⟨.inl rfl, (if_pos empty).symm⟩
  next named =>
    split at passed
    · cases passed
    rename_i usable
    split at passed
    · cases passed
    cases passed
    exact ⟨.inr ⟨views, reorders, not_not.mp usable⟩, (if_neg named).symm⟩

theorem Selects.priced (selects : Selects s ratios userGroup usingGroup admitted)
    : admitted.pricedGroup = usingGroup ∨ admitted.pricedGroup = admitted.selectGroup := by
  unfold Admitted.pricedGroup
  split
  next group auto =>
    unfold useGroup
    split
    · exact .inr (selects.auto group auto)
    · exact .inl selects.inUse
  · exact .inl selects.inUse

theorem Selects.respects_iff {view} (reorders : s.Reorders view)
    (selects : Selects view ratios request.userGroup usingGroup admitted)
    : Respects s request admitted
      ↔ s.Allows request.userGroup usingGroup
        ∧ (request.Explicit → usingGroup = request.tokenGroup) := by
  constructor
  · intro respects
    rw [← selects.inUse]
    exact ⟨respects.inUse, respects.kept⟩
  · rintro ⟨allowed, kept⟩
    have selected : s.Allows request.userGroup admitted.selectGroup := by
      rcases selects.selected with same | usable
      · rwa [same]
      · exact .inr ⟨view, reorders, usable⟩
    refine ⟨by rw [selects.inUse]; exact allowed, selected, ?_, by rw [selects.inUse]; exact kept⟩
    rcases selects.priced with same | same
    · rwa [same]
    · rwa [same]

section

variable {views : SettingsViews} {s : GroupSettings} {request : GroupRequest}
  {usingGroup : String}

/-- The group of image models is allowed, and another one than a token names only if that is
`default`.
-/
theorem imageGroup_spec (same : views.Of s)
    (auth : tokenAuthGroup views.token request = .ok usingGroup)
    : s.Allows request.userGroup (imageGroup lower views.image request usingGroup)
      ∧ ((request.Explicit → imageGroup lower views.image request usingGroup = request.tokenGroup)
        ↔ ¬request.SentToGpt lower views.image) := by
  obtain ⟨allowed, inUse⟩ := tokenAuthGroup_eq_ok same.token auth
  unfold imageGroup
  split
  next sent =>
    obtain ⟨image, isDefault, usable⟩ := sent
    refine ⟨.inr ⟨views.image, same.image, of_decide_eq_true usable⟩, ?_⟩
    constructor
    · rintro kept ⟨_, named, _⟩
      have explicit : request.Explicit := by
        rw [GroupRequest.Explicit, named]
        decide
      have gpt := kept explicit
      rw [named] at gpt
      exact absurd gpt (by decide)
    · intro stays explicit
      rw [if_neg explicit.1] at inUse
      exact absurd ⟨image, inUse ▸ isDefault, usable⟩ stays
  next stays =>
    refine ⟨allowed, iff_of_true ?_ ?_⟩
    · intro explicit
      rw [inUse, if_neg explicit.1]
    · rintro ⟨image, named, usable⟩
      rw [named, if_neg (by decide)] at inUse
      exact stays ⟨image, inUse, usable⟩

/-- Whenever a request passes, the groups it is served with are allowed to its user and the group of
its token is kept exactly if it is regular.
-/
theorem group_access_iff {lower ratios channels admitted} (same : views.Of s)
    (passed : admitRequest lower views ratios channels request = .ok admitted)
    : Respects s request admitted ↔ request.Regular lower views.image s := by
  unfold admitRequest at passed
  split at passed
  · cases passed
  rename_i usingGroup auth
  obtain ⟨allowed, inUse⟩ := tokenAuthGroup_eq_ok same.token auth
  unfold distributeGroup at passed
  split at passed
  · cases passed
  split at passed
  · -- No channel is selected, and the group of `TokenAuth` stays in use.
    rename_i unselected
    cases passed
    refine iff_of_true ⟨allowed, allowed, allowed, ?_⟩ (unselected.imp_right .inl)
    intro explicit
    rw [inUse, if_neg explicit.1]
  next selecting =>
    have selecting' : ¬request.specificChannel = true ∧ ¬request.shouldSelectChannel = false :=
      not_or.mp selecting
    split at passed
    · cases passed
    split at passed
    · cases passed
    rename_i finalGroup playground
    have selects := selects_of_selectGroup passed
    obtain ⟨imageAllowed, imageKept⟩ := imageGroup_spec lower same auth
    rw [selects.respects_iff same.auto, GroupRequest.Regular, or_iff_right selecting'.1,
      or_iff_right selecting'.2]
    unfold playgroundGroup at playground
    split at playground
    next unnamed =>
      cases playground
      rw [imageKept]
      simp only [unnamed, imageAllowed, true_and, ne_eq, not_true, false_and, or_false]
    next named =>
      split at playground
      · cases playground
      cases playground
      simp [named]

end

def sampleSettings : GroupSettings where
  userUsableGroups := ["default", "vip", "gpt"]
  groupSpecialUsableGroup group := if group = "gpt" then ["svip"] else []
  containsGroupRatio _ := true

def sampleViews : SettingsViews := ⟨sampleSettings, sampleSettings, sampleSettings, sampleSettings⟩

def sampleRatios : GroupRatios := ⟨fun _ => some 1, fun _ _ => none⟩

def sampleChannels : Channels := ⟨none, ⟨[], fun _ _ _ => .ok (some 1), fun _ => false, none⟩, 3⟩

def tokenRequest (model : String) : GroupRequest where
  userGroup := "vip"
  tokenGroup := "default"
  model := model
  path := "/v1/images/generations"

/-- A request to the playground by a user in `default`, for an image model and a group that
only users of `gpt` may use.
-/
def playgroundRequest : GroupRequest where
  userGroup := "default"
  tokenGroup := ""
  model := "dall-e-3"
  path := "/pg/chat/completions"
  playgroundGroup := "svip"

/-- The group of a token is kept for a text model. -/
theorem group_access_iff_text
    : admitRequest .asciiOnly sampleViews sampleRatios sampleChannels (tokenRequest "gpt-4o")
        = .ok ⟨"default", "default", none⟩
      ∧ Respects sampleSettings (tokenRequest "gpt-4o") ⟨"default", "default", none⟩ := by
  have passed : admitRequest .asciiOnly sampleViews sampleRatios sampleChannels
      (tokenRequest "gpt-4o") = .ok ⟨"default", "default", none⟩ := rfl
  have text : isImageGenerationModel .asciiOnly "gpt-4o" = false := by decide +kernel
  have stays : ¬(tokenRequest "gpt-4o").SentToGpt .asciiOnly sampleSettings := by
    rintro ⟨image, _⟩
    exact absurd (text.symm.trans image) (by decide)
  have same : sampleSettings.Reorders sampleSettings := ⟨rfl, fun _ => .refl _, rfl⟩
  exact ⟨passed, (group_access_iff ⟨same, same, same, same⟩ passed).mpr
    (.inr (.inr (.inl ⟨rfl, stays⟩)))⟩

/-- An image request is not served with the group its token names, and a playground request with one
its user may not use.
-/
theorem group_access_overridden
    : admitRequest .asciiOnly sampleViews sampleRatios sampleChannels (tokenRequest "gpt-image-1")
        = .ok ⟨"gpt", "gpt", none⟩
      ∧ ¬Respects sampleSettings (tokenRequest "gpt-image-1") ⟨"gpt", "gpt", none⟩
      ∧ admitRequest .asciiOnly sampleViews sampleRatios sampleChannels playgroundRequest
        = .ok ⟨"svip", "svip", none⟩
      ∧ ¬Respects sampleSettings playgroundRequest ⟨"svip", "svip", none⟩ := by
  refine ⟨rfl, ?_, rfl, ?_⟩
  · intro respects
    have kept := respects.kept ⟨by decide, by decide⟩
    exact absurd kept (by decide)
  · intro respects
    rcases respects.inUse with own | ⟨s', reorders, usable⟩
    · exact absurd own (by decide)
    · have plain := nil_perm.mp (reorders.special "default")
      have groups : s'.getUserUsableGroups "default" = ["default", "vip", "gpt"] := by
        rw [GroupSettings.getUserUsableGroups, if_neg (by decide), plain, reorders.usable]
        rfl
      change "svip" ∈ s'.getUserUsableGroups "default" at usable
      rw [groups] at usable
      exact absurd usable (by decide)

end HelsterApi.Relay
