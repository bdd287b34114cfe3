import Mathlib.Data.List.Nodup

/-! Removing the request fields that a channel does not allow, in place or by way of a decoded
request, whose order of keys is kept here.
-/

namespace HelsterApi.ParamOverride

open List

/-- A JSON value; the members of an object are in the order of their keys. -/
inductive Json where
  | leaf (text : String)
  | array (items : List Json)
  | object (members : List (String × Json))

def Json.isObject : Json → Bool
  | .object _ => true
  | _ => false

def Json.erase (name : String) : Json → Json
  | .object members => .object (members.filter fun member => member.1 ≠ name)
  | data => data

/-- `sjson` deletes the member at the path. -/
def deleteValue (data : Json) : List String → Json
  | [] => data
  | [name] => data.erase name
  | name :: rest =>
    match data with
    | .object members => .object (members.map fun member =>
      if member.1 = name then (member.1, deleteValue member.2 rest) else member)
    | data => data

open Json

structure ChannelOtherSettings where
  allowServiceTier : Bool
  allowInferenceGeo : Bool
  allowSpeed : Bool
  disableStore : Bool
  allowSafetyIdentifier : Bool
  allowIncludeObfuscation : Bool

def Json.getBytes (data : Json) (name : String) : Option Json :=
  match data with
  | .object members => members.lookup name
  | _ => none

def Json.size : Json → ℕ
  | .object members => members.length
  | _ => 0

variable (settings : ChannelOtherSettings) (data : Json)

/-- The fields beside the stream options that are removed. -/
def ChannelOtherSettings.disabled : List String :=
  (if !settings.allowServiceTier then ["service_tier"] else [])
    ++ (if !settings.allowInferenceGeo then ["inference_geo"] else [])
    ++ (if !settings.allowSpeed then ["speed"] else [])
    ++ (if settings.disableStore then ["store"] else [])
    ++ if !settings.allowSafetyIdentifier then ["safety_identifier"] else []

def removeField (data : Json) (name : String) : Json :=
  if (data.getBytes name).isSome then deleteValue data [name] else data

def hasIncludeObfuscation : Bool :=
  (data.getBytes "stream_options").any (·.getBytes "include_obfuscation" |>.isSome)

def hasRemovableDisabledField : Bool :=
  settings.disabled.any (fun name => (data.getBytes name).isSome)
    || !settings.allowIncludeObfuscation && hasIncludeObfuscation data

def removeDisabledFieldsFast : Json :=
  let result := settings.disabled.foldl removeField data
  if !settings.allowIncludeObfuscation && hasIncludeObfuscation result then
    if (result.getBytes "stream_options").any (·.size = 1) then
      deleteValue result ["stream_options"]
    else
      deleteValue result ["stream_options", "include_obfuscation"]
  else
    result

/-- Decoding into maps and encoding again: the keys stay, and each number becomes a `float64`, which
not all of them fit.
-/
structure Decoder where
  accepts : Json → Bool
  value : Json → Json
  number : String → String
  leaf text : value (.leaf text) = .leaf (number text)
  array items : value (.array items) = .array (items.map value)
  object members : value (.object members) = .object (members.map (Prod.map id value))

/-- The removal from the maps of a decoded request. -/
def removeDecodedFields : Json :=
  let result := settings.disabled.foldl removeField data
  match settings.allowIncludeObfuscation, result.getBytes "stream_options" with
  | false, some (.object members) =>
    if (erase "include_obfuscation" (.object members)).size = 0 then
      deleteValue result ["stream_options"]
    else if (members.lookup "include_obfuscation").isSome then
      -- the map of the options is the one in the result
      deleteValue result ["stream_options", "include_obfuscation"]
    else
      result
  | _, _ => result

def removeDisabledFieldsDecoded (d : Decoder) : Json :=
  if d.accepts data then removeDecodedFields settings (d.value data) else data

/-- The removal with one of the two ways. -/
def removeDisabledFields (way : ChannelOtherSettings → Json → Json)
    (passThroughRequestEnabled channelPassThroughEnabled : Bool) : Json :=
  if passThroughRequestEnabled || channelPassThroughEnabled then data
  else if !hasRemovableDisabledField settings data then data
  else way settings data

/-- What is left of a member; `empties` tells which stream options go as a whole. -/
def ChannelOtherSettings.remaining (empties : Json → Bool) (member : String × Json)
    : Option (String × Json) :=
  if member.1 ∈ settings.disabled then none
  else if settings.allowIncludeObfuscation = false ∧ member.1 = "stream_options" then
    if empties member.2 then none
    else some (member.1, member.2.erase "include_obfuscation")
  else some member

/-- What is not to be removed of a member that is left. -/
def ChannelOtherSettings.allowedPart (member : String × Json) : Json :=
  if settings.allowIncludeObfuscation ∨ member.1 ≠ "stream_options" then member.2
  else member.2.erase "include_obfuscation"

/-- Stream options that are left empty without `include_obfuscation`. -/
def Json.isEmptied (options : Json) : Bool :=
  options.isObject && (options.erase "include_obfuscation").size = 0

variable {settings data} {members : List (String × Json)}

theorem foldl_removeField (names : List String)
    : names.foldl removeField (.object members)
      = .object (members.filter fun member => member.1 ∉ names) := by
  induction names generalizing members with
  | nil => simp
  | cons name names ih =>
    have removed : removeField (.object members) name
        = .object (members.filter fun member => member.1 ≠ name) := by
      unfold removeField
      split_ifs with found
      · simp [deleteValue, erase]
      · refine congrArg Json.object (filter_eq_self.mpr fun member listed => ?_).symm
        have absent : ∀ value, (name, value) ∉ members := by simpa [getBytes] using found
        exact decide_eq_true fun same => absent member.2 (same ▸ listed)
    rw [foldl_cons, removed, ih, filter_filter]
    simp [Bool.and_comm]

theorem stream_options_not_disabled : "stream_options" ∉ settings.disabled := by
  simp only [ChannelOtherSettings.disabled]
  grind

theorem lookup_of_mem {name value} (distinct : (members.map Prod.fst).Nodup)
    (listed : (name, value) ∈ members) : members.lookup name = some value := by
  induction members with
  | nil => cases listed
  | cons member members ih => grind

theorem lookup_kept
    : (members.filter fun member => member.1 ∉ settings.disabled).lookup "stream_options"
      = members.lookup "stream_options" := by
  have apart := @stream_options_not_disabled settings
  induction members with
  | nil => rfl
  | cons member members ih => grind

theorem kept_eq
    : members.filter (fun member => member.1 ∉ settings.disabled)
      = members.filterMap fun member =>
        if member.1 ∈ settings.disabled then none else some member := by
  rw [← filterMap_eq_filter]
  exact filterMap_congr fun member _ => by simp [Option.guard]

theorem dropped_eq
    : deleteValue (.object (members.filter fun member => member.1 ∉ settings.disabled))
        ["stream_options"]
      = .object (members.filterMap fun member =>
        if member.1 ∈ settings.disabled ∨ member.1 = "stream_options" then none
        else some member) := by
  rw [deleteValue, erase, filter_filter, ← filterMap_eq_filter]
  exact congrArg Json.object (filterMap_congr fun member _ => by grind [Option.guard])

theorem stripped_eq
    : deleteValue (.object (members.filter fun member => member.1 ∉ settings.disabled))
        ["stream_options", "include_obfuscation"]
      = .object (members.filterMap fun member =>
        if member.1 ∈ settings.disabled then none
        else if member.1 = "stream_options" then
          some (member.1, member.2.erase "include_obfuscation")
        else some member) := by
  rw [kept_eq, deleteValue, map_filterMap]
  · refine congrArg Json.object (filterMap_congr fun member _ => ?_)
    grind [deleteValue]
  · nofun

theorem erase_absent {name} (absent : data.getBytes name = none)
    : data.erase name = data := by
  cases data with
  | leaf text | array items => rfl
  | object members =>
    refine congrArg Json.object (filter_eq_self.mpr fun member listed => ?_)
    have differs := lookup_eq_none_iff.mp absent member listed
    grind

theorem length_eq_one_iff {name} (distinct : (members.map Prod.fst).Nodup)
    (found : (members.lookup name).isSome)
    : members.length = 1 ↔ (erase name (.object members)).size = 0 := by
  match members with
  | [] => cases found
  | [member] => grind [erase, size]
  | first :: second :: rest => grind [erase, size]

variable {d : Decoder}

namespace Decoder

theorem erase_value (name)
    : (d.value data).erase name = d.value (data.erase name) := by
  cases data with
  | leaf text => simp only [erase, d.leaf]
  | array items => simp only [erase, d.array]
  | object members =>
    simp only [erase, d.object, filter_map]
    rfl

theorem isEmptied_value : (d.value data).isEmptied = data.isEmptied := by
  unfold isEmptied
  rw [erase_value]
  cases data with
  | leaf text => simp only [erase, d.leaf, isObject, Bool.false_and]
  | array items => simp only [erase, d.array, isObject, Bool.false_and]
  | object members =>
    simp only [erase, d.object, isObject, size, length_map]
    rfl

theorem remaining_value (member)
    : settings.remaining isEmptied (Prod.map id d.value member)
      = (settings.remaining isEmptied member).map (Prod.map id d.value) := by
  simp only [ChannelOtherSettings.remaining, Prod.map, id, isEmptied_value, erase_value]
  split_ifs <;> rfl

end Decoder

theorem forall_of_filterMap_eq_self {f : String × Json → Option (String × Json)}
    (same : members.filterMap f = members) : ∀ member ∈ members, f member = some member := by
  induction members with
  | nil => nofun
  | cons member rest ih =>
    cases image : f member with
    | none =>
      have short := length_filterMap_le f rest
      rw [filterMap_cons_none image] at same
      rw [same, length_cons] at short
      exact absurd short (Nat.not_succ_le_self _)
    | some kept =>
      rw [filterMap_cons_some image, cons.injEq] at same
      exact forall_mem_cons.mpr ⟨image.trans (congrArg some same.1), ih same.2⟩

theorem get_erase (name) : (data.erase name).getBytes name = none := by
  cases data with
  | leaf text | array items => rfl
  | object members =>
    refine lookup_eq_none_iff.mpr fun member listed => ?_
    have other := (mem_filter.mp listed).2
    grind

theorem isSome_of_isEmptied (emptied : data.isEmptied) (filled : data ≠ .object [])
    : (data.getBytes "include_obfuscation").isSome := by
  cases data with
  | leaf text | array items => cases emptied
  | object members =>
    cases members with
    | nil => exact absurd rfl filled
    | cons member rest => grind [isEmptied, isObject, erase, size, getBytes]

theorem allowedPart_of_some {member rest} (left : settings.remaining isEmptied member = some rest)
    : settings.allowedPart member = rest.2 := by
  grind [ChannelOtherSettings.remaining, ChannelOtherSettings.allowedPart]

theorem allowedPart_of_none {member} (gone : settings.remaining isEmptied member = none)
    (enabled : member.1 ∉ settings.disabled) : settings.allowedPart member = .object [] := by
  have emptied : member.2.isEmptied ∧ ¬(settings.allowIncludeObfuscation
      ∨ member.1 ≠ "stream_options") := by
    grind [ChannelOtherSettings.remaining]
  rw [ChannelOtherSettings.allowedPart, if_neg emptied.2]
  obtain ⟨emptied, _⟩ := emptied
  cases value : member.2 with rw [value] at emptied
  | leaf text | array items => cases emptied
  | object options =>
    exact congrArg Json.object (length_eq_zero_iff.mp (of_decide_eq_true emptied))

section

variable (distinct : (members.map Prod.fst).Nodup)

include distinct

/-- What the removal in place leaves of the members. -/
theorem removeDisabledFieldsFast_eq
    (inner : ∀ options, members.lookup "stream_options" = some (.object options)
      → (options.map Prod.fst).Nodup)
    : removeDisabledFieldsFast settings (.object members)
      = .object (members.filterMap (settings.remaining fun options =>
        (options.getBytes "include_obfuscation").isSome && options.isEmptied)) := by
  have own : ∀ member ∈ members, member.1 = "stream_options"
      → members.lookup "stream_options" = some member.2 :=
    fun member listed named => lookup_of_mem distinct (named ▸ listed)
  simp only [removeDisabledFieldsFast, foldl_removeField, hasIncludeObfuscation]
  rw [show getBytes (.object _) "stream_options" = _ from lookup_kept]
  cases allowed : settings.allowIncludeObfuscation with
  | true =>
    rw [kept_eq]
    refine congrArg Json.object (filterMap_congr fun member _ => ?_)
    simp [ChannelOtherSettings.remaining, allowed]
  | false =>
    cases found : members.lookup "stream_options" with
    | none =>
      rw [kept_eq]
      refine congrArg Json.object (filterMap_congr fun member listed => ?_)
      grind [ChannelOtherSettings.remaining]
    | some value =>
      cases included : value.getBytes "include_obfuscation" with
      | none =>
        have kept := erase_absent included
        simp only [Option.any_some, included]
        rw [kept_eq]
        refine congrArg Json.object (filterMap_congr fun member listed => ?_)
        grind [ChannelOtherSettings.remaining]
      | some obfuscation =>
        obtain ⟨options, rfl⟩ : ∃ options, value = .object options := by
          cases value with
          | object options => exact ⟨options, rfl⟩
          | _ => cases included
        have alone := length_eq_one_iff (inner options found) (Option.isSome_of_mem included)
        by_cases single : options.length = 1
        · rw [if_pos (by simp [included]), if_pos (by simp [size, single]), dropped_eq]
          refine congrArg Json.object (filterMap_congr fun member listed => ?_)
          grind [ChannelOtherSettings.remaining, isEmptied, isObject]
        · rw [if_pos (by simp [included]), if_neg (by simp [size, single]), stripped_eq]
          refine congrArg Json.object (filterMap_congr fun member listed => ?_)
          grind [ChannelOtherSettings.remaining, isEmptied, isObject]

/-- What the removal from decoded maps leaves of the members. -/
theorem removeDecodedFields_eq
    : removeDecodedFields settings (.object members)
      = .object (members.filterMap (settings.remaining isEmptied)) := by
  have own : ∀ member ∈ members, member.1 = "stream_options"
      → members.lookup "stream_options" = some member.2 :=
    fun member listed named => lookup_of_mem distinct (named ▸ listed)
  simp only [removeDecodedFields, foldl_removeField]
  rw [show getBytes (.object _) "stream_options" = _ from lookup_kept]
  cases allowed : settings.allowIncludeObfuscation with
  | true =>
    dsimp only
    rw [kept_eq]
    refine congrArg Json.object (filterMap_congr fun member _ => ?_)
    simp [ChannelOtherSettings.remaining, allowed]
  | false =>
    match found : members.lookup "stream_options" with
    | none | some (.leaf _) | some (.array _) =>
      dsimp only
      rw [kept_eq]
      refine congrArg Json.object (filterMap_congr fun member listed => ?_)
      grind [ChannelOtherSettings.remaining, isEmptied, isObject, erase]
    | some (.object options) =>
      dsimp only
      split_ifs with empty included
      · rw [dropped_eq]
        refine congrArg Json.object (filterMap_congr fun member listed => ?_)
        grind [ChannelOtherSettings.remaining, isEmptied, isObject]
      · rw [stripped_eq]
        refine congrArg Json.object (filterMap_congr fun member listed => ?_)
        grind [ChannelOtherSettings.remaining, isEmptied, isObject]
      · have kept : erase "include_obfuscation" (.object options) = .object options :=
          erase_absent (Option.not_isSome_iff_eq_none.mp included)
        rw [kept_eq]
        refine congrArg Json.object (filterMap_congr fun member listed => ?_)
        grind [ChannelOtherSettings.remaining, isEmptied, isObject]

/-- What is removed in place is no longer there. -/
theorem removeDisabledFieldsFast_ne
    (inner : ∀ options, members.lookup "stream_options" = some (.object options)
      → (options.map Prod.fst).Nodup)
    (removable : hasRemovableDisabledField settings (.object members))
    : removeDisabledFieldsFast settings (.object members) ≠ .object members := by
  rw [removeDisabledFieldsFast_eq distinct inner]
  intro same
  have kept := forall_of_filterMap_eq_self (object.inj same)
  rcases Bool.or_eq_true_iff.mp removable with disabled | included
  · obtain ⟨name, listed, found⟩ := any_eq_true.mp disabled
    obtain ⟨value, found⟩ := Option.isSome_iff_exists.mp found
    obtain ⟨_, _, rfl, _⟩ := lookup_eq_some_iff.mp found
    simpa [ChannelOtherSettings.remaining, listed] using kept (name, value) (by simp)
  · obtain ⟨disallowed, included⟩ := Bool.and_eq_true_iff.mp included
    obtain ⟨value, found, present⟩ := Option.any_eq_true _ _ |>.mp included
    obtain ⟨_, _, rfl, _⟩ := lookup_eq_some_iff.mp found
    have own := kept ("stream_options", value) (by simp)
    simp only [ChannelOtherSettings.remaining, stream_options_not_disabled, if_false, and_true,
      if_pos (Bool.not_eq_true' _ ▸ disallowed)] at own
    split at own
    · cases own
    · have erased := @get_erase value "include_obfuscation"
      rw [(Prod.mk.inj (Option.some.inj own)).2] at erased
      rw [erased] at present
      cases present

/-- The two removals are the same exactly if the options are not found empty and what is left of the
members survives decoding.
-/
theorem removals_eq_iff (accepted : d.accepts (.object members))
    (inner : ∀ options, members.lookup "stream_options" = some (.object options)
      → (options.map Prod.fst).Nodup)
    : removeDisabledFieldsFast settings (.object members)
        = removeDisabledFieldsDecoded settings (.object members) d
      ↔ (settings.allowIncludeObfuscation
          ∨ members.lookup "stream_options" ≠ some (.object []))
        ∧ ∀ member ∈ members, member.1 ∉ settings.disabled
          → d.value (settings.allowedPart member) = settings.allowedPart member := by
  have own : ∀ member ∈ members, member.1 = "stream_options"
      → members.lookup "stream_options" = some member.2 :=
    fun member listed named => lookup_of_mem distinct (named ▸ listed)
  have decoded : removeDisabledFieldsDecoded settings (.object members) d
      = .object ((members.filterMap (settings.remaining isEmptied)).map (Prod.map id d.value)) := by
    rw [removeDisabledFieldsDecoded, if_pos accepted, d.object, removeDecodedFields_eq,
      filterMap_map, map_filterMap]
    · exact congrArg Json.object (filterMap_congr fun member _ => d.remaining_value member)
    · simpa [Function.comp_def] using distinct
  rw [decoded, removeDisabledFieldsFast_eq distinct inner, object.injEq]
  -- Only options that were empty before tell the two removals apart; else the decoder does.
  by_cases filled : settings.allowIncludeObfuscation
      ∨ members.lookup "stream_options" ≠ some (.object [])
  · have alike : members.filterMap (settings.remaining fun options =>
        (options.getBytes "include_obfuscation").isSome && options.isEmptied)
        = members.filterMap (settings.remaining isEmptied) := by
      refine filterMap_congr fun member listed => ?_
      have options := own member listed
      have included := @isSome_of_isEmptied member.2
      grind [ChannelOtherSettings.remaining]
    rw [alike, eq_comm, and_iff_right filled]
    constructor
    · intro same member listed enabled
      have survive := map_inj_left.mp (same.trans (map_id _).symm)
      cases left : settings.remaining isEmptied member with
      | none =>
        have empty : settings.allowedPart member = .object [] := allowedPart_of_none left enabled
        rw [empty, d.object]
        rfl
      | some rest =>
        rw [allowedPart_of_some left]
        exact congrArg Prod.snd (survive rest (mem_filterMap.mpr ⟨member, listed, left⟩))
    · intro survive
      refine (map_congr_left fun rest listed => ?_).trans (map_id _)
      obtain ⟨member, listed, left⟩ := mem_filterMap.mp listed
      have enabled : member.1 ∉ settings.disabled := by
        grind [ChannelOtherSettings.remaining]
      have same := survive member listed enabled
      rw [allowedPart_of_some left] at same
      exact Prod.ext rfl same
  · refine iff_of_false (fun same => ?_) fun both => filled both.1
    obtain ⟨disallowed, found⟩ := not_or.mp filled
    rw [not_not] at found
    have listed : ("stream_options", object []) ∈ members := by
      obtain ⟨_, _, rfl, _⟩ := lookup_eq_some_iff.mp found
      simp
    -- only the removal in place leaves the empty options
    have left : ("stream_options", object []) ∈ members.filterMap (settings.remaining fun options =>
        (options.getBytes "include_obfuscation").isSome && options.isEmptied) :=
      mem_filterMap.mpr ⟨_, listed, by
        simp [ChannelOtherSettings.remaining, stream_options_not_disabled, erase, getBytes]⟩
    rw [same] at left
    obtain ⟨rest, left, named⟩ := mem_map.mp left
    obtain ⟨member, listed, left⟩ := mem_filterMap.mp left
    have options := own member listed
    grind [ChannelOtherSettings.remaining, isEmptied, isObject, erase, size]

end

/-- A request object with distinct keys loses the same fields either way exactly if nothing is to be
removed, or it can be decoded, its stream options are not empty where they are looked into, and the
numbers of what is not removed are those of `float64`.
-/
theorem disabled_fields_removed_alike_iff (distinct : (members.map Prod.fst).Nodup)
    (inner : ∀ options, members.lookup "stream_options" = some (.object options)
      → (options.map Prod.fst).Nodup)
    (passThroughRequestEnabled channelPassThroughEnabled)
    : removeDisabledFields settings (.object members) removeDisabledFieldsFast
          passThroughRequestEnabled channelPassThroughEnabled
        = removeDisabledFields settings (.object members) (removeDisabledFieldsDecoded · · d)
          passThroughRequestEnabled channelPassThroughEnabled
      ↔ passThroughRequestEnabled ∨ channelPassThroughEnabled
        ∨ hasRemovableDisabledField settings (.object members) = false
        ∨ d.accepts (.object members)
          ∧ (settings.allowIncludeObfuscation
            ∨ members.lookup "stream_options" ≠ some (.object []))
          ∧ ∀ member ∈ members, member.1 ∉ settings.disabled
            → d.value (settings.allowedPart member) = settings.allowedPart member := by
  simp only [removeDisabledFields]
  cases passThroughRequestEnabled with
  | true => simp
  | false =>
    cases channelPassThroughEnabled with
    | true => simp
    | false =>
      cases removable : hasRemovableDisabledField settings (.object members) with
      | false => simp
      | true =>
        have differs := removeDisabledFieldsFast_ne distinct inner removable
        cases accepted : d.accepts (.object members) with
        | false => simpa [removeDisabledFieldsDecoded, accepted] using differs
        | true => simpa using removals_eq_iff distinct accepted inner

def noneAllowed : ChannelOtherSettings := ⟨false, false, false, false, false, false⟩

/-- A decoder for requests whose numbers are all those of `float64`. -/
def exact : Decoder where
  accepts _ := true
  value := id
  number := id
  leaf _ := rfl
  array _ := by simp
  object _ := by simp

def tiered (options : List (String × Json)) : Json :=
  .object [("service_tier", .leaf "auto"), ("stream_options", .object options)]

theorem empty_options_differ
    : removeDisabledFields noneAllowed (tiered []) removeDisabledFieldsFast false false
        = .object [("stream_options", .object [])]
      ∧ removeDisabledFields noneAllowed (tiered []) (removeDisabledFieldsDecoded · · exact) false
        false = .object [] :=
  ⟨rfl, rfl⟩

theorem obfuscation_removed_alike
    : let data := tiered [("include_obfuscation", .leaf "true")]
      removeDisabledFields noneAllowed data removeDisabledFieldsFast false false
        = removeDisabledFields noneAllowed data (removeDisabledFieldsDecoded · · exact) false false
    := by
  refine (disabled_fields_removed_alike_iff (by decide) (fun options found => ?_) _ _).mpr
    (.inr (.inr (.inr ⟨rfl, .inr ?_, fun _ _ _ => rfl⟩)))
  · cases found
    decide
  · intro found
    cases found

end HelsterApi.ParamOverride
