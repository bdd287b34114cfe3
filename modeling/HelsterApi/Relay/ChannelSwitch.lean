import HelsterApi.Control.Loop
import Mathlib.Data.List.DropRight
import Mathlib.Data.List.Perm.Subperm
import Mathlib.Logic.Function.Iterate

/-! The relay info that the attempts on channels share, and the model mapping of a channel. The walk
along the redirections of the requested model ends, with a cycle or their end.
-/

namespace HelsterApi.ChannelSwitch

open List

section

structure LastError where
  statusCode : ℤ
  (message errorCode errorType : String)
  skipRetry : Bool

/-- What the controller sets before an attempt. -/
structure Retry where
  retryIndex : ℕ := 0
  lastError : Option LastError := none

/-- What the operations of a param override read; the request and its headers are fixed. -/
structure OverrideContext (Headers : Type) where
  (upstreamModelName originModelName : String)
  headerOverride : Headers
  retry : Retry

/-- A channel as an attempt finds it in the context, with what its adaptor does: the formats it
converts the request to, whether streaming is turned on by that or by the response, and the format
it sets on the response. `paramOverride` says what its operations make of the header override.
-/
structure Channel (Headers : Type) where
  headersOverride : Headers
  paramOverride : Option (OverrideContext Headers → Except String Headers) := none
  modelMapping : Except String (List (String × String)) := .ok []
  conversions : List String := []
  (streams streamsBack : Bool := false)
  finalFormat : String := ""

/-- The fields that `InitChannelMeta` sets anew, with the model of the request that is sent. -/
structure ChannelMeta (Headers : Type) where
  headersOverride : Headers
  (upstreamModelName requestModel : String)

/-- The names and the kind of a request. `noThinking` tells a Gemini request that turns thinking off
while the thinking adapter is on.
-/
structure NamedRequest where
  (originalModel originModelName relayFormat : String)
  (isResponsesCompact noThinking : Bool := false)

/-- What an attempt keeps for the next one; runtime headers are in use exactly if they are set. -/
@[ext]
structure Kept (Headers : Type) where
  isStream : Bool := false
  requestConversionChain : List String
  finalRequestRelayFormat : String := ""
  runtimeHeadersOverride : Option Headers := none

structure RelayInfo (Headers : Type) extends NamedRequest, Kept Headers where
  channelMeta : ChannelMeta Headers

variable {Headers : Type}

def initChannelMeta (channel : Channel Headers) (info : RelayInfo Headers) : RelayInfo Headers :=
  { info with
    channelMeta := ⟨channel.headersOverride, info.originalModel, info.originModelName⟩ }

def compactModelSuffix : String := "-openai-compact"

def withCompactModelSuffix (modelName : String) : String :=
  if compactModelSuffix.toList.isSuffixOf modelName.toList then modelName
  else modelName ++ compactModelSuffix

/-- The end of a chain of redirections and whether there was one, or nothing for a model redirected
to itself. The fuel is more than the models that can be visited.
-/
def followMapping (modelMap : List (String × String)) (originModelName : String)
    : ℕ → List String → String → Bool → Except String (Option (String × Bool))
  | 0, _, _, _ => .error "model_mapping_contains_cycle"
  | fuel + 1, visitedModels, currentModel, isModelMapped =>
    match (modelMap.lookup currentModel).filter (· ≠ "") with
    | none => .ok (some (currentModel, isModelMapped))
    | some mappedModel =>
      if mappedModel ∉ visitedModels then
        followMapping modelMap originModelName fuel (mappedModel :: visitedModels) mappedModel true
      else if mappedModel ≠ currentModel then .error "model_mapping_contains_cycle"
      else if currentModel = originModelName then .ok none
      else .ok (some (currentModel, true))

def modelMappedHelper (channel : Channel Headers) (info : RelayInfo Headers)
    : Except String (RelayInfo Headers) := do
  let mappingModelName :=
    if info.isResponsesCompact
        && compactModelSuffix.toList.isSuffixOf info.originModelName.toList then
      String.ofList (info.originModelName.toList.rdrop compactModelSuffix.length)
    else info.originModelName
  let modelMap ← channel.modelMapping
  match ← followMapping modelMap info.originModelName (modelMap.length + 1) [mappingModelName]
      mappingModelName false with
  | none => .ok info
  | some (currentModel, isModelMapped) =>
    let upstream :=
      if isModelMapped then currentModel
      else if info.isResponsesCompact then mappingModelName
      else info.channelMeta.upstreamModelName
    let info := { info with channelMeta := ⟨info.channelMeta.headersOverride, upstream, upstream⟩ }
    if info.isResponsesCompact then
      .ok { info with originModelName := withCompactModelSuffix upstream }
    else .ok info

end

section

variable (w : ℕ → String)

/-- The chain comes back to a model that it left for another one. -/
def Cyclic : Prop := ∃ i j, i < j ∧ w i = w j ∧ w (i + 1) ≠ w i

def visited (i : ℕ) : List String := (range (i + 1)).reverse.map w

/-- The loop leaves at position `n`, where the next model was visited. -/
structure StopsAt (n : ℕ) : Prop where
  stops : w (n + 1) ∈ visited w n
  first : ∀ i < n, w (i + 1) ∉ visited w i

end

/-- A model that is unmapped, or mapped to nothing, stays. -/
def redirect (modelMap : List (String × String)) (model : String) : String :=
  ((modelMap.lookup model).filter (· ≠ "")).getD model

/-- The model is unmapped, mapped to the empty string or mapped to itself. -/
def Final (modelMap : List (String × String)) (model : String) : Prop :=
  modelMap.lookup model ∈ [none, some "", some model]

variable {w : ℕ → String} {n i k : ℕ} {modelMap : List (String × String)} {model : String}

theorem redirect_eq_self : redirect modelMap model = model ↔ Final modelMap model := by
  unfold redirect Final
  cases modelMap.lookup model with
  | none => simp
  | some mapped => by_cases empty : mapped = "" <;> simp [Option.filter, empty]

theorem visited_succ : visited w (i + 1) = w (i + 1) :: visited w i := by
  simp [visited, range_succ (n := i + 1)]

theorem mem_visited : model ∈ visited w n ↔ ∃ i ≤ n, w i = model := by
  simp only [visited, mem_map, mem_reverse, mem_range, Nat.lt_add_one_iff]

/-- Models that were new when they were reached are distinct, by induction on the position. -/
theorem nodup_visited (new : ∀ i < n, w (i + 1) ∉ visited w i) : (visited w n).Nodup := by
  induction n with
  | zero => simp [visited]
  | succ n ih =>
    rw [visited_succ, nodup_cons]
    exact ⟨new n n.lt_succ_self, ih fun i before => new i (before.trans n.lt_succ_self)⟩

theorem StopsAt.injOn (stopsAt : StopsAt w n) (before : i < k) (within : k ≤ n) : w i ≠ w k := by
  obtain ⟨k, rfl⟩ := Nat.exists_eq_succ_of_ne_zero (Nat.ne_zero_of_lt before)
  intro same
  exact stopsAt.first k within (same ▸ mem_visited.mpr ⟨i, Nat.le_of_lt_succ before, rfl⟩)

section

variable (steps : ∀ i, w (i + 1) = redirect modelMap (w i))
include steps

theorem stays_of_last (last : w (n + 1) = w n) (beyond : n ≤ k) : w k = w n := by
  induction k, beyond using Nat.le_induction with
  | base => rfl
  | succ k _ ih => rw [steps, ih, ← steps, last]

theorem StopsAt.cyclic_iff (stopsAt : StopsAt w n) : Cyclic w ↔ w (n + 1) ≠ w n := by
  constructor
  · rintro ⟨i, j, before, same, moves⟩ last
    have early : i < n := by
      by_contra late
      have constant := fun k : ℕ => stays_of_last steps last (k := i + k) (by omega)
      exact moves ((constant 1).trans (constant 0).symm)
    obtain within | beyond := le_or_gt j n
    · exact stopsAt.injOn before within same
    · exact stopsAt.injOn early le_rfl (same.trans (stays_of_last steps last beyond.le))
  · intro moves
    obtain ⟨i, within, same⟩ := mem_visited.mp stopsAt.stops
    have before : i < n := lt_of_le_of_ne within fun last => moves (last ▸ same.symm)
    exact ⟨i, n + 1, by omega, same, (stopsAt.injOn i.lt_succ_self before).symm⟩

/-- Every model that is left has an entry of its own, so the loop leaves in time. -/
theorem exists_stopsAt : ∃ n ≤ modelMap.length, StopsAt w n := by
  by_contra none
  have new : ∀ i ≤ modelMap.length, w (i + 1) ∉ visited w i := by
    intro i
    induction i using Nat.strongRecOn with
    | ind i ih =>
      intro within stops
      exact none ⟨i, within, stops, fun k before => ih k before (before.le.trans within)⟩
  have keys : visited w modelMap.length ⊆ modelMap.map Prod.fst := by
    intro other member
    obtain ⟨i, within, rfl⟩ := mem_visited.mp member
    by_contra absent
    have unmapped : modelMap.lookup (w i) = .none := by
      simp only [mem_map, not_exists, not_and] at absent
      exact lookup_eq_none_iff.mpr fun entry found => by simpa using Ne.symm (absent entry found)
    have stays := (steps i).trans (redirect_eq_self.mpr (by simp [Final, unmapped]))
    exact new i within (stays ▸ mem_visited.mpr ⟨i, le_rfl, rfl⟩)
  have count := (nodup_visited fun i before => new i before.le).subperm keys |>.length_le
  simp only [visited, length_map, length_reverse, length_range] at count
  omega

/-- The loop comes to the position where it leaves, by induction on the positions before. -/
theorem followMapping_visited (stopsAt : StopsAt w n) (reached : i ≤ n) (fuel)
    : followMapping modelMap model (fuel + i) [w 0] (w 0) false
      = followMapping modelMap model fuel (visited w i) (w i) (decide (0 < i)) := by
  induction i generalizing fuel with
  | zero => rfl
  | succ i ih =>
    have new := stopsAt.first i reached
    have moves := stopsAt.injOn i.lt_succ_self reached
    rw [show fuel + (i + 1) = fuel + 1 + i by omega, ih (Nat.le_of_succ_le reached), followMapping]
    rw [steps, redirect] at moves new
    cases mapped : (modelMap.lookup (w i)).filter (· ≠ "") with
    | none => exact absurd (by rw [mapped]; rfl) moves
    | some mappedModel =>
      rw [mapped, Option.getD_some] at new
      rw [visited_succ, steps, redirect, mapped]
      simp [new]

/-- What the loop leaves with is the model where it stands, or else nothing was redirected. -/
theorem followMapping_ends (last : w (n + 1) = w n) (fuel)
    : ∃ followed, followMapping modelMap (w 0) (fuel + 1) (visited w n) (w n) (decide (0 < n))
          = .ok followed
        ∧ (followed.filter Prod.snd).elim (w 0) Prod.fst = w n := by
  rw [steps, redirect] at last
  rw [followMapping]
  cases mapped : (modelMap.lookup (w n)).filter (· ≠ "") with
  | none =>
    refine ⟨_, rfl, ?_⟩
    cases n <;> rfl
  | some mappedModel =>
    rw [mapped, Option.getD_some] at last
    have seen : mappedModel ∈ visited w n := mem_visited.mpr ⟨n, le_rfl, last.symm⟩
    dsimp only
    rw [if_neg (not_not_intro seen), if_neg (not_not_intro last)]
    split
    next first => exact ⟨none, rfl, first.symm⟩
    · exact ⟨_, rfl, rfl⟩

theorem followMapping_cycle (stopsAt : StopsAt w n) (moves : w (n + 1) ≠ w n) (fuel)
    : followMapping modelMap model (fuel + 1) (visited w n) (w n) (decide (0 < n))
      = .error "model_mapping_contains_cycle" := by
  have seen := stopsAt.stops
  rw [steps, redirect] at moves seen
  rw [followMapping]
  cases mapped : (modelMap.lookup (w n)).filter (· ≠ "") with
  | none => exact absurd (by rw [mapped]; rfl) moves
  | some mappedModel =>
    rw [mapped, Option.getD_some] at moves seen
    dsimp only
    rw [if_neg (not_not_intro seen), if_pos moves]

end

variable {Headers : Type} {info : RelayInfo Headers}

/-- Along the models `w` that the mapping leads to, the loop leaves after at most one round per
entry. It reports a cycle exactly when they have one, and otherwise the upstream model is the first
of them that is redirected to no other.
-/
theorem mapping_walk_ends (channel : Channel Headers) (plain : info.isResponsesCompact = false)
    (requested : info.originalModel = info.originModelName)
    (mapping : channel.modelMapping = .ok modelMap)
    (walk : w = fun i => (redirect modelMap)^[i] info.originModelName)
    : (∃ n ≤ modelMap.length, StopsAt w n
        ∧ ∀ fuel, followMapping modelMap (w 0) (fuel + n) [w 0] (w 0) false
          = followMapping modelMap (w 0) fuel (visited w n) (w n) (decide (0 < n)))
      ∧ (modelMappedHelper channel (initChannelMeta channel info)
            = .error "model_mapping_contains_cycle"
          ↔ Cyclic w)
      ∧ (¬Cyclic w
          → ∃ n mapped, Final modelMap (w n) ∧ (∀ i < n, ¬Final modelMap (w i))
            ∧ modelMappedHelper channel (initChannelMeta channel info) = .ok mapped
            ∧ mapped.channelMeta.upstreamModelName = w n) := by
  have steps : ∀ i, w (i + 1) = redirect modelMap (w i) := by
    intro i
    rw [walk]
    exact Function.iterate_succ_apply' ..
  have start : info.originModelName = w 0 := by rw [walk]; rfl
  obtain ⟨n, within, stopsAt⟩ := exists_stopsAt steps
  have walked := @followMapping_visited w n n modelMap (w 0) steps stopsAt le_rfl
  refine ⟨⟨n, within, stopsAt, walked⟩, ?_⟩
  obtain ⟨fuel, enough⟩ := Nat.exists_eq_add_of_le within
  rw [stopsAt.cyclic_iff steps]
  unfold modelMappedHelper
  simp only [initChannelMeta, plain, mapping, requested, start, Bool.false_and,
    Bool.false_eq_true, if_false, bind, Except.bind]
  rw [show modelMap.length + 1 = fuel + 1 + n by omega, walked]
  by_cases last : w (n + 1) = w n
  · obtain ⟨followed, ok, upstream⟩ := followMapping_ends steps last fuel
    have moving : ∀ i < n, ¬Final modelMap (w i) := by
      intro i before final
      rw [← redirect_eq_self, ← steps] at final
      exact stopsAt.injOn i.lt_succ_self before final.symm
    have final := redirect_eq_self.mp ((steps n).symm.trans last)
    rw [ok]
    cases followed with
    | none => exact ⟨by simp [last], fun _ => ⟨n, _, final, moving, rfl, upstream⟩⟩
    | some followed =>
      refine ⟨by simp [last], fun _ => ⟨n, _, final, moving, rfl, upstream ▸ ?_⟩⟩
      cases mapped : followed.2 <;> simp [Option.filter, mapped]
  · rw [followMapping_cycle steps stopsAt last]
    exact ⟨iff_of_true rfl last, fun acyclic => absurd last acyclic⟩

def chatInfo : RelayInfo (List (String × String)) :=
  { originalModel := "gpt-4o", originModelName := "gpt-4o", relayFormat := "openai"
    requestConversionChain := ["openai"], channelMeta := ⟨[], "", ""⟩ }

def mappedChannel : Channel (List (String × String)) :=
  { headersOverride := [("x-org", "a")], modelMapping := .ok [("gpt-4o", "gpt-4o-mini")] }

def circular : List (String × String) := [("gpt-4o", "o1"), ("o1", "gpt-4o")]

theorem circular_reported
    : modelMappedHelper { mappedChannel with modelMapping := .ok circular }
        (initChannelMeta { mappedChannel with modelMapping := .ok circular } chatInfo)
      = .error "model_mapping_contains_cycle" :=
  (mapping_walk_ends _ rfl rfl rfl rfl).2.1.mpr ⟨0, 2, by decide, rfl, by decide⟩

end HelsterApi.ChannelSwitch
