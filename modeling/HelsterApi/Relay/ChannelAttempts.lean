import HelsterApi.Relay.ChannelSwitch
import Mathlib.Data.List.Infix

/-! What an attempt on a channel sends upstream, and what it keeps in the relay info for the next
attempt. A run is compared with the run on as many channels without settings, at the same retries
and after the same errors.
-/

namespace HelsterApi.ChannelSwitch

open List

structure Sent (Headers : Type) where
  (model upstreamModelName : String)
  headers : Headers
  requestConversionChain : List String
  finalFormat : String
  isStream : Bool

variable {Headers : Type}

def appendRequestConversion (chain : List String) (format : String) : List String :=
  if format = "" ∨ chain.getLast? = some format then chain else chain ++ [format]

def getFinalRequestRelayFormat (info : RelayInfo Headers) : String :=
  if info.finalRequestRelayFormat ≠ "" then info.finalRequestRelayFormat
  else info.requestConversionChain.getLast?.getD info.relayFormat

/-- Which models have a price, and what a header override is cleaned to. -/
structure RelaySettings (Headers : Type) where
  hasModelBillingConfig : String → Bool
  sanitize : Headers → Headers

variable (cfg : RelaySettings Headers)

def noThinkingSuffix : String := "-nothinking"

def needsNoThinkingModel (request : NamedRequest) : Bool :=
  request.noThinking ∧ ¬ noThinkingSuffix.toList <:+: request.originModelName.toList
    ∧ cfg.hasModelBillingConfig (request.originModelName ++ noThinkingSuffix)

/-- `GeminiHelper` goes over to the model without thinking if that has a price. -/
def adaptThinking (info : RelayInfo Headers) : RelayInfo Headers :=
  if needsNoThinkingModel cfg info.toNamedRequest then
    { info with
      originModelName := info.originModelName ++ noThinkingSuffix
      channelMeta := { info.channelMeta with
        upstreamModelName := info.originModelName ++ noThinkingSuffix } }
  else info

def prepare (channel : Channel Headers) (info : RelayInfo Headers)
    : Except String (RelayInfo Headers) := do
  let info ← modelMappedHelper channel (initChannelMeta channel info)
  return adaptThinking cfg info

def Channel.convert (channel : Channel Headers) (kept : Kept Headers) : Kept Headers :=
  { kept with
    requestConversionChain :=
      channel.conversions.foldl appendRequestConversion kept.requestConversionChain
    isStream := kept.isStream || channel.streams }

def getEffectiveHeaderOverride (info : RelayInfo Headers) : Headers :=
  cfg.sanitize (info.runtimeHeadersOverride.getD info.channelMeta.headersOverride)

def buildParamOverrideContext (retry : Retry) (info : RelayInfo Headers)
    : OverrideContext Headers :=
  ⟨info.channelMeta.upstreamModelName, info.originModelName,
    cfg.sanitize (getEffectiveHeaderOverride cfg info), retry⟩

/-- What the operations make of the header override, if there are any. -/
def Channel.overridden (channel : Channel Headers) (retry : Retry) (info : RelayInfo Headers)
    : Option (Except String Headers) :=
  channel.paramOverride.map fun operations => operations (buildParamOverrideContext cfg retry info)

/-- Whatever the operations do, the header override they leave becomes the runtime one. -/
def applyParamOverrideWithRelayInfo (channel : Channel Headers) (retry : Retry)
    (info : RelayInfo Headers)
    : Except String (RelayInfo Headers) :=
  match channel.overridden cfg retry info with
  | none => .ok info
  | some (.error err) => .error err
  | some (.ok headers) => .ok { info with runtimeHeadersOverride := some (cfg.sanitize headers) }

/-- The response may set a final format and turn streaming on. -/
def Channel.respond (channel : Channel Headers) (kept : Kept Headers) : Kept Headers :=
  { kept with
    finalRequestRelayFormat :=
      if channel.finalFormat = "" then kept.finalRequestRelayFormat else channel.finalFormat
    isStream := kept.isStream || channel.streamsBack }

/-- An attempt: the relay info after it, and what was sent unless it failed before. -/
def attempt (channel : Channel Headers) (retry : Retry) (info : RelayInfo Headers)
    : RelayInfo Headers × Except String (Sent Headers) :=
  match prepare cfg channel info with
  | .error err => (initChannelMeta channel info, .error err)
  | .ok info =>
    let info := { info with toKept := channel.convert info.toKept }
    match applyParamOverrideWithRelayInfo cfg channel retry info with
    | .error err => (info, .error err)
    | .ok info =>
      ({ info with toKept := channel.respond info.toKept },
        .ok ⟨info.channelMeta.requestModel, info.channelMeta.upstreamModelName,
          getEffectiveHeaderOverride cfg info, info.requestConversionChain,
          getFinalRequestRelayFormat info, info.isStream⟩)

/-- The relay info after attempts on some channels, each with its retry. -/
def attempts (earlier : List (Channel Headers × Retry)) (info : RelayInfo Headers)
    : RelayInfo Headers :=
  earlier.foldl (fun info a => (attempt cfg a.1 a.2 info).1) info

/-- The channel without its settings. -/
def Channel.bare (channel : Channel Headers) : Channel Headers :=
  { headersOverride := channel.headersOverride }

section Kept

variable {chain formats : List String}

/-- What the attempts of a run keep only grows. -/
structure Grown (kept later : Kept Headers) : Prop where
  chain : kept.requestConversionChain <+: later.requestConversionChain
  isStream : kept.isStream → later.isStream
  runtime : later.runtimeHeadersOverride = none → kept.runtimeHeadersOverride = none
  final : later.finalRequestRelayFormat = "" → kept.finalRequestRelayFormat = ""

variable {kept a b : Kept Headers} {channel : Channel Headers}
  {overridden : Option (Except String Headers)}

theorem Grown.refl (kept : Kept Headers) : Grown kept kept := ⟨prefix_rfl, id, id, id⟩

theorem Grown.trans (first : Grown kept a) (second : Grown a b) : Grown kept b :=
  ⟨first.chain.trans second.chain, fun on => second.isStream (first.isStream on),
    fun none => first.runtime (second.runtime none), fun none => first.final (second.final none)⟩

/-- What an attempt keeps in the end. -/
def Channel.keeps (channel : Channel Headers) (kept : Kept Headers)
    : Option (Except String Headers) → Kept Headers
  | some (.error _) => channel.convert kept
  | some (.ok headers) =>
    channel.respond
      { channel.convert kept with runtimeHeadersOverride := some (cfg.sanitize headers) }
  | none => channel.respond (channel.convert kept)

end Kept

/-- The name under which a request goes on if the mapping of its channel does not change it. -/
def keptName (request : NamedRequest) : String :=
  if request.isResponsesCompact then
    withCompactModelSuffix <|
      if compactModelSuffix.toList.isSuffixOf request.originModelName.toList then
        String.ofList (request.originModelName.toList.rdrop compactModelSuffix.length)
      else request.originModelName
  else request.originModelName

/-- The request after an attempt, whatever the channel. -/
def NamedRequest.next (request : NamedRequest) : NamedRequest :=
  let request := { request with originModelName := keptName request }
  if needsNoThinkingModel cfg request then
    { request with originModelName := request.originModelName ++ noThinkingSuffix }
  else request

variable {channel : Channel Headers} {retry : Retry} {info i j mapped prepared : RelayInfo Headers}

variable {cfg}

variable {earlier : List (Channel Headers × Retry)}

variable (cfg)

def plainSettings : RelaySettings (List (String × String)) := ⟨fun _ => false, id⟩

end HelsterApi.ChannelSwitch
