import HelsterApi.Text.Folding

/-! The keys under which the channels of affine requests are recorded and looked up. The parts of a
key are joined with colons, which they may have themselves, so different requests may share a key.
-/

namespace HelsterApi.Channels

open List Text

structure ChannelAffinityRule where
  name : String
  (includeRuleName includeModelName includeUsingGroup : Bool)

/-- A request that a rule matches; `extractChannelAffinityValue` trims the value, and a rule without
one is passed over.
-/
structure AffinityRequest where
  rule : ChannelAffinityRule
  (modelName usingGroup affinityValue : String)
  trimmed : trimSpace affinityValue = affinityValue.toList := by decide +kernel
  filled : affinityValue ≠ "" := by decide

def part (included : Bool) (text : String) : List (List Char) :=
  if included ∧ text ≠ "" then [text.toList] else []

def AffinityRequest.parts (r : AffinityRequest) : List (List Char) :=
  part r.rule.includeRuleName r.rule.name ++ part r.rule.includeModelName r.modelName
    ++ part r.rule.includeUsingGroup r.usingGroup ++ [r.affinityValue.toList]

namespace AffinityRequest

end AffinityRequest

end HelsterApi.Channels
