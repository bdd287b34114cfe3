import HelsterApi.TextBilling.ClaudeStream
import HelsterApi.TextBilling.Settlement

/-! Whether the variables of a billing expression price each token of a usage exactly once. For
totals that include their categories they always do. For a text-only usage they do exactly if the
expression has a variable for every category with tokens and the cache writes are all split.
-/

namespace HelsterApi.TextBilling

open List TokenParams

def TokenParams.inputCategories (params : TokenParams) : List (String × ℚ) :=
  [("cr", params.cr), ("cc", params.cc), ("cc1h", params.cc1h), ("img", params.img),
    ("ai", params.ai)]

def TokenParams.outputCategories (params : TokenParams) : List (String × ℚ) :=
  [("img_o", params.imgO), ("ao", params.ao)]

def pricedApart (usedVars : String → Bool) (categories : List (String × ℚ)) : ℚ :=
  (categories.map fun category => if usedVars category.1 then category.2 else 0).sum

section

variable {usedVars : String → Bool} {categories : List (String × ℚ)}

/-- What is priced apart is at most all there is, by induction on the categories. -/
theorem pricedApart_le (nonneg : ∀ category ∈ categories, 0 ≤ category.2)
    : pricedApart usedVars categories ≤ (categories.map Prod.snd).sum := by
  induction categories with
  | nil => exact le_rfl
  | cons category rest ih =>
    have smaller := ih fun other member => nonneg other (mem_cons_of_mem _ member)
    have here := nonneg category mem_cons_self
    unfold pricedApart at smaller ⊢
    simp only [map_cons, sum_cons]
    split <;> linarith

/-- All there is is priced apart exactly if no category without a variable has tokens, by induction
on them.
-/
theorem pricedApart_eq_sum_iff (nonneg : ∀ category ∈ categories, 0 ≤ category.2)
    : pricedApart usedVars categories = (categories.map Prod.snd).sum
      ↔ ∀ category ∈ categories, usedVars category.1 = false → category.2 = 0 := by
  induction categories with
  | nil => simp [pricedApart]
  | cons category rest ih =>
    have later : ∀ other ∈ rest, 0 ≤ other.2 :=
      fun other member => nonneg other (mem_cons_of_mem _ member)
    have here := nonneg category mem_cons_self
    have smaller : pricedApart usedVars rest ≤ (rest.map Prod.snd).sum := pricedApart_le later
    rw [forall_mem_cons, ← ih later]
    unfold pricedApart at smaller ⊢
    simp only [map_cons, sum_cons]
    by_cases used : usedVars category.1
    · simp [used]
    · simp only [used, Bool.false_eq_true, if_false, forall_const]
      constructor
      · intro equal
        exact ⟨by linarith, by linarith⟩
      · rintro ⟨none, equal⟩
        linarith

end

def Usage.cacheCreationTokens (usage : Usage) : ℤ :=
  max usage.promptTokensDetails.cacheCreationTokensTotal
    (usage.claudeCacheCreation5mTokens + usage.claudeCacheCreation1hTokens)

/-- All input tokens of a usage. The prompt tokens of a Claude usage are text only, so the
categories come on top.
-/
def Usage.totalInput (usage : Usage) (isClaudeUsageSemantic : Bool) : ℚ :=
  if isClaudeUsageSemantic then
    usage.promptTokens + usage.promptTokensDetails.cachedTokens + usage.cacheCreationTokens
      + usage.promptTokensDetails.imageTokens + usage.promptTokensDetails.audioTokens
  else usage.promptTokens

def Usage.totalOutput (usage : Usage) (isClaudeUsageSemantic : Bool) : ℚ :=
  if isClaudeUsageSemantic then
    usage.completionTokens + usage.completionTokenDetails.imageTokens
      + usage.completionTokenDetails.audioTokens
  else usage.completionTokens

/-- No count is negative, and the categories of totals that include them do not exceed these. -/
structure Usage.CountsFit (usage : Usage) (isClaudeUsageSemantic : Bool) : Prop where
  prompt : 0 ≤ usage.promptTokens
  completion : 0 ≤ usage.completionTokens
  cached : 0 ≤ usage.promptTokensDetails.cachedTokens
  tokens5m : 0 ≤ usage.claudeCacheCreation5mTokens
  tokens1h : 0 ≤ usage.claudeCacheCreation1hTokens
  image : 0 ≤ usage.promptTokensDetails.imageTokens
  audio : 0 ≤ usage.promptTokensDetails.audioTokens
  imageOut : 0 ≤ usage.completionTokenDetails.imageTokens
  audioOut : 0 ≤ usage.completionTokenDetails.audioTokens
  input : isClaudeUsageSemantic = false →
    usage.promptTokensDetails.cachedTokens + usage.cacheCreationTokens
      + usage.promptTokensDetails.imageTokens + usage.promptTokensDetails.audioTokens
    ≤ usage.promptTokens
  output : isClaudeUsageSemantic = false →
    usage.completionTokenDetails.imageTokens + usage.completionTokenDetails.audioTokens
    ≤ usage.completionTokens

/-- Each token is priced exactly once: what is priced as text and what is priced apart make up the
totals, and the length is the whole input.
-/
structure PricedOnce (usage : Usage) (isClaudeUsageSemantic : Bool) (usedVars : String → Bool)
    (params : TokenParams) : Prop where
  input : params.p + pricedApart usedVars params.inputCategories
    = usage.totalInput isClaudeUsageSemantic
  output : params.c + pricedApart usedVars params.outputCategories
    = usage.totalOutput isClaudeUsageSemantic
  len : params.len = usage.totalInput isClaudeUsageSemantic

/-- An expression covers a text-only usage: the input has no image or audio tokens, the cache writes
that are counted are all of them, and there is a variable for each category with tokens. The writes
are counted by the split if the usage says that it is Anthropic's, and as a whole otherwise.
-/
structure Covered (usage : Usage) (usedVars : String → Bool) : Prop where
  image : usage.promptTokensDetails.imageTokens = 0
  audio : usage.promptTokensDetails.audioTokens = 0
  cached : usedVars "cr" = false → usage.promptTokensDetails.cachedTokens = 0
  writes : if usage.usageSemantic = "anthropic" then
      usage.promptTokensDetails.cacheCreationTokensTotal
          ≤ usage.claudeCacheCreation5mTokens + usage.claudeCacheCreation1hTokens
        ∧ (usedVars "cc" = false → usage.claudeCacheCreation5mTokens = 0)
        ∧ (usedVars "cc1h" = false → usage.claudeCacheCreation1hTokens = 0)
    else
      usage.claudeCacheCreation5mTokens + usage.claudeCacheCreation1hTokens
          ≤ usage.promptTokensDetails.cacheCreationTokensTotal
        ∧ (usedVars "cc" = false → usage.promptTokensDetails.cacheCreationTokensTotal = 0)
  imageOut : usedVars "img_o" = false → usage.completionTokenDetails.imageTokens = 0
  audioOut : usedVars "ao" = false → usage.completionTokenDetails.audioTokens = 0

section

variable {usage : Usage} {isClaude : Bool} {usedVars : String → Bool} {params : TokenParams}

theorem TokenParams.sum_inputCategories (params : TokenParams)
    : (params.inputCategories.map Prod.snd).sum
      = params.cr + (params.cc + params.cc1h) + params.img + params.ai := by
  simp only [inputCategories, map_cons, map_nil, sum_cons, sum_nil]
  ring

theorem TokenParams.sum_outputCategories (params : TokenParams)
    : (params.outputCategories.map Prod.snd).sum = params.imgO + params.ao := by
  simp [outputCategories]

structure Usage.Counted (usage : Usage) (params : TokenParams) : Prop where
  cr : params.cr = usage.promptTokensDetails.cachedTokens
  img : params.img = usage.promptTokensDetails.imageTokens
  ai : params.ai = usage.promptTokensDetails.audioTokens
  imgO : params.imgO = usage.completionTokenDetails.imageTokens
  ao : params.ao = usage.completionTokenDetails.audioTokens

section

variable (built : buildTieredTokenParams usage isClaude usedVars = params)

include built

theorem counted_of_built : usage.Counted params := by
  subst built
  exact ⟨rfl, rfl, rfl, rfl, rfl⟩

theorem cc_add_cc1h_le : params.cc + params.cc1h ≤ usage.cacheCreationTokens := by
  subst built
  dsimp only [buildTieredTokenParams, Usage.cacheCreationTokens]
  by_cases anthropic : usage.usageSemantic = "anthropic"
  · simp only [anthropic, if_true]
    exact_mod_cast le_max_right _ _
  · simp only [anthropic, if_false, add_zero]
    exact_mod_cast le_max_left _ _

/-- What `Covered` says of the built variables. -/
theorem covered_iff
    : Covered usage usedVars
      ↔ params.cc + params.cc1h = usage.cacheCreationTokens
        ∧ usage.promptTokensDetails.imageTokens = 0
        ∧ usage.promptTokensDetails.audioTokens = 0
        ∧ (∀ category ∈ params.inputCategories, usedVars category.1 = false → category.2 = 0)
        ∧ ∀ category ∈ params.outputCategories, usedVars category.1 = false → category.2 = 0 := by
  subst built
  simp only [inputCategories, outputCategories, buildTieredTokenParams, Usage.cacheCreationTokens,
    forall_mem_cons, not_mem_nil, IsEmpty.forall_iff, implies_true, and_true, Int.cast_eq_zero]
  have whole (counted other : ℤ) : (counted : ℚ) = (max counted other : ℤ) ↔ other ≤ counted := by
    rw [Int.cast_inj, eq_comm, max_eq_left_iff]
  by_cases anthropic : usage.usageSemantic = "anthropic"
  · simp only [anthropic, if_true, ← Int.cast_add, max_comm _ (_ + _), whole, Int.cast_eq_zero]
    refine ⟨?_, ?_⟩
    · rintro ⟨image, audio, cached, writes, imageOut, audioOut⟩
      rw [if_pos anthropic] at writes
      exact ⟨writes.1, image, audio, ⟨cached, writes.2.1, writes.2.2, fun _ => image,
        fun _ => audio⟩, imageOut, audioOut⟩
    · rintro ⟨split, image, audio, ⟨cached, tokens5m, tokens1h, _⟩, imageOut, audioOut⟩
      exact ⟨image, audio, cached, by rw [if_pos anthropic]; exact ⟨split, tokens5m, tokens1h⟩,
        imageOut, audioOut⟩
  · simp only [anthropic, if_false, add_zero, whole, implies_true, true_and, Int.cast_eq_zero]
    refine ⟨?_, ?_⟩
    · rintro ⟨image, audio, cached, writes, imageOut, audioOut⟩
      rw [if_neg anthropic] at writes
      exact ⟨writes.1, image, audio, ⟨cached, writes.2, fun _ => image, fun _ => audio⟩, imageOut,
        audioOut⟩
    · rintro ⟨whole, image, audio, ⟨cached, writes, _⟩, imageOut, audioOut⟩
      exact ⟨image, audio, cached, by rw [if_neg anthropic]; exact ⟨whole, writes⟩, imageOut,
        audioOut⟩

theorem Usage.CountsFit.inputCategories_nonneg (fit : usage.CountsFit isClaude)
    : ∀ category ∈ params.inputCategories, 0 ≤ category.2 := by
  subst built
  dsimp only [inputCategories, buildTieredTokenParams]
  simp only [forall_mem_cons, not_mem_nil, IsEmpty.forall_iff, implies_true, and_true]
  refine ⟨by exact_mod_cast fit.cached, ?_, ?_, by exact_mod_cast fit.image,
    by exact_mod_cast fit.audio⟩
  · split
    · exact_mod_cast fit.tokens5m
    · exact_mod_cast usage.promptTokensDetails.cacheCreationTotal_nonneg
  · split
    · exact_mod_cast fit.tokens1h
    · exact le_rfl

theorem Usage.CountsFit.outputCategories_nonneg (fit : usage.CountsFit isClaude)
    : ∀ category ∈ params.outputCategories, 0 ≤ category.2 := by
  subst built
  dsimp only [outputCategories, buildTieredTokenParams]
  simp only [forall_mem_cons, not_mem_nil, IsEmpty.forall_iff, implies_true, and_true]
  exact ⟨by exact_mod_cast fit.imageOut, by exact_mod_cast fit.audioOut⟩

end

theorem text_of_totals (built : buildTieredTokenParams usage false usedVars = params)
    : params.p = max (usage.promptTokens - pricedApart usedVars params.inputCategories) 0
      ∧ params.c
        = max (usage.completionTokens - pricedApart usedVars params.outputCategories) 0 := by
  subst built
  unfold buildTieredTokenParams pricedApart inputCategories outputCategories
  simp only [ite_neg_eq_max, Bool.not_false, Bool.true_and, map_cons, map_nil, sum_cons, sum_nil]
  constructor <;> congr 1 <;> ring

/-- The text of a text-only usage is all of its prompt and completion, and the length adds what the
cache variables hold.
-/
theorem text_of_textOnly (fit : usage.CountsFit true)
    (built : buildTieredTokenParams usage true usedVars = params)
    : params.p = usage.promptTokens ∧ params.c = usage.completionTokens
      ∧ params.len = usage.promptTokens + params.cr + (params.cc + params.cc1h) := by
  have prompt : (0 : ℚ) ≤ usage.promptTokens := by exact_mod_cast fit.prompt
  have completion : (0 : ℚ) ≤ usage.completionTokens := by exact_mod_cast fit.completion
  subst built
  unfold buildTieredTokenParams
  simp only [ite_neg_eq_max, Bool.not_true, Bool.false_and, Bool.false_eq_true, if_false,
    sub_zero, if_true]
  exact ⟨max_eq_left prompt, max_eq_left completion, by ring⟩

theorem Usage.CountsFit.pricedOnce_of_totals (fit : usage.CountsFit false)
    (built : buildTieredTokenParams usage false usedVars = params)
    : PricedOnce usage false usedVars params := by
  obtain ⟨p, c⟩ := text_of_totals built
  have writes := cc_add_cc1h_le built
  have counted := counted_of_built built
  have input : pricedApart usedVars params.inputCategories ≤ usage.promptTokens := by
    refine (pricedApart_le (fit.inputCategories_nonneg built)).trans ?_
    have below : (usage.promptTokensDetails.cachedTokens + usage.cacheCreationTokens
        + usage.promptTokensDetails.imageTokens + usage.promptTokensDetails.audioTokens : ℚ)
        ≤ usage.promptTokens := by exact_mod_cast fit.input rfl
    rw [params.sum_inputCategories, counted.cr, counted.img, counted.ai]
    linarith
  have output : pricedApart usedVars params.outputCategories ≤ usage.completionTokens := by
    refine (pricedApart_le (fit.outputCategories_nonneg built)).trans ?_
    rw [params.sum_outputCategories, counted.imgO, counted.ao]
    exact_mod_cast fit.output rfl
  refine ⟨?_, ?_, ?_⟩
  · rw [p, max_eq_left (sub_nonneg.mpr input), sub_add_cancel]
    rfl
  · rw [c, max_eq_left (sub_nonneg.mpr output), sub_add_cancel]
    rfl
  · subst built
    rfl

/-- Tokens of a text-only usage are priced exactly once if and only if the expression covers
them.
-/
theorem Usage.CountsFit.pricedOnce_iff_covered (fit : usage.CountsFit true)
    (built : buildTieredTokenParams usage true usedVars = params)
    : PricedOnce usage true usedVars params ↔ Covered usage usedVars := by
  rw [covered_iff built]
  have writes := cc_add_cc1h_le built
  have counted := counted_of_built built
  obtain ⟨p, c, len⟩ := text_of_textOnly fit built
  have inputAll : pricedApart usedVars params.inputCategories = _ ↔ _ :=
    pricedApart_eq_sum_iff (fit.inputCategories_nonneg built)
  have outputAll : pricedApart usedVars params.outputCategories = _ ↔ _ :=
    pricedApart_eq_sum_iff (fit.outputCategories_nonneg built)
  rw [params.sum_inputCategories, counted.cr, counted.img, counted.ai] at inputAll
  rw [params.sum_outputCategories, counted.imgO, counted.ao] at outputAll
  rw [counted.cr] at len
  have image : (0 : ℚ) ≤ usage.promptTokensDetails.imageTokens := by exact_mod_cast fit.image
  have audio : (0 : ℚ) ≤ usage.promptTokensDetails.audioTokens := by exact_mod_cast fit.audio
  constructor
  · rintro ⟨input, output, whole⟩
    rw [p, totalInput, if_pos rfl] at input
    rw [c, totalOutput, if_pos rfl] at output
    rw [len, totalInput, if_pos rfl] at whole
    refine ⟨by linarith, ?_, ?_, inputAll.mp (by linarith), outputAll.mp (by linarith)⟩
    · have none : (usage.promptTokensDetails.imageTokens : ℚ) = 0 := by linarith
      exact_mod_cast none
    · have none : (usage.promptTokensDetails.audioTokens : ℚ) = 0 := by linarith
      exact_mod_cast none
  · rintro ⟨split, noImage, noAudio, inputUsed, outputUsed⟩
    have input := inputAll.mpr inputUsed
    have output := outputAll.mpr outputUsed
    refine ⟨?_, ?_, ?_⟩
    · rw [p, input, split, totalInput, if_pos rfl]
      ring
    · rw [c, output, totalOutput, if_pos rfl]
      ring
    · rw [len, split, totalInput, if_pos rfl, noImage, noAudio, Int.cast_zero, add_zero,
        add_zero]

/-- Each token of a usage is priced exactly once if and only if the usage reports totals that
include their categories, or the expression covers its categories.
-/
theorem tokens_priced_once_iff (fit : usage.CountsFit isClaude)
    : PricedOnce usage isClaude usedVars (buildTieredTokenParams usage isClaude usedVars)
      ↔ isClaude = false
        ∨ Covered usage usedVars := by
  cases isClaude with
  | false => exact iff_of_true (fit.pricedOnce_of_totals rfl) (.inl rfl)
  | true =>
    simp [fit.pricedOnce_iff_covered rfl]

end

def cacheCreationTokensForOpenAIUsage (usage : Usage) : ℤ :=
  let splitCacheCreationTokens :=
    usage.claudeCacheCreation5mTokens + usage.claudeCacheCreation1hTokens
  if splitCacheCreationTokens = 0 then usage.promptTokensDetails.cachedCreationTokens
  else if usage.promptTokensDetails.cachedCreationTokens > splitCacheCreationTokens then
    usage.promptTokensDetails.cachedCreationTokens
  else splitCacheCreationTokens

def buildOpenAIStyleUsageFromClaudeUsage (usage : Usage) : Usage :=
  let split := normalizeCacheCreationSplit usage.promptTokensDetails.cachedCreationTokens
    usage.claudeCacheCreation5mTokens usage.claudeCacheCreation1hTokens
  let cacheCreationTokens := cacheCreationTokensForOpenAIUsage usage
  let totalInputTokens := usage.promptTokens + usage.promptTokensDetails.cachedTokens
    + cacheCreationTokens
  { usage with
    claudeCacheCreation5mTokens := split.1
    claudeCacheCreation1hTokens := split.2
    promptTokensDetails := { usage.promptTokensDetails with
      cacheWriteTokens := cacheCreationTokens }
    promptTokens := totalInputTokens
    inputTokens := totalInputTokens
    totalTokens := totalInputTokens + usage.completionTokens
    usageSemantic := "openai"
    usageSource := "anthropic" }

def usageFromClaudeAPIUsage (usage : ClaudeUsage) : Usage :=
  buildOpenAIStyleUsageFromClaudeUsage {
    promptTokens := usage.inputTokens
    completionTokens := usage.outputTokens
    usageSemantic := "anthropic"
    usageSource := "anthropic"
    billingUsage := newClaudeMessagesBillingUsage usage
    promptTokensDetails := {
      cachedTokens := usage.cacheReadInputTokens
      cachedCreationTokens := usage.cacheCreationInputTokens }
    claudeCacheCreation5mTokens := usage.getCacheCreation5mTokens
    claudeCacheCreation1hTokens := usage.getCacheCreation1hTokens }

def sampleClaudeUsage (cacheCreation : Option ClaudeCacheCreationUsage) : Usage :=
  effectiveBillingUsage (usageFromClaudeAPIUsage {
    inputTokens := 100
    cacheReadInputTokens := 30
    cacheCreationInputTokens := 40
    outputTokens := 10
    cacheCreation })

def sampleBilledUsage (cacheCreation : Option ClaudeCacheCreationUsage) (tokens5m tokens1h : ℤ)
    : Usage where
  promptTokens := 100
  completionTokens := 10
  totalTokens := 110
  usageSemantic := "anthropic"
  usageSource := "claude_messages"
  promptTokensDetails := { cachedTokens := 30, cachedCreationTokens := 40 }
  inputTokens := 170
  outputTokens := 10
  claudeCacheCreation5mTokens := tokens5m
  claudeCacheCreation1hTokens := tokens1h
  billingUsage := newClaudeMessagesBillingUsage {
    inputTokens := 100
    cacheReadInputTokens := 30
    cacheCreationInputTokens := 40
    outputTokens := 10
    cacheCreation }

theorem sampleClaudeUsage_split
    : sampleClaudeUsage (some ⟨25, 15⟩) = sampleBilledUsage (some ⟨25, 15⟩) 25 15 := rfl

def cacheVars (name : String) : Bool := name ∈ ["p", "c", "cr", "cc", "cc1h"]

/-- Witness: cache writes that are split are priced once. -/
theorem split_writes_priced_once
    : PricedOnce (sampleClaudeUsage (some ⟨25, 15⟩)) true cacheVars
        (buildTieredTokenParams (sampleClaudeUsage (some ⟨25, 15⟩)) true cacheVars) := by
  rw [sampleClaudeUsage_split]
  refine (tokens_priced_once_iff ?_).mpr (.inr ?_)
  · constructor <;> decide +kernel
  · constructor <;> decide +kernel

def textVars (name : String) : Bool := name ∈ ["p", "c"]

/-- Cache writes that are not split are missing from the length and from what is priced, even with a
variable for every category. Cache tokens without a variable are not priced as text either.
-/
theorem unsplit_writes_not_priced
    : (sampleClaudeUsage none).CountsFit true
      ∧ (sampleClaudeUsage none).totalInput true = 170
      ∧ (buildTieredTokenParams (sampleClaudeUsage none) true cacheVars).len = 130
      ∧ (buildTieredTokenParams (sampleClaudeUsage none) true cacheVars).p
        + pricedApart cacheVars
          (buildTieredTokenParams (sampleClaudeUsage none) true cacheVars).inputCategories
        = 130
      ∧ (buildTieredTokenParams (sampleClaudeUsage (some ⟨25, 15⟩)) true textVars).p
        + pricedApart textVars
          (buildTieredTokenParams (sampleClaudeUsage (some ⟨25, 15⟩)) true textVars).inputCategories
        = 100 := by
  rw [sampleClaudeUsage_split, show sampleClaudeUsage none = sampleBilledUsage none 0 0 from rfl]
  refine ⟨by constructor <;> decide +kernel, by decide +kernel, by decide +kernel,
    by decide +kernel, by decide +kernel⟩

end HelsterApi.TextBilling
