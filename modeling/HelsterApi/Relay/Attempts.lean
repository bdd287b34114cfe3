import HelsterApi.Channels.Selection
import HelsterApi.Relay.GroupRatio

/-! The attempts of a request: on which channels they are made while some are cooling down, and how
many the retry loop makes over the groups of an `auto` token.
-/

namespace HelsterApi.Relay

open Billing HelsterApi.Channels Control List

/-- `channelHealthState`, as far as the cooldown reads it, in seconds. -/
structure ChannelHealthState where
  consecutiveFailures : ℕ := 0
  cooldownEnd : ℤ := 0

abbrev ChannelHealth := ℤ → Option ChannelHealthState

def channelFailureThreshold : ℕ := 3

def channelCooldown : ℤ := 30

variable (health : ChannelHealth)

def recordChannelHealthFailure (now channelID : ℤ) : ChannelHealth :=
  if channelID ≤ 0 then health
  else
    let state := (health channelID).getD {}
    let consecutiveFailures := state.consecutiveFailures + 1
    Function.update health channelID
      (if consecutiveFailures ≥ channelFailureThreshold then some ⟨0, now + channelCooldown⟩
        else some { state with consecutiveFailures })

def recordChannelHealthSuccess (channelID : ℤ) : ChannelHealth :=
  if channelID ≤ 0 then health else Function.update health channelID (some {})

def isChannelCoolingDown (now channelID : ℤ) : Bool :=
  (health channelID).any fun state => now < state.cooldownEnd

section

variable (cache : ChannelCache) (group model requestPath : String) (retry : ℕ)

variable {cache group model requestPath retry}

end

inductive HealthRecord where
  | failure (now channelID : ℤ)
  | success (channelID : ℤ)

/-- The health after some records, the latest first. -/
def recordedHealth : List HealthRecord → ChannelHealth
  | [] => fun _ => none
  | .failure now channelID :: earlier =>
    recordChannelHealthFailure (recordedHealth earlier) now channelID
  | .success channelID :: earlier => recordChannelHealthSuccess (recordedHealth earlier) channelID

/-- When a channel failed since its last success, the latest first. -/
def failuresOf (id : ℤ) : List HealthRecord → List ℤ
  | [] => []
  | .failure now channelID :: earlier =>
    if channelID = id then now :: failuresOf id earlier else failuresOf id earlier
  | .success channelID :: earlier => if channelID = id then [] else failuresOf id earlier

/-- The last failure that completes a round of three. -/
def lastThird (failures : List ℤ) : ℤ := failures.getD (failures.length % 3) 0

theorem recordedHealth_eq {id} (valid : 0 < id) (records)
    : let failures := failuresOf id records
      (recordedHealth records id).getD {}
        = ⟨failures.length % 3,
          if 3 ≤ failures.length then lastThird failures + channelCooldown else 0⟩ := by
  induction records with
  | nil => rfl
  | cons record earlier ih =>
    cases record with
    | failure now channelID =>
      -- the count starts again where this failure is a third one
      simp only [recordedHealth, recordChannelHealthFailure, failuresOf, channelFailureThreshold]
      grind [lastThird]
    | success channelID =>
      simp only [recordedHealth, recordChannelHealthSuccess, failuresOf]
      grind

/-- A channel cools down exactly if it failed three times or more since its last success and the
last failure that made three is less than the cooldown ago.
-/
theorem cooling_iff_failures {id now} (valid : 0 < id) (late : 0 ≤ now) (records)
    : isChannelCoolingDown (recordedHealth records) now id = true
      ↔ 3 ≤ (failuresOf id records).length
        ∧ now < lastThird (failuresOf id records) + channelCooldown := by
  have state := recordedHealth_eq valid records
  unfold isChannelCoolingDown
  cases found : recordedHealth records id <;> rw [found] at state <;> grind

theorem fourth_failure_keeps_cooldown
    : isChannelCoolingDown (recordedHealth [.failure 60 1, .failure 50 1, .success 2,
      .failure 30 1, .failure 20 1]) 79 1 = true :=
  (cooling_iff_failures (by decide) (by decide) _).mpr (by decide)

def Outcome.isAttempt : Outcome → Bool
  | .disconnected | .noChannel _ => false
  | _ => true

section

variable {pricing : Pricing} {cfg : RetrySettings} {routing routing' : Routing}
  {param : RetryParam} {iteration : Iteration}

theorem iterate_attempt {retryTimes outcome} (attempts : outcome.isAttempt)
    (iterated : routing.iterate pricing retryTimes param iteration = (outcome, routing'))
    : ∃ selection result middle param', iteration = .attempt selection result
      ∧ getChannel pricing.ratios selection retryTimes routing param = (none, middle, param')
      ∧ ∀ selected,
        (outcome = .rateLimited selected ∨ ∃ failure, outcome = .failed selected failure)
        → selected = param' ∧ (routing' = middle
          ∨ ∃ info, routing' = { middle with hasChannelMeta := true, info }) := by
  cases iteration with
  | disconnected =>
    cases iterated
    cases attempts
  | attempt selection result =>
    simp only [Routing.iterate] at iterated
    split at iterated
    · cases iterated
      cases attempts
    next middle param' got =>
      refine ⟨selection, result, middle, param', rfl, got, fun selected continues => ?_⟩
      cases result with
      | unreadableBody | limiterDown => cases iterated; simp at continues
      | rateLimited =>
        cases iterated
        simp at continues
        exact ⟨continues.symm, .inl rfl⟩
      | failed failure =>
        cases iterated
        simp at continues
        exact ⟨continues.symm, .inr ⟨_, rfl⟩⟩
      | served response =>
        simp only [Routing.settle] at iterated
        split at iterated <;> cases iterated <;> simp at continues
        exact ⟨continues.symm, .inr ⟨_, rfl⟩⟩

/-- How many attempts there can still be: those of each group from the current position on, and one
on the channel of the middleware while none has been made.
-/
def Routing.attemptsLeft (groups : List String) (retryTimes : ℤ) (routing : Routing)
    (param : RetryParam)
    : ℕ :=
  ((max (if routing.hasChannelMeta then 0 else 1)
      (groups.length - routing.autoGroupIndex.getD 0) : ℕ) * (retryTimes + 1)
    - param.retry).toNat

theorem RetryParam.increaseRetry_of_counting (counting : param.resetNextTry = false)
    : param.increaseRetry = ⟨param.retry + 1, false⟩ := by
  cases param
  cases counting
  rfl

theorem rounds_lt {rounds rounds' : ℕ} {retryTimes retry retry' : ℤ} (nonneg : 0 ≤ retry)
    (within : retry ≤ retryTimes)
    (less : rounds' < rounds ∧ 0 ≤ retry' ∨ rounds' = rounds ∧ 0 < rounds ∧ retry < retry')
    : (rounds' * (retryTimes + 1) - retry').toNat < (rounds * (retryTimes + 1) - retry).toNat := by
  have mono : ∀ {a b : ℕ}, a ≤ b → (a : ℤ) * (retryTimes + 1) ≤ b * (retryTimes + 1) :=
    fun le => mul_le_mul_of_nonneg_right (Int.ofNat_le.mpr le) (by omega)
  rcases less with ⟨fewer, counted⟩ | ⟨rfl, some, counted⟩
  · have round := mono fewer
    rw [Nat.cast_succ, add_one_mul] at round
    have rest := mono (Nat.zero_le rounds')
    omega
  · have round := mono some
    omega

/-- An `auto` request counts its retries up from zero. -/
structure Routing.Counts (routing : Routing) (param : RetryParam) : Prop where
  auto : routing.tokenGroup = "auto"
  nonneg : 0 ≤ param.retry
  counting : param.resetNextTry = false

theorem Routing.Counts.getChannel {ratios selection} {retryTimes : ℤ}
    {param' : RetryParam} (counts : routing.Counts param) (within : param.retry ≤ retryTimes)
    (got : Relay.getChannel ratios selection retryTimes routing param = (none, routing', param'))
    : routing'.Counts param'.increaseRetry
      ∧ routing.autoGroupIndex.getD 0 ≤ routing'.autoGroupIndex.getD 0
      ∧ routing'.attemptsLeft selection.autoGroups retryTimes param'.increaseRetry
        < routing.attemptsLeft selection.autoGroups retryTimes param := by
  obtain ⟨auto, nonneg, counting⟩ := counts
  unfold Relay.getChannel at got
  split at got
  next attempted =>
    obtain ⟨found, index, param₁, selected, finds⟩ :=
      cacheGetRandom_eq selection retryTimes auto param
    simp only [selected] at got
    cases found with
    | none => cases got
    | some group =>
      simp only [handleGroupRatio, Prod.mk.injEq] at got
      obtain ⟨_, rfl, rfl⟩ := got
      obtain ⟨k, at_, _, ⟨rfl, same, reset, counted⟩ | ⟨rfl, rfl⟩⟩ := finds
      all_goals
        have inside := (List.getElem?_eq_some_iff.mp at_).1
        rw [length_drop] at inside
      · rw [RetryParam.increaseRetry_of_counting (reset.trans counting)]
        have counted := counted nonneg
        refine ⟨⟨auto, by dsimp only; omega, rfl⟩, Nat.le_add_right .., rounds_lt nonneg within ?_⟩
        simp only [attempted, Option.getD_some]
        rcases Nat.eq_zero_or_pos k with rfl | moved
        · rw [same rfl]
          exact .inr ⟨rfl, by simp; omega, Int.lt_succ _⟩
        · exact .inl ⟨by simp; omega, by omega⟩
      · refine ⟨⟨auto, le_rfl, rfl⟩, ?_, rounds_lt nonneg within (.inl ⟨?_, le_rfl⟩)⟩
        all_goals simp only [attempted, Option.getD_some, if_true]
        all_goals omega
  next unattempted =>
    cases got
    rw [param.increaseRetry_of_counting counting]
    refine ⟨⟨auto, by dsimp only; omega, rfl⟩, le_rfl, rounds_lt nonneg within (.inr ⟨rfl, ?_, ?_⟩)⟩
    · simp [unattempted]
    · exact Int.lt_succ _

theorem rounds_le {rounds rounds' : ℕ} {retryTimes retry : ℤ} (le : rounds ≤ rounds')
    (nonneg : 0 ≤ retry)
    : (rounds * (retryTimes + 1) - retry).toNat ≤ (rounds' * (retryTimes + 1) - retry).toNat := by
  rcases le_total 0 (retryTimes + 1) with tries | none
  · have mono := mul_le_mul_of_nonneg_right (Int.ofNat_le.mpr le) tries
    omega
  · have nothing := mul_nonpos_of_nonneg_of_nonpos (Int.natCast_nonneg rounds) none
    omega

theorem attempt_continues_with {st after : LoopState} {outcome : Outcome}
    (attempted : st.attempt cfg outcome = (after, true))
    : outcome.isAttempt ∧ (outcome = .rateLimited after.retryParam
      ∨ ∃ failure, outcome = .failed after.retryParam failure) := by
  cases outcome with
  | rateLimited selected =>
    cases attempted
    exact ⟨rfl, .inl rfl⟩
  | failed selected failure =>
    cases congrArg Prod.fst attempted
    exact ⟨rfl, .inr ⟨failure, rfl⟩⟩
  | disconnected | noChannel | unreadableBody | limiterDown | served => cases attempted

def relayIterations (pricing : Pricing) (cfg : RetrySettings) (iterations : List Iteration)
    (st : LoopState) (routing : Routing)
    : List ((LoopState × Routing) × Iteration) :=
  made (relayEnters cfg) (relayBody pricing cfg) relayAdvance iterations (st, routing)

def makesAttempt (pricing : Pricing) (cfg : RetrySettings)
    (made : (LoopState × Routing) × Iteration)
    : Bool := (made.1.2.iterate pricing cfg.retryTimes made.1.1.retryParam made.2).1.isAttempt

theorem Routing.Counts.body {groups} {st : LoopState} {after : LoopState × Routing}
    (counts : routing.Counts st.retryParam)
    (same : ∀ selection result, iteration = .attempt selection result
      → selection.autoGroups = groups) (within : st.retryParam.retry ≤ cfg.retryTimes)
    (went : relayBody pricing cfg (st, routing) iteration = (after, true))
    : (relayAdvance after).2.Counts (relayAdvance after).1.retryParam
      ∧ (relayAdvance after).2.attemptsLeft groups cfg.retryTimes (relayAdvance after).1.retryParam
        < routing.attemptsLeft groups cfg.retryTimes st.retryParam
      ∧ routing.autoGroupIndex.getD 0 ≤ (relayAdvance after).2.autoGroupIndex.getD 0 := by
  obtain ⟨outcome, iterated, attempted⟩ := relayBody_eq went
  obtain ⟨attempts, continues⟩ := attempt_continues_with attempted
  obtain ⟨selection, result, middle, param', rfl, got, left⟩ := iterate_attempt attempts iterated
  obtain ⟨selected, left⟩ := left _ continues
  obtain ⟨counts', further, less⟩ := counts.getChannel within got
  rw [same selection result rfl, ← selected] at less
  rw [← selected] at counts'
  rcases left with same | ⟨info, same⟩ <;> rw [relayAdvance, same]
  · exact ⟨counts', less, further⟩
  · refine ⟨⟨counts'.auto, counts'.nonneg, counts'.counting⟩, ?_, further⟩
    exact lt_of_le_of_lt (rounds_le (max_le_max (by simp) le_rfl) counts'.nonneg) less

/-- Over any `auto` groups, and whatever its selections and attempts meet, the retry loop ends after
at most as many attempts as there are groups, at least one, times the retries and the first try. The
position among the groups never decreases.
-/
theorem attempts_bounded (groups : List String) {iterations : List Iteration}
    (session : BillingSession) (ledger : Ledger) (auto : routing.tokenGroup = "auto")
    (same : ∀ selection result, .attempt selection result ∈ iterations
      → selection.autoGroups = groups)
    : let bound := ((max 1 groups.length : ℕ) * (cfg.retryTimes + 1)).toNat
      let iterated := relayIterations pricing cfg iterations (.start session ledger) routing
      (iterated.filter (makesAttempt pricing cfg)).length ≤ bound
      ∧ iterated.Pairwise (fun earlier later =>
          earlier.1.2.autoGroupIndex.getD 0 ≤ later.1.2.autoGroupIndex.getD 0)
      ∧ (bound < iterations.length → ∃ k,
          (relayGroups pricing cfg (iterations.take k) (.start session ledger)
            routing).isSome) := by
  have rounds : max (if routing.hasChannelMeta then 0 else 1)
      (groups.length - routing.autoGroupIndex.getD 0) ≤ max 1 groups.length := by
    split <;> omega
  have start := @rounds_le _ _ cfg.retryTimes 0 rounds le_rfl
  rw [sub_zero (((max 1 groups.length : ℕ) : ℤ) * _)] at start
  have agrees : ∀ {o}, o ∈ iterations → ∀ selection result, o = .attempt selection result
      → selection.autoGroups = groups := by
    rintro _ member selection result rfl
    exact same selection result member
  simp only [relayGroups_eq_loop]
  obtain ⟨attempts, sorted, ends⟩ := @made_bounded _ _ (relayEnters cfg) (relayBody pricing cfg)
    relayAdvance (.start session ledger, routing) iterations
    (fun s => s.2.Counts s.1.retryParam)
    (fun s => s.2.attemptsLeft groups cfg.retryTimes s.1.retryParam)
    (fun s => s.2.autoGroupIndex.getD 0) (makesAttempt pricing cfg) ⟨auto, le_rfl, rfl⟩ (by
      intro s o member counts entered attempts
      obtain ⟨selection, result, _, _, rfl, got, _⟩ := iterate_attempt attempts rfl
      obtain ⟨_, _, less⟩ := counts.getChannel (of_decide_eq_true entered) got
      rw [same selection result member] at less
      exact Nat.zero_lt_of_lt less)
    (fun o member counts entered went =>
      counts.body (agrees member) (of_decide_eq_true entered) went)
  exact ⟨attempts.trans start, sorted, fun long => ends (start.trans_lt long)⟩

/-- As long as the limiter skips every attempt no channel is selected: a fresh request spends its
retries on the channel of the middleware and is then told that all candidates are limited.
-/
theorem skipped_attempts_keep_channel {iterations st'} (session : BillingSession)
    (ledger : Ledger) (fresh : routing.hasChannelMeta = false) (tries : 0 ≤ cfg.retryTimes)
    (skipped : ∀ iteration ∈ iterations, ∃ selection, iteration = .attempt selection .rateLimited)
    (run : relayGroups pricing cfg iterations (.start session ledger) routing
      = some (st', routing'))
    : routing' = routing ∧ st'.finalError = some ⟨"get_channel_failed", 429, true,
      "all candidate channels are locally rate limited"⟩ := by
  have body {st o} (member : o ∈ iterations)
      : relayBody pricing cfg (st, routing) o
        = (({ st with channelRateLimited := true }, routing), true) := by
    obtain ⟨selection, rfl⟩ := skipped o member
    simp [relayBody, Routing.iterate, getChannel, fresh, LoopState.attempt]
  rw [relayGroups_eq_loop] at run
  refine loop_post
    (fun s => s.2 = routing ∧ s.1.newAPIError = none ∧ s.1.upstreamAttempted = false
      ∧ (s.1.retryParam.retry = 0 ∨ s.1.channelRateLimited = true))
    (fun s => s.2 = routing ∧ s.1.finalError = _) run ⟨rfl, rfl, rfl, .inl rfl⟩ ?_ ?_ ?_
  · rintro ⟨st, _⟩ _ o member ⟨rfl, noError, unsent, _⟩ _ continued
    cases (body member).symm.trans continued
    exact ⟨rfl, noError, unsent, .inr rfl⟩
  · rintro ⟨st, _⟩ _ o member ⟨rfl, _⟩ _ stopped
    cases (body member).symm.trans stopped
  · rintro ⟨st, _⟩ ⟨rfl, noError, unsent, zero | limited⟩ left
    · simp_all [relayEnters]
    · exact ⟨rfl, by simp_all [LoopState.finalError]⟩

end

def limitedRun : Option (LoopState × Routing) :=
  relayGroups (twoGroups (.configured {})) retryOnce
    (replicate 2 (.attempt (onlyIn "dear") .rateLimited))
    (.start walletStart.session walletStart.ledger) (autoRequest "default" true {})

theorem limitedRun_keeps_channel
    : ∃ st, limitedRun = some (st, autoRequest "default" true {}) ∧ st.finalError ≠ none := by
  obtain ⟨⟨st, routing⟩, run⟩ := Option.isSome_iff_exists.mp (show limitedRun.isSome by decide)
  obtain ⟨rfl, error⟩ := skipped_attempts_keep_channel _ _ rfl (by decide) (by simp) run
  exact ⟨st, run, by simp [error]⟩

def crossGroupIterations : List ((LoopState × Routing) × Iteration) :=
  relayIterations (twoGroups (.configured { modelRatio := 1 })) retryOnce crossGroupRun
    (.start walletStart.session walletStart.ledger)
    (autoRequest "default" true { originModelName := "claude-sonnet" })

/-- A run over two groups makes two of the four attempts it may make. -/
theorem crossGroupRun_attempts_bounded
    : (crossGroupIterations.filter
        (makesAttempt (twoGroups (.configured { modelRatio := 1 })) retryOnce)).length = 2
      ∧ (crossGroupIterations.filter
        (makesAttempt (twoGroups (.configured { modelRatio := 1 })) retryOnce)).length ≤ 4 := by
  refine ⟨by decide +kernel, (attempts_bounded ["cheap", "dear"] walletStart.session
    walletStart.ledger rfl fun selection result member => ?_).1⟩
  simp only [crossGroupRun, mem_cons, Iteration.attempt.injEq, not_mem_nil, or_false] at member
  rcases member with ⟨rfl, _⟩ | ⟨rfl, _⟩ <;> rfl

/-- A request that names its channel makes an attempt also if the user has no groups. -/
theorem attempt_without_groups
    : ((relayIterations (twoGroups (.configured { modelRatio := 1 })) retryOnce
          [.attempt { onlyIn "cheap" with autoGroups := [] } (.served searchResponse)]
          (.start walletStart.session walletStart.ledger)
          (autoRequest "default" true { originModelName := "claude-sonnet" })).filter
        (makesAttempt (twoGroups (.configured { modelRatio := 1 })) retryOnce)).length
      > ([] : List String).length * (retryOnce.retryTimes + 1) := by
  decide +kernel

end HelsterApi.Relay
