import HelsterApi.Control.Loop
import HelsterApi.Realtime.Handler
import HelsterApi.Relay.RetryLoop
import HelsterApi.Tasks.Rows

/-! Submitting an asynchronous task: one attempt of `RelayTaskSubmit`, the retry loop of `RelayTask`
around it, and what follows the loop. The success branch is guarded by the error variable alone, and
a client gone before the first attempt leaves it empty.
-/

namespace HelsterApi.Tasks

open Billing Option
open Control
open Realtime
open Relay

structure TaskError where
  (code message : String)
  statusCode : ℤ
  localError : Bool := false
  deriving DecidableEq

structure TaskSubmitResult where
  (upstreamTaskID taskData : String)
  platform : TaskPlatform
  quota : ℤ
  deriving DecidableEq

structure TaskSettings where
  retryTimes : ℤ
  trust : TrustSettings
  formatQuota : ℤ → String

def taskErrorWrapperLocal (text code : String) (statusCode : ℤ) : TaskError :=
  ⟨code, text, statusCode, true⟩

def errorCodeText : ErrorCode → String
  | .invalidRequest => "invalid_request"
  | .modelPriceError => "model_price_error"
  | .queryDataError => "query_data_error"
  | .updateDataError => "update_data_error"
  | .insufficientUserQuota => "insufficient_user_quota"
  | .preConsumeTokenQuotaFailed => "pre_consume_token_quota_failed"

def taskErrorFromAPIError (cfg : TaskSettings) (e : NewAPIError) : TaskError where
  code := errorCodeText e.errorCode
  message := e.cause.message cfg.formatQuota
  statusCode := e.statusCode

/-- What upstream answers a submission with; `adjustedQuota` is the quota recalculated from the
ratios the adaptor takes from the answer, if any.
-/
structure Accepted where
  (upstreamTaskID taskData : String)
  platform : TaskPlatform
  adjustedQuota : Option ℤ

/-- What one attempt meets: an error before the price is known, the quota with all ratios applied,
whether the model is free, the error a clamped quota left, how a pre-consume comes out, and the
answer of upstream.
-/
structure Submission where
  rejected : Option TaskError
  quota : ℤ
  freeModel : Bool
  quotaClamp : Option String
  opening : OpenOutcome
  response : Except TaskError Accepted

/-- Only while there is no billing session, and only for a model that is not free. -/
def Submission.preConsume (cfg : TaskSettings) (sub : Submission) (info : RelayInfo)
    (billing : Option BillingSession) (l : Ledger)
    : Except NewAPIError (Option BillingSession) × Ledger :=
  match billing with
  | some s => (.ok (some s), l)
  | none =>
    if sub.freeModel then (.ok none, l)
    else
      match preConsumeBilling cfg.trust sub.opening sub.quotaClamp
          { info with forcePreConsume := true } sub.quota l with
      | (.error e, l) => (.error e, l)
      | (.ok s, l) => (.ok (some s), l)

def relayTaskSubmit (cfg : TaskSettings) (sub : Submission) (info : RelayInfo)
    (billing : Option BillingSession) (l : Ledger)
    : Except TaskError TaskSubmitResult × Option BillingSession × Ledger :=
  match sub.rejected with
  | some e => (.error e, billing, l)
  | none =>
    match sub.preConsume cfg info billing l with
    | (.error e, l) => (.error (taskErrorFromAPIError cfg e), billing, l)
    | (.ok billing, l) =>
      match sub.response with
      | .error e => (.error e, billing, l)
      | .ok answer =>
        (.ok {
          upstreamTaskID := answer.upstreamTaskID
          taskData := answer.taskData
          platform := answer.platform
          quota := answer.adjustedQuota.getD sub.quota }, billing, l)

structure Aftermath where
  (disconnected affinitySkip specificChannel : Bool)

def Aftermath.shouldRetryTaskRelay (a : Aftermath) (e : TaskError) (retryTimes : ℤ) : Bool :=
  if a.affinitySkip then false
  else if retryTimes ≤ 0 then false
  else if a.specificChannel then false
  else if e.statusCode = 429 then true
  else if e.statusCode = 307 then true
  else if e.statusCode.tdiv 100 = 5 then
    -- timeouts are never retried
    !decide (e.statusCode = 504 ∨ e.statusCode = 524)
  else if e.statusCode = 400 then false
  else if e.statusCode = 408 then false
  else if e.localError then false
  else !decide (e.statusCode.tdiv 100 = 2)

/-- What one iteration meets. A locked channel is set up again on retries only; `selected` are the
retry counters that channel selection left.
-/
inductive TaskOutcome where
  | disconnected
  | lockedSetupFailed (text : String)
  | noChannel (text : String)
  | unreadableBody (tooLarge : Bool) (text : String)
  | limiterDown (text : String)
  | rateLimited (selected : RetryParam)
  | attempted (selected : RetryParam) (sub : Submission) (aftermath : Aftermath)

/-- The variables of `RelayTask`, and what its attempts returned, the last one first. -/
structure TaskLoop where
  retryParam : RetryParam := ⟨0, false⟩
  result : Option TaskSubmitResult := none
  taskErr : Option TaskError := none
  (upstreamAttempted channelRateLimited : Bool := false)
  billing : Option BillingSession := none
  ledger : Ledger
  attempts : List (Except TaskError TaskSubmitResult) := []

def TaskLoop.fail (st : TaskLoop) (e : TaskError) : TaskLoop :=
  { st with taskErr := some e }

def TaskLoop.submit (cfg : TaskSettings) (info : RelayInfo) (st : TaskLoop)
    (selected : RetryParam) (sub : Submission)
    : TaskLoop :=
  let (returned, billing, ledger) := relayTaskSubmit cfg sub info st.billing st.ledger
  { st with
    retryParam := selected
    result := returned.toOption
    taskErr := match returned with
      | .error e => some e
      | .ok _ => none
    upstreamAttempted := true
    billing := billing
    ledger := ledger
    attempts := returned :: st.attempts }

def TaskLoop.iterate (cfg : TaskSettings) (info : RelayInfo) (st : TaskLoop)
    : TaskOutcome → TaskLoop × Bool
  | .disconnected => (st, false)
  | .lockedSetupFailed text =>
    (st.fail (taskErrorWrapperLocal text "setup_locked_channel_failed" 500), false)
  | .noChannel text => (st.fail (taskErrorWrapperLocal text "get_channel_failed" 500), false)
  | .unreadableBody tooLarge text =>
    (st.fail (taskErrorWrapperLocal text "read_request_body_failed"
      (if tooLarge then 413 else 400)), false)
  | .limiterDown text =>
    (st.fail (taskErrorWrapperLocal text "channel_rate_limit_unavailable" 503), false)
  | .rateLimited selected => ({ st with retryParam := selected, channelRateLimited := true }, true)
  | .attempted selected sub aftermath =>
    let st := st.submit cfg info selected sub
    match st.taskErr with
    | none => (st, false)
    | some e =>
      (st, !aftermath.disconnected
        && aftermath.shouldRetryTaskRelay e (cfg.retryTimes - selected.retry))

def TaskLoop.increaseRetry (st : TaskLoop) : TaskLoop :=
  { st with retryParam := st.retryParam.increaseRetry }

def TaskLoop.enters (cfg : TaskSettings) (st : TaskLoop) : Bool :=
  decide (st.retryParam.retry ≤ cfg.retryTimes)

def relayTaskLoop (cfg : TaskSettings) (info : RelayInfo) (outcomes : List TaskOutcome) (l : Ledger)
    : Option TaskLoop :=
  loop (TaskLoop.enters cfg) (TaskLoop.iterate cfg info) TaskLoop.increaseRetry outcomes
    { ledger := l }

open TaskLoop

/-- The error variable after the loop: skipping every channel for local rate limits is an error of
its own.
-/
def TaskLoop.finalError (st : TaskLoop) : Option TaskError :=
  if st.taskErr = none ∧ st.channelRateLimited = true ∧ st.upstreamAttempted = false then
    some (taskErrorWrapperLocal "all candidate channels are locally rate limited"
      "channel_rate_limited" 429)
  else st.taskErr

structure SuccessWrites where
  settle : SettleWrites
  insert : Save
  (submitTime tokenId : ℤ)
  perCallBilling : Bool

/-- How `RelayTask` ends: with an error and the refund it starts, by dereferencing a nil result, or
with the task submitted, without a row if the insert failed.
-/
inductive TaskEnd where
  | failed (error : TaskError) (job : Option RefundJob)
  | crashed
  | submitted (result : TaskSubmitResult) (row : Option Task) (ledger : Ledger)

def TaskLoop.relayInfo (info : RelayInfo) (st : TaskLoop) : RelayInfo :=
  (st.billing.map (·.relayInfo)).getD info

/-- With the fields that `RelayTask` fills in afterwards. -/
def initTask (w : SuccessWrites) (info : RelayInfo) (result : TaskSubmitResult) : Task where
  platform := result.platform
  status := .notStart
  progress := "0%"
  submitTime := w.submitTime
  data := result.taskData
  quota := result.quota
  userId := info.userId
  tokenId := w.tokenId
  billingSource := info.billingSource
  subscriptionId := info.subscriptionId
  perCallBilling := w.perCallBilling

/-- The deferred refund if an error is left, else the success branch, which only logs a failed
settlement or insert.
-/
def TaskLoop.conclude (w : SuccessWrites) (info : RelayInfo) (st : TaskLoop) : TaskEnd :=
  match st.finalError with
  | some e => .failed e (st.billing.bind fun s => s.refund.2)
  | none =>
    match st.result with
    | none => .crashed
    | some result =>
      let (_, ledger) :=
        settleBilling st.billing w.settle result.quota (st.relayInfo info) st.ledger
      .submitted result
        (match w.insert with
          | .applied => some (initTask w (st.relayInfo info) result)
          | .failed _ => none)
        ledger

/-- From its loop on. -/
def relayTask (cfg : TaskSettings) (w : SuccessWrites) (info : RelayInfo)
    (outcomes : List TaskOutcome) (l : Ledger)
    : Option (TaskLoop × TaskEnd) :=
  (relayTaskLoop cfg info outcomes l).map fun st => (st, st.conclude w info)

section

variable {cfg : TaskSettings} {info : RelayInfo} {st st' : TaskLoop} {outcome : TaskOutcome}

namespace TaskLoop

/-- The success branch is taken only with the result that the last attempt returned. -/
def Guarded (st : TaskLoop) : Prop :=
  st.finalError = none → ∃ result, st.attempts.head? = some (.ok result)
    ∧ st.result = some result

/-- An attempt the loop is past has left its error. -/
def Sound (st : TaskLoop) : Prop := st.upstreamAttempted = true → st.taskErr ≠ none

theorem finalError_of_error (failed : st.taskErr ≠ none) : st.finalError ≠ none := by
  unfold finalError
  rwa [if_neg fun skipped => failed skipped.1]

theorem iterate_continues (sound : st.Sound) (continued : st.iterate cfg info outcome = (st', true))
    : st'.Sound ∧ st'.finalError ≠ none := by
  cases outcome with
  | rateLimited selected =>
    cases continued
    refine ⟨sound, ?_⟩
    by_cases failed : st.taskErr = none
    · have unattempted : st.upstreamAttempted = false := by
        rw [← Bool.not_eq_true]
        exact fun attempted => sound attempted failed
      simp [finalError, failed, unattempted]
    · exact finalError_of_error failed
  | attempted selected sub aftermath =>
    simp only [iterate] at continued
    split at continued
    · cases continued
    rename_i e failed
    obtain ⟨rfl, _⟩ := Prod.mk.inj continued
    have left : (st.submit cfg info selected sub).taskErr ≠ none := by
      rw [failed]
      exact some_ne_none e
    exact ⟨fun _ => left, finalError_of_error left⟩
  | disconnected | lockedSetupFailed | noChannel | unreadableBody | limiterDown => cases continued

theorem iterate_stops (stopped : st.iterate cfg info outcome = (st', false))
    : (outcome = .disconnected ∧ st' = st) ∨ (outcome ≠ .disconnected ∧ st'.Guarded) := by
  have failed : ∀ e, (st.fail e).Guarded := fun e clean =>
    absurd clean (finalError_of_error (some_ne_none e))
  cases outcome with
  | disconnected =>
    cases stopped
    exact .inl ⟨rfl, rfl⟩
  | rateLimited selected => cases stopped
  | attempted selected sub aftermath =>
    refine .inr ⟨fun gone => (by cases gone), fun clean => ?_⟩
    have same : st' = st.submit cfg info selected sub := by
      simp only [iterate] at stopped
      split at stopped <;> exact (Prod.mk.inj stopped).1.symm
    subst same
    obtain left | ⟨result, last, kept⟩ : (st.submit cfg info selected sub).taskErr ≠ none
        ∨ ∃ result, (st.submit cfg info selected sub).attempts.head? = some (.ok result)
          ∧ (st.submit cfg info selected sub).result = some result := by
      unfold submit
      rcases relayTaskSubmit cfg sub info st.billing st.ledger with ⟨_ | result, billing, ledger⟩
      · exact .inl (some_ne_none _)
      · exact .inr ⟨result, rfl, rfl⟩
    · exact absurd clean (finalError_of_error left)
    · exact ⟨result, last, kept⟩
  | lockedSetupFailed | noChannel | unreadableBody | limiterDown =>
    obtain ⟨rfl, _⟩ := Prod.mk.inj stopped
    exact .inr ⟨fun gone => (by cases gone), failed _⟩

end TaskLoop

theorem relayTaskLoop_ends {outcomes l} (ended : relayTaskLoop cfg info outcomes l = some st)
    : (0 ≤ cfg.retryTimes ∧ outcomes.head? ≠ some .disconnected ∧ st.Guarded)
      ∨ (¬(0 ≤ cfg.retryTimes ∧ outcomes.head? ≠ some .disconnected)
        ∧ st = { ledger := l }) := by
  have sound : TaskLoop.Sound { ledger := l } := nofun
  cases outcomes with
  | nil =>
    obtain ⟨skipped, rfl⟩ := loop_nil ended
    exact .inr ⟨fun entered => of_decide_eq_false skipped entered.1, rfl⟩
  | cons outcome rest =>
    obtain ⟨entered, ⟨middle, continued, onwards⟩ | ⟨stopped, _⟩⟩ := loop_cons ended
    · obtain ⟨middleSound, marked⟩ := iterate_continues sound continued
      have advanced : middle.increaseRetry.Sound := middleSound
      have guarded : st.Guarded := by
        refine loop_post (fun st => st.Sound ∧ st.finalError ≠ none) TaskLoop.Guarded onwards
          ⟨advanced, marked⟩ ?_ ?_ ?_
        · intro st middle outcome _ inv _ continued
          have kept := iterate_continues inv.1 continued
          exact kept
        · intro st last outcome _ inv _ stopped
          rcases iterate_stops stopped with ⟨_, rfl⟩ | ⟨_, guarded⟩
          · exact fun clean => absurd clean inv.2
          · exact guarded
        · intro st inv _ clean
          exact absurd clean inv.2
      refine .inl ⟨of_decide_eq_true entered, fun gone => ?_, guarded⟩
      cases gone
      cases continued
    · rcases iterate_stops stopped with ⟨rfl, rfl⟩ | ⟨present, guarded⟩
      · exact .inr ⟨fun entered => entered.2 rfl, rfl⟩
      · exact .inl ⟨of_decide_eq_true entered, fun gone => present (some.inj gone), guarded⟩

end

/-- The success branch of `RelayTask` is taken only with the result of the last attempt, exactly if
the loop is entered by a client still there.
-/
theorem relayTask_success_guarded_iff {cfg info outcomes l st}
    (ended : relayTaskLoop cfg info outcomes l = some st)
    : (st.finalError = none
        → ∃ result, st.attempts.head? = some (.ok result) ∧ st.result = some result)
      ↔ 0 ≤ cfg.retryTimes ∧ outcomes.head? ≠ some .disconnected := by
  rcases relayTaskLoop_ends ended with ⟨entered, present, guarded⟩ | ⟨missed, rfl⟩
  · exact iff_of_true guarded ⟨entered, present⟩
  · refine iff_of_false (fun guarded => ?_) missed
    obtain ⟨result, last, _⟩ := guarded rfl
    cases last

def sampleSettings : TaskSettings where
  retryTimes := 3
  trust := ⟨500000, 0⟩
  formatQuota := toString

def sampleInfo : RelayInfo where
  userId := 1
  requestId := "req-1"
  isPlayground := false
  tokenUnlimited := false
  forcePreConsume := false
  billingPreference := "wallet_first"

def sampleLedger : Ledger where
  userQuota := 1000
  tokenRemain := 1000
  tokenUsed := 0
  subs := fun _ => none
  records := fun _ => none

def samplePreConsume : PreConsumeOutcome where
  tokenRead := .ok 1000
  token := .applied
  wallet := .applied
  subscription := ⟨none, none, .applied, none, .applied⟩
  rollback := .applied

def sampleSubmission (adjusted : Option ℤ) : Submission where
  rejected := none
  quota := 100
  freeModel := false
  quotaClamp := none
  opening := ⟨.ok 1000, samplePreConsume, samplePreConsume, .ok false, .ok false⟩
  response := .ok ⟨"up-1", "data", .video, adjusted⟩

def sampleAttempt (adjusted : Option ℤ) : TaskOutcome :=
  .attempted ⟨0, false⟩ (sampleSubmission adjusted) ⟨false, false, false⟩

/-- Witness: an accepted attempt reaches the success branch with its result. -/
theorem relayTask_accepted_guarded
    : ∃ st, relayTaskLoop sampleSettings sampleInfo [sampleAttempt none] sampleLedger = some st
      ∧ st.finalError = none
      ∧ ∃ result, st.attempts.head? = some (.ok result) ∧ st.result = some result := by
  have ended : relayTaskLoop sampleSettings sampleInfo [sampleAttempt none] sampleLedger
    = some _ := rfl
  refine ⟨_, ended, rfl, (relayTask_success_guarded_iff ended).mpr ⟨by decide, ?_⟩ rfl⟩
  nofun

/-- A client that is gone before the first attempt reaches the success branch without a
result.
-/
theorem relayTask_disconnected_crashes
    : ∃ st, relayTaskLoop sampleSettings sampleInfo [.disconnected] sampleLedger = some st
      ∧ st.finalError = none ∧ st.attempts = [] ∧ st.result = none
      ∧ st.conclude ⟨⟨⟨.applied, .applied⟩, .applied⟩, .applied, 0, 0, false⟩ sampleInfo
        = .crashed := ⟨_, rfl, rfl, rfl, rfl, rfl⟩

end HelsterApi.Tasks
