import HelsterApi.Billing.Movements
import Mathlib.Data.List.Sort

/-! Rows of asynchronous tasks, what a polling pass or a timeout sweep makes of them, and refunding
a failed task and settling a successful one.
-/

namespace HelsterApi.Tasks

open Billing

section

inductive TaskStatus where
  | notStart
  | submitted
  | queued
  | inProgress
  | failure
  | success
  | unknown
  | other (text : String)
  deriving DecidableEq

def TaskStatus.Ended (status : TaskStatus) : Prop :=
  status = .success ∨ status = .failure
  deriving Decidable

inductive TaskPlatform where
  | suno | video
  deriving DecidableEq

/-- A `tasks` row, with the parts of its private data that polling and billing use. -/
structure Task where
  platform : TaskPlatform
  status : TaskStatus
  progress : String := ""
  (submitTime startTime finishTime : ℤ := 0)
  (failReason resultURL data : String := "")
  quota : ℤ
  userId : ℤ := 1
  tokenId : ℤ := 0
  billingSource : Option BillingSource := none
  subscriptionId : ℤ := 0
  perCallBilling : Bool := false
  deriving DecidableEq

variable (task : Task)

def Task.Unfinished : Prop :=
  task.progress ≠ "100%" ∧ ¬task.status.Ended
  deriving Decidable

def Task.TimedOut (cutoff : ℤ) (task : Task) : Prop :=
  task.Unfinished ∧ task.submitTime < cutoff
  deriving Decidable

/-- Whether the caller won, and the row after the statement; `ok` tells whether the statement is
executed.
-/
def Task.updateWithStatus (ok : Bool) (fromStatus : TaskStatus) (row : Task) : Bool × Task :=
  if ok ∧ row.status = fromStatus then (true, task) else (false, row)

/-- With the columns a pass writes when it cannot poll a task. -/
def taskBulkUpdateByID (failReason : Option String) (row : Task) : Task :=
  { row with
    status := .failure
    progress := "100%"
    failReason := failReason.getD row.failReason }

structure TaskSnapshot where
  status : TaskStatus
  progress : String
  (startTime finishTime : ℤ)
  (failReason resultURL data : String)
  deriving DecidableEq

def Task.snapshot : TaskSnapshot where
  status := task.status
  progress := task.progress
  startTime := task.startTime
  finishTime := task.finishTime
  failReason := task.failReason
  resultURL := task.resultURL
  data := task.data

def legacyTaskCutoff : ℤ := 1740182400

def Task.isLegacy : Bool := decide (0 < task.submitTime ∧ task.submitTime < legacyTaskCutoff)

def Task.timeOut (minutes now : ℤ) (task : Task) : Task :=
  { task with
    status := .failure
    progress := "100%"
    finishTime := now
    failReason :=
      if task.isLegacy then "任务超时（旧系统遗留任务，不进行退款，请联系管理员）"
      else "任务超时（" ++ toString minutes ++ "分钟）" }

def Task.refundsSwept : Bool := decide (task.isLegacy = false ∧ task.quota ≠ 0)

/-- An empty status is reported as `other ""`. -/
structure SunoDataResponse where
  status : TaskStatus
  failReason : String
  (submitTime startTime finishTime : ℤ)
  data : String

def sortedBytes (text : String) : List Char := text.toList.insertionSort (· ≤ ·)

def taskNeedsUpdate (item : SunoDataResponse) : Bool :=
  decide (task.submitTime ≠ item.submitTime ∨ task.startTime ≠ item.startTime
    ∨ task.finishTime ≠ item.finishTime ∨ task.status ≠ item.status
    ∨ task.failReason ≠ item.failReason
    ∨ (task.status.Ended ∧ task.progress ≠ "100%")
    ∨ sortedBytes task.data ≠ sortedBytes item.data)

inductive Bill where
  | settle | refund
  deriving DecidableEq

/-- What the Suno loop makes of a task that needs an update, and whether it refunds it
before saving.
-/
def Task.applySuno (item : SunoDataResponse) (task : Task) : Task × List Bill :=
  let status := if item.status ≠ .other "" then item.status else task.status
  let fails := item.failReason ≠ "" ∨ status = .failure
  let task := { task with
    status := status
    failReason := if item.failReason ≠ "" then item.failReason else task.failReason
    submitTime := if item.submitTime ≠ 0 then item.submitTime else task.submitTime
    startTime := if item.startTime ≠ 0 then item.startTime else task.startTime
    finishTime := if item.finishTime ≠ 0 then item.finishTime else task.finishTime
    progress := if fails ∨ item.status = .success then "100%" else task.progress
    data := item.data }
  (task, if fails then [.refund] else [])

structure TaskInfo where
  status : TaskStatus
  (url progress reason data : String := "")

def failTaskInfo (reason data : String) : TaskInfo where
  status := .failure
  reason := reason
  data := data

variable (proxyURL : String)

def resultURLOf (url : String) : String :=
  if "data:".toList.isPrefixOf url.toList then proxyURL
  else if url ≠ "" then url
  else proxyURL

/-- The switch of `updateVideoSingleTask` on the reported status, with the bills it asks for; none
for an unknown status.
-/
def Task.applyStatus (now : ℤ) (info : TaskInfo) (task : Task) : Option (Task × List Bill) :=
  let task : Task := { task with data := info.data, status := info.status }
  let finishTime := if task.finishTime = 0 then now else task.finishTime
  match info.status with
  | .submitted => some ({ task with progress := "10%" }, [])
  | .queued => some ({ task with progress := "20%" }, [])
  | .inProgress =>
    some ({ task with
      progress := "30%"
      startTime := if task.startTime = 0 then now else task.startTime }, [])
  | .success =>
    some ({ task with
      progress := "100%"
      finishTime := finishTime
      resultURL := resultURLOf proxyURL info.url }, [.settle])
  | .failure =>
    some ({ task with
      progress := "100%"
      finishTime := finishTime
      failReason := info.reason }, if task.quota ≠ 0 then [.refund] else [])
  | _ => none

variable (info : TaskInfo)

def Task.reportProgress (task : Task) : Task :=
  if info.status ≠ .failure ∧ info.progress ≠ "" then { task with progress := info.progress }
  else task

/-- What a poll of a video task left behind: the task in memory, the row, whether the poll won the
transition to a terminal status, and its bills.
-/
structure VideoPoll where
  (task row : Task)
  won : Bool := false
  bills : List Bill := []

/-- What the body of a response without a status reads as: a rate limit, another OpenAI error, other
JSON, or no JSON.
-/
inductive ErrorBody where
  | rateLimited | openAIError | unrecognized | notJson
  deriving DecidableEq

def resolveStatus (body : ErrorBody) : Option TaskInfo :=
  if info.status = .other "" then
    match body with
    | .rateLimited => none
    | .openAIError => some (failTaskInfo "upstream returned error" info.data)
    | .unrecognized => some (failTaskInfo "upstream returned unrecognized message" info.data)
    | .notJson => some info
  else some info

inductive PollResponse where
  | unusable
  | result (info : TaskInfo) (body : ErrorBody)

def updateVideoSingleTask (now : ℤ) (ok : Bool) (response : PollResponse) (task row : Task)
    : VideoPoll :=
  match response with
  | .unusable => { task := task, row := row }
  | .result info body =>
    match resolveStatus info body with
    | none => { task := { task with data := info.data }, row := row }
    | some info =>
      match task.applyStatus proxyURL now info with
      | none => { task := { task with data := info.data, status := info.status }, row := row }
      | some (applied, bills) =>
        let polled := applied.reportProgress info
        if polled.status.Ended ∧ task.status ≠ polled.status then
          let (won, row) := polled.updateWithStatus ok task.status row
          { task := polled, row := row, won := won, bills := if won then bills else [] }
        else if task.snapshot ≠ polled.snapshot then
          let (_, row) := polled.updateWithStatus ok task.status row
          { task := polled, row := row, bills := bills }
        else { task := polled, row := row, bills := bills }

/-- The bills due when a task ends as it is: a settlement on success, a refund on failure
unless nothing was charged.
-/
def Task.endBills : List Bill :=
  match task.status with
  | .success => [.settle]
  | .failure => if task.quota ≠ 0 then [.refund] else []
  | _ => []

structure Task.Keeps (task task' : Task) : Prop where
  platform : task'.platform = task.platform
  quota : task'.quota = task.quota

/-- The conditional write wins the row it expects, or leaves it. -/
theorem Task.updateWithStatus_eq {task row row' : Task} {ok won}
    {fromStatus} (updated : task.updateWithStatus ok fromStatus row = (won, row'))
    : (won = true ∧ row.status = fromStatus ∧ row' = task) ∨ (won = false ∧ row' = row) := by
  unfold updateWithStatus at updated
  split at updated <;> rename_i met <;> cases updated
  · exact .inl ⟨rfl, met.2, rfl⟩
  · exact .inr ⟨rfl, rfl⟩

/-- A poll moved the row from the status of the task in memory to a terminal one, and goes on with
its bills.
-/
structure VideoPoll.Wins (v : VideoPoll) (task row : Task) : Prop where
  won : v.won = true
  found : row.status = task.status
  written : v.row = v.task
  ended : v.task.status.Ended
  bills : v.bills = v.task.endBills

structure VideoPoll.Passes (v : VideoPoll) (task row : Task) : Prop where
  lost : v.won = false
  bills : v.bills = []
  row : v.row = row
    ∨ (row.status = task.status ∧ v.row = v.task ∧ ¬v.task.status.Ended)

/-- A poll of a video task wins the row or passes it by. -/
theorem updateVideoTask_cases (now ok)
    (response) {task : Task} (row) (open_ : ¬task.status.Ended)
    : task.Keeps (updateVideoSingleTask proxyURL now ok response task row).task
      ∧ ((updateVideoSingleTask proxyURL now ok response task row).Wins task row
        ∨ (updateVideoSingleTask proxyURL now ok response task row).Passes task row) := by
  unfold updateVideoSingleTask
  cases response with
  | unusable => exact ⟨⟨rfl, rfl⟩, .inr ⟨rfl, rfl, .inl rfl⟩⟩
  | result info body =>
    dsimp only
    split
    · exact ⟨⟨rfl, rfl⟩, .inr ⟨rfl, rfl, .inl rfl⟩⟩
    next resolved _ =>
      split
      · exact ⟨⟨rfl, rfl⟩, .inr ⟨rfl, rfl, .inl rfl⟩⟩
      next applied bills known =>
        obtain ⟨keeps, due⟩ : task.Keeps applied ∧ bills = applied.endBills := by
          dsimp only [Task.applyStatus] at known
          split at known <;> rename_i reported <;> cases known
          all_goals
            refine ⟨⟨rfl, rfl⟩, ?_⟩
            simp only [Task.endBills, reported]
        obtain ⟨keeps', sameBills⟩ : applied.Keeps (applied.reportProgress resolved)
            ∧ (applied.reportProgress resolved).endBills = applied.endBills := by
          unfold Task.reportProgress
          split <;> exact ⟨⟨rfl, rfl⟩, rfl⟩
        rw [due, ← sameBills]
        have keepsBoth : task.Keeps (applied.reportProgress resolved) :=
          ⟨keeps'.platform.trans keeps.platform, keeps'.quota.trans keeps.quota⟩
        split
        next ends =>
          rcases updated : (applied.reportProgress resolved).updateWithStatus ok task.status
            row with ⟨won, row'⟩
          refine ⟨keepsBoth, ?_⟩
          rcases Task.updateWithStatus_eq updated with ⟨rfl, found, rfl⟩ | ⟨rfl, rfl⟩
          · exact .inl ⟨rfl, found, rfl, ends.1, rfl⟩
          · exact .inr ⟨rfl, rfl, .inl rfl⟩
        next goesOn =>
          -- a terminal status would differ from the one in memory
          have notEnded : ¬(applied.reportProgress resolved).status.Ended := fun ended =>
            goesOn ⟨ended, fun same => open_ (same ▸ ended)⟩
          have nothing : (applied.reportProgress resolved).endBills = [] := by
            unfold Task.endBills
            split
            next success => exact absurd (.inl success) notEnded
            next failure => exact absurd (.inr failure) notEnded
            · rfl
          split
          · rcases updated : (applied.reportProgress resolved).updateWithStatus ok task.status
              row with ⟨won, row'⟩
            refine ⟨keepsBoth, .inr ⟨rfl, nothing, ?_⟩⟩
            rcases Task.updateWithStatus_eq updated with ⟨rfl, found, rfl⟩ | ⟨rfl, rfl⟩
            · exact .inr ⟨found, rfl, notEnded⟩
            · exact .inl rfl
          · exact ⟨keepsBoth, .inr ⟨rfl, nothing, .inl rfl⟩⟩

end

structure BillWrites where
  funding : FundingWrite
  tokenFound : Bool
  token : Write
  quota : Save

def taskIsSubscription (task : Task) : Bool :=
  decide (task.billingSource = some .subscription ∧ 0 < task.subscriptionId)

def taskAdjustFunding (w : FundingWrite) (task : Task) (delta : ℤ) (l : Ledger)
    : Except LedgerError Ledger :=
  if taskIsSubscription task then
    postConsumeUserSubscriptionDelta w.subscription task.subscriptionId delta l
  else if 0 < delta then decreaseUserQuota w.wallet delta l
  else increaseUserQuota w.wallet (-delta) l

/-- Its error is only logged. -/
def taskAdjustTokenQuota (w : BillWrites) (task : Task) (delta : ℤ) (l : Ledger) : Ledger :=
  if task.tokenId ≤ 0 ∨ delta = 0 ∨ w.tokenFound = false then l
  else
    match (if 0 < delta then decreaseTokenQuota w.token delta l
      else increaseTokenQuota w.token (-delta) l) with
    | .error _ => l
    | .ok l' => l'

def refundTaskQuota (w : BillWrites) (task : Task) (l : Ledger) : Option ℤ × Ledger :=
  if task.quota = 0 then (none, l)
  else
    match taskAdjustFunding w.funding task (-task.quota) l with
    | .error _ => (none, l)
    | .ok l => (some task.quota, taskAdjustTokenQuota w task (-task.quota) l)

/-- The adaptor's own quota, the tokens used, and the quota these come to if the model is billed
by ratio.
-/
structure CompletionQuota where
  (adaptorQuota totalTokens : ℤ)
  tokenQuota : Option ℤ

def settledQuota (q : CompletionQuota) (task : Task) : Option ℤ :=
  if task.perCallBilling then none
  else if 0 < q.adaptorQuota then some q.adaptorQuota
  else if 0 < q.totalTokens then q.tokenQuota
  else none

def recalculateTaskQuota (w : BillWrites) (actualQuota : ℤ) (task row : Task) (l : Ledger)
    : Task × Task × Ledger :=
  if actualQuota ≤ 0 ∨ actualQuota = task.quota then (task, row, l)
  else
    match taskAdjustFunding w.funding task (actualQuota - task.quota) l with
    | .error _ => (task, row, l)
    | .ok l =>
      ({ task with quota := actualQuota },
        match w.quota with
        | .applied => { row with quota := actualQuota }
        | .failed _ => row,
        taskAdjustTokenQuota w task (actualQuota - task.quota) l)

def settleTaskBillingOnComplete (w : BillWrites) (q : CompletionQuota) (task row : Task)
    (l : Ledger)
    : Task × Task × Ledger :=
  match settledQuota q task with
  | none => (task, row, l)
  | some actualQuota => recalculateTaskQuota w actualQuota task row l

def Task.funding (task : Task) : Funding :=
  if taskIsSubscription task then
    .subscription {
      requestId := "", userId := task.userId, amount := 0
      subscriptionId := task.subscriptionId }
  else .wallet 0

variable {task : Task} {l l' : Ledger}

/-- An adjustment of the funding source moves the amount. -/
theorem taskAdjustFunding_moves {w delta}
    (covered : l.Covers task.funding delta) (adjusted : taskAdjustFunding w task delta l = .ok l')
    : Moves task.funding l l' (delta, 0) := by
  unfold taskAdjustFunding at adjusted
  unfold Task.funding at covered ⊢
  split at adjusted
  next subscribed =>
    rw [if_pos subscribed] at covered ⊢
    exact postConsumeDelta_moves covered adjusted
  next fromWallet =>
    rw [if_neg fromWallet]
    split at adjusted
    · exact decreaseUserQuota_moves adjusted
    · simpa only [neg_neg] using increaseUserQuota_moves adjusted

/-- An adjustment of the token moves no funding source. -/
theorem taskAdjustTokenQuota_moves (w task delta l)
    (funding)
    : ∃ drawn, Moves funding l (taskAdjustTokenQuota w task delta l) (0, drawn) := by
  unfold taskAdjustTokenQuota
  split
  · exact ⟨0, .refl funding l⟩
  · split
    · exact ⟨0, .refl funding l⟩
    next adjusted =>
      split at adjusted
      · exact ⟨_, decreaseTokenQuota_moves funding adjusted⟩
      · exact ⟨_, increaseTokenQuota_moves funding adjusted⟩

variable {w : BillWrites}

/-- A settlement changes the quota of the task and its row, and the ledger. -/
theorem settleOnComplete_eq (w q)
    (task row l)
    : ∃ quota rowQuota l', settleTaskBillingOnComplete w q task row l
      = ({ task with quota := quota }, { row with quota := rowQuota }, l') := by
  unfold settleTaskBillingOnComplete recalculateTaskQuota
  split
  · exact ⟨task.quota, row.quota, l, rfl⟩
  · split
    · exact ⟨task.quota, row.quota, l, rfl⟩
    · split
      · exact ⟨task.quota, row.quota, l, rfl⟩
      · cases w.quota with
        | applied => exact ⟨_, _, _, rfl⟩
        | failed text => exact ⟨_, row.quota, _, rfl⟩

end HelsterApi.Tasks
