import Mathlib.Algebra.Order.BigOperators.Group.List
import HelsterApi.Subscriptions.Maintenance

/-! Whether the passes over due resets make progress. A pass counts every subscription whose row it
locks, also if its plan has nothing to reset now; such a subscription stays due, and a full batch of
them keeps the maintenance task running forever.
-/

namespace HelsterApi.Subscriptions

open List Relational Store Keyed
open Control

variable {cal : Calendar} {plan : SubscriptionPlan} {now : ℤ}

/-- The reset after the last one, by the plan as it is now, is due. -/
def Renewable (cal : Calendar) (plan : SubscriptionPlan) (now : ℤ) (sub : UserSubscription)
    : Prop :=
  0 < calcNextResetTime cal sub.resetBase plan sub.endTime
    ∧ calcNextResetTime cal sub.resetBase plan sub.endTime ≤ now

/-- The resets up to `now` are each none or strictly after the one before. -/
def MovesForward (cal : Calendar) (plan : SubscriptionPlan) (now : ℤ) (sub : UserSubscription)
    : Prop :=
  ∀ reset, sub.resetBase ≤ reset → reset ≤ max sub.resetBase now
    → ResetsForward cal plan reset sub.endTime

variable {iterations : ℕ} {sub : UserSubscription}

theorem maybeReset_due_cases {sub'} (due : 0 < sub.nextResetTime ∧ sub.nextResetTime ≤ now)
    (done : maybeResetUserSubscriptionWithPlanTx cal iterations plan now sub = .ok sub')
    : (¬ Renewable cal plan now sub ∧ sub' = sub)
      ∨ (Renewable cal plan now sub
        ∧ ¬(0 < sub'.nextResetTime ∧ sub'.nextResetTime ≤ now)
        ∧ (MovesForward cal plan now sub
          → sub.resetBase < sub'.resetBase ∧ sub'.resetBase ≤ now)) := by
  by_cases renewable : Renewable cal plan now sub
  · refine .inr ⟨renewable, ?_⟩
    rw [maybeReset_of_due (by omega) renewable] at done
    cases ended : advanceReset cal plan sub.endTime now iterations sub.resetBase
        (calcNextResetTime cal sub.resetBase plan sub.endTime) false with
    | none => simp [ended] at done
    | some outcome =>
      obtain ⟨base, next, advanced⟩ := outcome
      rw [ended] at done
      cases done
      obtain ⟨notDue, _, before, past⟩ := advanceReset_stops ended renewable
      refine ⟨notDue, fun forward => ?_⟩
      obtain ⟨positive, inTime⟩ := renewable
      have later := (forward _ le_rfl (le_max_left _ _)).resolve_left positive.ne'
      have passed := past fun reset after before =>
        forward reset (later.le.trans after) (le_max_of_le_right before)
      have same : (sub.renewed base next).resetBase = base := by
        have afterZero : ¬ base ≤ 0 := by omega
        exact if_neg afterZero
      rw [same]
      omega
  · rw [maybeReset_of_not_due renewable (by omega)] at done
    cases done
    exact .inl ⟨renewable, rfl⟩

theorem maybeReset_returns (due : 0 < sub.nextResetTime ∧ sub.nextResetTime ≤ now)
    (forward : MovesForward cal plan now sub) (enough : (now - sub.resetBase).toNat ≤ iterations)
    : ∃ sub', maybeResetUserSubscriptionWithPlanTx cal iterations plan now sub = .ok sub' := by
  by_cases renewable : Renewable cal plan now sub
  · have ends : ∃ outcome, advanceReset cal plan sub.endTime now iterations sub.resetBase
        (calcNextResetTime cal sub.resetBase plan sub.endTime) false = some outcome := by
      have ahead : ∀ reset, sub.resetBase ≤ reset → reset ≤ max sub.resetBase now
          → calcNextResetTime cal reset plan sub.endTime ≤ 0
            ∨ (reset < calcNextResetTime cal reset plan sub.endTime
              ∧ sub.resetBase ≤ calcNextResetTime cal reset plan sub.endTime) := by
        intro reset after before
        rcases forward reset after before with none | later
        · exact .inl none.le
        · exact .inr ⟨later, by omega⟩
      apply advanceReset_ends
      · exact fun reset after before => ahead reset after (le_max_of_le_right before)
      · exact ahead _ le_rfl (le_max_left _ _)
      · omega
    obtain ⟨⟨base, next, advanced⟩, ended⟩ := ends
    rw [maybeReset_of_due (by omega) renewable, ended]
    exact ⟨_, rfl⟩
  · exact ⟨sub, maybeReset_of_not_due renewable (by omega) iterations⟩

def SweepReads.Processes (w : SweepReads) (plan : SubscriptionPlan) (row : UserSubscription)
    : Prop := w.plans row.planId = .ok plan ∧ w.lockRead row.id = true

/-- Some due rows, with different ids, are stored as they are. -/
structure Intact (now : ℤ) (s : Store) (rows : List UserSubscription) : Prop where
  stored : ∀ row ∈ rows, s.subs.get? row.id = some row
  due : ∀ row ∈ rows, 0 < row.nextResetTime ∧ row.nextResetTime ≤ now
  distinct : rows.Pairwise fun a b => a.id ≠ b.id

variable {s : Store} {row : UserSubscription} {limit : ℤ}

theorem Store.mem_resetBatch (inBatch : row ∈ s.resetBatch limit now)
    : row ∈ s.subs.rows ∧ row.resetDue now = true := by
  have sorted := mem_of_mem_take inBatch
  exact mem_filter.mp (mem_insertionSort _ |>.mp sorted)

theorem intact_resetBatch (s : Store) (limit now) : Intact now s (s.resetBatch limit now) := by
  refine ⟨?_, ?_, ?_⟩
  · exact fun row inBatch =>
      get?_eq_some.mpr ⟨(mem_resetBatch inBatch).1, rfl⟩
  · exact fun row inBatch => (of_decide_eq_true (mem_resetBatch inBatch).2).2
  · refine List.Pairwise.sublist (take_sublist _ _) ?_
    refine (List.Perm.pairwise_iff Ne.symm (perm_insertionSort _ _)).mpr ?_
    exact s.subs.distinct.filter _

variable {rest : List UserSubscription}

theorem Intact.tail (intact : Intact now s (row :: rest)) : Intact now s rest where
  stored other member := intact.stored other (by simp [member])
  due other member := intact.due other (by simp [member])
  distinct := (pairwise_cons.mp intact.distinct).2

theorem Intact.saveSub (intact : Intact now s (row :: rest)) (same : sub.id = row.id)
    : Intact now (s.saveSub sub) rest := by
  refine ⟨fun other member => ?_, intact.tail.due, intact.tail.distinct⟩
  have differs := same ▸ ((pairwise_cons.mp intact.distinct).1 other member).symm
  rw [Store.saveSub, get?_save_of_ne differs]
  exact intact.tail.stored other member

section Pass

variable {iterations : ℕ} {w : SweepReads} {rows rest : List UserSubscription}
  {row : UserSubscription} {counted counted' : List ℤ} {s s' : Store}

theorem resetLocked_ok {flag} (stored : s.subs.get? row.id = some row)
    (due : 0 < row.nextResetTime ∧ row.nextResetTime ≤ now)
    (done : resetLocked cal iterations w plan now row.id s = .ok (flag, s'))
    : (w.lockRead row.id = false ∧ flag = false ∧ s' = s)
      ∨ (w.lockRead row.id = true ∧ flag = true
        ∧ ∃ sub, maybeResetUserSubscriptionWithPlanTx cal iterations plan now row = .ok sub
          ∧ s' = s.saveSub sub) := by
  unfold resetLocked at done
  split at done
  next locked =>
    split at done
    · cases done
    rename_i after reset
    cases done
    refine .inr ⟨locked, by simp [stored, due], ?_⟩
    obtain ⟨_, reset⟩ := transaction_eq_ok.mp reset
    rw [stored] at reset
    dsimp only at reset
    rw [if_pos due] at reset
    split at reset
    · cases reset
    rename_i sub outcome
    cases reset
    exact ⟨sub, outcome, rfl⟩
  next unlocked =>
    obtain ⟨_, skipped⟩ := transaction_eq_ok.mp done
    cases skipped
    exact .inl ⟨by simpa using unlocked, rfl, rfl⟩

theorem resetEachDue_cons_ok (intact : Intact now s (row :: rest))
    (done : resetEachDue cal iterations w now (row :: rest) counted s
      = some (.ok counted', s'))
    : ((∀ plan, ¬ w.Processes plan row)
        ∧ resetEachDue cal iterations w now rest counted s = some (.ok counted', s'))
      ∨ ∃ plan sub, w.Processes plan row
        ∧ maybeResetUserSubscriptionWithPlanTx cal iterations plan now row = .ok sub
        ∧ resetEachDue cal iterations w now rest (counted ++ [row.id]) (s.saveSub sub)
          = some (.ok counted', s') := by
  have stored := intact.stored row (by simp)
  have due := intact.due row (by simp)
  unfold resetEachDue at done
  split at done
  next text missing =>
    refine .inl ⟨fun plan processed => ?_, done⟩
    cases missing.symm.trans processed.1
  next plan found =>
    split at done
    · cases done
    · cases done
    next after locked =>
      rcases resetLocked_ok stored due locked with ⟨_, flag, _⟩ | ⟨read, _, sub, reset, rfl⟩
      · cases flag
      · exact .inr ⟨plan, sub, ⟨found, read⟩, reset, done⟩
    next after skipped =>
      rcases resetLocked_ok stored due skipped with ⟨unread, _, rfl⟩ | ⟨_, flag, _⟩
      · refine .inl ⟨fun plan processed => ?_, done⟩
        cases unread.symm.trans processed.2
      · cases flag

/-- A pass counts the rows it processes and writes what their reset returns, and nothing else. -/
structure Swept (cal : Calendar) (iterations : ℕ) (w : SweepReads) (now : ℤ)
    (rows : List UserSubscription) (s : Store) (counted : List ℤ) (s' : Store)
    : Prop where
  counts : ∀ id, id ∈ counted ↔ ∃ row ∈ rows, row.id = id ∧ ∃ plan, w.Processes plan row
  writes : ∀ row ∈ rows, ∀ plan, w.Processes plan row → ∃ sub,
    maybeResetUserSubscriptionWithPlanTx cal iterations plan now row = .ok sub
      ∧ s'.subs.get? row.id = some sub
  others : ∀ id, (∀ row ∈ rows, row.id ≠ id) → s'.subs.get? id = s.subs.get? id

/-- What a pass over the rows of a batch does, by induction on them. -/
theorem resetEachDue_swept (intact : Intact now s rows)
    (done : resetEachDue cal iterations w now rows counted s = some (.ok counted', s'))
    : ∃ new, counted' = counted ++ new ∧ Swept cal iterations w now rows s new s' := by
  induction rows generalizing counted s with
  | nil =>
    cases done
    exact ⟨[], by simp, by simp, by simp, fun _ _ => rfl⟩
  | cons row rest ih =>
    have differs := (pairwise_cons.mp intact.distinct).1
    rcases resetEachDue_cons_ok intact done with ⟨skipped, onwards⟩ |
      ⟨plan, sub, processed, reset, onwards⟩
    · obtain ⟨new, same, swept⟩ := ih intact.tail onwards
      refine ⟨new, same, fun id => by simp [swept.counts, skipped],
        forall_mem_cons.mpr ⟨fun plan processed => ?_, swept.writes⟩, fun id other => ?_⟩
      · exact absurd processed (skipped plan)
      · exact swept.others id fun a member => other a (mem_cons_of_mem _ member)
    · have sameId := maybeReset_id reset
      obtain ⟨new, same, swept⟩ := ih (intact.saveSub sameId) onwards
      refine ⟨row.id :: new, by rw [same, append_assoc]; rfl, fun id => ?_,
        forall_mem_cons.mpr ⟨fun plan' processed' => ?_, swept.writes⟩, fun id other => ?_⟩
      · rw [mem_cons, swept.counts, exists_mem_cons_iff, and_iff_left ⟨plan, processed⟩, eq_comm]
      · cases processed'.1.symm.trans processed.1
        refine ⟨sub, reset, ?_⟩
        rw [swept.others row.id fun other member => (differs other member).symm, ← sameId]
        exact get?_save_self (sameId ▸ intact.stored row (by simp))
      · have notRow := sameId ▸ (other row (by simp)).symm
        rw [swept.others id fun a member => other a (mem_cons_of_mem _ member),
          saveSub, get?_save_of_ne notRow]

def Store.timeLeft (s : Store) (horizon : ℤ) : ℕ :=
  (s.subs.rows.map fun sub => (horizon - sub.resetBase).toNat).sum

variable {horizon : ℤ}

theorem Store.timeLeft_saveSub {sub} (stored : s.subs.get? row.id = some row)
    (same : sub.id = row.id) (later : row.resetBase < sub.resetBase)
    (before : sub.resetBase ≤ horizon)
    : (s.saveSub sub).timeLeft horizon < s.timeLeft horizon := by
  obtain ⟨member, _⟩ := get?_eq_some.mp stored
  have lower : ∀ a ∈ s.subs.rows, a.id = sub.id
      → (horizon - sub.resetBase).toNat < (horizon - a.resetBase).toNat := by
    intro a memberA sameId
    rw [eq_of_key memberA member (sameId.trans same)]
    omega
  change ((s.subs.rows.map _).map _).sum < (s.subs.rows.map _).sum
  rw [map_map]
  refine sum_lt_sum _ _ (fun a memberA => ?_) ⟨row, member, ?_⟩
  · by_cases sameId : a.id = sub.id
    · simpa [written, sameId] using (lower a memberA sameId).le
    · simp [written, sameId]
  · simpa [written, same] using lower row member same.symm

/-- Each row that a pass processes is renewable, and its resets move forward. -/
def Ready (cal : Calendar) (w : SweepReads) (now : ℤ) (rows : List UserSubscription) : Prop :=
  ∀ row ∈ rows, ∀ plan, w.Processes plan row
    → Renewable cal plan now row ∧ MovesForward cal plan now row

/-- A pass over rows that are ready leaves less time for each it counts, by induction on the
rows.
-/
theorem resetEachDue_timeLeft (inTime : now ≤ horizon) (intact : Intact now s rows)
    (ready : Ready cal w now rows)
    (done : resetEachDue cal iterations w now rows counted s = some (.ok counted', s'))
    : s'.timeLeft horizon + counted'.length ≤ s.timeLeft horizon + counted.length := by
  induction rows generalizing counted s with
  | nil =>
    cases done
    exact le_rfl
  | cons row rest ih =>
    have readyRest : Ready cal w now rest := fun a member => ready a (by simp [member])
    rcases resetEachDue_cons_ok intact done with ⟨_, onwards⟩ |
      ⟨plan, sub, processed, reset, onwards⟩
    · exact ih intact.tail readyRest onwards
    · have sameId := maybeReset_id reset
      obtain ⟨renewable, forward⟩ := ready row (by simp) plan processed
      rcases maybeReset_due_cases (intact.due row (by simp)) reset with
        ⟨stays, _⟩ | ⟨_, _, moves⟩
      · exact absurd renewable stays
      · obtain ⟨later, before⟩ := moves forward
        have lower := timeLeft_saveSub (intact.stored row (by simp)) sameId later
          (before.trans inTime)
        have onwards := ih (intact.saveSub sameId) readyRest onwards
        rw [length_append, length_singleton] at onwards
        omega

/-- A pass over rows whose resets move forward returns, by induction on the rows. -/
theorem resetEachDue_returns (intact : Intact now s rows)
    (forward : ∀ row ∈ rows, ∀ plan, w.Processes plan row → MovesForward cal plan now row)
    (enough : ∀ row ∈ rows, (now - row.resetBase).toNat ≤ iterations) (counted)
    : ∃ outcome s', resetEachDue cal iterations w now rows counted s = some (outcome, s') := by
  induction rows generalizing counted s with
  | nil => exact ⟨_, _, rfl⟩
  | cons row rest ih =>
    have onwards {s : Store} (intactRest : Intact now s rest) (counted : List ℤ) :=
      ih intactRest (fun a member => forward a (by simp [member]))
        (fun a member => enough a (by simp [member])) counted
    have stored := intact.stored row (by simp)
    have due := intact.due row (by simp)
    unfold resetEachDue
    cases found : w.plans row.planId with
    | error text => exact onwards intact.tail counted
    | ok plan =>
      have returns : resetLocked cal iterations w plan now row.id s
          ≠ .error .resetRunning := by
        unfold resetLocked resetDueSubscription
        by_cases read : w.lockRead row.id = true
        · obtain ⟨sub, reset⟩ := maybeReset_returns due
            (forward row (by simp) plan ⟨found, read⟩) (enough row (by simp))
          rw [if_pos read, stored]
          dsimp only
          rw [if_pos due, reset]
          cases w.faults row.id <;> simp [transaction]
        · rw [if_neg read]
          cases w.faults row.id <;> simp [transaction]
      dsimp only
      cases locked : resetLocked cal iterations w plan now row.id s with
      | error e =>
        rw [locked] at returns
        cases e with
        | resetRunning => exact absurd rfl returns
        | _ => exact ⟨_, _, rfl⟩
      | ok outcome =>
        obtain ⟨flag, s'⟩ := outcome
        rcases resetLocked_ok stored due locked with
          ⟨_, rfl, rfl⟩ | ⟨_, rfl, sub, reset, rfl⟩
        · exact onwards intact.tail counted
        · exact onwards (intact.saveSub (maybeReset_id reset)) _

/-- A pass over rows that are not renewable counts all of them and changes nothing, by induction
on the rows.
-/
theorem resetEachDue_stays (intact : Intact now s rows)
    (stays : ∀ row ∈ rows, w.faults row.id = none
      ∧ ∃ plan, w.Processes plan row ∧ ¬ Renewable cal plan now row) (counted)
    : resetEachDue cal iterations w now rows counted s
      = some (.ok (counted ++ rows.map UserSubscription.id), s) := by
  induction rows generalizing counted with
  | nil => simp [resetEachDue]
  | cons row rest ih =>
    obtain ⟨noFault, plan, ⟨found, read⟩, notRenewable⟩ := stays row (by simp)
    have stored := intact.stored row (by simp)
    have due := intact.due row (by simp)
    have unchanged : s.saveSub row = s := by rw [saveSub, save_eq_self stored]
    have locked : resetLocked cal iterations w plan now row.id s = .ok (true, s) := by
      unfold resetLocked resetDueSubscription
      rw [if_pos read, noFault, stored]
      dsimp only [transaction]
      rw [if_pos due, maybeReset_of_not_due notRenewable (by omega)]
      dsimp only
      rw [unchanged]
      simp [due]
    unfold resetEachDue
    rw [found]
    dsimp only
    rw [locked]
    dsimp only
    rw [ih intact.tail (fun a member => stays a (by simp [member])), map_cons,
      append_assoc, singleton_append]

end Pass

def Store.ResetDueAt (s : Store) (now id : ℤ) : Prop :=
  ∃ sub, s.subs.get? id = some sub ∧ sub.resetDue now = true

variable {s' : Store}

theorem resetDue_progress {w counted}
    (passed : resetDueSubscriptions cal iterations w limit now s = some (.ok counted, s'))
    : (∀ id ∈ counted, ¬ s'.ResetDueAt now id)
      ↔ ∀ row ∈ s.resetBatch limit now, ∀ plan, w.Processes plan row
        → Renewable cal plan now row := by
  have intact := intact_resetBatch s limit now
  unfold resetDueSubscriptions at passed
  split at passed
  · cases passed
  obtain ⟨new, rfl, swept⟩ := resetEachDue_swept intact passed
  constructor
  · intro progress row inBatch plan processed
    obtain ⟨sub, reset, written⟩ := swept.writes row inBatch plan processed
    rcases maybeReset_due_cases (intact.due row inBatch) reset with
      ⟨_, rfl⟩ | ⟨renewable, _⟩
    · refine absurd ⟨sub, written, (mem_resetBatch inBatch).2⟩ (progress sub.id ?_)
      exact (swept.counts _).mpr ⟨sub, inBatch, rfl, plan, processed⟩
    · exact renewable
  · rintro renewable id isCounted ⟨sub', stored, due⟩
    obtain ⟨row, inBatch, rfl, plan, processed⟩ := (swept.counts id).mp isCounted
    obtain ⟨sub, reset, written⟩ := swept.writes row inBatch plan processed
    cases stored.symm.trans written
    rcases maybeReset_due_cases (intact.due row inBatch) reset with
      ⟨stays, _⟩ | ⟨_, notDue, _⟩
    · exact stays (renewable row inBatch plan processed)
    · exact notDue (of_decide_eq_true due).2

variable {r : MaintenanceReads}

/-- The second loop of a run, begun in `s`, comes to each pass with rows that are ready, no
later than `horizon`.
-/
def MaintenanceReads.ReadyUntil (r : MaintenanceReads) (cal : Calendar) (horizon : ℤ) (s : Store)
    : Prop :=
  ∀ iterations k s', BeforePass (r.sweepPass cal iterations) subscriptionResetBatchSize s k s'
    → r.sweepTime k ≤ horizon
      ∧ Ready cal (r.sweep k) (r.sweepTime k)
        (s'.resetBatch subscriptionResetBatchSize (r.sweepTime k))

theorem sweepLoop_ends {horizon passes} (ready : r.ReadyUntil cal horizon s)
    (enough : s.timeLeft horizon ≤ iterations) (more : s.timeLeft horizon < passes)
    : ∃ outcome s', batchLoop (r.sweepPass cal iterations) subscriptionResetBatchSize passes 0 s
      = some (outcome, s') := by
  refine batchLoop_ends (fun s => s.timeLeft horizon)
    (fun k s' => BeforePass (r.sweepPass cal iterations) subscriptionResetBatchSize s k s'
      ∧ s'.timeLeft horizon ≤ iterations) ?_ ?_ ⟨.first, enough⟩ more
  · rintro k s' ⟨before, within⟩
    obtain ⟨inTime, readyThere⟩ := ready iterations k s' before
    have intact := intact_resetBatch s' subscriptionResetBatchSize (r.sweepTime k)
    have enoughThere : ∀ row ∈ s'.resetBatch subscriptionResetBatchSize (r.sweepTime k),
        (r.sweepTime k - row.resetBase).toNat ≤ iterations := by
      intro row member
      have left : (horizon - row.resetBase).toNat ≤ s'.timeLeft horizon :=
        single_le_sum (fun _ _ => Nat.zero_le _) _ (mem_map.mpr
          ⟨row, (get?_eq_some.mp (intact.stored row member)).1, rfl⟩)
      omega
    obtain ⟨outcome, s'', returned⟩ := resetEachDue_returns intact
      (fun row member plan processed => (readyThere row member plan processed).2)
      enoughThere []
    unfold MaintenanceReads.sweepPass resetDueSubscriptions
    split
    · exact ⟨_, _, rfl⟩
    · rw [returned]
      exact ⟨_, _, rfl⟩
  · rintro k s' s'' ⟨before, within⟩ full
    have next := BeforePass.later before full
    obtain ⟨inTime, readyThere⟩ := ready iterations k s' before
    obtain ⟨n, passed, some, _⟩ := full
    unfold MaintenanceReads.sweepPass resetDueSubscriptions at passed
    split at passed
    · cases passed
    obtain ⟨⟨_ | counted, _⟩, done, ⟨⟩⟩ := Option.map_eq_some_iff.mp passed
    have lower := resetEachDue_timeLeft inTime (intact_resetBatch s' _ _) readyThere done
    rw [length_nil] at lower
    exact ⟨⟨next, by omega⟩, by omega⟩

/-- A reset pass makes progress, so that no subscription it counts is still due, exactly if
each row it processes is renewable by its plan as it is now. The maintenance task ends if, in
each pass up to some time, the rows are renewable and their resets move forward; its loop over
ended subscriptions always does.
-/
theorem maintenance_progress_iff (cal : Calendar) (r : MaintenanceReads) (s : Store)
    : (∀ {iterations w limit now s s' counted},
        resetDueSubscriptions cal iterations w limit now s = some (.ok counted, s')
        → ((∀ id ∈ counted, ¬ s'.ResetDueAt now id)
          ↔ ∀ row ∈ s.resetBatch limit now, ∀ plan, w.Processes plan row
            → Renewable cal plan now row))
      ∧ ∃ outcome expired, (∃ passes, batchLoop r.expiryPass subscriptionResetBatchSize passes 0 s
          = some (outcome, expired))
        ∧ ∀ horizon, r.ReadyUntil cal horizon expired
          → ∃ enough, ∀ iterations, enough ≤ iterations
            → ∃ passes s', runSubscriptionQuotaResetOnce cal iterations r passes s = some s' := by
  refine ⟨resetDue_progress, ?_⟩
  obtain ⟨outcome, expired, ended⟩ := expiryLoop_ends r s
  refine ⟨outcome, expired, ⟨_, ended⟩, fun horizon ready => ?_⟩
  refine ⟨expired.timeLeft horizon, fun iterations enough => ?_⟩
  let passes := max (s.activeCount + 1) (expired.timeLeft horizon + 1)
  obtain ⟨result, s', swept⟩ : ∃ result s', batchLoop (r.sweepPass cal iterations)
      subscriptionResetBatchSize passes 0 expired = some (result, s') :=
    sweepLoop_ends ready enough (by omega)
  refine ⟨passes, ?_⟩
  have first := batchLoop_mono ended (le_max_left _ _ : _ ≤ passes)
  unfold runSubscriptionQuotaResetOnce
  split
  · exact ⟨s, rfl⟩
  · rw [first]
    cases outcome with
    | error e => exact ⟨expired, rfl⟩
    | ok done =>
      dsimp only
      rw [swept]
      exact ⟨s', rfl⟩

def dueSubscription (id : ℤ) : UserSubscription :=
  { id := id, userId := 1, planId := 1, amountTotal := 100, amountUsed := 50,
    startTime := 1690000000, endTime := 1800000000, status := .active,
    lastResetTime := 1699900000, nextResetTime := 1700000000, upgradeGroup := "",
    prevUserGroup := "", downgradeGroup := "" }

def fullBatch : Store where
  subs := ⟨(range 300).map fun i : ℕ => dueSubscription i, pairwise_map.mpr
    (nodup_range.imp fun differ same => differ (Int.ofNat.inj same))⟩
  records := Table.empty
  groups _ := some "default"

theorem mem_fullBatch (member : row ∈ fullBatch.subs.rows) : ∃ id, row = dueSubscription id := by
  obtain ⟨i, _, rfl⟩ := mem_map.mp member
  exact ⟨i, rfl⟩

def undisturbed (plan : SubscriptionPlan) : MaintenanceReads where
  running := false
  expiryTime _ := 1700000001
  expiry _ := ⟨none, fun _ => ⟨true, true, none⟩⟩
  sweepTime _ := 1700000001
  sweep _ := ⟨none, fun _ => .ok plan, fun _ => true, fun _ => none⟩

/-- A run that ends: the reset a day after the last one is passed, the next one is not due. -/
example : (runSubscriptionQuotaResetOnce (zoneCalendar santiago) 2
      (undisturbed (resetEvery .custom 86400).toSubscriptionPlan) 1
      { fullBatch with subs := ⟨[dueSubscription 1], pairwise_singleton _ _⟩ }).map
      (fun s => s.subs.rows.map fun sub => (sub.amountUsed, sub.nextResetTime))
    = some [(0, 1700072800)] := by
  decide +kernel

theorem resetDue_fullBatch {plan}
    (never : normalizeResetPeriod plan.quotaResetPeriod = .never) (cal)
    (iterations k)
    : ∃ counted, resetDueSubscriptions cal iterations ((undisturbed plan).sweep k)
        subscriptionResetBatchSize 1700000001 fullBatch = some (.ok counted, fullBatch)
      ∧ counted.length = 300 ∧ ∀ id ∈ counted, fullBatch.ResetDueAt 1700000001 id := by
  have intact := intact_resetBatch fullBatch subscriptionResetBatchSize 1700000001
  have all : fullBatch.subs.rows.filter (·.resetDue 1700000001) = fullBatch.subs.rows := by
    refine filter_eq_self.mpr fun row member => ?_
    obtain ⟨id, rfl⟩ := mem_fullBatch member
    simp [UserSubscription.resetDue, dueSubscription]
  have size : (fullBatch.resetBatch subscriptionResetBatchSize 1700000001).length = 300 := by
    rw [resetBatch, all, length_take, length_insertionSort]
    simp [batchLimit, subscriptionResetBatchSize, fullBatch]
  have stays : ∀ row, ¬ Renewable cal plan 1700000001 row := by
    rintro row ⟨positive, _⟩
    rw [calcNextResetTime_never never] at positive
    exact lt_irrefl _ positive
  refine ⟨(fullBatch.resetBatch subscriptionResetBatchSize 1700000001).map UserSubscription.id,
    ?_, ?_, ?_⟩
  · have queried : ((undisturbed plan).sweep k).queryFault = none := rfl
    unfold resetDueSubscriptions
    rw [queried]
    rw [resetEachDue_stays intact fun row _ => ⟨rfl, plan, ⟨rfl, rfl⟩, stays row⟩, nil_append]
  · rw [length_map, size]
  · intro id isCounted
    obtain ⟨row, inBatch, rfl⟩ := mem_map.mp isCounted
    exact ⟨row, intact.stored row inBatch, (mem_resetBatch inBatch).2⟩

theorem maintenance_runs {cal} (r : MaintenanceReads) (idle : r.running = false)
    (noneEnded : ∀ k, r.expiryPass k s = some (.ok 0, s))
    (stays : ∀ k, ∃ counted, resetDueSubscriptions cal iterations (r.sweep k)
        subscriptionResetBatchSize (r.sweepTime k) s = some (.ok counted, s)
      ∧ counted.length = 300) (passes)
    : runSubscriptionQuotaResetOnce cal iterations r passes s = none := by
  have runs (passes : ℕ) : batchLoop (r.sweepPass cal iterations) subscriptionResetBatchSize
      passes 0 s = none := by
    refine batchLoop_runs (fun _ s' => s' = s) ?_ rfl passes
    rintro k _ rfl
    obtain ⟨counted, passed, size⟩ := stays k
    refine ⟨_, ⟨counted.length, ?_, by omega, size.ge⟩, rfl⟩
    exact congrArg (Option.map _) passed
  unfold runSubscriptionQuotaResetOnce
  rw [idle, if_neg (by decide)]
  cases passes with
  | zero => rfl
  | succ left =>
    rw [batchLoop, noneEnded]
    dsimp only
    rw [if_pos rfl]
    dsimp only
    rw [runs]

/-- The task never ends after the plan of a full batch of due subscriptions was edited to have no
resets: they stay due.
-/
theorem maintenance_never_ends
    : ∃ plan : PricedPlan, plan.Accepted ∧ plan.quotaResetPeriod = "never"
      ∧ ∀ cal iterations,
        (∃ counted, resetDueSubscriptions cal iterations
            ((undisturbed plan.toSubscriptionPlan).sweep 0) subscriptionResetBatchSize 1700000001
            fullBatch = some (.ok counted, fullBatch)
          ∧ counted.length = 300 ∧ ∀ id ∈ counted, fullBatch.ResetDueAt 1700000001 id)
        ∧ ∀ passes, runSubscriptionQuotaResetOnce cal iterations
            (undisturbed plan.toSubscriptionPlan) passes fullBatch = none := by
  have accepted : (resetEvery .never 0).Accepted :=
    ⟨fun _ => true, 1, resetEvery .never 0, .inl rfl⟩
  have never : normalizeResetPeriod (resetEvery .never 0).quotaResetPeriod = .never := by decide
  refine ⟨_, accepted, rfl, fun cal iterations => ?_⟩
  refine ⟨resetDue_fullBatch never cal iterations 0, ?_⟩
  have live : fullBatch.subs.rows.filter (·.ended 1700000001) = [] := by
    refine filter_eq_nil_iff.mpr fun row member => ?_
    obtain ⟨id, rfl⟩ := mem_fullBatch member
    simp [UserSubscription.ended, dueSubscription]
  have empty : fullBatch.expiryBatch subscriptionResetBatchSize 1700000001 = [] := by
    simp [expiryBatch, live]
  refine maintenance_runs _ rfl (fun k => ?_) ?_
  · change some (expireDueSubscriptions _ _ 1700000001 _) = _
    dsimp only [expireDueSubscriptions, undisturbed]
    rw [empty]
    rfl
  intro k
  obtain ⟨counted, passed, size, _⟩ := resetDue_fullBatch never cal iterations k
  exact ⟨counted, passed, size⟩

end HelsterApi.Subscriptions
