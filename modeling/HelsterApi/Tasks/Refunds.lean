import HelsterApi.Tasks.RefundCell

/-! When a failed task has its quota refunded exactly once. -/

namespace HelsterApi.Tasks

open Billing Transition PollingSystem

theorem pollingMachine_simulates_refunds (platform charged)
    : (pollingMachine platform charged).Simulates (RefundSafe charged)
        (Cell.machine (RefundPolicy charged)) (PollingSystem.Accounts platform charged) where
  initial := by
    rintro s ⟨unfinished, on, quota, idle, _, _, noRefunds⟩
    have nothing : ∀ {β : Type} (of : Pass → List β) pass, s.dues of pass = [] :=
      fun of pass => dues_of_none (by rw [idle])
    refine ⟨⟨none, [], []⟩, rfl, on, ?_, fun _ => quota, ?_, fun _ _ => rfl, ?_, ?_, ?_,
      owes_nil_iff.mpr (nothing _), noRefunds.symm⟩
    · intro pass p found
      simp [idle] at found
    · intro pass due
      exact absurd (nothing _ pass) due
    · intro pass task member
      simp [nothing] at member
    · intro pass pass' due
      exact absurd (nothing _ pass) due
    · intro _ failure
      exact absurd (.inr failure) unfinished.2
  step := by
    intro s action s' c reached accounts allowed moved
    have sound := Cell.sound_of_reaches reached
    cases next_turn moved with
    | load pass idle unfinished => exact ⟨c, .refl, accounts.load idle unfinished⟩
    | loadTimedOut pass cutoff idle timedOut => exact ⟨c, .refl, accounts.load idle timedOut.1⟩
    | sweep pass minutes now ok task found =>
      exact accounts.sweep sound minutes now ok found (allowed.1 _ found) allowed.2
    | poll pass proxyURL now ok response task found video =>
      have open_ := allowed _ found
      obtain ⟨keeps, outcome⟩ := updateVideoTask_cases proxyURL now ok response s.row open_
      obtain rfl := (accounts.passes pass _ found).on.symm.trans video
      exact accounts.poll sound found open_ keeps outcome
    | pollSuno pass item task found suno =>
      obtain rfl := (accounts.passes pass _ found).on.symm.trans suno
      exact accounts.pollSuno sound item found allowed.1 allowed.2
    | bill pass w q task kind bill rest found =>
      cases bill with
      | refund => exact accounts.refund sound w q found (allowed _ found rfl)
      | settle => exact ⟨c, .refl, accounts.settle w q found⟩
    | save pass ok task kind found =>
      obtain rfl : ok = true := allowed
      exact ⟨c, .refl, accounts.save found⟩
    | failUnreachable pass failReason ok task found =>
      exact ⟨c, .refl, accounts.failUnreachable failReason found allowed⟩
    | finish pass task kind found => exact ⟨c, .refl, accounts.drop found⟩
    | others ledger =>
      exact ⟨c, .refl, accounts.on, accounts.passes, accounts.quota, accounts.settling,
        accounts.undecided, accounts.updating, accounts.alone, accounts.failed,
        accounts.owed, accounts.performed⟩

/-- The task was refunded at most once, and a failed one with no refund due was refunded what it was
charged.
-/
structure PollingSystem.RefundedOnce (charged : ℤ) (s : PollingSystem) : Prop where
  atMostOnce : s.refunds.length ≤ 1
  refunded : charged ≠ 0 → s.row.status = .failure
    → (∀ pass p, s.passes pass = some p → .bill .refund ∉ p.due)
    → s.refunds.map Prod.snd = [charged]

/-- In every run of passes and sweeps whose steps are safe a failed task is refunded exactly
once.
-/
theorem failed_task_refundedOnce {platform charged s}
    (reached : (pollingMachine platform charged).Reaches (RefundSafe charged) s)
    : s.RefundedOnce charged := by
  obtain ⟨c, reachedCell, accounts⟩ :=
    (pollingMachine_simulates_refunds platform charged).reaches reached
  have sound := Cell.sound_of_reaches reachedCell
  refine ⟨?_, fun charged_ failure noneDue => ?_⟩
  · rw [← accounts.performed]
    exact Nat.le_trans (Nat.le_add_right ..) (sound.short fun _ _ => RefundPolicy.short)
  · have policy := sound.decided true (accounts.failed charged_ failure)
    have nothing : c.owed = [] := by
      refine accounts.owed.eq_nil (dues_eq_nil_iff.mpr fun pass p found => ?_)
      exact Pass.dueRefunds_of_not_mem (noneDue pass p found)
    rwa [RefundPolicy, nothing, List.append_nil, if_pos ⟨rfl, charged_⟩,
      accounts.performed] at policy

def failedPoll : List PollingAction :=
  [.load 0, .poll 0 "" 0 true (.result { status := .failure } .notJson), .bill 0 .done ⟨0, 0, none⟩]

/-- Witness: a task that a poll finds failed is refunded once. -/
theorem failedPoll_refundedOnce
    : ((pollingMachine .video 100).play videoSystem failedPoll).refunds = [(0, 100)]
      ∧ ((pollingMachine .video 100).play videoSystem failedPoll).RefundedOnce 100 := by
  refine ⟨by decide +kernel, failed_task_refundedOnce
    (Machine.reaches_play videoSystem_initial ?_)⟩
  refine ⟨trivial, by decide +kernel, ?_, by decide +kernel, ?_, by decide +kernel, trivial⟩
  · show ∀ p ∈ _, ¬TaskStatus.Ended _
    decide +kernel
  · show ∀ p ∈ _, _ → _
    decide +kernel

def missingChannel : List PollingAction := [.load 0, .failUnreachable 0 (some "") true]

def sunoSystem : PollingSystem where
  row := { platform := .suno, status := .inProgress, progress := "30%", quota := 100 }
  passes := fun _ => none
  ledger := ⟨0, 0, 0, fun _ => none, fun _ => none⟩

def twoSunoPolls : List PollingAction :=
  [.load 0, .load 1, .pollSuno 0 ⟨.failure, "error", 0, 0, 0, ""⟩,
    .pollSuno 1 ⟨.failure, "error", 0, 0, 0, ""⟩, .bill 0 .done ⟨0, 0, none⟩,
    .bill 1 .done ⟨0, 0, none⟩, .save 0 true, .save 1 true]

/-- A task whose channel is missing is failed and never refunded, and a Suno task that two passes
find failed is refunded by both.
-/
theorem failed_tasks_refunded_never_or_twice
    : ((pollingMachine .video 100).Reaches anyStep
          ((pollingMachine .video 100).play videoSystem missingChannel)
        ∧ ((pollingMachine .video 100).play videoSystem missingChannel).row.status = .failure
        ∧ ((pollingMachine .video 100).play videoSystem missingChannel).refunds = []
        ∧ ¬((pollingMachine .video 100).play videoSystem missingChannel).RefundedOnce 100)
      ∧ (pollingMachine .suno 100).Reaches anyStep
          ((pollingMachine .suno 100).play sunoSystem twoSunoPolls)
        ∧ ((pollingMachine .suno 100).play sunoSystem twoSunoPolls).row.status = .failure
        ∧ ((pollingMachine .suno 100).play sunoSystem twoSunoPolls).refunds
          = [(0, 100), (1, 100)] := by
  have failure : ((pollingMachine .video 100).play videoSystem missingChannel).row.status
      = .failure := by decide +kernel
  have noRefund : ((pollingMachine .video 100).play videoSystem missingChannel).refunds = [] := by
    decide +kernel
  refine ⟨⟨Machine.reaches_play videoSystem_initial (by decide +kernel), failure, noRefund,
    fun once => ?_⟩, Machine.reaches_play ⟨by decide, rfl, rfl, rfl, rfl, rfl, rfl⟩
      (by decide +kernel), by decide +kernel, by decide +kernel⟩
  have idle : ∀ pass, ((pollingMachine .video 100).play videoSystem missingChannel).passes pass
      = none := by
    intro pass
    cases pass <;> rfl
  have refunded := once.refunded (by decide) failure fun pass p found => by
    simp [idle] at found
  simp [noRefund] at refunded

end HelsterApi.Tasks
