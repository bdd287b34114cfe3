import HelsterApi.Streaming.Relay

/-! What a statement of a streaming request can do, in few shapes, and where goroutines can be
meanwhile.
-/

namespace HelsterApi.Streaming

open Bool Function Option Phase

namespace StreamState

/-- A step left the client, the phase and the attempts alone, a goroutine not past a write may have
left its call, and one that has stopped is in none.
-/
structure Kept (s s' : StreamState) : Prop where
  down : s'.down = s.down
  phase : s'.phase = s.phase
  attempts : s'.attempts = s.attempts
  failed : s'.failed = s.failed
  stages : ∀ worker, s'.stages worker = s.stages worker
    ∨ s'.stages worker = .idle ∧ ∀ helper, s.stages worker ≠ .flushing helper
  handler : s'.handlerRuns → s.handlerRuns
  ping : s'.pingRuns → s.pingRuns ∨ s.phase = .attempting
  exits : ∀ worker, s.active worker → s'.active worker = false → s'.stages worker = .idle

inductive Turn (s s' : StreamState) : Prop where
  | internal (kept : s.Kept s')
  | disconnects (moved : s' = { s with down := { s.down with alive := false } })
  | starts (worker : Worker) (helper : Helper)
      (main : worker = .main
        → helper ≠ .pingData ∧ (s.phase = .attempting ∨ s.phase = .finishing))
      (active : s.active worker) (idle : s.stages worker = .idle)
      (moved : s' = s.put worker (.start helper))
  | advances (worker : Worker) (d : Downstream) (stage : Stage) (busy : s.stages worker ≠ .idle)
      (advanced : Stage.Advances s.down s.source (s.stages worker) d stage)
      (moved : s' = { s.put worker stage with down := d })
  | selects (selection : Selection) (at_ : s.phase = .selecting) (moved : s' = s.select selection)
  | enters (at_ : s.phase = .attempting) (idle : s.stages .main = .idle)
      (ping : s.pingRuns = false) (phase : s'.phase = .streaming) (down : s'.down = s.down)
      (attempts : s'.attempts = s.attempts) (failed : s'.failed = s.failed)
      (stages : s'.stages = s.stages)
  | joins (at_ : s.phase = .streaming) (handler : s.handlerRuns = false)
      (ping : s.pingRuns = false) (moved : s' = { s with phase := .judging })
  | judges (at_ : s.phase = .judging)
      (moved : s' = { s with
        phase := .finishing
        down := { s.down with
          suppressSemantic := s.down.suppressSemantic || s.failedBeforeOutput }
        failed := if s.failedBeforeOutput then s.attempts :: s.failed else s.failed })
  | finishes (error checks retry : Bool) (at_ : s.phase = .attempting ∨ s.phase = .finishing)
      (idle : s.stages .main = .idle) (ping : s.pingRuns = false)
      (moved : s' = s.finish error checks retry)
  | reports (format : RelayFormat) (at_ : s.phase = .failing) (moved : s' = s.report format)
  | continues (helper : Helper) (rest : List Helper) (at_ : s.phase = .reporting (helper :: rest))
      (idle : s.stages .main = .idle)
      (moved : s' = { s.put .main (.start helper) with phase := .reporting rest })
  | closes (rest : List Helper) (at_ : s.phase = .reporting rest) (idle : s.stages .main = .idle)
      (moved : s' = { s with phase := .ended })

variable {s s' : StreamState}

/-- A step that changes nothing a client or another goroutine sees. -/
theorem Kept.of_same (down : s'.down = s.down) (phase : s'.phase = s.phase)
    (attempts : s'.attempts = s.attempts) (failed : s'.failed = s.failed)
    (stages : s'.stages = s.stages) (handler : s'.handlerRuns = s.handlerRuns)
    (ping : s'.pingRuns = s.pingRuns)
    : s.Kept s' where
  down := down
  phase := phase
  attempts := attempts
  failed := failed
  stages worker := .inl (congrFun stages worker)
  handler runs := handler ▸ runs
  ping runs := .inl (ping ▸ runs)
  exits worker active stopped := by
    have same : s'.active worker = s.active worker := by
      cases worker with
      | main => exact congrArg calls phase
      | handler => exact handler
      | ping => exact ping
    simp [same, active] at stopped

/-- A goroutine that leaves its call before the write, and stops if it is not the main one. -/
theorem Kept.of_exit (worker) (down : s'.down = s.down)
    (phase : s'.phase = s.phase) (attempts : s'.attempts = s.attempts)
    (failed : s'.failed = s.failed) (stages : s'.stages = update s.stages worker .idle)
    (unwritten : ∀ helper, s.stages worker ≠ .flushing helper)
    (handler : s'.handlerRuns = (s.handlerRuns && worker ≠ .handler))
    (ping : s'.pingRuns = (s.pingRuns && worker ≠ .ping))
    : s.Kept s' where
  down := down
  phase := phase
  attempts := attempts
  failed := failed
  stages other := by
    rw [stages]
    by_cases same : other = worker
    · subst same
      exact .inr ⟨update_self .., unwritten⟩
    · exact .inl (update_of_ne same ..)
  handler runs := by
    rw [handler] at runs
    exact (and_eq_true_iff.mp runs).1
  ping runs := by
    rw [ping] at runs
    exact .inl (and_eq_true_iff.mp runs).1
  exits other active stopped := by
    rw [stages]
    by_cases same : other = worker
    · subst same
      exact update_self ..
    · have kept : s'.active other = s.active other := by
        cases other with
        | main => exact congrArg calls phase
        | handler =>
          have same : s'.handlerRuns = s.handlerRuns := by simpa [Ne.symm same] using handler
          exact same
        | ping =>
          have same : s'.pingRuns = s.pingRuns := by simpa [Ne.symm same] using ping
          exact same
      simp [kept, active] at stopped

variable {worker : Worker}

/-- A goroutine in no call leaves none. -/
theorem update_idle {stages : Worker → Stage} (idle : stages worker = .idle)
    : stages = update stages worker .idle := by
  rw [← idle, update_eq_self]

/-- Every statement has one of the shapes, by cases on the action. -/
theorem next_turn {action} (moved : s.next action = some s') : s.Turn s' := by
  cases action with
    simp only [next, ite_none_right_eq_some, some.injEq] at moved
  | disconnect =>
    cases moved
    exact .disconnects rfl
  | select selection =>
    obtain ⟨at_, rfl⟩ := moved
    exact .selects selection at_ rfl
  | startPing =>
    obtain ⟨⟨at_, _⟩, rfl⟩ := moved
    refine .internal ⟨rfl, rfl, rfl, rfl, fun _ => .inl rfl, id, fun _ => .inr at_, ?_⟩
    intro worker active stopped
    cases worker with
    | main | handler => exact absurd (active.symm.trans stopped) (by decide)
    | ping => cases stopped
  | startScanner pingEnabled =>
    obtain ⟨⟨at_, idle, ping⟩, rfl⟩ := moved
    exact .enters at_ idle ping rfl rfl rfl rfl rfl
  | scan _ | scanDone | scanEnd _ | scanStop | stopItem _ | completeItem | scanPanic | timeout
    | clientGone | wake =>
      obtain ⟨_, rfl⟩ := moved
      exact .internal (.of_same rfl rfl rfl rfl rfl rfl rfl)
  | take =>
    split at moved
    · cases moved
    obtain ⟨_, ⟨⟩⟩ := ite_none_right_eq_some.mp moved
    exact .internal (.of_same rfl rfl rfl rfl rfl rfl rfl)
  | finishItem =>
    obtain ⟨⟨_, idle⟩, moved⟩ := moved
    split at moved <;> cases moved
    · exact .internal (.of_exit .handler rfl rfl rfl rfl (update_idle idle) (by simp [idle])
        (by simp) (by simp))
    · exact .internal (.of_same rfl rfl rfl rfl rfl rfl rfl)
  | handlerExit =>
    obtain ⟨⟨_, _, idle, _⟩, rfl⟩ := moved
    exact .internal (.of_exit .handler rfl rfl rfl rfl (update_idle idle) (by simp [idle])
      (by simp) (by simp))
  | pingExit failed =>
    obtain ⟨⟨_, idle⟩, rfl⟩ := moved
    cases failed <;> exact .internal (.of_exit .ping rfl rfl rfl rfl (update_idle idle)
      (by simp [idle]) (by simp [endWith]) (by simp))
  | panic worker =>
    split at moved
    · cases moved
    · cases moved
    next unwritten =>
      obtain ⟨_, ⟨⟩⟩ := ite_none_right_eq_some.mp moved
      exact .internal (.of_exit .handler rfl rfl rfl rfl rfl
        (fun helper flushing => unwritten helper flushing) (by simp)
        (by simp [endWith, put]))
    next unwritten =>
      obtain ⟨_, ⟨⟩⟩ := ite_none_right_eq_some.mp moved
      exact .internal (.of_exit .ping rfl rfl rfl rfl rfl
        (fun helper flushing => unwritten helper flushing)
        (by simp [endWith, put]) (by simp))
  | join =>
    obtain ⟨⟨at_, _, _, handler, ping⟩, rfl⟩ := moved
    exact .joins at_ handler ping rfl
  | judge =>
    obtain ⟨at_, rfl⟩ := moved
    exact .judges at_ rfl
  | call worker helper =>
    obtain ⟨⟨may, idle⟩, rfl⟩ := moved
    cases worker with
    | main =>
      simp only [and_eq_true, decide_eq_true_eq, or_eq_true] at may
      obtain ⟨notPing, at_⟩ := may
      refine .starts .main helper (fun _ => ⟨notPing, at_⟩) ?_ idle rfl
      rcases at_ with at_ | at_ <;> exact congrArg calls at_
    | handler =>
      simp only [and_eq_true] at may
      exact .starts .handler helper nofun may.1.2 idle rfl
    | ping =>
      simp only [and_eq_true] at may
      exact .starts .ping helper nofun may.2 idle rfl
  | advance worker succeeds =>
    obtain ⟨⟨d, stage⟩, advanced, rfl⟩ := map_eq_some_iff.mp moved
    refine .advances worker d stage ?_ (Stage.advance_advances advanced) rfl
    intro idle
    rw [idle] at advanced
    cases advanced
  | finish error checks retry =>
    obtain ⟨⟨at_, idle, ping⟩, rfl⟩ := moved
    exact .finishes error checks retry at_ idle ping rfl
  | report format =>
    obtain ⟨at_, rfl⟩ := moved
    exact .reports format at_ rfl
  | reportNext goOn =>
    split at moved
    next rest at_ =>
      split at moved
      next idle =>
        split at moved <;> cases moved
        · exact .continues _ _ at_ idle rfl
        · exact .closes rest at_ idle rfl
      · cases moved
    · cases moved

/-- No goroutine moved, nothing was written or marked, and the client is there or gone as before. -/
structure Calm (s s' : StreamState) : Prop where
  stages : s'.stages = s.stages
  handler : s'.handlerRuns = s.handlerRuns
  ping : s'.pingRuns = s.pingRuns
  alive : s'.down.alive = s.down.alive
  semantic : s'.down.semanticWritten = s.down.semanticWritten
  terminal : s'.down.terminalWritten = s.down.terminalWritten
  written : s'.down.written = s.down.written

/-- The top of the retry loop starts an attempt on a further channel, or not. -/
structure Selected (s s' : StreamState) : Prop where
  calm : s.Calm s'
  failed : s'.failed = s.failed
  moved : s'.phase = .attempting ∧ s'.attempts = s.attempts + 1
    ∨ (s'.phase = .selecting ∨ s'.phase = .failing ∨ s'.phase = .ended)
      ∧ s'.attempts = s.attempts

/-- What the choice of a channel can do. -/
theorem select_selected (s : StreamState) (selection) : s.Selected (s.select selection) := by
  unfold select
  split
  · cases selection with
    | error => exact ⟨⟨rfl, rfl, rfl, rfl, rfl, rfl, rfl⟩, rfl, .inr ⟨.inr (.inl rfl), rfl⟩⟩
    | limited again =>
      refine ⟨⟨rfl, rfl, rfl, rfl, rfl, rfl, rfl⟩, rfl, .inr ⟨?_, rfl⟩⟩
      cases again with
      | true => exact .inl rfl
      | false => exact .inr (.inl rfl)
    | acquired => exact ⟨⟨rfl, rfl, rfl, rfl, rfl, rfl, rfl⟩, rfl, .inl ⟨rfl, rfl⟩⟩
  · refine ⟨⟨rfl, rfl, rfl, rfl, rfl, rfl, rfl⟩, rfl, .inr ⟨.inr ?_, rfl⟩⟩
    cases s.lastError with
    | true => exact .inl rfl
    | false => exact .inr rfl

/-- The end of an attempt goes back to the top of the loop if nothing semantic was written, or
leaves it; and judges the attempt failed before output.
-/
structure Finished (s s' : StreamState) : Prop where
  calm : s.Calm s'
  attempts : s'.attempts = s.attempts
  failed : s'.failed = s.failed
    ∨ s.down.semanticWritten = false ∧ s'.failed = s.attempts :: s.failed
  moved : s'.phase = .selecting ∧ s.down.semanticWritten = false
    ∨ s'.phase = .failing ∨ s'.phase = .ended

/-- A stream that counts as failed before output has written nothing of substance. -/
theorem unwritten_of_failedBeforeOutput (failed : s.failedBeforeOutput = true)
    : s.down.semanticWritten = false := by
  unfold failedBeforeOutput at failed
  split at failed
  · cases failed
  simp only [and_eq_true, not_eq_true'] at failed
  exact failed.1

/-- What the end of an attempt can do. -/
theorem finish_finished (s : StreamState) (error checks retry)
    : s.Finished (s.finish error checks retry) := by
  dsimp only [finish]
  split
  · refine ⟨⟨rfl, rfl, rfl, rfl, rfl, rfl, rfl⟩, rfl, ?_, ?_⟩ <;> dsimp only
    · split
      next judged =>
        simp only [and_eq_true] at judged
        exact .inr ⟨s.unwritten_of_failedBeforeOutput judged.2, rfl⟩
      · exact .inl rfl
    · split
      next again =>
        simp only [and_eq_true, not_eq_true'] at again
        exact .inl ⟨rfl, again.1.2⟩
      · exact .inr (.inl rfl)
  · exact ⟨⟨rfl, rfl, rfl, rfl, rfl, rfl, rfl⟩, rfl, .inl rfl, .inr (.inr rfl)⟩

/-- The deferred writer does nothing after a terminal event, sends the error as a plain body, or
starts a call that reports it in the stream.
-/
inductive Reported (s s' : StreamState) : Prop where
  | silent (terminal : s.down.terminalWritten) (moved : s' = { s with phase := .ended })
  | body (unended : s.down.terminalWritten = false)
      (moved : s' = { s with down := s.down.render ⟨.relay, .error⟩, phase := .ended })
  | event (unended : s.down.terminalWritten = false) (stage : Stage) (rest : List Helper)
      (first : ∃ helper, stage = .suppressCheck helper ∨ stage = .marking helper)
      (last : rest = [] ∨ rest = [.done])
      (moved : s' = { s.put .main stage with
        down := { s.down with suppressSemantic := false }
        phase := .reporting rest })

/-- What the report of an error can do. -/
theorem report_reported (s : StreamState) (format) : s.Reported (s.report format) := by
  unfold report
  split
  next terminal => exact .silent terminal rfl
  next notTerminal =>
    have unended := eq_false_iff.mpr notTerminal
    split
    · cases format with
      | claude => exact .event unended _ _ ⟨_, .inl rfl⟩ (.inl rfl) rfl
      | openAIResponses => exact .event unended _ _ ⟨_, .inr rfl⟩ (.inl rfl) rfl
      | other => exact .event unended _ _ ⟨_, .inl rfl⟩ (.inr rfl) rfl
    · exact .body unended rfl

structure Placed (s : StreamState) : Prop where
  idle : ∀ worker, s.active worker = false → s.stages worker = .idle
  handler : s.handlerRuns → s.phase = .streaming
  ping : s.pingRuns → s.phase = .attempting ∨ s.phase = .streaming

section

variable (placed : s.Placed)

include placed

/-- The handler runs during streaming only. -/
theorem Placed.handler_stopped (waits : s.phase ≠ .streaming) : s.handlerRuns = false := by
  cases runs : s.handlerRuns with
  | false => rfl
  | true => exact absurd (placed.handler runs) waits

/-- Outside of an attempt the main goroutine is alone. -/
theorem Placed.stopped (outside : s.phase ≠ .attempting ∧ s.phase ≠ .streaming)
    : s.handlerRuns = false ∧ s.pingRuns = false := by
  refine ⟨placed.handler_stopped outside.2, ?_⟩
  cases runs : s.pingRuns with
  | false => rfl
  | true =>
    rcases placed.ping runs with at_ | at_
    · exact absurd at_ outside.1
    · exact absurd at_ outside.2

/-- So whoever acts outside of an attempt is the main goroutine. -/
theorem Placed.eq_main
    (outside : s.phase ≠ .attempting ∧ s.phase ≠ .streaming) (active : s.active worker)
    : worker = .main := by
  obtain ⟨handler, ping⟩ := placed.stopped outside
  cases worker with
  | main => rfl
  | handler => exact absurd (active.symm.trans handler) (by decide)
  | ping => exact absurd (active.symm.trans ping) (by decide)

/-- No goroutine is in a call if the main one is not and the others have stopped. -/
theorem Placed.idle_of_stopped (stopped : s.handlerRuns = false ∧ s.pingRuns = false)
    (main : s.stages .main = .idle) (worker)
    : s.stages worker = .idle := by
  cases worker with
  | main => exact main
  | handler => exact placed.idle .handler stopped.1
  | ping => exact placed.idle .ping stopped.2

/-- A step of the main goroutine while it is alone keeps goroutines in their places. -/
theorem Placed.of_stopped (stopped : s.handlerRuns = false ∧ s.pingRuns = false)
    (handler : s'.handlerRuns = s.handlerRuns) (ping : s'.pingRuns = s.pingRuns)
    (others : ∀ worker, worker ≠ .main → s'.stages worker = s.stages worker)
    (main : s'.phase.calls = false → s'.stages .main = .idle)
    : s'.Placed where
  idle worker inactive := by
    cases worker with
    | main => exact main inactive
    | handler => exact (others .handler (by decide)).trans (placed.idle .handler stopped.1)
    | ping => exact (others .ping (by decide)).trans (placed.idle .ping stopped.2)
  handler runs := by
    simp [handler, stopped.1] at runs
  ping runs := by
    simp [ping, stopped.2] at runs

/-- Nobody is in a call in a phase that makes none, streaming apart. -/
theorem Placed.all_idle (calm : s.phase.calls = false)
    (waits : s.phase ≠ .streaming) (worker)
    : s.stages worker = .idle := by
  have outside : s.phase ≠ .attempting := by
    intro at_
    rw [at_] at calm
    cases calm
  exact placed.idle_of_stopped (placed.stopped ⟨outside, waits⟩) (placed.idle .main calm) worker

end

/-- A goroutine that goes on does not move the others. -/
theorem stages_put_of_ne (s : StreamState) {other} (stage) (different : other ≠ worker)
    : (s.put worker stage).stages other = s.stages other := by
  change update s.stages worker stage other = s.stages other
  rw [update_of_ne different]

/-- The goroutine that goes on is where it was put. -/
theorem stages_put_self (s : StreamState) (worker stage)
    : (s.put worker stage).stages worker = stage := by
  change update s.stages worker stage worker = stage
  rw [update_self]

/-- What is written for an attempt is not written for the report of an error. -/
theorem source_eq_attempt {k} (source : s.source = .attempt k)
    : s.attempts = k ∧ ∀ rest, s.phase ≠ .reporting rest := by
  unfold StreamState.source at source
  split at source
  · cases source
  rename_i notReporting
  cases source
  exact ⟨rfl, notReporting⟩

/-- The main goroutine acts during an attempt, its end or a report. -/
theorem finishing_of_active (active : s.active .main)
    (notReporting : ∀ rest, s.phase ≠ .reporting rest) (notAttempting : s.phase ≠ .attempting)
    : s.phase = .finishing := by
  change s.phase.calls = true at active
  cases phase : s.phase with
  | finishing => rfl
  | reporting rest => exact absurd phase (notReporting rest)
  | attempting => exact absurd phase notAttempting
  | selecting | streaming | judging | failing | ended =>
    rw [phase] at active
    cases active

variable (placed : s.Placed)

include placed

/-- A goroutine that may act may go on. -/
theorem Placed.put (active : s.active worker) (stage) : (s.put worker stage).Placed where
  idle other inactive := by
    have different : other ≠ worker := by
      rintro rfl
      exact absurd (active.symm.trans inactive) (by decide)
    rw [s.stages_put_of_ne stage different]
    exact placed.idle other inactive
  handler := placed.handler
  ping := placed.ping

/-- A goroutine in a call may act. -/
theorem Placed.active_of_busy (busy : s.stages worker ≠ .idle) : s.active worker := by
  cases active : s.active worker with
  | true => rfl
  | false => exact absurd (placed.idle worker active) busy

/-- A step without calls keeps goroutines in their places. -/
theorem Placed.of_calm (calm : s.Calm s')
    (stopped : s.handlerRuns = false ∧ s.pingRuns = false) (idle : s.stages .main = .idle)
    : s'.Placed :=
  placed.of_stopped stopped calm.handler calm.ping
    (fun worker _ => congrFun calm.stages worker)
    (fun _ => (congrFun calm.stages .main).trans idle)

/-- Each shape of step keeps goroutines in their places. -/
theorem Placed.turn (turn : s.Turn s') : s'.Placed := by
  cases turn with try subst moved
  | internal kept =>
    refine ⟨fun worker inactive => ?_, fun runs => ?_, fun runs => ?_⟩
    · cases active : s.active worker with
      | true => exact kept.exits worker active inactive
      | false =>
        rcases kept.stages worker with same | ⟨idle, _⟩
        · exact same.trans (placed.idle worker active)
        · exact idle
    · rw [kept.phase]
      exact placed.handler (kept.handler runs)
    · rw [kept.phase]
      rcases kept.ping runs with before | at_
      · exact placed.ping before
      · exact .inl at_
  | disconnects moved => exact ⟨placed.idle, placed.handler, placed.ping⟩
  | starts worker helper main active idle moved => exact placed.put active _
  | advances worker d stage busy advanced moved =>
    have put := placed.put (placed.active_of_busy busy) stage
    exact ⟨put.idle, put.handler, put.ping⟩
  | selects selection at_ moved =>
    have stopped := placed.stopped (by simp [at_])
    exact placed.of_calm (s.select_selected selection).calm stopped
      (placed.idle .main (congrArg calls at_))
  | enters at_ idle ping phase down attempts failed stages =>
    have handler := placed.handler_stopped (by simp [at_])
    refine ⟨fun worker _ => ?_, fun _ => phase, fun _ => .inr phase⟩
    rw [stages]
    exact placed.idle_of_stopped ⟨handler, ping⟩ idle worker
  | joins at_ handler ping moved =>
    exact placed.of_calm ⟨rfl, rfl, rfl, rfl, rfl, rfl, rfl⟩ ⟨handler, ping⟩
      (placed.idle .main (congrArg calls at_))
  | judges at_ moved =>
    exact placed.of_calm ⟨rfl, rfl, rfl, rfl, rfl, rfl, rfl⟩ (placed.stopped (by simp [at_]))
      (placed.idle .main (congrArg calls at_))
  | finishes error checks retry at_ idle ping moved =>
    have waits : s.phase ≠ .streaming := by
      intro streaming
      rw [streaming] at at_
      exact absurd at_ (by decide)
    have handler := placed.handler_stopped waits
    exact placed.of_calm (s.finish_finished error checks retry).calm ⟨handler, ping⟩ idle
  | reports format at_ moved =>
    have stopped := placed.stopped (by simp [at_])
    have idle := placed.idle .main (congrArg calls at_)
    cases s.report_reported format with rw [moved]
    | silent _ moved | body _ moved =>
      exact placed.of_stopped stopped rfl rfl (fun _ _ => rfl) (fun _ => idle)
    | event _ stage rest _ _ moved =>
      exact placed.of_stopped stopped rfl rfl
        (fun worker other => s.stages_put_of_ne stage other) nofun
  | continues helper rest at_ idle moved =>
    exact placed.of_stopped (placed.stopped (by simp [at_])) rfl rfl
      (fun worker other => s.stages_put_of_ne _ other) nofun
  | closes rest at_ idle moved =>
    exact placed.of_calm ⟨rfl, rfl, rfl, rfl, rfl, rfl, rfl⟩ (placed.stopped (by simp [at_])) idle

end StreamState

end HelsterApi.Streaming
