import HelsterApi.Streaming.Attribution

/-! What reaches the client of a streaming request comes from a single attempt, and an error
is reported only while the stream is open.
-/

namespace HelsterApi.Streaming

open List Transition

def AfterTerminal (earlier later : Written) : Prop := earlier.kind = .terminal → later.kind ≠ .error

namespace StreamState

/-- A terminal event is marked, about to be marked, or the last the client sees; an error is
reported only while none has reached the client; and no error event follows a terminal one.
-/
structure Closed (s : StreamState) : Prop where
  marked : ∀ w ∈ s.down.written, w.kind = .terminal
    → s.down.terminalWritten ∨ s.down.alive = false ∨ ∃ worker, s.stages worker = .flushing .done
  reporting : ∀ rest, s.phase = .reporting rest → (rest = [] ∨ rest = [.done])
    ∧ ∀ helper, (s.stages .main).helper? = some helper → helper ≠ .done → s.down.alive
      → ∀ w ∈ s.down.written, w.kind ≠ .terminal
  ordered : s.down.written.Pairwise AfterTerminal

variable {s s' : StreamState}

theorem Closed.of_calm (closed : s.Closed) (calm : s.Calm s')
    (elsewhere : ∀ rest, s'.phase ≠ .reporting rest)
    : s'.Closed where
  marked w member terminal := by
    rw [calm.terminal, calm.alive, calm.stages]
    rw [calm.written] at member
    exact closed.marked w member terminal
  reporting rest at_ := absurd at_ (elsewhere rest)
  ordered := by
    rw [calm.written]
    exact closed.ordered

theorem Closed.marked_put (closed : s.Closed) {worker} (idle : s.stages worker = .idle)
    (stage) {w} (member : w ∈ s.down.written) (terminal : w.kind = .terminal)
    : s.down.terminalWritten ∨ s.down.alive = false
      ∨ ∃ other, (s.put worker stage).stages other = .flushing .done := by
  rcases closed.marked w member terminal with marked | gone | ⟨other, flushing⟩
  · exact .inl marked
  · exact .inr (.inl gone)
  · have different : other ≠ worker := by
      rintro rfl
      simp [idle] at flushing
    exact .inr (.inr ⟨other, (s.stages_put_of_ne stage different).trans flushing⟩)

theorem pairwise_append_event {written event} (ordered : written.Pairwise AfterTerminal)
    (fits : event.kind = .error → ∀ w ∈ written, w.kind ≠ .terminal)
    : (written ++ [event]).Pairwise AfterTerminal := by
  refine pairwise_append.mpr ⟨ordered, pairwise_singleton _ _, ?_⟩
  intro w member later only terminal error
  cases mem_singleton.mp only
  exact fits error w member terminal

theorem Closed.advance (closed : s.Closed) (placed : s.Placed) (attributed : s.Attributed)
    {worker d stage} (busy : s.stages worker ≠ .idle)
    (advanced : Stage.Advances s.down s.source (s.stages worker) d stage)
    : Closed { s.put worker stage with down := d } := by
  have active := placed.active_of_busy busy
  -- while an error is reported only the goroutine of the request is in a call
  have onlyMain : ∀ rest, s.phase = .reporting rest → worker = .main := by
    intro rest at_
    exact placed.eq_main (by simp [at_]) active
  have oldMarked : ∀ w ∈ s.down.written, w.kind = .terminal → d.terminalWritten
      ∨ d.alive = false ∨ ∃ other, (s.put worker stage).stages other = .flushing .done := by
    intro w member terminal
    rcases closed.marked w member terminal with marked | gone | ⟨other, flushing⟩
    · exact .inl (advanced.grows.terminal marked)
    · exact .inr (.inl (advanced.grows.alive.trans gone))
    · by_cases same : other = worker
      · subst same
        cases alive : s.down.alive with
        | true => exact .inl (advanced.closes flushing alive)
        | false => exact .inr (.inl (advanced.grows.alive.trans alive))
      · exact .inr (.inr ⟨other, (s.stages_put_of_ne stage same).trans flushing⟩)
  rcases advanced.written with same | ⟨helper, rendering, flushing, alive, appended⟩
  · refine ⟨fun w member terminal => ?_, fun rest at_ => ?_, ?_⟩
    · exact oldMarked w (same ▸ member) terminal
    · cases onlyMain rest at_
      obtain ⟨last, unended⟩ := closed.reporting rest at_
      refine ⟨last, fun helper called notDone alive w member => ?_⟩
      rw [s.stages_put_self] at called
      exact unended helper (advanced.helper helper called) notDone
        (advanced.grows.alive.symm.trans alive) w (same ▸ member)
    · simpa [same] using closed.ordered
  · have calling : (s.stages worker).helper? = some helper := by rw [rendering]; rfl
    refine ⟨fun w member terminal => ?_, fun rest at_ => ?_, ?_⟩
    · change w ∈ d.written at member
      rw [appended] at member
      rcases mem_append.mp member with old | new
      · exact oldMarked w old terminal
      · cases mem_singleton.mp new
        rcases Helper.done_or_marksTerminal terminal with rfl | marks
        · exact .inr (.inr ⟨worker, (s.stages_put_self worker stage).trans flushing⟩)
        · have announced := attributed.announced worker
          rw [rendering] at announced
          have notPing : helper ≠ .pingData := by
            rintro rfl
            cases marks
          exact .inl (advanced.grows.terminal ((announced notPing).2 marks))
    · cases onlyMain rest at_
      obtain ⟨last, unended⟩ := closed.reporting rest at_
      refine ⟨last, fun other called notDone _ w member => ?_⟩
      rw [s.stages_put_self, flushing] at called
      cases called
      rw [appended] at member
      rcases mem_append.mp member with old | new
      · exact unended helper calling notDone alive w old
      · cases mem_singleton.mp new
        intro terminal
        have relay : s.source = .relay := by
          rw [source, show s.phase = _ from at_]
        rw [relay] at terminal
        exact notDone (Helper.done_of_relay_terminal terminal)
    · change d.written.Pairwise AfterTerminal
      rw [appended]
      refine pairwise_append_event closed.ordered fun error => ?_
      obtain ⟨relay, notDone⟩ := Helper.relay_of_kind_error error
      unfold source at relay
      split at relay
      next rest at_ =>
        cases onlyMain rest at_
        exact (closed.reporting rest at_).2 helper calling notDone alive
      · cases relay

theorem Closed.report (closed : s.Closed) (placed : s.Placed) (at_ : s.phase = .failing)
    (reported : s.Reported s')
    : s'.Closed := by
  have idle := placed.all_idle (congrArg Phase.calls at_) (by simp [at_])
  have unended : s.down.terminalWritten = false → s.down.alive
      → ∀ w ∈ s.down.written, w.kind ≠ .terminal := by
    intro unmarked alive w member terminal
    rcases closed.marked w member terminal with marked | gone | ⟨worker, flushing⟩
    · exact absurd (unmarked.symm.trans marked) (by decide)
    · exact absurd (alive.symm.trans gone) (by decide)
    · simp [idle worker] at flushing
  cases reported with subst moved
  | silent _ moved => exact closed.of_calm ⟨rfl, rfl, rfl, rfl, rfl, rfl, rfl⟩ (by simp)
  | body unmarked moved =>
    have grows := s.down.grows_render ⟨.relay, .error⟩
    refine ⟨fun w member terminal => ?_, (by simp), ?_⟩
    · have old := Downstream.mem_of_mem_render member (by rintro rfl; cases terminal)
      rcases closed.marked w old terminal with marked | gone | flushing
      · exact .inl (grows.terminal marked)
      · exact .inr (.inl (grows.alive.trans gone))
      · exact .inr (.inr flushing)
    · change (s.down.render ⟨.relay, .error⟩).written.Pairwise AfterTerminal
      unfold Downstream.render
      split
      next alive => exact pairwise_append_event closed.ordered fun _ => unended unmarked alive
      · exact closed.ordered
  | event unmarked stage rest first last moved =>
    refine ⟨fun w => closed.marked_put (idle .main) stage, fun rest' same => ?_, closed.ordered⟩
    · cases same
      exact ⟨last, fun _ _ _ alive => unended unmarked alive⟩

theorem Closed.turn (closed : s.Closed) (placed : s.Placed) (attributed : s.Attributed)
    (turn : s.Turn s')
    : s'.Closed := by
  cases turn with try subst moved
  | internal kept =>
    refine ⟨fun w member terminal => ?_, fun rest at_ => ?_, ?_⟩
    · rw [kept.down] at member ⊢
      rcases closed.marked w member terminal with marked | gone | ⟨worker, flushing⟩
      · exact .inl marked
      · exact .inr (.inl gone)
      · rcases kept.stages worker with same | ⟨_, unwritten⟩
        · exact .inr (.inr ⟨worker, same.trans flushing⟩)
        · exact absurd flushing (unwritten .done)
    · rw [kept.phase] at at_
      rw [kept.down]
      obtain ⟨last, unended⟩ := closed.reporting rest at_
      refine ⟨last, fun helper called => ?_⟩
      rcases kept.stages .main with same | ⟨idle, _⟩
      · rw [same] at called
        exact unended helper called
      · rw [idle] at called
        cases called
    · rw [kept.down]
      exact closed.ordered
  | disconnects moved =>
    refine ⟨fun w member terminal => .inr (.inl rfl), fun rest at_ => ?_, closed.ordered⟩
    exact ⟨(closed.reporting rest at_).1, fun _ _ _ alive => by cases alive⟩
  | starts worker helper main active idle moved =>
    refine ⟨fun w => closed.marked_put idle _, fun rest at_ => ?_, closed.ordered⟩
    -- while an error is reported no call starts this way
    change s.phase = .reporting rest at at_
    cases placed.eq_main (by simp [at_]) active
    simp [at_] at main
  | advances worker d stage busy advanced moved =>
    exact closed.advance placed attributed busy advanced
  | selects selection at_ moved =>
    have selected := s.select_selected selection
    refine closed.of_calm selected.calm fun rest => ?_
    rcases selected.moved with ⟨phase, _⟩ | ⟨phase | phase | phase, _⟩ <;> simp [phase]
  | enters at_ idle ping phase down attempts failed stages =>
    refine ⟨fun w member terminal => ?_, fun rest reporting => ?_, ?_⟩
    · rw [down] at member ⊢
      rw [stages]
      exact closed.marked w member terminal
    · simp [phase] at reporting
    · rw [down]
      exact closed.ordered
  | joins _ _ _ moved | judges _ moved | closes _ _ _ moved =>
    exact closed.of_calm ⟨rfl, rfl, rfl, rfl, rfl, rfl, rfl⟩ (by simp)
  | finishes error checks retry at_ idle ping moved =>
    have finished := s.finish_finished error checks retry
    refine closed.of_calm finished.calm fun rest => ?_
    rcases finished.moved with ⟨phase, _⟩ | phase | phase <;> simp [phase]
  | reports format at_ moved => exact closed.report placed at_ (s.report_reported format)
  | continues helper rest at_ idle moved =>
    refine ⟨fun w => closed.marked_put idle _, fun rest' same => ?_, closed.ordered⟩
    cases same
    -- the only call that follows the first one is `Done`
    rcases (closed.reporting _ at_).1 with none | done
    · cases none
    · cases done
      refine ⟨.inl rfl, fun other called notDone => ?_⟩
      rw [s.stages_put_self] at called
      cases called
      exact absurd rfl notDone

structure Orderly (s : StreamState) : Prop where
  placed : s.Placed
  attributed : s.Attributed
  silenced : s.Silenced
  closed : s.Closed

theorem Orderly.next {action} (orderly : s.Orderly) (moved : s.next action = some s')
    : s'.Orderly := by
  have turn := next_turn moved
  exact ⟨orderly.placed.turn turn, orderly.attributed.turn orderly.placed turn,
    orderly.silenced.turn orderly.placed orderly.attributed turn,
    orderly.closed.turn orderly.placed orderly.attributed turn⟩

/-- Every reachable state is orderly, by induction on its run. -/
theorem orderly_of_reaches (reached : streamMachine.Reaches anyStep s) : s.Orderly := by
  refine reached.invariant Orderly ?_ ?_
  · rintro start rfl
    exact ⟨⟨fun _ _ => rfl, nofun, nofun⟩,
      ⟨fun _ => trivial, fun _ => rfl, by simp⟩, ⟨by simp, by simp, by simp, by simp⟩,
      ⟨by simp, by simp, List.Pairwise.nil⟩⟩
  · intro before action after _ orderly _ moved
    exact orderly.next moved

theorem Attributed.attempts_of_written (attributed : s.Attributed)
    (written : s.down.semanticWritten) (turn : s.Turn s')
    : s'.attempts = s.attempts ∧ s'.down.semanticWritten := by
  cases turn with try subst moved
  | internal kept =>
    rw [kept.down]
    exact ⟨kept.attempts, written⟩
  | advances worker d stage busy advanced moved => exact ⟨rfl, advanced.grows.semantic written⟩
  | selects selection at_ moved =>
    exact absurd (written.symm.trans (attributed.selecting at_)) (by decide)
  | enters at_ idle ping phase down attempts failed stages =>
    rw [down]
    exact ⟨attempts, written⟩
  | finishes error checks retry at_ idle ping moved =>
    have finished := s.finish_finished error checks retry
    exact ⟨finished.attempts, finished.calm.semantic.trans written⟩
  | reports format at_ moved =>
    cases s.report_reported format with rw [moved]
    | silent _ moved | event _ _ _ _ _ moved => exact ⟨rfl, written⟩
    | body _ moved => exact ⟨rfl, (s.down.grows_render ⟨.relay, .error⟩).semantic written⟩
  | disconnects moved | starts _ _ _ _ _ moved | joins _ _ _ moved | judges _ moved
    | continues _ _ _ _ moved | closes _ _ _ moved => exact ⟨rfl, written⟩

end StreamState

def Written.FromAttempt (w : Written) (k : ℕ) : Prop := w.source = .attempt k ∧ w.kind ≠ .keepalive

/-- What attempts have written to the client, keepalives apart, is by a single attempt; once
there is such an event no further channel is tried; an attempt judged failed before output
has written none; and no error event follows a terminal one.
-/
theorem stream_single_attempt (s : StreamState) (reached : streamMachine.Reaches anyStep s)
    : (∀ w ∈ s.down.written, ∀ w' ∈ s.down.written, ∀ k k', w.FromAttempt k
        → w'.FromAttempt k' → k = k')
      ∧ (∀ w ∈ s.down.written, ∀ k, w.FromAttempt k
        → ∀ s', streamMachine.Leads anyStep s s' → s'.attempts = s.attempts)
      ∧ (∀ k ∈ s.failed, ∀ w ∈ s.down.written, ¬w.FromAttempt k)
      ∧ s.down.written.Pairwise AfterTerminal := by
  have orderly := StreamState.orderly_of_reaches reached
  refine ⟨?_, ?_, ?_, orderly.closed.ordered⟩
  · intro w member w' member' k k' from_ from'
    have current := (orderly.attributed.owned w member k from_.1 from_.2).1
    have current' := (orderly.attributed.owned w' member' k' from'.1 from'.2).1
    exact current.trans current'.symm
  · intro w member k from_ s' led
    have written := (orderly.attributed.owned w member k from_.1 from_.2).2
    have kept := led.preserves
      (fun t => t.Orderly ∧ t.attempts = s.attempts ∧ t.down.semanticWritten)
      ⟨orderly, rfl, written⟩ (by
        intro t action t' held _ moved
        obtain ⟨orderly, same, written⟩ := held
        have onwards := orderly.attributed.attempts_of_written written
          (StreamState.next_turn moved)
        exact ⟨orderly.next moved, onwards.1.trans same, onwards.2⟩)
    exact kept.2.1
  · intro k judged w member from_
    exact from_.2 (orderly.silenced.silent k judged w member from_.1)

def wholeCall (worker : Worker) (helper : Helper) (statements : ℕ) : List StreamAction :=
  .call worker helper :: replicate statements (.advance worker true)

def retriedStream : List StreamAction :=
  [.select .acquired, .startScanner true] ++ wholeCall .ping .pingData 3
    ++ [.scanEnd false, .pingExit false, .handlerExit, .wake, .join, .judge]
    ++ wholeCall .main .done 1
    ++ [.finish false true true, .select .acquired, .startScanner false, .scan "chunk", .take]
    ++ wholeCall .handler (.stringData "chunk") 5
    ++ [.finishItem, .scanDone, .handlerExit, .wake, .join, .judge] ++ wholeCall .main .done 5
    ++ [.finish false true true]

/-- The client sees a keepalive of the first attempt and events of the second; the first is judged
failed by the scanner's handler and by `StreamAttemptError`.
-/
theorem retriedStream_single_attempt
    : (streamMachine.play {} retriedStream).down.written
        = [⟨.attempt 1, .keepalive⟩, ⟨.attempt 2, .semantic⟩, ⟨.attempt 2, .terminal⟩]
      ∧ (streamMachine.play {} retriedStream).failed = [1, 1]
      ∧ ∀ k ∈ (streamMachine.play {} retriedStream).failed,
        ∀ w ∈ (streamMachine.play {} retriedStream).down.written, ¬w.FromAttempt k := by
  have plays : streamMachine.Plays anyStep {} retriedStream := by decide +kernel
  have reached := Machine.reaches_play rfl plays
  refine ⟨by decide +kernel, by decide +kernel, ?_⟩
  exact (stream_single_attempt (streamMachine.play {} retriedStream) reached).2.2.1

end HelsterApi.Streaming
