import HelsterApi.Transition.Machine

/-! One streaming request: the helpers that write events, statement by statement, the retry loop,
the goroutines of the scanner within an attempt, and the writer of the final error. Every
interleaving is a run; the lock around single writes is left out, which only adds runs.
-/

namespace HelsterApi.Streaming

section

/-- The helper functions, with the type of the event where it matters; `ObjectData` is `StringData`
on an object.
-/
inductive Helper where
  | claudeData (type : String)
  | claudeChunkData (type : String)
  | responseChunkData (type : String)
  | stringData (str : String)
  | done
  | pingData
  deriving DecidableEq

def claudeTerminal (type : String) : Bool := type = "error" || type = "message_stop"

def responsesTerminal (type : String) : Bool :=
  type = "response.completed" || type = "response.done" || type = "response.incomplete"
    || type = "response.failed" || type = "response.error" || type = "error"

def Helper.marksTerminal : Helper → Bool
  | .claudeData type => claudeTerminal type
  | .claudeChunkData type => claudeTerminal type
  | .responseChunkData type => responsesTerminal type
  | .stringData _ => false
  | .done => false
  | .pingData => false

inductive Source where
  | attempt (number : ℕ)
  | relay
  deriving DecidableEq

inductive Kind where
  | keepalive | semantic | terminal | error
  deriving DecidableEq

def Helper.kind (source : Source) : Helper → Kind
  | .pingData => .keepalive
  | .done => .terminal
  | helper =>
    match source with
    | .relay => .error
    | .attempt _ => if helper.marksTerminal then .terminal else .semantic

structure Written where
  source : Source
  kind : Kind
  deriving DecidableEq

/-- The client and `downstreamStreamState`. A client that is gone does not come back and sees
nothing more.
-/
structure Downstream where
  alive : Bool := true
  (keepaliveWritten semanticWritten terminalWritten suppressSemantic : Bool := false)
  written : List Written := []

def Downstream.mark (d : Downstream) (terminal : Bool) : Downstream :=
  { d with semanticWritten := true, terminalWritten := d.terminalWritten || terminal }

def Downstream.render (d : Downstream) (event : Written) : Downstream :=
  if d.alive then { d with written := d.written ++ [event] } else d

open Downstream

/-- Where a goroutine is in a call: outside of one, or before the check of the suppression, that of
the context, the mark, the write, and what follows the write.
-/
inductive Stage where
  | idle
  | suppressCheck (helper : Helper)
  | contextCheck (helper : Helper)
  | marking (helper : Helper)
  | rendering (helper : Helper)
  | flushing (helper : Helper)
  deriving DecidableEq

def Stage.helper? : Stage → Option Helper
  | .idle => none
  | .suppressCheck helper => some helper
  | .contextCheck helper => some helper
  | .marking helper => some helper
  | .rendering helper => some helper
  | .flushing helper => some helper

def Stage.start : Helper → Stage
  | .pingData => .contextCheck .pingData
  | helper => .suppressCheck helper

variable {helper : Helper}

/-- Every helper but the ping first asks whether output is suppressed. -/
theorem Stage.start_of_ne_pingData (notPing : helper ≠ .pingData)
    : start helper = .suppressCheck helper := by
  cases helper with
  | pingData => exact absurd rfl notPing
  | claudeData _ | claudeChunkData _ | responseChunkData _ | stringData _ | done => rfl

/-- What follows the write. `Done` marks its event as terminal if the flush succeeded, and a
ping is marked if it was written. Both may fail for a client that is gone.
-/
def Downstream.flush (d : Downstream) (helper : Helper) (succeeds : Bool) : Downstream :=
  match helper with
  | .done => if d.alive || succeeds then d.mark true else d
  | .pingData => if d.alive || succeeds then { d with keepaliveWritten := true } else d
  | _ => d

def Stage.advance (d : Downstream) (source : Source) (succeeds : Bool)
    : Stage → Option (Downstream × Stage)
  | .idle => none
  | .suppressCheck helper => some (d, if d.suppressSemantic then .idle else .contextCheck helper)
  | .contextCheck helper =>
    some (d, if d.alive = false then .idle
      else if helper = .pingData then .rendering helper else .marking helper)
  | .marking helper => some (d.mark helper.marksTerminal, .rendering helper)
  | .rendering helper => some (d.render ⟨source, helper.kind source⟩, .flushing helper)
  | .flushing helper => some (d.flush helper succeeds, .idle)

/-- What a call writes next, or has just written, was marked before, the end of a stream by `Done`
apart.
-/
def Stage.Announced (d : Downstream) : Stage → Prop
  | .rendering helper | .flushing helper =>
    helper ≠ .pingData
      → d.semanticWritten ∧ (helper.marksTerminal → d.terminalWritten)
  | _ => True

/-- The client and the suppression are as before, and no mark was taken back. -/
structure Downstream.Grows (d d' : Downstream) : Prop where
  alive : d'.alive = d.alive
  suppress : d'.suppressSemantic = d.suppressSemantic
  semantic : d.semanticWritten → d'.semanticWritten
  terminal : d.terminalWritten → d'.terminalWritten

/-- A mark takes nothing back. -/
theorem Downstream.grows_mark (d : Downstream) (terminal) : d.Grows (d.mark terminal) where
  alive := rfl
  suppress := rfl
  semantic _ := rfl
  terminal marked := by
    change (d.terminalWritten || terminal) = true
    rw [marked, Bool.true_or]

/-- A write takes nothing back. -/
theorem Downstream.grows_render (d : Downstream) (event) : d.Grows (d.render event) := by
  unfold render
  split <;> exact ⟨rfl, rfl, id, id⟩

variable {d : Downstream}

/-- A write adds one event at most. -/
theorem Downstream.mem_of_mem_render {event w} (member : w ∈ (d.render event).written)
    (other : w ≠ event)
    : w ∈ d.written := by
  unfold render at member
  split at member
  · rcases List.mem_append.mp member with old | new
    · exact old
    · exact absurd (List.mem_singleton.mp new) other
  · exact member

/-- A flush takes nothing back. -/
theorem Downstream.grows_flush (d : Downstream) (helper succeeds)
    : d.Grows (d.flush helper succeeds) := by
  unfold flush
  split
  · split
    · exact d.grows_mark true
    · exact ⟨rfl, rfl, id, id⟩
  · split
    · exact ⟨rfl, rfl, id, id⟩
    · exact ⟨rfl, rfl, id, id⟩
  · exact ⟨rfl, rfl, id, id⟩

variable {d' : Downstream} {stage : Stage}

/-- Marks that a call has set stay set. -/
theorem Stage.Announced.mono (announced : stage.Announced d)
    (semanticKept : d.semanticWritten → d'.semanticWritten)
    (terminalKept : d.terminalWritten → d'.terminalWritten)
    : stage.Announced d' := by
  cases stage with
  | idle | suppressCheck _ | contextCheck _ | marking _ => trivial
  | rendering helper | flushing helper =>
    intro notPing
    obtain ⟨semantic, terminal⟩ := announced notPing
    exact ⟨semanticKept semantic, fun marks => terminalKept (terminal marks)⟩

/-- One statement of a call writes its event and goes on to what follows, or writes nothing, and it
marks before it writes.
-/
structure Stage.Advances (d : Downstream) (source : Source) (stage : Stage) (d' : Downstream)
    (stage' : Stage)
    : Prop where
  grows : d.Grows d'
  announced : stage.Announced d → stage'.Announced d'
  written : d'.written = d.written
    ∨ ∃ helper, stage = .rendering helper ∧ stage' = .flushing helper ∧ d.alive
      ∧ d'.written = d.written ++ [⟨source, helper.kind source⟩]
  closes : stage = .flushing .done → d.alive → d'.terminalWritten
  helper : ∀ helper, stage'.helper? = some helper → stage.helper? = some helper
  suppressed : d.suppressSemantic → ∀ helper, stage = .suppressCheck helper → stage' = .idle

variable {source : Source}

/-- What one step of a call can do. -/
theorem Stage.advance_advances {succeeds stage'}
    (moved : stage.advance d source succeeds = some (d', stage'))
    : Stage.Advances d source stage d' stage' := by
  have still : d.Grows d := ⟨rfl, rfl, id, id⟩
  cases stage with
  | idle => cases moved
  | suppressCheck helper =>
    cases moved
    cases suppress : d.suppressSemantic with
    | true => exact ⟨still, fun _ => trivial, .inl rfl, by simp, by simp [helper?], by simp⟩
    | false =>
      exact ⟨still, fun _ => trivial, .inl rfl, by simp, by simp [helper?], by simp [suppress]⟩
  | contextCheck helper =>
    cases moved
    refine ⟨still, fun _ => ?_, .inl rfl, by simp, ?_, by simp⟩
    · split
      · trivial
      · split
        next ping => exact fun notPing => absurd ping notPing
        · trivial
    · split
      · simp [helper?]
      · split
        · simp [helper?]
        · simp [helper?]
  | marking helper =>
    cases moved
    refine ⟨d.grows_mark _, fun _ _ => ⟨rfl, fun marks => ?_⟩, .inl rfl, by simp,
      by simp [helper?], by simp⟩
    change (d.terminalWritten || helper.marksTerminal) = true
    rw [marks, Bool.or_true]
  | rendering helper =>
    cases moved
    have grows := d.grows_render ⟨source, helper.kind source⟩
    refine ⟨grows, fun announced => ?_, ?_, by simp, by simp [helper?], by simp⟩
    · have written := announced
      exact written.mono grows.semantic grows.terminal
    · cases alive : d.alive with
      | false => exact .inl (by simp [render, alive])
      | true => exact .inr ⟨helper, rfl, rfl, rfl, by simp [render, alive]⟩
  | flushing helper =>
    cases moved
    refine ⟨d.grows_flush helper succeeds, fun _ => trivial, .inl ?_, ?_, by simp [helper?],
      by simp⟩
    · unfold flush
      split
      · split
        · rfl
        · rfl
      · split
        · rfl
        · rfl
      · rfl
    · intro done alive
      cases done
      simp [flush, mark, alive]

/-- The end of a stream is written by a helper that marks it, or is the last line. -/
theorem Helper.done_or_marksTerminal (terminal : helper.kind source = .terminal)
    : helper = .done ∨ helper.marksTerminal := by
  cases helper with
  | pingData => cases terminal
  | done => exact .inl rfl
  | claudeData _ | claudeChunkData _ | responseChunkData _ | stringData _ =>
    cases source with
    | relay => cases terminal
    | attempt _ =>
      dsimp only [kind] at terminal
      split at terminal
      next marks => exact .inr marks
      · cases terminal

/-- Errors are written by the relay itself. -/
theorem Helper.relay_of_kind_error (error : helper.kind source = .error)
    : source = .relay ∧ helper ≠ .done := by
  cases helper with
  | pingData | done => cases error
  | claudeData _ | claudeChunkData _ | responseChunkData _ | stringData _ =>
    cases source with
    | relay => exact ⟨rfl, by simp⟩
    | attempt _ =>
      dsimp only [kind] at error
      split at error <;> cases error

/-- The relay ends a stream with the last line only. -/
theorem Helper.done_of_relay_terminal (terminal : helper.kind .relay = .terminal)
    : helper = .done := by
  cases helper with
  | done => rfl
  | pingData | claudeData _ | claudeChunkData _ | responseChunkData _ | stringData _ =>
    cases terminal

end

open Transition

inductive EndReason where
  | done | timeout | clientGone | scannerErr | handlerStop | eof | panic | pingFail
  deriving DecidableEq

structure StreamStatus where
  endReason : Option EndReason := none
  endError : Bool := false

/-- `SetEndReason`, which takes effect once. -/
def StreamStatus.setEndReason (status : StreamStatus) (reason : EndReason) (error : Bool)
    : StreamStatus :=
  match status.endReason with
  | none => ⟨some reason, error⟩
  | some _ => status

def StreamStatus.endedWell (status : StreamStatus) : Bool :=
  status.endReason = some .done
    || (status.endReason = some .handlerStop && status.endError = false)

/-- The goroutines that call helpers: that of the request, the data handler and the pinger, not the
scanner.
-/
inductive Worker where
  | main | handler | ping
  deriving DecidableEq

inductive RelayFormat where
  | claude | openAIResponses | other
  deriving DecidableEq

/-- Where the goroutine of the request is: at the top of the retry loop; in an attempt, before
`StreamScannerHandler`, waiting in it, past its cleanup, or after it; leaving with an error;
reporting it, with the helpers still to be called; or done.
-/
inductive Phase where
  | selecting
  | attempting
  | streaming
  | judging
  | finishing
  | failing
  | reporting (rest : List Helper)
  | ended
  deriving DecidableEq

def Phase.calls : Phase → Bool
  | .attempting => true
  | .finishing => true
  | .reporting _ => true
  | _ => false

/-- A streaming request. `attempts` counts the channels tried, `failed` lists the attempts judged
failed before output, `inItem` and `itemStopped` belong to the data handler, and `stopped` and
`woken` tell that the goroutines were told to stop and that `StreamScannerHandler` waits for them.
-/
structure StreamState where
  down : Downstream := {}
  phase : Phase := .selecting
  attempts : ℕ := 0
  failed : List ℕ := []
  lastError : Bool := false
  stages : Worker → Stage := fun _ => .idle
  status : Option StreamStatus := none
  (scannerRuns handlerRuns pingRuns : Bool := false)
  dataChan : List String := []
  (inItem itemStopped stopped woken : Bool := false)

variable (s : StreamState)

def StreamState.active : Worker → Bool
  | .main => s.phase.calls
  | .handler => s.handlerRuns
  | .ping => s.pingRuns

def StreamState.source : Source :=
  match s.phase with
  | .reporting _ => .relay
  | _ => .attempt s.attempts

def StreamState.endWith (reason : EndReason) (error : Bool) : StreamState :=
  { s with status := s.status.map fun status => status.setEndReason reason error }

def StreamState.put (worker : Worker) (stage : Stage) : StreamState :=
  { s with stages := Function.update s.stages worker stage }

/-- Whether the attempt failed before any output, as `StreamScannerHandler` and
`StreamAttemptError` judge it.
-/
def StreamState.failedBeforeOutput : Bool :=
  match s.status with
  | none => false
  | some status => !s.down.semanticWritten && !status.endedWell

/-- How the selection of a channel comes out; `limited` tells whether the loop goes on after a rate
limited one.
-/
inductive Selection where
  | error
  | limited (again : Bool)
  | acquired

/-- Single statements of the goroutines, and the client that goes away. -/
inductive StreamAction where
  | disconnect
  | select (selection : Selection)
  | startPing
  | startScanner (pingEnabled : Bool)
  | scan (data : String)
  | scanDone
  | scanEnd (error : Bool)
  | scanStop
  | take
  | stopItem (error : Bool)
  | completeItem
  | finishItem
  | handlerExit
  | pingExit (failed : Bool)
  | panic (worker : Worker)
  | scanPanic
  | timeout
  | clientGone
  | wake
  | join
  | judge
  | call (worker : Worker) (helper : Helper)
  | advance (worker : Worker) (succeeds : Bool)
  | finish (error checks retry : Bool)
  | report (format : RelayFormat)
  | reportNext (goOn : Bool)

def StreamState.select (selection : Selection) : StreamState :=
  if s.down.alive then
    -- `ResetStreamAttempt` and `BeginStreamAttempt`
    let fresh : StreamState :=
      { s with down := { s.down with suppressSemantic := false }, status := none }
    match selection with
    | .error => { fresh with phase := .failing }
    | .limited again => { fresh with phase := if again then .selecting else .failing }
    | .acquired => { fresh with phase := .attempting, attempts := s.attempts + 1 }
  else { s with phase := if s.lastError then .failing else .ended }

/-- `error` is an error of the adaptor, `checks` tells whether the handler consults
`StreamAttemptError`, and `retry` what `shouldRetry` and the loop's bound say.
-/
def StreamState.finish (error checks retry : Bool) : StreamState :=
  let judged := !error && checks && s.failedBeforeOutput
  if error || judged then
    { s with
      lastError := true
      failed := if judged then s.attempts :: s.failed else s.failed
      phase := if s.down.alive && !s.down.semanticWritten && retry then .selecting
        else .failing }
  else { s with phase := .ended }

def StreamState.streamError (format : RelayFormat) : StreamState :=
  let begun : StreamState := { s with down := { s.down with suppressSemantic := false } }
  match format with
  | .claude =>
    { begun.put .main (.suppressCheck (.claudeData "error")) with phase := .reporting [] }
  | .openAIResponses =>
    { begun.put .main (.marking (.responseChunkData "response.failed")) with
      phase := .reporting [] }
  | .other =>
    { begun.put .main (.suppressCheck (.stringData "error")) with
      phase := .reporting [.done] }

def StreamState.report (format : RelayFormat) : StreamState :=
  if s.down.terminalWritten then { s with phase := .ended }
  else if s.down.keepaliveWritten && !s.down.semanticWritten || s.down.semanticWritten then
    s.streamError format
  else
    -- the error is sent as a plain body
    { s with down := s.down.render ⟨.relay, .error⟩, phase := .ended }

/-- One statement. -/
def StreamState.next : StreamAction → Option StreamState
  | .disconnect => some { s with down := { s.down with alive := false } }
  | .select selection => if s.phase = .selecting then some (s.select selection) else none
  | .startPing =>
    -- the pinger of the upstream request
    if s.phase = .attempting ∧ s.pingRuns = false then some { s with pingRuns := true } else none
  | .startScanner pingEnabled =>
    if s.phase = .attempting ∧ s.stages .main = .idle ∧ s.pingRuns = false then
      some { s with
        phase := .streaming
        status := some {}
        scannerRuns := true
        handlerRuns := true
        pingRuns := pingEnabled
        dataChan := []
        inItem := false
        stopped := false
        woken := false }
    else none
  | .scan data =>
    if s.scannerRuns ∧ s.dataChan.length < 10 then some { s with dataChan := s.dataChan ++ [data] }
    else none
  | .scanDone =>
    if s.scannerRuns then some { s.endWith .done false with scannerRuns := false, stopped := true }
    else none
  | .scanEnd error =>
    if s.scannerRuns then
      some { s.endWith (if error then .scannerErr else .eof) error with
        scannerRuns := false
        stopped := true }
    else none
  | .scanStop => if s.scannerRuns ∧ s.stopped then some { s with scannerRuns := false } else none
  | .take =>
    match s.dataChan with
    | [] => none
    | _ :: rest =>
      if s.handlerRuns ∧ s.inItem = false then
        some { s with dataChan := rest, inItem := true, itemStopped := false }
      else none
  | .stopItem error =>
    if s.inItem then some { s.endWith .handlerStop error with itemStopped := true } else none
  | .completeItem =>
    if s.inItem then some { s.endWith .done false with itemStopped := true } else none
  | .finishItem =>
    if s.inItem ∧ s.stages .handler = .idle then
      if s.itemStopped then some { s with inItem := false, handlerRuns := false, stopped := true }
      else some { s with inItem := false }
    else none
  | .handlerExit =>
    if s.handlerRuns ∧ s.inItem = false ∧ s.stages .handler = .idle ∧ s.dataChan = []
        ∧ s.scannerRuns = false then
      some { s with handlerRuns := false, stopped := true }
    else none
  | .pingExit failed =>
    if s.pingRuns ∧ s.stages .ping = .idle then
      some { (if failed then s.endWith .pingFail true else s) with pingRuns := false }
    else none
  | .panic worker =>
    -- nothing that can panic follows a write within a call
    match worker, s.stages worker with
    | .main, _ => none
    | _, .flushing _ => none
    | .handler, _ =>
      if s.handlerRuns ∧ s.inItem then
        some { (s.endWith .panic true).put .handler .idle with
          inItem := false
          handlerRuns := false
          stopped := true }
      else none
    | .ping, _ =>
      if s.pingRuns then
        some { (s.endWith .panic true).put .ping .idle with
          pingRuns := false
          stopped := true }
      else none
  | .scanPanic =>
    if s.scannerRuns then some { s.endWith .panic true with scannerRuns := false, stopped := true }
    else none
  | .timeout =>
    if s.phase = .streaming ∧ s.woken = false then
      some { s.endWith .timeout false with woken := true, stopped := true }
    else none
  | .clientGone =>
    if s.phase = .streaming ∧ s.woken = false ∧ s.down.alive = false then
      some { s.endWith .clientGone true with woken := true, stopped := true }
    else none
  | .wake =>
    if s.phase = .streaming ∧ s.woken = false ∧ s.stopped then some { s with woken := true }
    else none
  | .join =>
    if s.phase = .streaming ∧ s.woken ∧ s.scannerRuns = false ∧ s.handlerRuns = false
        ∧ s.pingRuns = false then
      some { s with phase := .judging }
    else none
  | .judge =>
    if s.phase = .judging then
      some { s with
        phase := .finishing
        down := { s.down with
          suppressSemantic := s.down.suppressSemantic || s.failedBeforeOutput }
        failed := if s.failedBeforeOutput then s.attempts :: s.failed else s.failed }
    else none
  | .call worker helper =>
    let may : Bool :=
      match worker with
      | .main => helper ≠ .pingData && (s.phase = .attempting || s.phase = .finishing)
      | .handler => helper ≠ .pingData && s.handlerRuns && s.inItem
      | .ping => helper = .pingData && s.pingRuns
    if may ∧ s.stages worker = .idle then some (s.put worker (.start helper)) else none
  | .advance worker succeeds =>
    ((s.stages worker).advance s.down s.source succeeds).map fun moved =>
      { s.put worker moved.2 with down := moved.1 }
  | .finish error checks retry =>
    if (s.phase = .attempting ∨ s.phase = .finishing) ∧ s.stages .main = .idle
        ∧ s.pingRuns = false then
      some (s.finish error checks retry)
    else none
  | .report format => if s.phase = .failing then some (s.report format) else none
  | .reportNext goOn =>
    match s.phase with
    | .reporting rest =>
      if s.stages .main = .idle then
        match rest, goOn with
        | helper :: rest, true => some { s.put .main (.start helper) with phase := .reporting rest }
        | _, _ => some { s with phase := .ended }
      else none
    | _ => none

def streamMachine : Machine StreamState StreamAction where
  initial s := s = {}
  next := StreamState.next

end HelsterApi.Streaming
