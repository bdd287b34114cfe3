import HelsterApi.Streaming.Steps

/-! Which attempt the events of a streaming request come from. Events are marked before they are
written, and the goroutines of an attempt are gone before the loop looks at the marks, so every
event is by the current attempt, and a failed one writes none.
-/

namespace HelsterApi.Streaming

open List

namespace StreamState

/-- Marks come before writes, the top of the retry loop is reached with nothing semantic written,
and what attempts have written, keepalives apart, is by the current one.
-/
structure Attributed (s : StreamState) : Prop where
  announced : ∀ worker, (s.stages worker).Announced s.down
  selecting : s.phase = .selecting → s.down.semanticWritten = false
  owned : ∀ w ∈ s.down.written, ∀ k, w.source = .attempt k → w.kind ≠ .keepalive
    → k = s.attempts ∧ s.down.semanticWritten

variable {s : StreamState} {d : Downstream} {stage : Stage}

/-- Marks stay set when a goroutine goes on. -/
theorem announced_put (announced : ∀ worker, (s.stages worker).Announced d) (moving)
    (there : stage.Announced d)
    : ∀ worker, ((s.put moving stage).stages worker).Announced d := by
  intro worker
  by_cases same : worker = moving
  · subst same
    rwa [s.stages_put_self]
  · rw [s.stages_put_of_ne stage same]
    exact announced worker

/-- A call begins without marks. -/
theorem announced_start (helper d) : (Stage.start helper).Announced d := by
  cases helper with
  | claudeData _ | claudeChunkData _ | responseChunkData _ | stringData _ | done | pingData =>
    trivial

variable {s' : StreamState}

section

variable (attributed : s.Attributed)

include attributed

/-- A step without calls keeps the attribution. -/
theorem Attributed.of_calm (calm : s.Calm s')
    (attempts : s'.attempts = s.attempts ∨ s.down.semanticWritten = false)
    (selecting : s'.phase = .selecting → s.down.semanticWritten = false)
    : s'.Attributed where
  announced worker := by
    rw [calm.stages]
    exact (attributed.announced worker).mono (calm.semantic ▸ id) (calm.terminal ▸ id)
  selecting at_ := calm.semantic.trans (selecting at_)
  owned w member k source kind := by
    rw [calm.written] at member
    obtain ⟨current, semantic⟩ := attributed.owned w member k source kind
    rcases attempts with same | unwritten
    · exact ⟨current.trans same.symm, calm.semantic.trans semantic⟩
    · simp [unwritten] at semantic

/-- A step within a call keeps the attribution. -/
theorem Attributed.advance (placed : s.Placed) {worker} (busy : s.stages worker ≠ .idle)
    (advanced : Stage.Advances s.down s.source (s.stages worker) d stage)
    : Attributed { s.put worker stage with down := d } where
  announced := by
    have others : ∀ other, (s.stages other).Announced d := fun other =>
      (attributed.announced other).mono advanced.grows.semantic advanced.grows.terminal
    exact announced_put others worker (advanced.announced (attributed.announced worker))
  selecting at_ := by
    have idle := placed.all_idle (congrArg Phase.calls at_) (by simp [show s.phase = _ from at_])
      worker
    exact absurd idle busy
  owned w member k source kind := by
    rcases advanced.written with same | ⟨helper, at_, _, _, appended⟩
    · rw [same] at member
      obtain ⟨current, semantic⟩ := attributed.owned w member k source kind
      exact ⟨current, advanced.grows.semantic semantic⟩
    · rw [appended] at member
      rcases mem_append.mp member with old | new
      · obtain ⟨current, semantic⟩ := attributed.owned w old k source kind
        exact ⟨current, advanced.grows.semantic semantic⟩
      · cases mem_singleton.mp new
        have marked := attributed.announced worker
        rw [at_] at marked
        obtain ⟨semantic, _⟩ := marked (by rintro rfl; exact kind rfl)
        exact ⟨(source_eq_attempt source).1.symm, advanced.grows.semantic semantic⟩

/-- The report of an error keeps the attribution. -/
theorem Attributed.report (reported : s.Reported s') : s'.Attributed := by
  cases reported with subst moved
  | silent _ moved => exact attributed.of_calm ⟨rfl, rfl, rfl, rfl, rfl, rfl, rfl⟩ (.inl rfl) nofun
  | body _ moved =>
    have grows := s.down.grows_render ⟨.relay, .error⟩
    refine ⟨fun worker => (attributed.announced worker).mono grows.semantic grows.terminal,
      nofun, fun w member k source kind => ?_⟩
    have old := Downstream.mem_of_mem_render member (by rintro rfl; cases source)
    obtain ⟨current, semantic⟩ := attributed.owned w old k source kind
    exact ⟨current, grows.semantic semantic⟩
  | event _ stage rest first _ moved =>
    have unmarked : stage.Announced s.down := by
      obtain ⟨helper, rfl | rfl⟩ := first <;> trivial
    have announced := announced_put attributed.announced .main unmarked
    exact ⟨fun worker => (announced worker).mono id id, nofun, attributed.owned⟩

/-- Each shape of step keeps the attribution. -/
theorem Attributed.turn (placed : s.Placed) (turn : s.Turn s') : s'.Attributed := by
  cases turn with try subst moved
  | internal kept =>
    refine ⟨fun worker => ?_, fun at_ => ?_, fun w member k source kind => ?_⟩
    · rw [kept.down]
      rcases kept.stages worker with same | ⟨idle, _⟩
      · rw [same]
        exact attributed.announced worker
      · rw [idle]
        trivial
    · rw [kept.phase] at at_
      rw [kept.down]
      exact attributed.selecting at_
    · rw [kept.down] at member
      rw [kept.down, kept.attempts]
      exact attributed.owned w member k source kind
  | disconnects moved =>
    exact ⟨fun worker => (attributed.announced worker).mono id id, attributed.selecting,
      attributed.owned⟩
  | starts worker helper main active idle moved =>
    exact ⟨announced_put attributed.announced worker (announced_start helper s.down),
      attributed.selecting, attributed.owned⟩
  | advances worker d stage busy advanced moved => exact attributed.advance placed busy advanced
  | selects selection at_ moved =>
    have unwritten := attributed.selecting at_
    exact attributed.of_calm (s.select_selected selection).calm (.inr unwritten)
      fun _ => unwritten
  | enters at_ idle ping phase down attempts failed stages =>
    refine ⟨fun worker => ?_, fun selecting => ?_, fun w member k source kind => ?_⟩
    · rw [stages, down]
      exact attributed.announced worker
    · simp [phase] at selecting
    · rw [down] at member
      rw [down, attempts]
      exact attributed.owned w member k source kind
  | joins _ _ _ moved | judges _ moved | closes _ _ _ moved =>
    exact attributed.of_calm ⟨rfl, rfl, rfl, rfl, rfl, rfl, rfl⟩ (.inl rfl) nofun
  | finishes error checks retry at_ idle ping moved =>
    have finished := s.finish_finished error checks retry
    refine attributed.of_calm finished.calm (.inl finished.attempts) fun selecting => ?_
    rcases finished.moved with ⟨_, unwritten⟩ | failing | ended
    · exact unwritten
    · simp [failing] at selecting
    · simp [ended] at selecting
  | reports format at_ moved => exact attributed.report (s.report_reported format)
  | continues helper rest at_ idle moved =>
    exact ⟨announced_put attributed.announced .main (announced_start helper s.down),
      nofun, attributed.owned⟩

end

/-- The attempts judged failed have written keepalives only, and the current one, if among them,
cannot get past the check of the suppression.
-/
structure Silenced (s : StreamState) : Prop where
  bound : ∀ k ∈ s.failed, k ≤ s.attempts
  silent : ∀ k ∈ s.failed, ∀ w ∈ s.down.written, w.source = .attempt k → w.kind = .keepalive
  past : s.attempts ∈ s.failed → s.phase ≠ .attempting ∧ s.phase ≠ .streaming ∧ s.phase ≠ .judging
  suppressed : s.attempts ∈ s.failed → s.phase = .finishing
    → s.down.suppressSemantic ∧ ∀ helper, (s.stages .main).helper? = some helper
      → s.stages .main = .suppressCheck helper

variable (silenced : s.Silenced)

include silenced

namespace Silenced

/-- A step that writes for no attempt keeps failed attempts silent. -/
theorem of_written (attempts : s.attempts ≤ s'.attempts) (failed : s'.failed = s.failed)
    (written : ∀ w ∈ s'.down.written, ∀ k, w.source = .attempt k → w ∈ s.down.written)
    (past : s'.attempts ∈ s.failed
      → s'.phase ≠ .attempting ∧ s'.phase ≠ .streaming ∧ s'.phase ≠ .judging)
    (suppressed : s'.attempts ∈ s.failed → s'.phase = .finishing
      → s'.down.suppressSemantic ∧ ∀ helper, (s'.stages .main).helper? = some helper
        → s'.stages .main = .suppressCheck helper)
    : s'.Silenced where
  bound k member := by
    rw [failed] at member
    exact Nat.le_trans (silenced.bound k member) attempts
  silent k member w event source := by
    rw [failed] at member
    exact silenced.silent k member w (written w event k source) source
  past judged := past (failed ▸ judged)
  suppressed judged := suppressed (failed ▸ judged)

/-- So does a step outside of an attempt. -/
theorem of_outside (attempts : s'.attempts = s.attempts) (failed : s'.failed = s.failed)
    (written : ∀ w ∈ s'.down.written, ∀ k, w.source = .attempt k → w ∈ s.down.written)
    (outside : s'.phase ≠ .attempting ∧ s'.phase ≠ .streaming ∧ s'.phase ≠ .judging
      ∧ s'.phase ≠ .finishing)
    : s'.Silenced :=
  silenced.of_written (Nat.le_of_eq attempts.symm) failed written
    (fun _ => ⟨outside.1, outside.2.1, outside.2.2.1⟩)
    (fun _ finishing => absurd finishing outside.2.2.2)

/-- So does a step of an attempt that has not failed. -/
theorem of_unjudged (attempts : s'.attempts = s.attempts) (failed : s'.failed = s.failed)
    (written : s'.down.written = s.down.written) (unjudged : s.attempts ∉ s.failed)
    : s'.Silenced :=
  silenced.of_written (Nat.le_of_eq attempts.symm) failed (fun _ event _ _ => written ▸ event)
    (fun judged => absurd (attempts ▸ judged) unjudged)
    (fun judged => absurd (attempts ▸ judged) unjudged)

/-- An attempt that fails before output has written nothing, and writes nothing from then on. -/
theorem judge (attributed : s.Attributed)
    (unwritten : s.down.semanticWritten = false) (attempts : s'.attempts = s.attempts)
    (failed : s'.failed = s.attempts :: s.failed) (written : s'.down.written = s.down.written)
    (past : s'.phase ≠ .attempting ∧ s'.phase ≠ .streaming ∧ s'.phase ≠ .judging)
    (suppressed : s'.phase = .finishing → s'.down.suppressSemantic ∧ s'.stages .main = .idle)
    : s'.Silenced where
  bound k member := by
    rw [failed] at member
    rw [attempts]
    rcases mem_cons.mp member with rfl | old
    · exact Nat.le_refl _
    · exact silenced.bound k old
  silent k _ w event source := by
    rw [written] at event
    by_contra other
    have semantic := (attributed.owned w event k source other).2
    simp [unwritten] at semantic
  past _ := past
  suppressed _ at_ := by
    obtain ⟨suppress, idle⟩ := suppressed at_
    refine ⟨suppress, fun helper busy => ?_⟩
    rw [idle] at busy
    cases busy

/-- A step within a call writes nothing for a failed attempt. -/
theorem advance (placed : s.Placed) {worker} (busy : s.stages worker ≠ .idle)
    (advanced : Stage.Advances s.down s.source (s.stages worker) d stage)
    : Silenced { s.put worker stage with down := d } := by
  have active := placed.active_of_busy busy
  -- only the goroutine of the request can still be in a call of a judged attempt
  have onlyMain : s.attempts ∈ s.failed → worker = .main := by
    intro judged
    obtain ⟨notAttempting, notStreaming, _⟩ := silenced.past judged
    cases worker with
    | main => rfl
    | handler => exact absurd (placed.handler active) notStreaming
    | ping => exact absurd (placed.ping active) (not_or.mpr ⟨notAttempting, notStreaming⟩)
  have called : ∃ helper, (s.stages worker).helper? = some helper := by
    cases at_ : s.stages worker with
    | idle => exact absurd at_ busy
    | suppressCheck helper | contextCheck helper | marking helper | rendering helper
      | flushing helper => exact ⟨helper, rfl⟩
  obtain ⟨helper, called⟩ := called
  refine ⟨silenced.bound, fun k judged w event source => ?_, silenced.past,
    fun judged at_ => ?_⟩
  · change w ∈ d.written at event
    rcases advanced.written with same | ⟨rendered, rendering, _, _, appended⟩
    · rw [same] at event
      exact silenced.silent k judged w event source
    · rw [appended] at event
      rcases mem_append.mp event with old | new
      · exact silenced.silent k judged w old source
      · cases mem_singleton.mp new
        obtain ⟨rfl, notReporting⟩ := source_eq_attempt source
        cases onlyMain judged
        have finishing := finishing_of_active active notReporting
          (silenced.past judged).1
        have atCheck := (silenced.suppressed judged finishing).2 helper called
        simp [rendering] at atCheck
  · cases onlyMain judged
    obtain ⟨suppress, atCheck⟩ := silenced.suppressed judged at_
    have gone := advanced.suppressed suppress helper (atCheck helper called)
    refine ⟨advanced.grows.suppress.trans suppress, fun other busyStill => ?_⟩
    rw [s.stages_put_self, gone] at busyStill
    cases busyStill

/-- Each shape of step keeps failed attempts silent. -/
theorem turn (placed : s.Placed) (attributed : s.Attributed) (turn : s.Turn s') : s'.Silenced := by
  cases turn with try subst moved
  | internal kept =>
    refine silenced.of_written (Nat.le_of_eq kept.attempts.symm) kept.failed
      (fun w event _ _ => kept.down ▸ event) (fun judged => ?_) (fun judged at_ => ?_)
    · rw [kept.attempts] at judged
      rw [kept.phase]
      exact silenced.past judged
    · rw [kept.attempts] at judged
      rw [kept.phase] at at_
      obtain ⟨suppress, atCheck⟩ := silenced.suppressed judged at_
      rw [kept.down]
      refine ⟨suppress, fun helper busy => ?_⟩
      rcases kept.stages .main with same | ⟨idle, _⟩
      · rw [same] at busy ⊢
        exact atCheck helper busy
      · rw [idle] at busy
        cases busy
  | disconnects moved => exact ⟨silenced.bound, silenced.silent, silenced.past, silenced.suppressed⟩
  | starts worker helper main active idle moved =>
    refine ⟨silenced.bound, silenced.silent, silenced.past, fun judged at_ => ?_⟩
    obtain ⟨suppress, atCheck⟩ := silenced.suppressed judged at_
    refine ⟨suppress, fun other busy => ?_⟩
    by_cases same : worker = .main
    · subst same
      rw [s.stages_put_self] at busy ⊢
      rw [Stage.start_of_ne_pingData (main rfl).1] at busy ⊢
      cases busy
      rfl
    · rw [s.stages_put_of_ne _ (Ne.symm same)] at busy ⊢
      exact atCheck other busy
  | advances worker d stage busy advanced moved => exact silenced.advance placed busy advanced
  | selects selection at_ moved =>
    have selected := s.select_selected selection
    rcases selected.moved with ⟨phase, attempts⟩ | ⟨phase, attempts⟩
    · -- a new attempt has a number that none judged so far has
      have fresh : (s.select selection).attempts ∉ s.failed := by
        intro judged
        rw [attempts] at judged
        exact absurd (silenced.bound _ judged) (Nat.not_succ_le_self _)
      exact silenced.of_written (attempts ▸ Nat.le_succ _) selected.failed
        (fun w event _ _ => selected.calm.written ▸ event)
        (fun judged => absurd judged fresh) (fun judged => absurd judged fresh)
    · refine silenced.of_outside attempts selected.failed
        (fun w event _ _ => selected.calm.written ▸ event) ?_
      rcases phase with phase | phase | phase <;> simp [phase]
  | enters at_ idle ping phase down attempts failed stages =>
    exact silenced.of_unjudged attempts failed (congrArg _ down)
      fun judged => (silenced.past judged).1 at_
  | joins at_ handler ping moved =>
    exact silenced.of_unjudged rfl rfl rfl fun judged => (silenced.past judged).2.1 at_
  | judges at_ moved =>
    cases failed : s.failedBeforeOutput with
    | false => exact silenced.of_unjudged rfl rfl rfl fun judged => (silenced.past judged).2.2 at_
    | true =>
      refine silenced.judge attributed (s.unwritten_of_failedBeforeOutput failed) rfl rfl rfl
        (by simp) fun _ => ⟨Bool.or_true _, ?_⟩
      exact placed.idle .main (congrArg Phase.calls at_)
  | finishes error checks retry at_ idle ping moved =>
    have finished := s.finish_finished error checks retry
    have outside : (s.finish error checks retry).phase ≠ .attempting
        ∧ (s.finish error checks retry).phase ≠ .streaming
        ∧ (s.finish error checks retry).phase ≠ .judging
        ∧ (s.finish error checks retry).phase ≠ .finishing := by
      rcases finished.moved with ⟨phase, _⟩ | phase | phase <;> simp [phase]
    rcases finished.failed with same | ⟨unwritten, judged⟩
    · exact silenced.of_outside finished.attempts same
        (fun w event _ _ => finished.calm.written ▸ event) outside
    · exact silenced.judge attributed unwritten finished.attempts judged
        finished.calm.written ⟨outside.1, outside.2.1, outside.2.2.1⟩
        fun finishing => absurd finishing outside.2.2.2
  | reports format at_ moved =>
    cases s.report_reported format with rw [moved]
    | silent _ moved | event _ _ _ _ _ moved =>
      exact silenced.of_outside rfl rfl (fun w event _ _ => event) (by simp)
    | body _ moved =>
      exact silenced.of_outside rfl rfl (fun w event k source =>
        Downstream.mem_of_mem_render event (by rintro rfl; cases source)) (by simp)
  | continues _ _ _ _ moved | closes _ _ _ moved =>
    exact silenced.of_outside rfl rfl (fun w event _ _ => event) (by simp)

end Silenced

end StreamState

end HelsterApi.Streaming
