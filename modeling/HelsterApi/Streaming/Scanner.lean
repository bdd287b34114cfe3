import HelsterApi.Streaming.Relay
import HelsterApi.Text.Folding

/-! The lines of an upstream stream in `StreamScannerHandler`: the scanner reads them and sends
their payloads over a channel to the data handler.
-/

namespace HelsterApi.Streaming

open List Transition StreamStatus

inductive Scanned where
  | skipped
  | done
  | payload (data : List Char)
  deriving DecidableEq

def lineData (line : String) : List Char := Text.trimSpace (.ofList (line.toList.drop 5))

def scanLine (line : String) : Scanned :=
  if line.toList.length < 6 then .skipped
  else if line.toList.take 5 ≠ "data:".toList ∧ line.toList.take 6 ≠ "[DONE]".toList then .skipped
  else if lineData line = [] then .skipped
  else if "[DONE]".toList <+: lineData line then .done
  else .payload (lineData line)

/-- A call of the handler: the lines not read, the payloads in the channel and those passed on,
each with the number of its line.
-/
structure Scan where
  lines : List (String × ℕ)
  dataChan : List (List Char × ℕ) := []
  passed : List (List Char × ℕ) := []
  status : StreamStatus := {}
  (scannerRuns handlerRuns pingRuns : Bool := true)
  stopped : Bool := false

/-- Steps of the goroutines. The data handler may stop with a reason, and the client that goes away,
the timeout and a panic of the pinger interrupt the stream.
-/
inductive ScanAction where
  | scan (error : Bool)
  | scanStop
  | scanPanic
  | take (stop : Option (EndReason × Bool))
  | handlerExit
  | pingFail
  | interrupt (reason : EndReason) (error : Bool)

variable (limit : ℕ) (s : Scan)

def Scan.endScan (reason : EndReason) (error : Bool) : Scan :=
  { s with
    lines := []
    status := s.status.setEndReason reason error
    scannerRuns := false
    stopped := true }

/-- `limit` is the size of the scanner's buffer, which has to hold a line and its end. -/
def Scan.next : ScanAction → Option Scan
  | .scan error =>
    if s.scannerRuns then
      match s.lines with
      | [] => some (s.endScan (if error then .scannerErr else .eof) error)
      | (line, number) :: rest =>
        if limit ≤ line.utf8ByteSize then some (s.endScan .scannerErr true)
        else
          match scanLine line with
          | .skipped => some { s with lines := rest }
          | .done => some (s.endScan .done false)
          | .payload data =>
            if s.dataChan.length < 10 then
              some { s with lines := rest, dataChan := s.dataChan ++ [(data, number)] }
            else none
    else none
  | .scanStop => if s.scannerRuns ∧ s.stopped then some { s with scannerRuns := false } else none
  | .scanPanic =>
    if s.scannerRuns then
      some { s.endScan .panic true with lines := s.lines }
    else none
  | .take stop =>
    match s.dataChan with
    | [] => none
    | data :: rest =>
      if s.handlerRuns then
        let passed := { s with dataChan := rest, passed := s.passed ++ [data] }
        match stop with
        | none => some passed
        | some (reason, error) =>
          some { passed with
            status := s.status.setEndReason reason error
            handlerRuns := false
            stopped := true }
      else none
  | .handlerExit =>
    if s.handlerRuns ∧ s.dataChan = [] ∧ s.scannerRuns = false then
      some { s with handlerRuns := false, stopped := true }
    else none
  | .pingFail =>
    if s.pingRuns then
      some { s with status := s.status.setEndReason .pingFail true, pingRuns := false }
    else none
  | .interrupt reason error =>
    some { s with status := s.status.setEndReason reason error, stopped := true }

def scanMachine (upstream : List String) : Machine Scan ScanAction where
  initial s := s = { lines := upstream.zipIdx }
  next := Scan.next limit

def Undisturbed (_ : Scan) : ScanAction → Prop
  | .scanPanic | .take (some _) | .interrupt _ _ => False
  | _ => True

def Scan.finished : Prop := s.scannerRuns = false ∧ s.handlerRuns = false

/-- What a line of the event stream says. -/
def meaning (line : String) : Scanned :=
  if line = "[DONE]" then .done
  else if ¬"data:".toList <+: line.toList ∨ lineData line = [] then .skipped
  else if lineData line = "[DONE]".toList then .done
  else .payload (lineData line)

/-- The payloads before the first end marker. -/
def payloads : List (String × ℕ) → List (List Char × ℕ)
  | [] => []
  | (line, number) :: rest =>
    match meaning line with
    | .skipped => payloads rest
    | .done => []
    | .payload data => (data, number) :: payloads rest

def Marked (upstream : List (String × ℕ)) : Prop := ∃ line ∈ upstream, meaning line.1 = .done

/-- The payloads that the scanner reads. -/
def scanned : List (String × ℕ) → List (List Char × ℕ)
  | [] => []
  | (line, number) :: rest =>
    if limit ≤ line.utf8ByteSize then []
    else
      match scanLine line with
      | .skipped => scanned rest
      | .done => []
      | .payload data => (data, number) :: scanned rest

/-- Whether the scanner takes a line for the end marker. -/
def endsDone : List (String × ℕ) → Bool
  | [] => false
  | (line, _) :: rest =>
    if limit ≤ line.utf8ByteSize then false
    else scanLine line = .done || endsDone rest

/-- Neither the line nor a longer payload of it begins with the text of the end marker. -/
def Plain (line : String) : Prop :=
  ¬"[DONE]".toList <+: line.toList
  ∧ ("data:".toList <+: line.toList → "[DONE]".toList <+: lineData line
    → lineData line = "[DONE]".toList)
  deriving Decidable

/-- Up to the first end marker the lines are plain and fit into the buffer, unless nothing follows
that is to be passed on.
-/
def Readable : List String → Prop
  | [] => True
  | line :: rest =>
    if limit ≤ line.utf8ByteSize then ∀ later ∈ line :: rest, meaning later = .skipped
    else Plain line ∧ (meaning line = .done ∨ Readable rest)

variable {limit s} {s' : Scan} {a : ScanAction} {line : String} {upstream : List String}

theorem scanLine_eq (plain : Plain line) : scanLine line = meaning line := by
  obtain ⟨notBare, whole⟩ := plain
  have bare : line.toList.take 6 ≠ "[DONE]".toList := fun same => notBare (same ▸ take_prefix ..)
  have other : line ≠ "[DONE]" := fun same => notBare (same ▸ prefix_rfl)
  have empty : line.toList.length < 6 → lineData line = [] := by
    intro short
    rw [lineData, drop_eq_nil_of_le (by omega)]
    rfl
  have starts : "data:".toList <+: line.toList ↔ line.toList.take 5 = "data:".toList :=
    prefix_iff_eq_take.trans eq_comm
  simp only [scanLine, meaning, other, starts, if_false]
  rw [starts] at whole
  by_cases short : line.toList.length < 6
  · simp [short, empty short]
  by_cases isData : line.toList.take 5 = "data:".toList
  · have same : "[DONE]".toList <+: lineData line ↔ lineData line = "[DONE]".toList :=
      ⟨whole isData, fun same => same ▸ prefix_rfl⟩
    simp only [short, isData, same, ne_eq, not_true_eq_false, false_and, false_or, if_false]
  · rw [if_neg short, if_pos ⟨isData, bare⟩, if_pos (.inl isData)]

theorem trimSpace_cons {c : Char} {rest : List Char} (visible : Text.isSpace c = false)
    : ∃ kept, Text.trimSpace (.ofList (c :: rest)) = c :: kept := by
  rw [Text.trimSpace, String.toList_ofList, dropWhile_cons_of_neg (by simp [visible]), reverse_cons,
    dropWhile_append]
  split
  · exact ⟨[], by simp [visible]⟩
  · exact ⟨_, reverse_append⟩

/-- The scanner takes a line that is not plain for a payload, or for the end marker where it has a
payload.
-/
theorem scanLine_of_not_plain (odd : ¬Plain line)
    : (∃ data, scanLine line = .payload data ∧ ∀ data, meaning line ≠ .payload data)
      ∨ scanLine line = .done ∧ ∃ data, meaning line = .payload data := by
  by_cases bare : "[DONE]".toList <+: line.toList
  · obtain ⟨rest, text⟩ := bare
    have bracket : ∃ kept, lineData line = ']' :: kept := by
      rw [lineData, ← text]
      exact trimSpace_cons (by decide)
    obtain ⟨kept, bracket⟩ := bracket
    have read : scanLine line = .payload (']' :: kept) := by
      simp [scanLine, bracket, ← text]
    refine .inl ⟨_, read, fun data => ?_⟩
    unfold meaning
    split_ifs with marker skips
    · nofun
    · nofun
    all_goals exact absurd (by simp [← text]) (not_or.mp skips).1
  · obtain ⟨isData, starts, longer⟩ : "data:".toList <+: line.toList
        ∧ "[DONE]".toList <+: lineData line ∧ lineData line ≠ "[DONE]".toList := by
      simpa only [Plain, bare, not_false_eq_true, true_and, Classical.not_imp] using odd
    have filled : lineData line ≠ [] := by
      rintro empty
      rw [empty] at starts
      cases prefix_nil.mp starts
    have long : ¬line.toList.length < 6 := fun short =>
      filled (by rw [lineData, drop_eq_nil_of_le (by omega)]; rfl)
    have other : line ≠ "[DONE]" := fun same => bare (same ▸ prefix_rfl)
    refine .inr ⟨?_, lineData line, ?_⟩
    · rw [scanLine, if_neg long, if_neg fun both => both.1 (prefix_iff_eq_take.mp isData).symm,
        if_neg filled, if_pos starts]
    · rw [meaning, if_neg other, if_neg (not_or.mpr ⟨not_not.mpr isData, filled⟩),
        if_neg longer]

theorem le_of_mem_payloads {lines : List String} {k} {data}
    (member : data ∈ payloads (lines.zipIdx k)) : k ≤ data.2 := by
  induction lines generalizing k with
  | nil => cases member
  | cons line rest ih =>
    rw [zipIdx_cons, payloads] at member
    split at member
    · exact (Nat.le_succ k).trans (ih member)
    · cases member
    · rcases mem_cons.mp member with rfl | later
      · exact le_rfl
      · exact (Nat.le_succ k).trans (ih later)

theorem payloads_eq_nil_iff {lines}
    : payloads lines = [] ∧ ¬Marked lines ↔ ∀ line ∈ lines, meaning line.1 = .skipped := by
  induction lines with
  | nil => simp [payloads, Marked]
  | cons line rest ih =>
    rw [forall_mem_cons, ← ih, payloads]
    cases read : meaning line.1 <;> simp [Marked, read]

/-- The scanner reads the payloads and the end marker exactly from readable lines. -/
theorem scanned_eq_iff (lines : List String) (k)
    : scanned limit (lines.zipIdx k) = payloads (lines.zipIdx k)
        ∧ (endsDone limit (lines.zipIdx k) ↔ Marked (lines.zipIdx k))
      ↔ Readable limit lines := by
  induction lines generalizing k with
  | nil => simp [scanned, payloads, endsDone, Marked, Readable]
  | cons line rest ih =>
    have before : ∀ data ∈ payloads (rest.zipIdx (k + 1)), data.2 ≠ k := fun data member same =>
      absurd (le_of_mem_payloads member) (by omega)
    rw [zipIdx_cons, scanned, endsDone, Readable]
    by_cases long : limit ≤ line.utf8ByteSize
    · have numbered : (∀ later ∈ line :: rest, meaning later = .skipped)
          ↔ ∀ later ∈ (line, k) :: rest.zipIdx (k + 1), meaning later.1 = .skipped := by
        rw [← zipIdx_cons]
        conv_lhs => rw [← zipIdx_map_fst k (line :: rest)]
        exact forall_mem_map
      simp only [if_pos long]
      rw [numbered, ← payloads_eq_nil_iff, eq_comm]
      simp
    simp only [if_neg long, payloads]
    by_cases plain : Plain line
    · rw [scanLine_eq plain]
      cases read : meaning line with
      | skipped => simpa [Marked, read, plain] using ih (k + 1)
      | done => simp [Marked, read, plain]
      | payload data => simpa [Marked, read, plain] using ih (k + 1)
    · refine iff_of_false (fun same => ?_) fun readable => plain readable.1
      rcases scanLine_of_not_plain plain with ⟨data, read, other⟩ | ⟨read, data, told⟩
      · have same := same.1
        rw [read] at same
        dsimp only at same
        split at same
        · exact before _ (same ▸ mem_cons_self) rfl
        · cases same
        next data told => exact other data told
      · have same := same.1
        rw [read, told] at same
        cases same

/-- What holds as long as nothing disturbs the stream. -/
structure Scan.Calm (limit : ℕ) (upstream : List (String × ℕ)) (s : Scan) : Prop where
  payloads : s.passed ++ s.dataChan ++ scanned limit s.lines = scanned limit upstream
  scanned : s.scannerRuns = false → s.lines = []
  stopped : s.stopped → s.scannerRuns = false
  handled : s.handlerRuns = false → s.scannerRuns = false ∧ s.dataChan = []
  reason : s.status.endReason = some .pingFail
    ∨ if s.scannerRuns then
        s.status.endReason = none ∧ endsDone limit s.lines = endsDone limit upstream
      else s.status.endReason = some .done ↔ endsDone limit upstream

/-- Every step takes a line, takes a payload or ends a goroutine. -/
def Scan.work (s : Scan) : ℕ :=
  2 * s.lines.length + s.dataChan.length + s.scannerRuns.toNat + s.handlerRuns.toNat
    + s.pingRuns.toNat

variable {numbered : List (String × ℕ)}

theorem Scan.Calm.endScan (calm : s.Calm limit numbered) (runs : s.scannerRuns)
    (last : Streaming.scanned limit s.lines = []) {reason error}
    (ends : reason = .done ↔ endsDone limit s.lines)
    : (s.endScan reason error).Calm limit numbered where
  payloads := by rw [← calm.payloads, last]; rfl
  scanned _ := rfl
  stopped _ := rfl
  handled waits := by cases runs.symm.trans (calm.handled waits).1
  reason := by
    rcases calm.reason with failed | unended
    · exact .inl (by simp [Scan.endScan, setEndReason, failed])
    · rw [if_pos runs] at unended
      refine .inr ?_
      simp [Scan.endScan, setEndReason, unended.1, ends, unended.2]

theorem Scan.Calm.next (calm : s.Calm limit numbered) (allowed : Undisturbed s a)
    (moved : s.next limit a = some s')
    : s'.Calm limit numbered ∧ s'.work < s.work := by
  cases a with
  | scan error =>
    simp only [Scan.next] at moved
    split at moved
    next runs =>
      cases more : s.lines with
      | nil =>
        rw [more] at moved
        cases moved
        refine ⟨calm.endScan runs (by rw [more]; rfl) ?_, ?_⟩
        · cases error <;> simp [more, endsDone]
        · simp [work, Scan.endScan, runs, more]
      | cons line rest =>
        have onward {dataChan} (unmarked : endsDone limit rest = endsDone limit (line :: rest))
            (same : dataChan ++ Streaming.scanned limit rest
              = s.dataChan ++ Streaming.scanned limit (line :: rest))
            : { s with lines := rest, dataChan }.Calm limit numbered := {
          payloads := by rw [← calm.payloads, more, append_assoc, append_assoc, same]
          scanned idle := by cases runs.symm.trans idle
          stopped := calm.stopped
          handled waits := by cases runs.symm.trans (calm.handled waits).1
          reason := by simpa [runs, more, unmarked] using calm.reason }
        have ended {reason error} (last : Streaming.scanned limit (line :: rest) = [])
            (ends : reason = .done ↔ endsDone limit (line :: rest))
            : (s.endScan reason error).Calm limit numbered
              ∧ (s.endScan reason error).work < s.work := by
          refine ⟨calm.endScan runs (more ▸ last) (more ▸ ends), ?_⟩
          grind [work, Scan.endScan]
        rw [more] at moved
        dsimp only at moved
        split at moved
        next long =>
          cases moved
          exact ended (by simp [Streaming.scanned, long]) (by simp [endsDone, long])
        next fits =>
          split at moved
          next read =>
            cases moved
            refine ⟨onward (by simp [endsDone, fits, read])
              (by simp [Streaming.scanned, fits, read]), ?_⟩
            simp [work, more]
          next read =>
            cases moved
            exact ended (by simp [Streaming.scanned, fits, read]) (by simp [endsDone, fits, read])
          next data read =>
            split at moved <;> cases moved
            refine ⟨onward (by simp [endsDone, fits, read])
              (by simp [Streaming.scanned, fits, read]), ?_⟩
            simp [work, more]
            omega
    · cases moved
  | take stop =>
    cases stop with
    | none =>
      simp only [Scan.next] at moved
      split at moved
      · cases moved
      next data rest queued =>
        split at moved <;> cases moved
        next runs =>
          refine ⟨{ calm with
            payloads := by simpa [queued] using calm.payloads
            handled waits := by cases runs.symm.trans waits }, ?_⟩
          simp [work, queued]
    | some stop => cases allowed
  | scanStop =>
    simp only [Scan.next] at moved
    split at moved <;> cases moved
    next stopped => cases stopped.1.symm.trans (calm.stopped stopped.2)
  | handlerExit =>
    simp only [Scan.next] at moved
    split at moved <;> cases moved
    next idle =>
      refine ⟨{ calm with stopped _ := idle.2.2, handled _ := ⟨idle.2.2, idle.2.1⟩ }, ?_⟩
      simp [work, idle]
  | pingFail =>
    simp only [Scan.next] at moved
    split at moved <;> cases moved
    next pings =>
      refine ⟨{ calm with reason := ?_ }, by simp [work, pings]⟩
      dsimp only [setEndReason]
      split
      · exact .inl rfl
      · exact calm.reason
  | scanPanic | interrupt => cases allowed

/-- The goroutines do not wait for each other. -/
theorem Scan.Calm.goes_on (calm : s.Calm limit numbered)
    : s.finished ∨ ∃ a s', Undisturbed s a ∧ s.next limit a = some s' := by
  by_cases handles : s.handlerRuns
  · refine .inr ?_
    cases queued : s.dataChan with
    | cons data rest => exact ⟨.take none, _, trivial, by simp [Scan.next, queued, handles]; rfl⟩
    | nil =>
      by_cases runs : s.scannerRuns
      · refine ⟨.scan false, ?_⟩
        simp only [Scan.next, runs, if_true, queued]
        split <;> [skip; (split <;> [skip; split])] <;> exact ⟨_, trivial, rfl⟩
      · exact ⟨.handlerExit, _, trivial, by simp [Scan.next, queued, handles, runs]; rfl⟩
  · rw [Bool.not_eq_true] at handles
    exact .inl ⟨(calm.handled handles).1, handles⟩

/-- A stream that nothing disturbs comes to its end. If no ping failed it has then passed on exactly
the payloads before the first end marker, with the reason that fits, if and only if its lines are
readable.
-/
theorem scanner_passes_payloads_iff (reached : (scanMachine limit upstream).Reaches Undisturbed s)
    : (s.finished
        → (Readable limit upstream → s.passed = payloads upstream.zipIdx)
          ∧ (s.status.endReason ≠ some .pingFail
            → (s.passed = payloads upstream.zipIdx
                ∧ (s.status.endReason = some .done ↔ Marked upstream.zipIdx)
              ↔ Readable limit upstream)))
      ∧ (s.finished ∨ ∃ a s', Undisturbed s a ∧ s.next limit a = some s')
      ∧ ∀ a s', Undisturbed s a → s.next limit a = some s' → s'.work < s.work := by
  have calm : s.Calm limit upstream.zipIdx := by
    refine reached.invariant _ ?_ fun _ calm allowed moved => (calm.next allowed moved).1
    rintro s rfl
    exact ⟨rfl, nofun, nofun, nofun, .inr ⟨rfl, rfl⟩⟩
  refine ⟨fun ⟨scanned, handled⟩ => ?_, calm.goes_on,
    fun a s' allowed moved => (calm.next allowed moved).2⟩
  have all := calm.payloads
  rw [(calm.handled handled).2, calm.scanned scanned, append_nil, Streaming.scanned,
    append_nil] at all
  rw [all]
  refine ⟨fun readable => ((scanned_eq_iff upstream 0).mpr readable).1, fun pinged => ?_⟩
  have reason := calm.reason.resolve_left pinged
  rw [if_neg (by simp [scanned])] at reason
  rw [reason]
  exact scanned_eq_iff upstream 0

theorem marked_passed
    : ((scanMachine 64 ["data: a", "data:[DONE]"]).play
        { lines := [("data: a", 0), ("data:[DONE]", 1)] }
        [.scan false, .scan false, .take none, .handlerExit]).passed
      = [(['a'], 0)] := by
  refine ((scanner_passes_payloads_iff (Machine.reaches_play rfl ?_)).1 ⟨rfl, rfl⟩).1 ?_
  · exact ⟨trivial, rfl, trivial, rfl, trivial, rfl, trivial, rfl, trivial⟩
  · simp only [Readable]
    decide

/-- Of a bare end marker the closing bracket is passed on. -/
theorem bareMarker_passed_on
    : ∃ s, (scanMachine 64 ["[DONE]"]).Reaches Undisturbed s ∧ s.finished
        ∧ payloads ["[DONE]"].zipIdx = [] ∧ s.passed = [([']'], 0)]
        ∧ Marked ["[DONE]"].zipIdx ∧ s.status.endReason = some .eof :=
  ⟨(scanMachine 64 ["[DONE]"]).play { lines := [("[DONE]", 0)] }
      [.scan false, .take none, .scan false, .handlerExit],
    Machine.reaches_play rfl ⟨trivial, rfl, trivial, rfl, trivial, rfl, trivial, rfl, trivial⟩,
    ⟨rfl, rfl⟩, rfl, rfl, ⟨_, mem_cons_self, rfl⟩, rfl⟩

end HelsterApi.Streaming
