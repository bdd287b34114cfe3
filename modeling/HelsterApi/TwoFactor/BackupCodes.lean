import HelsterApi.Relational.Table
import HelsterApi.TwoFactor.Verification

/-! Concurrent uses of the backup codes of one user. A call reads the unused codes once and looks
for a match among them; that a code is used up by one call only rests on the condition of the update
that marks it.
-/

namespace HelsterApi.TwoFactor

open Function List Relational Transition

def backupCodeLength : ℕ := 8

/-- `strings.ToUpper` of one character. Beyond ASCII only two letters have an ASCII capital; the
others cannot stand in a code.
-/
def upperChar (c : Char) : Char :=
  if c = 'ı' then 'I' else if c = 'ſ' then 'S' else c.toUpper

variable (code : String)

def cleanCode : List Char := (code.toList.filter (· ≠ '-')).map upperChar

def isCodeChar (c : Char) : Bool := decide ('A' ≤ c ∧ c ≤ 'Z') || decide ('0' ≤ c ∧ c ≤ '9')

/-- `common.ValidateBackupCode`. A code of such characters has one byte for each. -/
def validBackupCode : Bool :=
  decide ((cleanCode code).length = backupCodeLength) && (cleanCode code).all isCodeChar

def normalizeBackupCode : String :=
  if (cleanCode code).length = backupCodeLength then
    String.ofList ((cleanCode code).take 4 ++ '-' :: (cleanCode code).drop 4)
  else code

abbrev BackupCodeTable : Type := Keyed TwoFABackupCode.id

def isUnused (codeId : ℤ) (bc : TwoFABackupCode) : Bool :=
  decide (bc.id = codeId ∧ bc.isUsed = false)

def BackupCodeTable.markUsed (t : BackupCodeTable) (codeId : ℤ) : BackupCodeTable :=
  t.update (isUnused codeId) (fun bc => { bc with isUsed := true })
    (Keyed.separates_of_key fun _ _ => rfl)

/-- Where a call of `ValidateBackupCode` is: not under way; before it reads the unused codes; or
before its update.
-/
inductive CallPhase where
  | idle
  | reading (code : String)
  | marking (code : String) (codeId : ℤ)

/-- What a call answers: an error, that the code is wrong, or that it is right, with the row
it used up.
-/
inductive Answer where
  | error
  | wrong
  | accepted (codeId : ℤ)
  deriving DecidableEq

structure Return where
  code : String
  answer : Answer
  deriving DecidableEq

structure BackupCodeState (ι : Type*) where
  codes : BackupCodeTable
  calls : ι → CallPhase
  returned : List Return := []

open BackupCodeState

/-- Calls that begin, and their statements. `succeeds` says how a statement comes out. -/
inductive BackupCodeAction (ι : Type*) where
  | begin (call : ι) (code : String)
  | read (call : ι) (succeeds : Bool)
  | mark (call : ι) (succeeds : Bool)

def BackupCodeState.accepted {ι : Type*} (s : BackupCodeState ι) : List ℤ :=
  s.returned.filterMap fun r =>
    match r.answer with
    | .accepted codeId => some codeId
    | _ => none

section

variable {ι : Type*} [DecidableEq ι]

def BackupCodeState.put (s : BackupCodeState ι) (call : ι) (phase : CallPhase)
    : BackupCodeState ι :=
  { s with calls := update s.calls call phase }

def BackupCodeState.finish (s : BackupCodeState ι) (call : ι) (code : String) (answer : Answer)
    : BackupCodeState ι :=
  { s.put call .idle with returned := ⟨code, answer⟩ :: s.returned }

/-- One statement of `ValidateBackupCode`. The codes are compared with `normalizedCode` in the order
they were read, and the first match is updated. `passwordMatches` is `ValidatePasswordAndHash`.
-/
def BackupCodeState.next (passwordMatches : String → String → Bool) (s : BackupCodeState ι)
    : BackupCodeAction ι → Option (BackupCodeState ι)
  | .begin call code =>
    match s.calls call with
    | .idle =>
      if validBackupCode code then some (s.put call (.reading code))
      else some (s.finish call code .error)
    | _ => none
  | .read call succeeds =>
    match s.calls call with
    | .reading code =>
      if succeeds then
        let backupCodes := s.codes.rows.filter (!·.isUsed)
        match backupCodes.find? fun bc =>
            passwordMatches (normalizeBackupCode code) bc.codeHash with
        | some bc => some (s.put call (.marking code bc.id))
        | none => some (s.finish call code .wrong)
      else some (s.finish call code .error)
    | _ => none
  | .mark call succeeds =>
    match s.calls call with
    | .marking code codeId =>
      if succeeds then
        -- `RowsAffected == 1`: the identity is a key, so at most one row is affected.
        some { s.finish call code
            (if s.codes.affects (isUnused codeId) then .accepted codeId else .wrong) with
          codes := s.codes.markUsed codeId }
      else some (s.finish call code .error)
    | _ => none

def backupCodeMachine (ι : Type*) [DecidableEq ι] (passwordMatches : String → String → Bool)
    : Machine (BackupCodeState ι) (BackupCodeAction ι) where
  initial s := (∀ call, s.calls call = .idle) ∧ s.returned = []
  next := BackupCodeState.next passwordMatches

end

structure Presents (passwordMatches : String → String → Bool) (code : String) (bc : TwoFABackupCode)
    : Prop where
  valid : validBackupCode code = true
  matching : passwordMatches (normalizeBackupCode code) bc.codeHash = true

/-- A call moves on or returns without a code, or it uses up an unused code that belongs to what it
presented.
-/
inductive BackupSteps {ι : Type*} (passwordMatches : String → String → Bool)
    (s s' : BackupCodeState ι) : Prop where
  | moved (codes : s'.codes = s.codes) (returned : s'.returned = s.returned)
  | refused {code : String} {answer : Answer}
      (unaccepted : answer = .error ∨ answer = .wrong)
      (codes : s'.codes.rows = s.codes.rows)
      (returned : s'.returned = ⟨code, answer⟩ :: s.returned)
  | accepted {code : String} {bc : TwoFABackupCode} (member : bc ∈ s.codes.rows)
      (unused : bc.isUsed = false) (presented : Presents passwordMatches code bc)
      (codes : s'.codes = s.codes.markUsed bc.id)
      (returned : s'.returned = ⟨code, .accepted bc.id⟩ :: s.returned)

variable {t : BackupCodeTable} {codeId : ℤ}

theorem BackupCodeTable.rows_markUsed (missed : t.affects (isUnused codeId) = false)
    : (t.markUsed codeId).rows = t.rows := by
  have skipped : ∀ bc ∈ t.rows, isUnused codeId bc = false := by simpa [Table.affects] using missed
  calc (t.markUsed codeId).rows
      = t.rows.map id := by
        refine map_congr_left ?_
        intro bc member
        simp [written, skipped bc member]
    _ = t.rows := map_id t.rows

variable {bc : TwoFABackupCode}

section

variable {ι : Type*} {passwordMatches : String → String → Bool} {s s' : BackupCodeState ι}

/-- The code of a call is well-formed and, before the update, belongs to the row that is to be
updated.
-/
def CallPhase.Sound (passwordMatches : String → String → Bool) (codes : BackupCodeTable)
    : CallPhase → Prop
  | .idle => True
  | .reading code => validBackupCode code = true
  | .marking code codeId => ∃ bc ∈ codes.rows, bc.id = codeId ∧ Presents passwordMatches code bc

variable {phase : CallPhase}

theorem CallPhase.Sound.markUsed {codes} (sound : phase.Sound passwordMatches codes) (codeId)
    : phase.Sound passwordMatches (codes.markUsed codeId) := by
  cases phase with
  | idle => trivial
  | reading code => exact sound
  | marking code candidate =>
    obtain ⟨bc, member, same, presented⟩ := sound
    obtain ⟨bc', member', sameId, sameHash⟩ : ∃ bc' ∈ (codes.markUsed codeId).rows,
        bc'.id = bc.id ∧ bc'.codeHash = bc.codeHash := by
      refine ⟨_, Table.mem_update.mpr ⟨bc, member, rfl⟩, ?_⟩
      unfold written
      split <;> exact ⟨rfl, rfl⟩
    exact ⟨bc', member', sameId.trans same, presented.valid,
      by rw [sameHash]; exact presented.matching⟩

def BackupCodeState.Sound (passwordMatches : String → String → Bool) (s : BackupCodeState ι)
    : Prop := ∀ call, (s.calls call).Sound passwordMatches s.codes

/-- No row was accepted twice and accepted rows are used. -/
structure BackupCodeState.UsedUp (s : BackupCodeState ι) : Prop where
  once : s.accepted.Nodup
  used : ∀ bc ∈ s.codes.rows, bc.id ∈ s.accepted → bc.isUsed = true

theorem BackupSteps.usedUp (steps : BackupSteps passwordMatches s s') (before : s.UsedUp)
    : s'.UsedUp := by
  cases steps with
  | moved codes returned =>
    have same : s'.accepted = s.accepted := by simp only [BackupCodeState.accepted, returned]
    exact ⟨same ▸ before.once, by rw [codes, same]; exact before.used⟩
  | @refused code answer unaccepted codes returned =>
    have same : s'.accepted = s.accepted := by
      simp only [BackupCodeState.accepted, returned]
      rcases unaccepted with rfl | rfl <;> rfl
    exact ⟨same ▸ before.once, by rw [codes, same]; exact before.used⟩
  | @accepted code bc member unused presented codes returned =>
    have grown : s'.accepted = bc.id :: s.accepted := by
      simp [BackupCodeState.accepted, returned]
    have fresh : bc.id ∉ s.accepted := by
      intro again
      simp [before.used bc member again] at unused
    refine ⟨grown ▸ nodup_cons.mpr ⟨fresh, before.once⟩, ?_⟩
    rw [codes, grown]
    intro row rowMember rowAccepted
    obtain ⟨old, oldMember, rfl⟩ := Table.mem_update.mp rowMember
    clear rowMember
    unfold written at rowAccepted ⊢
    by_cases taken : isUnused bc.id old
    · rw [if_pos taken]
    · rw [if_neg taken] at rowAccepted ⊢
      rcases mem_cons.mp rowAccepted with same | earlier
      · simpa [isUnused, same] using taken
      · exact before.used old oldMember earlier

variable [DecidableEq ι] {call : ι}

namespace BackupCodeState

section

variable (sound : s.Sound passwordMatches)

include sound

theorem Sound.put (moved : phase.Sound passwordMatches s.codes)
    : (s.put call phase).Sound passwordMatches := by
  intro other
  change (update s.calls call phase other).Sound passwordMatches s.codes
  by_cases same : other = call
  · rwa [same, update_self]
  · rw [update_of_ne same]
    exact sound other

theorem Sound.finish (call : ι) (code answer) : (s.finish call code answer).Sound passwordMatches :=
  have idle : CallPhase.Sound passwordMatches s.codes .idle := trivial
  sound.put idle

variable {succeeds : Bool}

theorem next_read (moved : s.next passwordMatches (.read call succeeds) = some s')
    : BackupSteps passwordMatches s s' ∧ s'.Sound passwordMatches := by
  simp only [next] at moved
  split at moved
  next code phase =>
    have valid : validBackupCode code = true := by
      have own := sound call
      rwa [phase] at own
    split at moved
    · split at moved
      next bc found =>
        cases moved
        have member := (mem_filter.mp (mem_of_find?_eq_some found)).1
        have matching := find?_some found
        exact ⟨.moved rfl rfl, sound.put ⟨bc, member, rfl, valid, matching⟩⟩
      · cases moved
        exact ⟨.refused (.inr rfl) rfl rfl, sound.finish call code .wrong⟩
    · cases moved
      exact ⟨.refused (.inl rfl) rfl rfl, sound.finish call code .error⟩
  · cases moved

theorem next_mark (moved : s.next passwordMatches (.mark call succeeds) = some s')
    : BackupSteps passwordMatches s s' ∧ s'.Sound passwordMatches := by
  simp only [next] at moved
  split at moved
  next code codeId phase =>
    obtain ⟨candidate, candidateMember, sameId, presented⟩ : ∃ bc ∈ s.codes.rows,
        bc.id = codeId ∧ Presents passwordMatches code bc := by
      have own := sound call
      rwa [phase] at own
    split at moved <;> cases moved
    · have sound' : ∀ answer, Sound passwordMatches
          { s.finish call code answer with codes := s.codes.markUsed codeId } :=
        fun answer other => (sound.finish call code answer other).markUsed codeId
      refine ⟨?_, sound' _⟩
      cases affected : s.codes.affects (isUnused codeId) with
      | true =>
        obtain ⟨bc, member, selected⟩ := any_eq_true.mp affected
        obtain ⟨same, unused⟩ := of_decide_eq_true selected
        have itself := Keyed.eq_of_key member candidateMember (same.trans sameId.symm)
        subst itself
        subst sameId
        exact .accepted member unused presented rfl rfl
      | false => exact .refused (.inr rfl) (BackupCodeTable.rows_markUsed affected) rfl
    · exact ⟨.refused (.inl rfl) rfl rfl, sound.finish call code .error⟩
  · cases moved

theorem next_steps {action} (moved : s.next passwordMatches action = some s')
    : BackupSteps passwordMatches s s' ∧ s'.Sound passwordMatches := by
  cases action with
  | begin call code =>
    simp only [next] at moved
    split at moved
    · split at moved
      next valid =>
        cases moved
        exact ⟨.moved rfl rfl, sound.put valid⟩
      · cases moved
        exact ⟨.refused (.inl rfl) rfl rfl, sound.finish call code .error⟩
    · cases moved
  | read call succeeds => exact next_read sound moved
  | mark call succeeds => exact next_mark sound moved

end

theorem sound_of_reaches (reached : (backupCodeMachine ι passwordMatches).Reaches anyStep s)
    : s.Sound passwordMatches := by
  refine reached.invariant (Sound passwordMatches) ?_ ?_
  · rintro s ⟨idle, _⟩ call
    rw [idle call]
    trivial
  · intro s action s' _ sound _ moved
    exact (next_steps sound moved).2

theorem usedUp_of_reaches (reached : (backupCodeMachine ι passwordMatches).Reaches anyStep s)
    : s.UsedUp := by
  refine reached.invariant UsedUp ?_ ?_
  · rintro s ⟨_, none⟩
    have empty : s.accepted = [] := by simp [accepted, none]
    exact ⟨empty ▸ nodup_nil, by rw [empty]; nofun⟩
  · intro s action s' reached before _ moved
    exact (next_steps (sound_of_reaches reached) moved).1.usedUp before

end BackupCodeState

/-- Whatever calls run concurrently, no row is accepted twice, and a call that is accepted
presented the code of a row that is unused at that moment.
-/
theorem backup_code_accepted_once
    (reached : (backupCodeMachine ι passwordMatches).Reaches anyStep s)
    : s.accepted.Nodup
      ∧ ∀ action s', s.next passwordMatches action = some s'
        → ∀ r codeId, s'.returned = r :: s.returned → r.answer = .accepted codeId
        → ∃ bc ∈ s.codes.rows, bc.id = codeId ∧ bc.isUsed = false
          ∧ Presents passwordMatches r.code bc := by
  refine ⟨(usedUp_of_reaches reached).once, ?_⟩
  intro action s' moved r codeId latest accepted
  cases (next_steps (sound_of_reaches reached) moved).1 with
  | moved _ returned =>
    rw [returned] at latest
    exact absurd latest.symm (cons_ne_self r s.returned)
  | @refused code answer unaccepted _ returned =>
    rw [returned] at latest
    cases latest
    rcases unaccepted with rfl | rfl <;> cases accepted
  | @accepted code bc member unused presented _ returned =>
    rw [returned] at latest
    cases latest
    cases accepted
    exact ⟨bc, member, rfl, unused, presented⟩

end

def plainMatches (hash : String) : Bool := decide (code = hash)

def oneCode : BackupCodeState (Fin 2) where
  codes := ⟨[{ id := 7, codeHash := "AB12-CD34", isUsed := false }], pairwise_singleton _ _⟩
  calls := fun _ => .idle

def twoCalls : List (BackupCodeAction (Fin 2)) :=
  [.begin 0 "ab12cd34", .begin 1 "AB12-CD34", .read 0 true, .read 1 true, .mark 0 true,
    .mark 1 true]

def afterTwoCalls : BackupCodeState (Fin 2) :=
  (backupCodeMachine (Fin 2) plainMatches).play oneCode twoCalls

/-- Of two calls that found the same row one is accepted. -/
theorem backup_code_accepted_once_race
    : afterTwoCalls.returned = [⟨"AB12-CD34", .wrong⟩, ⟨"ab12cd34", .accepted 7⟩]
      ∧ afterTwoCalls.accepted.Nodup := by
  have start : (backupCodeMachine (Fin 2) plainMatches).initial oneCode := ⟨fun _ => rfl, rfl⟩
  have plays : (backupCodeMachine (Fin 2) plainMatches).Plays anyStep oneCode twoCalls := by
    decide +kernel
  exact ⟨by decide +kernel, (backup_code_accepted_once (Machine.reaches_play start plays)).1⟩

end HelsterApi.TwoFactor
