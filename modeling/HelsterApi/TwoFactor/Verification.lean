import HelsterApi.Transition.Machine

/-! Verification of two-factor codes of one user, statement by statement. A request checks
the lock on the row as it loaded it, evaluates the code, and then counts the failure or
resets the counter.
-/

namespace HelsterApi.TwoFactor

open Function Transition

def maxFailAttempts : ℕ := 5

def lockoutDuration : ℤ := 300

structure TwoFA where
  (id userId : ℤ)
  secret : String
  isEnabled : Bool
  failedAttempts : ℕ
  (lockedUntil lastUsedAt : Option ℤ)

structure TwoFABackupCode where
  id : ℤ
  codeHash : String
  isUsed : Bool

def lockedAt (lockedUntil : Option ℤ) (now : ℤ) : Bool :=
  match lockedUntil with
  | none => false
  | some time => decide (now < time)

def TwoFA.isLocked (t : TwoFA) (now : ℤ) : Bool := lockedAt t.lockedUntil now

/-- The checks of libraries: a time-based code against the secret, the form of a backup code, and a
backup code against its hash.
-/
structure CodeChecks where
  totp : String → String → ℤ → Bool
  wellFormed : String → Bool
  matchesHash : String → String → Bool

inductive Check where
  | totp | backup
  deriving DecidableEq

/-- Where a request is: between requests; before its next check, with the row in memory, the code
and the checks left; before marking a backup code used; in a round of `IncrementFailedAttempts`
before its read or its conditional update, with the rounds left; or before the save of a verified
code.
-/
inductive Phase where
  | idle
  | checking (t : TwoFA) (code : String) (checks : List Check)
  | marking (t : TwoFA) (code : String) (codeId : ℤ) (checks : List Check)
  | counting (t : TwoFA) (code : String) (rounds : ℕ) (checks : List Check)
  | swapping (t : TwoFA) (code : String) (current : TwoFA) (readAt : ℤ) (rounds : ℕ)
      (checks : List Check)
  | saving (t : TwoFA)

def Phase.next (t : TwoFA) (code : String) (checks : List Check) : Phase :=
  match checks with
  | [] => .idle
  | checks => .checking t code checks

def maxUpdateRetries : ℕ := 5

inductive Verdict where
  | locked
  | error
  | wrong
  | right
  | found (codeId : ℤ)
  deriving DecidableEq

/-- The check on the row in memory, then the evaluation of the code. A backup code is compared with
the unused codes in turn; `none` stands for a failed read of these.
-/
def TwoFA.evaluate (v : CodeChecks) (t : TwoFA) (code : String) (now : ℤ)
    (unused : Option (List TwoFABackupCode))
    : Check → Verdict
  | .totp =>
    if t.isLocked now then .locked
    else if v.totp t.secret code now then .right
    else .wrong
  | .backup =>
    if t.isLocked now then .locked
    else if v.wellFormed code = false then .error
    else
      match unused with
      | none => .error
      | some unused =>
        match unused.find? fun bc => v.matchesHash code bc.codeHash with
        | none => .wrong
        | some bc => .found bc.id

/-- The rows of the user, the time, and the requests under way. `wrong` counts the wrong codes
evaluated since the account was last locked or reset, and `whileLocked` tells whether any code was
evaluated while it was locked.
-/
structure TwoFAState (ι : Type*) where
  row : TwoFA
  backupCodes : List TwoFABackupCode
  now : ℤ
  requests : ι → Phase
  wrong : ℕ := 0
  whileLocked : Bool := false

/-- Single statements, and time that passes. `succeeds` says how a statement comes out. -/
inductive TwoFAAction (ι : Type*) where
  | load (request : ι) (code : String) (checks : List Check)
  | evaluate (request : ι) (succeeds : Bool)
  | useCode (request : ι) (succeeds : Bool)
  | readCount (request : ι) (succeeds : Bool)
  | swapCount (request : ι) (succeeds : Bool)
  | save (request : ι) (succeeds : Bool)
  | tick (seconds : ℕ)

section

variable {ι : Type*} [DecidableEq ι] (s : TwoFAState ι) (request : ι) (phase : Phase)

def TwoFAState.put : TwoFAState ι :=
  { s with requests := update s.requests request phase }

/-- A request that goes on does not move the others. -/
theorem TwoFAState.requests_put_of_ne {request other} (different : other ≠ request)
    : (s.put request phase).requests other = s.requests other := by
  change update s.requests request phase other = s.requests other
  rw [update_of_ne different]

def TwoFAState.fail (t : TwoFA) (code : String) (checks : List Check) : TwoFAState ι :=
  { s.put request (.counting t code maxUpdateRetries checks) with wrong := s.wrong + 1 }

/-- The state after a check and its verdict. A locked row ends the check without looking at the
code; after a time-based code the backup codes are tried, an error of the backup check ends the
request.
-/
def TwoFAState.judge (t : TwoFA) (code : String) (check : Check) (checks : List Check)
    : Verdict → TwoFAState ι
  | .locked => s.put request (if check = .totp then Phase.next t code checks else .idle)
  | .error => s.put request .idle
  | .wrong =>
    { s.fail request t code checks with
      whileLocked := s.whileLocked || s.row.isLocked s.now }
  | .right =>
    { s.put request (.saving t) with whileLocked := s.whileLocked || s.row.isLocked s.now }
  | .found codeId =>
    { s.put request (.marking t code codeId checks) with
      whileLocked := s.whileLocked || s.row.isLocked s.now }

def TwoFAState.swap (current : TwoFA) (readAt : ℤ) : Option TwoFA :=
  if s.row.id = current.id ∧ s.row.failedAttempts = current.failedAttempts
      ∧ lockedAt s.row.lockedUntil readAt = false then
    some { s.row with
      failedAttempts := current.failedAttempts + 1
      lockedUntil := if maxFailAttempts ≤ current.failedAttempts + 1 then
          some (readAt + lockoutDuration) else current.lockedUntil }
  else none

/-- One statement. An error while a failure is counted or a success is saved is only
logged.
-/
def TwoFAState.next (v : CodeChecks) (s : TwoFAState ι) : TwoFAAction ι → Option (TwoFAState ι)
  | .load request code checks =>
    match s.requests request with
    | .idle => some (s.put request (Phase.next s.row code checks))
    | _ => none
  | .evaluate request succeeds =>
    match s.requests request with
    | .checking t code (check :: checks) =>
      let unused := if succeeds then some (s.backupCodes.filter (!·.isUsed)) else none
      some (s.judge request t code check checks (t.evaluate v code s.now unused check))
    | _ => none
  | .useCode request succeeds =>
    match s.requests request with
    | .marking t code codeId checks =>
      if succeeds then
        if s.backupCodes.any fun bc => decide (bc.id = codeId ∧ bc.isUsed = false) then
          some { s.put request (.saving t) with
            backupCodes := s.backupCodes.map fun bc =>
              if bc.id = codeId then { bc with isUsed := true } else bc }
        else some (s.fail request t code checks)
      else some (s.put request .idle)
    | _ => none
  | .readCount request succeeds =>
    match s.requests request with
    | .counting t code (rounds + 1) checks =>
      if succeeds then
        if s.row.isLocked s.now then
          some (s.put request (Phase.next { t with
            failedAttempts := s.row.failedAttempts
            lockedUntil := s.row.lockedUntil } code checks))
        else some (s.put request (.swapping t code s.row s.now rounds checks))
      else some (s.put request (Phase.next t code checks))
    | .counting t code 0 checks => some (s.put request (Phase.next t code checks))
    | _ => none
  | .swapCount request succeeds =>
    match s.requests request with
    | .swapping t code current readAt rounds checks =>
      if succeeds then
        match s.swap current readAt with
        | none => some (s.put request (.counting t code rounds checks))
        | some row =>
          some { s.put request (Phase.next { t with
              failedAttempts := row.failedAttempts
              lockedUntil := row.lockedUntil } code checks) with
            row := row
            wrong := if maxFailAttempts ≤ row.failedAttempts then 0 else s.wrong }
      else some (s.put request (Phase.next t code checks))
    | _ => none
  | .save request succeeds =>
    match s.requests request with
    | .saving t =>
      if succeeds then
        some { s.put request .idle with
          row := { t with
            failedAttempts := 0, lockedUntil := none, lastUsedAt := some s.now }
          wrong := 0 }
      else some (s.put request .idle)
    | _ => none
  | .tick seconds => some { s with now := s.now + seconds }

def twoFAMachine (v : CodeChecks) : Machine (TwoFAState ι) (TwoFAAction ι) where
  initial s := (∀ request, s.requests request = .idle) ∧ s.wrong = 0 ∧ s.whileLocked = false
  next := TwoFAState.next v

end

end HelsterApi.TwoFactor
