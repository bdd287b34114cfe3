import HelsterApi.Arithmetic.Rounding
import HelsterApi.Transition.Accounts

/-! Concurrent writers of one user row and of one token row, statement by statement: quota deltas
are relative updates, while the inviter reward and the edit of a token save columns of a row read
earlier.
-/

namespace HelsterApi.Quota

open Arithmetic Function Option
open Transition

variable {ι : Type*} [DecidableEq ι]

structure UserRow where
  (quota affCount affQuota affHistoryQuota : ℤ)
  deriving DecidableEq

def UserRow.invite (quotaForInviter : ℤ) (user : UserRow) : UserRow :=
  { user with
    affCount := user.affCount + 1
    affQuota := user.affQuota + quotaForInviter
    affHistoryQuota := user.affHistoryQuota + quotaForInviter }

inductive TransferError where
  | minimum | affQuotaInsufficient
  deriving DecidableEq

variable (quotaPerUnit : ℚ)

def UserRow.transfer (quota : ℤ) (user : UserRow) : Except TransferError UserRow :=
  if (quota : ℚ) < quotaPerUnit then .error .minimum
  else if user.affQuota < quota then .error .affQuotaInsufficient
  else .ok { user with affQuota := user.affQuota - quota, quota := user.quota + quota }

structure UserSettings where
  quotaForInviter : ℤ
  quotaPerUnit : ℚ

structure Transfer where
  quota : ℤ
  user : UserRow

/-- A user row, the users that running rewards have in memory, the transfer that holds the row lock,
and the intended changes of the quota.
-/
structure UserState (ι : Type*) where
  row : UserRow
  rewards : ι → Option UserRow
  transfer : Option Transfer
  changes : List (Change ℤ)

/-- The relative update of a charge, a refund or a top-up, an administrator's override, the two
statements of a reward, and a transfer's locking read, commit and rollback.
-/
inductive UserStatement (ι : Type*) where
  | change (delta : ℤ)
  | override (quota : ℤ)
  | rewardRead (reward : ι)
  | rewardSave (reward : ι)
  | transferRead (quota : ℤ)
  | transferCommit
  | transferRollback

def UserState.write (s : UserState ι) (row : UserRow) (changes : List (Change ℤ)) : UserState ι :=
  { s with row := row, changes := changes }

/-- A write waits for the row lock; a plain read does not. -/
def UserState.next (cfg : UserSettings) (s : UserState ι)
    : UserStatement ι → Option (UserState ι)
  | .change delta =>
    if s.transfer.isNone then
      some (s.write { s.row with quota := s.row.quota + delta } (.add delta :: s.changes))
    else none
  | .override quota =>
    if s.transfer.isNone then some (s.write { s.row with quota := quota } (.set quota :: s.changes))
    else none
  | .rewardRead reward =>
    some { s with
      rewards := update s.rewards reward
        (some (s.row.invite cfg.quotaForInviter)) }
  | .rewardSave reward =>
    if s.transfer.isNone then
      (s.rewards reward).map fun user =>
        { s.write user s.changes with rewards := update s.rewards reward none }
    else none
  | .transferRead quota =>
    if s.transfer.isNone then
      match s.row.transfer cfg.quotaPerUnit quota with
      | .error _ => some s
      | .ok user => some { s with transfer := some ⟨quota, user⟩ }
    else none
  | .transferCommit =>
    s.transfer.map fun transfer =>
      { s.write transfer.user (.add transfer.quota :: s.changes) with transfer := none }
  | .transferRollback => s.transfer.map fun _ => { s with transfer := none }

def userMachine (ι : Type*) [DecidableEq ι] (cfg : UserSettings)
    : Machine (UserState ι) (UserStatement ι) where
  initial s := s.changes = [.set s.row.quota] ∧ s.rewards = (fun _ => none)
    ∧ s.transfer = none
  next := UserState.next cfg

def userQuota (ι : Type*) : Stored (UserState ι) ℤ where
  value s := s.row.quota
  changes := UserState.changes

/-- A reward saves its user only while the row still has the quota it read. -/
def UserState.SavesCurrent (s : UserState ι) : UserStatement ι → Prop
  | .rewardSave reward => ∀ user ∈ s.rewards reward, user.quota = s.row.quota
  | _ => True

theorem UserState.no_transfer {ι : Type*} {s : UserState ι}
    (free : s.transfer.isNone = true) {transfer} (running : transfer ∈ s.transfer)
    : False := by
  simp [isNone_iff_eq_none.mp free] at running

theorem transfer_current {cfg} {s : UserState ι}
    (reached : (userMachine ι cfg).Reaches anyStep s)
    : ∀ transfer ∈ s.transfer, transfer.user.quota = s.row.quota + transfer.quota := by
  refine reached.invariant
    (fun s => ∀ transfer ∈ s.transfer, transfer.user.quota = s.row.quota + transfer.quota)
    ?_ ?_
  · intro s start transfer running
    simp [start.2.2] at running
  · intro s statement s' _ current _ moved
    cases statement with
    | change | override =>
      obtain ⟨free, written⟩ := ite_none_right_eq_some.mp moved
      cases written
      exact fun transfer running => (s.no_transfer free running).elim
    | rewardRead reward =>
      cases moved
      exact current
    | rewardSave reward =>
      obtain ⟨free, saved⟩ := ite_none_right_eq_some.mp moved
      obtain ⟨user, _, rfl⟩ := map_eq_some_iff.mp saved
      exact fun transfer running => (s.no_transfer free running).elim
    | transferRead quota =>
      obtain ⟨free, read⟩ := ite_none_right_eq_some.mp moved
      cases outcome : s.row.transfer cfg.quotaPerUnit quota with rw [outcome] at read
      | error e =>
        cases read
        exact current
      | ok user =>
        cases read
        intro transfer running
        obtain rfl := mem_some_iff.mp running
        unfold UserRow.transfer at outcome
        split at outcome
        · cases outcome
        split at outcome
        · cases outcome
        cases outcome
        rfl
    | transferCommit | transferRollback =>
      obtain ⟨transfer, _, rfl⟩ := map_eq_some_iff.mp moved
      intro other running
      cases running

/-- A statement keeps the changes of a user's quota exactly if it saves no user whose quota has
changed since.
-/
theorem userQuota_step {cfg s s' statement} (reached : (userMachine ι cfg).Reaches anyStep s)
    (reflects : (userQuota ι).Reflects s) (moved : (userMachine ι cfg).next s statement = some s')
    : (userQuota ι).Reflects s' ↔ s.SavesCurrent statement := by
  cases statement with
  | change delta =>
    obtain ⟨_, written⟩ := ite_none_right_eq_some.mp moved
    cases written
    exact iff_of_true (reflects.add rfl rfl) trivial
  | override quota =>
    obtain ⟨_, written⟩ := ite_none_right_eq_some.mp moved
    cases written
    exact iff_of_true (Stored.reflects_of_set (s := s) rfl rfl) trivial
  | rewardRead reward =>
    cases moved
    exact iff_of_true reflects trivial
  | rewardSave reward =>
    obtain ⟨_, saved⟩ := ite_none_right_eq_some.mp moved
    obtain ⟨user, held, rfl⟩ := map_eq_some_iff.mp saved
    rw [reflects.iff_kept (by rfl)]
    simp only [UserState.SavesCurrent, held, mem_some_iff, forall_eq']
    rfl
  | transferRead quota =>
    obtain ⟨_, read⟩ := ite_none_right_eq_some.mp moved
    refine iff_of_true ?_ trivial
    split at read <;> cases read <;> exact reflects
  | transferCommit =>
    obtain ⟨transfer, running, rfl⟩ := map_eq_some_iff.mp moved
    exact iff_of_true (reflects.add (transfer_current reached transfer running) rfl) trivial
  | transferRollback =>
    obtain ⟨transfer, _, rfl⟩ := map_eq_some_iff.mp moved
    exact iff_of_true reflects trivial

inductive TokenStatus where
  | enabled
  | disabled
  | expired
  | exhausted
  | other (code : ℤ)
  deriving DecidableEq

structure TokenRow where
  name : String
  status : TokenStatus
  (expiredTime remainQuota : ℤ)
  (unlimitedQuota modelLimitsEnabled : Bool)
  modelLimits : String
  allowIps : Option String
  group : String
  crossGroupRetry : Bool
  (usedQuota accessedTime : ℤ)

def TokenRow.change (delta now : ℤ) (token : TokenRow) : TokenRow :=
  { token with
    remainQuota := token.remainQuota + delta
    usedQuota := token.usedQuota - delta
    accessedTime := now }

/-- The columns it selects are written, the others stay. -/
def TokenRow.update (row token : TokenRow) : TokenRow :=
  { token with usedQuota := row.usedQuota, accessedTime := row.accessedTime }

inductive TokenEditError where
  | nameTooLong
  | quotaNegative
  | quotaExceedMax (max : ℤ)
  | expiredCannotEnable
  | exhaustedCannotEnable

structure TokenEdit where
  statusOnly : Bool
  token : TokenRow

def TokenEdit.validate (edit : TokenEdit) : Option TokenEditError :=
  let maxQuotaValue := truncate (1000000000 * quotaPerUnit)
  if 50 < edit.token.name.utf8ByteSize then some .nameTooLong
  else if edit.token.unlimitedQuota then none
  else if edit.token.remainQuota < 0 then some .quotaNegative
  else if maxQuotaValue < edit.token.remainQuota then some (.quotaExceedMax maxQuotaValue)
  else none

def TokenEdit.refusal (now : ℤ) (edit : TokenEdit) (cleanToken : TokenRow)
    : Option TokenEditError :=
  if edit.token.status = .enabled then
    if cleanToken.status = .expired ∧ cleanToken.expiredTime ≤ now
      ∧ cleanToken.expiredTime ≠ -1 then
      some .expiredCannotEnable
    else if cleanToken.status = .exhausted ∧ cleanToken.remainQuota ≤ 0
      ∧ cleanToken.unlimitedQuota = false then
      some .exhaustedCannotEnable
    else none
  else none

/-- Only an edit of the status leaves the quota it read in place. -/
def TokenEdit.apply (edit : TokenEdit) (cleanToken : TokenRow) : TokenRow :=
  if edit.statusOnly then { cleanToken with status := edit.token.status }
  else
    { cleanToken with
      name := edit.token.name
      expiredTime := edit.token.expiredTime
      remainQuota := edit.token.remainQuota
      unlimitedQuota := edit.token.unlimitedQuota
      modelLimitsEnabled := edit.token.modelLimitsEnabled
      modelLimits := edit.token.modelLimits
      allowIps := edit.token.allowIps
      group := edit.token.group
      crossGroupRetry := edit.token.crossGroupRetry }

def TokenEdit.run (now : ℤ) (edit : TokenEdit) (cleanToken : TokenRow)
    : Except TokenEditError TokenRow :=
  match edit.validate quotaPerUnit with
  | some e => .error e
  | none =>
    match edit.refusal now cleanToken with
    | some e => .error e
    | none => .ok (edit.apply cleanToken)

structure PendingEdit where
  statusOnly : Bool
  token : TokenRow

/-- A token row, the tokens that running edits are about to write, and the intended changes of the
quota.
-/
structure TokenState (ι : Type*) where
  row : TokenRow
  edits : ι → Option PendingEdit
  changes : List (Change ℤ)

/-- The relative update of a charge or a refund, and the read and the write of an edit. -/
inductive TokenStatement (ι : Type*) where
  | change (delta now : ℤ)
  | editRead (call : ι) (edit : TokenEdit) (now : ℤ)
  | editWrite (call : ι)

/-- An edit that is refused writes nothing. -/
def TokenState.next (s : TokenState ι)
    : TokenStatement ι → Option (TokenState ι)
  | .change delta now =>
    some { s with row := s.row.change delta now, changes := .add delta :: s.changes }
  | .editRead call edit now =>
    match edit.run quotaPerUnit now s.row with
    | .error _ => some s
    | .ok token =>
      some { s with edits := update s.edits call (some ⟨edit.statusOnly, token⟩) }
  | .editWrite call =>
    (s.edits call).map fun pending =>
      { row := s.row.update pending.token
        edits := update s.edits call none
        changes :=
          if pending.statusOnly then s.changes
          else .set pending.token.remainQuota :: s.changes }

def tokenMachine (ι : Type*) [DecidableEq ι] (quotaPerUnit : ℚ)
    : Machine (TokenState ι) (TokenStatement ι) where
  initial s := s.changes = [.set s.row.remainQuota] ∧ s.edits = fun _ => none
  next := TokenState.next quotaPerUnit

def tokenQuota (ι : Type*) : Stored (TokenState ι) ℤ where
  value s := s.row.remainQuota
  changes := TokenState.changes

/-- An edit of the status is written only while the row still has the quota it read. -/
def TokenState.SavesCurrent (s : TokenState ι) : TokenStatement ι → Prop
  | .editWrite call => ∀ pending ∈ s.edits call, pending.statusOnly = true
      → pending.token.remainQuota = s.row.remainQuota
  | _ => True

/-- A statement keeps the changes of a token's quota exactly if it is no write of a status whose
token was read before they were made.
-/
theorem tokenQuota_step {quotaPerUnit s s' statement} (reflects : (tokenQuota ι).Reflects s)
    (moved : (tokenMachine ι quotaPerUnit).next s statement = some s')
    : (tokenQuota ι).Reflects s' ↔ s.SavesCurrent statement := by
  cases statement with
  | change delta now =>
    cases moved
    exact iff_of_true (reflects.add rfl rfl) trivial
  | editRead call edit now =>
    refine iff_of_true ?_ trivial
    change (match edit.run quotaPerUnit now s.row with
      | .error _ => some s
      | .ok token => _) = some s' at moved
    split at moved <;> cases moved <;> exact reflects
  | editWrite call =>
    obtain ⟨⟨statusOnly, token⟩, held, rfl⟩ := map_eq_some_iff.mp moved
    simp only [TokenState.SavesCurrent, held, mem_some_iff, forall_eq']
    cases statusOnly with
    | true =>
      rw [reflects.iff_kept (by rfl)]
      exact ⟨fun kept _ => kept, fun kept => kept rfl⟩
    | false => exact iff_of_true (Stored.reflects_of_set (s := s) rfl rfl) nofun

/-- In every interleaving of the writers of a user row and of a token row, each delta is
reflected in the stored quota unless the quota was set later, exactly if no reward and no
edit of a status saves a quota that has changed since it was read.
-/
theorem quota_deltas_kept_exactly
    : (∀ cfg : UserSettings,
        (userMachine ι cfg).KeepsExactly UserState.SavesCurrent (userQuota ι).Reflects)
      ∧ ∀ quotaPerUnit : ℚ, (tokenMachine ι quotaPerUnit).KeepsExactly
          TokenState.SavesCurrent (tokenQuota ι).Reflects := by
  constructor
  · intro cfg
    refine Machine.keepsExactly_of_step ?_ ?_
    · intro s start
      exact (congrArg due start.1).symm
    · intro s statement s' reached reflects moved
      exact userQuota_step reached reflects moved
  · intro quotaPerUnit
    refine Machine.keepsExactly_of_step ?_ ?_
    · intro s start
      exact (congrArg due start.1).symm
    · intro s statement s' _ reflects moved
      exact tokenQuota_step reflects moved

def inviter : UserState Unit where
  row := ⟨1000, 0, 0, 0⟩
  rewards := fun _ => none
  transfer := none
  changes := [.set 1000]

def chargeInReward : List (UserStatement Unit) := [.rewardRead (), .change (-100), .rewardSave ()]

def sharedToken : TokenState Unit where
  row := ⟨"key", .enabled, -1, 1000, false, false, "", some "", "", false, 0, 0⟩
  edits := fun _ => none
  changes := [.set 1000]

def chargeInDisabling : List (TokenStatement Unit) :=
  [.editRead () ⟨true, { sharedToken.row with status := .disabled, remainQuota := 0 }⟩ 10,
    .change (-100) 11, .editWrite ()]

/-- Neither charge is reflected afterwards. -/
theorem charges_overwritten
    : ((userMachine Unit ⟨500, 1⟩).Reaches anyStep
        ((userMachine Unit ⟨500, 1⟩).play inviter chargeInReward)
        ∧ ((userMachine Unit ⟨500, 1⟩).play inviter chargeInReward).row = ⟨1000, 1, 500, 500⟩
        ∧ ¬(userQuota Unit).Reflects ((userMachine Unit ⟨500, 1⟩).play inviter chargeInReward))
      ∧ (tokenMachine Unit 1).Reaches anyStep
        ((tokenMachine Unit 1).play sharedToken chargeInDisabling)
      ∧ ((tokenMachine Unit 1).play sharedToken chargeInDisabling).row.remainQuota = 1000
      ∧ ¬(tokenQuota Unit).Reflects
          ((tokenMachine Unit 1).play sharedToken chargeInDisabling) := by
  refine ⟨⟨Machine.reaches_play ⟨rfl, rfl, rfl⟩ (by decide +kernel), by decide +kernel,
    by decide +kernel⟩, Machine.reaches_play ⟨rfl, rfl⟩ (by decide +kernel),
    by decide +kernel, by decide +kernel⟩

end HelsterApi.Quota
