import HelsterApi.Relational.Table
import HelsterApi.Transition.Machine

/-! Redemption codes: `Redeem` as one transaction on the row of the code, and updates by
administrators, which read the row and later write it back. A redeemed code is used, unless one of
them writes a status back that was read before.
-/

namespace HelsterApi.Redemptions

open Relational Transition

section

def statusEnabled : ℤ := 1

def statusDisabled : ℤ := 2

def statusUsed : ℤ := 3

/-- A `redemptions` row. Deleted rows stay in the table, where queries skip them. -/
structure Redemption where
  (id userId : ℤ)
  key : String
  status : ℤ := statusEnabled
  name : String
  (quota createdTime : ℤ)
  (redeemedTime usedUserId : ℤ := 0)
  expiredTime : ℤ
  deleted : Bool := false

abbrev CodeTable : Type := TwoKeyed Redemption.id Redemption.key

structure Codes where
  codes : CodeTable
  users : ℤ → Option ℤ

/-- Errors of `Redeem`; what went wrong in the transaction is only logged. -/
inductive RedeemError where
  | keyMissing | invalidUserId | redeemFailed
  deriving DecidableEq

/-- Text of an error; `redeem.failed` is a key that is translated. -/
def RedeemError.message : RedeemError → String
  | .keyMissing => "未提供兑换码"
  | .invalidUserId => "无效的 user id"
  | .redeemFailed => "redeem.failed"

variable (t : CodeTable)

def CodeTable.markUsed (id userId now : ℤ) : CodeTable :=
  t.update (fun row => decide (row.id = id ∧ row.status = statusEnabled ∧ row.deleted = false))
    (fun row => { row with redeemedTime := now, status := statusUsed, usedUserId := userId })
    (TwoKeyed.separates_of_keys fun _ _ => ⟨rfl, rfl⟩)

/-- The transaction of `Redeem`, rolled back with the text of its error. The row lock serializes
transactions on one code, so it is one step; `commits` says whether it is executed.
-/
def redeemTx (key : String) (userId now : ℤ) (commits : Bool) (db : Codes)
    : Except String (Redemption × Codes) :=
  match db.codes.rows.find? fun row => decide (row.key = key ∧ row.deleted = false) with
  | none => .error "无效的兑换码"
  | some redemption =>
    if redemption.status ≠ statusEnabled then .error "该兑换码已被使用"
    else if redemption.expiredTime ≠ 0 ∧ redemption.expiredTime < now then .error "该兑换码已过期"
    else
      match db.users userId with
      | none => .error "用户不存在"
      | some quota =>
        if commits then
          .ok (redemption, {
            codes := db.codes.markUsed redemption.id userId now
            users := Function.update db.users userId (some (quota + redemption.quota)) })
        else .error "commit failed"

def redeem (key : String) (userId now : ℤ) (commits : Bool) (db : Codes)
    : Except RedeemError (Redemption × Codes) :=
  if key = "" then .error .keyMissing
  else if userId = 0 then .error .invalidUserId
  else
    match redeemTx key userId now commits db with
    | .error _ => .error .redeemFailed
    | .ok redeemed => .ok redeemed

structure UpdateRequest where
  statusOnly : Bool
  (id status : ℤ)
  name : String
  (quota expiredTime : ℤ)

def getRedemptionById (id : ℤ) : Option Redemption :=
  if id = 0 then none
  else t.rows.find? fun row => decide (row.id = id ∧ row.deleted = false)

/-- The first half of `UpdateRedemption`: the row it reads, with the requested fields set; nothing
without such a row or with an expiry in the past.
-/
def UpdateRequest.read (req : UpdateRequest) (now : ℤ) (t : CodeTable) : Option Redemption :=
  match getRedemptionById t req.id with
  | none => none
  | some clean =>
    if req.statusOnly then some { clean with status := req.status }
    else if req.expiredTime ≠ 0 ∧ req.expiredTime < now then none
    else some { clean with name := req.name, quota := req.quota, expiredTime := req.expiredTime }

/-- `Update`, which writes five columns of the row as it was read. -/
def CodeTable.writeBack (clean : Redemption) : CodeTable :=
  t.update (fun row => decide (row.id = clean.id ∧ row.deleted = false))
    (fun row => { row with
      name := clean.name
      status := clean.status
      quota := clean.quota
      redeemedTime := clean.redeemedTime
      expiredTime := clean.expiredTime })
    (TwoKeyed.separates_of_keys fun _ _ => ⟨rfl, rfl⟩)

def CodeTable.softDelete (selects : Redemption → Bool) : CodeTable :=
  t.update (fun row => selects row && !row.deleted) (fun row => { row with deleted := true })
    (TwoKeyed.separates_of_keys fun _ _ => ⟨rfl, rfl⟩)

def Redemption.invalid (now : ℤ) (row : Redemption) : Bool :=
  decide (row.status = statusUsed ∨ row.status = statusDisabled
    ∨ (row.status = statusEnabled ∧ row.expiredTime ≠ 0 ∧ row.expiredTime < now))

/-- The rows, the row each administrator is about to write back, and the ids of the codes credited,
the last one first.
-/
structure CodeState (ι : Type*) where
  db : Codes
  pending : ι → Option Redemption
  credited : List ℤ

inductive CodeAction (ι : Type*) where
  | create (row : Redemption)
  | redeem (key : String) (userId now : ℤ) (commits : Bool)
  | read (admin : ι) (req : UpdateRequest) (now : ℤ)
  | write (admin : ι) (succeeds : Bool)
  | delete (id : ℤ)
  | deleteInvalid (now : ℤ)

variable {ι : Type*} [DecidableEq ι]

def CodeState.next (s : CodeState ι) : CodeAction ι → Option (CodeState ι)
  | .create row =>
    if row.status = statusEnabled ∧ row.deleted = false then
      (s.db.codes.insert row).map fun codes => { s with db := { s.db with codes := codes } }
    else none
  | .redeem key userId now commits =>
    match redeem key userId now commits s.db with
    | .error _ => some s
    | .ok (redemption, db) => some { s with db := db, credited := redemption.id :: s.credited }
  | .read admin req now =>
    some { s with pending := Function.update s.pending admin (req.read now s.db.codes) }
  | .write admin succeeds =>
    match s.pending admin with
    | none => none
    | some clean =>
      some { s with
        db := { s.db with
          codes := if succeeds then s.db.codes.writeBack clean else s.db.codes }
        pending := Function.update s.pending admin none }
  | .delete id =>
    some { s with db := { s.db with
      codes := s.db.codes.softDelete fun row => decide (row.id = id) } }
  | .deleteInvalid now =>
    some { s with db := { s.db with codes := s.db.codes.softDelete (Redemption.invalid now) } }

def codeMachine : Machine (CodeState ι) (CodeAction ι) where
  initial s := s.db.codes.rows = [] ∧ (∀ admin, s.pending admin = none) ∧ s.credited = []
  next := CodeState.next

end

open List Option Table CodeState

variable {ι : Type*} {s s' : CodeState ι} {action : CodeAction ι}

/-- A code was redeemed: its row was enabled, it is used now, and its quota was credited to a user
that exists.
-/
structure Redeems (s : CodeState ι) (redemption : Redemption) (userId now : ℤ) (s' : CodeState ι)
    : Prop where
  member : redemption ∈ s.db.codes.rows
  present : redemption.deleted = false
  enabled : redemption.status = statusEnabled
  named : redemption.key ≠ ""
  identified : userId ≠ 0
  user : s.db.users userId ≠ none
  codes : s'.db.codes = s.db.codes.markUsed redemption.id userId now
  users : s'.db.users = Function.update s.db.users userId
    ((s.db.users userId).map (· + redemption.quota))
  credited : s'.credited = redemption.id :: s.credited

/-- A step leaves codes and credits alone, adds a code, redeems one, writes one back, or deletes
some.
-/
inductive Steps (s s' : CodeState ι) : CodeAction ι → Prop where
  | same {action : CodeAction ι} (db : s'.db = s.db) (credited : s'.credited = s.credited)
    : Steps s s' action
  | create {row : Redemption} (enabled : row.status = statusEnabled)
      (inserted : s.db.codes.insert row = some s'.db.codes) (users : s'.db.users = s.db.users)
      (credited : s'.credited = s.credited)
    : Steps s s' (.create row)
  | redeem {key : String} {userId now : ℤ} {commits : Bool} {redemption : Redemption}
      (redeems : Redeems s redemption userId now s')
    : Steps s s' (.redeem key userId now commits)
  | write {admin : ι} {clean : Redemption} (held : s.pending admin = some clean)
      (codes : s'.db.codes = s.db.codes.writeBack clean) (users : s'.db.users = s.db.users)
      (credited : s'.credited = s.credited)
    : Steps s s' (.write admin true)
  | delete {action : CodeAction ι} {selects : Redemption → Bool}
      (codes : s'.db.codes = s.db.codes.softDelete selects) (users : s'.db.users = s.db.users)
      (credited : s'.credited = s.credited)
    : Steps s s' action

theorem redeemTx_eq_ok {key userId now commits db db' redemption}
    (redeemed : redeemTx key userId now commits db = .ok (redemption, db'))
    : redemption ∈ db.codes.rows ∧ redemption.key = key ∧ redemption.deleted = false
      ∧ redemption.status = statusEnabled
      ∧ ∃ quota, db.users userId = some quota
        ∧ db' = {
          codes := db.codes.markUsed redemption.id userId now
          users := Function.update db.users userId (some (quota + redemption.quota)) } := by
  unfold redeemTx at redeemed
  split at redeemed
  · cases redeemed
  rename_i found
  split at redeemed
  · cases redeemed
  rename_i enabled
  split at redeemed
  · cases redeemed
  split at redeemed
  · cases redeemed
  rename_i quota user
  split at redeemed
  · cases redeemed
    have selected := find?_some found
    rw [decide_eq_true_iff] at selected
    exact ⟨mem_of_find?_eq_some found, selected.1, selected.2,
      not_not.mp enabled, quota, user, rfl⟩
  · cases redeemed

section

variable [DecidableEq ι]

theorem CodeState.next_redeem {key userId now commits}
    (moved : s.next (.redeem key userId now commits) = some s')
    : Steps s s' (.redeem key userId now commits) := by
  simp only [next] at moved
  split at moved
  · cases moved
    exact .same rfl rfl
  next redemption db redeemed =>
    cases moved
    unfold Redemptions.redeem at redeemed
    split at redeemed
    · cases redeemed
    rename_i named
    split at redeemed
    · cases redeemed
    rename_i identified
    split at redeemed
    · cases redeemed
    rename_i result committed
    cases redeemed
    obtain ⟨member, sameKey, present, enabled, quota, user, rfl⟩ := redeemTx_eq_ok committed
    exact .redeem {
      member := member
      present := present
      enabled := enabled
      named := sameKey ▸ named
      identified := identified
      user := by rw [user]; exact some_ne_none quota
      codes := rfl
      users := by rw [user]; rfl
      credited := rfl }

theorem CodeState.next_steps (moved : s.next action = some s') : Steps s s' action := by
  cases action with try simp only [next] at moved
  | create row =>
    split at moved
    next fresh =>
      obtain ⟨codes, inserted, rfl⟩ := map_eq_some_iff.mp moved
      exact .create fresh.1 inserted rfl rfl
    · cases moved
  | redeem key userId now commits => exact next_redeem moved
  | read admin req now =>
    cases moved
    exact .same rfl rfl
  | write admin succeeds =>
    split at moved
    · cases moved
    rename_i clean held
    cases succeeds <;> cases moved
    · exact .same rfl rfl
    · exact .write held rfl rfl rfl
  | delete | deleteInvalid =>
    cases moved
    exact .delete rfl rfl rfl

end

variable {row : Redemption}

theorem Steps.keeps (steps : Steps s s' action) (member : row ∈ s.db.codes.rows)
    : ∃ row' ∈ s'.db.codes.rows, row'.id = row.id ∧ row'.key = row.key := by
  -- an update keeps the row with its keys
  have updated {selects : Redemption → Bool} {set : Redemption → Redemption}
      {separates : Separates (EitherKey Redemption.id Redemption.key) selects set}
      (keeps : (set row).id = row.id ∧ (set row).key = row.key)
      : ∃ row' ∈ (s.db.codes.update selects set separates).rows,
        row'.id = row.id ∧ row'.key = row.key :=
    ⟨_, mem_update.mpr ⟨row, member, rfl⟩, TwoKeyed.keys_written fun _ => keeps⟩
  cases steps with
  | same db _ => exact ⟨row, db ▸ member, rfl, rfl⟩
  | create _ inserted _ _ =>
    rw [insert_eq_some inserted]
    exact ⟨row, mem_append_left _ member, rfl, rfl⟩
  | redeem redeems =>
    rw [redeems.codes]
    exact updated ⟨rfl, rfl⟩
  | write _ codes _ _ | delete codes _ _ =>
    rw [codes]
    exact updated ⟨rfl, rfl⟩

/-- Every credited code has a row with a key, and there is a user if anything was credited. -/
structure CodeState.Recorded (s : CodeState ι) : Prop where
  row : ∀ id ∈ s.credited, ∃ row ∈ s.db.codes.rows, row.id = id ∧ row.key ≠ ""
  user : s.credited ≠ [] → ∃ userId, userId ≠ 0 ∧ s.db.users userId ≠ none

theorem CodeState.Recorded.step (recorded : s.Recorded) (steps : Steps s s' action)
    : s'.Recorded := by
  have keeps : ∀ row ∈ s.db.codes.rows, ∃ row' ∈ s'.db.codes.rows,
      row'.id = row.id ∧ row'.key = row.key :=
    fun _ member => steps.keeps member
  have rows : ∀ id ∈ s.credited, ∃ row ∈ s'.db.codes.rows, row.id = id ∧ row.key ≠ "" := by
    intro id credited
    obtain ⟨row, member, rfl, named⟩ := recorded.row id credited
    obtain ⟨row', member', sameId, sameKey⟩ := keeps row member
    exact ⟨row', member', sameId, sameKey ▸ named⟩
  cases steps with
  | same db credited => exact ⟨by rwa [credited], by rw [credited, db]; exact recorded.user⟩
  | create _ _ users credited | write _ _ users credited | delete _ users credited =>
    exact ⟨by rwa [credited], by rw [credited, users]; exact recorded.user⟩
  | @redeem _ userId _ _ redemption redeems =>
    refine ⟨?_, fun _ => ⟨userId, redeems.identified, ?_⟩⟩
    · rw [redeems.credited]
      intro id credited
      rcases mem_cons.mp credited with rfl | earlier
      · obtain ⟨row', member', sameId, sameKey⟩ := keeps redemption redeems.member
        exact ⟨row', member', sameId, sameKey ▸ redeems.named⟩
      · exact rows id earlier
    · rw [redeems.users, Function.update_self]
      intro missing
      exact redeems.user (map_eq_none_iff.mp missing)

def Reenables (s : CodeState ι) : CodeAction ι → Prop
  | .write admin succeeds =>
    succeeds = true
    ∧ ∃ clean, s.pending admin = some clean ∧ clean.status = statusEnabled
      ∧ clean.id ∈ s.credited
      ∧ ∃ row ∈ s.db.codes.rows, row.id = clean.id ∧ row.deleted = false
  | _ => False

/-- No code was credited twice and no credited code is enabled. -/
structure CodeState.Once (s : CodeState ι) : Prop where
  nodup : s.credited.Nodup
  used : ∀ row ∈ s.db.codes.rows, row.deleted = false → row.id ∈ s.credited
    → row.status ≠ statusEnabled

theorem CodeState.Once.step (once : s.Once) (recorded : s.Recorded) (steps : Steps s s' action)
    (kept : ¬Reenables s action)
    : s'.Once := by
  -- rows that an update skips are as before
  have updated {selects : Redemption → Bool} {set : Redemption → Redemption}
      {separates : Separates (EitherKey Redemption.id Redemption.key) selects set}
      (codes : s'.db.codes = s.db.codes.update selects set separates)
      (credited : s'.credited = s.credited)
      (used : ∀ row ∈ s.db.codes.rows, selects row → (set row).deleted = false
        → (set row).id ∈ s.credited → (set row).status ≠ statusEnabled)
      : s'.Once := by
    refine ⟨credited ▸ once.nodup, ?_⟩
    rw [codes, credited]
    intro row' member' present redeemed
    obtain ⟨row, member, rfl⟩ := mem_update.mp member'
    by_cases selected : selects row
    · rw [written, if_pos selected] at *
      exact used row member selected present redeemed
    · rw [written, if_neg selected] at *
      exact once.used row member present redeemed
  cases steps with
  | same db credited => exact ⟨credited ▸ once.nodup, by rw [db, credited]; exact once.used⟩
  | create enabled inserted users credited =>
    refine ⟨credited ▸ once.nodup, ?_⟩
    rw [insert_eq_some inserted, credited]
    intro row member present redeemed
    rcases mem_append.mp member with old | new
    · exact once.used row old present redeemed
    · -- a credited code has a row, with which a new one of its id would clash
      cases mem_singleton.mp new
      obtain ⟨other, otherMember, sameId, _⟩ := recorded.row _ redeemed
      exact absurd (.inl sameId) (not_clash_of_insert inserted otherMember)
  | @redeem _ userId now _ redemption redeems =>
    have unused : redemption.id ∉ s.credited := fun redeemed =>
      once.used redemption redeems.member redeems.present redeemed redeems.enabled
    refine ⟨redeems.credited ▸ nodup_cons.mpr ⟨unused, once.nodup⟩, ?_⟩
    rw [redeems.codes, redeems.credited]
    intro row' member' present redeemed
    obtain ⟨row, member, rfl⟩ := mem_update.mp member'
    unfold written at present redeemed ⊢
    split
    · exact (by decide : statusUsed ≠ statusEnabled)
    next skipped =>
      rw [if_neg skipped] at present redeemed
      rcases mem_cons.mp redeemed with same | earlier
      · have only := TwoKeyed.eq_of_first member redeems.member same
        subst only
        exact absurd (decide_eq_true ⟨rfl, redeems.enabled, present⟩) skipped
      · exact once.used row member present earlier
  | @write admin clean held codes users credited =>
    refine updated codes credited fun row member selected _ redeemed enabled => ?_
    obtain ⟨same, rowPresent⟩ := of_decide_eq_true selected
    exact kept ⟨rfl, clean, held, enabled, same ▸ redeemed, row, member, same, rowPresent⟩
  | delete codes users credited => exact updated codes credited (by simp)

variable [DecidableEq ι]

theorem recorded_of_reaches {ok} (reached : codeMachine.Reaches ok s)
    : s.Recorded := by
  refine reached.invariant CodeState.Recorded ?_ ?_
  · rintro s ⟨_, _, none_⟩
    refine ⟨fun id redeemed => ?_, fun some_ => absurd none_ some_⟩
    simp [none_] at redeemed
  · exact fun _ recorded _ moved => recorded.step (next_steps moved)

theorem once_of_reaches (reached : codeMachine.Reaches (fun s action => ¬Reenables s action) s)
    : s.Once := by
  refine reached.invariant CodeState.Once ?_ ?_
  · rintro s ⟨_, _, none_⟩
    refine ⟨none_ ▸ nodup_nil, fun row _ _ redeemed => ?_⟩
    simp [none_] at redeemed
  · intro s action s' reached once kept moved
    exact once.step (recorded_of_reaches reached) (next_steps moved) kept

theorem redeem_enabled {db userId} (member : row ∈ db.codes.rows)
    (present : row.deleted = false) (enabled : row.status = statusEnabled) (named : row.key ≠ "")
    (identified : userId ≠ 0) (user : db.users userId ≠ none)
    : ∃ db', redeem row.key userId row.expiredTime true db = .ok (row, db') := by
  have found : db.codes.rows.find? (fun other =>
      decide (other.key = row.key ∧ other.deleted = false)) = some row := by
    refine (find?_eq_some fun a b left right => ?_).mpr
      ⟨member, decide_eq_true ⟨rfl, present⟩⟩
    exact .inr ((of_decide_eq_true left).1.trans (of_decide_eq_true right).1.symm)
  obtain ⟨quota, userFound⟩ := ne_none_iff_exists'.mp user
  have inTime : ¬(row.expiredTime ≠ 0 ∧ row.expiredTime < row.expiredTime) := fun late =>
    absurd late.2 (Int.lt_irrefl _)
  unfold redeem
  rw [if_neg named, if_neg identified]
  simp only [redeemTx, found, enabled, ne_eq, not_true_eq_false, if_false, inTime, userFound,
    if_true]
  exact ⟨_, rfl⟩

theorem CodeState.Recorded.again (recorded : s.Recorded)
    (member : row ∈ s.db.codes.rows) (present : row.deleted = false)
    (enabled : row.status = statusEnabled) (redeemed : row.id ∈ s.credited)
    : ∃ later, codeMachine.Leads anyStep s later ∧ 2 ≤ later.credited.count row.id := by
  obtain ⟨other, otherMember, sameId, named⟩ := recorded.row row.id redeemed
  have only := TwoKeyed.eq_of_first otherMember member sameId
  subst only
  obtain ⟨userId, identified, user⟩ := recorded.user (ne_nil_of_mem redeemed)
  obtain ⟨db', second⟩ := redeem_enabled member present enabled named identified user
  have moved : codeMachine.next s (.redeem other.key userId other.expiredTime true)
      = some { s with db := db', credited := other.id :: s.credited } := by
    simp only [codeMachine, next, second]
  refine ⟨_, Machine.Leads.single trivial moved, ?_⟩
  have before := count_pos_iff.mpr redeemed
  rw [count_cons_self]
  omega

theorem Reenables.again (recorded : s.Recorded) (reenables : Reenables s action)
    (moved : s.next action = some s')
    : ∃ later id, codeMachine.Leads anyStep s' later ∧ 2 ≤ later.credited.count id := by
  cases action with
  | create | redeem | read | delete | deleteInvalid => exact reenables.elim
  | write admin succeeds =>
    obtain ⟨rfl, clean, held, enabled, redeemed, row, member, same, present⟩ := reenables
    have recorded' := recorded.step (next_steps moved)
    simp only [CodeState.next, held, if_true] at moved
    cases moved
    have rewritten : { row with
        name := clean.name
        status := clean.status
        quota := clean.quota
        redeemedTime := clean.redeemedTime
        expiredTime := clean.expiredTime } ∈ (s.db.codes.writeBack clean).rows :=
      mem_update.mpr ⟨row, member, if_pos (decide_eq_true ⟨same, present⟩)⟩
    obtain ⟨later, led, twice⟩ := recorded'.again rewritten present enabled (same ▸ redeemed)
    exact ⟨later, _, led, twice⟩

/-- The quota of every code is credited at most once in every run in which no administrator
writes the enabled status back to a redeemed code, and each such write allows a second
credit.
-/
theorem redeemed_once_iff
    : (∀ s : CodeState ι, codeMachine.Reaches (fun s action => ¬Reenables s action) s
        → ∀ id, s.credited.count id ≤ 1)
      ∧ ∀ (s s' : CodeState ι) (action : CodeAction ι), codeMachine.Reaches anyStep s
        → Reenables s action → codeMachine.next s action = some s'
        → ∃ later id, codeMachine.Leads anyStep s' later ∧ 2 ≤ later.credited.count id := by
  constructor
  · intro s reached id
    exact nodup_iff_count_le_one.mp (once_of_reaches reached).nodup id
  · intro s s' action reached reenables moved
    exact reenables.again (recorded_of_reaches reached) moved

def sampleState : CodeState Unit where
  db := ⟨.empty, fun userId => if userId = 1 ∨ userId = 2 then some 0 else none⟩
  pending := fun _ => none
  credited := []

def renameAcrossRedeem : List (CodeAction Unit) :=
  [.create ⟨1, 9, "KEY", 1, "gift", 500, 0, 0, 0, 0, false⟩,
    .read () ⟨false, 1, 0, "renamed", 500, 0⟩ 10, .redeem "KEY" 1 11 true, .write () true,
    .redeem "KEY" 2 12 true]

/-- The quota of the renamed code is credited to both users. -/
theorem renamed_code_credited_twice
    : codeMachine.Plays anyStep sampleState renameAcrossRedeem
      ∧ (codeMachine.play sampleState renameAcrossRedeem).credited = [1, 1]
      ∧ (codeMachine.play sampleState renameAcrossRedeem).db.users 1 = some 500
      ∧ (codeMachine.play sampleState renameAcrossRedeem).db.users 2 = some 500 := by
  decide +kernel

end HelsterApi.Redemptions
