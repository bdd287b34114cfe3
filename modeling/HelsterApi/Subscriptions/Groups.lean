import HelsterApi.Control.Loop
import HelsterApi.Subscriptions.Usage

/-! Buying and ending subscriptions, and the user groups this moves. A purchase remembers the group
it takes the user out of; its end may take the user back there.
-/

namespace HelsterApi.Subscriptions

open Except Relational Store
open Billing (trimSpace)

/-- `getUserGroupByIdTx` for a valid id; a user that does not exist reads as "". -/
def Store.userGroup (s : Store) (userId : ℤ) : String := (s.groups userId).getD ""

def Store.setUserGroup (s : Store) (userId : ℤ) (group : String) : Store :=
  { s with groups := Function.update s.groups userId ((s.groups userId).map fun _ => group) }

/-- Whether the queries for another upgraded subscription select a row; `except` is left out. -/
def UserSubscription.upgrades (sub : UserSubscription) (userId now : ℤ) (except : Option ℤ)
    : Bool :=
  decide (sub.userId = userId ∧ sub.status = .active ∧ now < sub.endTime
    ∧ some sub.id ≠ except ∧ sub.upgradeGroup ≠ "")

/-- The explicit downgrade group, else the group before the purchase if the user is still in the one
it led to, else empty.
-/
def UserSubscription.groupAfter (sub : UserSubscription) (current : String) : String :=
  let downgradeGroup := trimSpace sub.downgradeGroup
  let target :=
    if downgradeGroup ≠ "" then downgradeGroup
    else if current ≠ trimSpace sub.upgradeGroup then ""
    else trimSpace sub.prevUserGroup
  if target = current then "" else target

def Store.moveUser (s : Store) (sub : UserSubscription) : Store :=
  let target := sub.groupAfter (s.userGroup sub.userId)
  if target = "" then s else s.setUserGroup sub.userId target

/-- Moving a user to another group writes no subscription. -/
theorem Store.moveUser_subs (s : Store) (sub) : (s.moveUser sub).subs = s.subs := by
  dsimp only [moveUser]
  split <;> rfl

/-- Nor does it write a record. -/
theorem Store.moveUser_records (s : Store) (sub) : (s.moveUser sub).records = s.records := by
  dsimp only [moveUser]
  split <;> rfl

variable {s : Store} {sub : UserSubscription} {userId : ℤ}

/-- Nor does it move another user. -/
theorem Store.moveUser_groups_of_ne (other : userId ≠ sub.userId)
    : (s.moveUser sub).groups userId = s.groups userId := by
  dsimp only [moveUser]
  split
  · rfl
  · exact Function.update_of_ne other ..

/-- A query for another upgraded subscription that fails reads as if there were none. -/
def downgradeUserGroupForSubscriptionTx (activeRead : Bool) (sub : UserSubscription)
    (now : ℤ) (s : Store)
    : Except SubscriptionError Store :=
  if trimSpace sub.downgradeGroup = "" ∧ trimSpace sub.upgradeGroup = "" then .ok s
  else if sub.userId ≤ 0 then .error (.ledger .invalidUserId)
  else if activeRead ∧ s.subs.affects (·.upgrades sub.userId now (some sub.id)) then .ok s
  else .ok (s.moveUser sub)

variable {activeRead : Bool} {now : ℤ} {s' : Store}

section

variable (done : downgradeUserGroupForSubscriptionTx activeRead sub now s = .ok s')

include done

/-- The end of a subscription leaves its user alone, for lack of a group to go to or because another
subscription upgrades them, or moves them.
-/
theorem downgradeUserGroup_ok
    : (s' = s ∧ ((trimSpace sub.downgradeGroup = "" ∧ trimSpace sub.upgradeGroup = "")
          ∨ (activeRead ∧ s.subs.affects (·.upgrades sub.userId now (some sub.id)))))
      ∨ s' = s.moveUser sub := by
  unfold downgradeUserGroupForSubscriptionTx at done
  split at done
  next nothing => exact .inl ⟨(ok.inj done).symm, .inl nothing⟩
  · split at done
    · cases done
    · split at done
      next other => exact .inl ⟨(ok.inj done).symm, .inr other⟩
      · exact .inr (ok.inj done).symm

/-- A downgrade writes no subscription. -/
theorem downgradeUserGroup_subs : s'.subs = s.subs := by
  rcases downgradeUserGroup_ok done with ⟨same, _⟩ | moved
  · rw [same]
  · rw [moved, moveUser_subs]

/-- A downgrade writes no record. -/
theorem downgradeUserGroup_records : s'.records = s.records := by
  rcases downgradeUserGroup_ok done with ⟨same, _⟩ | moved
  · rw [same]
  · rw [moved, moveUser_records]

end

/-- A downgrade moves no other user. -/
theorem downgradeUserGroup_groups_of_ne (other : userId ≠ sub.userId)
    (done : downgradeUserGroupForSubscriptionTx activeRead sub now s = .ok s')
    : s'.groups userId = s.groups userId := by
  rcases downgradeUserGroup_ok done with ⟨same, _⟩ | moved
  · rw [same]
  · rw [moved, moveUser_groups_of_ne other]

def newSubscription (cal : Calendar) (id userId : ℤ) (plan : SubscriptionPlan)
    (now endTime : ℤ) (currentGroup : String)
    : UserSubscription :=
  let nextReset := calcNextResetTime cal now plan endTime
  let upgradeGroup := trimSpace plan.upgradeGroup
  {
    id := id
    userId := userId
    planId := plan.id
    amountTotal := plan.totalAmount
    amountUsed := 0
    startTime := now
    endTime := endTime
    status := .active
    lastResetTime := if 0 < nextReset then now else 0
    nextResetTime := nextReset
    upgradeGroup := upgradeGroup
    prevUserGroup := if upgradeGroup ≠ "" ∧ currentGroup ≠ upgradeGroup then currentGroup else ""
    downgradeGroup := trimSpace plan.downgradeGroup
  }

/-- `id` is the key the database hands out. -/
def createUserSubscriptionFromPlanTx (cal : Calendar) (fault : Option String)
    (id userId : ℤ) (plan : SubscriptionPlan) (now : ℤ) (s : Store)
    : Except SubscriptionError Store :=
  if plan.id = 0 then .error .invalidPlan
  else if userId ≤ 0 then .error .invalidUser
  else
    transaction fault
      (if 0 < plan.maxPurchasePerUser ∧ plan.maxPurchasePerUser
          ≤ s.subs.rows.countP fun sub => decide (sub.userId = userId ∧ sub.planId = plan.id) then
        .error .purchaseLimit
      else
        match calcPlanEndTime cal now plan with
        | .error e => .error e
        | .ok endTime =>
          let currentGroup := s.userGroup userId
          let upgradeGroup := trimSpace plan.upgradeGroup
          let moved :=
            if upgradeGroup ≠ "" ∧ currentGroup ≠ upgradeGroup then
              s.setUserGroup userId upgradeGroup
            else s
          match s.subs.insert (newSubscription cal id userId plan now endTime currentGroup) with
          | none => .error (.ledger (.database "duplicate key"))
          | some subs => .ok { moved with subs := subs })

variable {id : ℤ}

/-- A creation adds one row and moves the user if the plan upgrades them. -/
theorem createFromPlan_ok {cal fault plan}
    (done : createUserSubscriptionFromPlanTx cal fault id userId plan now s = .ok s')
    : s'.records = s.records
      ∧ ∃ endTime, calcPlanEndTime cal now plan = .ok endTime
        ∧ s'.subs.rows = s.subs.rows
          ++ [newSubscription cal id userId plan now endTime (s.userGroup userId)]
        ∧ s'.groups
          = if trimSpace plan.upgradeGroup ≠ "" ∧ s.userGroup userId ≠ trimSpace plan.upgradeGroup
            then (s.setUserGroup userId (trimSpace plan.upgradeGroup)).groups
            else s.groups := by
  unfold createUserSubscriptionFromPlanTx at done
  rw [Control.ite_error_eq_ok, Control.ite_error_eq_ok, transaction_eq_ok,
    Control.ite_error_eq_ok] at done
  obtain ⟨_, _, _, _, done⟩ := done
  split at done
  · cases done
  rename_i endTime ends
  dsimp only at done
  split at done
  · cases done
  rename_i subs inserted
  refine ⟨?_, endTime, ends, ?_, ?_⟩ <;> rw [← ok.inj done]
  · split <;> rfl
  · exact Table.insert_eq_some inserted
  · split <;> rfl

/-- The queries whose errors are ignored, and the statement whose failure rolls back. -/
structure EndReads where
  (activeRead expiredRead : Bool)
  fault : Option String

def UserSubscription.cancelled (sub : UserSubscription) (now : ℤ) : UserSubscription :=
  { sub with status := .cancelled, endTime := now }

def adminInvalidateUserSubscription (w : EndReads) (userSubscriptionId now : ℤ) (s : Store)
    : Except SubscriptionError Store :=
  if userSubscriptionId ≤ 0 then .error (.ledger .invalidUserSubscriptionId)
  else
    transaction w.fault
      (match s.subs.get? userSubscriptionId with
      | none => .error (.ledger .recordNotFound)
      | some sub =>
        downgradeUserGroupForSubscriptionTx w.activeRead (sub.cancelled now) now
          (s.saveSub (sub.cancelled now)))

def adminDeleteUserSubscription (w : EndReads) (userSubscriptionId now : ℤ) (s : Store)
    : Except SubscriptionError Store :=
  if userSubscriptionId ≤ 0 then .error (.ledger .invalidUserSubscriptionId)
  else
    transaction w.fault
      (match s.subs.get? userSubscriptionId with
      | none => .error (.ledger .recordNotFound)
      | some sub =>
        match downgradeUserGroupForSubscriptionTx w.activeRead sub now s with
        | .error e => .error e
        | .ok moved => .ok { moved with subs := moved.subs.erase userSubscriptionId })

variable {w : EndReads}

/-- An invalidation cancels the row and downgrades its user. -/
theorem adminInvalidate_ok
    (done : adminInvalidateUserSubscription w id now s = .ok s')
    : ∃ sub, s.subs.get? id = some sub
      ∧ downgradeUserGroupForSubscriptionTx w.activeRead (sub.cancelled now) now
          (s.saveSub (sub.cancelled now)) = .ok s' := by
  unfold adminInvalidateUserSubscription at done
  rw [Control.ite_error_eq_ok, transaction_eq_ok] at done
  obtain ⟨_, _, done⟩ := done
  split at done
  · cases done
  rename_i sub found
  exact ⟨sub, found, done⟩

/-- A deletion downgrades the user of the row and erases it. -/
theorem adminDelete_ok (done : adminDeleteUserSubscription w id now s = .ok s')
    : ∃ sub moved, s.subs.get? id = some sub
      ∧ downgradeUserGroupForSubscriptionTx w.activeRead sub now s = .ok moved
      ∧ s' = { moved with subs := moved.subs.erase id } := by
  unfold adminDeleteUserSubscription at done
  rw [Control.ite_error_eq_ok, transaction_eq_ok] at done
  obtain ⟨_, _, done⟩ := done
  split at done
  · cases done
  rename_i sub found
  split at done
  · cases done
  rename_i moved downgraded
  exact ⟨sub, moved, found, downgraded, (ok.inj done).symm⟩

def UserSubscription.due (sub : UserSubscription) (userId now : ℤ) : Bool :=
  decide (sub.userId = userId ∧ sub.status = .active ∧ 0 < sub.endTime ∧ sub.endTime ≤ now)

def UserSubscription.expired (sub : UserSubscription) : UserSubscription :=
  { sub with status := .expired }

def Store.expire (s : Store) (userId now : ℤ) : Store :=
  { s with
    subs := s.subs.update (·.due userId now) UserSubscription.expired
      (Keyed.separates_of_key fun _ _ => rfl) }

/-- The expired subscription with a change of group that ended last: `end_time desc, id desc`. -/
def Store.lastExpired (s : Store) (userId : ℤ) : Option UserSubscription :=
  ((s.subs.rows.filter fun sub => decide (sub.userId = userId ∧ sub.status = .expired
    ∧ (sub.downgradeGroup ≠ "" ∨ sub.upgradeGroup ≠ ""))).insertionSort
      fun a b => b.EndsBefore a).head?

/-- The transaction of `ExpireDueSubscriptions` for one user. Queries may fail unnoticed. -/
def expireUserSubscriptions (w : EndReads) (userId now : ℤ) (s : Store)
    : Except SubscriptionError Store :=
  transaction w.fault
    (let marked := s.expire userId now
    if w.activeRead ∧ marked.subs.affects (·.upgrades userId now none) then .ok marked
    else if w.expiredRead = false then .ok marked
    else
      match marked.lastExpired userId with
      | none => .ok marked
      | some last =>
        if trimSpace last.downgradeGroup = ""
            ∧ (trimSpace last.upgradeGroup = "" ∨ trimSpace last.prevUserGroup = "") then
          .ok marked
        else .ok (marked.moveUser last))

/-- The rows after an expiry are those before, the due ones expired. -/
theorem Store.mem_expire {b}
    : b ∈ (s.expire userId now).subs.rows
      ↔ ∃ a ∈ s.subs.rows, (if a.due userId now then a.expired else a) = b := List.mem_map

variable (done : expireUserSubscriptions w userId now s = .ok s')

include done

/-- An expiry moves the user by the subscription that ended last, if at all. -/
theorem expireSubscriptions_ok
    : (s' = s.expire userId now
        ∧ ((w.activeRead ∧ (s.expire userId now).subs.affects (·.upgrades userId now none))
          ∨ w.expiredRead = false
          ∨ (s.expire userId now).lastExpired userId = none
          ∨ ∃ last, (s.expire userId now).lastExpired userId = some last
            ∧ (trimSpace last.upgradeGroup = "" ∨ trimSpace last.prevUserGroup = "")))
      ∨ ∃ last, (s.expire userId now).lastExpired userId = some last
        ∧ s' = (s.expire userId now).moveUser last := by
  obtain ⟨_, done⟩ := transaction_eq_ok.mp done
  dsimp only at done
  split at done
  next other => exact .inl ⟨(ok.inj done).symm, .inl other⟩
  · split at done
    next unread => exact .inl ⟨(ok.inj done).symm, .inr (.inl unread)⟩
    · split at done
      next none_ => exact .inl ⟨(ok.inj done).symm, .inr (.inr (.inl none_))⟩
      next last found =>
        split at done
        next nothing =>
          exact .inl ⟨(ok.inj done).symm, .inr (.inr (.inr ⟨last, found, nothing.2⟩))⟩
        · exact .inr ⟨last, found, (ok.inj done).symm⟩

/-- Whatever an expiry does to the user, it expires the due rows. -/
theorem expireSubscriptions_subs : s'.subs = (s.expire userId now).subs := by
  rcases expireSubscriptions_ok done with ⟨same, _⟩ | ⟨last, _, moved⟩
  · rw [same]
  · rw [moved, moveUser_subs]

end HelsterApi.Subscriptions
