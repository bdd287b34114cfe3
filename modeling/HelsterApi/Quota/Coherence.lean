import HelsterApi.Caching.Records
import HelsterApi.Payments.Lifecycle
import HelsterApi.Redemptions.Codes
import HelsterApi.Subscriptions.Orders

/-! The operations that change the quota of a user or a token, each with what it writes to the
database, to the batch of pending changes and to the cache. Each changes one account, or none, and
either changes the cached quota by the same amount or leaves it alone.
-/

namespace HelsterApi.Quota

open Caching

section

open Payments (Channel QuotaSettings Statements TopUp)
open Redemptions (CodeTable redeem)
open Subscriptions (Calendar OrderStatements OrderStore SubscriptionOrder MirroredTopUp
  calcSubscriptionBalanceQuota purchaseSubscriptionWithBalance)

inductive QuotaError where
  | negative | userMissing | tokenMissing | changeZero | quotaNegative | checkinDisabled
  | alreadyCheckedIn | checkinFailed | checkinQuota | transferMinimum | affQuotaInsufficient
  | database
  deriving DecidableEq

/-- Text of an error. One is a key that is translated, the least amount of a transfer is left out.
-/
def QuotaError.message : QuotaError → String
  | .negative => "quota 不能为负数！"
  | .userMissing => "用户不存在"
  | .tokenMissing => "令牌不存在"
  | .changeZero => "user.quota_change_zero"
  | .quotaNegative => "额度不能为负数"
  | .checkinDisabled => "签到功能未启用"
  | .alreadyCheckedIn => "今日已签到"
  | .checkinFailed => "签到失败，请稍后重试"
  | .checkinQuota => "签到失败：更新额度出错"
  | .transferMinimum => "转移额度最小为"
  | .affQuotaInsufficient => "邀请额度不足！"
  | .database => ""

/-- A change of a counter in the database, then of its cached value; `writes` says whether the
update is executed.
-/
def changeNow (missing : QuotaError) (writes : Bool) (id delta : ℤ) (c : Counters ℤ)
    : Except QuotaError (Counters ℤ) :=
  if writes = false then .error .database
  else
    match c.stored id with
    | none => .error missing
    | some _ => .ok ((c.add id delta).increment id delta)

variable (batchUpdateEnabled : Bool) (writes : Bool)

/-- A change of a user's quota by `delta`, which is `quota` or its negative: it goes to the batch or
to the database, and to the cache either way.
-/
def changeUserQuota (db : Bool) (id quota delta : ℤ) (c : Counters ℤ)
    : Except QuotaError (Counters ℤ) :=
  if quota < 0 then .error .negative
  else if !db && batchUpdateEnabled then .ok ((c.increment id delta).defer id delta)
  else changeNow .userMissing writes id delta c

def increaseUserQuota (id quota : ℤ) (db : Bool) (c : Counters ℤ)
    : Except QuotaError (Counters ℤ) :=
  changeUserQuota batchUpdateEnabled writes db id quota quota c

def decreaseUserQuota (id quota : ℤ) (db : Bool) (c : Counters ℤ)
    : Except QuotaError (Counters ℤ) :=
  changeUserQuota batchUpdateEnabled writes db id quota (-quota) c

/-- A change of a token's remaining quota by `delta`, which is `quota` or its negative; one that
goes to the batch does not go to the cache.
-/
def changeTokenQuota (id quota delta : ℤ) (c : Counters ℤ) : Except QuotaError (Counters ℤ) :=
  if quota < 0 then .error .negative
  else if batchUpdateEnabled then .ok (c.defer id delta)
  else changeNow .tokenMissing writes id delta c

def increaseTokenQuota (id quota : ℤ) (c : Counters ℤ)
    : Except QuotaError (Counters ℤ) := changeTokenQuota batchUpdateEnabled writes id quota quota c

def decreaseTokenQuota (id quota : ℤ) (c : Counters ℤ) : Except QuotaError (Counters ℤ) :=
  changeTokenQuota batchUpdateEnabled writes id quota (-quota) c

/-- The part of `batchUpdate` for one account: the pending changes are written; a write that fails
or finds no row is only logged.
-/
def flushAccount (id : ℤ) (c : Counters ℤ) : Counters ℤ :=
  let taken := c.defer id (-c.pending id)
  if writes then taken.add id (c.pending id) else taken

/-- Completing a top-up order. The order rows and the contacts in the user rows are given along. -/
def completeTopUp (cfg : QuotaSettings) (via : Channel) (w : Statements) (now : ℤ)
    (tradeNo : String) (topUps : String → Option TopUp) (contacts : ℤ → String × String)
    (c : Counters ℤ)
    : Counters ℤ :=
  let store : Payments.Store := {
    topUps := topUps
    users := fun id => (c.stored id).map fun quota =>
      { quota := quota, email := (contacts id).1, stripeCustomer := (contacts id).2 } }
  match via.run cfg w now tradeNo store with
  | .error _ => c
  | .ok (store, _) => { c with stored := fun id => (store.users id).map Payments.User.quota }

def redeemCode (codes : CodeTable) (key : String) (userId now : ℤ) (commits : Bool) (c : Counters ℤ)
    : Counters ℤ :=
  match redeem key userId now commits ⟨codes, c.stored⟩ with
  | .error _ => c
  | .ok (_, db) => { c with stored := db.users }

structure CheckinSetting where
  enabled : Bool
  (minQuota maxQuota : ℤ)

/-- `checked` is the answer of the query for a check-in of today, `random` the random part of the
award and `recorded` whether the row could be inserted. On SQLite the quota is written by a
statement of its own.
-/
def userCheckin (sqlite : Bool) (setting : CheckinSetting) (checked : Option Bool) (random : ℤ)
    (recorded writes : Bool) (userId : ℤ) (c : Counters ℤ)
    : Except QuotaError (Counters ℤ) :=
  if setting.enabled = false then .error .checkinDisabled
  else
    match checked with
    | none => .error .database
    | some true => .error .alreadyCheckedIn
    | some false =>
      let quotaAwarded :=
        if setting.minQuota < setting.maxQuota then setting.minQuota + random
        else setting.minQuota
      if recorded = false then .error .checkinFailed
      else if sqlite then
        (increaseUserQuota false writes userId quotaAwarded true c).mapError
          fun _ => .checkinQuota
      else (changeNow .checkinQuota writes userId quotaAwarded c).mapError fun _ => .checkinQuota

def transferAffQuotaToQuota (quotaPerUnit : ℚ) (commits : Bool) (userId quota affQuota : ℤ)
    (c : Counters ℤ)
    : Except QuotaError (Counters ℤ) :=
  if (quota : ℚ) < quotaPerUnit then .error .transferMinimum
  else
    match c.stored userId with
    | none => .error .database
    | some _ =>
      if affQuota < quota then .error .affQuotaInsufficient
      else if commits = false then .error .database
      else .ok (c.add userId quota)

def chargedQuota (quotaPerUnit : ℚ) (w : OrderStatements) : ℤ :=
  match w.plan with
  | .error _ => 0
  | .ok plan =>
    match calcSubscriptionBalanceQuota quotaPerUnit plan.priceAmount with
    | .error _ => 0
    | .ok requiredQuota => requiredQuota

/-- Buying a subscription from the balance. A charge is taken off the cached quota after the
transaction.
-/
def purchaseSubscription (cal : Calendar) (quotaPerUnit : ℚ) (w : OrderStatements)
    (now dbNow userId planId orderId : ℤ) (tradeNo : String) (s : OrderStore) (c : Counters ℤ)
    : Counters ℤ :=
  match purchaseSubscriptionWithBalance cal quotaPerUnit w now dbNow userId planId orderId
      tradeNo { s with quotas := c.stored } with
  | .error _ => c
  | .ok store =>
    let bought := { c with stored := store.quotas }
    let charged := chargedQuota quotaPerUnit w
    if 0 < charged then bought.increment userId (-charged) else bought

inductive ManageMode where
  | add | subtract | override
  deriving DecidableEq

def manageUserQuota (mode : ManageMode) (userId value : ℤ) (c : Counters ℤ)
    : Except QuotaError (Counters ℤ) :=
  match mode with
  | .add =>
    if value ≤ 0 then .error .changeZero
    else increaseUserQuota batchUpdateEnabled writes userId value true c
  | .subtract =>
    if value ≤ 0 then .error .changeZero
    else decreaseUserQuota batchUpdateEnabled writes userId value true c
  | .override =>
    if value < 0 then .error .quotaNegative
    else if writes = false then .error .database
    else
      -- an update by id, which finds no row once the user is gone
      match c.stored userId with
      | none => .ok c
      | some _ => .ok (c.store userId value)

/-- What the operations read besides quotas: whether batch updates are enabled, whether cache
entries expire, and the settings of payments, check-ins and subscriptions.
-/
structure Config where
  (batchUpdateEnabled entriesExpire : Bool)
  payments : QuotaSettings
  checkin : CheckinSetting
  sqlite : Bool
  quotaPerUnit : ℚ
  calendar : Calendar

inductive UserOperation where
  | increase (writes : Bool) (id quota : ℤ) (db : Bool)
  | decrease (writes : Bool) (id quota : ℤ) (db : Bool)
  | topUp (via : Channel) (w : Statements) (now : ℤ) (tradeNo : String)
      (topUps : String → Option TopUp) (contacts : ℤ → String × String)
  | redeem (codes : CodeTable) (key : String) (userId now : ℤ) (commits : Bool)
  | checkin (checked : Option Bool) (random : ℤ) (recorded writes : Bool) (userId : ℤ)
  | transferAff (commits : Bool) (userId quota affQuota : ℤ)
  | purchase (w : OrderStatements) (now dbNow userId planId orderId : ℤ) (tradeNo : String)
      (s : OrderStore)
  | manage (writes : Bool) (mode : ManageMode) (userId value : ℤ)
  | flush (writes : Bool) (id : ℤ)

inductive TokenOperation where
  | increase (writes : Bool) (id quota : ℤ)
  | decrease (writes : Bool) (id quota : ℤ)
  | flush (writes : Bool) (id : ℤ)

def committed (c : Counters ℤ) : Except QuotaError (Counters ℤ) → Counters ℤ
  | .error _ => c
  | .ok c' => c'

variable (cfg : Config)

def UserOperation.run (c : Counters ℤ) : UserOperation → Counters ℤ
  | .increase writes id quota db =>
    committed c (increaseUserQuota cfg.batchUpdateEnabled writes id quota db c)
  | .decrease writes id quota db =>
    committed c (decreaseUserQuota cfg.batchUpdateEnabled writes id quota db c)
  | .topUp via w now tradeNo topUps contacts =>
    completeTopUp cfg.payments via w now tradeNo topUps contacts c
  | .redeem codes key userId now commits => redeemCode codes key userId now commits c
  | .checkin checked random recorded writes userId =>
    committed c (userCheckin cfg.sqlite cfg.checkin checked random recorded writes userId c)
  | .transferAff commits userId quota affQuota =>
    committed c (transferAffQuotaToQuota cfg.quotaPerUnit commits userId quota affQuota c)
  | .purchase w now dbNow userId planId orderId tradeNo s =>
    purchaseSubscription cfg.calendar cfg.quotaPerUnit w now dbNow userId planId orderId tradeNo s c
  | .manage writes mode userId value =>
    committed c (manageUserQuota cfg.batchUpdateEnabled writes mode userId value c)
  | .flush writes id => flushAccount writes id c

def TokenOperation.run (c : Counters ℤ) : TokenOperation → Counters ℤ
  | .increase writes id quota =>
    committed c (increaseTokenQuota cfg.batchUpdateEnabled writes id quota c)
  | .decrease writes id quota =>
    committed c (decreaseTokenQuota cfg.batchUpdateEnabled writes id quota c)
  | .flush writes id => flushAccount writes id c

/-- The row that was read is written and cached. -/
def updateTokenQuota (writes : Bool) (id remainQuota : ℤ) (c : Counters ℤ) : Counters ℤ :=
  match c.stored id with
  | none => c
  | some _ =>
    if writes then (c.store id remainQuota).assign id ⟨remainQuota, cfg.entriesExpire⟩
    else c

structure QuotaState where
  (users tokens : Counters ℤ)

inductive Operation where
  | user (operation : UserOperation)
  | token (operation : TokenOperation)
  | updateToken (writes : Bool) (id remainQuota : ℤ)

def Operation.run (s : QuotaState) : Operation → QuotaState
  | .user operation => { s with users := operation.run cfg s.users }
  | .token operation => { s with tokens := operation.run cfg s.tokens }
  | .updateToken writes id remainQuota =>
    { s with tokens := updateTokenQuota cfg writes id remainQuota s.tokens }

/-- Every cached quota is the stored one with its pending changes. -/
def QuotaState.Coherent (s : QuotaState) : Prop := s.users.Coherent ∧ s.tokens.Coherent

end

open Caching.Counters Control Function Operation Counters

variable {c c' : Counters ℤ}

def Turn (follows : Bool) (c c' : Counters ℤ) : Prop :=
  ∃ id delta, Shifts c c' id delta
    ∧ c'.cached = if follows then (c.increment id delta).cached else c.cached

theorem Turn.refl (follows c) : Turn follows c c := by
  refine ⟨0, 0, Shifts.refl c 0, ?_⟩
  rw [increment_zero, ite_self]

theorem Turn.of_add (id delta) (stored : c'.stored = (c.add id delta).stored)
    (pending : c'.pending = c.pending) (cached : c'.cached = c.cached)
    : Turn false c c' := ⟨id, delta, (shifts_add c id delta).congr stored pending, cached⟩

variable {follows : Bool}

theorem committed_turn {outcome} (turn : ∀ c', outcome = .ok c' → Turn follows c c')
    : Turn follows c (committed c outcome) := by
  cases outcome with
  | error e => exact .refl follows c
  | ok c' => exact turn c' rfl

section

variable {writes : Bool} {id delta : ℤ}

theorem changeNow_turn {missing} (done : changeNow missing writes id delta c = .ok c')
    : Turn true c c' := by
  obtain ⟨_, done⟩ := ite_error_eq_ok.mp done
  split at done
  · cases done
  cases done
  exact ⟨id, delta, (shifts_add c id delta).congr rfl rfl, rfl⟩

variable {batch : Bool} {quota : ℤ}

theorem changeUserQuota_turn {db} (done : changeUserQuota batch writes db id quota delta c = .ok c')
    : Turn true c c' := by
  obtain ⟨_, done⟩ := ite_error_eq_ok.mp done
  split at done
  · cases done
    exact ⟨id, delta, (shifts_defer c id delta).congr rfl rfl, rfl⟩
  · exact changeNow_turn done

theorem changeTokenQuota_turn (done : changeTokenQuota batch writes id quota delta c = .ok c')
    : Turn (!batch) c c' := by
  obtain ⟨_, done⟩ := ite_error_eq_ok.mp done
  cases batch with
  | true =>
    cases done
    exact ⟨id, delta, shifts_defer c id delta, rfl⟩
  | false => exact changeNow_turn done

theorem flushAccount_turn (writes id) : Turn false c (flushAccount writes id c) := by
  have taken := shifts_defer c id (-c.pending id)
  unfold flushAccount
  cases writes with
  | false => exact ⟨id, -c.pending id, taken, rfl⟩
  | true =>
    refine ⟨id, 0, fun j => ?_, rfl⟩
    have added := shifts_add (c.defer id (-c.pending id)) id (c.pending id) j
    rw [if_pos rfl, added, taken j]
    by_cases same : j = id
    · subst same
      rw [if_pos rfl, if_pos rfl, if_pos rfl, Option.map_map]
      congr 1
      funext value
      exact (Int.neg_add_cancel_right value (c.pending j)).trans (Int.add_zero value).symm
    · rw [if_neg same, if_neg same, if_neg same]

theorem add_stored_eq {users} (found : c.stored id = some quota)
    (changed : users = update c.stored id (some (quota + delta)))
    : users = (c.add id delta).stored := by
  rw [changed]
  unfold add
  simp [found]

theorem completeTopUp_turn (cfg via)
    (w now tradeNo)
    (topUps) (contacts : ℤ → String × String)
    : Turn false c (completeTopUp cfg via w now tradeNo topUps contacts c) := by
  -- the quotas that were put into user rows are read back
  have readBack : (fun id => ((c.stored id).map fun quota =>
      ({ quota := quota, email := (contacts id).1, stripeCustomer := (contacts id).2 }
        : Payments.User)).map Payments.User.quota) = c.stored := by
    funext id
    cases c.stored id <;> rfl
  dsimp only [completeTopUp]
  split
  · exact .refl false c
  next store credit completed =>
    obtain ⟨completion, committed⟩ := Payments.Channel.run_ok completed
    rcases Payments.complete_ok committed with
      ⟨rfl, _⟩ | ⟨quota, _, order, user, _, _, _, found, _, users⟩
    · dsimp only
      rw [readBack]
      exact .refl false c
    · have stored : c.stored order.userId = some user.quota := by
        obtain ⟨value, held, same⟩ := Option.map_eq_some_iff.mp found
        rw [held, ← same]
      refine .of_add order.userId quota (add_stored_eq stored ?_) rfl rfl
      dsimp only
      rw [users]
      funext id
      by_cases same : id = order.userId
      · simp [same, update_self, update_self]
      · rw [update_of_ne same, update_of_ne same]
        exact congrFun readBack id

theorem redeemCode_turn (codes key userId now)
    (commits)
    : Turn false c (redeemCode codes key userId now commits c) := by
  unfold redeemCode
  split
  · exact .refl false c
  next redemption db redeemed =>
    unfold Redemptions.redeem at redeemed
    rw [ite_error_eq_ok, ite_error_eq_ok] at redeemed
    obtain ⟨_, _, redeemed⟩ := redeemed
    split at redeemed
    · cases redeemed
    rename_i result committed
    cases redeemed
    obtain ⟨_, _, _, _, quota, user, rfl⟩ := Redemptions.redeemTx_eq_ok committed
    exact .of_add userId redemption.quota (add_stored_eq user rfl) rfl rfl

variable {userId : ℤ}

variable {quotaPerUnit : ℚ}

theorem purchaseSubscription_turn (cal) (quotaPerUnit : ℚ)
    (w now dbNow userId planId orderId)
    (tradeNo s)
    : Turn true c (purchaseSubscription cal quotaPerUnit w now dbNow userId planId orderId
        tradeNo s c) := by
  unfold purchaseSubscription
  split
  · exact .refl true c
  next store bought =>
    obtain ⟨_, plan, requiredQuota, quota, _, _, _, _, planned, required, found, quotas⟩ :=
      Subscriptions.purchaseWithBalance_ok bought
    have charged : chargedQuota quotaPerUnit w = requiredQuota := by
      simp only [chargedQuota, planned, required]
    have nonneg : 0 ≤ requiredQuota := by
      unfold Subscriptions.calcSubscriptionBalanceQuota at required
      split at required
      · cases required
        exact le_rfl
      next positive =>
        obtain ⟨unit, ⟨⟩⟩ := ite_error_eq_ok.mp required
        exact Int.ceil_nonneg (mul_nonneg (not_le.mp positive).le (not_le.mp unit).le)
    have stored : store.quotas = (c.add userId (-requiredQuota)).stored := by
      refine add_stored_eq found ?_
      rw [quotas]
      congr 2
      split <;> omega
    have shifts : Shifts c { c with stored := store.quotas } userId (-requiredQuota) :=
      (shifts_add c userId (-requiredQuota)).congr stored rfl
    dsimp only
    rw [charged]
    refine ⟨userId, -requiredQuota, ?_⟩
    split
    · exact ⟨shifts.congr rfl rfl, rfl⟩
    next free =>
      have zero : requiredQuota = 0 := by omega
      refine ⟨shifts, ?_⟩
      rw [if_pos rfl, zero, Int.neg_zero, increment_zero]

def UserOperation.updatesCache : UserOperation → Bool
  | .increase _ _ _ _ => true
  | .decrease _ _ _ _ => true
  | .topUp _ _ _ _ _ _ => false
  | .redeem _ _ _ _ _ => false
  | .checkin _ _ _ _ _ => true
  | .transferAff _ _ _ _ => false
  | .purchase _ _ _ _ _ _ _ _ => true
  | .manage _ mode _ _ => mode ≠ .override
  | .flush _ _ => false

variable (cfg : Config)

def TokenOperation.updatesCache : TokenOperation → Bool
  | .increase _ _ _ => !cfg.batchUpdateEnabled
  | .decrease _ _ _ => !cfg.batchUpdateEnabled
  | .flush _ _ => false

theorem manageUserQuota_turn {mode value}
    (done : manageUserQuota batch writes mode userId value c = .ok c')
    : Turn (mode ≠ .override) c c' := by
  cases mode with
  | add | subtract => exact changeUserQuota_turn (ite_error_eq_ok.mp done).2
  | override =>
    dsimp only [manageUserQuota] at done
    rw [ite_error_eq_ok, ite_error_eq_ok] at done
    obtain ⟨_, _, done⟩ := done
    split at done
    · cases done
      exact .refl false c
    next quota found =>
      cases done
      refine .of_add userId (value - quota) (add_stored_eq found ?_) rfl rfl
      dsimp only [store]
      congr 2
      omega

theorem UserOperation.turn (operation : UserOperation)
    : Turn operation.updatesCache c (operation.run cfg c) := by
  cases operation with
  | increase | decrease => exact committed_turn fun _ done => changeUserQuota_turn done
  | topUp via w now tradeNo topUps contacts => exact completeTopUp_turn ..
  | redeem codes key userId now commits => exact redeemCode_turn ..
  | checkin checked random recorded writes userId =>
    refine committed_turn fun _ done => ?_
    obtain ⟨_, done⟩ := ite_error_eq_ok.mp done
    split at done
    · cases done
    · cases done
    · dsimp only at done
      obtain ⟨_, done⟩ := ite_error_eq_ok.mp done
      split at done
      · exact changeUserQuota_turn (mapError_eq_ok.mp done)
      · exact changeNow_turn (mapError_eq_ok.mp done)
  | transferAff commits userId quota affQuota =>
    refine committed_turn fun _ done => ?_
    obtain ⟨_, done⟩ := ite_error_eq_ok.mp done
    split at done
    · cases done
    rw [ite_error_eq_ok, ite_error_eq_ok] at done
    obtain ⟨_, _, ⟨⟩⟩ := done
    exact .of_add userId quota rfl rfl rfl
  | purchase w now dbNow userId planId orderId tradeNo s => exact purchaseSubscription_turn ..
  | manage writes mode userId value => exact committed_turn fun _ done => manageUserQuota_turn done
  | flush writes id => exact flushAccount_turn writes id

theorem TokenOperation.turn (operation : TokenOperation)
    : Turn (operation.updatesCache cfg) c (operation.run cfg c) := by
  cases operation with
  | increase | decrease => exact committed_turn fun _ done => changeTokenQuota_turn done
  | flush writes id => exact flushAccount_turn writes id

theorem Turn.coherent_iff (turn : Turn follows c c') (coherent : c.Coherent)
    : c'.Coherent ↔ Follows follows c c' := by
  obtain ⟨id, delta, shifts, cached⟩ := turn
  exact shifts.coherent_iff cached coherent

/-- Each quota that an operation changes is not cached, or its cached quota is live and changed as
well. A token that is updated must have no pending change.
-/
def Operation.Keeps (s : QuotaState) : Operation → Prop
  | .user operation => Follows operation.updatesCache s.users (operation.run cfg s.users)
  | .token operation => Follows (operation.updatesCache cfg) s.tokens (operation.run cfg s.tokens)
  | .updateToken writes id _ => writes = true → s.tokens.stored id ≠ none → s.tokens.pending id = 0

theorem updateTokenQuota_coherent_iff (writes id remainQuota) (coherent : c.Coherent)
    : (updateTokenQuota cfg writes id remainQuota c).Coherent
      ↔ (writes = true → c.stored id ≠ none → c.pending id = 0) := by
  unfold updateTokenQuota
  cases found : c.stored id with
  | none => simp [coherent]
  | some quota =>
    cases writes with
    | false => simp [coherent]
    | true =>
      have assigned : ((c.store id remainQuota).assign id
          ⟨remainQuota, cfg.entriesExpire⟩).Coherent ↔ c.pending id = 0 :=
        coherent_iff_of_assigned coherent
      simp [assigned]

/-- An operation executed alone on coherent quotas leaves them coherent if and only if each quota it
changes is not cached, or its cached quota is live and changed as well.
-/
theorem operation_coherent_iff {s} (coherent : s.Coherent) (operation : Operation)
    : (operation.run cfg s).Coherent ↔ operation.Keeps cfg s := by
  obtain ⟨users, tokens⟩ := coherent
  cases operation with
  | user operation => exact (and_iff_left tokens).trans ((operation.turn cfg).coherent_iff users)
  | token operation => exact (and_iff_right users).trans ((operation.turn cfg).coherent_iff tokens)
  | updateToken writes id remainQuota =>
    exact (and_iff_right users).trans
      (updateTokenQuota_coherent_iff cfg writes id remainQuota tokens)

end

def oneAccount (id quota : ℤ) : Counters ℤ where
  stored := fun other => if other = id then some quota else none
  pending := fun _ => 0
  cached := fun other => if other = id then some ⟨quota, true⟩ else none

def sampleState : QuotaState := ⟨oneAccount 7 1000, oneAccount 3 400⟩

def sampleConfig : Config where
  batchUpdateEnabled := true
  entriesExpire := true
  payments := Payments.defaultSettings
  checkin := ⟨true, 100, 100⟩
  sqlite := false
  quotaPerUnit := 500000
  calendar := ⟨fun start _ => start, fun start _ => start, id, id, id⟩

theorem oneAccount_coherent (id quota) : (oneAccount id quota).Coherent := by
  intro other entry member
  dsimp only [oneAccount] at member
  split at member
  next same =>
    cases member
    dsimp only [total, oneAccount]
    rw [if_pos same]
    exact congrArg some (Int.add_zero quota)
  · cases member

/-- Witness: a charge that goes to the batch is followed by the cached quota of the user. -/
theorem charged_user_coherent
    : ((user (.decrease true 7 100 false)).run sampleConfig sampleState).Coherent
      ∧ ((user (.decrease true 7 100 false)).run sampleConfig
          sampleState).users.cached 7 = some ⟨900, true⟩ := by
  have coherent : sampleState.Coherent := ⟨oneAccount_coherent 7 1000, oneAccount_coherent 3 400⟩
  refine ⟨(operation_coherent_iff sampleConfig coherent _).mpr ?_, by decide +kernel⟩
  intro id _ entry member
  change entry ∈ (if id = 7 then some ⟨1000, true⟩ else none : Option Entry) at member
  split at member
  · cases member
    exact ⟨rfl, rfl⟩
  · cases member

def sampleTopUps (tradeNo : String) : Option Payments.TopUp :=
  if tradeNo = "USR7" then some ⟨7, 1, 7, "alipay", .epay, 0, .pending⟩ else none

/-- A completed top-up order, an overriding administrator and a token charged through the batch
leave the cached quota alone.
-/
theorem credited_user_not_coherent
    : sampleState.Coherent
      ∧ ((user (.topUp (.epay "") .done 0 "USR7" sampleTopUps fun _ => ("", ""))).run
          sampleConfig sampleState).users.total 7 = some 501000
      ∧ ((user (.topUp (.epay "") .done 0 "USR7" sampleTopUps fun _ => ("", ""))).run
          sampleConfig sampleState).users.cached 7 = some ⟨1000, true⟩
      ∧ ¬((user (.topUp (.epay "") .done 0 "USR7" sampleTopUps fun _ => ("", ""))).run
          sampleConfig sampleState).Coherent
      ∧ ¬((user (.manage true .override 7 5)).run sampleConfig sampleState).Coherent
      ∧ ¬((token (.decrease true 3 100)).run sampleConfig sampleState).Coherent := by
  refine ⟨⟨oneAccount_coherent 7 1000, oneAccount_coherent 3 400⟩, by decide +kernel,
    by decide +kernel, ?_, ?_, ?_⟩
  · intro coherent
    exact absurd (coherent.1 7 ⟨1000, true⟩ (by decide +kernel)) (by decide +kernel)
  · intro coherent
    exact absurd (coherent.1 7 ⟨1000, true⟩ (by decide +kernel)) (by decide +kernel)
  · intro coherent
    exact absurd (coherent.2 3 ⟨400, true⟩ (by decide +kernel)) (by decide +kernel)

end HelsterApi.Quota
