import HelsterApi.Control.Loop
import HelsterApi.Payments.Orders
import HelsterApi.Transition.Accounts

/-! The life of top-up orders under provider callbacks, manual completion and status updates in any
order. Most lock the order row for their transaction; three handlers save a copy they hold in
memory.
-/

namespace HelsterApi.Payments

open Control Function Option Transition

inductive Channel where
  | epay (actualPaymentMethod : String)
  | stripe (customerId : String)
  | creem (customerEmail : String)
  | waffo
  | waffoPancake
  | manual

def Channel.run (cfg : QuotaSettings) (w : Statements) (now : ℤ) (tradeNo : String) (store : Store)
    : Channel → Except TopUpError (Store × Option ℤ)
  | .epay method => completeEpayTopUp cfg w now tradeNo method store
  | .stripe customerId => recharge cfg w now tradeNo customerId store
  | .creem customerEmail => rechargeCreem cfg w now tradeNo customerEmail store
  | .waffo => rechargeWaffo cfg w now tradeNo store
  | .waffoPancake => rechargeWaffoPancake cfg w now tradeNo store
  | .manual => manualCompleteTopUp cfg w now tradeNo store

inductive Closing where
  | stripeExpired | waffoNotPaid

def Closing.run (w : Statements) (tradeNo : String) (store : Store)
    : Closing → Except TopUpError Store
  | .stripeExpired => updatePendingTopUpStatus w tradeNo (some .stripe) .expired store
  | .waffoNotPaid => updatePendingTopUpStatus w tradeNo (some .waffo) .failed store

/-- The rows, the copies of orders that handlers hold, and the quotas credited per order, oldest
first.
-/
structure PaymentSystem where
  store : Store
  copies : List (String × TopUp)
  credits : String → List ℤ

open PaymentSystem

/-- A user requests an order, an order is completed or closed, the Stripe failure callback reads an
order, a handler saves its copy as failed, and other code writes user rows.
-/
inductive PaymentAction where
  | request (tradeNo : String) (order : TopUp)
  | complete (via : Channel) (w : Statements) (now : ℤ) (tradeNo : String)
  | close (via : Closing) (w : Statements) (tradeNo : String)
  | sessionAsyncPaymentFailed (tradeNo : String)
  | saveFailed (index : ℕ) (save : Option String)
  | others (users : ℤ → Option User)

def PaymentSystem.afterCompletion (p : PaymentSystem) (tradeNo : String)
    : Except TopUpError (Store × Option ℤ) → PaymentSystem
  | .error _ => p
  | .ok (store, credit) =>
    { p with
      store := store
      credits := update p.credits tradeNo (p.credits tradeNo ++ credit.toList) }

/-- The copy that `sessionAsyncPaymentFailed` goes on with, read without a lock. -/
def readForFailure (tradeNo : String) (store : Store) : Option TopUp :=
  (store.topUps tradeNo).filter fun order =>
    order.paymentProvider = .stripe ∧ order.status = .pending

/-- One step. The Waffo request handlers keep the order they inserted, to save it as failed
if the gateway refuses it.
-/
def PaymentSystem.next (cfg : QuotaSettings) (p : PaymentSystem)
    : PaymentAction → Option PaymentSystem
  | .request tradeNo order =>
    if order.status = .pending ∧ p.store.topUps tradeNo = none then
      some { p with
        store.topUps := update p.store.topUps tradeNo (some order)
        copies := if order.paymentProvider = .waffo ∨ order.paymentProvider = .waffoPancake
          then (tradeNo, order) :: p.copies else p.copies }
    else none
  | .complete via w now tradeNo =>
    some (p.afterCompletion tradeNo (via.run cfg w now tradeNo p.store))
  | .close via w tradeNo =>
    match via.run w tradeNo p.store with
    | .error _ => some p
    | .ok store => some { p with store := store }
  | .sessionAsyncPaymentFailed tradeNo =>
    (readForFailure tradeNo p.store).map fun order =>
      { p with copies := (tradeNo, order) :: p.copies }
  | .saveFailed index save =>
    p.copies[index]?.map fun (tradeNo, order) =>
      let p := { p with copies := p.copies.eraseIdx index }
      match save with
      | some _ => p
      | none =>
        { p with store.topUps :=
            update p.store.topUps tradeNo (some { order with status := .failed }) }
  | .others users => some { p with store.users := users }

def paymentMachine (cfg : QuotaSettings) : Machine PaymentSystem PaymentAction where
  initial p := p.store.topUps = (fun _ => none) ∧ p.copies = [] ∧ p.credits = fun _ => []
  next := PaymentSystem.next cfg

def PaymentSystem.status (p : PaymentSystem) (tradeNo : String) : Option TopUpStatus :=
  (p.store.topUps tradeNo).map (·.status)

def SavesPending (p : PaymentSystem) : PaymentAction → Prop
  | .saveFailed index none => ∀ copy ∈ p.copies[index]?, p.status copy.1 = some .pending
  | _ => True

instance (p : PaymentSystem) : DecidablePred (SavesPending p) := fun action => by
  unfold SavesPending
  split <;> infer_instance

def PaymentSystem.verdict (p : PaymentSystem) (tradeNo : String) : Option TopUpStatus :=
  (p.status tradeNo).filter (· ≠ .pending)

def CreditPolicy (status : TopUpStatus) (quotas : List ℤ) : Prop :=
  quotas.length = if status = .success then 1 else 0
  deriving Decidable

variable {cfg : QuotaSettings} {w : Statements} {tradeNo : String}

variable {via : Channel} {now : ℤ} {store store' : Store}

theorem Channel.run_ok {credit} (completed : via.run cfg w now tradeNo store = .ok (store', credit))
    : ∃ c, complete cfg c w now tradeNo store = .ok (store', credit) := by
  cases via with
  | epay method => exact ⟨_, completed⟩
  | stripe | creem | waffo | waffoPancake =>
    exact ⟨_, mapError_eq_ok.mp (ite_error_eq_ok.mp completed).2⟩
  | manual => exact ⟨_, (ite_error_eq_ok.mp completed).2⟩

theorem Closing.run_ok {via : Closing} (closed : via.run w tradeNo store = .ok store')
    : ∃ order status, store.topUps tradeNo = some order ∧ order.status = .pending
      ∧ status ≠ .pending ∧ status ≠ .success
      ∧ store' = { store with
          topUps := update store.topUps tradeNo
            (some { order with status := status }) } := by
  cases via with
  | stripeExpired =>
    obtain ⟨order, found, pending, rfl⟩ := updatePendingStatus_ok closed
    exact ⟨order, .expired, found, pending, nofun, nofun, rfl⟩
  | waffoNotPaid =>
    obtain ⟨order, found, pending, rfl⟩ := updatePendingStatus_ok closed
    exact ⟨order, .failed, found, pending, nofun, nofun, rfl⟩

/-- A step leaves an order's final status and credits alone, or gives the order a final status with
the credits that belong to it.
-/
def PaymentSystem.Moves (p : PaymentSystem) (tradeNo : String) (p' : PaymentSystem) : Prop :=
  (p'.verdict tradeNo = p.verdict tradeNo ∧ p'.credits tradeNo = p.credits tradeNo)
  ∨ (p.verdict tradeNo = none ∧ ∃ status quotas, p'.verdict tradeNo = some status
      ∧ CreditPolicy status quotas ∧ p'.credits tradeNo = p.credits tradeNo ++ quotas)

variable {p : PaymentSystem} {order : TopUp}

theorem PaymentSystem.verdict_of_found (found : p.store.topUps tradeNo = some order)
    : p.verdict tradeNo = if order.status = .pending then none else some order.status := by
  simp only [verdict, status, found, map_some,
    filter_some, decide_not, Bool.not_eq_eq_eq_not, Bool.not_true, decide_eq_false_iff_not]
  split <;> simp_all

variable {p' : PaymentSystem}

theorem PaymentSystem.moves_of_decided (order' : TopUp) (quotas)
    (found : p.store.topUps tradeNo = some order) (pending : order.status = .pending)
    (final : order'.status ≠ .pending) (policy : CreditPolicy order'.status quotas)
    (topUps : p'.store.topUps = update p.store.topUps tradeNo (some order'))
    (credits : p'.credits = update p.credits tradeNo (p.credits tradeNo ++ quotas)) (other)
    : p.Moves other p' := by
  by_cases same : other = tradeNo
  · subst same
    have found' : p'.store.topUps other = some order' := by rw [topUps, update_self]
    refine .inr ⟨?_, order'.status, quotas, ?_, policy, ?_⟩
    · rw [verdict_of_found found, if_pos pending]
    · rw [verdict_of_found found', if_neg final]
    · rw [credits, update_self]
  · refine .inl ⟨?_, ?_⟩
    · simp only [verdict, status, topUps, update_of_ne same]
    · rw [credits, update_of_ne same]

theorem PaymentSystem.moves_of_same (topUps : p'.store.topUps tradeNo = p.store.topUps tradeNo)
    (credits : p'.credits tradeNo = p.credits tradeNo)
    : p.Moves tradeNo p' := by
  refine .inl ⟨?_, credits⟩
  simp only [verdict, status, topUps]

theorem PaymentSystem.moves_of_completion (p : PaymentSystem) (other)
    : p.Moves other (p.afterCompletion tradeNo (via.run cfg w now tradeNo p.store)) := by
  cases completed : via.run cfg w now tradeNo p.store with
  | error e => exact moves_of_same rfl rfl
  | ok result =>
    obtain ⟨store', credit⟩ := result
    obtain ⟨c, committed⟩ := Channel.run_ok completed
    rcases complete_ok committed with
      ⟨rfl, rfl⟩ | ⟨quota, rfl, order, user, found, pending, topUps, _, _, _⟩
    · refine moves_of_same rfl ?_
      simp [afterCompletion]
    · exact moves_of_decided { c.finish order with status := .success, completeTime := now }
        [quota] found pending nofun rfl topUps rfl other

theorem PaymentSystem.next_moves {action} (allowed : SavesPending p action)
    (moved : p.next cfg action = some p') (tradeNo)
    : p.Moves tradeNo p' := by
  cases action with
  | request requested order =>
    obtain ⟨⟨pending, absent⟩, ⟨⟩⟩ := ite_none_right_eq_some.mp moved
    by_cases same : tradeNo = requested
    · subst same
      refine .inl ⟨?_, rfl⟩
      rw [verdict_of_found (update_self ..), if_pos pending]
      simp [verdict, status, absent]
    · exact moves_of_same (update_of_ne same _ _) rfl
  | complete via w now completed =>
    cases moved
    exact p.moves_of_completion tradeNo
  | close via w closed =>
    simp only [next] at moved
    split at moved
    · cases moved
      exact moves_of_same rfl rfl
    next store' succeeded =>
      cases moved
      obtain ⟨order, status, found, pending, final, unsuccessful, rfl⟩ := Closing.run_ok succeeded
      refine moves_of_decided { order with status := status } [] found pending final
        (if_neg unsuccessful).symm rfl ?_ tradeNo
      rw [List.append_nil, update_eq_self]
  | sessionAsyncPaymentFailed read =>
    obtain ⟨order, _, rfl⟩ := map_eq_some_iff.mp moved
    exact moves_of_same rfl rfl
  | saveFailed index save =>
    obtain ⟨⟨saved, copy⟩, listed, rfl⟩ := map_eq_some_iff.mp moved
    cases save with
    | some text => exact moves_of_same rfl rfl
    | none =>
      obtain ⟨order, found, pending⟩ := map_eq_some_iff.mp (allowed (saved, copy) listed)
      refine moves_of_decided { copy with status := .failed } [] found pending nofun rfl
        rfl ?_ tradeNo
      rw [List.append_nil, update_eq_self]
  | others users =>
    cases moved
    exact moves_of_same rfl rfl

/-- Relates the system to a cell with the final status of one order and the quotas credited for it.
-/
structure PaymentSystem.Tracks (tradeNo : String) (p : PaymentSystem) (c : Cell TopUpStatus ℤ)
    : Prop where
  verdict : c.verdict = p.verdict tradeNo
  owed : c.owed = []
  performed : c.performed = p.credits tradeNo

theorem paymentMachine_simulates (cfg tradeNo)
    : (paymentMachine cfg).Simulates SavesPending (Cell.machine CreditPolicy)
        (PaymentSystem.Tracks tradeNo) where
  initial := by
    rintro p ⟨noOrders, _, noCredits⟩
    refine ⟨⟨none, [], []⟩, rfl, ?_, rfl, ?_⟩
    · simp [verdict, status, noOrders]
    · rw [noCredits]
  step := by
    intro p action p' c _ tracks allowed moved
    have moves := next_moves allowed moved tradeNo
    unfold PaymentSystem.Moves at moves
    rw [← tracks.verdict, ← tracks.performed] at moves
    exact ⟨_, Cell.follows tracks.owed moves, rfl, rfl, rfl⟩

def PaymentSystem.CreditedOnce (p : PaymentSystem) (tradeNo : String) : Prop :=
  (p.credits tradeNo).length = if p.status tradeNo = some .success then 1 else 0
  deriving Decidable

def PaymentSystem.Final (p : PaymentSystem) (tradeNo : String) (status : TopUpStatus) : Prop :=
  p.status tradeNo = some status ∧ status ≠ .pending

theorem PaymentSystem.verdict_eq_some_iff {status}
    : p.verdict tradeNo = some status ↔ p.Final tradeNo status := by
  simp [verdict, PaymentSystem.Final]

theorem PaymentSystem.Tracks.creditedOnce {c} (tracks : p.Tracks tradeNo c)
    (sound : c.Sound CreditPolicy)
    : p.CreditedOnce tradeNo := by
  unfold PaymentSystem.CreditedOnce
  rw [← tracks.performed]
  cases decided : c.verdict with
  | none =>
    rw [(sound.undecided decided).2, if_neg]
    · rfl
    · intro successful
      have final := verdict_eq_some_iff.mpr ⟨successful, nofun⟩
      rw [← tracks.verdict, decided] at final
      cases final
  | some status =>
    have policy := sound.decided status decided
    obtain ⟨known, _⟩ := verdict_eq_some_iff.mp (tracks.verdict ▸ decided)
    rw [tracks.owed, List.append_nil] at policy
    rw [known, policy]
    simp

/-- In every run in which a handler saves its copy as failed only while the order is pending, each
order is credited exactly if it is successful, and a final status stays.
-/
theorem orders_creditedOnce_and_final {cfg p}
    (reached : (paymentMachine cfg).Reaches SavesPending p) (tradeNo : String)
    : p.CreditedOnce tradeNo
      ∧ ∀ {p' status}, (paymentMachine cfg).Leads SavesPending p p'
        → p.Final tradeNo status → p'.Final tradeNo status := by
  have simulation := paymentMachine_simulates cfg tradeNo
  obtain ⟨c, reachedCell, tracks⟩ := simulation.reaches reached
  refine ⟨tracks.creditedOnce (Cell.sound_of_reaches reachedCell), ?_⟩
  intro p' status led final
  obtain ⟨c', ledCell, tracks'⟩ := simulation.leads reachedCell tracks led
  rw [← verdict_eq_some_iff, ← tracks.verdict] at final
  rw [← verdict_eq_some_iff, ← tracks'.verdict]
  exact Cell.verdict_stable ledCell final

def defaultSettings : QuotaSettings where
  quotaPerUnit := 500000
  floatMul := (· * ·)
  storeQuota := HelsterApi.Arithmetic.truncate
  storeQuota_intCast := HelsterApi.Arithmetic.truncate_intCast

def emptySystem : PaymentSystem :=
  ⟨⟨fun _ => none, fun id => if id = 1 then some ⟨0, "", ""⟩ else none⟩, [], fun _ => []⟩

def stripeOrder : TopUp := ⟨1, 10, 10, "stripe", .stripe, 0, .pending⟩

def played (actions : List PaymentAction) : PaymentSystem :=
  (paymentMachine defaultSettings).play emptySystem actions

def expiry : List PaymentAction := [.request "t" stripeOrder, .close .stripeExpired .done "t"]

def lateCompletion : List PaymentAction := [.complete .manual .done 0 "t"]

/-- Witness: an order that expires is not credited by a late completion, and stays
expired.
-/
theorem expired_order_creditedOnce
    : ((paymentMachine defaultSettings).play (played expiry) lateCompletion).Final "t" .expired
      ∧ ((paymentMachine defaultSettings).play (played expiry) lateCompletion).CreditedOnce
        "t" := by
  have reached : (paymentMachine defaultSettings).Reaches SavesPending (played expiry) :=
    Machine.reaches_play ⟨rfl, rfl, rfl⟩ (by decide +kernel)
  have led : (paymentMachine defaultSettings).Leads SavesPending (played expiry)
      ((paymentMachine defaultSettings).play (played expiry) lateCompletion) :=
    Machine.leads_play (by decide +kernel)
  exact ⟨(orders_creditedOnce_and_final reached "t").2 led ⟨rfl, nofun⟩,
    (orders_creditedOnce_and_final (led.reaches reached) "t").1⟩

def completionDuringFailure : List PaymentAction :=
  [.request "t" stripeOrder, .sessionAsyncPaymentFailed "t", .complete .manual .done 0 "t"]

/-- When the callback saves its copy, a credited order is marked failed. -/
theorem credited_order_marked_failed
    : (paymentMachine defaultSettings).Reaches anyStep
        (played (completionDuringFailure ++ [.saveFailed 0 none]))
      ∧ (played completionDuringFailure).Final "t" .success
      ∧ (played (completionDuringFailure ++ [.saveFailed 0 none])).Final "t" .failed
      ∧ (played (completionDuringFailure ++ [.saveFailed 0 none])).credits "t" = [5000000]
      ∧ ¬(played (completionDuringFailure ++ [.saveFailed 0 none])).CreditedOnce "t" := by
  refine ⟨Machine.reaches_play ⟨rfl, rfl, rfl⟩ ?_, ⟨?_, nofun⟩, ⟨?_, nofun⟩, ?_, ?_⟩
  all_goals decide +kernel

end HelsterApi.Payments
