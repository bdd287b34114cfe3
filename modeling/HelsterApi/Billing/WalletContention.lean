import HelsterApi.Billing.SessionRuns
import HelsterApi.Transition.Accounts

/-! Concurrent requests of one user that pre-consume from the wallet. A request reads the balance,
possibly a cached one, and checks it; the later decrement is unconditional.
-/

namespace HelsterApi.Billing

open Function Transition Budget

/-- Updates that run in the background: writing the whole cache entry, setting its quota and
changing it.
-/
inductive CacheUpdate where
  | populate (quota : ℤ)
  | set (quota : ℤ)
  | incr (delta : ℤ)

/-- Effect of an update on the cached quota; only `populateUserCache` creates an entry. -/
def CacheUpdate.apply : CacheUpdate → Option ℤ → Option ℤ
  | .populate quota, _ => some quota
  | .set quota, cache => cache.map fun _ => quota
  | .incr delta, cache => cache.map (· + delta)

structure QuotaQueries where
  (user quota : Option String)

/-- With `fromDB` false, and the cache update it starts. -/
def getUserQuota (redisEnabled : Bool) (o : QuotaQueries) (cache : Option ℤ) (balance : ℤ)
    : Except String ℤ × List CacheUpdate :=
  let fromDatabase : Except String ℤ × List CacheUpdate :=
    match o.quota with
    | some text => (.error text, [])
    | none => (.ok balance, if redisEnabled then [.set balance] else [])
  if redisEnabled then
    match cache, o.user with
    | some quota, _ => (.ok quota, [])
    | none, none => (.ok balance, [.populate balance])
    | none, some _ => fromDatabase
  else fromDatabase

def walletCheck (read : Except String ℤ) (info : RelayInfo) (preConsumedQuota : ℤ)
    : Except NewAPIError BillingSession :=
  match read with
  | .error text => .error (internalError (.model (.database text)) .queryDataError)
  | .ok userQuota =>
    if userQuota ≤ 0 then .error (forbidden (.userQuotaExhausted userQuota) .insufficientUserQuota)
    else if userQuota - preConsumedQuota < 0 then
      .error (forbidden (.userQuotaTooLow userQuota preConsumedQuota) .insufficientUserQuota)
    else .ok { relayInfo := { info with userQuota := userQuota }, funding := .wallet 0 }

theorem tryWallet_eq (cfg read w)
    (info quota l)
    : tryWallet cfg read w info quota l
      = match walletCheck read info quota with
        | .error e => (.error e, l)
        | .ok session => session.preConsume cfg w quota l := by
  unfold tryWallet walletCheck
  cases read with
  | error text => rfl
  | ok userQuota =>
    dsimp only
    split
    · rfl
    · split <;> rfl

inductive WalletRequest where
  | idle
  | checked (quota : ℤ) (session : BillingSession)
  | opened (session : BillingSession)
  | refused (error : NewAPIError)

/-- The wallet of a user with its cached quota, the cache updates under way, the requests and the
amounts they took, latest first.
-/
structure Contention where
  (start balance : ℤ)
  cache : Option ℤ
  updates : List CacheUpdate
  requests : ℕ → WalletRequest
  reserved : List ℤ

/-- A request reads and checks the balance, a request pre-consumes, a cache update takes effect, or
the cache entry goes away. The rows a pre-consume meets besides are an input.
-/
inductive ContentionAction where
  | check (request : ℕ) (o : QuotaQueries) (info : RelayInfo) (quota : ℤ)
  | preConsume (request : ℕ) (cfg : TrustSettings) (w : PreConsumeOutcome) (rows : Ledger)
  | updateCache (index : ℕ)
  | dropCache

def Contention.afterPreConsume (redisEnabled : Bool) (s : Contention) (request : ℕ)
    (result : Except NewAPIError BillingSession) (balance : ℤ)
    : Contention :=
  match result with
  | .error e =>
    { s with balance := balance, requests := update s.requests request (.refused e) }
  | .ok session =>
    let amount := session.preConsumedQuota
    { s with
      balance := balance
      updates := if redisEnabled ∧ 0 < amount then .incr (-amount) :: s.updates else s.updates
      requests := update s.requests request (.opened session)
      reserved := if 0 < amount then amount :: s.reserved else s.reserved }

/-- `PreConsumeBilling` lets no negative quota through. -/
def Contention.next (redisEnabled : Bool) (s : Contention)
    : ContentionAction → Option Contention
  | .check request o info quota =>
    match s.requests request with
    | .idle =>
      if quota < 0 then none
      else
        let (read, updates) := getUserQuota redisEnabled o s.cache s.balance
        some { s with
          updates := updates ++ s.updates
          requests := update s.requests request
            (match walletCheck read info quota with
              | .error e => .refused e
              | .ok session => .checked quota session) }
    | _ => none
  | .preConsume request cfg w rows =>
    match s.requests request with
    | .checked quota session =>
      let (result, l) := session.preConsume cfg w quota { rows with userQuota := s.balance }
      some (s.afterPreConsume redisEnabled request result l.userQuota)
    | _ => none
  | .updateCache index =>
    s.updates[index]?.map fun update =>
      { s with cache := update.apply s.cache, updates := s.updates.eraseIdx index }
  | .dropCache => some { s with cache := none }

/-- A cached balance is current when it is read, and no request decrements the balance while another
stands between its read and its own decrement; a trusted request decrements nothing.
-/
def Unraced (redisEnabled : Bool) (s : Contention) : ContentionAction → Prop
  | .check _ _ _ _ => redisEnabled → ∀ cached ∈ s.cache, cached = s.balance
  | .preConsume request cfg _ _ =>
    ∀ quota session, s.requests request = .checked quota session → session.shouldTrust cfg = false
      → ∀ other ≠ request, ∀ quota session, s.requests other ≠ .checked quota session
  | _ => True

namespace BillingSession

theorem rollbackToken_userQuota (w) (s : BillingSession) (l : Ledger)
    : (s.rollbackToken w l).userQuota = l.userQuota := by
  unfold rollbackToken
  split
  · split
    · rfl
    next increased =>
      obtain ⟨_, _, rfl⟩ := quotaWrite_eq_ok.mp increased
      rfl
  · rfl

variable {cfg : TrustSettings} {w : PreConsumeOutcome} {quota : ℤ} {s : BillingSession}
  {l l' : Ledger}

theorem preConsume_wallet_error {e} (nonneg : 0 ≤ quota)
    (called : s.preConsume cfg w quota l = (.error e, l'))
    : l'.userQuota = l.userQuota := by
  rcases preConsume_refused called with
    rfl | ⟨effective, middle, chosen, tokenConsumed, rfl⟩
  · rfl
  · have effectiveNonneg : 0 ≤ effective := by
      rw [chosen]
      split
      · exact le_rfl
      · exact nonneg
    have kept := (preConsume_token_moves effectiveNonneg (.wallet 0) tokenConsumed).fundingDrawn
    simp only [Ledger.fundingDrawn, add_zero, neg_inj] at kept
    rw [rollbackToken_userQuota, kept]

theorem preConsume_wallet_ok {s'} (nonneg : 0 ≤ quota)
    (fromWallet : s.funding = .wallet 0) (called : s.preConsume cfg w quota l = (.ok s', l'))
    : s'.preConsumedQuota = (if s.shouldTrust cfg then 0 else quota)
      ∧ l'.userQuota = l.userQuota - s'.preConsumedQuota := by
  obtain ⟨effective, middle, funding, chosen, tokenConsumed, charged, rfl⟩ := preConsume_ok called
  have effectiveNonneg : 0 ≤ effective := by
    rw [chosen]
    split
    · exact le_rfl
    · exact nonneg
  rw [fromWallet] at charged
  obtain ⟨rfl, moved⟩ := Funding.preConsume_wallet_moves effectiveNonneg charged
  have drawn := ((preConsume_token_moves effectiveNonneg _ tokenConsumed).trans moved).fundingDrawn
  simp only [Ledger.fundingDrawn, Prod.mk_add_mk, zero_add] at drawn
  obtain ⟨info', synced, _, _⟩ := syncRelayInfo_eq _
  rw [synced]
  refine ⟨chosen, ?_⟩
  dsimp only
  omega

end BillingSession

variable {info : RelayInfo}

theorem walletCheck_ok {read session} (passed : walletCheck read info quota = .ok session)
    : session.funding = .wallet 0 ∧ ∃ userQuota, read = .ok userQuota ∧ quota ≤ userQuota := by
  unfold walletCheck at passed
  split at passed
  · cases passed
  next userQuota =>
    split at passed
    · cases passed
    split at passed <;> cases passed
    next enough => exact ⟨rfl, userQuota, rfl, by omega⟩

/-- A read that is not answered from an outdated cache gives the balance. -/
theorem getUserQuota_current {redisEnabled : Bool} {o} {cache : Option ℤ} {balance userQuota}
    (current : redisEnabled → ∀ cached ∈ cache, cached = balance)
    (read : (getUserQuota redisEnabled o cache balance).1 = .ok userQuota)
    : userQuota = balance := by
  obtain ⟨user, quota⟩ := o
  unfold getUserQuota at read
  cases redisEnabled with
  | false =>
    cases quota <;> cases read
    rfl
  | true =>
    cases cache with
    | some cached =>
      cases read
      exact current rfl _ rfl
    | none => cases user <;> cases quota <;> cases read <;> rfl

/-- What is left is the balance and what is spent are the amounts reserved. Requests that passed
the check are funded by the wallet and covered by its balance.
-/
structure Contention.Spends (s : Contention) (b : Budget ℤ) : Prop where
  granted : b.granted = s.start
  left : b.left = s.balance
  spent : b.spent = s.reserved
  checked : ∀ request quota session, s.requests request = .checked quota session
    → 0 ≤ quota ∧ quota ≤ s.balance ∧ session.funding = .wallet 0

theorem checked_update {requests} {request : ℕ} {P : ℤ → BillingSession → Prop}
    (known : ∀ other ≠ request, ∀ quota session, requests other = .checked quota session
      → P quota session) {now : WalletRequest}
    (added : ∀ quota session, now = .checked quota session → P quota session)
    : ∀ other quota session,
      update requests request now other = .checked quota session → P quota session :=
  (forall_update_iff requests fun _ phase =>
    ∀ quota session, phase = .checked quota session → P quota session).mpr ⟨added, known⟩

variable {redisEnabled : Bool} {s' : Contention} {b : Budget ℤ} {request : ℕ}

namespace Contention

theorem Spends.preConsume {s : Contention} (related : s.Spends b) {rows : Ledger}
    (unraced : Unraced redisEnabled s (.preConsume request cfg w rows))
    (moved : s.next redisEnabled (.preConsume request cfg w rows) = some s')
    : ∃ b', (machine ℤ).Leads anyStep b b' ∧ s'.Spends b' := by
  simp only [next] at moved
  split at moved
  next quota session checked =>
    obtain ⟨nonneg, covered, fromWallet⟩ := related.checked request quota session checked
    rcases called : session.preConsume cfg w quota { rows with userQuota := s.balance } with
      ⟨result, l'⟩
    rw [called] at moved
    cases moved
    cases result with
    | error e =>
      have kept : l'.userQuota = s.balance := BillingSession.preConsume_wallet_error nonneg called
      refine ⟨b, .refl, related.granted, related.left.trans kept.symm, related.spent, ?_⟩
      refine checked_update (fun other _ quota session found => ?_) fun _ _ => nofun
      rw [kept]
      exact related.checked other quota session found
    | ok session' =>
      obtain ⟨amount, taken⟩ := BillingSession.preConsume_wallet_ok nonneg fromWallet called
      by_cases positive : 0 < session'.preConsumedQuota
      · -- only an untrusted request takes something, and no other has passed its check then
        have untrusted : session.shouldTrust cfg = false := by
          by_contra trusted
          rw [amount, if_pos (by simpa using trusted)] at positive
          exact absurd positive (lt_irrefl 0)
        have alone := unraced quota session checked untrusted
        have available : session'.preConsumedQuota ≤ b.left := by
          rw [related.left, amount]
          split <;> omega
        refine ⟨_, leads_spend positive.le available, ?_⟩
        exact {
          granted := related.granted
          left := by simp only [afterPreConsume, related.left, taken]
          spent := by simp only [afterPreConsume, if_pos positive, related.spent]
          checked := checked_update
            (fun other differs quota session found =>
              absurd found (alone other differs quota session))
            fun _ _ => nofun
        }
      · have nothing : session'.preConsumedQuota = 0 := by
          rw [amount] at positive ⊢
          split at positive <;> split <;> omega
        have kept : l'.userQuota = s.balance := by rw [taken, nothing, sub_zero]
        refine ⟨b, .refl, related.granted, related.left.trans kept.symm, ?_, ?_⟩
        · simp only [afterPreConsume, if_neg positive, related.spent]
        · refine checked_update (fun other _ quota session found => ?_) fun _ _ => nofun
          dsimp only [afterPreConsume]
          rw [kept]
          exact related.checked other quota session found
  · cases moved

theorem Spends.check {s : Contention} (related : s.Spends b) {o : QuotaQueries}
    (unraced : Unraced redisEnabled s (.check request o info quota))
    (moved : s.next redisEnabled (.check request o info quota) = some s')
    : s'.Spends b := by
  simp only [next] at moved
  split at moved
  · split at moved
    · cases moved
    next nonneg =>
      cases moved
      refine ⟨related.granted, related.left, related.spent, ?_⟩
      refine checked_update (fun other _ => related.checked other) fun quota' session found => ?_
      split at found
      · cases found
      rename_i passed
      cases found
      obtain ⟨fromWallet, userQuota, read, enough⟩ := walletCheck_ok passed
      rw [getUserQuota_current unraced read] at enough
      exact ⟨Int.not_lt.mp nonneg, enough, fromWallet⟩
  · cases moved

end Contention

def taskRequest : RelayInfo where
  userId := 1
  requestId := "r"
  isPlayground := true
  tokenUnlimited := true
  forcePreConsume := true
  billingPreference := "wallet_only"

def check60 (request : ℕ) : ContentionAction := .check request ⟨none, none⟩ taskRequest 60

def preConsumeDone (request : ℕ) : ContentionAction :=
  .preConsume request ⟨0, 0⟩
    ⟨.ok 0, .applied, .applied, ⟨none, none, .applied, none, .applied⟩, .applied⟩
    ⟨0, 0, 0, fun _ => none, fun _ => none⟩

def twoRequests : List ContentionAction :=
  [check60 0, check60 1, preConsumeDone 0, preConsumeDone 1]

end HelsterApi.Billing
