import HelsterApi.Billing.ExactCharge

/-! The retry loop of `Relay`, from the successful pre-consume to the deferred refund. A run is the
list of the outcomes of its iterations. A client gone before the first attempt leaves no error, and
so no refund.
-/

namespace HelsterApi.Relay

section

open Billing List Option

structure RetryParam where
  retry : ℤ
  resetNextTry : Bool
  deriving DecidableEq

/-- A pending reset is used up instead of counting. -/
def RetryParam.increaseRetry (p : RetryParam) : RetryParam :=
  if p.resetNextTry then { p with resetNextTry := false }
  else { p with retry := p.retry + 1 }

/-- The part of `NewAPIError` that the loop sets and reads. Upstream error codes are
arbitrary texts.
-/
structure RelayError where
  errorCode : String
  statusCode : ℤ
  skipRetry : Bool
  message : String
  deriving DecidableEq

structure RetrySettings where
  retryTimes : ℤ
  retryRanges : List (ℤ × ℤ)

def RelayError.isChannelError (e : RelayError) : Bool :=
  "channel:".toList.isPrefixOf e.errorCode.toList

def matchRanges (code : ℤ) : List (ℤ × ℤ) → Bool
  | [] => false
  | (start, stop) :: rest =>
    if code < start then false
    else if code ≤ stop then true
    else matchRanges code rest

/-- Timeouts `504` and `524` are never retried. -/
def shouldRetryByStatusCode (cfg : RetrySettings) (code : ℤ) : Bool :=
  if code = 504 ∨ code = 524 then false
  else if code < 100 ∨ 599 < code then false
  else matchRanges code cfg.retryRanges

/-- A failed upstream attempt: its error after `NormalizeViolationFeeError`, whether the client has
gone, whether semantic output was sent, whether channel affinity forbids a retry, and whether the
request names its channel.
-/
structure Failure where
  error : RelayError
  (disconnected semanticOutput affinitySkip specificChannel : Bool)
  deriving DecidableEq

def Failure.shouldRetry (cfg : RetrySettings) (f : Failure) (retryTimes : ℤ) : Bool :=
  if f.affinitySkip then false
  else if f.error.isChannelError then true
  else if f.error.skipRetry then false
  else if retryTimes ≤ 0 then false
  else if f.specificChannel then false
  else if 200 ≤ f.error.statusCode ∧ f.error.statusCode < 300 then false
  else if f.error.statusCode < 100 ∨ 599 < f.error.statusCode then true
  else if f.error.errorCode = "bad_response_body" then false
  else shouldRetryByStatusCode cfg f.error.statusCode

/-- What one iteration meets. `selected` are the retry counters that channel selection left; a
served attempt has settled its quota before the handler returned.
-/
inductive Outcome where
  | disconnected
  | noChannel (error : RelayError)
  | unreadableBody (tooLarge : Bool) (text : String)
  | limiterDown (text : String)
  | rateLimited (selected : RetryParam)
  | served (quota : ℤ) (w : SettleWrites)
  | failed (selected : RetryParam) (failure : Failure)
  deriving DecidableEq

structure LoopState where
  retryParam : RetryParam
  newAPIError : Option RelayError
  (upstreamAttempted channelRateLimited : Bool)
  session : BillingSession
  ledger : Ledger

def LoopState.start (session : BillingSession) (ledger : Ledger) : LoopState :=
  ⟨⟨0, false⟩, none, false, false, session, ledger⟩

def LoopState.fail (st : LoopState) (error : RelayError) : LoopState :=
  { st with newAPIError := some error }

def LoopState.attempt (cfg : RetrySettings) (st : LoopState) : Outcome → LoopState × Bool
  | .disconnected => (st, false)
  | .noChannel error => (st.fail error, false)
  | .unreadableBody tooLarge text =>
    (st.fail ⟨"read_request_body_failed", if tooLarge then 413 else 400, true, text⟩, false)
  | .limiterDown text => (st.fail ⟨"get_channel_failed", 503, true, text⟩, false)
  | .rateLimited selected => ({ st with retryParam := selected, channelRateLimited := true }, true)
  | .served quota w =>
    -- a settlement error is only logged
    let (_, session, ledger) := st.session.settle w quota st.ledger
    ({ st with
      newAPIError := none
      upstreamAttempted := true
      session := session
      ledger := ledger }, false)
  | .failed selected failure =>
    ({ st.fail failure.error with retryParam := selected, upstreamAttempted := true },
    !failure.disconnected && !failure.semanticOutput
      && failure.shouldRetry cfg (cfg.retryTimes - selected.retry))

/-- `none` if the list does not end exactly where the loop does. -/
def relayLoop (cfg : RetrySettings) : List Outcome → LoopState → Option LoopState
  | [], st => if st.retryParam.retry ≤ cfg.retryTimes then none else some st
  | outcome :: rest, st =>
    if st.retryParam.retry ≤ cfg.retryTimes then
      match st.attempt cfg outcome with
      | (st, true) => relayLoop cfg rest { st with retryParam := st.retryParam.increaseRetry }
      | (st, false) => if rest = [] then some st else none
    else none

/-- The error the loop is left with: skipping every channel for local rate limits is an error of its
own.
-/
def LoopState.finalError (st : LoopState) : Option RelayError :=
  if st.newAPIError = none ∧ st.channelRateLimited = true ∧ st.upstreamAttempted = false then
    some ⟨"get_channel_failed", 429, true, "all candidate channels are locally rate limited"⟩
  else st.newAPIError

/-- The loop, then the deferred refund if an error is left. -/
def relay (cfg : RetrySettings) (outcomes : List Outcome) (session : BillingSession)
    (ledger : Ledger)
    : Option (Option RelayError × BillingSession × Ledger) :=
  (relayLoop cfg outcomes ⟨⟨0, false⟩, none, false, false, session, ledger⟩).map fun st =>
    match st.finalError with
    | none => (none, st.session, st.ledger)
    | some error => (some error, st.session.refund.1, st.ledger)

section

variable {cfg : RetrySettings} {st st' : LoopState} {outcome : Outcome}

namespace LoopState

/-- An upstream attempt the loop is past has left its error. -/
def Sound (st : LoopState) : Prop := st.upstreamAttempted = true → st.newAPIError ≠ none

theorem finalError_of_error (failed : st.newAPIError ≠ none) : st.finalError ≠ none := by
  unfold finalError
  rwa [if_neg fun skipped => failed skipped.1]

theorem attempt_continues (sound : st.Sound) (attempted : st.attempt cfg outcome = (st', true))
    : st'.Sound ∧ st'.finalError ≠ none ∧ st'.session = st.session ∧ st'.ledger = st.ledger
      ∧ ∀ q w, outcome ≠ .served q w := by
  cases outcome with
  | rateLimited selected =>
    cases attempted
    refine ⟨sound, ?_, rfl, rfl, fun _ _ other => by cases other⟩
    by_cases failed : st.newAPIError = none
    · have unattempted : st.upstreamAttempted = false := by
        rw [← Bool.not_eq_true]
        exact fun attempted => sound attempted failed
      simp [finalError, failed, unattempted]
    · exact finalError_of_error failed
  | failed selected failure =>
    simp only [attempt, Prod.mk.injEq] at attempted
    obtain ⟨rfl, _⟩ := attempted
    exact ⟨fun _ => some_ne_none _,
      finalError_of_error (some_ne_none _), rfl, rfl,
      fun _ _ other => by cases other⟩
  | disconnected | noChannel | unreadableBody | limiterDown | served => cases attempted

end LoopState

/-- How an iteration can end the loop: the client was gone, the attempt was served and settled, or
an error is left.
-/
inductive Stops (st : LoopState) (st' : LoopState) : Outcome → Prop where
  | gone (same : st' = st)
    : Stops st st' .disconnected
  | served {q : ℤ} {w : SettleWrites} (clean : st'.finalError = none)
      (settled : st'.session = (st.session.settle w q st.ledger).2.1)
    : Stops st st' (.served q w)
  | error {outcome : Outcome} (present : outcome ≠ .disconnected)
      (unserved : ∀ q w, outcome ≠ .served q w) (failed : st'.finalError ≠ none)
      (session : st'.session = st.session)
    : Stops st st' outcome

theorem LoopState.attempt_stops (attempted : st.attempt cfg outcome = (st', false))
    : Stops st st' outcome := by
  have errorLeft : ∀ error, (st.fail error).finalError ≠ none := fun error =>
    finalError_of_error (some_ne_none error)
  cases outcome with
  | disconnected =>
    cases attempted
    exact .gone rfl
  | served q w =>
    cases attempted
    exact .served (by simp [finalError]) rfl
  | rateLimited selected => cases attempted
  | failed selected failure =>
    simp only [attempt, Prod.mk.injEq] at attempted
    obtain ⟨rfl, _⟩ := attempted
    refine .error nofun (fun _ _ other => by cases other) ?_ rfl
    exact finalError_of_error (some_ne_none _)
  | noChannel | unreadableBody | limiterDown =>
    cases attempted
    exact .error nofun (fun _ _ other => by cases other)
      (errorLeft _) rfl

/-- How a loop past its first iteration ends: with an error and the session untouched, or by
settling the attempt served.
-/
inductive Ends (st : LoopState) (outcomes : List Outcome) (st' : LoopState) : Prop where
  | error (failed : st'.finalError ≠ none) (session : st'.session = st.session)
      (unserved : ∀ q w, Outcome.served q w ∉ outcomes)
  | served {q : ℤ} {w : SettleWrites} (clean : st'.finalError = none)
      (settled : st'.session = (st.session.settle w q st.ledger).2.1)
      (member : Outcome.served q w ∈ outcomes)
      (only : ∀ q' w', Outcome.served q' w' ∈ outcomes → q' = q ∧ w' = w)

theorem Stops.ends (stops : Stops st st' outcome)
    (marked : outcome = .disconnected → st.finalError ≠ none)
    : Ends st [outcome] st' := by
  cases stops with
  | gone same =>
    subst same
    exact .error (marked rfl) rfl (by simp)
  | served clean settled =>
    exact .served clean settled (mem_singleton_self _) (by
      intro q' w' member
      cases mem_singleton.mp member
      exact ⟨rfl, rfl⟩)
  | error present unserved failed session =>
    exact .error failed session fun q w member =>
      unserved q w (mem_singleton.mp member).symm

theorem Ends.cons {middle outcomes} (ends : Ends middle outcomes st')
    (session : middle.session = st.session) (ledger : middle.ledger = st.ledger)
    (unserved : ∀ q w, outcome ≠ .served q w)
    : Ends st (outcome :: outcomes) st' := by
  have later : ∀ q w, Outcome.served q w ∈ outcome :: outcomes
      → Outcome.served q w ∈ outcomes := by
    intro q w member
    rcases mem_cons.mp member with first | rest
    · exact absurd first.symm (unserved q w)
    · exact rest
  cases ends with
  | error failed same none_ =>
    exact .error failed (same.trans session) fun q w member => none_ q w (later q w member)
  | served clean settled member only =>
    rw [session, ledger] at settled
    exact .served clean settled (mem_cons_of_mem _ member)
      fun q w member => only q w (later q w member)

/-- A loop that has left an error or a skipped channel behind ends properly, by induction on its
outcomes.
-/
theorem relayLoop_ends {outcomes} (sound : st.Sound)
    (marked : st.finalError ≠ none) (ended : relayLoop cfg outcomes st = some st')
    : Ends st outcomes st' := by
  induction outcomes generalizing st with
  | nil =>
    unfold relayLoop at ended
    split at ended
    · cases ended
    cases ended
    exact .error marked rfl fun _ _ member => by cases member
  | cons outcome rest ih =>
    unfold relayLoop at ended
    split at ended
    · split at ended
      next middle attempted =>
        obtain ⟨sound', marked', session, ledger, unserved⟩ :=
          LoopState.attempt_continues sound attempted
        have continued : Ends
            { middle with retryParam := middle.retryParam.increaseRetry } rest st' :=
          ih sound' marked' ended
        exact continued.cons session ledger unserved
      next middle attempted =>
        split at ended
        next last =>
          cases ended
          subst last
          exact (LoopState.attempt_stops attempted).ends fun _ => marked
        · cases ended
    · cases ended

end

end

open Billing BillingSession

/-- A session holds pre-consumed quota and has neither been settled nor refunded. -/
def Outstanding (s : BillingSession) : Prop :=
  s.preConsumedQuota ≠ 0 ∧ s.settled = false ∧ s.refunded = false
  deriving Decidable

variable {cfg : RetrySettings} {outcomes : List Outcome} {session : BillingSession}
  {ledger : Ledger}

theorem relayLoop_start_ends {st} (ended : relayLoop cfg outcomes (.start session ledger) = some st)
    : ((cfg.retryTimes < 0 ∨ outcomes.head? = some .disconnected)
        ∧ st = .start session ledger)
      ∨ (0 ≤ cfg.retryTimes ∧ outcomes.head? ≠ some .disconnected
        ∧ Ends (.start session ledger) outcomes st) := by
  cases outcomes with unfold relayLoop at ended
  | nil =>
    split at ended
    · cases ended
    rename_i never
    cases ended
    exact .inl ⟨.inl (not_le.mp never), rfl⟩
  | cons outcome rest =>
    split at ended
    next entered =>
      split at ended
      next middle attempted =>
        obtain ⟨sound, marked, same, sameLedger, unserved⟩ :=
          LoopState.attempt_continues (fun tried => by cases tried) attempted
        have continued : Ends
            { middle with retryParam := middle.retryParam.increaseRetry } rest st :=
          relayLoop_ends sound marked ended
        refine .inr ⟨entered, ?_, continued.cons same sameLedger unserved⟩
        rintro ⟨⟩
        cases attempted
      next middle attempted =>
        split at ended
        next last =>
          subst last
          cases ended
          have stops := LoopState.attempt_stops attempted
          by_cases gone : outcome = .disconnected
          · subst gone
            cases attempted
            exact .inl ⟨.inr rfl, rfl⟩
          · exact .inr ⟨entered, fun first => gone (Option.some.inj first),
              stops.ends fun first => absurd first gone⟩
        · cases ended
    · cases ended

/-- What `Relay` makes of the session: abandoned, refunded because of an error, or settled for the
attempt served.
-/
inductive Concludes (cfg : RetrySettings) (outcomes : List Outcome)
    (session : BillingSession) (ledger : Ledger) : BillingSession → Prop where
  | abandoned (missed : cfg.retryTimes < 0 ∨ outcomes.head? = some .disconnected)
    : Concludes cfg outcomes session ledger session
  | refunded (entered : 0 ≤ cfg.retryTimes)
      (present : outcomes.head? ≠ some .disconnected)
      (unserved : ∀ q w, Outcome.served q w ∉ outcomes)
    : Concludes cfg outcomes session ledger session.refund.1
  | settled {q : ℤ} {w : SettleWrites} (entered : 0 ≤ cfg.retryTimes)
      (present : outcomes.head? ≠ some .disconnected)
      (member : Outcome.served q w ∈ outcomes)
      (only : ∀ q' w', Outcome.served q' w' ∈ outcomes → q' = q ∧ w' = w)
    : Concludes cfg outcomes session ledger (session.settle w q ledger).2.1

theorem relay_concludes {result} (returned : relay cfg outcomes session ledger = some result)
    : Concludes cfg outcomes session ledger result.2.1 := by
  obtain ⟨st, ended, rfl⟩ := Option.map_eq_some_iff.mp returned
  rcases relayLoop_start_ends ended with ⟨missed, rfl⟩ | ⟨entered, present, ends⟩
  · exact .abandoned missed
  · cases ends with
    | error failed same unserved =>
      obtain ⟨error, left⟩ := Option.ne_none_iff_exists'.mp failed
      rw [left, same]
      exact .refunded entered present unserved
    | served clean settled member only =>
      rw [clean, settled]
      exact .settled entered present member only

variable {s : BillingSession} {l : Ledger}

theorem refund_not_outstanding (held : Held s l) (unused : s.Unused) : ¬Outstanding s.refund.1 := by
  rintro ⟨some_, _, notRefunded⟩
  have kept : s.refund.1.preConsumedQuota = s.preConsumedQuota := by
    unfold refund
    split <;> rfl
  rw [kept] at some_
  simp [refund_of_held held unused some_] at notRefunded

/-- A settlement leaves an opened session outstanding exactly if it changes something and
the funding source refuses.
-/
theorem settle_outstanding_iff {q w} (unused : s.Unused) (some_ : s.preConsumedQuota ≠ 0)
    : ¬Outstanding (s.settle w q l).2.1
      ↔ q = s.preConsumedQuota ∨ s.funding.Accepts w.funding (q - s.preConsumedQuota) l := by
  rw [← settle_settled_iff unused.fundingSettled unused.settled]
  constructor
  · intro concluded
    by_contra notSettled
    rw [Bool.not_eq_true] at notSettled
    rw [settle_unsettled notSettled] at concluded
    exact concluded ⟨some_, unused.settled, unused.refunded⟩
  · intro settled outstanding
    simp [outstanding.2.1] at settled

/-- `Relay` returns with nothing outstanding exactly if nothing was pre-consumed, or the
loop was entered by a client still there and an attempt that was served could settle.
-/
theorem relay_outstanding_iff {start} (opened : Opened start) {cfg outcomes result}
    (returned : relay cfg outcomes start.session start.ledger = some result)
    : ¬Outstanding result.2.1
      ↔ start.session.preConsumedQuota = 0
        ∨ (0 ≤ cfg.retryTimes
          ∧ outcomes.head? ≠ some .disconnected
          ∧ ∀ q w, Outcome.served q w ∈ outcomes
            → q = start.session.preConsumedQuota
              ∨ start.session.funding.Accepts w.funding
                (q - start.session.preConsumedQuota) start.ledger) := by
  have started := opened.started
  have unused := started.unused
  have concluded := relay_concludes returned
  generalize result.2.1 = final at concluded ⊢
  cases concluded with
  | abandoned missed =>
    have notEntered : ¬(0 ≤ cfg.retryTimes ∧ outcomes.head? ≠ some .disconnected) :=
      fun entered => missed.elim (not_lt.mpr entered.1) entered.2
    constructor
    · intro concluded
      by_contra unmet
      rw [not_or] at unmet
      exact concluded ⟨unmet.1, unused.settled, unused.refunded⟩
    · rintro (zero | ⟨entered, present, _⟩) outstanding
      · exact outstanding.1 zero
      · exact notEntered ⟨entered, present⟩
  | refunded entered present unserved =>
    exact ⟨fun _ => .inr ⟨entered, present, fun q w member => absurd member (unserved q w)⟩,
      fun _ => refund_not_outstanding started.held unused⟩
  | @settled q w entered present member only =>
    by_cases zero : start.session.preConsumedQuota = 0
    · refine ⟨fun _ => .inl zero, fun _ outstanding => outstanding.1 ?_⟩
      rw [← zero, settle]
      split
      · rfl
      · dsimp only
        split
        · rfl
        · split
          · rfl
          · exact (start.session.sameHold_settled _).preConsumedQuota
    · rw [settle_outstanding_iff unused zero, or_iff_right zero]
      constructor
      · intro accepted
        refine ⟨entered, present, fun q' w' served => ?_⟩
        obtain ⟨rfl, rfl⟩ := only q' w' served
        exact accepted
      · rintro ⟨_, _, accepts⟩
        exact accepts q w member

/-- Witness: a served attempt settles the session it was opened with. -/
theorem relay_served_not_outstanding
    : ∃ result, relay ⟨0, []⟩ [.served 30 ⟨.done, .applied⟩] walletStart.session
        walletStart.ledger = some result
      ∧ ¬Outstanding result.2.1 := by
  have returned : relay ⟨0, []⟩ [.served 30 ⟨.done, .applied⟩] walletStart.session
      walletStart.ledger = some _ := rfl
  refine ⟨_, returned, (relay_outstanding_iff walletStart_opened returned).mpr
    (.inr ⟨le_rfl, by decide, fun q w served => .inr ?_⟩)⟩
  cases List.mem_singleton.mp served
  rfl

/-- Witness: a client that is gone before the first attempt leaves its quota outstanding. -/
theorem relay_disconnected_outstanding
    : ∃ result, relay ⟨3, []⟩ [.disconnected] walletStart.session walletStart.ledger
        = some result
      ∧ Opened walletStart ∧ Outstanding result.2.1 := ⟨_, rfl, walletStart_opened, by decide⟩

end HelsterApi.Relay
