import HelsterApi.Clock.Windows
import HelsterApi.Transition.Machine

/-! The rate limiters: the queues in memory, which slide one request at a time and are deleted by a
clean-up pass; and the limits of a channel, which keep the samples of the last minute.
-/

namespace HelsterApi.RateLimits

open Clock Transition

section

open Function Option

/-- The times of the requests let through by key, oldest first, in seconds; a queue that does not
exist is empty.
-/
abbrev InMemoryRateLimiter := String → List ℤ

def InMemoryRateLimiter.request (limiter : InMemoryRateLimiter) (key : String)
    (maxRequestNum duration now : ℤ)
    : Bool × InMemoryRateLimiter :=
  if maxRequestNum ≤ 0 then (true, limiter)
  else if duration ≤ 0 then (false, limiter)
  else if (limiter key).length < maxRequestNum then
    (true, update limiter key (limiter key ++ [now]))
  else if now - (limiter key).headD 0 ≥ duration then
    (true, update limiter key ((limiter key).tail ++ [now]))
  else (false, limiter)

open InMemoryRateLimiter

/-- One pass of the loop; `expiration` is in seconds. -/
def InMemoryRateLimiter.clearExpiredItems (limiter : InMemoryRateLimiter) (expiration now : ℤ)
    : InMemoryRateLimiter :=
  fun key =>
    if (limiter key).getLast?.all (now - · > expiration) then [] else limiter key

/-- The queues, the time of the last step, and the requests let through by key, latest first. -/
structure LimiterState where
  limiter : InMemoryRateLimiter := fun _ => []
  clock : ℤ := 0
  accepted : String → List ℤ := fun _ => []

inductive LimiterAction where
  | request (key : String) (maxRequestNum duration now : ℤ)
  | clear (now : ℤ)

/-- There are clean-up passes only if queues expire. -/
def LimiterState.next (expiration : ℤ) (s : LimiterState) : LimiterAction → Option LimiterState
  | .request key maxRequestNum duration now =>
    let answer := s.limiter.request key maxRequestNum duration now
    let log := if answer.1 then now :: s.accepted key else s.accepted key
    if s.clock ≤ now then some ⟨answer.2, now, update s.accepted key log⟩ else none
  | .clear now =>
    if s.clock ≤ now ∧ 0 < expiration then
      some { s with limiter := s.limiter.clearExpiredItems expiration now, clock := now }
    else none

def limiterMachine (expiration : ℤ) : Machine LimiterState LimiterAction where
  initial s := s = {}
  next := LimiterState.next expiration

/-- The requests of the key have one maximum and one duration. -/
def Constant (key : String) (maxRequestNum duration : ℤ) (_ : LimiterState) (action : LimiterAction)
    : Prop :=
  ∀ maximum lasting now, action = .request key maximum lasting now
    → maximum = maxRequestNum ∧ lasting = duration

variable {limiter : InMemoryRateLimiter} {key : String} {limit : ℕ}
  {duration now expiration : ℤ} {log : List ℤ}

/-- A request is let through exactly if the window has room for it, and the queue slides then. -/
theorem request_eq (positive : 0 < limit) (lasting : 0 < duration)
    (slides : Slides limit duration now log (limiter key))
    : limiter.request key limit duration now
      = if (recent duration now log).length < limit then
          (true, update limiter key (slide limit now (limiter key)))
        else (false, limiter) := by
  rw [request, if_neg (by omega), if_neg (by omega),
    if_congr (slides.room_iff positive) rfl rfl, if_congr Int.ofNat_lt rfl rfl, slide]
  by_cases fits : (limiter key).length < limit
  · rw [if_pos fits, if_pos fits, if_pos (.inl fits)]
  · rw [if_neg fits, if_neg fits, if_congr (or_iff_right fits) rfl rfl]

variable {s s' : LimiterState}

/-- Queues that slide in their window still do after a step. -/
theorem LimiterState.next_slides {action} (positive : 0 < limit)
    (lasting : 0 < duration) (lives : 0 < expiration → duration ≤ expiration + 1)
    (slides : Slides limit duration s.clock (s.accepted key) (s.limiter key))
    (constant : Constant key limit duration s action) (moved : s.next expiration action = some s')
    : Slides limit duration s'.clock (s'.accepted key) (s'.limiter key) := by
  cases action with
  | request other maximum window now =>
    simp only [next, ite_none_right_eq_some, some.injEq] at moved
    obtain ⟨later, rfl⟩ := moved
    dsimp only
    by_cases differs : key = other
    · subst differs
      obtain ⟨rfl, rfl⟩ := constant _ _ _ rfl
      have slides := slides.later later
      rw [request_eq positive lasting slides, update_self]
      by_cases room : (recent window now (s.accepted key)).length < limit
      · simpa only [if_pos room, if_true, update_self] using slides.slide room
      · simpa only [if_neg room, Bool.false_eq_true, if_false] using slides
    · rw [update_of_ne differs, request]
      split_ifs <;> simpa only [update_of_ne differs] using slides.later later
  | clear now =>
    obtain ⟨⟨later, expires⟩, ⟨⟩⟩ := ite_none_right_eq_some.mp moved
    dsimp only [clearExpiredItems]
    split_ifs with expired
    · refine (slides.later later).clear fun last found => ?_
      rw [mem_def.mp found, all_some, decide_eq_true_eq] at expired
      have := lives expires
      omega
    · exact slides.later later

/-- A key is limited by its window if queues live as long as the window lasts. -/
theorem limited_by_window (positive : 0 < limit) (lasting : 0 < duration)
    (lives : 0 < expiration → duration ≤ expiration + 1)
    (reached : (limiterMachine expiration).Reaches (Constant key limit duration) s)
    : Bounded limit duration (s.accepted key)
      ∧ ∀ now, s.clock ≤ now → (s.limiter.request key limit duration now).1 = false
        → limit ≤ (recent duration now (s.accepted key)).length := by
  have slides :=
    reached.invariant (fun s => Slides limit duration s.clock (s.accepted key) (s.limiter key))
      (by rintro _ rfl; exact .nil)
      fun _ slides constant moved =>
        LimiterState.next_slides positive lasting lives slides constant moved
  refine ⟨slides.bounded, fun now later rejected => ?_⟩
  rw [request_eq positive lasting (slides.later later)] at rejected
  exact not_lt.mp fun room => by rw [if_pos room] at rejected; cases rejected

/-- Two requests at the times given, with a clean-up pass just before the second. -/
def twoRequests (duration second : ℤ) : LimiterState :=
  (limiterMachine 1200).play {}
    [.request "MRRL1" 1 duration 0, .clear second, .request "MRRL1" 1 duration second]

theorem twoRequests_reached (duration second : ℤ) (later : 0 ≤ second)
    : (limiterMachine 1200).Reaches (Constant "MRRL1" 1 duration)
        (twoRequests duration second) := by
  refine Machine.reaches_play rfl ?_
  simp [Machine.Plays, limiterMachine, LimiterState.next, Constant, later]

/-- Where the window is an hour, queues live for twenty minutes only. -/
theorem twoRequests_unbounded
    : (limiterMachine 1200).Reaches (Constant "MRRL1" 1 3600) (twoRequests 3600 1201)
      ∧ ¬Bounded 1 3600 ((twoRequests 3600 1201).accepted "MRRL1") := by
  refine ⟨twoRequests_reached _ _ (by decide), fun bounded => ?_⟩
  exact absurd (bounded 0) (by decide)

theorem twoRequests_bounded : Bounded 1 180 ((twoRequests 180 180).accepted "MRRL1") :=
  (limited_by_window (by decide) (by decide) (by decide)
    (twoRequests_reached 180 180 (by decide))).1

end

section

/-- In nanoseconds. -/
def channelRateLimitWindow : ℤ := 60000000000

/-- A limit that is not positive is none. -/
structure ChannelRateLimitConfig where
  (requestRPM successfulRPM : ℤ)

/-- The samples of a channel, oldest first; a channel without a state has none. -/
structure ChannelRateLimitWindowState where
  (total success : List ℤ := [])

def pruneChannelRateLimitSamples (samples : List ℤ) (now : ℤ) : List ℤ :=
  samples.dropWhile (· ≤ now - channelRateLimitWindow)

open ChannelRateLimitWindowState

variable (config : ChannelRateLimitConfig)

def ChannelRateLimitConfig.full (state : ChannelRateLimitWindowState) : Bool :=
  config.requestRPM > 0 && state.total.length ≥ config.requestRPM
    || config.successfulRPM > 0 && state.success.length ≥ config.successfulRPM

namespace ChannelRateLimitWindowState

variable (state : ChannelRateLimitWindowState)

def prune (now : ℤ) : ChannelRateLimitWindowState where
  total := pruneChannelRateLimitSamples state.total now
  success := pruneChannelRateLimitSamples state.success now

def localSaturated (config : ChannelRateLimitConfig) (now : ℤ)
    : Bool × ChannelRateLimitWindowState := (config.full (state.prune now), state.prune now)

def localAcquire (config : ChannelRateLimitConfig) (now : ℤ) : Bool × ChannelRateLimitWindowState :=
  let state := state.prune now
  if config.full state then (false, state)
  else (true, { state with total := state.total ++ [now] })

def localRecordSuccess (now : ℤ) : ChannelRateLimitWindowState :=
  { state with success := pruneChannelRateLimitSamples state.success now ++ [now] }

end ChannelRateLimitWindowState

/-- A channel, the time of the last operation, the requests acquired and the successes recorded,
latest first.
-/
structure ChannelLimits where
  state : ChannelRateLimitWindowState := {}
  clock : ℤ
  (acquired recorded : List ℤ := [])

inductive ChannelLimitAction where
  | saturated (config : ChannelRateLimitConfig)
  | acquire (config : ChannelRateLimitConfig)
  | recordSuccess

/-- An operation and the time it reads. -/
def ChannelLimits.next (s : ChannelLimits) : ChannelLimitAction × ℤ → Option ChannelLimits
  | (action, now) =>
    if s.clock ≤ now then
      match action with
      | .saturated config =>
        some { s with clock := now, state := (s.state.localSaturated config now).2 }
      | .acquire config =>
        let answer := s.state.localAcquire config now
        some { s with
          clock := now
          state := answer.2
          acquired := if answer.1 then now :: s.acquired else s.acquired }
      | .recordSuccess =>
        some { s with
          clock := now
          state := s.state.localRecordSuccess now
          recorded := now :: s.recorded }
    else none

def channelLimitMachine : Machine ChannelLimits (ChannelLimitAction × ℤ) where
  initial s := ∃ clock, s = { clock }
  next := ChannelLimits.next

def LimitsRequests (limit : ℕ) (_ : ChannelLimits) (action : ChannelLimitAction × ℤ) : Prop :=
  ∀ config, action.1 = .acquire config → config.requestRPM = limit

/-- The samples are those of the last minute. -/
structure ChannelLimits.Tracks (s : ChannelLimits) (limit : ℕ) : Prop where
  total : Keeps channelRateLimitWindow s.clock s.acquired s.state.total
  success : Keeps channelRateLimitWindow s.clock s.recorded s.state.success
  bounded : Bounded limit channelRateLimitWindow s.acquired

variable {s s' : ChannelLimits} {now : ℤ} {limit : ℕ}

/-- What is full after pruning are the windows that end with the operation. -/
theorem ChannelLimits.Tracks.full_iff (tracks : s.Tracks limit) (later : s.clock ≤ now)
    (config : ChannelRateLimitConfig)
    : config.full (s.state.prune now) = true
      ↔ 0 < config.requestRPM
          ∧ config.requestRPM ≤ (recent channelRateLimitWindow now s.acquired).length
        ∨ 0 < config.successfulRPM
          ∧ config.successfulRPM ≤ (recent channelRateLimitWindow now s.recorded).length := by
  rw [(tracks.total.later later).prune.2, (tracks.success.later later).prune.2]
  simp [ChannelRateLimitConfig.full, prune,
    pruneChannelRateLimitSamples]

theorem ChannelLimits.next_tracks {action} (tracks : s.Tracks limit)
    (limits : LimitsRequests limit s action) (positive : 0 < limit)
    (moved : s.next action = some s')
    : s'.Tracks limit := by
  obtain ⟨action, now⟩ := action
  obtain ⟨later, moved⟩ := Option.ite_none_right_eq_some.mp moved
  have total := (tracks.total.later later).prune.1
  have success := (tracks.success.later later).prune.1
  cases action with cases moved
  | saturated config => exact ⟨total, success, tracks.bounded⟩
  | acquire config =>
    by_cases full : config.full (s.state.prune now) = true
    · rw [show s.state.localAcquire config now = _ from if_pos full]
      exact ⟨total, success, tracks.bounded⟩
    · rw [show s.state.localAcquire config now = _ from if_neg full]
      rw [tracks.full_iff later, limits config rfl] at full
      have room : (recent channelRateLimitWindow now s.acquired).length < limit := by omega
      exact ⟨total.push, success, tracks.bounded.cons room⟩
  | recordSuccess => exact ⟨tracks.total.later later, success.push, tracks.bounded⟩

/-- The requests of a channel are limited by the minute, and refused exactly if its window of
requests or successes is full.
-/
theorem channel_limited (positive : 0 < limit)
    (reached : channelLimitMachine.Reaches (LimitsRequests limit) s)
    : Bounded limit channelRateLimitWindow s.acquired
      ∧ ∀ (config : ChannelRateLimitConfig) (now : ℤ), config.requestRPM = limit → s.clock ≤ now
        → ((s.state.localAcquire config now).1 = false
            ↔ limit ≤ (recent channelRateLimitWindow now s.acquired).length
              ∨ 0 < config.successfulRPM
                ∧ config.successfulRPM ≤ (recent channelRateLimitWindow now s.recorded).length)
          ∧ ((s.state.localSaturated config now).1 = true
            ↔ (s.state.localAcquire config now).1 = false) := by
  have tracks := reached.invariant (fun s => s.Tracks limit)
    (by rintro _ ⟨clock, rfl⟩; exact ⟨.nil, .nil, fun _ => Nat.zero_le _⟩)
    fun _ tracks limits moved => ChannelLimits.next_tracks tracks limits positive moved
  refine ⟨tracks.bounded, fun config now fixed later => ?_⟩
  have refused : (s.state.localAcquire config now).1 = false
      ↔ config.full (s.state.prune now) = true := by
    unfold localAcquire
    cases full : config.full (s.state.prune now) <;> simp [full]
  refine ⟨?_, refused.symm⟩
  rw [refused, tracks.full_iff later, fixed]
  omega

theorem channel_limited_once
    : Bounded 1 channelRateLimitWindow
      (channelLimitMachine.play { clock := 0 }
        [(.acquire ⟨1, 0⟩, 0), (.saturated ⟨1, 0⟩, 0), (.acquire ⟨1, 0⟩, 1)]).acquired :=
  (channel_limited (by decide) (Machine.reaches_play ⟨0, rfl⟩ (by
    simp [Machine.Plays, channelLimitMachine, ChannelLimits.next, LimitsRequests]))).1

end

end HelsterApi.RateLimits
