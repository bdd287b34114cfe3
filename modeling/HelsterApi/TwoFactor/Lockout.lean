import HelsterApi.TwoFactor.Verification

/-! The bound on wrong codes before the account is locked. It holds if a code is evaluated only on
the lock as the row has it, while no other verification is still to be counted, and counting
succeeds.
-/

namespace HelsterApi.TwoFactor

open Transition Function

/-- A request has nothing left to write for a code it evaluated. -/
def Phase.Settled : Phase → Prop
  | .idle => True
  | .checking _ _ _ => True
  | _ => False

instance decidableSettled : DecidablePred Phase.Settled := fun phase => by
  cases phase <;> dsimp only [Phase.Settled] <;> infer_instance

/-- A request that is to check a code has the lock in memory as the row has it. -/
def Phase.Fresh (row : TwoFA) : Phase → Prop
  | .checking t _ _ => t.lockedUntil = row.lockedUntil
  | _ => True

instance decidableFresh (row : TwoFA) : DecidablePred (Phase.Fresh row) := fun phase => by
  cases phase <;> dsimp only [Phase.Fresh] <;> infer_instance

theorem Phase.settled_next (t code checks) : (next t code checks).Settled := by
  cases checks <;> trivial

section

variable {ι : Type*} {s s' : TwoFAState ι}

/-- The wrong codes, but for `pending` ones, are counted in the row, and only these were evaluated
since a full counter locked the account.
-/
structure TwoFAState.Bounded (s : TwoFAState ι) (pending : ℕ) : Prop where
  counted : s.wrong ≤ s.row.failedAttempts + pending
  full : maxFailAttempts ≤ s.row.failedAttempts → s.wrong ≤ pending

theorem TwoFAState.Bounded.congr {pending} (bounded : s.Bounded pending)
    (row : s'.row = s.row) (wrong : s'.wrong = s.wrong)
    : s'.Bounded pending := by
  constructor <;> rw [row, wrong]
  · exact bounded.counted
  · exact bounded.full

/-- What holds while a request is in a phase in which it has something left to write. -/
def TwoFAState.Fits (s : TwoFAState ι) : Phase → Prop
  | .idle => True
  | .checking _ _ _ => True
  | .marking _ _ _ _ => s.Bounded 0 ∧ s.row.isLocked s.now = false
  | .counting _ _ rounds _ => s.Bounded 1 ∧ s.row.isLocked s.now = false ∧ 0 < rounds
  | .swapping _ _ current readAt _ _ =>
    s.Bounded 1 ∧ current = s.row ∧ s.row.isLocked readAt = false
  | .saving _ => s.Bounded 0

/-- No code was evaluated while locked, one request at most has something left to write, and the
bound holds otherwise.
-/
structure TwoFAState.Sound (s : TwoFAState ι) : Prop where
  unlocked : s.whileLocked = false
  single : ∀ r r', ¬(s.requests r).Settled → ¬(s.requests r').Settled → r = r'
  fits : ∀ r, s.Fits (s.requests r)
  quiet : (∀ r, (s.requests r).Settled) → s.Bounded 0

variable {phase : Phase}

namespace TwoFAState

theorem fits_of_settled (settled : phase.Settled) : s.Fits phase := by
  cases phase with
  | idle | checking => trivial
  | marking | counting | swapping | saving => exact settled.elim

theorem Sound.bounded (sound : s.Sound) : ∃ pending ≤ 1, s.Bounded pending := by
  by_cases settled : ∀ r, (s.requests r).Settled
  · exact ⟨0, Nat.zero_le 1, sound.quiet settled⟩
  · obtain ⟨r, unsettled⟩ := not_forall.mp settled
    have fits := sound.fits r
    cases phase : s.requests r with rw [phase] at unsettled fits
    | idle | checking => exact absurd trivial unsettled
    | marking t code codeId checks => exact ⟨0, Nat.zero_le 1, fits.1⟩
    | counting | swapping => exact ⟨1, le_rfl, fits.1⟩
    | saving t => exact ⟨0, Nat.zero_le 1, fits⟩

theorem Fits.later (fits : s.Fits phase) (row : s'.row = s.row)
    (wrong : s'.wrong = s.wrong) (passed : s.now ≤ s'.now)
    : s'.Fits phase := by
  have unlocked (unlocked : s.row.isLocked s.now = false) : s'.row.isLocked s'.now = false := by
    unfold TwoFA.isLocked lockedAt at unlocked ⊢
    rw [row]
    split at unlocked
    · rfl
    · exact decide_eq_false (by have := of_decide_eq_false unlocked; omega)
  cases phase with
  | idle | checking => trivial
  | marking t code codeId checks => exact ⟨fits.1.congr row wrong, unlocked fits.2⟩
  | counting t code rounds checks => exact ⟨fits.1.congr row wrong, unlocked fits.2.1, fits.2.2⟩
  | swapping t code current readAt rounds checks =>
    exact ⟨fits.1.congr row wrong, fits.2.1.trans row.symm, by rw [row]; exact fits.2.2⟩
  | saving t => exact Bounded.congr fits row wrong

theorem swap_of_unchanged {readAt} (unlocked : s.row.isLocked readAt = false)
    : ∃ row, s.swap s.row readAt = some row
        ∧ row.failedAttempts = s.row.failedAttempts + 1 := ⟨_, if_pos ⟨rfl, rfl, unlocked⟩, rfl⟩

theorem Bounded.count (bounded : s.Bounded 1) {row}
    (counted : row.failedAttempts = s.row.failedAttempts + 1) (rowSet : s'.row = row)
    (wrong : s'.wrong = if maxFailAttempts ≤ row.failedAttempts then 0 else s.wrong)
    : s'.Bounded 0 := by
  have before := bounded.counted
  split at wrong
  case isTrue full => exact ⟨by omega, fun _ => by omega⟩
  case isFalse notFull =>
    rw [← rowSet] at notFull
    refine ⟨?_, fun full => absurd full notFull⟩
    rw [rowSet, counted, wrong]
    omega

theorem Sound.tick (sound : s.Sound) (seconds : ℕ)
    : ({ s with now := s.now + seconds } : TwoFAState ι).Sound where
  __ := sound
  fits := fun r => (sound.fits r).later rfl rfl (Int.le_add_of_nonneg_right (by omega))
  quiet := fun settled => Bounded.congr (sound.quiet settled) rfl rfl

end TwoFAState

variable {request : ι}

theorem TwoFAState.Sound.fits_of (sound : s.Sound) (found : s.requests request = phase)
    : s.Fits phase := found ▸ sound.fits request

theorem TwoFAState.Sound.others (sound : s.Sound) (found : s.requests request = phase)
    (unsettled : ¬phase.Settled)
    : ∀ other, other ≠ request → (s.requests other).Settled := by
  intro other different
  rw [← found] at unsettled
  exact by_contra fun both => different (sound.single other request both unsettled)

variable [DecidableEq ι]

theorem TwoFAState.Sound.of_move (others : ∀ other, other ≠ request → (s.requests other).Settled)
    (requests : s'.requests = update s.requests request phase)
    (unlocked : s'.whileLocked = false) (fits : s'.Fits phase)
    (quiet : phase.Settled → s'.Bounded 0)
    : s'.Sound := by
  have elsewhere : ∀ other, other ≠ request → (s'.requests other).Settled := by
    intro other different
    rw [requests, update_of_ne different]
    exact others other different
  have here : s'.requests request = phase := by rw [requests, update_self]
  refine ⟨unlocked, ?_, ?_, fun settled => quiet (here ▸ settled request)⟩
  · intro r r' left right
    have first : r = request := by_contra fun different => left (elsewhere r different)
    have second : r' = request := by_contra fun different => right (elsewhere r' different)
    rw [first, second]
  · intro r
    by_cases same : r = request
    · rwa [same, here]
    · exact fits_of_settled (elsewhere r same)

/-- A step evaluates a code only on the lock as the row has it and while the other requests are
settled, and no statement that counts a failure fails.
-/
def Isolated (s : TwoFAState ι) : TwoFAAction ι → Prop
  | .evaluate request _ =>
    (∀ other, other ≠ request → (s.requests other).Settled)
      ∧ (s.requests request).Fresh s.row
  | .readCount _ succeeds => succeeds = true
  | .swapCount _ succeeds => succeeds = true
  | _ => True

instance decidableIsolated [Fintype ι] (s : TwoFAState ι) : DecidablePred (Isolated s) :=
  fun action => by cases action <;> dsimp only [Isolated] <;> infer_instance

theorem TwoFAState.Bounded.fail (bounded : s.Bounded 0) (request : ι) (t)
    (code checks)
    : (s.fail request t code checks).Bounded 1 where
  counted := Nat.succ_le_succ bounded.counted
  full := fun full => Nat.succ_le_succ (bounded.full full)

section

variable (sound : s.Sound)

include sound

theorem TwoFAState.Sound.judge {t verdict} (code check)
    (checks) (others : ∀ other, other ≠ request → (s.requests other).Settled)
    (bounded : s.Bounded 0) (unlocked : verdict ≠ .locked → s.row.isLocked s.now = false)
    : (s.judge request t code check checks verdict).Sound := by
  have stillUnlocked (evaluated : verdict ≠ .locked)
      : (s.whileLocked || s.row.isLocked s.now) = false := by
    simp [sound.unlocked, unlocked evaluated]
  cases verdict with
  | locked =>
    have settled : (if check = .totp then Phase.next t code checks else .idle).Settled := by
      split
      · exact Phase.settled_next t code checks
      · trivial
    exact of_move others rfl sound.unlocked (fits_of_settled settled)
      fun _ => bounded.congr rfl rfl
  | error => exact of_move others rfl sound.unlocked trivial fun _ => bounded.congr rfl rfl
  | wrong =>
    have evaluated : Verdict.wrong ≠ .locked := by decide
    have counting : maxUpdateRetries > 0 := by decide
    refine of_move others rfl (stillUnlocked evaluated) ?_ False.elim
    exact ⟨(bounded.fail request t code checks).congr rfl rfl, unlocked evaluated, counting⟩
  | right =>
    have evaluated : Verdict.right ≠ .locked := by decide
    exact of_move others rfl (stillUnlocked evaluated)
      (Bounded.congr bounded rfl rfl) False.elim
  | found codeId =>
    have evaluated : Verdict.found codeId ≠ .locked := by simp
    exact of_move others rfl (stillUnlocked evaluated)
      ⟨bounded.congr rfl rfl, unlocked evaluated⟩ False.elim

theorem TwoFAState.Sound.load (idle : s.requests request = .idle) (settled : phase.Settled)
    : (s.put request phase).Sound := by
  have before (r : ι) (unsettled : ¬((s.put request phase).requests r).Settled)
      : (s.put request phase).requests r = s.requests r := by
    refine s.requests_put_of_ne phase fun same => unsettled ?_
    rwa [same, show (s.put request phase).requests request = phase from update_self ..]
  refine ⟨sound.unlocked, ?_, ?_, ?_⟩
  · intro r r' left right
    rw [before r left] at left
    rw [before r' right] at right
    exact sound.single r r' left right
  · intro r
    by_cases here : ((s.put request phase).requests r).Settled
    · exact fits_of_settled here
    · rw [before r here]
      exact (sound.fits r).later rfl rfl (Int.le_refl s.now)
  · intro all
    refine Bounded.congr (sound.quiet ?_) rfl rfl
    intro r
    by_cases same : r = request
    · rw [same, idle]
      trivial
    · rw [← s.requests_put_of_ne phase same]
      exact all r

variable {v : CodeChecks} {succeeds : Bool}

namespace TwoFAState.Sound

theorem evaluate (isolated : Isolated s (.evaluate request succeeds))
    (moved : s.next v (.evaluate request succeeds) = some s')
    : s'.Sound := by
  dsimp only [next] at moved
  split at moved
  case h_1 t code check checks found =>
    cases moved
    have bounded : s.Bounded 0 := by
      refine sound.quiet fun r => ?_
      by_cases same : r = request
      · rw [same, found]
        trivial
      · exact isolated.1 r same
    refine sound.judge code check checks isolated.1 bounded fun evaluated => ?_
    -- a locked row in memory would have given the verdict "locked"
    have unlocked : t.isLocked s.now = false := by
      rw [← Bool.not_eq_true]
      exact fun locked => evaluated (by cases check <;> exact if_pos locked)
    have fresh := isolated.2
    rw [found] at fresh
    unfold TwoFA.isLocked at unlocked ⊢
    rwa [← fresh]
  case h_2 => cases moved

theorem useCode (moved : s.next v (.useCode request succeeds) = some s') : s'.Sound := by
  dsimp only [next] at moved
  split at moved
  case h_1 t code codeId checks found =>
    have others := sound.others found id
    obtain ⟨bounded, unlocked⟩ := sound.fits_of found
    split at moved
    · split at moved <;> cases moved
      · exact of_move others rfl sound.unlocked (Bounded.congr bounded rfl rfl) False.elim
      · have counting : maxUpdateRetries > 0 := by decide
        exact of_move others rfl sound.unlocked
          ⟨(bounded.fail request t code checks).congr rfl rfl, unlocked, counting⟩ False.elim
    · cases moved
      exact of_move others rfl sound.unlocked trivial fun _ => bounded.congr rfl rfl
  case h_2 => cases moved

theorem readCount (moved : s.next v (.readCount request true) = some s') : s'.Sound := by
  dsimp only [next] at moved
  split at moved
  case h_1 t code rounds checks found =>
    have others := sound.others found id
    obtain ⟨bounded, unlocked, _⟩ := sound.fits_of found
    rw [if_pos rfl, unlocked, if_neg Bool.false_ne_true] at moved
    cases moved
    exact of_move others rfl sound.unlocked ⟨bounded.congr rfl rfl, rfl, unlocked⟩ False.elim
  case h_2 t code checks found =>
    exact absurd (sound.fits_of found).2.2 (Nat.lt_irrefl 0)
  case h_3 => cases moved

theorem swapCount (moved : s.next v (.swapCount request true) = some s') : s'.Sound := by
  dsimp only [next] at moved
  split at moved
  case h_1 t code current readAt rounds checks found =>
    have others := sound.others found id
    obtain ⟨bounded, unchanged, unlocked⟩ := sound.fits_of found
    obtain ⟨row, swapped, counted⟩ := swap_of_unchanged unlocked
    rw [if_pos rfl, unchanged, swapped] at moved
    cases moved
    exact of_move others rfl sound.unlocked
      (fits_of_settled (Phase.settled_next _ code checks))
      fun _ => bounded.count counted rfl rfl
  case h_2 => cases moved

theorem save (moved : s.next v (.save request succeeds) = some s') : s'.Sound := by
  dsimp only [next] at moved
  split at moved
  case h_1 t found =>
    have others := sound.others found id
    have bounded := sound.fits_of found
    split at moved <;> cases moved
    · exact of_move others rfl sound.unlocked trivial
        fun _ => ⟨Nat.zero_le _, fun _ => Nat.le_refl 0⟩
    · exact of_move others rfl sound.unlocked trivial fun _ => Bounded.congr bounded rfl rfl
  case h_2 => cases moved

theorem next {a} (isolated : Isolated s a) (moved : s.next v a = some s') : s'.Sound := by
  cases a with
  | load request code checks =>
    dsimp only [TwoFAState.next] at moved
    split at moved
    case h_1 idle =>
      cases moved
      exact sound.load idle (Phase.settled_next s.row code checks)
    case h_2 => cases moved
  | evaluate request succeeds => exact sound.evaluate isolated moved
  | useCode request succeeds => exact sound.useCode moved
  | readCount request succeeds =>
    cases isolated
    exact sound.readCount moved
  | swapCount request succeeds =>
    cases isolated
    exact sound.swapCount moved
  | save request succeeds => exact sound.save moved
  | tick seconds =>
    cases moved
    exact sound.tick seconds

end TwoFAState.Sound

end

theorem sound_of_reaches (reached : (twoFAMachine v).Reaches Isolated s) : s.Sound := by
  refine reached.invariant TwoFAState.Sound ?_ fun _ sound isolated moved =>
    sound.next isolated moved
  rintro s ⟨idle, none, unlocked⟩
  have settled (r : ι) : (s.requests r).Settled := by
    rw [idle r]
    trivial
  refine ⟨unlocked, fun r _ left => absurd (settled r) left,
    fun r => TwoFAState.fits_of_settled (settled r), fun _ => ⟨?_, fun _ => ?_⟩⟩
  · omega
  · omega

/-- Over every run of isolated verifications, at most `MaxFailAttempts` wrong codes are evaluated
before the account is locked, and none while it is locked.
-/
theorem wrong_le_maxFailAttempts_of_isolated (reached : (twoFAMachine v).Reaches Isolated s)
    : s.wrong ≤ maxFailAttempts ∧ s.whileLocked = false := by
  have sound := sound_of_reaches reached
  obtain ⟨pending, few, bounded⟩ := sound.bounded
  refine ⟨?_, sound.unlocked⟩
  have counted := bounded.counted
  have full := bounded.full
  unfold maxFailAttempts at full ⊢
  omega

end

def sampleChecks : CodeChecks where
  totp := fun _ code _ => code == "123456"
  wellFormed := fun _ => false
  matchesHash := fun _ _ => false

def sampleState (ι : Type) : TwoFAState ι where
  row := ⟨1, 7, "secret", true, 0, none, none⟩
  backupCodes := []
  now := 0
  requests := fun _ => .idle

def countedFailure {ι : Type} (request : ι) : List (TwoFAAction ι) :=
  [.load request "000000" [.totp], .evaluate request true, .readCount request true,
    .swapCount request true]

/-- Witness: after five wrong codes in turn the account is locked, and a sixth is not
evaluated.
-/
theorem sixth_code_not_evaluated
    : ((twoFAMachine sampleChecks).play (sampleState Unit)
          (List.replicate 4 (countedFailure ())).flatten).wrong = 4
      ∧ ((twoFAMachine sampleChecks).play (sampleState Unit)
          ((List.replicate 5 (countedFailure ())).flatten
            ++ [.load () "000000" [.totp], .evaluate () true])).whileLocked = false := by
  have plays : (twoFAMachine sampleChecks).Plays Isolated (sampleState Unit)
      ((List.replicate 5 (countedFailure ())).flatten
        ++ [.load () "000000" [.totp], .evaluate () true]) := by decide +kernel
  exact ⟨by decide +kernel, (wrong_le_maxFailAttempts_of_isolated
    (Machine.reaches_play ⟨fun _ => rfl, rfl, rfl⟩ plays)).2⟩

def sixAtOnce : List (TwoFAAction (Fin 7)) :=
  (List.finRange 7).map (fun request => .load request "000000" [.totp])
    ++ [0, 1, 2, 3, 4, 5].map fun request => .evaluate request true

def seventhWhileLocked : List (TwoFAAction (Fin 7)) :=
  [0, 1, 2, 3, 4].flatMap (fun request => [.readCount request true, .swapCount request true])
    ++ [.evaluate 6 true]

/-- Six wrong codes are evaluated before the account is locked, and one more while it is
locked.
-/
theorem concurrent_codes_evaluated
    : (twoFAMachine sampleChecks).Plays anyStep (sampleState (Fin 7))
        (sixAtOnce ++ seventhWhileLocked)
      ∧ ((twoFAMachine sampleChecks).play (sampleState (Fin 7)) sixAtOnce).wrong = 6
      ∧ ((twoFAMachine sampleChecks).play (sampleState (Fin 7))
          (sixAtOnce ++ seventhWhileLocked)).row.isLocked 0 = true
      ∧ ((twoFAMachine sampleChecks).play (sampleState (Fin 7))
          (sixAtOnce ++ seventhWhileLocked)).whileLocked = true := by
  decide +kernel

end HelsterApi.TwoFactor
