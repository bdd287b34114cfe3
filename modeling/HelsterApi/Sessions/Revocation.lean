import HelsterApi.Relational.Table
import HelsterApi.Text.Folding
import HelsterApi.Transition.Machine

/-! Browser sessions of users, statement by statement, and whether a revoked one stays revoked. Only
the `Save` of a touch undoes a revocation: it writes the whole row back as it read it before.
-/

namespace HelsterApi.Sessions

open Relational Text Transition

section

structure UserSession where
  id : ℕ
  userID : ℤ
  (sessionIDHash deviceName userAgent ip : String)
  (createdAt lastSeenAt expiresAt : ℤ)
  revokedAt : Option ℤ

abbrev SessionTable : Type := TwoKeyed UserSession.id UserSession.sessionIDHash

def UserSession.ended (now : ℤ) (session : UserSession) : Bool :=
  session.revokedAt.isSome || (decide (0 < session.expiresAt) && decide (session.expiresAt ≤ now))

def findSession (t : SessionTable) (hash : String) : Option UserSession :=
  t.rows.find? fun session => decide (session.sessionIDHash = hash)

def isSessionRevoked (hashSessionCookie : String → String) (t : SessionTable) (cookie : String)
    (now : ℤ)
    : Bool :=
  if trimSpace cookie = [] then false
  else
    match findSession t (hashSessionCookie cookie) with
    | none => false
    | some session => session.ended now

def revokeWhere (selects : UserSession → Bool) (now : ℤ) (t : SessionTable) : SessionTable :=
  t.update (fun row => selects row && row.revokedAt.isNone)
    (fun row => { row with revokedAt := some now })
    (TwoKeyed.separates_of_keys fun _ _ => ⟨rfl, rfl⟩)

def revokeUserSession (userID : ℤ) (id : ℕ) (now : ℤ) : SessionTable → SessionTable :=
  revokeWhere (fun row => decide (row.id = id ∧ row.userID = userID)) now

def revokeOtherUserSessions (userID : ℤ) (currentHash : String) (now : ℤ)
    : SessionTable → SessionTable :=
  revokeWhere (fun row => decide (row.userID = userID ∧ row.sessionIDHash ≠ currentHash)) now

/-- `DB.Save` of a session, which writes every column of the row with its id. -/
def saveSession (session : UserSession) (t : SessionTable) : Option SessionTable :=
  t.tryUpdate (fun row => decide (row.id = session.id)) fun _ => session

/-- What an authenticated request touches a session with; the texts are as the row stores
them.
-/
structure Touch where
  userID : ℤ
  (cookie deviceName userAgent ip : String)

/-- Where a request is: between requests, before `IsSessionRevoked`, before the lookup of
`RegisterUserSession`, or before its write.
-/
inductive Phase where
  | idle
  | arrived (touch : Touch)
  | checked (touch : Touch)
  | saving (session : UserSession)
  | creating (session : UserSession)

def Touch.refresh (touch : Touch) (now : ℤ) (session : UserSession) : UserSession :=
  { session with lastSeenAt := now, userAgent := touch.userAgent, ip := touch.ip }

def Touch.session (hash : String) (touch : Touch) (now : ℤ) : UserSession where
  id := 0
  userID := touch.userID
  sessionIDHash := hash
  deviceName := touch.deviceName
  userAgent := touch.userAgent
  ip := touch.ip
  createdAt := now
  lastSeenAt := now
  expiresAt := now + 30 * 24 * 60 * 60
  revokedAt := none

structure SessionState (ι : Type*) where
  sessions : SessionTable
  requests : ι → Phase

/-- Single statements. `readable` and `succeeds` say how a read or a write comes out. -/
inductive SessionAction (ι : Type*) where
  | arrive (request : ι) (touch : Touch)
  | check (request : ι) (now : ℤ) (readable : Bool)
  | lookup (request : ι) (now : ℤ) (readable : Bool)
  | write (request : ι) (id : ℕ) (succeeds : Bool)
  | revoke (userID : ℤ) (id : ℕ) (now : ℤ)
  | revokeOthers (userID : ℤ) (currentCookie : String) (now : ℤ)

section

variable {ι : Type*} [DecidableEq ι] (hashSessionCookie : String → String)

def SessionState.put (s : SessionState ι) (request : ι) (phase : Phase) : SessionState ι :=
  { s with requests := Function.update s.requests request phase }

def Touch.lookup (touch : Touch) (t : SessionTable) (now : ℤ) (readable : Bool) : Phase :=
  if touch.userID ≤ 0 ∨ trimSpace touch.cookie = [] ∨ readable = false then .idle
  else
    match findSession t (hashSessionCookie touch.cookie) with
    | none => .creating (touch.session (hashSessionCookie touch.cookie) now)
    | some session => if session.ended now then .idle else .saving (touch.refresh now session)

/-- One statement. A check that cannot be read is only logged. -/
def SessionState.next (s : SessionState ι) : SessionAction ι → Option (SessionState ι)
  | .arrive request touch =>
    match s.requests request with
    | .idle => some (s.put request (.arrived touch))
    | _ => none
  | .check request now readable =>
    match s.requests request with
    | .arrived touch =>
      some (s.put request (if readable && isSessionRevoked hashSessionCookie s.sessions
          touch.cookie now then .idle else .checked touch))
    | _ => none
  | .lookup request now readable =>
    match s.requests request with
    | .checked touch =>
      some (s.put request (touch.lookup hashSessionCookie s.sessions now readable))
    | _ => none
  | .write request id succeeds =>
    match s.requests request with
    | .saving session =>
      some { s.put request .idle with
        sessions := if succeeds then (saveSession session s.sessions).getD s.sessions
          else s.sessions }
    | .creating session =>
      some { s.put request .idle with
        sessions := if succeeds then (s.sessions.insert { session with id := id }).getD s.sessions
          else s.sessions }
    | _ => none
  | .revoke userID id now => some { s with sessions := revokeUserSession userID id now s.sessions }
  | .revokeOthers userID currentCookie now =>
    some { s with
      sessions := revokeOtherUserSessions userID (hashSessionCookie currentCookie) now s.sessions }

def sessionMachine : Machine (SessionState ι) (SessionAction ι) where
  initial s := ∀ request, s.requests request = .idle
  next := SessionState.next hashSessionCookie

end

end

open List Option SessionState Table UserSession Function

variable {ι : Type*} {hashSessionCookie : String → String}
  {t t' : SessionTable} {s s' : SessionState ι} {action : SessionAction ι}

variable {row : UserSession}

theorem findSession_eq_some {hash}
    : findSession t hash = some row ↔ row ∈ t.rows ∧ row.sessionIDHash = hash := by
  rw [findSession, find?_eq_some, decide_eq_true_iff]
  intro a b left right
  exact .inr ((of_decide_eq_true left).trans (of_decide_eq_true right).symm)

def HoldsRevoked (t : SessionTable) (hash : String) : Prop :=
  ∃ row ∈ t.rows, row.sessionIDHash = hash ∧ row.revokedAt ≠ none

/-- A session is reported revoked at all times exactly if its row carries a revocation. -/
theorem isSessionRevoked_always_iff {cookie} (named : trimSpace cookie ≠ [])
    : (∀ now, isSessionRevoked hashSessionCookie t cookie now = true)
      ↔ HoldsRevoked t (hashSessionCookie cookie) := by
  simp only [isSessionRevoked, if_neg named]
  constructor
  · intro reported
    cases found : findSession t (hashSessionCookie cookie) with
    | none =>
      have := reported 0
      simp [found] at this
    | some row =>
      obtain ⟨member, same⟩ := findSession_eq_some.mp found
      have early := reported (row.expiresAt - 1)
      rw [found] at early
      refine ⟨row, member, same, fun unrevoked => ?_⟩
      have unexpired : ¬row.expiresAt ≤ row.expiresAt - 1 := by omega
      simp only [ended, unrevoked, isSome_none, Bool.false_or,
        decide_eq_false unexpired, Bool.and_false, Bool.false_eq_true] at early
  · rintro ⟨row, member, same, revoked⟩ now
    rw [findSession_eq_some.mpr ⟨member, same⟩]
    simp only [ended, isSome_iff_ne_none.mpr revoked, Bool.true_or]

/-- What a statement does to the table: nothing, the `Save` of a touch, an insert, or a revocation.
-/
inductive Writes (s : SessionState ι) (s' : SessionState ι) : SessionAction ι → Prop where
  | none {action : SessionAction ι} (same : s'.sessions = s.sessions)
    : Writes s s' action
  | save {request : ι} {id : ℕ} {session : UserSession}
      (held : s.requests request = .saving session)
      (saved : saveSession session s.sessions = some s'.sessions)
    : Writes s s' (.write request id true)
  | insert {request : ι} {id : ℕ} {session : UserSession}
      (held : s.requests request = .creating session)
      (inserted : s.sessions.insert { session with id := id } = some s'.sessions)
    : Writes s s' (.write request id true)
  | revoke {action : SessionAction ι} {selects : UserSession → Bool} {now : ℤ}
      (other : ∀ request id succeeds, action ≠ .write request id succeeds)
      (revoked : s'.sessions = revokeWhere selects now s.sessions)
    : Writes s s' action

/-- A touch about to save holds a session without a revocation, whose id and hash are those of a
row.
-/
def SessionState.Sound (s : SessionState ι) : Prop :=
  ∀ request session, s.requests request = .saving session
    → session.revokedAt = none
      ∧ ∃ row ∈ s.sessions.rows, row.id = session.id
        ∧ row.sessionIDHash = session.sessionIDHash

variable {request : ι} {session : UserSession}

theorem SessionState.Sound.hash_of_id (sound : s.Sound)
    (held : s.requests request = .saving session) (member : row ∈ s.sessions.rows)
    (same : row.id = session.id)
    : row.sessionIDHash = session.sessionIDHash := by
  obtain ⟨_, read, readMember, readId, readHash⟩ := sound request session held
  rwa [TwoKeyed.eq_of_first member readMember (same.trans readId.symm)]

theorem SessionState.Sound.written_names (sound : s.Sound)
    (held : s.requests request = .saving session) (member : row ∈ s.sessions.rows)
    : (written (fun row => decide (row.id = session.id)) (fun _ => session) row).id = row.id
      ∧ (written (fun row => decide (row.id = session.id)) (fun _ => session) row).sessionIDHash
        = row.sessionIDHash := by
  refine TwoKeyed.keys_written fun selected => ?_
  have same := of_decide_eq_true selected
  exact ⟨same.symm, (sound.hash_of_id held member same).symm⟩

theorem Writes.keeps (sound : s.Sound) (writes : Writes s s' action)
    (member : row ∈ s.sessions.rows)
    : ∃ row' ∈ s'.sessions.rows, row'.id = row.id
      ∧ row'.sessionIDHash = row.sessionIDHash := by
  cases writes with
  | none same => exact ⟨row, same ▸ member, rfl, rfl⟩
  | save held saved =>
    rw [tryUpdate_eq_some saved]
    exact ⟨_, mem_map_of_mem member, sound.written_names held member⟩
  | insert held inserted =>
    rw [insert_eq_some inserted]
    exact ⟨row, mem_append_left _ member, rfl, rfl⟩
  | revoke other revoked =>
    rw [revoked]
    refine ⟨_, mem_update.mpr ⟨row, member, rfl⟩, ?_⟩
    unfold written
    split <;> exact ⟨rfl, rfl⟩

def Overwrites (hash : String) (s : SessionState ι) : SessionAction ι → Prop
  | .write request _ succeeds =>
    succeeds = true
    ∧ ∃ session, s.requests request = .saving session ∧ session.sessionIDHash = hash
  | _ => False

variable [DecidableEq ι]

namespace SessionState

theorem next_writes (moved : s.next hashSessionCookie action = some s') : Writes s s' action := by
  cases action with dsimp only [next] at moved
  | arrive | check | lookup =>
    split at moved <;> cases moved
    exact .none rfl
  | write request id succeeds =>
    split at moved
    next session held =>
      cases succeeds with
      | false =>
        cases moved
        exact .none rfl
      | true =>
        simp only [if_true] at moved
        cases saved : saveSession session s.sessions with rw [saved] at moved
        | none =>
          cases moved
          exact .none rfl
        | some t' =>
          cases moved
          exact .save held saved
    next session held =>
      cases succeeds with
      | false =>
        cases moved
        exact .none rfl
      | true =>
        simp only [if_true] at moved
        cases inserted : s.sessions.insert { session with id := id } with rw [inserted] at moved
        | none =>
          cases moved
          exact .none rfl
        | some t' =>
          cases moved
          exact .insert held inserted
    · cases moved
  | revoke | revokeOthers =>
    cases moved
    exact .revoke (fun _ _ _ other => by cases other) rfl

theorem put_eq {other phase phase'} (found : (s.put request phase).requests other = phase')
    : phase = phase' ∨ s.requests other = phase' := by
  change update s.requests request phase other = phase' at found
  by_cases same : other = request
  · rw [same, update_self] at found
    exact .inl found
  · rw [update_of_ne same] at found
    exact .inr found

theorem next_saving (moved : s.next hashSessionCookie action = some s')
    (held : s'.requests request = .saving session)
    : s.requests request = .saving session
      ∨ (s'.sessions = s.sessions ∧ ∃ row ∈ s.sessions.rows, row.revokedAt = none
        ∧ ∃ touch : Touch, ∃ now, session = touch.refresh now row) := by
  cases action with dsimp only [next] at moved
  | arrive other touch =>
    split at moved <;> cases moved
    exact (put_eq held).elim nofun .inl
  | check other now readable =>
    split at moved <;> cases moved
    rcases put_eq held with new | old
    · split at new <;> cases new
    · exact .inl old
  | lookup other now readable =>
    split at moved <;> cases moved
    rcases put_eq held with new | old
    · unfold Touch.lookup at new
      split at new
      · cases new
      split at new
      · cases new
      rename_i row found
      split at new
      · cases new
      rename_i open_
      cases new
      refine .inr ⟨rfl, row, (findSession_eq_some.mp found).1, ?_, _, now, rfl⟩
      by_contra revoked
      exact open_ (by
        rw [ended, isSome_iff_ne_none.mpr revoked, Bool.true_or])
    · exact .inl old
  | write other id succeeds =>
    split at moved <;> cases moved
    · exact (put_eq held).elim nofun .inl
    · exact (put_eq held).elim nofun .inl
  | revoke | revokeOthers =>
    cases moved
    exact .inl held

theorem Sound.next (sound : s.Sound) (moved : s.next hashSessionCookie action = some s')
    : s'.Sound := by
  intro request session held
  rcases next_saving moved held with
    old | ⟨same, row, member, unrevoked, touch, now, rfl⟩
  · obtain ⟨unrevoked, row, member, sameId, sameHash⟩ := sound request session old
    obtain ⟨row', member', keptId, keptHash⟩ := (next_writes moved).keeps sound member
    exact ⟨unrevoked, row', member', keptId.trans sameId, keptHash.trans sameHash⟩
  · exact ⟨unrevoked, row, same ▸ member, rfl, rfl⟩

theorem Sound.mem_saved (sound : s.Sound) {id} (held : s.requests request = .saving session)
    (moved : s.next hashSessionCookie (.write request id true) = some s')
    : session ∈ s'.sessions.rows := by
  obtain ⟨t', saved⟩ : ∃ t', saveSession session s.sessions = some t' := by
    refine tryUpdate_of_separates fun a left b right clashes => ?_
    obtain ⟨leftId, leftHash⟩ := sound.written_names held left
    obtain ⟨rightId, rightHash⟩ := sound.written_names held right
    unfold EitherKey at clashes
    rwa [leftId, leftHash, rightId, rightHash] at clashes
  obtain ⟨_, row, member, sameId, _⟩ := sound request session held
  simp only [SessionState.next, held, if_true, saved, getD_some] at moved
  cases moved
  rw [tryUpdate_eq_some saved]
  refine mem_map.mpr ⟨row, member, ?_⟩
  simp only [written, decide_eq_true sameId, if_true]

theorem Sound.holdsRevoked_iff (sound : s.Sound) (moved : s.next hashSessionCookie action = some s')
    {hash} (revoked : HoldsRevoked s.sessions hash)
    : HoldsRevoked s'.sessions hash ↔ ¬Overwrites hash s action := by
  obtain ⟨row, member, rowHash, rowRevoked⟩ := revoked
  constructor
  · rintro ⟨after, afterMember, afterHash, afterRevoked⟩ overwrites
    cases action with
    | write request id succeeds =>
      obtain ⟨rfl, session, held, sessionHash⟩ := overwrites
      -- the row with the hash is now the session as the touch read it
      have saved := sound.mem_saved held moved
      have same := Table.eq_of_clash afterMember saved (.inr (afterHash.trans sessionHash.symm))
      exact afterRevoked (same ▸ (sound request session held).1)
    | arrive | check | lookup | revoke | revokeOthers => exact overwrites
  · intro untouched
    refine ⟨row, ?_, rowHash, rowRevoked⟩
    cases next_writes moved with
    | none same => exact same ▸ member
    | @save request id session held saved =>
      rw [tryUpdate_eq_some saved]
      refine mem_map.mpr ⟨row, member, ?_⟩
      have apart : row.id ≠ session.id := fun same =>
        untouched ⟨rfl, session, held, (sound.hash_of_id held member same) ▸ rowHash⟩
      simp [written, decide_eq_false apart]
    | insert held inserted =>
      rw [insert_eq_some inserted]
      exact mem_append_left _ member
    | revoke other revoked =>
      rw [revoked]
      refine mem_update_of_not_selected member ?_
      rw [isNone_eq_false_iff.mpr (isSome_iff_ne_none.mpr rowRevoked), Bool.and_false]

end SessionState

theorem sound_of_reaches (reached : (sessionMachine hashSessionCookie).Reaches anyStep s)
    : s.Sound := by
  refine reached.invariant Sound ?_ ?_
  · intro s idle request session held
    simp [idle request] at held
  · exact fun _ sound _ moved => sound.next moved

/-- A statement revokes the session of a cookie, by its id or as one of the user's other sessions.
-/
inductive Revokes (hashSessionCookie : String → String) (cookie : String)
    (s : SessionState ι) : SessionAction ι → Prop where
  | one {row : UserSession} {now : ℤ} (member : row ∈ s.sessions.rows)
      (same : row.sessionIDHash = hashSessionCookie cookie)
    : Revokes hashSessionCookie cookie s (.revoke row.userID row.id now)
  | others {row : UserSession} {currentCookie : String} {now : ℤ}
      (member : row ∈ s.sessions.rows)
      (same : row.sessionIDHash = hashSessionCookie cookie)
      (other : row.sessionIDHash ≠ hashSessionCookie currentCookie)
    : Revokes hashSessionCookie cookie s (.revokeOthers row.userID currentCookie now)

theorem holdsRevoked_revokeWhere {selects now} (member : row ∈ t.rows)
    (selected : selects row = true)
    : HoldsRevoked (revokeWhere selects now t) row.sessionIDHash := by
  refine ⟨_, mem_update.mpr ⟨row, member, rfl⟩, ?_⟩
  unfold written
  split
  · exact ⟨rfl, some_ne_none now⟩
  next skipped =>
    refine ⟨rfl, fun unrevoked => skipped ?_⟩
    simp [selected, unrevoked]

/-- Once a revocation has committed, the session is reported revoked in every later state if no
touch that read it before saves it afterwards; and as long as it is reported revoked, only such a
save makes it valid again.
-/
theorem revocation_final_iff (reached : (sessionMachine hashSessionCookie).Reaches anyStep s)
    {cookie} (named : trimSpace cookie ≠ []) (revokes : Revokes hashSessionCookie cookie s action)
    (moved : s.next hashSessionCookie action = some s')
    : (∀ later, (sessionMachine hashSessionCookie).Leads
          (fun s action => ¬Overwrites (hashSessionCookie cookie) s action) s' later
        → ∀ now, isSessionRevoked hashSessionCookie later.sessions cookie now = true)
      ∧ ∀ later, (sessionMachine hashSessionCookie).Leads anyStep s' later
        → (∀ now, isSessionRevoked hashSessionCookie later.sessions cookie now = true)
        → ∀ next after, later.next hashSessionCookie next = some after
          → ((∀ now, isSessionRevoked hashSessionCookie after.sessions cookie now = true)
            ↔ ¬Overwrites (hashSessionCookie cookie) later next) := by
  simp only [isSessionRevoked_always_iff named]
  have sound := (sound_of_reaches reached).next moved
  have revoked : HoldsRevoked s'.sessions (hashSessionCookie cookie) := by
    cases revokes with
    | one member same =>
      cases moved
      rw [← same]
      exact holdsRevoked_revokeWhere member (decide_eq_true ⟨rfl, rfl⟩)
    | others member same other =>
      cases moved
      rw [← same]
      exact holdsRevoked_revokeWhere member (decide_eq_true ⟨rfl, other⟩)
  constructor
  · intro later led
    refine (led.preserves
      (fun s => s.Sound ∧ HoldsRevoked s.sessions (hashSessionCookie cookie))
      ⟨sound, revoked⟩ ?_).2
    intro s a s' inv untouched moved
    exact ⟨inv.1.next moved, (inv.1.holdsRevoked_iff moved inv.2).mpr untouched⟩
  · intro later led still next after step
    have laterSound := led.preserves Sound sound
      fun sound _ moved => sound.next moved
    exact laterSound.holdsRevoked_iff step still

def sampleState : SessionState Unit where
  sessions := ⟨[⟨1, 7, "cookie", "Browser", "Browser", "192.0.2.10", 0, 0, 1000, none⟩],
    pairwise_singleton _ _⟩
  requests := fun _ => .idle

def touchThenRevoke : List (SessionAction Unit) :=
  [.arrive () ⟨7, "cookie", "Browser", "Browser", "192.0.2.10"⟩, .check () 10 true,
    .lookup () 10 true, .revoke 7 1 11]

/-- Witness: the session is revoked while the touch is still to be saved. -/
theorem revoked_before_save
    : (sessionMachine id).Plays anyStep sampleState touchThenRevoke
      ∧ ∀ now, isSessionRevoked id
        ((sessionMachine id).play sampleState touchThenRevoke).sessions "cookie" now = true := by
  have plays : (sessionMachine id).Plays anyStep sampleState
      [.arrive () ⟨7, "cookie", "Browser", "Browser", "192.0.2.10"⟩, .check () 10 true,
        .lookup () 10 true] := by decide +kernel
  refine ⟨by decide +kernel, ?_⟩
  exact (revocation_final_iff (Machine.reaches_play (fun _ => rfl) plays)
    (by decide) (.one (mem_singleton_self _) rfl) rfl).1 _ .refl

/-- The save of that touch makes the revoked session valid again. -/
theorem touch_undoes_revocation
    : (sessionMachine id).Plays anyStep sampleState (touchThenRevoke ++ [.write () 0 true])
      ∧ isSessionRevoked id
        ((sessionMachine id).play sampleState touchThenRevoke).sessions "cookie" 12 = true
      ∧ isSessionRevoked id
        ((sessionMachine id).play sampleState
          (touchThenRevoke ++ [.write () 0 true])).sessions "cookie" 12 = false := by
  decide +kernel

end HelsterApi.Sessions
