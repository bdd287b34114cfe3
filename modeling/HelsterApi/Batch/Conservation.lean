import HelsterApi.Batch.Updater
import Mathlib.Tactic.Abel
import Mathlib.Tactic.Linarith

/-! Conservation of recorded deltas: a counter, what is pending for it and what failed updates
dropped make up its initial value and everything recorded. A flush drops only the deltas of updates
that are refused or find no row.
-/

namespace HelsterApi.Batch

open HelsterApi.Batch.Action Database DeltaMap Phase State Transition UserCounters
open BatchUpdateType Update

theorem DeltaMap.value_empty (id) : value ∅ id = 0 := by
  simp [value]

theorem value_addNewRecord (store : DeltaMap) (id value other)
    : (addNewRecord store id value).value other
      = store.value other + if other = id then value else 0 := by
  unfold addNewRecord DeltaMap.value
  by_cases same : other = id
  · subst same
    cases found : store.lookup other <;> simp
  · cases found : store.lookup id <;> simp [AList.lookup_insert_ne same, same]

theorem Stores.value_visited (stores : Stores) (types : List BatchUpdateType) (id)
    (type : BatchUpdateType) (other)
    : (stores.visited types id type).value other
      = if type ∈ types ∧ other = id then 0 else (stores type).value other := by
  unfold visited value
  by_cases listed : type ∈ types
  · by_cases same : other = id
    · subst same
      simp [listed]
    · simp [listed, same, AList.lookup_erase_ne same]
  · simp [listed]

variable (db : Database)

def Database.counter (type : BatchUpdateType) (id : ℤ) : ℤ :=
  match type with
  | .userQuota => ((db.users id).map quota).getD 0
  | .tokenQuota => ((db.tokens id).map TokenCounters.remainQuota).getD 0
  | .usedQuota => ((db.users id).map usedQuota).getD 0
  | .channelUsedQuota => ((db.channels id).map ChannelCounters.usedQuota).getD 0
  | .requestCount => ((db.users id).map requestCount).getD 0

def Database.hasRow (type : BatchUpdateType) (id : ℤ) : Bool :=
  match type with
  | .userQuota | .usedQuota | .requestCount => (db.users id).isSome
  | .tokenQuota => (db.tokens id).isSome
  | .channelUsedQuota => (db.channels id).isSome

def Database.applies (type : BatchUpdateType) (id : ℤ) (reply : Reply) : Bool :=
  reply = .executed && db.hasRow type id

/-- The delta that a flush holds for a counter: taken from the stores, not written yet. -/
def Phase.held (type : BatchUpdateType) (id : ℤ) : Phase → ℤ
  | .idle => 0
  | .checking _ => 0
  | .swapping i taken => if type.index < i then (taken type).value id else 0
  | .writing taken => (taken type).value id

variable {ι : Type}

def State.pending [Fintype ι] (s : State ι) (type : BatchUpdateType) (id : ℤ) : ℤ :=
  (s.stores type).value id + ∑ flush, (s.flushes flush).held type id

def Action.recorded (type : BatchUpdateType) (id : ℤ) : Action ι → ℤ
  | .addNewRecord recordType recordId value =>
    if type = recordType ∧ id = recordId then value else 0
  | _ => 0

def Action.write? : Action ι → Option (ι × List BatchUpdateType × ℤ × Reply)
  | .writeToken flush id reply => some (flush, [.tokenQuota], id, reply)
  | .writeChannel flush id reply => some (flush, [.channelUsedQuota], id, reply)
  | .writeUser flush id reply => some (flush, userTypes, id, reply)
  | _ => none

/-- What an action drops of a counter: the delta held for it if its update is refused or finds no
row.
-/
def State.dropped (type : BatchUpdateType) (id : ℤ) (s : State ι) (a : Action ι) : ℤ :=
  match a.write? with
  | none => 0
  | some (flush, types, writeId, reply) =>
    if type ∈ types ∧ id = writeId ∧ ¬s.database.applies type id reply then
      (s.flushes flush).held type id
    else 0

def Database.added (types : List BatchUpdateType) (writeId : ℤ)
    (reply : Reply) (type : BatchUpdateType) (id delta : ℤ)
    : ℤ :=
  if type ∈ types ∧ id = writeId ∧ db.applies type id reply then delta else 0

theorem update_field {ρ : Type} (rows id) (set : ρ → ρ) (reply)
    (field : ρ → ℤ) (delta) (adds : ∀ row, field (set row) = field row + delta) (other)
    : (((update rows id set reply).rows other).map field).getD 0
      = ((rows other).map field).getD 0
        + if other = id ∧ reply = .executed ∧ (rows other).isSome then delta else 0 := by
  cases reply with
  | refused error => simp [update]
  | executed =>
    by_cases same : other = id
    · subst same
      cases found : rows other <;> simp [update, found, adds]
    · cases found : rows id <;> simp [update, found, same]

theorem increaseTokenQuota_counter (id quota reply)
    (type : BatchUpdateType) (other)
    : (increaseTokenQuota db id quota reply).1.counter type other
      = db.counter type other + db.added [.tokenQuota] id reply type other quota := by
  have grows := update_field db.tokens id
    (fun token => ⟨token.remainQuota + quota, token.usedQuota - quota⟩) reply
    TokenCounters.remainQuota quota (fun _ => rfl) other
  cases type <;> simp_all [increaseTokenQuota, counter, added,
    applies, hasRow]

theorem updateChannelUsedQuota_counter (id quota reply)
    (type : BatchUpdateType) (other)
    : (updateChannelUsedQuota db id quota reply).1.counter type other
      = db.counter type other + db.added [.channelUsedQuota] id reply type other quota := by
  have grows := update_field db.channels id (fun channel => ⟨channel.usedQuota + quota⟩)
    reply ChannelCounters.usedQuota quota (fun _ => rfl) other
  cases type <;> simp_all [updateChannelUsedQuota, counter, added,
    applies, hasRow]

def userDelta (quota usedQuota requestCount : ℤ) : BatchUpdateType → ℤ
  | .userQuota => quota
  | .usedQuota => usedQuota
  | .requestCount => requestCount
  | _ => 0

theorem updateUser_counter (id quota usedQuota requestCount)
    (reply) (type : BatchUpdateType) (other)
    : (updateUserQuotaUsedQuotaAndRequestCount db id quota usedQuota requestCount
        reply).1.counter type other
      = db.counter type other + db.added userTypes id reply type other
          (userDelta quota usedQuota requestCount type) := by
  unfold updateUserQuotaUsedQuotaAndRequestCount
  split
  next nothing =>
    obtain ⟨rfl, rfl, rfl⟩ := nothing
    cases type <;> simp [added, userDelta]
  · have grows (field : UserCounters → ℤ) (delta : ℤ) := update_field db.users id
      (fun user => ⟨user.quota + quota, user.usedQuota + usedQuota,
        user.requestCount + requestCount⟩) reply field delta
    have quotas := grows UserCounters.quota quota (fun _ => rfl) other
    have used := grows UserCounters.usedQuota usedQuota (fun _ => rfl) other
    have requests := grows UserCounters.requestCount requestCount (fun _ => rfl) other
    cases type <;> simp_all [counter, added, applies,
      hasRow, userTypes, userDelta]

variable {types : List BatchUpdateType} {writeId id delta : ℤ} {reply : Reply}
  {type : BatchUpdateType}

theorem Database.added_congr {db : Database} {delta'}
    (same : type ∈ types → id = writeId → delta = delta')
    : db.added types writeId reply type id delta
      = db.added types writeId reply type id delta' := by
  unfold added
  split
  next written => exact same written.1 written.2.1
  · rfl

def State.Applies (s : State ι) (a : Action ι) : Prop :=
  ∀ write ∈ a.write?, ∀ type ∈ write.2.1, s.database.applies type write.2.2.1 write.2.2.2

variable {s s' : State ι} {a : Action ι}

theorem Update.lines_of_not_applied {ρ : Type} {rows} (set : ρ → ρ)
    (missed : ¬(reply = .executed ∧ (rows id).isSome)) (failed noRows)
    : ∃ line, (update rows id set reply).lines failed noRows = [line] := by
  cases reply with
  | refused error => exact ⟨failed error, rfl⟩
  | executed =>
    cases found : rows id with
    | none => exact ⟨noRows, by simp [update, found, lines]⟩
    | some row => simp [found] at missed

theorem tokenLines_eq_lines (id quota reply)
    : tokenLines (increaseTokenQuota db id quota reply).2
      = (update db.tokens id
          (fun token => ⟨token.remainQuota + quota, token.usedQuota - quota⟩) reply).lines
          ("failed to batch update token quota: " ++ ·)
          ("failed to batch update token quota: " ++ "令牌不存在") := by
  dsimp only [increaseTokenQuota, lines]
  split
  · rfl
  · split <;> rfl

section

variable [Fintype ι] [DecidableEq ι]

namespace State

def balance (type : BatchUpdateType) (id : ℤ) (s : State ι) : ℤ :=
  s.database.counter type id + s.pending type id

theorem pending_setPhase (s : State ι) (flush : ι) (phase : Phase) (type : BatchUpdateType) (id)
    : (s.setPhase flush phase).pending type id + (s.flushes flush).held type id
      = s.pending type id + phase.held type id := by
  have shares := sum_update_share (held type id) s.flushes flush phase
  simp only [pending, setPhase]
  rw [add_assoc, shares, add_assoc]

variable {flush : ι}

theorem balance_setPhase {phase} (type : BatchUpdateType) (id)
    (same : phase.held type id = (s.flushes flush).held type id)
    : (s.setPhase flush phase).balance type id = s.balance type id := by
  have moved := s.pending_setPhase flush phase type id
  rw [same] at moved
  simp only [balance, add_right_cancel moved]
  rfl

omit [DecidableEq ι] in
theorem balance_addNewRecord (s : State ι) (recordType : BatchUpdateType)
    (recordId value : ℤ) (type : BatchUpdateType) (id)
    : balance type id { s with
        stores := Function.update s.stores recordType
          (addNewRecord (s.stores recordType) recordId value) }
      = s.balance type id + if type = recordType ∧ id = recordId then value else 0 := by
  simp only [balance, pending]
  by_cases same : type = recordType
  · subst same
    rw [Function.update_self, value_addNewRecord]
    simp only [true_and]
    abel
  · simp [same]

variable {i : ℕ}

theorem balance_checkData (checking : s.flushes flush = .checking i) (type : BatchUpdateType)
    (id)
    : (s.checkData flush i).balance type id = s.balance type id := by
  unfold checkData
  split
  · exact balance_setPhase type id (by rw [checking]; rfl)
  · split
    · refine (balance_setPhase type id ?_).trans rfl
      simp [checking, held]
    · exact balance_setPhase type id (by rw [checking]; rfl)

variable {taken : Stores}

theorem balance_swapStore (swapping : s.flushes flush = .swapping i taken)
    (type : BatchUpdateType) (id)
    : (s.swapStore flush i taken).balance type id = s.balance type id := by
  unfold swapStore
  split
  next past =>
    refine balance_setPhase type id ?_
    have bound := List.getElem?_eq_none_iff.mp past
    have index : type.index < all.length := by cases type <;> decide
    replace bound := index.trans_le bound
    simp [swapping, Phase.held, bound]
  next swapped found =>
    have atIndex := all_getElem? found
    have moved := pending_setPhase
      { s with stores := Function.update s.stores swapped ∅ } flush
      (.swapping (i + 1) (Function.update taken swapped (s.stores swapped))) type id
    have handed : (Phase.swapping (i + 1)
          (Function.update taken swapped (s.stores swapped))).held type id
        = (s.flushes flush).held type id
          + ((s.stores type).value id
            - (Function.update s.stores swapped ∅ type).value id) := by
      rw [swapping]
      by_cases same : type = swapped
      · subst same
        simp [Phase.held, atIndex, DeltaMap.value_empty]
      · have different : type.index ≠ i := by
          intro equal
          exact same (index_inj (equal.trans atIndex.symm))
        have below : type.index < i + 1 ↔ type.index < i := by omega
        simp [Phase.held, same, below]
    simp only [balance, pending, setPhase] at moved ⊢
    linarith

end State

theorem State.balance_wrote (reply) {result}
    (writing : s.flushes flush = .writing taken) (type : BatchUpdateType) (id)
    (adds : result.1.counter type id = s.database.counter type id
      + s.database.added types writeId reply type id delta)
    (held : type ∈ types → id = writeId → delta = (taken type).value id)
    : (s.wrote flush taken types writeId result).balance type id
      = s.balance type id
        - if type ∈ types ∧ id = writeId ∧ ¬s.database.applies type id reply then
            (s.flushes flush).held type id
          else 0 := by
  have moved := s.pending_setPhase flush (.writing (taken.visited types writeId)) type id
  rw [writing, Phase.held, Phase.held, Stores.value_visited] at moved
  rw [writing, Phase.held]
  rw [added_congr held] at adds
  unfold added at adds
  simp only [balance, pending, setPhase, wrote] at moved ⊢
  -- A counter that is not visited keeps everything; a visited one is applied or not.
  by_cases visited : type ∈ types ∧ id = writeId
  · obtain ⟨listed, rfl⟩ := visited
    cases applied : s.database.applies type id reply <;>
      simp [listed, applied] at adds moved ⊢ <;> linarith
  · have missed : ∀ p : Prop, ¬(type ∈ types ∧ id = writeId ∧ p) :=
      fun p found => visited ⟨found.1, found.2.1⟩
    simp only [missed, visited, if_false] at adds moved ⊢
    linarith

theorem tallies_balance (type : BatchUpdateType) (id)
    : (machine ι).Tallies anyStep (balance type id)
        (fun s a => a.recorded type id - s.dropped type id a) := by
  intro s a s' _ moved
  change s.next a = some s' at moved
  cases a with dsimp only [recorded, dropped, write?]
  | addNewRecord recordType recordId value =>
    cases moved
    simpa using s.balance_addNewRecord recordType recordId value type id
  | batchUpdate flush =>
    simp only [State.next] at moved
    split at moved <;> cases moved
    rename_i idle
    simpa using balance_setPhase type id (by rw [idle]; rfl)
  | check flush =>
    simp only [next] at moved
    split at moved <;> cases moved
    rename_i i checking
    simpa using balance_checkData checking type id
  | swap flush =>
    simp only [next] at moved
    split at moved <;> cases moved
    rename_i i taken swapping
    simpa using balance_swapStore swapping type id
  | writeToken flush writeId reply =>
    obtain ⟨taken, value, writing, found, rfl⟩ := next_writeToken moved
    rw [zero_sub]
    refine (balance_wrote reply writing type id
      (increaseTokenQuota_counter ..) fun listed same => ?_).trans (sub_eq_add_neg _ _)
    rw [List.mem_singleton.mp listed, same, DeltaMap.value, found, Option.getD_some]
  | writeChannel flush writeId reply =>
    obtain ⟨taken, value, writing, found, rfl⟩ := next_writeChannel moved
    rw [zero_sub]
    refine (balance_wrote reply writing type id
      (updateChannelUsedQuota_counter ..) fun listed same => ?_).trans (sub_eq_add_neg _ _)
    rw [List.mem_singleton.mp listed, same, DeltaMap.value, found, Option.getD_some]
  | writeUser flush writeId reply =>
    obtain ⟨taken, writing, rfl⟩ := next_writeUser moved
    rw [zero_sub]
    refine (balance_wrote reply writing type id
      (updateUser_counter ..) fun listed same => ?_).trans (sub_eq_add_neg _ _)
    subst same
    cases type <;> simp [userTypes] at listed <;> rfl
  | finish flush =>
    obtain ⟨taken, writing, finished, rfl⟩ := next_finish moved
    rw [sub_zero, add_zero]
    refine (balance_setPhase type id ?_).trans rfl
    have empty := finished type (by cases type <;> simp [all])
    simp [writing, held, value, AList.lookup, empty]

variable {actions : List (Action ι)}

theorem balance_play (plays : (machine ι).Plays anyStep s actions) (type : BatchUpdateType) (id)
    : ((machine ι).play s actions).balance type id
        + (machine ι).total (dropped type id) s actions
      = s.balance type id + (actions.map (recorded type id)).sum := by
  have tally := (tallies_balance type id).play plays
  rw [Machine.total_sub, Machine.total_eq_sum] at tally
  linarith

/-- In every run a counter, what is pending for it and what refused or rowless updates dropped make
up its initial value and all deltas recorded for it.
-/
theorem recorded_conserved (s : State ι) (actions : List (Action ι)) (start : (machine ι).initial s)
    (plays : (machine ι).Plays anyStep s actions) (type : BatchUpdateType) (id : ℤ)
    : ((machine ι).play s actions).database.counter type id
        + ((machine ι).play s actions).pending type id
        + (machine ι).total (dropped type id) s actions
      = s.database.counter type id + (actions.map (recorded type id)).sum := by
  have conserved := balance_play plays type id
  obtain ⟨fresh, idle⟩ := start
  simpa [balance, pending, fresh, idle, Stores.fresh, value_empty, held] using conserved

theorem balance_of_applies (plays : (machine ι).Plays Applies s actions)
    (type : BatchUpdateType) (id)
    : ((machine ι).play s actions).balance type id
      = s.balance type id + (actions.map (recorded type id)).sum := by
  have nothing := Machine.total_eq_zero
    (fun s a (applies : Applies s a) => show s.dropped type id a = 0 by
      unfold dropped
      split
      · rfl
      next flush types writeId reply write =>
        refine if_neg ?_
        rintro ⟨listed, rfl, refused⟩
        exact refused (applies _ write type listed)) plays
  have conserved := balance_play (plays.imp fun _ _ _ => trivial) type id
  rwa [nothing, add_zero] at conserved

omit [Fintype ι] in
theorem logged_of_dropped (moved : s.next a = some s') (dropped : s.dropped type id a ≠ 0)
    : ∃ line, s'.log = s.log ++ [line] := by
  unfold State.dropped at dropped
  split at dropped
  · exact absurd rfl dropped
  rename_i flush types writeId reply write
  obtain ⟨⟨listed, rfl, refused⟩, holds⟩ := ite_ne_right_iff.mp dropped
  simp only [applies, Bool.and_eq_true, decide_eq_true_eq] at refused
  cases a with
  | writeToken _ _ _ =>
    cases write
    obtain rfl := List.mem_singleton.mp listed
    obtain ⟨taken, value, writing, found, rfl⟩ := next_writeToken moved
    obtain ⟨line, lines⟩ := lines_of_not_applied _ refused _ _
    exact ⟨line, congrArg (s.log ++ ·) ((tokenLines_eq_lines _ _ _ _).trans lines)⟩
  | writeChannel _ _ _ =>
    cases write
    obtain rfl := List.mem_singleton.mp listed
    obtain ⟨taken, value, writing, found, rfl⟩ := next_writeChannel moved
    obtain ⟨line, lines⟩ := lines_of_not_applied _ refused _ _
    exact ⟨line, congrArg (s.log ++ ·) lines⟩
  | writeUser _ _ _ =>
    cases write
    obtain ⟨taken, writing, rfl⟩ := next_writeUser moved
    rw [writing, held] at holds
    have rowless : ¬(reply = .executed ∧ (s.database.users id).isSome) := by
      cases type <;> simp [userTypes] at listed <;> exact refused
    have nonzero : ¬((taken .userQuota).value id = 0 ∧ (taken .usedQuota).value id = 0
        ∧ (taken .requestCount).value id = 0) := by
      cases type <;> simp [userTypes] at listed <;> simp [holds]
    obtain ⟨line, lines⟩ := lines_of_not_applied _ rowless _ _
    refine ⟨line, congrArg (s.log ++ ·) ?_⟩
    rwa [updateUserQuotaUsedQuotaAndRequestCount, if_neg nonzero]
  | addNewRecord | batchUpdate | check | swap | finish => cases write

end

def oneUser : State Unit where
  database := ⟨fun id => if id = 7 then some ⟨1000, 0, 0⟩ else none, fun _ => none,
    fun _ => none⟩
  stores := Stores.fresh
  flushes := fun _ => .idle
  log := []

def refusedFlush : List (Action Unit) :=
  [.addNewRecord .userQuota 7 (-500), .batchUpdate (), .check (), .swap (), .swap (),
    .swap (), .swap (), .swap (), .swap (), .writeUser () 7 (.refused "connection refused"),
    .finish ()]

/-- The refused update dropped the delta: with it the books agree. -/
theorem refusedFlush_conserved
    : (machine Unit).Plays anyStep oneUser refusedFlush
      ∧ ((machine Unit).play oneUser refusedFlush).database.counter .userQuota 7
          + ((machine Unit).play oneUser refusedFlush).pending .userQuota 7
          + (machine Unit).total (dropped .userQuota 7) oneUser refusedFlush
        = oneUser.database.counter .userQuota 7
          + (refusedFlush.map (recorded .userQuota 7)).sum :=
  have plays : (machine Unit).Plays anyStep oneUser refusedFlush := by decide
  ⟨plays, recorded_conserved oneUser refusedFlush ⟨rfl, fun _ => rfl⟩ plays .userQuota 7⟩

/-- Without it they do not: the user keeps a quota of 1000 although 500 were recorded as consumed
and nothing is pending.
-/
theorem refusedFlush_loses_delta
    : (machine Unit).initial oneUser
      ∧ (machine Unit).Plays anyStep oneUser refusedFlush
      ∧ ((machine Unit).play oneUser refusedFlush).database.counter .userQuota 7
          + ((machine Unit).play oneUser refusedFlush).pending .userQuota 7
        ≠ oneUser.database.counter .userQuota 7
          + (refusedFlush.map (recorded .userQuota 7)).sum :=
  ⟨⟨rfl, fun _ => rfl⟩, by decide, by decide⟩

theorem refusedFlush_logged
    : ∃ line, ((machine Unit).play oneUser (refusedFlush.take 10)).log
      = ((machine Unit).play oneUser (refusedFlush.take 9)).log ++ [line] :=
  logged_of_dropped
    (show State.next _ (.writeUser () 7 (.refused "connection refused")) = _ from rfl)
    (show State.dropped .userQuota 7 _ _ ≠ 0 by decide)

end HelsterApi.Batch
