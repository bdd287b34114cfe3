import HelsterApi.Transition.Machine
import Mathlib.Data.List.AList

/-! The batch updater: recorded deltas wait in one store per type until a flush takes the stores,
type by type, and writes what it took to the database. Records and other flushes interleave with its
steps.
-/

namespace HelsterApi.Batch

open Transition

inductive BatchUpdateType where
  | userQuota | tokenQuota | usedQuota | channelUsedQuota | requestCount
  deriving DecidableEq

namespace BatchUpdateType

def all : List BatchUpdateType := [userQuota, tokenQuota, usedQuota, channelUsedQuota, requestCount]

def index : BatchUpdateType → ℕ
  | userQuota => 0
  | tokenQuota => 1
  | usedQuota => 2
  | channelUsedQuota => 3
  | requestCount => 4

/-- The types are listed in the order of their indices. -/
theorem all_getElem? {i} {type : BatchUpdateType} (found : all[i]? = some type)
    : type.index = i := by
  rcases i with _ | _ | _ | _ | _ | i <;> simp [all] at found <;> subst found <;> rfl

/-- Types differ in their indices. -/
theorem index_inj {a b : BatchUpdateType} (same : a.index = b.index) : a = b := by
  cases a <;> cases b <;> first | rfl | cases same

end BatchUpdateType

abbrev DeltaMap : Type := AList fun _ : ℤ => ℤ

def DeltaMap.value (store : DeltaMap) (id : ℤ) : ℤ := (store.lookup id).getD 0

abbrev Stores : Type := BatchUpdateType → DeltaMap

def Stores.fresh : Stores :=
  fun _ => ∅

def addNewRecord (store : DeltaMap) (id value : ℤ) : DeltaMap :=
  match store.lookup id with
  | none => store.insert id value
  | some old => store.insert id (old + value)

def Stores.visited (stores : Stores) (types : List BatchUpdateType) (id : ℤ) : Stores :=
  fun type => if type ∈ types then (stores type).erase id else stores type

structure UserCounters where
  (quota usedQuota requestCount : ℤ)

structure TokenCounters where
  (remainQuota usedQuota : ℤ)

structure ChannelCounters where
  usedQuota : ℤ

structure Database where
  users : ℤ → Option UserCounters
  tokens : ℤ → Option TokenCounters
  channels : ℤ → Option ChannelCounters

inductive Reply where
  | executed
  | refused (error : String)
  deriving DecidableEq

structure Update (ρ : Type) where
  rows : ℤ → Option ρ
  error : Option String
  rowsAffected : ℕ

def update {ρ : Type} (rows : ℤ → Option ρ) (id : ℤ) (set : ρ → ρ) : Reply → Update ρ
  | .refused error => ⟨rows, some error, 0⟩
  | .executed =>
    match rows id with
    | none => ⟨rows, none, 0⟩
    | some row => ⟨Function.update rows id (some (set row)), none, 1⟩

def Update.lines {ρ : Type} (update : Update ρ) (failed : String → String) (noRows : String)
    : List String :=
  match update.error with
  | some error => [failed error]
  | none => if update.rowsAffected = 0 then [noRows] else []

def increaseTokenQuota (db : Database) (id quota : ℤ) (reply : Reply)
    : Database × Except String Unit :=
  let update := update db.tokens id
    (fun token => ⟨token.remainQuota + quota, token.usedQuota - quota⟩) reply
  ( { db with tokens := update.rows },
    match update.error with
    | some error => .error error
    | none => if update.rowsAffected = 0 then .error "令牌不存在" else .ok () )

def updateChannelUsedQuota (db : Database) (id quota : ℤ) (reply : Reply)
    : Database × List String :=
  let update := update db.channels id (fun channel => ⟨channel.usedQuota + quota⟩) reply
  ( { db with channels := update.rows },
    update.lines
      (fun error => "failed to update channel used quota: channel_id=" ++ toString id
        ++ ", delta_quota=" ++ toString quota ++ ", error=" ++ error)
      ("channel used quota update affected no rows: channel_id=" ++ toString id
        ++ ", delta_quota=" ++ toString quota) )

def updateUserQuotaUsedQuotaAndRequestCount (db : Database)
    (id quota usedQuota requestCount : ℤ) (reply : Reply)
    : Database × List String :=
  if quota = 0 ∧ usedQuota = 0 ∧ requestCount = 0 then (db, [])
  else
    let update := update db.users id (fun user =>
      ⟨user.quota + quota, user.usedQuota + usedQuota, user.requestCount + requestCount⟩)
      reply
    ( { db with users := update.rows },
      update.lines
        (fun error =>
          "failed to batch update user quota, used quota and request count: " ++ error)
        ("batch user quota settlement affected no rows: user_id=" ++ toString id) )

/-- Where a flush is: looking for a type with entries, taking the stores up to an index, or
writing what it took and has not written yet.
-/
inductive Phase where
  | idle
  | checking (i : ℕ)
  | swapping (i : ℕ) (stores : Stores)
  | writing (stores : Stores)

/-- The database, the pending stores, the flushes and the lines of the system log. -/
structure State (ι : Type) where
  database : Database
  stores : Stores
  flushes : ι → Phase
  log : List String

/-- The steps of recorders and flushes. Each takes a lock or runs a statement at most once; the id
of a write is the entry that the iteration visits next.
-/
inductive Action (ι : Type) where
  | addNewRecord (type : BatchUpdateType) (id value : ℤ)
  | batchUpdate (flush : ι)
  | check (flush : ι)
  | swap (flush : ι)
  | writeToken (flush : ι) (id : ℤ) (reply : Reply)
  | writeChannel (flush : ι) (id : ℤ) (reply : Reply)
  | writeUser (flush : ι) (id : ℤ) (reply : Reply)
  | finish (flush : ι)

def userTypes : List BatchUpdateType := [.userQuota, .usedQuota, .requestCount]

def Stores.written (stores : Stores) (types : List BatchUpdateType) : Prop :=
  ∀ type ∈ types, (stores type).entries = []
  deriving Decidable

section

variable {ι : Type} [DecidableEq ι]

def State.setPhase (s : State ι) (flush : ι) (phase : Phase) : State ι :=
  { s with flushes := Function.update s.flushes flush phase }

def State.wrote (s : State ι) (flush : ι) (taken : Stores) (types : List BatchUpdateType)
    (id : ℤ) (result : Database × List String)
    : State ι :=
  { s with
    database := result.1
    flushes := Function.update s.flushes flush (.writing (taken.visited types id))
    log := s.log ++ result.2 }

def tokenLines : Except String Unit → List String
  | .ok () => []
  | .error error => ["failed to batch update token quota: " ++ error]

def State.checkData (s : State ι) (flush : ι) (i : ℕ) : State ι :=
  match BatchUpdateType.all[i]? with
  | none => s.setPhase flush .idle
  | some type =>
    if (s.stores type).entries.length > 0 then
      { s with log := s.log ++ ["batch update started"] }.setPhase flush
        (.swapping 0 .fresh)
    else s.setPhase flush (.checking (i + 1))

def State.swapStore (s : State ι) (flush : ι) (i : ℕ) (taken : Stores) : State ι :=
  match BatchUpdateType.all[i]? with
  | none => s.setPhase flush (.writing taken)
  | some type =>
    { s with stores := Function.update s.stores type ∅ }.setPhase flush
      (.swapping (i + 1) (Function.update taken type (s.stores type)))

def State.next (s : State ι) : Action ι → Option (State ι)
  | .addNewRecord type id value =>
    some { s with
      stores := Function.update s.stores type
        (Batch.addNewRecord (s.stores type) id value) }
  | .batchUpdate flush =>
    match s.flushes flush with
    | .idle => some (s.setPhase flush (.checking 0))
    | _ => none
  | .check flush =>
    match s.flushes flush with
    | .checking i => some (s.checkData flush i)
    | _ => none
  | .swap flush =>
    match s.flushes flush with
    | .swapping i taken => some (s.swapStore flush i taken)
    | _ => none
  | .writeToken flush id reply =>
    match s.flushes flush with
    | .writing taken =>
      match (taken .tokenQuota).lookup id with
      | none => none
      | some value =>
        let (database, result) := increaseTokenQuota s.database id value reply
        some (s.wrote flush taken [.tokenQuota] id (database, tokenLines result))
    | _ => none
  | .writeChannel flush id reply =>
    match s.flushes flush with
    | .writing taken =>
      match (taken .channelUsedQuota).lookup id with
      | none => none
      | some value =>
        if taken.written [.tokenQuota] then
          some (s.wrote flush taken [.channelUsedQuota] id
            (updateChannelUsedQuota s.database id value reply))
        else none
    | _ => none
  | .writeUser flush id reply =>
    match s.flushes flush with
    | .writing taken =>
      if taken.written [.tokenQuota, .channelUsedQuota]
          ∧ ∃ type ∈ userTypes, id ∈ (taken type).keys then
        some (s.wrote flush taken userTypes id
          (updateUserQuotaUsedQuotaAndRequestCount s.database id
            ((taken .userQuota).value id) ((taken .usedQuota).value id)
            ((taken .requestCount).value id) reply))
      else none
    | _ => none
  | .finish flush =>
    match s.flushes flush with
    | .writing taken =>
      if taken.written BatchUpdateType.all then
        some ({ s with log := s.log ++ ["batch update finished"] }.setPhase flush .idle)
      else none
    | _ => none

def machine (ι : Type) [DecidableEq ι] : Machine (State ι) (Action ι) where
  initial s := s.stores = Stores.fresh ∧ ∀ flush, s.flushes flush = .idle
  next := State.next

variable {s s' : State ι} {flush : ι} {id : ℤ} {reply : Reply}

/-- A write of a token takes its value from the flush. -/
theorem State.next_writeToken (moved : s.next (.writeToken flush id reply) = some s')
    : ∃ taken value, s.flushes flush = .writing taken
        ∧ (taken .tokenQuota).lookup id = some value
        ∧ s' = s.wrote flush taken [.tokenQuota] id
            ((increaseTokenQuota s.database id value reply).1,
              tokenLines (increaseTokenQuota s.database id value reply).2) := by
  simp only [next] at moved
  split at moved <;> try cases moved
  rename_i taken writing
  split at moved <;> cases moved
  rename_i value found
  exact ⟨taken, value, writing, found, rfl⟩

/-- A write of a channel takes its value from the flush. -/
theorem State.next_writeChannel (moved : s.next (.writeChannel flush id reply) = some s')
    : ∃ taken value, s.flushes flush = .writing taken
        ∧ (taken .channelUsedQuota).lookup id = some value
        ∧ s' = s.wrote flush taken [.channelUsedQuota] id
            (updateChannelUsedQuota s.database id value reply) := by
  simp only [next] at moved
  split at moved <;> try cases moved
  rename_i taken writing
  split at moved <;> try cases moved
  rename_i value found
  split at moved <;> cases moved
  exact ⟨taken, value, writing, found, rfl⟩

/-- A write of a user takes the values of three types at once. -/
theorem State.next_writeUser (moved : s.next (.writeUser flush id reply) = some s')
    : ∃ taken, s.flushes flush = .writing taken
        ∧ s' = s.wrote flush taken userTypes id
            (updateUserQuotaUsedQuotaAndRequestCount s.database id
              ((taken .userQuota).value id) ((taken .usedQuota).value id)
              ((taken .requestCount).value id) reply) := by
  simp only [next] at moved
  split at moved <;> try cases moved
  rename_i taken writing
  split at moved <;> cases moved
  exact ⟨taken, writing, rfl⟩

/-- A flush ends when all it took is written. -/
theorem State.next_finish (moved : s.next (.finish flush) = some s')
    : ∃ taken, s.flushes flush = .writing taken ∧ taken.written BatchUpdateType.all
        ∧ s' = { s with log := s.log ++ ["batch update finished"] }.setPhase flush .idle := by
  simp only [next] at moved
  split at moved <;> try cases moved
  rename_i taken writing
  split at moved <;> cases moved
  rename_i finished
  exact ⟨taken, writing, finished, rfl⟩

end

end HelsterApi.Batch
