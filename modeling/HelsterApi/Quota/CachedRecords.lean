import HelsterApi.Caching.Records
import HelsterApi.Transition.Machine

/-! The Redis hashes of users and tokens: fills that write every field, updates that look at the
time to live and then write one field, invalidations and expiry, interleaved in any way, and the
readers that take a missing field for its default.
-/

namespace HelsterApi.Quota

open Caching Option Key List
open Net (atoi)
open Transition

structure UserBase where
  id : ℤ
  (group email : String)
  (quota status : ℤ)
  (username setting : String)

structure CachedToken where
  (id userId : ℤ)
  key : String
  status : ℤ
  name : String
  (createdTime accessedTime expiredTime remainQuota : ℤ)
  (unlimitedQuota modelLimitsEnabled : Bool)
  modelLimits : String
  allowIps : Option String
  usedQuota : ℤ
  group : String
  crossGroupRetry : Bool

inductive Kind where
  | int | text | bool | pointer
  deriving DecidableEq

def userFields : List (String × Kind) :=
  [("Id", .int), ("Group", .text), ("Email", .text), ("Quota", .int), ("Status", .int),
    ("Username", .text), ("Setting", .text)]

def tokenFields : List (String × Kind) :=
  [("Id", .int), ("UserId", .int), ("Key", .text), ("Status", .int), ("Name", .text),
    ("CreatedTime", .int), ("AccessedTime", .int), ("ExpiredTime", .int),
    ("RemainQuota", .int), ("UnlimitedQuota", .bool), ("ModelLimitsEnabled", .bool),
    ("ModelLimits", .text), ("AllowIps", .pointer), ("UsedQuota", .int), ("Group", .text),
    ("CrossGroupRetry", .bool)]

def fieldNames (fields : List (String × Kind)) : List String := fields.map Prod.fst

open UserBase

variable (user : UserBase)

def UserBase.data : List (String × String) :=
  [("Id", toString user.id), ("Group", user.group), ("Email", user.email),
    ("Quota", toString user.quota), ("Status", toString user.status),
    ("Username", user.username), ("Setting", user.setting)]

/-- The data `RedisHSetObj` collects from a token; `cacheSetToken` has emptied its key. -/
def CachedToken.data (token : CachedToken) : List (String × String) :=
  [("Id", toString token.id), ("UserId", toString token.userId), ("Key", ""),
    ("Status", toString token.status), ("Name", token.name),
    ("CreatedTime", toString token.createdTime), ("AccessedTime", toString token.accessedTime),
    ("ExpiredTime", toString token.expiredTime), ("RemainQuota", toString token.remainQuota),
    ("UnlimitedQuota", toString token.unlimitedQuota),
    ("ModelLimitsEnabled", toString token.modelLimitsEnabled),
    ("ModelLimits", token.modelLimits), ("AllowIps", token.allowIps.getD ""),
    ("UsedQuota", toString token.usedQuota), ("Group", token.group),
    ("CrossGroupRetry", toString token.crossGroupRetry)]

/-- One transaction, which sets a time to live only if that is positive. -/
def redisHSetObj (data : List (String × String)) (expiration : ℤ) (key : Key String) : Key String :=
  if 0 < expiration then (key.hset data).expire else key.hset data

inductive FieldWrite where
  | increment (field : String) (delta : ℤ)
  | assign (field text : String)

def FieldWrite.commit (key : Key String) : FieldWrite → Key String
  | .increment field delta => (key.hincrby field delta).expire
  | .assign field text => (key.hset [(field, text)]).expire

def cacheIncrUserQuota (delta : ℤ) : FieldWrite := .increment "Quota" delta

/-- The codes are those of enabled and disabled users. -/
def updateUserStatusCache (status : Bool) : FieldWrite :=
  .assign "Status" (if status then "1" else "2")

/-- The key of one record, and the field writes that found a positive time to live and are about to
be committed.
-/
structure CacheState (ι : Type*) where
  key : Key String
  checked : ι → Option FieldWrite

inductive CacheCommand (ι R : Type*) where
  | fill (record : R) (expiration : ℤ)
  | check (call : ι) (write : FieldWrite) (left : ℕ)
  | commit (call : ι)
  | delete
  | expire

section

variable {ι R : Type*} [DecidableEq ι]

/-- Only a key with a time to live expires, at any time. -/
def CacheState.next (data : R → List (String × String)) (s : CacheState ι)
    : CacheCommand ι R → Option (CacheState ι)
  | .fill record expiration => some { s with key := redisHSetObj (data record) expiration s.key }
  | .check call write left =>
    some (if 0 < s.key.ttl left then
      { s with checked := Function.update s.checked call (some write) }
    else s)
  | .commit call =>
    (s.checked call).map fun write =>
      { key := write.commit s.key, checked := Function.update s.checked call none }
  | .delete => some { s with key := none }
  | .expire => if s.key.any Hash.expires then some { s with key := none } else none

def cacheMachine (ι : Type*) [DecidableEq ι] (data : R → List (String × String))
    : Machine (CacheState ι) (CacheCommand ι R) where
  initial s := s.key = none ∧ s.checked = fun _ => none
  next := CacheState.next data

def CacheState.Whole (fields : List (String × Kind)) (s : CacheState ι) : Prop :=
  s.key.Whole (fieldNames fields)

/-- A field is written only while the key that was looked at is still there. -/
def CacheState.KeyPresent (s : CacheState ι) : CacheCommand ι R → Prop
  | .commit _ => s.key.isSome = true
  | _ => True

theorem FieldWrite.whole_commit {key names} (whole : key.Whole names)
    (several : ∃ a ∈ names, ∃ b ∈ names, a ≠ b) (write : FieldWrite)
    : (write.commit key).Whole names ↔ key.isSome = true := by
  constructor
  · intro committed
    by_contra absent
    rw [Bool.not_eq_true, isSome_eq_false_iff, isNone_iff_eq_none] at absent
    subst absent
    cases write with
    | increment field delta =>
      exact (one_hincrby field delta).not_whole several (whole_expire.mp committed)
    | assign field text =>
      refine (?_ : Key.One field _).not_whole several (whole_expire.mp committed)
      exact ⟨_, rfl, fun name => by rw [isSome_setFields]; simp [fields]⟩
  · intro present
    cases write with
    | increment field delta => exact whole_expire.mpr (whole.hincrby present field delta)
    | assign field text => exact whole_expire.mpr (whole.hset present _)

/-- In every interleaving, the key of a record is absent or has all fields exactly if no field is
written after it has gone.
-/
theorem cacheMachine_keepsExactly {data : R → List (String × String)}
    {fields : List (String × Kind)}
    (covers : ∀ record, (data record).map Prod.fst = fieldNames fields)
    (several : ∃ a ∈ fieldNames fields, ∃ b ∈ fieldNames fields, a ≠ b)
    : (cacheMachine ι data).KeepsExactly CacheState.KeyPresent (CacheState.Whole fields) := by
  refine Machine.keepsExactly_of_step ?_ ?_
  · intro s start
    unfold CacheState.Whole
    rw [start.1]
    exact whole_none _
  · intro s command s' _ whole moved
    cases command with
    | fill record expiration =>
      cases moved
      have whole := whole_hset (covers record) s.key
      refine iff_of_true ?_ trivial
      unfold redisHSetObj
      split
      · exact whole_expire.mpr whole
      · exact whole
    | check call write left =>
      refine iff_of_true ?_ trivial
      have same := some.inj moved
      split at same <;> subst same <;> exact whole
    | commit call =>
      obtain ⟨write, _, rfl⟩ := map_eq_some_iff.mp moved
      exact write.whole_commit whole several
    | delete =>
      cases moved
      exact iff_of_true (whole_none _) trivial
    | expire =>
      obtain ⟨_, gone⟩ := ite_none_right_eq_some.mp moved
      cases gone
      exact iff_of_true (whole_none _) trivial

end

def parseBool (text : String) : Option Bool :=
  if text ∈ ["1", "t", "T", "true", "TRUE", "True"] then some true
  else if text ∈ ["0", "f", "F", "false", "FALSE", "False"] then some false
  else none

def Kind.refuses (text : String) : Kind → Bool
  | .int => (atoi text).isNone
  | .bool => (parseBool text).isNone
  | .text => false
  | .pointer => false

inductive ReadError where
  | notFound
  | failedToParse (field : String)

/-- Up to the hash it reads: the first field present that cannot be read is reported, a missing one
is passed over.
-/
def redisHGetObj (fields : List (String × Kind)) (key : Key String)
    : Except ReadError (Hash String) :=
  match key with
  | none => .error .notFound
  | some hash =>
    match fields.find? fun field => (hash.fields field.1).any field.2.refuses with
    | some field => .error (.failedToParse field.1)
    | none => .ok hash

def readInt (hash : Hash String) (name : String) : ℤ := ((hash.fields name).bind atoi).getD 0

def readText (hash : Hash String) (name : String) : String := (hash.fields name).getD ""

def readBool (hash : Hash String) (name : String) : Bool :=
  ((hash.fields name).bind parseBool).getD false

def cacheGetUserBase (key : Key String) : Except ReadError UserBase :=
  (redisHGetObj userFields key).map fun hash => {
    id := readInt hash "Id"
    group := readText hash "Group"
    email := readText hash "Email"
    quota := readInt hash "Quota"
    status := readInt hash "Status"
    username := readText hash "Username"
    setting := readText hash "Setting" }

/-- It puts the key it was asked for into the token. -/
def cacheGetTokenByKey (tokenKey : String) (key : Key String) : Except ReadError CachedToken :=
  (redisHGetObj tokenFields key).map fun hash => {
    id := readInt hash "Id"
    userId := readInt hash "UserId"
    key := tokenKey
    status := readInt hash "Status"
    name := readText hash "Name"
    createdTime := readInt hash "CreatedTime"
    accessedTime := readInt hash "AccessedTime"
    expiredTime := readInt hash "ExpiredTime"
    remainQuota := readInt hash "RemainQuota"
    unlimitedQuota := readBool hash "UnlimitedQuota"
    modelLimitsEnabled := readBool hash "ModelLimitsEnabled"
    modelLimits := readText hash "ModelLimits"
    allowIps := (hash.fields "AllowIps").filter (· ≠ "")
    usedQuota := readInt hash "UsedQuota"
    group := readText hash "Group"
    crossGroupRetry := readBool hash "CrossGroupRetry" }

/-- A status, a group and a quota are what the fields of a key say, none of them a default. -/
structure Undefaulted (key : Key String) (quotaField : String) (status : ℤ) (group : String)
    (quota : ℤ) : Prop where
  status : (key.fields "Status").bind atoi = some status
  group : key.fields "Group" = some group
  quota : (key.fields quotaField).bind atoi = some quota

variable {fields : List (String × Kind)} {key : Key String} {hash : Hash String}

section

variable (read : redisHGetObj fields key = .ok hash)

include read

theorem redisHGetObj_ok
    : key = some hash
      ∧ ∀ field ∈ fields, ∀ text ∈ hash.fields field.1, field.2.refuses text = false := by
  unfold redisHGetObj at read
  split at read
  · cases read
  split at read
  · cases read
  rename_i none_
  cases read
  refine ⟨rfl, fun field member text found => ?_⟩
  have readable := find?_eq_none.mp none_ field member
  rw [mem_def.mp found] at readable
  simpa using readable

theorem readInt_of_whole {name}
    (whole : key.Whole (fieldNames fields)) (member : (name, Kind.int) ∈ fields)
    : (key.fields name).bind atoi = some (readInt hash name) := by
  obtain ⟨rfl, readable⟩ := redisHGetObj_ok read
  obtain ⟨text, found⟩ := isSome_iff_exists.mp
    (whole hash rfl name (mem_map_of_mem member))
  have accepted := readable _ member text found
  obtain ⟨n, parsed⟩ := isSome_iff_exists.mp (isNone_eq_false_iff.mp accepted)
  simp [Key.fields, readInt, found, parsed]

theorem readText_of_whole {name}
    (whole : key.Whole (fieldNames fields)) (member : (name, Kind.text) ∈ fields)
    : key.fields name = some (readText hash name) := by
  obtain ⟨rfl, _⟩ := redisHGetObj_ok read
  obtain ⟨text, found⟩ := isSome_iff_exists.mp
    (whole hash rfl name (mem_map_of_mem member))
  simp [Key.fields, readText, found]

end

/-- The hash of a user and that of a token are absent or have all fields in every
interleaving, exactly if no field is written after the key has gone; a hit on such a hash
has no default for status, group and quota.
-/
theorem cached_records_whole_exactly {ι : Type*} [DecidableEq ι]
    : ((cacheMachine ι data).KeepsExactly CacheState.KeyPresent
        (CacheState.Whole userFields)
        ∧ ∀ (s : CacheState ι) (user : UserBase), s.Whole userFields
          → cacheGetUserBase s.key = .ok user
          → Undefaulted s.key "Quota" user.status user.group user.quota)
      ∧ (cacheMachine ι CachedToken.data).KeepsExactly CacheState.KeyPresent
        (CacheState.Whole tokenFields)
      ∧ ∀ (s : CacheState ι) (tokenKey : String) (token : CachedToken), s.Whole tokenFields
        → cacheGetTokenByKey tokenKey s.key = .ok token
        → Undefaulted s.key "RemainQuota" token.status token.group token.remainQuota := by
  refine ⟨⟨?_, ?_⟩, ?_, ?_⟩
  · exact cacheMachine_keepsExactly (fun _ => rfl)
      ⟨"Id", by decide +kernel, "Group", by decide +kernel, by decide +kernel⟩
  · intro s user whole hit
    cases read : redisHGetObj userFields s.key with rw [cacheGetUserBase, read] at hit
    | error e => cases hit
    | ok hash =>
      cases hit
      exact ⟨readInt_of_whole read whole (by decide +kernel),
        readText_of_whole read whole (by decide +kernel),
        readInt_of_whole read whole (by decide +kernel)⟩
  · exact cacheMachine_keepsExactly (fun _ => rfl)
      ⟨"Id", by decide +kernel, "Group", by decide +kernel, by decide +kernel⟩
  · intro s tokenKey token whole hit
    cases read : redisHGetObj tokenFields s.key with rw [cacheGetTokenByKey, read] at hit
    | error e => cases hit
    | ok hash =>
      cases hit
      exact ⟨readInt_of_whole read whole (by decide +kernel),
        readText_of_whole read whole (by decide +kernel),
        readInt_of_whole read whole (by decide +kernel)⟩

/-- A user of the group `vip` with quota 1000 who is charged 100 in the cache, before the key
expires.
-/
def chargeBeforeExpiry : List (CacheCommand Unit UserBase) :=
  [.fill ⟨7, "vip", "", 1000, 1, "ada", ""⟩ 60, .check () (cacheIncrUserQuota (-100)) 1, .commit ()]

/-- The key is whole, and a hit on it has the user's status, group and quota. -/
theorem charged_user_undefaulted
    : cacheGetUserBase
          ((cacheMachine Unit data).play ⟨none, fun _ => none⟩ chargeBeforeExpiry).key
        = .ok ⟨7, "vip", "", 900, 1, "ada", ""⟩
      ∧ Undefaulted
          ((cacheMachine Unit data).play ⟨none, fun _ => none⟩ chargeBeforeExpiry).key
          "Quota" 1 "vip" 900 := by
  have hit : cacheGetUserBase ((cacheMachine Unit data).play
      ⟨none, fun _ => none⟩ chargeBeforeExpiry).key = .ok ⟨7, "vip", "", 900, 1, "ada", ""⟩ := by
    rfl
  have reached : (cacheMachine Unit data).Reaches CacheState.KeyPresent
      ((cacheMachine Unit data).play ⟨none, fun _ => none⟩ chargeBeforeExpiry) :=
    Machine.reaches_play ⟨rfl, rfl⟩ ⟨trivial, rfl, trivial, rfl, rfl, rfl, trivial⟩
  obtain ⟨⟨kept, undefaulted⟩, _⟩ := cached_records_whole_exactly (ι := Unit)
  exact ⟨hit, undefaulted _ _ (kept.safe _ reached) hit⟩

/-- A cached user of the group `vip` is about to be disabled in the cache when the key expires; the
status is written nevertheless.
-/
def disableAfterExpiry : List (CacheCommand Unit UserBase) :=
  [.fill ⟨7, "vip", "", 1000, 1, "ada", ""⟩ 60, .check () (updateUserStatusCache false) 1,
    .expire, .commit ()]

/-- The key afterwards has the status alone, and a hit on it has no group and no quota. -/
theorem disabled_user_defaulted
    : (cacheMachine Unit data).Reaches anyStep
        ((cacheMachine Unit data).play ⟨none, fun _ => none⟩ disableAfterExpiry)
      ∧ ¬CacheState.Whole userFields
        ((cacheMachine Unit data).play ⟨none, fun _ => none⟩ disableAfterExpiry)
      ∧ cacheGetUserBase
          ((cacheMachine Unit data).play ⟨none, fun _ => none⟩ disableAfterExpiry).key
        = .ok ⟨0, "", "", 0, 2, "", ""⟩ := by
  refine ⟨Machine.reaches_play ⟨rfl, rfl⟩ (by decide +kernel), ?_, by rfl⟩
  intro whole
  have group := whole _ rfl "Group" (by decide +kernel)
  exact absurd group (by decide +kernel)

end HelsterApi.Quota
