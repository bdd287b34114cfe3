import HelsterApi.Net.HostPort

/-! Hashes of a key-value store that may expire, one key at a time, and counters in a database with
changes still to be written and a cache of their values. The cache is coherent if every value in it
is the stored one with its pending changes; a change keeps it so exactly if the cached value
follows.
-/

namespace HelsterApi.Caching

open Function

section

open Net (atoi)

variable {F : Type*}

/-- A hash: its fields, and whether its key has a time to live. -/
structure Hash (F : Type*) where
  fields : F → Option String
  expires : Bool

abbrev Key (F : Type*) := Option (Hash F)

def Key.fields (key : Key F) (field : F) : Option String := key.bind fun hash => hash.fields field

def Key.write (key : Key F) (fields : F → Option String) : Key F :=
  some ⟨fields, key.any Hash.expires⟩

def setFields [DecidableEq F] (fields : F → Option String)
    : List (F × String) → F → Option String
  | [] => fields
  | (field, text) :: rest => setFields (update fields field (some text)) rest

/-- `HSET` with several fields. -/
def Key.hset [DecidableEq F] (pairs : List (F × String)) (key : Key F) : Key F :=
  key.write (setFields key.fields pairs)

def integer? (text : String) : Option ℤ := (atoi text).filter fun n => toString n = text

/-- The value of a field after an increment: a missing field counts as zero; a text that is no
integer, or a sum that does not fit, is refused.
-/
def incremented (delta : ℤ) (text : Option String) : Option String :=
  match text with
  | none => some (toString delta)
  | some text =>
    match integer? text with
    | none => none
    | some n =>
      if -2 ^ 63 ≤ n + delta ∧ n + delta < 2 ^ 63 then some (toString (n + delta))
      else none

/-- `HINCRBY`; one that is refused changes nothing. -/
def Key.hincrby [DecidableEq F] (field : F) (delta : ℤ) (key : Key F) : Key F :=
  match incremented delta (key.fields field) with
  | none => key
  | some text => key.write (update key.fields field (some text))

/-- `EXPIRE` with a positive time. -/
def Key.expire (key : Key F) : Key F := key.map fun hash => { hash with expires := true }

/-- `TTL`, where `left` is the rest of the time to live in seconds: negative if the key is
absent or does not expire.
-/
def Key.ttl (left : ℕ) : Key F → ℤ
  | none => -2
  | some hash => if hash.expires then left else -1

def Key.Whole (names : List F) (key : Key F) : Prop :=
  ∀ hash ∈ key, ∀ name ∈ names, (hash.fields name).isSome = true

theorem Key.whole_none (names : List F) : Key.Whole names none := by
  intro hash member
  cases member

variable {names : List F} {key : Key F}

theorem Key.whole_expire : key.expire.Whole names ↔ key.Whole names := by
  simp [Key.Whole, expire]

theorem Key.whole_write {fields}
    : (key.write fields).Whole names ↔ ∀ name ∈ names, (fields name).isSome = true := by
  simp [Key.Whole, write]

theorem Key.Whole.isSome (whole : key.Whole names) (present : key.isSome = true) {name}
    (member : name ∈ names)
    : (key.fields name).isSome = true := by
  obtain ⟨hash, rfl⟩ := Option.isSome_iff_exists.mp present
  exact whole hash rfl name member

/-- A key exists and has that field alone. -/
def Key.One (field : F) (key : Key F) : Prop :=
  ∃ hash, key = some hash ∧ ∀ name, (hash.fields name).isSome = true ↔ name = field

theorem Key.One.not_whole {field} (one : key.One field) (several : ∃ a ∈ names, ∃ b ∈ names, a ≠ b)
    : ¬key.Whole names := by
  obtain ⟨hash, rfl, only⟩ := one
  obtain ⟨a, aNamed, b, bNamed, differ⟩ := several
  intro whole
  have atA := (only a).mp (whole hash rfl a aNamed)
  have atB := (only b).mp (whole hash rfl b bNamed)
  exact differ (atA.trans atB.symm)

variable [DecidableEq F]

/-- Fields that are set are there afterwards, as are those before, by induction on the
fields set.
-/
theorem isSome_setFields {pairs fields} {name : F}
    : (setFields fields pairs name).isSome = true
      ↔ name ∈ pairs.map Prod.fst ∨ (fields name).isSome = true := by
  induction pairs generalizing fields with
  | nil => simp [setFields]
  | cons pair rest ih =>
    rw [setFields, ih, List.map_cons, List.mem_cons]
    by_cases same : name = pair.1
    · simp [same]
    · rw [update_of_ne same]
      tauto

theorem Key.whole_hset {pairs : List (F × String)} (covers : pairs.map Prod.fst = names)
    (key : Key F)
    : (key.hset pairs).Whole names := by
  rw [hset, whole_write]
  intro name member
  exact isSome_setFields.mpr (.inl (covers ▸ member))

theorem Key.one_hincrby (field : F) (delta : ℤ) : (hincrby field delta none).One field := by
  refine ⟨_, rfl, fun name => ?_⟩
  by_cases same : name = field
  · simp [same]
  · simp [same, fields]

theorem Key.Whole.hset (whole : key.Whole names) (present : key.isSome = true)
    (pairs : List (F × String))
    : (key.hset pairs).Whole names := by
  rw [Key.hset, Key.whole_write]
  intro name member
  exact isSome_setFields.mpr (.inr (whole.isSome present member))

theorem Key.Whole.hincrby (whole : key.Whole names) (present : key.isSome = true) (field)
    (delta)
    : (key.hincrby field delta).Whole names := by
  unfold Key.hincrby
  split
  · exact whole
  · rw [Key.whole_write]
    intro name member
    by_cases same : name = field
    · simp [same]
    · rw [update_of_ne same]
      exact whole.isSome present member

end

open Option

/-- A cached value. A value that is not live is not incremented. -/
structure Entry where
  value : ℤ
  live : Bool
  deriving DecidableEq

/-- The stored values, the changes still to be written, and the cached values. -/
structure Counters (κ : Type*) where
  stored : κ → Option ℤ
  pending : κ → ℤ
  cached : κ → Option Entry

namespace Counters

variable {κ : Type*}

/-- The value of a counter with its pending changes, if it is stored at all. -/
def total (c : Counters κ) (k : κ) : Option ℤ := (c.stored k).map (· + c.pending k)

/-- Every cached value is the stored one with its pending changes. -/
def Coherent (c : Counters κ) : Prop := ∀ k, ∀ entry ∈ c.cached k, c.total k = some entry.value

variable [DecidableEq κ]

def add (c : Counters κ) (k : κ) (delta : ℤ) : Counters κ :=
  { c with stored := update c.stored k ((c.stored k).map (· + delta)) }

def store (c : Counters κ) (k : κ) (value : ℤ) : Counters κ :=
  { c with stored := update c.stored k (some value) }

/-- Adding to the pending changes. -/
def defer (c : Counters κ) (k : κ) (delta : ℤ) : Counters κ :=
  { c with pending := update c.pending k (c.pending k + delta) }

/-- Adding to a cached value, if there is one and it is live. -/
def increment (c : Counters κ) (k : κ) (delta : ℤ) : Counters κ :=
  { c with
    cached := update c.cached k ((c.cached k).map fun entry =>
      if entry.live then { entry with value := entry.value + delta } else entry) }

/-- Caching a value. -/
def assign (c : Counters κ) (k : κ) (entry : Entry) : Counters κ :=
  { c with cached := update c.cached k (some entry) }

/-- One counter, with its pending changes, has changed by `delta` and no other has. -/
def Shifts (c c' : Counters κ) (k : κ) (delta : ℤ) : Prop :=
  ∀ j, c'.total j = if j = k then (c.total j).map (· + delta) else c.total j

section

variable {c c' : Counters κ} {k : κ} {delta : ℤ}

theorem shifts_add (c : Counters κ) (k : κ) (delta) : Shifts c (c.add k delta) k delta := by
  intro j
  unfold total add
  by_cases same : j = k
  · subst same
    rw [if_pos rfl]
    dsimp only
    rw [update_self, map_map, map_map]
    congr 1
    funext value
    exact Int.add_right_comm value delta (c.pending j)
  · rw [if_neg same]
    dsimp only
    rw [update_of_ne same]

theorem shifts_defer (c : Counters κ) (k : κ) (delta) : Shifts c (c.defer k delta) k delta := by
  intro j
  unfold total defer
  by_cases same : j = k
  · subst same
    rw [if_pos rfl]
    dsimp only
    rw [update_self, map_map]
    congr 1
    funext value
    exact (Int.add_assoc value (c.pending j) delta).symm
  · rw [if_neg same]
    dsimp only
    rw [update_of_ne same]

theorem Shifts.congr {c''} (shifts : Shifts c c' k delta)
    (stored : c''.stored = c'.stored) (pending : c''.pending = c'.pending)
    : Shifts c c'' k delta := by
  intro j
  unfold total
  rw [stored, pending]
  exact shifts j

theorem Shifts.refl (c : Counters κ) (k : κ) : Shifts c c k 0 := by
  intro j
  split
  · cases c.total j with
    | none => rfl
    | some value => exact congrArg some (Int.add_zero value).symm
  · rfl

/-- Where the cache is left alone it stays coherent exactly if the counter is not cached or
unchanged.
-/
theorem Shifts.coherent_iff_of_untouched (shifts : Shifts c c' k delta)
    (untouched : c'.cached = c.cached) (coherent : c.Coherent)
    : c'.Coherent ↔ c.cached k = none ∨ delta = 0 := by
  constructor
  · intro after
    cases cached : c.cached k with
    | none => exact .inl rfl
    | some entry =>
      right
      have before := coherent k entry cached
      have now := after k entry (by rw [untouched]; exact cached)
      rw [shifts k, if_pos rfl, before] at now
      have equal : entry.value + delta = entry.value := some.inj now
      omega
  · intro kept j entry member
    rw [untouched] at member
    have before := coherent j entry member
    rw [shifts j]
    split
    next same =>
      subst same
      rcases kept with absent | rfl
      · cases absent.symm.trans member
      · rw [before]
        exact congrArg some (Int.add_zero entry.value)
    · exact before

variable {entry : Entry}

theorem mem_increment {j}
    : entry ∈ (c.increment k delta).cached j
      ↔ ∃ old ∈ c.cached j, entry = if j = k ∧ old.live then
          { old with value := old.value + delta } else old := by
  dsimp only [increment]
  by_cases same : j = k
  · subst same
    rw [update_self]
    cases c.cached j with
    | none => simp
    | some old =>
      constructor
      · rintro ⟨⟩
        exact ⟨old, rfl, by simp⟩
      · rintro ⟨_, ⟨⟩, rfl⟩
        simp
  · rw [update_of_ne same]
    simp [same]

/-- Where a live cached value is incremented with the counter, the cache stays coherent exactly
if the cached value is live, or nothing has changed.
-/
theorem Shifts.coherent_iff_of_incremented (shifts : Shifts c c' k delta)
    (incremented : c'.cached = (c.increment k delta).cached) (coherent : c.Coherent)
    : c'.Coherent ↔ (∀ entry ∈ c.cached k, entry.live = true) ∨ delta = 0 := by
  constructor
  · intro after
    by_cases unchanged : delta = 0
    · exact .inr unchanged
    · left
      intro entry member
      by_contra stale
      have before := coherent k entry member
      have now := after k entry (by
        rw [incremented, mem_increment]
        exact ⟨entry, member, by simp [stale]⟩)
      rw [shifts k, if_pos rfl, before] at now
      have equal : entry.value + delta = entry.value := some.inj now
      omega
  · intro follows j entry member
    rw [incremented, mem_increment] at member
    obtain ⟨old, was, rfl⟩ := member
    have before := coherent j old was
    rw [shifts j]
    by_cases same : j = k
    · subst same
      rw [if_pos rfl, before]
      by_cases live : old.live
      · rw [if_pos ⟨rfl, live⟩]
        rfl
      · rcases follows with all | rfl
        · exact absurd (all old was) live
        · rw [if_neg (by simp [live])]
          exact congrArg some (Int.add_zero old.value)
    · simpa [same] using before

theorem increment_zero (c : Counters κ) (k : κ) : (c.increment k 0).cached = c.cached := by
  dsimp only [increment]
  rw [update_eq_self_iff]
  cases c.cached k with
  | none => rfl
  | some entry => simp

/-- A counter that is cached changes exactly if it is the one that is shifted, by something. -/
theorem Shifts.total_ne_iff (shifts : Shifts c c' k delta) (coherent : c.Coherent) {j}
    (member : entry ∈ c.cached j)
    : c'.total j ≠ c.total j ↔ j = k ∧ delta ≠ 0 := by
  rw [shifts j, coherent j entry member]
  split
  next same =>
    rw [map_some, ne_eq, some.injEq, and_iff_right same]
    omega
  next different => exact iff_of_false (fun unequal => unequal rfl) fun both => different both.1

/-- Each counter that has changed is not cached, or its cached value is live and follows. -/
def Follows (follows : Bool) (c c' : Counters κ) : Prop :=
  ∀ k, c'.total k ≠ c.total k → ∀ entry ∈ c.cached k, follows = true ∧ entry.live = true

/-- After a shift the cache is coherent exactly if the cached value follows. -/
theorem Shifts.coherent_iff {follows} (shifts : Shifts c c' k delta)
    (cached : c'.cached = if follows then (c.increment k delta).cached else c.cached)
    (coherent : c.Coherent)
    : c'.Coherent ↔ Follows follows c c' := by
  have changed : Follows follows c c' ↔
      ∀ entry ∈ c.cached k, delta ≠ 0 → follows = true ∧ entry.live = true := by
    constructor
    · intro follow entry member different
      exact follow k ((shifts.total_ne_iff coherent member).mpr ⟨rfl, different⟩) entry member
    · intro follow j different entry member
      obtain ⟨rfl, unequal⟩ := (shifts.total_ne_iff coherent member).mp different
      exact follow entry member unequal
  rw [changed]
  cases follows with
  | false =>
    rw [shifts.coherent_iff_of_untouched cached coherent]
    constructor
    · rintro (absent | rfl) entry member different
      · cases absent.symm.trans member
      · exact absurd rfl different
    · intro follow
      cases held : c.cached k with
      | none => exact .inl rfl
      | some entry =>
        right
        by_contra different
        exact Bool.false_ne_true (follow entry held different).1
  | true =>
    rw [shifts.coherent_iff_of_incremented cached coherent]
    constructor
    · rintro (live | rfl) entry member different
      · exact ⟨rfl, live entry member⟩
      · exact absurd rfl different
    · intro follow
      by_cases unchanged : delta = 0
      · exact .inr unchanged
      · exact .inl fun entry member => (follow entry member unchanged).2

/-- Where the stored value itself is cached with it, the cache stays coherent exactly if
nothing is pending.
-/
theorem coherent_iff_of_assigned (coherent : c.Coherent)
    : ((c.store k entry.value).assign k entry).Coherent ↔ c.pending k = 0 := by
  have here : ((c.store k entry.value).assign k entry).total k
      = some (entry.value + c.pending k) := by
    dsimp only [total, store, assign]
    simp [update_self]
  constructor
  · intro after
    have now := after k entry (by
      dsimp only [assign]
      rw [update_self]
      rfl)
    rw [here] at now
    have equal := some.inj now
    omega
  · intro nothing j other member
    by_cases same : j = k
    · subst same
      dsimp only [assign] at member
      rw [update_self] at member
      cases member
      rw [here, nothing, Int.add_zero]
    · dsimp only [assign] at member
      rw [update_of_ne same] at member
      have before := coherent j other member
      dsimp only [total, store, assign]
      rwa [update_of_ne same]

end

end Counters

end HelsterApi.Caching
