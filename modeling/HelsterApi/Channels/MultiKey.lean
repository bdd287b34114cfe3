import HelsterApi.Channels.Cache

/-! The keys of a channel with several keys. In polling mode calls on the cached channel take
the enabled keys in turn; without the cache a selection saves the record it has loaded, and
with it the statuses of the keys.
-/

namespace HelsterApi.Channels

open List Transition

inductive MultiKeyMode where
  | random | polling | other
  deriving DecidableEq

structure ChannelInfo where
  isMultiKey : Bool
  multiKeyStatusList : ℕ → Option ℤ
  multiKeyPollingIndex : ℤ
  multiKeyMode : MultiKeyMode

def ChannelInfo.keyEnabled (info : ChannelInfo) (idx : ℕ) : Bool :=
  (info.multiKeyStatusList idx).getD channelStatusEnabled = channelStatusEnabled

/-- A channel with the keys that `GetKeys` finds. -/
structure KeyedChannel where
  key : String
  keys : List String
  info : ChannelInfo

namespace KeyedChannel

def withIndex (channel : KeyedChannel) (index : ℤ) : KeyedChannel :=
  { channel with info := { channel.info with multiKeyPollingIndex := index } }

def enabledIdx (channel : KeyedChannel) : List ℕ :=
  (List.range channel.keys.length).filter channel.info.keyEnabled

def keyAt (channel : KeyedChannel) (idx : ℕ) : Except String (String × ℕ) :=
  .ok (channel.keys.getD idx "", idx)

/-- The saved polling index, or zero if it is none of the keys. -/
def start (channel : KeyedChannel) (index : ℤ) : ℕ :=
  if index < 0 ∨ channel.keys.length ≤ index then 0 else index.toNat

/-- `GetNextEnabledKey`: the key and its index, and the channel's info afterwards. -/
def getNextEnabledKey (channel : KeyedChannel)
    (channelInfo : Except String ChannelInfo) (intn : ℕ → ℕ)
    : Except String (String × ℕ) × ChannelInfo :=
  let n := channel.keys.length
  if channel.info.isMultiKey = false then (.ok (channel.key, 0), channel.info)
  else if channel.keys = [] then (.error "no keys available", channel.info)
  else
    match channel.enabledIdx with
    | [] => (.error "no enabled keys", channel.info)
    | first :: rest =>
      match channel.info.multiKeyMode, channelInfo with
      | .random, _ =>
        (channel.keyAt ((first :: rest).getD (intn (rest.length + 1)) 0), channel.info)
      | .polling, .error text => (.error text, channel.info)
      | .polling, .ok found =>
        let start := channel.start found.multiKeyPollingIndex
        match ((List.range n).map fun i => (start + i) % n).find? channel.info.keyEnabled with
        | some idx => (channel.keyAt idx, (channel.withIndex ((idx + 1) % n : ℕ)).info)
        | none => (channel.keyAt first, channel.info)
      | .other, _ => (channel.keyAt first, channel.info)

/-- Calls with the memory cache: on the cached channel, or on a copy read from the database with its
own polling index.
-/
def calls (intn : ℕ → ℕ) (channel : KeyedChannel)
    : List (Option ℤ) → List (Except String (String × ℕ))
  | [] => []
  | none :: rest =>
    let (key, info) := channel.getNextEnabledKey (.ok channel.info) intn
    key :: { channel with info := info }.calls intn rest
  | some index :: rest =>
    ((channel.withIndex index).getNextEnabledKey (.ok channel.info) intn).1
      :: channel.calls intn rest

/-- The enabled keys in the order of the list, from a polling index around to it. -/
def cyclicOrder (channel : KeyedChannel) (index : ℤ) : List ℕ :=
  ((List.range channel.keys.length).rotate (channel.start index)).filter channel.info.keyEnabled

variable {channel : KeyedChannel}

theorem perm_cyclicOrder (channel : KeyedChannel) (index)
    : (channel.cyclicOrder index).Perm channel.enabledIdx := (rotate_perm _ _).filter _

theorem map_range_eq_rotate (start n)
    : (range n).map (fun i => (start + i) % n) = (range n).rotate start := by
  refine ext_getElem (by simp) fun i _ _ => ?_
  simp [getElem_rotate, Nat.add_comm]

theorem rotate_range_succ {start n idx before after}
    (split : (range n).rotate start = before ++ idx :: after)
    : (range n).rotate ((idx + 1) % n) = after ++ (before ++ [idx]) := by
  have length : before.length + (after.length + 1) = n := by
    simpa using (congrArg length split).symm
  have isIdx : (start + before.length) % n = idx := by
    have found := congrArg (fun l => l[before.length]?) split
    have inside : before.length < n := by omega
    simpa [getElem?_rotate, inside, Nat.add_comm] using found
  have shifted : (range n).rotate ((idx + 1) % n)
      = ((range n).rotate start).rotate (before.length + 1) := by
    rw [rotate_rotate, ← rotate_mod (range n) (start + (before.length + 1)),
      length_range, ← isIdx, Nat.mod_add_mod, Nat.add_assoc]
  have moved : before.length + 1 = (before ++ [idx]).length := by simp
  rw [shifted, split, moved, append_cons, rotate_append_length_eq]

theorem getNextEnabledKey_polling (multi : channel.info.isMultiKey = true)
    (polling : channel.info.multiKeyMode = .polling) {info idx rest}
    (order : channel.cyclicOrder info.multiKeyPollingIndex = idx :: rest) (intn)
    : channel.getNextEnabledKey (.ok info) intn
      = (channel.keyAt idx, (channel.withIndex ((idx + 1) % channel.keys.length : ℕ)).info) := by
  have found : ((range channel.keys.length).map fun i =>
        (channel.start info.multiKeyPollingIndex + i) % channel.keys.length).find?
          channel.info.keyEnabled
      = some idx := by
    rw [map_range_eq_rotate, ← head?_filter]
    exact congrArg head? order
  have enabled := (channel.perm_cyclicOrder _).mem_iff.mp (order ▸ mem_cons_self)
  obtain ⟨first, others, isFirst⟩ := exists_cons_of_ne_nil (ne_nil_of_mem enabled)
  have keys : channel.keys ≠ [] := by
    rintro none_
    simp [enabledIdx, none_] at enabled
  simp [getNextEnabledKey, multi, keys, isFirst, polling, found]

theorem cyclicOrder_next {index idx rest} (order : channel.cyclicOrder index = idx :: rest)
    : channel.cyclicOrder ((idx + 1) % channel.keys.length : ℕ) = rest ++ [idx] := by
  obtain ⟨before, after, split, skipped, enabled, isRest⟩ := filter_eq_cons_iff.mp order
  have length : before.length + (after.length + 1) = channel.keys.length := by
    simpa using (congrArg length split).symm
  have inside : (idx + 1) % channel.keys.length < channel.keys.length := Nat.mod_lt _ (by omega)
  have start : channel.start ((idx + 1) % channel.keys.length : ℕ)
      = (idx + 1) % channel.keys.length := by
    unfold start
    rw [if_neg (by omega), Int.toNat_natCast]
  rw [cyclicOrder, start, rotate_range_succ split, filter_append, filter_append, isRest,
    filter_eq_nil_iff.mpr skipped, filter_cons_of_pos enabled]
  rfl

theorem calls_cons (multi : channel.info.isMultiKey = true)
    (polling : channel.info.multiKeyMode = .polling) {idx rest}
    (order : channel.cyclicOrder channel.info.multiKeyPollingIndex = idx :: rest)
    (intn call) (made : List (Option ℤ))
    : channel.calls intn (call :: made)
      = channel.keyAt idx :: calls intn
          (if call = none then channel.withIndex ((idx + 1) % channel.keys.length : ℕ)
          else channel)
          made := by
  cases call with
  | none =>
    simp only [calls, getNextEnabledKey_polling multi polling order intn]
    rfl
  | some index =>
    have copied :=
      @getNextEnabledKey_polling (channel.withIndex index) multi polling _ _ _ order intn
    simp only [calls, copied, reduceCtorEq, if_false]
    rfl

/-- Calls return the keys in cyclic order exactly as long as they are made on the cached channel, by
induction on them: the call after one on a copy returns the same key.
-/
theorem calls_eq_iff (multi : channel.info.isMultiKey = true)
    (polling : channel.info.multiKeyMode = .polling) (intn) {made}
    (short : made.length
      ≤ (channel.cyclicOrder channel.info.multiKeyPollingIndex).length)
    : channel.calls intn made
        = ((channel.cyclicOrder channel.info.multiKeyPollingIndex).take
          made.length).map channel.keyAt
      ↔ ∀ call ∈ made.dropLast, call = none := by
  induction made generalizing channel with
  | nil => simp [calls]
  | cons call rest ih =>
    cases order : channel.cyclicOrder channel.info.multiKeyPollingIndex with
    | nil => simp [order] at short
    | cons idx later =>
      rw [order, length_cons, length_cons, Nat.succ_le_succ_iff] at short
      rw [calls_cons multi polling order, length_cons,
        take_succ_cons, map_cons, cons.injEq, and_iff_right rfl]
      cases call with
      | none =>
        let advanced := channel.withIndex ((idx + 1) % channel.keys.length : ℕ)
        have next : advanced.cyclicOrder advanced.info.multiKeyPollingIndex
            = later ++ [idx] := cyclicOrder_next order
        have onwards := @ih advanced multi polling (by
          rw [next, length_append]
          omega)
        rw [next, take_append_of_le_length short] at onwards
        rw [if_pos rfl]
        refine onwards.trans ?_
        cases rest with
        | nil => simp
        | cons second others => simp
      | some index =>
        cases rest with
        | nil => simp [calls]
        | cons second others =>
          obtain ⟨other, later, rfl⟩ :=
            exists_cons_of_ne_nil (ne_nil_of_length_pos (by
              rw [length_cons] at short; omega : 0 < later.length))
          have nodup : (idx :: other :: later).Nodup := by
            rw [← order]
            exact ((channel.perm_cyclicOrder _).nodup_iff).mpr
              (nodup_range.filter _)
          refine iff_of_false ?_ (by simp)
          rw [if_neg (by simp), calls_cons multi polling order]
          intro same
          simp [keyAt] at same
          simp [same.1.2] at nodup

end KeyedChannel

open KeyedChannel

variable {channel : KeyedChannel}

/-- As many calls as a channel has enabled keys return each once, in cyclic order from the polling
index, exactly if all but the last are made on the cached channel.
-/
theorem polled_in_cyclic_order_iff (multi : channel.info.isMultiKey = true)
    (polling : channel.info.multiKeyMode = .polling) (intn : ℕ → ℕ) {made}
    (each : made.length = channel.enabledIdx.length)
    : (channel.cyclicOrder channel.info.multiKeyPollingIndex).Perm channel.enabledIdx
      ∧ (channel.calls intn made
          = (channel.cyclicOrder channel.info.multiKeyPollingIndex).map channel.keyAt
        ↔ ∀ call ∈ made.dropLast, call = none) := by
  have permuted := channel.perm_cyclicOrder channel.info.multiKeyPollingIndex
  have all := each.trans permuted.length_eq.symm
  have polled := calls_eq_iff multi polling intn all.le
  rw [all, take_length] at polled
  exact ⟨permuted, polled⟩

def threeKeys : KeyedChannel :=
  ⟨"a\nb\nc", ["a", "b", "c"], ⟨true, fun idx => if idx = 1 then some 3 else none, 2, .polling⟩⟩

theorem threeKeys_polled_in_cyclic_order
    : threeKeys.calls (fun _ => 0) [none, none] = [.ok ("c", 2), .ok ("a", 0)] :=
  (polled_in_cyclic_order_iff rfl rfl _ rfl).2.mpr (by decide)

/-- Requests for a specific channel read it from the database, and all get the same key. -/
theorem threeKeys_polled_twice
    : threeKeys.enabledIdx = [0, 2]
      ∧ threeKeys.calls (fun _ => 0) [some 2, some 2] = [.ok ("c", 2), .ok ("c", 2)] := by
  decide

/-- A row of the channels: the keys, their statuses and that of the channel. -/
structure KeyedRow extends KeyedChannel where
  status : ℤ

def channelStatusAutoDisabled : ℤ := 3

def KeyedChannel.hasEnabledMultiKey (channel : KeyedChannel) : Bool := channel.enabledIdx ≠ []

def KeyedRow.handlerMultiKeyUpdate (row : KeyedRow) (usingKey : String) (status : ℤ) : KeyedRow :=
  if row.keys = [] then { row with status := status }
  else
    match row.keys.idxOf? usingKey with
    | none => if usingKey ≠ "" then row else { row with status := status }
    | some keyIndex =>
      let statusList := Function.update row.info.multiKeyStatusList keyIndex
        (if status = channelStatusEnabled then none else some status)
      let row := { row with info := { row.info with multiKeyStatusList := statusList } }
      if row.hasEnabledMultiKey = false then { row with status := channelStatusAutoDisabled }
      else if status = channelStatusEnabled then { row with status := channelStatusEnabled }
      else row

/-- Where a call stands: a selection that has loaded the channel, with the keys that were off
then, or that has its key and saves the record; a status update that has loaded the channel.
-/
inductive KeyCall where
  | idle
  | selecting (row : KeyedRow) (off : ℕ → Bool)
  | saving (info : ChannelInfo)
  | updating (usingKey : String) (status : ℤ) (row : KeyedRow)

/-- The row, the keys whose disabling has committed and that were not enabled since, the calls,
and the keys returned, each with whether it was off when its selection began.
-/
structure KeyState (ι : Type*) where
  row : KeyedRow
  off : ℕ → Bool
  calls : ι → KeyCall
  returned : List (ℕ × Bool)

inductive KeyAction (ι : Type*) where
  | getChannel (i : ι)
  | getNextEnabledKey (i : ι)
  | saveChannelInfo (i : ι)
  | updateChannelStatus (i : ι) (usingKey : String) (status : ℤ)
  | saveWithoutKey (i : ι)

variable {ι : Type*} [DecidableEq ι]

namespace KeyState

def put (s : KeyState ι) (i : ι) (call : KeyCall) : KeyState ι :=
  { s with calls := Function.update s.calls i call }

def offAfter (s : KeyState ι) (usingKey : String) (status : ℤ) : ℕ → Bool :=
  match s.row.keys.idxOf? usingKey with
  | some keyIndex => Function.update s.off keyIndex (status ≠ channelStatusEnabled)
  | none => s.off

/-- One statement of a polling selection or a status update, without the memory cache. A call whose
statement fails ends.
-/
def next (s : KeyState ι) : KeyAction ι → Option (KeyState ι)
  | .getChannel i => some (s.put i (.selecting s.row s.off))
  | .getNextEnabledKey i =>
    match s.calls i with
    | .selecting row off =>
      if row.info.isMultiKey ∧ row.info.multiKeyMode = .polling then
        match row.getNextEnabledKey (.ok s.row.info) id with
        | (.ok (_, idx), info) =>
          some { s.put i (.saving info) with returned := (idx, off idx) :: s.returned }
        | (.error _, _) => some (s.put i .idle)
      else none
    | _ => none
  | .saveChannelInfo i =>
    match s.calls i with
    | .saving info => some { s.put i .idle with row := { s.row with info := info } }
    | _ => none
  | .updateChannelStatus i usingKey status =>
    if s.row.status = status then none
    else some (s.put i (.updating usingKey status (s.row.handlerMultiKeyUpdate usingKey status)))
  | .saveWithoutKey i =>
    match s.calls i with
    | .updating usingKey status row =>
      some { s.put i .idle with row := row, off := s.offAfter usingKey status }
    | _ => none

end KeyState

variable (ι) in
def keyMachine : Machine (KeyState ι) (KeyAction ι) where
  initial s := s.row.info.isMultiKey ∧ s.off = (fun _ => false) ∧ s.calls = (fun _ => .idle)
    ∧ s.returned = []
  next := KeyState.next

def ChannelInfo.Disables (info : ChannelInfo) (off : ℕ → Bool) : Prop :=
  ∀ idx, off idx → info.keyEnabled idx = false

/-- The keys that are off are disabled, in the row and in what selections have loaded, and none was
returned.
-/
structure KeyState.Honours (s : KeyState ι) : Prop where
  row : s.row.info.Disables s.off
  selecting : ∀ i row off, s.calls i = .selecting row off → row.info.Disables off
  returned : ∀ key ∈ s.returned, key.2 = false

def KeyState.WritesCurrent (s : KeyState ι) : KeyAction ι → Prop
  | .saveChannelInfo i => ∀ info, s.calls i = .saving info → info.Disables s.off
  | .saveWithoutKey i => ∀ usingKey status row, s.calls i = .updating usingKey status row
      → row.info.Disables (s.offAfter usingKey status)
  | _ => True

theorem KeyedChannel.enabled_of_getNextEnabledKey (multi : channel.info.isMultiKey = true)
    (polling : channel.info.multiKeyMode = .polling) {found info intn key idx}
    (returned : channel.getNextEnabledKey (.ok found) intn = (.ok (key, idx), info))
    : channel.info.keyEnabled idx = true := by
  cases order : channel.cyclicOrder found.multiKeyPollingIndex with
  | nil =>
    have none_ : channel.enabledIdx = [] := by
      rw [← perm_nil, ← order]
      exact (channel.perm_cyclicOrder _).symm
    simp [getNextEnabledKey, multi, none_] at returned
    split at returned <;> cases returned
  | cons first rest =>
    rw [getNextEnabledKey_polling multi polling order] at returned
    cases returned
    exact of_mem_filter (order ▸ mem_cons_self)

variable {s : KeyState ι} {i : ι} {call : KeyCall}

theorem KeyState.Honours.selecting_put (honours : s.Honours)
    (loaded : ∀ row off, call = .selecting row off → row.info.Disables off)
    : ∀ j row off, (s.put i call).calls j = .selecting row off → row.info.Disables off := by
  intro j row off at_
  by_cases same : j = i
  · subst same
    exact loaded row off ((Function.update_self ..).symm.trans at_)
  · exact honours.selecting j row off ((Function.update_of_ne same ..).symm.trans at_)

variable (ι) in
/-- No selection returns a key that was off when it began, as long as no record is written that
enables such a key.
-/
theorem disabled_keys_honoured_iff
    : (keyMachine ι).KeepsExactly KeyState.WritesCurrent KeyState.Honours := by
  refine Machine.keepsExactly_of_step ?_ fun s action s' _ honours moved => ?_
  · rintro s ⟨_, off, calls, returned⟩
    exact ⟨by simp [off, ChannelInfo.Disables], by simp [calls], by simp [returned]⟩
  cases action with try simp only [keyMachine, KeyState.next] at moved
  | getChannel i =>
    cases moved
    refine iff_of_true ⟨honours.row, honours.selecting_put ?_, honours.returned⟩ trivial
    rintro row off ⟨⟩
    exact honours.row
  | getNextEnabledKey i =>
    split at moved
    next row off at_ =>
      obtain ⟨⟨multi, polling⟩, moved⟩ := Option.ite_none_right_eq_some.mp moved
      split at moved
      next key idx info selected =>
        cases moved
        refine iff_of_true ⟨honours.row, honours.selecting_put (by simp), ?_⟩ trivial
        have enabled := enabled_of_getNextEnabledKey multi polling selected
        have on : off idx = false := by simpa [enabled] using honours.selecting i row off at_ idx
        exact forall_mem_cons.mpr ⟨on, honours.returned⟩
      · cases moved
        exact iff_of_true ⟨honours.row, honours.selecting_put (by simp), honours.returned⟩
          trivial
    · cases moved
  | saveChannelInfo i =>
    split at moved
    next info at_ =>
      cases moved
      refine ⟨fun kept written same => ?_, fun current => ?_⟩
      · cases at_.symm.trans same
        exact kept.row
      · exact ⟨current info at_, honours.selecting_put (by simp), honours.returned⟩
    · cases moved
  | updateChannelStatus i usingKey status =>
    obtain ⟨_, moved⟩ := Option.ite_none_left_eq_some.mp moved
    cases moved
    exact iff_of_true ⟨honours.row, honours.selecting_put (by simp), honours.returned⟩ trivial
  | saveWithoutKey i =>
    split at moved
    next usingKey status row at_ =>
      cases moved
      refine ⟨fun kept usingKey' status' row' same => ?_, fun current => ?_⟩
      · cases at_.symm.trans same
        exact kept.row
      · exact ⟨current _ _ _ at_, honours.selecting_put (by simp), honours.returned⟩
    · cases moved

def twoKeys : KeyState (Fin 3) :=
  ⟨⟨⟨"a\nb", ["a", "b"], ⟨true, fun _ => none, 0, .polling⟩⟩, 1⟩, fun _ => false,
    fun _ => .idle, []⟩

def disabledBeforeSave : List (KeyAction (Fin 3)) :=
  [.getChannel 0, .updateChannelStatus 1 "b" 3, .saveWithoutKey 1, .getNextEnabledKey 0,
    .saveChannelInfo 0, .getChannel 2, .getNextEnabledKey 2]

/-- A selection that loaded the channel before a key was disabled saves its record, and the next
returns the key.
-/
theorem disabled_key_returned
    : (keyMachine (Fin 3)).Reaches anyStep ((keyMachine (Fin 3)).play twoKeys disabledBeforeSave)
      ∧ ((keyMachine (Fin 3)).play twoKeys disabledBeforeSave).returned
        = [(1, true), (0, false)] :=
  ⟨Machine.reaches_play ⟨rfl, rfl, rfl, rfl⟩ (by decide), by decide⟩

/-- `UpdateChannelStatus` on a cached channel with several keys; `saved` says whether the row could
be read and saved.
-/
structure StatusCall where
  usingKey : String
  status : ℤ
  saved : Bool

/-- The cached channel and the row, whether the channel was disabled as a whole and nothing enabled
since, and what the last call reported.
-/
structure StatusState where
  (cache row : KeyedRow)
  (whole reported : Bool)

namespace StatusState

def updateChannelStatus (s : StatusState) (call : StatusCall) : StatusState :=
  let changes := call.saved && s.row.status ≠ call.status
  { cache := s.cache.handlerMultiKeyUpdate call.usingKey call.status
    row := if changes then s.row.handlerMultiKeyUpdate call.usingKey call.status else s.row
    whole :=
      if call.usingKey = "" ∧ call.usingKey ∉ s.row.keys then call.status ≠ channelStatusEnabled
      else s.whole && (call.usingKey ∉ s.row.keys || call.status ≠ channelStatusEnabled)
    reported := changes }

/-- A channel has the statuses that an update sets. -/
def Settled (row : KeyedRow) (usingKey : String) (status : ℤ) : Prop :=
  match row.keys.idxOf? usingKey with
  | none => row.keys ≠ [] ∧ usingKey ≠ "" ∨ row.status = status
  | some keyIndex =>
    row.info.multiKeyStatusList keyIndex
        = (if status = channelStatusEnabled then none else some status)
      ∧ if row.hasEnabledMultiKey = false then row.status = channelStatusAutoDisabled
        else status = channelStatusEnabled → row.status = channelStatusEnabled

theorem handlerMultiKeyUpdate_eq_self_iff {row : KeyedRow} {usingKey status}
    : row.handlerMultiKeyUpdate usingKey status = row ↔ Settled row usingKey status := by
  obtain ⟨channel, current⟩ := row
  unfold KeyedRow.handlerMultiKeyUpdate Settled
  cases found : channel.keys.idxOf? usingKey with
  | none =>
    by_cases keyless : channel.keys = [] <;> by_cases named : usingKey = ""
      <;> simp [keyless, named, eq_comm]
  | some keyIndex =>
    have keys : channel.keys ≠ [] := by
      intro none
      simp [none] at found
    rw [if_neg keys]
    dsimp only
    -- If the key has its status, the list is as it was and so are the enabled keys.
    generalize (if status = channelStatusEnabled then none else some status) = set
    by_cases same : channel.info.multiKeyStatusList keyIndex = set
    · rw [← same, Function.update_eq_self, and_iff_right rfl]
      split_ifs with _ enables
      · exact ⟨fun unchanged => (congrArg KeyedRow.status unchanged).symm, fun off => by rw [off]⟩
      · exact ⟨fun unchanged _ => (congrArg KeyedRow.status unchanged).symm,
          fun on => by rw [on enables]⟩
      · exact iff_of_true rfl fun enabled => absurd enabled enables
    · refine iff_of_false (fun unchanged => same ?_) fun settled => same settled.1
      have listed := congrArg (·.info.multiKeyStatusList keyIndex) unchanged
      split_ifs at listed <;> simpa using listed.symm

/-- The row is saved unless the cached channel has the statuses already, and the whole channel is
enabled only while a key is.
-/
def Agreeing (s : StatusState) (call : StatusCall) : Prop :=
  (Settled s.cache call.usingKey call.status ∨ call.saved = true ∧ s.row.status ≠ call.status)
    ∧ (call.usingKey = "" → call.usingKey ∉ s.row.keys → call.status = channelStatusEnabled
      → s.row.hasEnabledMultiKey = true)

/-- A channel is disabled exactly if all its keys are or it was as a whole. -/
def Derived (row : KeyedRow) (whole : Bool) : Prop :=
  row.status ≠ channelStatusEnabled ↔ row.hasEnabledMultiKey = false ∨ whole = true
  deriving Decidable

def statusMachine : Machine StatusState StatusCall where
  initial s := s.cache = s.row ∧ s.row.keys ≠ [] ∧ Derived s.row s.whole
  next s call := some (s.updateChannelStatus call)

variable {s : StatusState} {call : StatusCall}

theorem handlerMultiKeyUpdate_derived (keys : s.row.keys ≠ []) (derived : Derived s.row s.whole)
    (agreeing : s.Agreeing call)
    : Derived (s.row.handlerMultiKeyUpdate call.usingKey call.status)
      (s.updateChannelStatus call).whole := by
  unfold KeyedRow.handlerMultiKeyUpdate updateChannelStatus
  rw [if_neg keys]
  cases found : s.row.keys.idxOf? call.usingKey with
  | none =>
    have absent := idxOf?_eq_none_iff.mp found
    by_cases whole : call.usingKey = ""
    · have enables := agreeing.2 whole absent
      by_cases same : call.status = channelStatusEnabled
      · have some_ := of_decide_eq_true (enables same)
        simp [Derived, whole, same, whole ▸ absent, hasEnabledMultiKey, some_]
      · simp [Derived, whole, same, whole ▸ absent]
    · simpa [whole, absent] using derived
  | some keyIndex =>
    have present : call.usingKey ∈ s.row.keys := by
      by_contra absent
      simp [idxOf?_eq_none_iff.mpr absent] at found
    have off : channelStatusAutoDisabled ≠ channelStatusEnabled := by decide
    simp only [present, not_true_eq_false, and_false, if_false, decide_false, Bool.false_or]
    by_cases enables : call.status = channelStatusEnabled
    · simp only [if_pos enables]
      split
      next none_ => exact iff_of_true off (.inl none_)
      next some_ => exact iff_of_false (absurd rfl) (by simp [enables, some_])
    · simp only [if_neg enables]
      split
      next none_ => exact iff_of_true off (.inl none_)
      next some_ =>
        have before : s.row.hasEnabledMultiKey = true := by
          simp only [hasEnabledMultiKey, Bool.not_eq_false, decide_eq_true_eq] at some_ ⊢
          obtain ⟨idx, member⟩ := exists_mem_of_ne_nil _ some_
          obtain ⟨inside, on⟩ := mem_filter.mp member
          have different : idx ≠ keyIndex := by
            rintro rfl
            simp [ChannelInfo.keyEnabled, enables] at on
          simp only [ChannelInfo.keyEnabled, Function.update_of_ne different] at on
          exact ne_nil_of_mem (mem_filter.mpr ⟨inside, on⟩)
        simpa [Derived, before, some_, enables] using derived

/-- In every run of agreeing calls the cached channel and the row have the same statuses, and the
channel is disabled exactly if all its keys are or it was as a whole.
-/
theorem statuses_agree (reached : statusMachine.Reaches Agreeing s)
    : s.cache.status = s.row.status
      ∧ s.cache.info.multiKeyStatusList = s.row.info.multiKeyStatusList
      ∧ Derived s.row s.whole := by
  have agree : s.cache = s.row ∧ s.row.keys ≠ [] ∧ Derived s.row s.whole := by
    refine reached.invariant _ id ?_
    rintro s call _ - ⟨same, keys, derived⟩ agreeing ⟨⟩
    have moved := handlerMultiKeyUpdate_derived keys derived agreeing
    rcases agreeing.1 with settled | saves
    · have changes := handlerMultiKeyUpdate_eq_self_iff.mpr settled
      have still := same ▸ changes
      have kept : (s.updateChannelStatus call).row = s.row := ite_eq_right_iff.mpr fun _ => still
      rw [still, ← kept] at moved
      exact ⟨changes.trans (same.trans kept.symm), kept ▸ keys, moved⟩
    · have written : (s.updateChannelStatus call).row
          = s.row.handlerMultiKeyUpdate call.usingKey call.status := by
        simp [updateChannelStatus, saves]
      refine ⟨written ▸ same ▸ rfl, ?_, written ▸ moved⟩
      rw [written, KeyedRow.handlerMultiKeyUpdate]
      split <;> [skip; split] <;> [skip; split; (dsimp only; split_ifs)] <;> exact keys
  exact ⟨congrArg _ agree.1, congrArg (·.info.multiKeyStatusList) agree.1, agree.2.2⟩

def twoKeysStatus : StatusState := ⟨twoKeys.row, twoKeys.row, false, false⟩

theorem twoKeysStatus_disabled_agrees : let s := twoKeysStatus.updateChannelStatus ⟨"a", 3, true⟩
      s.reported = true ∧ s.cache.status = s.row.status :=
  ⟨by decide, (statuses_agree (.step (.initial ⟨rfl, by decide, by decide⟩)
    ⟨.inr (by decide), by decide⟩ rfl)).1⟩

/-- Enabling a key while the channel is enabled reaches the cache only; disabling the other key then
disables the channel in the database.
-/
theorem twoKeysStatus_differ
    : let s := statusMachine.play twoKeysStatus [⟨"a", 3, true⟩, ⟨"a", 1, true⟩, ⟨"b", 3, true⟩]
      statusMachine.Reaches anyStep s ∧ s.reported = true ∧ s.cache.status = 1 ∧ s.row.status = 3
        ∧ s.cache.info.multiKeyStatusList 0 = none ∧ s.row.info.multiKeyStatusList 0 = some 3 :=
  ⟨Machine.reaches_play ⟨rfl, by decide, by decide⟩ (by decide), by decide⟩

end StatusState

end HelsterApi.Channels
