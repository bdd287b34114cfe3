import HelsterApi.Options.StatusCodes
import Mathlib.Data.List.Infix

/-! Restoring options from a backup. The options are committed before they are applied one by one,
and a failure is rolled back by restoring those stored before, which removes none.
-/

namespace HelsterApi.Options

abbrev OptionMap := String → Option String

/-- The stored options and those in memory. -/
structure OptionState where
  (stored optionMap : OptionMap)

def overlay (values options : OptionMap) : OptionMap :=
  fun key => (values key).or (options key)

/-- The options that `updateOptionMap` decodes with an error, beside the status codes. -/
def decodedOptions : List String :=
  ["Chats", "AutoGroups", "TopupGroupRatio", "ModelRequestRateLimitGroup",
    "ModelRequestRateLimitExemptUserIDs", "ModelRatio", "GroupRatio", "GroupGroupRatio",
    "UserUsableGroups", "CompletionRatio", "ModelPrice", "CacheRatio", "CreateCacheRatio",
    "ImageRatio", "AudioRatio", "AudioCompletionRatio", "PayMethods"]

/-- The error of `updateOptionMap` for a value, which it has set by then. `decode` gives the errors
of the decoders of `decodedOptions`.
-/
def updateOptionMap (decode : String → String → Option String) (key value : String)
    : Option String :=
  if key = "AutomaticDisableStatusCodes" ∨ key = "AutomaticRetryStatusCodes" then
    match StatusCodes.parseHTTPStatusCodeRanges value with
    | .error err => some err
    | .ok _ => none
  else if key ∈ decodedOptions then decode key value
  else none

variable (lower : Text.LowerCase) (parse : String → String → Option String) (values : OptionMap)

/-- The keys that `updateOptionMap` is given until it refuses a value. -/
def applied : List String → List String
  | [] => []
  | key :: rest => key :: if (values key).bind (parse key) = none then applied rest else []

/-- `keys` are those of the values in the order they are walked, `fault` is the error of the
transaction.
-/
def updateOptionsBulk (fault : Option String) (keys : List String) (s : OptionState)
    : OptionState × Option String :=
  if keys = [] then (s, none)
  else
    match fault with
    | some err => (s, some err)
    | none =>
      let reached key := if key ∈ applied parse values keys then values key else none
      (⟨overlay values s.stored, overlay reached s.optionMap⟩,
        keys.findSome? fun key => (values key).bind (parse key))

def isSafeBackupOption (key : String) : Bool :=
  let name := (Text.trimSpace key).map lower.toLower
  name ≠ []
  && ["key", "secret", "token", "password", "private", "cert", "credential", "clientid",
      "access"].all fun word => ¬word.toList <:+: name

def createBackup (stored : OptionMap) : OptionMap :=
  fun key => if isSafeBackupOption lower key then stored key else none

/-- `fault` is the error of reading the file. -/
def decodeBackup (fault : Option String) (keys : List String) : Option String :=
  fault.or ((keys.find? fun key => ¬isSafeBackupOption lower key).map fun key =>
    s!"backup contains forbidden option: {key}")

inductive RestoreError where
  | unread (err : String)
  | unsaved (err : String)
  | rolledBack (err : String)
  | rollbackFailed (err rollbackErr : String)

def RestoreError.message : RestoreError → String
  | .unread err => err
  | .unsaved err => s!"current state backup failed: {err}"
  | .rolledBack err => s!"restore failed and was rolled back: {err}"
  | .rollbackFailed err rollbackErr => s!"restore failed: {err}; rollback failed: {rollbackErr}"

/-- The errors of reading the backup, of saving the current state and reading it again, and of the
two transactions.
-/
structure Faults where
  (read create reread commit recommit : Option String := none)

/-- `keys` and `currentKeys` are those of the backup and of the current state. -/
def restoreBackup (faults : Faults) (keys currentKeys : List String) (s : OptionState)
    : OptionState × Option RestoreError :=
  match decodeBackup lower faults.read keys, faults.create with
  | some err, _ => (s, some (.unread err))
  | none, some err => (s, some (.unsaved err))
  | none, none =>
    let current := createBackup lower s.stored
    match updateOptionsBulk parse values faults.commit keys s with
    | (s, none) => (s, none)
    | (s, some err) =>
      match decodeBackup lower faults.reread currentKeys with
      | some rollbackErr => (s, some (.rollbackFailed err rollbackErr))
      | none =>
        match updateOptionsBulk parse current faults.recommit currentKeys s with
        | (s, some rollbackErr) => (s, some (.rollbackFailed err rollbackErr))
        | (s, none) => (s, some (.rolledBack err))

/-- The keys are those of the options. -/
def Lists (keys : List String) (options : OptionMap) : Prop :=
  ∀ key, key ∈ keys ↔ options key ≠ none

/-- What lets a failed restore leave every option as it was. Once the backup is committed, its
options must be stored already if they are stored again, and have their value otherwise. In memory,
an option must be as it is stored if it is set again, and otherwise have the value it was set to.
-/
structure Undoable (faults : Faults) (keys currentKeys : List String) (s : OptionState)
    : Prop where
  stored : ∀ key, faults.commit = none → values key ≠ none
    → if faults.reread = none ∧ faults.recommit = none then s.stored key ≠ none
      else s.stored key = values key
  optionMap : ∀ key,
    if faults.reread = none ∧ faults.recommit = none
        ∧ key ∈ applied parse (createBackup lower s.stored) currentKeys then
      s.optionMap key = s.stored key
    else
      faults.commit = none → key ∈ applied parse values keys → s.optionMap key = values key

variable {lower parse values} {keys currentKeys : List String} {s s' : OptionState} {key : String}
  {faults : Faults} {fault : Option String}

theorem applied_eq (accepted : ∀ key ∈ keys, (values key).bind (parse key) = none)
    : applied parse values keys = keys := by
  induction keys with
  | nil => rfl
  | cons key rest ih =>
    rw [List.forall_mem_cons] at accepted
    rw [applied, if_pos accepted.1, ih accepted.2]

/-- An update that returns no error has set all of the values. -/
theorem updateOptionsBulk_eq (lists : Lists keys values)
    (updated : updateOptionsBulk parse values fault keys s = (s', none))
    : s' = ⟨overlay values s.stored, overlay values s.optionMap⟩ := by
  have only : (fun key => if key ∈ keys then values key else none) = values := by
    funext key
    split_ifs with listed
    · rfl
    · exact (not_not.mp (mt (lists key).mpr listed)).symm
  unfold updateOptionsBulk at updated
  split_ifs at updated with empty
  · cases updated
    rw [← only, empty]
    rfl
  · cases fault with
    | some err => cases updated
    | none =>
      rw [Prod.mk.injEq, List.findSome?_eq_none_iff] at updated
      rw [← updated.1, applied_eq updated.2, only]

theorem updateOptionsBulk_other {err} (absent : values key = none)
    (updated : updateOptionsBulk parse values fault keys s = (s', err))
    : s'.stored key = s.stored key ∧ s'.optionMap key = s.optionMap key := by
  unfold updateOptionsBulk at updated
  split at updated <;> [skip; split at updated] <;> cases updated <;> simp [overlay, absent]

theorem mem_of_applied (walked : key ∈ applied parse values keys) : key ∈ keys := by
  induction keys with
  | nil => exact walked
  | cons first rest ih =>
    rw [applied] at walked
    rcases List.mem_cons.mp walked with rfl | later
    · exact List.mem_cons_self
    · split at later
      · exact List.mem_cons_of_mem _ (ih later)
      · cases later

/-- What an update makes of an option: a committed one stores all of the values and sets those in
memory that it reaches.
-/
theorem updateOptionsBulk_option (lists : Lists keys values) (key)
    : let after := (updateOptionsBulk parse values fault keys s).1
      after.stored key = (if fault = none then (values key).or (s.stored key) else s.stored key)
      ∧ after.optionMap key
        = if fault = none ∧ key ∈ applied parse values keys then values key
          else s.optionMap key := by
  have listed := lists key
  by_cases empty : keys = []
  · subst empty
    have absent : values key = none := not_not.mp (mt listed.mpr List.not_mem_nil)
    simp [updateOptionsBulk, absent, applied]
  · cases fault with
    | some err => simp [updateOptionsBulk, empty]
    | none =>
      by_cases reached : key ∈ applied parse values keys
      · obtain ⟨value, found⟩ := Option.ne_none_iff_exists'.mp (listed.mp (mem_of_applied reached))
        simp [updateOptionsBulk, empty, overlay, reached, found]
      · simp [updateOptionsBulk, empty, overlay, reached]

theorem decodeBackup_eq_none_iff
    : decodeBackup lower fault keys = none
      ↔ fault = none ∧ ∀ key ∈ keys, isSafeBackupOption lower key := by
  simp [decodeBackup]

/-- What a restore that fails after its first update makes of an option. -/
theorem failed_option {partly err result}
    (listsCurrent : Lists currentKeys (createBackup lower s.stored))
    (updated : updateOptionsBulk parse values faults.commit keys s = (partly, some err))
    (decoded : decodeBackup lower faults.read keys = none) (created : faults.create = none)
    (restored : restoreBackup lower parse values faults keys currentKeys s = (s', result)) (key)
    : let saved := createBackup lower s.stored
      let again := faults.reread = none ∧ faults.recommit = none
      result ≠ none
      ∧ s'.stored key = (if again then (saved key).or (partly.stored key) else partly.stored key)
      ∧ s'.optionMap key
        = if again ∧ key ∈ applied parse saved currentKeys then saved key
          else partly.optionMap key := by
  have safe : ∀ key ∈ currentKeys, isSafeBackupOption lower key = true := fun key listed =>
    (ite_ne_right_iff.mp ((listsCurrent key).mp listed)).1
  have rolledBack := @updateOptionsBulk_option parse _ _ partly faults.recommit listsCurrent key
  simp only [restoreBackup, decoded, created, updated] at restored
  cases reread : faults.reread with
  | some err =>
    simp only [decodeBackup, reread, Option.some_or] at restored
    cases restored
    simp
  | none =>
    rw [reread, decodeBackup_eq_none_iff.mpr ⟨rfl, safe⟩] at restored
    dsimp only at restored
    split at restored
    all_goals
      rename_i update
      cases restored
      rw [update] at rolledBack
      simpa using rolledBack

/-- A successful restore writes the backup, and a failed one changes nothing exactly if it fails
before it writes anything or can be undone.
-/
theorem restored_or_unchanged {decode result} (lists : Lists keys values)
    (listsCurrent : Lists currentKeys (createBackup lower s.stored))
    (restored : restoreBackup lower (updateOptionMap decode) values faults keys currentKeys s
      = (s', result))
    : (result = none → ∀ key value, values key = some value
        → s'.stored key = some value ∧ s'.optionMap key = some value)
      ∧ (result ≠ none → (s' = s ↔ decodeBackup lower faults.read keys ≠ none
        ∨ faults.create ≠ none
        ∨ Undoable lower (updateOptionMap decode) values faults keys currentKeys s)) := by
  generalize updateOptionMap decode = parse at *
  by_cases early : decodeBackup lower faults.read keys ≠ none ∨ faults.create ≠ none
  · have unwritten : s' = s ∧ result ≠ none := by
      unfold restoreBackup at restored
      split at restored
      · cases restored
        simp
      · cases restored
        simp
      · rename_i decoded created
        exact absurd early (by simp [decoded, created])
    exact ⟨fun none => absurd none unwritten.2,
      fun _ => iff_of_true unwritten.1 (or_assoc.mp (Or.inl early))⟩
  obtain ⟨decoded, created⟩ := not_or.mp early
  rw [not_not] at decoded created
  cases updated : updateOptionsBulk parse values faults.commit keys s with
  | mk partly failure =>
  cases failure with
  | none =>
    simp only [restoreBackup, decoded, created, updated] at restored
    cases restored
    refine ⟨fun _ key value found => ?_, fun failed => absurd rfl failed⟩
    rw [updateOptionsBulk_eq lists updated]
    simp [overlay, found]
  | some err =>
    have options := failed_option listsCurrent updated decoded created restored
    have first := @updateOptionsBulk_option parse _ _ s faults.commit lists
    rw [updated] at first
    refine ⟨fun none => absurd none (options "").1, fun _ => ?_⟩
    have stored key := by
      have safe (found : values key ≠ none) :=
        (decodeBackup_eq_none_iff.mp decoded).2 key ((lists key).mpr found)
      show s'.stored key = s.stored key ↔ (faults.commit = none → values key ≠ none
        → if faults.reread = none ∧ faults.recommit = none then s.stored key ≠ none
          else s.stored key = values key)
      rw [(options key).2.1, (first key).1]
      unfold createBackup
      cases s.stored key <;> cases found : values key <;> grind
    have optionMap key := by
      show s'.optionMap key = s.optionMap key ↔
        if faults.reread = none ∧ faults.recommit = none
            ∧ key ∈ applied parse (createBackup lower s.stored) currentKeys then
          s.optionMap key = s.stored key
        else faults.commit = none → key ∈ applied parse values keys → s.optionMap key = values key
      rw [(options key).2.2, (first key).2]
      have safe (reached : key ∈ applied parse (createBackup lower s.stored) currentKeys) :
          createBackup lower s.stored key = s.stored key := by
        have present := (listsCurrent key).mp (mem_of_applied reached)
        grind [createBackup]
      grind
    rw [← or_assoc, or_iff_right early]
    refine ⟨?_, fun undoable => ?_⟩
    · rintro rfl
      exact ⟨fun key => (stored key).mp rfl, fun key => (optionMap key).mp rfl⟩
    · have stored := funext fun key => (stored key).mpr (undoable.stored key)
      have optionMap := funext fun key => (optionMap key).mpr (undoable.optionMap key)
      cases s'
      cases s
      exact congr (congrArg OptionState.mk stored) optionMap

/-- Whatever fails, a restore leaves the options alone whose names mark them as secret. -/
theorem restore_spares_secrets {result} (lists : Lists keys values)
    (restored : restoreBackup lower parse values faults keys currentKeys s = (s', result))
    (secret : isSafeBackupOption lower key = false)
    : s'.stored key = s.stored key ∧ s'.optionMap key = s.optionMap key := by
  have unsaved : createBackup lower s.stored key = none := by simp [createBackup, secret]
  unfold restoreBackup at restored
  split at restored
  · cases restored
    exact ⟨rfl, rfl⟩
  · cases restored
    exact ⟨rfl, rfl⟩
  rename_i decoded _
  have absent : values key = none := by
    by_contra found
    simpa [secret] using (decodeBackup_eq_none_iff.mp decoded).2 key ((lists key).mpr found)
  dsimp only at restored
  split at restored
  next updated =>
    cases restored
    exact updateOptionsBulk_other absent updated
  rename_i partly err updated
  obtain ⟨stored, inMemory⟩ := updateOptionsBulk_other absent updated
  rw [← stored, ← inMemory]
  split at restored
  · cases restored
    exact ⟨rfl, rfl⟩
  split at restored <;> cases restored <;> exact updateOptionsBulk_other unsaved ‹_›

/-- A backup can be restored in any state: what it holds is stored and in memory again if it is
still accepted, and everything else is kept.
-/
theorem restore_createBackup {earlier} (lists : Lists keys (createBackup lower earlier))
    (accepted : ∀ key ∈ keys, (createBackup lower earlier key).bind (parse key) = none)
    : restoreBackup lower parse (createBackup lower earlier) {} keys currentKeys s
      = (⟨overlay (createBackup lower earlier) s.stored,
          overlay (createBackup lower earlier) s.optionMap⟩, none) := by
  have decoded : decodeBackup lower none keys = none :=
    decodeBackup_eq_none_iff.mpr ⟨rfl, fun key listed =>
      (ite_ne_right_iff.mp ((lists key).mp listed)).1⟩
  have updated : (updateOptionsBulk parse (createBackup lower earlier) none keys s).2 = none := by
    unfold updateOptionsBulk
    split_ifs
    · rfl
    · exact List.findSome?_eq_none_iff.mpr accepted
  rw [← updateOptionsBulk_eq lists (Prod.ext rfl updated), restoreBackup, decoded]
  dsimp only
  rw [← Prod.eta (updateOptionsBulk _ _ _ _ _), updated]

def notice : OptionMap :=
  fun key => if key = "Notice" then some "hello" else none

/-- Status codes to retry, restored where nothing is stored. -/
def restoredCodes (codes : String) : OptionState × Option RestoreError :=
  restoreBackup .asciiOnly (updateOptionMap fun _ _ => none)
    (fun key => if key = "AutomaticRetryStatusCodes" then some codes else none) {}
    ["AutomaticRetryStatusCodes"] [] ⟨fun _ => none, fun _ => none⟩

/-- Codes that are ranges are restored, others fail and change the options. -/
theorem restoredCodes_written_or_changed
    : (restoredCodes "500-503").1.stored "AutomaticRetryStatusCodes" = some "500-503"
      ∧ (restoredCodes "abc").1 ≠ ⟨fun _ => none, fun _ => none⟩ := by
  have written : (restoredCodes "500-503").2 = none := by
    decide +kernel
  have failed : (restoredCodes "abc").2 ≠ none := by
    decide +kernel
  have restored : restoredCodes "abc" = ((restoredCodes "abc").1, (restoredCodes "abc").2) := rfl
  constructor
  · refine ((restored_or_unchanged ?_ ?_ (Prod.ext rfl written)).1 rfl _ _ (if_pos rfl)).1
    · simp [Lists]
    · simp [Lists, createBackup]
  · refine mt ((restored_or_unchanged ?_ ?_ restored).2 failed).mp ?_
    · simp [Lists]
    · simp [Lists, createBackup]
    · rintro (unread | unsaved | undoable)
      · exact absurd unread (by decide +kernel)
      · exact unsaved rfl
      · exact undoable.stored "AutomaticRetryStatusCodes" rfl nofun rfl

theorem restoredCodes_spares_secrets : (restoredCodes "abc").1.stored "SMTPToken" = none :=
  (restore_spares_secrets (by simp [Lists]) (rfl : restoredCodes "abc" = (_, _))
    (by decide +kernel)).1

theorem createBackup_notice_restored
    : (restoreBackup .asciiOnly (fun _ _ => none) (createBackup .asciiOnly notice) {} ["Notice"] []
        ⟨notice, fun _ => none⟩).1.optionMap "Notice" = some "hello" := by
  have lists : Lists ["Notice"] (createBackup .asciiOnly notice) := by
    simpa [Lists, createBackup, notice] using by decide +kernel
  rw [restore_createBackup lists (by simp)]
  rfl

/-- A failed restore leaves what was not stored before. -/
theorem restoredCodes_stays
    : (restoredCodes "abc").2.map RestoreError.message
        = some "restore failed and was rolled back: invalid http status code rules: abc"
      ∧ (restoredCodes "abc").1.stored "AutomaticRetryStatusCodes" = some "abc" := by
  decide +kernel

end HelsterApi.Options
