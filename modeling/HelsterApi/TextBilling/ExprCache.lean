import HelsterApi.TextBilling.Settlement
import HelsterApi.Transition.Machine
import Mathlib.Data.List.AList

/-! The cache of compiled billing expressions under concurrent goroutines. `UsedVars` compiles an
expression that is not cached, and looks it up once more; whatever empties the cache in between
makes it return no variables at all.
-/

namespace HelsterApi.TextBilling

open Option Transition List

structure Program where
  identifiers : List String

/-- The compiler of expressions, `none` where it rejects one, and the digest they are cached under.
-/
structure ExprLibrary where
  compile : String → Option Program
  exprHashString : String → String

def maxCacheSize : ℕ := 256

def parseExprVersion (exprStr : String) : ℤ × String :=
  if startsWith exprStr "v1:" then (1, String.ofList (exprStr.toList.drop 3))
  else (1, exprStr)

def extractUsedVars (prog : Program) : List String := prog.identifiers.dedup

def tokenVariables : List String :=
  ["p", "c", "len", "cr", "cc", "cc1h", "img", "img_o", "ai", "ao"]

structure CachedEntry where
  prog : Program
  usedVars : List String
  version : ℤ

abbrev ExprCache := AList fun _ : String => CachedEntry

def ExprLibrary.program (lib : ExprLibrary) (exprStr : String) : Option Program :=
  lib.compile (parseExprVersion exprStr).2

/-- The write of `compileFromCacheByHash`, which empties a cache that is full. -/
def ExprCache.put (cache : ExprCache) (hash exprStr : String) (prog : Program) : ExprCache :=
  let kept : ExprCache := if maxCacheSize ≤ cache.entries.length then ∅ else cache
  kept.insert hash
    { prog, usedVars := extractUsedVars prog, version := (parseExprVersion exprStr).1 }

/-- Where a call stands: `UsedVars` before its first lookup, `compileFromCacheByHash` before its
lookup and before it compiles and writes, and `UsedVars` before its last lookup. The flag tells
whether `UsedVars` compiles.
-/
inductive CacheCall where
  | usedVars (exprStr : String)
  | compile (exprStr : String) (forVars : Bool)
  | write (exprStr : String) (forVars : Bool)
  | reread (exprStr : String)

/-- The cache, the calls of the goroutines, and what `UsedVars` returned for which
expression, latest first.
-/
structure CacheState where
  cache : ExprCache := ∅
  calls : ℕ → Option CacheCall := fun _ => none
  returned : List (String × Option (List String)) := []

open CacheState

/-- A call begins, it goes on to its next critical section, or the cache is invalidated. -/
inductive CacheAction where
  | callUsedVars (goroutine : ℕ) (exprStr : String)
  | callCompile (goroutine : ℕ) (exprStr : String)
  | proceed (goroutine : ℕ)
  | invalidate

def CacheState.setCall (s : CacheState) (goroutine : ℕ) (call : Option CacheCall) : CacheState :=
  { s with calls := Function.update s.calls goroutine call }

def CacheState.withCache (s : CacheState) (cache : ExprCache) : CacheState :=
  { s with cache }

def CacheState.reply (s : CacheState) (goroutine : ℕ) (exprStr : String)
    (vars : Option (List String))
    : CacheState :=
  { s.setCall goroutine none with returned := (exprStr, vars) :: s.returned }

def CacheState.compiled (s : CacheState) (goroutine : ℕ) (exprStr : String) (forVars : Bool)
    : CacheState := s.setCall goroutine (if forVars then some (.reread exprStr) else none)

def CacheState.proceed (lib : ExprLibrary) (s : CacheState) (goroutine : ℕ)
    : CacheCall → CacheState
  | .usedVars exprStr =>
    match s.cache.lookup (lib.exprHashString exprStr) with
    | some entry => s.reply goroutine exprStr (some entry.usedVars)
    | none => s.setCall goroutine (some (.compile exprStr true))
  | .compile exprStr forVars =>
    match s.cache.lookup (lib.exprHashString exprStr) with
    | some _ => s.compiled goroutine exprStr forVars
    | none => s.setCall goroutine (some (.write exprStr forVars))
  | .write exprStr forVars =>
    match lib.program exprStr with
    | none => if forVars then s.reply goroutine exprStr none else s.setCall goroutine none
    | some prog =>
      (s.withCache (s.cache.put (lib.exprHashString exprStr) exprStr prog)).compiled
        goroutine exprStr forVars
  | .reread exprStr =>
    s.reply goroutine exprStr
      ((s.cache.lookup (lib.exprHashString exprStr)).map (·.usedVars))

def CacheState.next (lib : ExprLibrary) (s : CacheState) : CacheAction → Option CacheState
  | .callUsedVars goroutine exprStr =>
    if s.calls goroutine ≠ none then none
    else if exprStr = "" then some (s.reply goroutine exprStr none)
    else some (s.setCall goroutine (some (.usedVars exprStr)))
  | .callCompile goroutine exprStr =>
    if s.calls goroutine ≠ none then none
    else some (s.setCall goroutine (some (.compile exprStr false)))
  | .proceed goroutine => (s.calls goroutine).map (s.proceed lib goroutine)
  | .invalidate => some (s.withCache ∅)

def cacheMachine (lib : ExprLibrary) : Machine CacheState CacheAction where
  initial s := s = {}
  next := CacheState.next lib

def ExprLibrary.Valid (lib : ExprLibrary) (exprStr : String) : Prop :=
  exprStr ≠ "" ∧ (lib.program exprStr).isSome

def ExprLibrary.occurring (lib : ExprLibrary) (exprStr : String) : List String :=
  ((lib.program exprStr).map Program.identifiers).getD []

/-- The token variables among the returned names are those that occur in the expression. -/
def ExprLibrary.Right (lib : ExprLibrary) (exprStr : String) (vars : Option (List String)) : Prop :=
  ∀ name ∈ tokenVariables, name ∈ vars.getD [] ↔ name ∈ lib.occurring exprStr

def CacheState.RightlyReturned (lib : ExprLibrary) (s : CacheState) : Prop :=
  ∀ answer ∈ s.returned, lib.Valid answer.1 → lib.Right answer.1 answer.2

/-- The program cached under the digest of an expression, if there is one, has the token variables
of the expression.
-/
def CacheState.Serves (lib : ExprLibrary) (s : CacheState) (exprStr : String) : Prop :=
  ∀ entry, s.cache.lookup (lib.exprHashString exprStr) = some entry
    → ∀ name ∈ tokenVariables, name ∈ entry.prog.identifiers ↔ name ∈ lib.occurring exprStr

/-- No program of other variables is cached under the digest of a looked up expression, and at the
last lookup one is cached, unless the expression has no token variables.
-/
def StillCached (lib : ExprLibrary) (s : CacheState) : CacheAction → Prop
  | .proceed goroutine =>
    match s.calls goroutine with
    | some (.usedVars exprStr) => lib.Valid exprStr → s.Serves lib exprStr
    | some (.reread exprStr) =>
      lib.Valid exprStr → s.Serves lib exprStr
        ∧ (s.cache.lookup (lib.exprHashString exprStr) = none
          → ∀ name ∈ tokenVariables, name ∉ lib.occurring exprStr)
    | _ => True
  | _ => True

def CacheState.Extracted (s : CacheState) : Prop :=
  ∀ hash entry, s.cache.lookup hash = some entry → entry.usedVars = extractUsedVars entry.prog

section

variable {lib : ExprLibrary} {s s' : CacheState} {goroutine : ℕ} {exprStr : String}

theorem CacheState.Extracted.put (extracted : s.Extracted) (hash exprStr prog)
    : (s.withCache (s.cache.put hash exprStr prog)).Extracted := by
  intro other entry found
  change (s.cache.put hash exprStr prog).lookup other = some entry at found
  unfold ExprCache.put at found
  by_cases same : other = hash
  · subst same
    rw [AList.lookup_insert] at found
    cases found
    rfl
  · rw [AList.lookup_insert_ne same] at found
    split at found
    · cases found
    · exact extracted other entry found

theorem CacheState.Extracted.next {action} (extracted : s.Extracted)
    (moved : s.next lib action = some s')
    : s'.Extracted := by
  cases action with try simp only [CacheState.next] at moved
  | callUsedVars goroutine exprStr =>
    split at moved
    · cases moved
    · split at moved <;> cases moved <;> exact extracted
  | callCompile goroutine exprStr =>
    split at moved
    · cases moved
    cases moved
    exact extracted
  | proceed goroutine =>
    obtain ⟨call, _, rfl⟩ := map_eq_some_iff.mp moved
    cases call with try dsimp only [CacheState.proceed]
    | usedVars | compile => split <;> exact extracted
    | write exprStr forVars =>
      split
      · split <;> exact extracted
      · exact extracted.put _ _ _
    | reread exprStr => exact extracted
  | invalidate =>
    cases moved
    intro hash entry found
    cases found

theorem rightlyReturned_reply (right : s.RightlyReturned lib) (goroutine)
    (exprStr) (vars : Option (List String))
    : (s.reply goroutine exprStr vars).RightlyReturned lib
      ↔ (lib.Valid exprStr → lib.Right exprStr vars) := by
  constructor
  · intro all
    exact all (exprStr, vars) mem_cons_self
  · intro new answer member
    rcases mem_cons.mp member with rfl | earlier
    · exact new
    · exact right answer earlier

theorem right_usedVars_iff (extracted : s.Extracted) {entry}
    (found : s.cache.lookup (lib.exprHashString exprStr) = some entry)
    : lib.Right exprStr (some entry.usedVars) ↔ s.Serves lib exprStr := by
  have own := extracted _ _ found
  constructor
  · intro right other same name token
    rw [found] at same
    cases same
    rw [← right name token, own]
    simp [extractUsedVars]
  · intro serves name token
    rw [← serves entry found name token, own]
    simp [extractUsedVars]

theorem right_none_iff
    : lib.Right exprStr none ↔ ∀ name ∈ tokenVariables, name ∉ lib.occurring exprStr := by
  constructor
  · intro right name token occurs
    exact absurd ((right name token).mpr occurs) not_mem_nil
  · intro nothing name token
    exact ⟨fun listed => absurd listed not_mem_nil,
      fun occurs => absurd occurs (nothing name token)⟩

theorem rightlyReturned_proceed_iff (extracted : s.Extracted) (right : s.RightlyReturned lib)
    {call} (calls : s.calls goroutine = some call)
    : (s.proceed lib goroutine call).RightlyReturned lib
      ↔ StillCached lib s (.proceed goroutine) := by
  dsimp only [StillCached]
  rw [calls]
  cases call with
  | usedVars exprStr =>
    dsimp only [proceed]
    split
    next entry found => rw [rightlyReturned_reply right, right_usedVars_iff extracted found]
    next missing =>
      refine ⟨fun _ _ entry found => ?_, fun _ => right⟩
      simp [missing] at found
  | compile exprStr forVars =>
    dsimp only [proceed]
    split <;> exact ⟨fun _ => trivial, fun _ => right⟩
  | write exprStr forVars =>
    dsimp only [proceed]
    split
    next rejected =>
      split
      · rw [rightlyReturned_reply right]
        refine ⟨fun _ => trivial, fun _ valid => ?_⟩
        have compiles := valid.2
        simp [rejected] at compiles
      · exact ⟨fun _ => trivial, fun _ => right⟩
    · exact ⟨fun _ => trivial, fun _ => right⟩
  | reread exprStr =>
    unfold proceed
    rw [rightlyReturned_reply right]
    cases found : s.cache.lookup (lib.exprHashString exprStr) with
    | none =>
      rw [map_none, right_none_iff]
      refine forall_congr' fun _ => ⟨fun nothing => ⟨?_, fun _ => nothing⟩,
        fun held => held.2 found⟩
      intro entry same
      simp [found] at same
    | some entry =>
      rw [map_some, right_usedVars_iff extracted found]
      refine forall_congr' fun _ => ⟨fun serves => ⟨serves, fun missing => ?_⟩,
        fun held => held.1⟩
      simp [found] at missing

theorem tieredTokenParams_of_right {vars}
    (right : lib.Right exprStr vars) (usage isClaudeUsageSemantic)
    : buildTieredTokenParams usage isClaudeUsageSemantic (fun name => name ∈ vars.getD [])
      = buildTieredTokenParams usage isClaudeUsageSemantic
          (fun name => name ∈ lib.occurring exprStr) := by
  have same : ∀ name ∈ tokenVariables,
      decide (name ∈ vars.getD []) = decide (name ∈ lib.occurring exprStr) :=
    fun name token => decide_eq_decide.mpr (right name token)
  unfold buildTieredTokenParams
  simp only [same "cr" (by decide), same "cc" (by decide), same "cc1h" (by decide),
    same "img" (by decide), same "ai" (by decide), same "img_o" (by decide), same "ao" (by decide)]

/-- Over every interleaving `UsedVars` returns the token variables of every valid expression
exactly if each of its lookups meets the condition; and then the counts of its categories
are taken off as the expression prices them.
-/
theorem used_vars_right_iff (lib : ExprLibrary)
    : (cacheMachine lib).KeepsExactly (StillCached lib) (CacheState.RightlyReturned lib)
      ∧ ∀ exprStr vars, lib.Right exprStr vars
        → ∀ usage isClaudeUsageSemantic,
          buildTieredTokenParams usage isClaudeUsageSemantic
              (fun name => name ∈ vars.getD [])
            = buildTieredTokenParams usage isClaudeUsageSemantic
              (fun name => name ∈ lib.occurring exprStr) := by
  refine ⟨Machine.keepsExactly_of_step ?_ ?_,
    fun exprStr vars right => tieredTokenParams_of_right right⟩
  · rintro s rfl answer member
    cases member
  · intro s action s' reached right moved
    cases action with try simp only [cacheMachine, CacheState.next] at moved
    | callUsedVars goroutine exprStr =>
      split at moved
      · cases moved
      split at moved
      next empty =>
        cases moved
        rw [rightlyReturned_reply right]
        exact ⟨fun _ => trivial, fun _ valid => absurd empty valid.1⟩
      · cases moved
        exact ⟨fun _ => trivial, fun _ => right⟩
    | callCompile goroutine exprStr =>
      split at moved
      · cases moved
      cases moved
      exact ⟨fun _ => trivial, fun _ => right⟩
    | proceed goroutine =>
      obtain ⟨call, calls, rfl⟩ := map_eq_some_iff.mp moved
      refine rightlyReturned_proceed_iff ?_ right calls
      refine reached.invariant CacheState.Extracted ?_ fun _ extracted _ moved =>
        extracted.next moved
      rintro s rfl hash entry found
      cases found
    | invalidate =>
      cases moved
      exact ⟨fun _ => trivial, fun _ => right⟩

end

def plainLibrary : ExprLibrary where
  compile := fun _ => some ⟨["tier", "p", "cr"]⟩
  exprHashString := id

def emptiedBetween : List CacheAction :=
  [.callUsedVars 1 "p + cr", .proceed 1, .proceed 1, .proceed 1, .invalidate, .proceed 1]

/-- `UsedVars` can return nothing for an expression over the cached tokens. -/
theorem used_vars_lost
    : (cacheMachine plainLibrary).Plays anyStep {} emptiedBetween
      ∧ ((cacheMachine plainLibrary).play {} emptiedBetween).returned = [("p + cr", none)]
      ∧ plainLibrary.Valid "p + cr"
      ∧ "cr" ∈ plainLibrary.occurring "p + cr"
      ∧ ¬plainLibrary.Right "p + cr" none := by
  have occurs : "cr" ∈ plainLibrary.occurring "p + cr" := by decide
  refine ⟨by decide, by decide, ⟨by decide, rfl⟩, occurs, fun right => ?_⟩
  exact right_none_iff.mp right "cr" (by decide) occurs

end HelsterApi.TextBilling
