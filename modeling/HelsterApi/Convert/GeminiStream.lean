import Mathlib.Data.List.Induction

/-! Chunks of an OpenAI stream as events of the Gemini protocol. The conversion keeps nothing
between chunks, while a tool call may come in fragments.
-/

namespace HelsterApi.Convert

open List

/-- A tool call of a chunk. The fragments of one call share its index. -/
structure ToolCall where
  index : Option ℕ := none
  (id name arguments : String := "")
  deriving DecidableEq

def ToolCall.join (call fragment : ToolCall) : ToolCall :=
  ⟨call.index, call.id ++ fragment.id, call.name ++ fragment.name,
    call.arguments ++ fragment.arguments⟩

/-- What a fragment belongs to: its choice and the index of its call. -/
def fragmentKey (fragment : ℕ × ToolCall) : ℕ × Option ℕ := (fragment.1, fragment.2.index)

/-- How a client puts the tool calls of a stream together, each with its choice. -/
def accumulate (calls : List (ℕ × ToolCall)) (fragment : ℕ × ToolCall) : List (ℕ × ToolCall) :=
  if fragmentKey fragment ∈ calls.map fragmentKey then
    calls.map fun call =>
      if fragmentKey call = fragmentKey fragment then (call.1, call.2.join fragment.2) else call
  else calls ++ [fragment]

theorem keys_accumulate (calls fragment)
    : (accumulate calls fragment).map fragmentKey
      = if fragmentKey fragment ∈ calls.map fragmentKey then calls.map fragmentKey
        else calls.map fragmentKey ++ [fragmentKey fragment] := by
  unfold accumulate
  split
  · rw [map_map]
    refine map_congr_left fun call _ => ?_
    dsimp only [Function.comp]
    split <;> rfl
  · rw [map_append]
    rfl

theorem mem_keys_foldl {key} (fragments : List (ℕ × ToolCall))
    : key ∈ (fragments.foldl accumulate []).map fragmentKey
      ↔ key ∈ fragments.map fragmentKey := by
  induction fragments using reverseRecOn with
  | nil => rfl
  | append_singleton fragments last ih =>
    rw [foldl_append, foldl_cons, foldl_nil, keys_accumulate, map_append, mem_append, ← ih]
    split
    next known => exact ⟨.inl, fun either => either.elim id fun last =>
      mem_singleton.mp last ▸ known⟩
    · exact mem_append

/-- There are as many calls as fragments exactly if each call comes in one piece, by induction from
the last fragment.
-/
theorem length_accumulated (fragments : List (ℕ × ToolCall))
    : (fragments.foldl accumulate []).length ≤ fragments.length
      ∧ ((fragments.foldl accumulate []).length = fragments.length
        ↔ (fragments.map fragmentKey).Nodup) := by
  induction fragments using reverseRecOn with
  | nil => exact ⟨Nat.le_refl _, by simp⟩
  | append_singleton fragments last ih =>
    have known := @mem_keys_foldl (fragmentKey last) fragments
    have length := congrArg List.length (keys_accumulate (fragments.foldl accumulate []) last)
    rw [length_map] at length
    simp only [foldl_append, foldl_cons, foldl_nil, map_append, nodup_append, length_append,
      ← ih.2, length]
    split
    next old =>
      rw [length_map]
      refine ⟨by simp; omega, iff_of_false (by simp; omega) fun distinct => ?_⟩
      exact distinct.2.2 _ (known.mp old) _ (by simp) rfl
    next fresh =>
      rw [known] at fresh
      simp [ih.1]
      grind

/-- Calls that come in one piece, by induction from the last. -/
theorem accumulate_distinct {calls : List (ℕ × ToolCall)}
    (distinct : (calls.map fragmentKey).Nodup)
    : calls.foldl accumulate [] = calls := by
  induction calls using reverseRecOn with
  | nil => rfl
  | append_singleton calls last ih =>
    rw [map_append, nodup_append] at distinct
    rw [foldl_append, ih distinct.1]
    exact if_neg fun old => distinct.2.2 _ old _ mem_cons_self rfl

structure Choice where
  index : ℕ := 0
  content : String := ""
  toolCalls : Option (List ToolCall) := none
  finishReason : Option String := none

inductive GeminiPart (Args : Type) where
  | text (text : String)
  | functionCall (functionName : String) (arguments : Args)
  deriving DecidableEq

structure GeminiChatCandidate (Args : Type) where
  index : ℕ
  finishReason : Option String
  parts : List (GeminiPart Args)

open GeminiPart

variable {Args : Type}

section

variable (unmarshal : String → Option Args) (wrapped : String → Args) (empty : Args)

/-- Arguments that are no object are `wrapped` in one. -/
def callArgs (arguments : String) : Args :=
  if arguments ≠ "" then (unmarshal arguments).getD (wrapped arguments) else empty

def Choice.parts (choice : Choice) : List (GeminiPart Args) :=
  match choice.toolCalls with
  | some toolCalls => toolCalls.map fun toolCall =>
      .functionCall toolCall.name (callArgs unmarshal wrapped empty toolCall.arguments)
  | none => if choice.content ≠ "" then [.text choice.content] else []

def finishReason : String → String
  | "length" => "MAX_TOKENS"
  | "content_filter" => "SAFETY"
  | _ => "STOP"

/-- The candidates of a chunk. Its usage metadata is left out. -/
def streamResponseOpenAI2Gemini (choices : List Choice)
    : Option (List (GeminiChatCandidate Args)) :=
  let hasContent := choices.any fun choice =>
    choice.content ≠ "" || choice.toolCalls.getD [] ≠ []
  let hasFinishReason := choices.any (·.finishReason.isSome)
  if !hasContent && !hasFinishReason then none
  else some (choices.map fun choice =>
    ⟨choice.index, choice.finishReason.map finishReason,
      choice.parts unmarshal wrapped empty⟩)

/-- The parts that are sent for a stream, each with its candidate; nothing is sent for a chunk
without candidates.
-/
def streamedParts (chunks : List (List Choice)) : List (ℕ × GeminiPart Args) :=
  chunks.flatMap fun choices =>
    ((streamResponseOpenAI2Gemini unmarshal wrapped empty choices).getD []).flatMap
      fun candidate => candidate.parts.map (candidate.index, ·)

theorem streamedParts_eq (chunks : List (List Choice))
    : streamedParts unmarshal wrapped empty chunks
      = chunks.flatten.flatMap fun choice =>
        (choice.parts unmarshal wrapped empty).map (choice.index, ·) := by
  rw [← flatMap_id, flatMap_assoc, streamedParts]
  congr 1
  funext choices
  unfold streamResponseOpenAI2Gemini
  dsimp only
  split
  next skipped =>
    refine (flatMap_eq_nil_iff.mpr fun choice member => ?_).symm
    simp only [Bool.and_eq_true, Bool.not_eq_true', any_eq_false] at skipped
    have blank := skipped.1 choice member
    unfold Choice.parts
    cases called : choice.toolCalls with simp_all
  · exact flatMap_map ..

/-- The arguments that a complete text stands for. -/
def parsedArgs (arguments : String) : Option Args :=
  if arguments = "" then some empty else unmarshal arguments

end

def call? : ℕ × GeminiPart Args → Option (ℕ × String × Args)
  | (_, .text _) => none
  | (choice, .functionCall name arguments) => some (choice, name, arguments)

def text? : ℕ × GeminiPart Args → Option String
  | (_, .text content) => some content
  | (_, .functionCall ..) => none

/-- The fragments of the tool calls of a stream, each with its choice. -/
def fragmentsOf (chunks : List (List Choice)) : List (ℕ × ToolCall) :=
  chunks.flatten.flatMap fun choice => (choice.toolCalls.getD []).map (choice.index, ·)

section

variable {unmarshal : String → Option Args} {wrapped : String → Args} {empty : Args}
  {chunks : List (List Choice)}

/-- Every fragment is sent as a call of its own. -/
theorem streamed_calls
    : (streamedParts unmarshal wrapped empty chunks).filterMap call?
      = (fragmentsOf chunks).map fun fragment =>
        (fragment.1, fragment.2.name, callArgs unmarshal wrapped empty fragment.2.arguments) := by
  rw [streamedParts_eq, filterMap_flatMap, fragmentsOf, map_flatMap]
  congr 1
  funext choice
  unfold Choice.parts
  cases choice.toolCalls with
  | none =>
    dsimp only
    split <;> rfl
  | some toolCalls =>
    rw [Option.getD_some, map_map, map_map, filterMap_map, ← filterMap_eq_map]
    rfl

/-- The text of a choice is sent unless it has a list of tool calls. -/
theorem streamed_text
    : (String.join ((streamedParts unmarshal wrapped empty chunks).filterMap text?)).toList
      = chunks.flatten.flatMap fun choice =>
        if choice.toolCalls.isSome then [] else choice.content.toList := by
  rw [String.toList_join, streamedParts_eq, filterMap_flatMap, flatMap_assoc]
  congr 1
  funext choice
  unfold Choice.parts
  cases choice.toolCalls with
  | none =>
    dsimp only
    split <;> simp_all [text?]
  | some toolCalls =>
    dsimp only
    have none : (toolCalls.map fun toolCall => (choice.index, (functionCall toolCall.name
        (callArgs unmarshal wrapped empty toolCall.arguments)))).filterMap text? = [] :=
      filterMap_eq_nil_iff.mpr (forall_mem_map.mpr fun _ _ => rfl)
    rw [map_map]
    exact congrArg (flatMap String.toList) none

/-- Lists of which some parts are left out are the same only if those are empty: they would be
missing in the length.
-/
theorem flatMap_eq_flatMap_iff {α β : Type} {f g : α → List β} {l : List α}
    (part : ∀ a ∈ l, f a = g a ∨ f a = [])
    : l.flatMap f = l.flatMap g ↔ ∀ a ∈ l, f a = g a := by
  refine ⟨fun same => ?_, fun same => ?_⟩
  case refine_2 => rw [flatMap_def, flatMap_def, map_congr_left same]
  have shorter {l : List α} (part : ∀ a ∈ l, f a = g a ∨ f a = [])
      : (l.flatMap f).length ≤ (l.flatMap g).length := by
    induction l with
    | nil => exact Nat.le_refl _
    | cons a l ih =>
      rw [forall_mem_cons] at part
      rw [flatMap_cons, flatMap_cons, length_append, length_append]
      refine Nat.add_le_add ?_ (ih part.2)
      rcases part.1 with same | none
      · exact Nat.le_of_eq (congrArg _ same)
      · simp [none]
  induction l with
  | nil => nofun
  | cons a l ih =>
    rw [forall_mem_cons] at part ⊢
    rw [flatMap_cons, flatMap_cons] at same
    have here : f a = g a := by
      refine part.1.elim id fun none => ?_
      have lengths := congrArg List.length same
      rw [none, nil_append, length_append] at lengths
      have rest := shorter part.2
      rw [none, eq_nil_of_length_eq_zero (l := g a) (by omega)]
    rw [here] at same
    exact ⟨here, ih part.2 (append_cancel_left same)⟩

/-- All of the text is sent exactly if none stands beside a list of tool calls. -/
theorem join_streamed_text_iff
    : String.join ((streamedParts unmarshal wrapped empty chunks).filterMap text?)
        = String.join (chunks.flatten.map (·.content))
      ↔ ∀ choice ∈ chunks.flatten, choice.toolCalls.isSome → choice.content = "" := by
  rw [← String.toList_inj, streamed_text, String.toList_join, flatMap_map, flatMap_eq_flatMap_iff]
  · refine forall₂_congr fun choice _ => ?_
    cases choice.toolCalls with
    | none => simp
    | some toolCalls =>
      rw [Option.isSome_some, if_pos rfl, eq_comm, String.toList_eq_nil_iff]
      exact ⟨fun blank _ => blank, fun blank => blank rfl⟩
  · intro choice _
    split <;> simp

end

/-- For a stream whose complete calls have arguments that can be parsed: each call is sent once with
its name and its arguments and all of the text is sent, if and only if each call comes in one piece
and no text stands beside a list of tool calls.
-/
theorem gemini_stream_complete_iff (unmarshal : String → Option Args) (wrapped empty)
    {chunks : List (List Choice)}
    (parses : ∀ call ∈ (fragmentsOf chunks).foldl accumulate [],
      (parsedArgs unmarshal empty call.2.arguments).isSome)
    : ((streamedParts unmarshal wrapped empty chunks).filterMap call?).map
          (fun (choice, name, arguments) => (choice, name, some arguments))
        = ((fragmentsOf chunks).foldl accumulate []).map (fun (choice, call) =>
          (choice, call.name, parsedArgs unmarshal empty call.arguments))
      ∧ String.join ((streamedParts unmarshal wrapped empty chunks).filterMap text?)
        = String.join (chunks.flatten.map (·.content))
      ↔ ((fragmentsOf chunks).map fragmentKey).Nodup
        ∧ ∀ choice ∈ chunks.flatten, choice.toolCalls.isSome → choice.content = "" := by
  refine and_congr ⟨fun same => ?_, fun whole => ?_⟩ join_streamed_text_iff
  · have lengths := congrArg List.length same
    rw [streamed_calls, length_map, length_map, length_map] at lengths
    exact (length_accumulated _).2.mp lengths.symm
  · rw [accumulate_distinct whole] at parses ⊢
    rw [streamed_calls, map_map]
    refine map_congr_left fun fragment listed => ?_
    obtain ⟨arguments, parsed⟩ := Option.isSome_iff_exists.mp (parses fragment listed)
    have sent : callArgs unmarshal wrapped empty fragment.2.arguments = arguments := by
      unfold parsedArgs at parsed
      unfold callArgs
      split_ifs at parsed ⊢ <;> simp_all
    simp only [Function.comp, parsed, sent]

def call (name arguments : String) : List Choice :=
  [{ toolCalls := some [{ index := some 0, name, arguments }] }]

def readObject (text : String) : Option (Except String String) :=
  if text = "\x7b\"a\":1\x7d" then some (.ok text) else none

theorem wholeCall_sent
    : ((streamedParts readObject .error (.ok "") [call "f" "\x7b\"a\":1\x7d"]).filterMap call?).map
        (fun (choice, name, arguments) => (choice, name, some arguments))
      = [(0, "f", some (.ok "\x7b\"a\":1\x7d"))] :=
  ((gemini_stream_complete_iff readObject .error (.ok "") (by decide)).mpr
    ⟨by decide, by decide⟩).1

/-- A call in two fragments becomes two calls, and neither has the arguments. -/
theorem fragments_sent_apart
    : (streamedParts readObject .error (.ok "") [call "f" "\x7b\"a\":", call "" "1\x7d"]).filterMap
        call? = [(0, "f", .error "\x7b\"a\":"), (0, "", .error "1\x7d")]
      ∧ (fragmentsOf [call "f" "\x7b\"a\":", call "" "1\x7d"]).foldl accumulate []
        = fragmentsOf [call "f" "\x7b\"a\":1\x7d"] := by decide

end HelsterApi.Convert
