import HelsterApi.Text.Folding
import Mathlib.Data.List.Forall2

/-! The cleaning of function parameters for Gemini: only the keywords of its schemas stay, and every
type becomes a single name. A map of properties is no schema, so its names stay.
-/

namespace HelsterApi.Convert

open Function List Text

/-- JSON values; a map gives a value for some keys. -/
inductive Value where
  | null
  | bool (b : Bool)
  | number (literal : String)
  | text (s : String)
  | array (items : List Value)
  | object (members : String → Option Value)

abbrev Members := String → Option Value

def geminiOpenAPISchemaAllowedFields : List String :=
  ["anyOf", "default", "description", "enum", "example", "format", "items", "maxItems",
    "maxLength", "maxProperties", "maximum", "minItems", "minLength", "minProperties", "minimum",
    "nullable", "pattern", "properties", "propertyOrdering", "required", "title", "type"]

def keepAllowed (v : Members) : Members := fun key =>
  if key ∈ geminiOpenAPISchemaAllowedFields then v key else none

section

variable (lower : LowerCase)

/-- The name of a type, `none` for the null type. -/
def normalize (t : String) : Option String :=
  match String.ofList ((trimSpace t).map lower.toLower) with
  | "object" => some "OBJECT"
  | "array" => some "ARRAY"
  | "string" => some "STRING"
  | "integer" => some "INTEGER"
  | "number" => some "NUMBER"
  | "boolean" => some "BOOLEAN"
  | "null" => none
  | _ => some t

/-- The chosen type and whether null was met, after one more item of a list of types. -/
def choose : String × Bool → Value → String × Bool
  | (chosen, nullable), .text value =>
    match normalize lower value with
    | none => (chosen, true)
    | some normalized => (if chosen = "" then normalized else chosen, nullable)
  | met, _ => met

def normalizeGeminiSchemaTypeAndNullable (schema : Members) : Members :=
  match schema "type" with
  | some (.text typed) =>
    match normalize lower typed with
    | none => update (update schema "nullable" (some (.bool true))) "type" none
    | some normalized => update schema "type" (some (.text normalized))
  | some (.array typed) =>
    let (chosen, nullable) := typed.foldl (choose lower) ("", false)
    let schema := if nullable then update schema "nullable" (some (.bool true)) else schema
    update schema "type" (if chosen ≠ "" then some (.text chosen) else none)
  | _ => schema

/-- A member is replaced where it is present. -/
def Members.adjust (v : Members) (key : String) (f : Value → Value) : Members :=
  update v key ((v key).map f)

def cleanGeminiFunctionParametersShallow : Value → Value
  | .object v =>
    .object (update (update (update (normalizeGeminiSchemaTypeAndNullable lower (keepAllowed v))
      "properties" none) "items" none) "anyOf" none)
  | .array _ => .array []
  | params => params

/-- The cleaning with some levels left up to the depth limit. -/
def cleanGeminiFunctionParametersWithDepth : ℕ → Value → Value
  | 0, params => cleanGeminiFunctionParametersShallow lower params
  | left + 1, .object v =>
    let clean := cleanGeminiFunctionParametersWithDepth left
    let cleaned := (normalizeGeminiSchemaTypeAndNullable lower (keepAllowed v)).adjust "properties"
      fun
      | .object props => .object fun name => (props name).map clean
      | value => value
    let cleaned := cleaned.adjust "items" fun
      | .object items => clean (.object items)
      | .array (first :: _) => clean first
      | value => value
    .object (cleaned.adjust "anyOf" fun
      | .array nested => .array (nested.map clean)
      | value => value)
  | left + 1, .array v => .array (v.map (cleanGeminiFunctionParametersWithDepth left))
  | _ + 1, params => params

def geminiFunctionSchemaMaxDepth : ℕ := 64

def cleanFunctionParameters : Value → Value :=
  cleanGeminiFunctionParametersWithDepth lower geminiFunctionSchemaMaxDepth

end

def IsType (t : Value) : Prop :=
  (∃ name, t = .text name) ∨ ∃ names : List String, t = .array (names.map .text)

/-- Schemas that are nested less deeply than a bound. -/
def IsSchema : ℕ → Value → Prop
  | n + 1, .object m =>
    (∀ t ∈ m "type", IsType t)
    ∧ (∀ p ∈ m "properties", ∃ props, p = .object props ∧ ∀ name, ∀ s ∈ props name, IsSchema n s)
    ∧ (∀ i ∈ m "items", IsSchema n i ∨ ∃ l, i = .array l ∧ ∀ s ∈ l, IsSchema n s)
    ∧ ∀ a ∈ m "anyOf", ∃ l, a = .array l ∧ ∀ s ∈ l, IsSchema n s
  | _ + 1, .bool _ => True
  | _, _ => False

/-- A schema, nested less deeply than a bound, and what it is cleaned to. At every node the keywords
are allowed, the type is a single name, and the properties have the names they had. Properties and
alternatives are those they were, each cleaned, and of a list of items the first is left.
-/
def Cleaned (lower : LowerCase) : ℕ → Value → Value → Prop
  | n + 1, .object m, .object c =>
    (∀ key, (c key).isSome → key ∈ geminiOpenAPISchemaAllowedFields)
    ∧ (∀ t ∈ c "type", ∃ name, t = .text name ∧ normalize lower name = some name)
    ∧ Option.Rel (fun p q => ∃ props cleaned, p = .object props ∧ q = .object cleaned
        ∧ ∀ name, Option.Rel (Cleaned lower n) (props name) (cleaned name))
      (m "properties") (c "properties")
    ∧ Option.Rel
      (fun
        | .array [], q => q = .array []
        | .array (first :: _), q => Cleaned lower n first q
        | p, q => Cleaned lower n p q)
      (m "items") (c "items")
    ∧ Option.Rel (fun p q => ∃ l l', p = .array l ∧ q = .array l' ∧ Forall₂ (Cleaned lower n) l l')
      (m "anyOf") (c "anyOf")
  | _ + 1, .bool b, .bool b' => b = b'
  | _, _, _ => False

variable {lower : LowerCase} {schema : Members}

theorem rel_map {R : Value → Value → Prop} {f} {o : Option Value}
    (related : ∀ v ∈ o, R v (f v))
    : Option.Rel R o (o.map f) := by
  cases o with
  | none => exact .none
  | some v => exact .some (related v rfl)

theorem map_eq_self_of_rel {R : Value → Value → Prop} {f} {o c : Option Value}
    (related : Option.Rel R o c) (stays : ∀ v w, R v w → f w = w)
    : c.map f = c := by
  cases related with
  | none => rfl
  | some related => exact congrArg some (stays _ _ related)

theorem normalize_ascii {t} (ascii : (trimSpace t).all (·.toNat < 128))
    : (trimSpace t).map lower.toLower = (trimSpace t).map Char.toLower :=
  map_congr_left fun c member => lower.ascii c (of_decide_eq_true (all_eq_true.mp ascii c member))

/-- A name that was normalised stays. -/
theorem normalize_again {t name} (normalized : normalize lower t = some name)
    : normalize lower name = some name := by
  have named := normalized
  unfold normalize at normalized
  split at normalized
  case h_7 => cases normalized
  case h_8 =>
    cases normalized
    exact named
  all_goals
    cases normalized
    rw [normalize, normalize_ascii (by decide)]
    rfl

/-- The chosen type stays, by induction on the items. -/
theorem chosen_normalized (items : List Value) {met}
    (before : normalize lower met.1 = some met.1)
    : normalize lower (items.foldl (choose lower) met).1
      = some (items.foldl (choose lower) met).1 := by
  induction items generalizing met with
  | nil => exact before
  | cons item rest ih =>
    refine ih ?_
    unfold choose
    split
    · split
      · exact before
      next normalized =>
        dsimp only
        split
        · exact normalize_again normalized
        · exact before
    · exact before

/-- The normalisation writes two members, and the type it writes is a name that stays. -/
theorem normalizeTypeAndNullable_eq (typed : ∀ t ∈ schema "type", IsType t)
    : ∃ nullable type, normalizeGeminiSchemaTypeAndNullable lower schema
        = update (update schema "nullable" nullable) "type" type
      ∧ ∀ t ∈ type, ∃ name, t = .text name ∧ normalize lower name = some name := by
  cases found : schema "type" with
  | none =>
    refine ⟨schema "nullable", none, ?_, nofun⟩
    rw [update_eq_self, ← found, update_eq_self, normalizeGeminiSchemaTypeAndNullable, found]
  | some t =>
    rcases typed t found with ⟨name, rfl⟩ | ⟨names, rfl⟩
    · simp only [normalizeGeminiSchemaTypeAndNullable, found]
      split
      · exact ⟨_, none, rfl, nofun⟩
      next normalized =>
        refine ⟨schema "nullable", some _, by rw [update_eq_self], ?_⟩
        rintro t ⟨⟩
        exact ⟨_, rfl, normalize_again normalized⟩
    · simp only [normalizeGeminiSchemaTypeAndNullable, found]
      have chosen := @chosen_normalized lower (names.map .text) ("", false) rfl
      generalize foldl (choose lower) ("", false) (names.map .text) = met at chosen
      refine ⟨if met.2 then some (.bool true) else schema "nullable", _,
        congrArg (update · "type" _) ?_, ?_⟩
      · split <;> simp
      · intro t member
        split at member
        · exact ⟨_, (Option.some.inj member).symm, chosen⟩
        · cases member

theorem adjust_isSome {v : Members} {key f} (other)
    : (v.adjust key f other).isSome = (v other).isSome := by
  unfold Members.adjust
  by_cases same : other = key
  · simp [same]
  · rw [update_of_ne same]

theorem adjust_eq_self {v : Members} {key f}
    (stays : (v key).map f = v key)
    : v.adjust key f = v := by
  rw [Members.adjust, stays, update_eq_self]

/-- The cleaning reaches every node, by induction on the levels. -/
theorem IsSchema.cleaned {n params} (isSchema : IsSchema n params)
    : Cleaned lower n params (cleanGeminiFunctionParametersWithDepth lower n params) := by
  induction n generalizing params with
  | zero => cases params <;> exact isSchema.elim
  | succ n ih =>
    cases params with
    | bool b => exact rfl
    | null | number | text | array => exact isSchema.elim
    | object m =>
      obtain ⟨typed, properties, items, anyOf⟩ := isSchema
      obtain ⟨nullable, type, normalized, named⟩ :=
        @normalizeTypeAndNullable_eq lower (keepAllowed m) typed
      simp only [cleanGeminiFunctionParametersWithDepth, normalized, Cleaned]
      refine ⟨fun key found => ?_, ?_, ?_, ?_, ?_⟩
      · simp only [adjust_isSome] at found
        by_contra dropped
        rw [update_of_ne (by rintro rfl; exact dropped (by decide)),
          update_of_ne (by rintro rfl; exact dropped (by decide)), keepAllowed,
          if_neg dropped] at found
        cases found
      · simpa [Members.adjust] using named
      · simp only [Members.adjust]
        refine rel_map fun p found => ?_
        obtain ⟨props, rfl, below⟩ := properties p found
        exact ⟨props, _, rfl, rfl, fun name => rel_map fun s member => ih (below name s member)⟩
      · refine rel_map fun i found => ?_
        rcases items i found with below | ⟨l, rfl, below⟩
        · cases n with
          | zero => cases i <;> exact below.elim
          | succ n =>
            cases i with
            | bool b => exact rfl
            | object m => exact ih below
            | null | number | text | array => exact below.elim
        · cases l with
          | nil => exact rfl
          | cons first rest => exact ih (below first mem_cons_self)
      · refine rel_map fun a found => ?_
        obtain ⟨l, rfl, below⟩ := anyOf a found
        exact ⟨l, _, rfl, rfl, forall₂_map_right_iff.mpr
          (forall₂_same.mpr fun s member => ih (below s member))⟩

/-- A cleaned schema stays. -/
theorem Cleaned.stays {n params cleaned} (isCleaned : Cleaned lower n params cleaned)
    : cleanGeminiFunctionParametersWithDepth lower n cleaned = cleaned := by
  induction n generalizing params cleaned with
  | zero => cases params <;> exact isCleaned.elim
  | succ n ih =>
    cases cleaned with
    | bool b => rfl
    | null | number | text | array => cases params <;> exact isCleaned.elim
    | object c =>
      cases params with
      | null | bool | number | text | array => exact isCleaned.elim
      | object m =>
        obtain ⟨allowed, typed, properties, items, anyOf⟩ := isCleaned
        have kept : keepAllowed c = c := by
          funext key
          unfold keepAllowed
          split
          · rfl
          next dropped => exact (Option.not_isSome_iff_eq_none.mp (mt (allowed key) dropped)).symm
        have normalized : normalizeGeminiSchemaTypeAndNullable lower c = c := by
          unfold normalizeGeminiSchemaTypeAndNullable
          cases found : c "type" with
          | none => rfl
          | some t =>
            obtain ⟨name, rfl, same⟩ := typed t found
            simp only [same, ← found, update_eq_self]
        simp only [cleanGeminiFunctionParametersWithDepth, kept, normalized]
        rw [adjust_eq_self (map_eq_self_of_rel properties ?_),
          adjust_eq_self (map_eq_self_of_rel items ?_),
          adjust_eq_self (map_eq_self_of_rel anyOf ?_)]
        · rintro _ _ ⟨l, l', rfl, rfl, below⟩
          refine congrArg Value.array ((map_congr_left fun s member => ?_).trans (map_id l'))
          obtain ⟨i, short, rfl⟩ := getElem_of_mem member
          exact ih (below.get (below.length_eq ▸ short) short)
        · intro p q below
          have stays (p q : Value) : Cleaned lower n p q → (match q with
              | .object items => cleanGeminiFunctionParametersWithDepth lower n (.object items)
              | .array (first :: _) => cleanGeminiFunctionParametersWithDepth lower n first
              | value => value) = q := by
            intro below
            cases q with
            | object c => exact ih below
            | array => cases n <;> cases p <;> exact below.elim
            | null | bool | number | text => rfl
          split at below
          · rw [below]
          · exact stays _ q below
          · exact stays _ q below
        · rintro _ _ ⟨props, cleaned, rfl, rfl, below⟩
          simp only [map_eq_self_of_rel (below _) fun _ _ => ih]

/-- Of a schema within the depth limit, every node is cleaned, and a second cleaning changes
nothing.
-/
theorem schema_cleaned {params} (isSchema : IsSchema geminiFunctionSchemaMaxDepth params)
    : Cleaned lower geminiFunctionSchemaMaxDepth params (cleanFunctionParameters lower params)
      ∧ cleanFunctionParameters lower (cleanFunctionParameters lower params)
        = cleanFunctionParameters lower params := by
  have cleaned : Cleaned lower _ params _ := isSchema.cleaned
  exact ⟨cleaned, cleaned.stays⟩

def ofMember (key : String) (value : Value) : Value :=
  .object (update (fun _ => none) key (some value))

/-- A schema with a property that has the name of a keyword. -/
def refSchema : Value :=
  ofMember "properties" (ofMember "$ref" (ofMember "type" (.text "integer")))

theorem refSchema_cleaned
    : Cleaned .asciiOnly geminiFunctionSchemaMaxDepth refSchema
      (cleanFunctionParameters .asciiOnly refSchema) := by
  refine (schema_cleaned ?_).1
  simp [IsSchema, IsType, refSchema, ofMember, geminiFunctionSchemaMaxDepth, update]

theorem clean_items_cons {left : ℕ} {first : Members} {rest}
    : cleanGeminiFunctionParametersWithDepth lower (left + 1)
        (ofMember "items" (.array (.object first :: rest)))
      = cleanGeminiFunctionParametersWithDepth lower (left + 1)
        (ofMember "items" (.object first)) := by
  simp only [cleanGeminiFunctionParametersWithDepth, ofMember]
  refine congrArg Value.object (funext fun key => ?_)
  by_cases items : key = "items"
  · subst items
    rfl
  · simp [Members.adjust, update, keepAllowed, normalizeGeminiSchemaTypeAndNullable, items]

/-- A second element of a list of items makes no difference, so its properties are dropped. -/
theorem second_item_dropped
    : IsSchema geminiFunctionSchemaMaxDepth
        (ofMember "items" (.array [ofMember "type" (.text "string"), refSchema]))
      ∧ cleanFunctionParameters .asciiOnly
          (ofMember "items" (.array [ofMember "type" (.text "string"), refSchema]))
        = cleanFunctionParameters .asciiOnly
          (ofMember "items" (ofMember "type" (.text "string"))) := by
  refine ⟨?_, clean_items_cons⟩
  simp [IsSchema, IsType, refSchema, ofMember, geminiFunctionSchemaMaxDepth, update]

end HelsterApi.Convert
