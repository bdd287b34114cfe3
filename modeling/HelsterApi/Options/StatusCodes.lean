import HelsterApi.Control.Loop
import HelsterApi.Net.TextRoundtrip
import Mathlib.Data.List.Sort

/-! Rules on HTTP status codes. The ranges of a text are sorted and merged, so the search for a code
may stop early, and their printed form is read back as the same ranges.
-/

namespace HelsterApi.StatusCodes

open Control List Net Text

structure StatusCodeRange where
  (start stop : ℤ)
  deriving DecidableEq

def itoa (n : ℤ) : List Char :=
  if n < 0 then '-' :: Nat.toDigits 10 n.natAbs else Nat.toDigits 10 n.natAbs

def StatusCodeRange.text (r : StatusCodeRange) : List Char :=
  if r.start = r.stop then itoa r.start else ['-'].intercalate [itoa r.start, itoa r.stop]

def statusCodeRangesToString (ranges : List StatusCodeRange) : String :=
  String.ofList ([','].intercalate (ranges.map StatusCodeRange.text))

/-- The loop of `shouldMatchStatusCodeRanges`. -/
def search (code : ℤ) : List StatusCodeRange → Bool
  | [] => false
  | r :: rest => if code < r.start then false else if code ≤ r.stop then true else search code rest

def shouldMatchStatusCodeRanges (ranges : List StatusCodeRange) (code : ℤ) : Bool :=
  if code < 100 ∨ code > 599 then false else search code ranges

def parseHTTPStatusCodeToken (token : String) : Option StatusCodeRange :=
  let token := (trimSpace token).filter (· ≠ ' ')
  if '-' ∈ token then
    match token.splitOn '-' with
    | [first, second] =>
      (atoi (String.ofList first)).bind fun start =>
        (atoi (String.ofList second)).bind fun stop =>
          if start > stop ∨ start < 100 ∨ stop > 599 then none else some ⟨start, stop⟩
    | _ => none
  else
    (atoi (String.ofList token)).bind fun code =>
      if code < 100 ∨ code > 599 then none else some ⟨code, code⟩

/-- The rules of a text, between commas of either width. -/
def segments (input : String) : List String :=
  ((((trimSpace input).map fun c => if c = '，' then ',' else c).splitOn ',').map
    fun segment => String.ofList (trimSpace (String.ofList segment))).filter (· ≠ "")

def StatusCodeRange.SortsBefore (r r' : StatusCodeRange) : Prop :=
  r.start < r'.start ∨ r.start = r'.start ∧ r.stop ≤ r'.stop
  deriving Decidable

/-- The loop that merges sorted ranges, from the last one merged. -/
def mergeFrom (last : StatusCodeRange) : List StatusCodeRange → List StatusCodeRange
  | [] => [last]
  | r :: rest =>
    if r.start ≤ last.stop + 1 then mergeFrom { last with stop := max last.stop r.stop } rest
    else last :: mergeFrom r rest

def merge : List StatusCodeRange → List StatusCodeRange
  | [] => []
  | first :: rest => mergeFrom first rest

def parseHTTPStatusCodeRanges (input : String) : Except String (List StatusCodeRange) :=
  let invalid := (segments input).filter fun token => (parseHTTPStatusCodeToken token).isNone
  if invalid ≠ [] then
    .error ("invalid http status code rules: " ++ ", ".intercalate invalid)
  else
    .ok (merge (((segments input).filterMap parseHTTPStatusCodeToken).insertionSort
      StatusCodeRange.SortsBefore))

instance totalSortsBefore : Std.Total StatusCodeRange.SortsBefore := ⟨fun r r' => by
  unfold StatusCodeRange.SortsBefore
  omega⟩

instance transSortsBefore : IsTrans _ StatusCodeRange.SortsBefore := ⟨fun r r' r'' => by
  unfold StatusCodeRange.SortsBefore
  omega⟩

namespace StatusCodeRange

def Covers (r : StatusCodeRange) (code : ℤ) : Prop := r.start ≤ code ∧ code ≤ r.stop

def Valid (r : StatusCodeRange) : Prop := 100 ≤ r.start ∧ r.start ≤ r.stop ∧ r.stop ≤ 599

/-- A range ends before the next one begins, with a code between them. -/
def Apart (r r' : StatusCodeRange) : Prop := r.stop + 1 < r'.start

end StatusCodeRange

open StatusCodeRange

variable {r last : StatusCodeRange} {ranges rest : List StatusCodeRange}

theorem valid_of_parse {token} (read : parseHTTPStatusCodeToken token = some r) : r.Valid := by
  simp only [parseHTTPStatusCodeToken] at read
  split at read
  · split at read
    · simp only [Option.bind_eq_some_iff, Option.ite_none_left_eq_some] at read
      obtain ⟨start, _, stop, _, inside, ⟨⟩⟩ := read
      simp only [Valid]
      omega
    · cases read
  · simp only [Option.bind_eq_some_iff, Option.ite_none_left_eq_some] at read
    obtain ⟨code, _, inside, ⟨⟩⟩ := read
    simp only [Valid]
    omega

/-- Merging sorted ranges keeps what they cover and sets them apart, by induction on what is left.
-/
theorem mergeFrom_spec (sorted : (last :: rest).Pairwise (·.start ≤ ·.start))
    (valid : ∀ r ∈ last :: rest, r.Valid)
    : (mergeFrom last rest).Pairwise Apart
      ∧ (∀ r ∈ mergeFrom last rest, r.Valid ∧ last.start ≤ r.start)
      ∧ ∀ code, (∃ r ∈ mergeFrom last rest, r.Covers code) ↔ ∃ r ∈ last :: rest, r.Covers code := by
  induction rest generalizing last with
  | nil => simpa [mergeFrom] using valid
  | cons r rest ih =>
    obtain ⟨first, sortedRest⟩ := pairwise_cons.mp sorted
    obtain ⟨lastValid, validRest⟩ := forall_mem_cons.mp valid
    obtain ⟨rValid, restValid⟩ := forall_mem_cons.mp validRest
    have order := first r mem_cons_self
    unfold mergeFrom
    split
    next touches =>
      obtain ⟨apart, bounds, covers⟩ := @ih { last with stop := max last.stop r.stop }
        (pairwise_cons.mpr ⟨fun later member => first later (mem_cons_of_mem r member),
          (pairwise_cons.mp sortedRest).2⟩)
        (forall_mem_cons.mpr ⟨by simp only [Valid] at *; omega, restValid⟩)
      refine ⟨apart, bounds, fun code => ?_⟩
      have both : Covers { last with stop := max last.stop r.stop } code
          ↔ last.Covers code ∨ r.Covers code := by
        simp only [Covers]
        omega
      simp only [covers, exists_mem_cons_iff, both, or_assoc]
    next gap =>
      obtain ⟨apart, bounds, covers⟩ := ih sortedRest validRest
      refine ⟨pairwise_cons.mpr ⟨fun later member => ?_, apart⟩,
        forall_mem_cons.mpr ⟨⟨lastValid, le_rfl⟩, fun later member => ?_⟩, fun code => ?_⟩
      · have above := (bounds later member).2
        simp only [Apart]
        omega
      · exact (bounds later member).imp_right order.trans
      · simp only [exists_mem_cons_iff, covers]

/-- Ranges that are apart stay as they are, by induction on them. -/
theorem mergeFrom_of_apart (apart : (last :: rest).Pairwise Apart)
    : mergeFrom last rest = last :: rest := by
  induction rest generalizing last with
  | nil => rfl
  | cons r rest ih =>
    obtain ⟨first, apartRest⟩ := pairwise_cons.mp apart
    have gap := first r mem_cons_self
    rw [mergeFrom, if_neg (by simp only [Apart] at gap; omega), ih apartRest]

/-- The early exit misses nothing in ranges that are apart, by induction on them. -/
theorem search_iff {code} (apart : ranges.Pairwise Apart) (valid : ∀ r ∈ ranges, r.Valid)
    : search code ranges = true ↔ ∃ r ∈ ranges, r.Covers code := by
  induction ranges with
  | nil => simp [search]
  | cons r rest ih =>
    obtain ⟨first, apartRest⟩ := pairwise_cons.mp apart
    obtain ⟨rValid, restValid⟩ := forall_mem_cons.mp valid
    have later : code ≤ r.stop → ¬∃ r ∈ rest, r.Covers code := by
      rintro within ⟨r', member, covers⟩
      have above := first r' member
      simp only [Apart, Covers] at *
      omega
    rw [exists_mem_cons_iff, ← ih apartRest restValid, search]
    rw [← ih apartRest restValid] at later
    simp only [Covers, Valid] at *
    -- Before the range no later one covers the code, inside it the search is over.
    split_ifs <;> grind

theorem matchStatusCodes_iff {code} (apart : ranges.Pairwise Apart)
    (valid : ∀ r ∈ ranges, r.Valid)
    : shouldMatchStatusCodeRanges ranges code = true ↔ ∃ r ∈ ranges, r.Covers code := by
  unfold shouldMatchStatusCodeRanges
  split
  next outside =>
    refine iff_of_false Bool.false_ne_true ?_
    rintro ⟨r, member, covers⟩
    have inside := valid r member
    simp only [Valid, Covers] at inside covers
    omega
  · exact search_iff apart valid

theorem itoa_spec {n} (low : 100 ≤ n) (high : n ≤ 599)
    : (∀ c ∈ itoa n, c.isDigit = true) ∧ atoi (String.ofList (itoa n)) = some n := by
  have written : itoa n = Nat.toDigits 10 n.natAbs := if_neg (by omega)
  have digits : ∀ c ∈ Nat.toDigits 10 n.natAbs, c.isDigit = true :=
    fun c => Nat.isDigit_of_mem_toDigits (by decide) (by decide)
  rw [written]
  refine ⟨digits, ?_⟩
  have unsigned_eq : unsigned (Nat.toDigits 10 n.natAbs) = Nat.toDigits 10 n.natAbs := by
    unfold unsigned
    split
    next text => exact absurd (digits '-' (by simp [text])) (by decide)
    next text => exact absurd (digits '+' (by simp [text])) (by decide)
    · rfl
  have positive : (Nat.toDigits 10 n.natAbs).head? ≠ some '-' :=
    fun sign => absurd (digits '-' (mem_of_head? sign)) (by decide)
  have fits : -2 ^ 63 ≤ n ∧ n < 2 ^ 63 := by omega
  simpa [atoi, unsigned_eq, positive, Nat.ofDigitChars_ten_toDigits, Nat.toDigits_ne_nil,
    abs_of_nonneg (show 0 ≤ n by omega)] using And.intro digits fits

theorem isSpace_of_sign {c} (char : c = ',' ∨ c = '-' ∨ c.isDigit = true) : isSpace c = false := by
  rcases char with rfl | rfl | digit
  · decide
  · decide
  · exact AddrChar.isSpace (.inl (isHex_of_isDigit digit))

theorem trimSpace_ofList {s} (clean : ∀ c ∈ s, isSpace c = false)
    : trimSpace (String.ofList s) = s := by
  rw [trimSpace_eq (by rwa [String.toList_ofList]), String.toList_ofList]

section

variable (valid : r.Valid)

include valid

theorem mem_text {c} (member : c ∈ r.text) : c = '-' ∨ c.isDigit = true := by
  obtain ⟨low, order, high⟩ := valid
  unfold text at member
  split at member
  · exact .inr ((itoa_spec low (by omega)).1 c member)
  · refine (mem_intercalate member).imp_right ?_
    simp only [mem_cons, not_mem_nil, or_false, exists_eq_or_imp, exists_eq_left]
    rintro (first | second)
    · exact (itoa_spec low (by omega)).1 c first
    · exact (itoa_spec (by omega) high).1 c second

theorem trimSpace_text : trimSpace (String.ofList r.text) = r.text :=
  trimSpace_ofList fun _ member => isSpace_of_sign (.inr (mem_text valid member))

theorem parse_text : parseHTTPStatusCodeToken (String.ofList r.text) = some r := by
  have noBlank : r.text.filter (· ≠ ' ') = r.text := by
    refine filter_eq_self.mpr fun c member => decide_eq_true ?_
    rintro rfl
    exact absurd (mem_text valid member) (by decide)
  simp only [parseHTTPStatusCodeToken, trimSpace_text valid, noBlank]
  obtain ⟨low, order, high⟩ := valid
  obtain ⟨startDigits, start⟩ := itoa_spec low (by omega)
  obtain ⟨stopDigits, stop⟩ := itoa_spec (by omega) high
  have plain : '-' ∉ itoa r.start ∧ '-' ∉ itoa r.stop :=
    ⟨fun member => absurd (startDigits _ member) (by decide),
      fun member => absurd (stopDigits _ member) (by decide)⟩
  unfold text
  split
  next same =>
    rw [if_neg plain.1, start, Option.bind_some, if_neg (by omega)]
    cases r
    cases same
    rfl
  · have fields : (['-'].intercalate [itoa r.start, itoa r.stop]).splitOn '-'
        = [itoa r.start, itoa r.stop] :=
      splitOn_intercalate '-' (by simpa using plain) (by simp)
    rw [if_pos (by simp), fields]
    simp only [start, stop, Option.bind_some]
    rw [if_neg (by omega)]

end

theorem segments_toString (valid : ∀ r ∈ ranges, r.Valid)
    : segments (statusCodeRangesToString ranges) = ranges.map fun r => String.ofList r.text := by
  rcases eq_or_ne ranges [] with rfl | nonempty
  · decide
  have fields : ∀ s ∈ ranges.map text, ∀ c ∈ s, c = '-' ∨ c.isDigit = true := by
    simpa using fun r member c => mem_text (valid r member)
  have chars : ∀ c ∈ [','].intercalate (ranges.map text),
      c = ',' ∨ c = '-' ∨ c.isDigit = true := fun c member =>
    (mem_intercalate member).imp_right fun ⟨s, listed, own⟩ => fields s listed c own
  have narrow : ([','].intercalate (ranges.map text)).map (fun c => if c = '，' then ',' else c)
      = [','].intercalate (ranges.map text) := by
    refine (map_congr_left fun c member => if_neg ?_).trans (map_id _)
    rintro rfl
    exact absurd (chars _ member) (by decide)
  have trimmed : (ranges.map text).map (fun s => String.ofList (trimSpace (String.ofList s)))
      = ranges.map fun r => String.ofList r.text := by
    rw [map_map]
    exact map_congr_left fun r member => congrArg String.ofList (trimSpace_text (valid r member))
  unfold segments statusCodeRangesToString
  rw [trimSpace_ofList fun c member => isSpace_of_sign (chars c member), narrow,
    splitOn_intercalate ',' (fun s listed member => absurd (fields s listed _ member)
      (by decide)) (by simpa using nonempty), trimmed, filter_eq_self]
  intro token listed
  obtain ⟨r, member, rfl⟩ := mem_map.mp listed
  refine decide_eq_true fun empty => ?_
  have read := parse_text (valid r member)
  rw [empty] at read
  cases read

theorem merge_spec (sorted : ranges.Pairwise SortsBefore) (valid : ∀ r ∈ ranges, r.Valid)
    : (merge ranges).Pairwise Apart ∧ (∀ r ∈ merge ranges, r.Valid)
      ∧ ∀ code, (∃ r ∈ merge ranges, r.Covers code) ↔ ∃ r ∈ ranges, r.Covers code := by
  cases ranges with
  | nil => simp [merge]
  | cons first rest =>
    obtain ⟨apart, bounds, covers⟩ := mergeFrom_spec (sorted.imp fun before => by
      unfold SortsBefore at before
      omega) valid
    exact ⟨apart, fun r member => (bounds r member).1, covers⟩

theorem parse_toString (apart : ranges.Pairwise Apart) (valid : ∀ r ∈ ranges, r.Valid)
    : parseHTTPStatusCodeRanges (statusCodeRangesToString ranges) = .ok ranges := by
  have read : (ranges.map fun r => String.ofList r.text).filterMap parseHTTPStatusCodeToken
      = ranges := by
    have each : ∀ r ∈ ranges, parseHTTPStatusCodeToken (String.ofList r.text) = some r :=
      fun r member => parse_text (valid r member)
    rw [filterMap_map, Function.comp_def, filterMap_congr each, filterMap_some]
  have sorted : ranges.Pairwise SortsBefore := by
    refine apart.imp_of_mem fun {r r'} member _ gap => ?_
    have order := (valid r member).2.1
    unfold Apart at gap
    unfold SortsBefore
    omega
  have merged : merge ranges = ranges := by
    cases ranges with
    | nil => rfl
    | cons first rest => exact mergeFrom_of_apart apart
  unfold parseHTTPStatusCodeRanges
  rw [segments_toString valid, if_neg, read, sorted.insertionSort_eq, merged]
  simp +contextual [valid, parse_text]

/-- The ranges that are read are apart, cover what the rules of the text cover, and are read
back from their printed form.
-/
theorem parsed_ranges {input} (accepted : parseHTTPStatusCodeRanges input = .ok ranges)
    : (∀ r ∈ ranges, r.start ≤ r.stop) ∧ ranges.Pairwise Apart
      ∧ (∀ code, shouldMatchStatusCodeRanges ranges code = true
        ↔ ∃ token ∈ segments input, ∃ r ∈ parseHTTPStatusCodeToken token, r.Covers code)
      ∧ parseHTTPStatusCodeRanges (statusCodeRangesToString ranges) = .ok ranges := by
  obtain ⟨_, same⟩ := ite_error_eq_ok.mp accepted
  cases same
  have read : ∀ r, r ∈ ((segments input).filterMap parseHTTPStatusCodeToken).insertionSort
      SortsBefore ↔ ∃ token ∈ segments input, parseHTTPStatusCodeToken token = some r := by
    simp
  obtain ⟨apart, valid, covers⟩ := merge_spec (pairwise_insertionSort _ _) fun r member => by
    obtain ⟨_, _, parsed⟩ := (read r).mp member
    exact valid_of_parse parsed
  refine ⟨fun r member => (valid r member).2.1, apart, fun code => ?_, parse_toString apart valid⟩
  rw [matchStatusCodes_iff apart valid, covers]
  simp only [read]
  constructor
  · rintro ⟨r, ⟨token, listed, parsed⟩, covered⟩
    exact ⟨token, listed, r, parsed, covered⟩
  · rintro ⟨token, listed, r, parsed, covered⟩
    exact ⟨r, ⟨token, listed, parsed⟩, covered⟩

theorem mergedCodes_read
    : parseHTTPStatusCodeRanges "500-503， 401,402" = .ok [⟨401, 402⟩, ⟨500, 503⟩]
      ∧ parseHTTPStatusCodeRanges (statusCodeRangesToString [⟨401, 402⟩, ⟨500, 503⟩])
        = .ok [⟨401, 402⟩, ⟨500, 503⟩] := by
  have read : parseHTTPStatusCodeRanges "500-503， 401,402" = .ok [⟨401, 402⟩, ⟨500, 503⟩] := by
    decide +kernel
  exact ⟨read, (parsed_ranges read).2.2.2⟩

/-- Ranges that are apart are determined by the codes they cover, by induction on both lists. -/
theorem eq_of_covers {ranges'} (apart : ranges.Pairwise Apart) (apart' : ranges'.Pairwise Apart)
    (valid : ∀ r ∈ ranges, r.Valid) (valid' : ∀ r ∈ ranges', r.Valid)
    (same : ∀ code, (∃ r ∈ ranges, r.Covers code) ↔ ∃ r ∈ ranges', r.Covers code)
    : ranges = ranges' := by
  induction ranges generalizing ranges' with
  | nil =>
    cases ranges' with
    | nil => rfl
    | cons r' _ => simpa using (same r'.start).mpr ⟨r', by simp, le_rfl, (valid' r' (by simp)).2.1⟩
  | cons r rest ih =>
    cases ranges' with
    | nil => simpa using (same r.start).mp ⟨r, by simp, le_rfl, (valid r (by simp)).2.1⟩
    | cons r' rest' =>
      simp only [pairwise_cons, forall_mem_cons, exists_mem_cons_iff, Apart, Covers, Valid]
        at apart apart' valid valid' same ih
      have start : r.start = r'.start := by grind
      have stop : r.stop = r'.stop := by
        have after := same (r.stop + 1)
        have after' := same (r'.stop + 1)
        grind
      have tail := ih apart.2 apart'.2 valid.2 valid'.2 fun code => by
        clear ih
        specialize same code
        grind
      cases r
      cases r'
      grind

theorem spec_of_parse {input} (accepted : parseHTTPStatusCodeRanges input = .ok ranges)
    : ranges.Pairwise Apart ∧ ∀ r ∈ ranges, r.Valid := by
  obtain ⟨_, same⟩ := ite_error_eq_ok.mp accepted
  cases same
  obtain ⟨apart, valid, _⟩ := merge_spec (pairwise_insertionSort SortsBefore
    ((segments input).filterMap parseHTTPStatusCodeToken)) (by
      simpa using fun r token _ parsed => valid_of_parse parsed)
  exact ⟨apart, valid⟩

/-- Two accepted texts match the same codes exactly if they are read as the same ranges. -/
theorem ranges_eq_iff_same_codes {input input' ranges'}
    (accepted : parseHTTPStatusCodeRanges input = .ok ranges)
    (accepted' : parseHTTPStatusCodeRanges input' = .ok ranges')
    : ranges = ranges' ↔ ∀ code, shouldMatchStatusCodeRanges ranges code
      = shouldMatchStatusCodeRanges ranges' code := by
  obtain ⟨apart, valid⟩ := spec_of_parse accepted
  obtain ⟨apart', valid'⟩ := spec_of_parse accepted'
  refine ⟨fun same _ => same ▸ rfl, fun same =>
    eq_of_covers apart apart' valid valid' fun code => ?_⟩
  rw [← matchStatusCodes_iff apart valid, same, matchStatusCodes_iff apart' valid']

theorem some_code_differs
    : ¬∀ code, shouldMatchStatusCodeRanges [⟨401, 403⟩] code
      = shouldMatchStatusCodeRanges [⟨401, 401⟩, ⟨403, 403⟩] code :=
  mt (ranges_eq_iff_same_codes (show parseHTTPStatusCodeRanges "402,401-403" = _ by decide +kernel)
    (show parseHTTPStatusCodeRanges "403,401" = _ by decide +kernel)).mpr (by decide)

end HelsterApi.StatusCodes
