import HelsterApi.Net.Address
import HelsterApi.Net.HostPort
import HelsterApi.Text.Folding
import Mathlib.Data.List.TakeWhile

/-! The text of an address is read back as this address, in its form of sixteen bytes. It can stand
before a port, and a text read as an address has no white space around it.
-/

namespace HelsterApi.Net

section

open List Option

theorem parseOctet_decimalText (byte) : parseOctet (decimalText byte) = some byte := by
  revert byte
  refine forall_byte ?_
  decide +kernel

variable {c : Char}

theorem isDigit_of_mem_decimalText {byte} (member : c ∈ decimalText byte)
    : c.isDigit = true := Nat.isDigit_of_mem_toDigits (by decide) (by decide) member

theorem parseIPv4_intercalate (a b c d)
    : parseIPv4 (['.'].intercalate ([a, b, c, d].map decimalText))
      = some (IP.ofOctets a b c d) := by
  have apart : ∀ field ∈ [a, b, c, d].map decimalText, '.' ∉ field := by
    intro field member
    obtain ⟨byte, _, rfl⟩ := mem_map.mp member
    exact fun member => absurd (isDigit_of_mem_decimalText member) (by decide)
  unfold parseIPv4
  rw [splitOn_intercalate '.' apart (by simp)]
  simp [parseOctet_decimalText]

/-- What stands in joined fields is the sign between them or in a field, by induction on the
fields.
-/
theorem mem_intercalate {sign fields} (member : c ∈ [sign].intercalate fields)
    : c = sign ∨ ∃ field ∈ fields, c ∈ field := by
  induction fields with
  | nil => simp at member
  | cons field rest ih =>
    cases rest with
    | nil =>
      rw [intercalate_singleton] at member
      exact .inr ⟨field, by simp, member⟩
    | cons next others =>
      rw [intercalate_cons_cons, append_assoc, mem_append, mem_append, mem_singleton] at member
      rcases member with own | same | later
      · exact .inr ⟨field, by simp, own⟩
      · exact .inl same
      · exact (ih later).imp_right fun ⟨field, inRest, own⟩ => ⟨field, by simp [inRest], own⟩

variable {s : List Char}

theorem find?_sign {sign} (isSign : (sign == '.' || sign == ':') = true) (member : sign ∈ s)
    (only : ∀ c ∈ s, (c == '.' || c == ':') = true → c = sign)
    : (s.find? fun c => c == '.' || c == ':') = some sign := by
  cases found : s.find? fun c => c == '.' || c == ':' with
  | none => exact absurd isSign (find?_eq_none.mp found sign member)
  | some c => rw [only c (mem_of_find?_eq_some found) (find?_some found :)]

theorem parseAddr_intercalate (a b c d)
    : parseAddr (['.'].intercalate ([a, b, c, d].map decimalText))
      = some (IP.ofOctets a b c d) := by
  have chars : ∀ x ∈ ['.'].intercalate ([a, b, c, d].map decimalText),
      x = '.' ∨ x.isDigit = true := by
    intro x member
    rcases mem_intercalate member with same | ⟨field, inFields, own⟩
    · exact .inl same
    · obtain ⟨byte, _, rfl⟩ := mem_map.mp inFields
      exact .inr (isDigit_of_mem_decimalText own)
  have noZone : '%' ∉ ['.'].intercalate ([a, b, c, d].map decimalText) := by
    intro member
    exact absurd (chars '%' member) (by decide)
  have dotted : '.' ∈ ['.'].intercalate ([a, b, c, d].map decimalText) := by
    simp only [map_cons, map_nil, intercalate_cons_cons, mem_append]
    exact .inl (.inr (by simp))
  have first := find?_sign (by decide) dotted (by
    intro x member isSign
    rcases chars x member with same | digit
    · exact same
    · simp only [Bool.or_eq_true, beq_iff_eq] at isSign
      rcases isSign with same | rfl
      · exact same
      · exact absurd digit (by decide))
  unfold parseAddr
  rw [if_neg noZone, first]
  exact parseIPv4_intercalate a b c d

theorem hexVal_digitChar {n} (small : n < 16) : hexVal n.digitChar = some n := by
  revert n
  decide

/-- The digits of a number have its value, by induction on the number's digits. -/
theorem hexValue_hexText (n) : hexValue (hexText n) = n := by
  induction n using Nat.strongRecOn with
  | ind n ih =>
    by_cases small : n < 16
    · rw [hexText, Nat.toDigits_of_lt_base small]
      simp [hexValue, hexVal_digitChar small]
    · have shorter := ih (n / 16) (by omega)
      rw [hexText, Nat.toDigits_of_base_le (by decide) (by omega)]
      rw [hexText, hexValue] at shorter
      rw [hexValue, foldl_append, shorter]
      simp only [foldl_cons, foldl_nil, hexVal_digitChar (Nat.mod_lt n (by decide)), getD_some]
      omega

/-- The digits of a number are hexadecimal, by induction on them. -/
theorem isHex_of_mem_hexText {n} (member : c ∈ hexText n) : isHex c = true := by
  induction n using Nat.strongRecOn with
  | ind n ih =>
    by_cases small : n < 16
    · rw [hexText, Nat.toDigits_of_lt_base small, mem_singleton] at member
      simp [member, isHex, hexVal_digitChar small]
    · rw [hexText, Nat.toDigits_of_base_le (by decide) (by omega), mem_append,
        mem_singleton] at member
      rcases member with earlier | last
      · exact ih (n / 16) (by omega) earlier
      · simp [last, isHex, hexVal_digitChar (Nat.mod_lt n (by decide))]

variable {group : ℕ}

theorem length_hexText (small : group < 65536)
    : ¬((hexText group).length = 0 ∨ 4 < (hexText group).length) := by
  have positive : 0 < (hexText group).length := Nat.length_toDigits_pos
  have bounded : (hexText group).length ≤ 4 :=
    (Nat.length_toDigits_le_iff (by decide) (by decide)).mpr small
  omega

/-- A text that does not go on with a hexadecimal digit. -/
def Ends (rest : List Char) : Prop := ∀ c ∈ rest.head?, isHex c = false

theorem takeWhile_hexText (group rest) (ends : Ends rest)
    : (hexText group ++ rest).takeWhile isHex = hexText group
      ∧ (hexText group ++ rest).dropWhile isHex = rest := by
  have all : ∀ c ∈ hexText group, isHex c = true := fun c member => isHex_of_mem_hexText member
  rw [takeWhile_append_of_pos all, dropWhile_append_of_pos all]
  cases rest with
  | nil => simp
  | cons c rest =>
    have stop := ends c rfl
    simp [takeWhile, dropWhile, stop]

def bytesOf (groups : List ℕ) : List UInt8 := groups.flatMap groupBytes

theorem joinGroups_cons (group rest)
    : ∃ c s, joinGroups (group :: rest) = c :: s ∧ isHex c = true := by
  have nonempty : hexText group ≠ [] := Nat.toDigits_ne_nil
  obtain ⟨c, digits, written⟩ := exists_cons_of_ne_nil nonempty
  have hex : isHex c = true := isHex_of_mem_hexText (n := group) (by rw [written]; simp)
  cases rest with
  | nil =>
    refine ⟨c, digits, ?_, hex⟩
    simp [joinGroups, written]
  | cons next others =>
    refine ⟨c, digits ++ ':' :: joinGroups (next :: others), ?_, hex⟩
    simp [joinGroups, written, intercalate_cons_cons]

theorem joinGroups_cons_cons (group next others)
    : joinGroups (group :: next :: others)
      = hexText group ++ ':' :: joinGroups (next :: others) := by
  simp [joinGroups, intercalate_cons_cons]

section

variable {group : ℕ} (small : group < 65536) (rounds : ℕ) (ip : List UInt8)

include small

theorem parseGroups_last (ellipsis)
    : parseGroups (rounds + 1) (hexText group) ip ellipsis
      = some ([], ip ++ groupBytes group, ellipsis) := by
  have ⟨taken, dropped⟩ := takeWhile_hexText group [] (by simp [Ends])
  rw [append_nil] at taken dropped
  simp only [parseGroups, taken, dropped, if_neg (length_hexText small), hexValue_hexText]

theorem parseGroups_colon (ellipsis) {c s} (hex : isHex c = true)
    : parseGroups (rounds + 1) (hexText group ++ ':' :: c :: s) ip ellipsis
      = parseGroups rounds (c :: s) (ip ++ groupBytes group) ellipsis := by
  have ⟨taken, dropped⟩ := takeWhile_hexText group (':' :: c :: s) (by
    intro x head
    cases head
    decide)
  have different : c ≠ ':' := by
    rintro rfl
    revert hex
    decide
  simp only [parseGroups, taken, dropped, if_neg (length_hexText small), hexValue_hexText]
  simp [different]

theorem parseGroups_ellipsis (s)
    : parseGroups (rounds + 1) (hexText group ++ ':' :: ':' :: s) ip none
      = if s = [] then some ([], ip ++ groupBytes group, some (ip ++ groupBytes group).length)
        else
          parseGroups rounds s (ip ++ groupBytes group) (some (ip ++ groupBytes group).length) := by
  have ⟨taken, dropped⟩ := takeWhile_hexText group (':' :: ':' :: s) (by
    intro x head
    cases head
    decide)
  simp only [parseGroups, taken, dropped, if_neg (length_hexText small), hexValue_hexText,
    isSome_none, Bool.false_eq_true, if_false]

end

/-- Reading the groups of a text without ellipsis, by induction on them. -/
theorem parseGroups_joinGroups {rest} (small : ∀ x ∈ group :: rest, x < 65536) {rounds}
    (enough : rest.length < rounds) (ip ellipsis)
    : parseGroups rounds (joinGroups (group :: rest)) ip ellipsis
      = some ([], ip ++ bytesOf (group :: rest), ellipsis) := by
  induction rest generalizing group rounds ip with
  | nil =>
    obtain ⟨rounds, rfl⟩ := Nat.exists_eq_succ_of_ne_zero (Nat.ne_of_gt enough)
    have read := parseGroups_last (small group (by simp)) rounds ip ellipsis
    simpa [joinGroups, bytesOf] using read
  | cons next others ih =>
    obtain ⟨rounds, rfl⟩ := Nat.exists_eq_succ_of_ne_zero (Nat.ne_of_gt (Nat.zero_lt_of_lt enough))
    obtain ⟨c, s, begun, hex⟩ := joinGroups_cons next others
    have later := ih (fun x member => small x (mem_cons_of_mem group member))
      (Nat.lt_of_succ_lt_succ enough) (ip ++ groupBytes group)
    rw [joinGroups_cons_cons, begun,
      parseGroups_colon (small group (by simp)) rounds ip ellipsis hex, ← begun, later]
    simp [bytesOf]

/-- Reading the groups before the ellipsis, by induction on them. -/
theorem parseGroups_append_ellipsis {rest} (small : ∀ x ∈ group :: rest, x < 65536)
    (rounds ip s)
    : parseGroups (rounds + (rest.length + 1))
        (joinGroups (group :: rest) ++ ':' :: ':' :: s) ip none
      = if s = [] then
          some ([], ip ++ bytesOf (group :: rest), some (ip ++ bytesOf (group :: rest)).length)
        else
          parseGroups rounds s (ip ++ bytesOf (group :: rest))
            (some (ip ++ bytesOf (group :: rest)).length) := by
  induction rest generalizing group ip with
  | nil =>
    have read := parseGroups_ellipsis (small group (by simp)) rounds ip s
    simpa [joinGroups, bytesOf] using read
  | cons next others ih =>
    obtain ⟨c, t, begun, hex⟩ := joinGroups_cons next others
    have later := ih (fun x member => small x (mem_cons_of_mem group member))
      (ip ++ groupBytes group)
    have more : rounds + ((next :: others).length + 1) = rounds + (others.length + 1) + 1 := rfl
    rw [more, joinGroups_cons_cons, append_assoc, cons_append, begun, cons_append,
      parseGroups_colon (small group (by simp)) _ ip none hex, ← cons_append, ← begun, later]
    simp [bytesOf]

theorem groupBytes_pair (high low : UInt8)
    : groupBytes (256 * high.toNat + low.toNat) = [high, low] := by
  have bound := low.toNat_lt
  simp [groupBytes, Nat.mul_add_div, Nat.div_eq_of_lt bound, Nat.mod_eq_of_lt bound]

/-- The groups of an even number of bytes have these bytes, by induction on the pairs. -/
theorem bytesOf_groupsOf {bytes} (even : bytes.length % 2 = 0)
    : bytesOf (groupsOf bytes) = bytes := by
  fun_induction groupsOf bytes with
  | case1 high low rest ih =>
    have evenRest : rest.length % 2 = 0 := by
      rw [length_cons, length_cons] at even
      omega
    simpa [bytesOf, groupBytes_pair] using ih evenRest
  | case2 bytes other =>
    match bytes, other, even with
    | [], _, _ => rfl
    | high :: low :: rest, other, _ => exact absurd rfl (other high low rest)

theorem lt_of_mem_groupsOf {bytes} (member : group ∈ groupsOf bytes) : group < 65536 := by
  fun_induction groupsOf bytes with
  | case1 high low rest ih =>
    rcases mem_cons.mp member with rfl | later
    · have highBound := high.toNat_lt
      have lowBound := low.toNat_lt
      omega
    · exact ih later
  | case2 => cases member

theorem length_bytesOf (groups : List ℕ) : (bytesOf groups).length = 2 * groups.length := by
  simp [bytesOf, groupBytes, length_flatMap, Nat.mul_comm]

/-- The groups from `start` to `stop` are zero, and at least two. -/
structure ZeroRun (groups : List ℕ) (start stop : ℕ) : Prop where
  several : start + 2 ≤ stop
  within : stop ≤ groups.length
  zeros : groups = groups.take start ++ (replicate (stop - start) 0 ++ groups.drop stop)

theorem ZeroRun.of_takeWhile (groups : List ℕ) (start)
    (several : 2 ≤ ((groups.drop start).takeWhile (· == 0)).length)
    : ZeroRun groups start (start + ((groups.drop start).takeWhile (· == 0)).length) := by
  have whole : (groups.drop start).takeWhile (· == 0) ++ (groups.drop start).dropWhile (· == 0)
      = groups.drop start := takeWhile_append_dropWhile
  have zeros : (groups.drop start).takeWhile (· == 0)
      = replicate ((groups.drop start).takeWhile (· == 0)).length 0 := by
    refine eq_replicate_of_mem ?_
    intro group member
    simpa using mem_takeWhile_imp member
  generalize (groups.drop start).takeWhile (· == 0) = run,
    (groups.drop start).dropWhile (· == 0) = rest at whole zeros several ⊢
  have lengths := congrArg length whole
  rw [length_append, length_drop] at lengths
  have after : groups.drop (start + run.length) = rest := by
    rw [← drop_drop, ← whole, drop_left]
  refine ⟨by omega, by omega, ?_⟩
  rw [after, Nat.add_sub_cancel_left, ← zeros, whole, take_append_drop]

variable {groups : List ℕ}

/-- The run that is left out is one, by induction on the search. -/
theorem zeroRun_of_eq_some {start stop} (found : zeroRun groups = some (start, stop))
    : ZeroRun groups start stop := by
  have search : ∀ (positions : List ℕ) (best : Option (ℕ × ℕ)),
      (∀ run ∈ best, ZeroRun groups run.1 run.2)
      → ∀ run ∈ positions.foldl (fun best i =>
          let length := ((groups.drop i).takeWhile (· == 0)).length
          if 2 ≤ length ∧ best.elim 0 (fun run => run.2 - run.1) < length then some (i, i + length)
          else best) best,
        ZeroRun groups run.1 run.2 := by
    intro positions
    induction positions with
    | nil => exact fun best before => before
    | cons i rest ih =>
      intro best before
      refine ih _ ?_
      intro run same
      simp only at same
      split at same
      next longer =>
        cases same
        exact ZeroRun.of_takeWhile groups i longer.1
      · exact before run same
  exact search (range groups.length) none nofun (start, stop) found

/-- A character can stand in the text of groups. -/
def GroupsChar (c : Char) : Prop := c = ':' ∨ isHex c = true

theorem groupsChar_of_mem_joinGroups (member : c ∈ joinGroups groups) : GroupsChar c := by
  rcases mem_intercalate member with same | ⟨field, inFields, own⟩
  · exact .inl same
  · obtain ⟨group, _, rfl⟩ := mem_map.mp inFields
    exact .inr (isHex_of_mem_hexText own)

theorem parseAddr_of_groupsChar (colon : ':' ∈ s) (chars : ∀ c ∈ s, GroupsChar c)
    : parseAddr s = parseIPv6 s := by
  have noZone : '%' ∉ s := by
    intro member
    rcases chars '%' member with same | hex
    · exact absurd same (by decide)
    · exact absurd hex (by decide)
  have first := find?_sign (by decide) colon (by
    intro c member isSign
    rcases chars c member with same | hex
    · exact same
    · simp only [Bool.or_eq_true, beq_iff_eq] at isSign
      rcases isSign with rfl | same
      · exact absurd hex (by decide)
      · exact same)
  unfold parseAddr
  rw [if_neg noZone, first]
  rfl

theorem parseIPv6_of_isHex (hex : isHex c = true)
    : parseIPv6 (c :: s) = (parseGroups 8 (c :: s) [] none).bind expandEllipsis := by
  have different : c ≠ ':' := by
    rintro rfl
    revert hex
    decide
  unfold parseIPv6
  split <;> rename_i read
  · cases read
    exact absurd rfl different
  · cases read
    exact absurd rfl different
  · rfl

/-- The bytes of zero groups are zero, by induction on their number. -/
theorem bytesOf_replicate (count) : bytesOf (replicate count 0) = replicate (2 * count) 0 := by
  induction count with
  | zero => rfl
  | succ count ih => simpa [bytesOf, replicate_succ, Nat.mul_succ, groupBytes] using ih

variable {ip : IP}

theorem expandEllipsis_append (long : ip.bytes.length = 16) {before after count}
    (positive : 0 < count) (whole : ip.bytes = before ++ (replicate count 0 ++ after))
    : expandEllipsis ([], before ++ after, some before.length) = some ip := by
  have lengths := congrArg length whole
  simp only [length_append, length_replicate, long] at lengths
  have short : (before ++ after).length < 16 := by
    rw [length_append]
    omega
  have missing : 16 - (before ++ after).length = count := by
    rw [length_append]
    omega
  simp only [expandEllipsis, dif_pos short, some.injEq]
  refine IP.ext ?_
  change (before ++ after).take before.length
    ++ (replicate (16 - (before ++ after).length) 0 ++ (before ++ after).drop before.length)
    = ip.bytes
  rw [take_left, drop_left, missing, whole]

theorem eq_nil_of_joinGroups (empty : joinGroups groups = []) : groups = [] := by
  cases groups with
  | nil => rfl
  | cons group rest =>
    obtain ⟨c, s, begun, _⟩ := joinGroups_cons group rest
    cases begun.symm.trans empty

theorem parseIPv6_ellipsis {before after} (smallBefore : ∀ group ∈ before, group < 65536)
    (smallAfter : ∀ group ∈ after, group < 65536) (count : before.length + after.length ≤ 8)
    : parseIPv6 (joinGroups before ++ ':' :: ':' :: joinGroups after)
      = expandEllipsis ([], bytesOf before ++ bytesOf after, some (bytesOf before).length) := by
  cases before with
  | nil =>
    cases after with
    | nil => rfl
    | cons group rest =>
      obtain ⟨c, s, begun, _⟩ := joinGroups_cons group rest
      have enough : rest.length < 8 := by
        simp only [length_cons] at count
        omega
      have read := parseGroups_joinGroups smallAfter enough [] (some 0)
      rw [begun] at read ⊢
      change (parseGroups 8 (c :: s) [] (some 0)).bind expandEllipsis = _
      rw [read]
      rfl
  | cons group rest =>
    obtain ⟨c, s, begun, hex⟩ := joinGroups_cons group rest
    have rounds : 8 = 8 - (rest.length + 1) + (rest.length + 1) := by
      simp only [length_cons] at count
      omega
    have read := parseGroups_append_ellipsis smallBefore (8 - (rest.length + 1)) []
      (joinGroups after)
    rw [← rounds, nil_append] at read
    rw [begun, cons_append, parseIPv6_of_isHex hex, ← cons_append, ← begun, read]
    split
    next empty =>
      rw [eq_nil_of_joinGroups empty, bind_some]
      simp [bytesOf]
    next nonempty =>
      have enough : after.length ≤ 8 - (rest.length + 1) := by
        simp only [length_cons] at count
        omega
      obtain ⟨group, rest, isAfter⟩ := exists_cons_of_ne_nil (mt (congrArg joinGroups) nonempty)
      rw [isAfter] at smallAfter enough ⊢
      rw [parseGroups_joinGroups smallAfter enough, bind_some]

theorem parseIPv6_groupsText (long : ip.bytes.length = 16)
    : parseIPv6 (groupsText (groupsOf ip.bytes)) = some ip := by
  have bytes : bytesOf (groupsOf ip.bytes) = ip.bytes := bytesOf_groupsOf (by rw [long])
  have eight : (groupsOf ip.bytes).length = 8 := by
    have total := length_bytesOf (groupsOf ip.bytes)
    rw [bytes, long] at total
    omega
  have small : ∀ group ∈ groupsOf ip.bytes, group < 65536 := fun _ => lt_of_mem_groupsOf
  generalize groupsOf ip.bytes = groups at bytes eight small ⊢
  unfold groupsText
  split
  · -- All groups are written.
    cases groups with
    | nil => cases eight
    | cons group rest =>
      obtain ⟨c, s, begun, hex⟩ := joinGroups_cons group rest
      have within : rest.length < 8 := by
        rw [← eight]
        exact Nat.lt_succ_self _
      rw [begun, parseIPv6_of_isHex hex, ← begun, parseGroups_joinGroups small within,
        nil_append, bytes]
      simp only [bind_some, expandEllipsis, dif_pos long]
  next start stop found =>
    obtain ⟨several, within, zeros⟩ := zeroRun_of_eq_some found
    have whole : ip.bytes = bytesOf (groups.take start)
        ++ (replicate (2 * (stop - start)) 0 ++ bytesOf (groups.drop stop)) := by
      calc ip.bytes
          = bytesOf groups := bytes.symm
        _ = bytesOf (groups.take start
              ++ (replicate (stop - start) 0 ++ groups.drop stop)) := by rw [← zeros]
        _ = _ := by
          rw [bytesOf, flatMap_append, flatMap_append, ← bytesOf, ← bytesOf, ← bytesOf,
            bytesOf_replicate]
    have count : (groups.take start).length + (groups.drop stop).length ≤ 8 := by
      rw [length_take, length_drop, eight]
      omega
    rw [parseIPv6_ellipsis (fun group member => small group (mem_of_mem_take member))
      (fun group member => small group (mem_of_mem_drop member)) count]
    exact expandEllipsis_append long (by omega) whole

theorem groupsChar_of_mem_groupsText (member : c ∈ groupsText groups) : GroupsChar c := by
  unfold groupsText at member
  split at member
  · exact groupsChar_of_mem_joinGroups member
  · rw [mem_append, mem_cons, mem_cons] at member
    rcases member with before | same | same | after
    · exact groupsChar_of_mem_joinGroups before
    · exact .inl same
    · exact .inl same
    · exact groupsChar_of_mem_joinGroups after

theorem colon_mem_groupsText (several : 2 ≤ groups.length) : ':' ∈ groupsText groups := by
  unfold groupsText
  split
  · match groups, several with
    | group :: next :: others, _ =>
      simp [joinGroups_cons_cons]
  · simp

theorem IP.exists_ofOctets (four : ip.bytes.length = 4) : ∃ a b c d, ip = ofOctets a b c d := by
  match ip, four with
  | ⟨[a, b, c, d], _⟩, _ => exact ⟨a, b, c, d, rfl⟩

theorem parseIP_toString (ip : IP) : parseIP ip.toString = some ip.to16 := by
  unfold parseIP IP.toString
  split
  next ip4 found =>
    rw [← IP.to16_of_to4 found]
    obtain ⟨a, b, c, d, rfl⟩ := IP.exists_ofOctets (IP.length_of_to4 found)
    have read := parseAddr_intercalate a b c d
    rw [String.toList_ofList]
    exact congrArg (Option.map IP.to16) read
  next none4 =>
    have same := IP.to16_of_to4_eq_none none4
    have long : ip.bytes.length = 16 := by
      rw [← same]
      exact ip.length_to16
    have several : 2 ≤ (groupsOf ip.bytes).length := by
      have total := length_bytesOf (groupsOf ip.bytes)
      rw [bytesOf_groupsOf (by rw [long]), long] at total
      omega
    rw [String.toList_ofList, parseAddr_of_groupsChar (colon_mem_groupsText several)
      fun _ => groupsChar_of_mem_groupsText, parseIPv6_groupsText long]
    rfl

end

open List Option Text

def AddrChar (c : Char) : Prop :=
  isHex c = true ∨ c = '.' ∨ c = ':'
  deriving Decidable

variable {c : Char}

theorem isHex_of_isDigit (digit : c.isDigit = true) : isHex c = true := by
  have range : '0' ≤ c ∧ c ≤ '9' := by
    rwa [Char.isDigit, Bool.and_eq_true, decide_eq_true_iff, decide_eq_true_iff] at digit
  rw [isHex, hexVal, if_pos range]
  rfl

variable {ip : IP}

theorem IP.addrChar_of_mem_toString (member : c ∈ ip.toString.toList) : AddrChar c := by
  unfold toString at member
  split at member
  · rw [String.toList_ofList] at member
    rcases mem_intercalate member with same | ⟨field, inFields, own⟩
    · exact .inr (.inl same)
    · obtain ⟨byte, _, rfl⟩ := mem_map.mp inFields
      exact .inl (isHex_of_isDigit (isDigit_of_mem_decimalText own))
  next none4 =>
    rw [String.toList_ofList] at member
    rcases groupsChar_of_mem_groupsText member with same | hex
    · exact .inr (.inr same)
    · exact .inl hex

variable {s : List Char}

theorem isDigit_of_parseOctet {byte} (read : parseOctet s = some byte)
    : ∀ c ∈ s, c.isDigit = true := by
  unfold parseOctet at read
  split at read
  next fits => exact all_eq_true.mp fits.2.1
  · cases read

theorem addrChar_of_parseIPv4 (read : parseIPv4 s = some ip) : ∀ c ∈ s, AddrChar c := by
  have fields : ∀ field ∈ s.splitOn '.', ∀ c ∈ field, c.isDigit = true := by
    unfold parseIPv4 at read
    split at read
    next a b c d text =>
      simp only [bind_eq_bind, bind_eq_some_iff] at read
      obtain ⟨_, readA, _, readB, _, readC, _, readD, _⟩ := read
      rw [text]
      intro field member
      simp only [mem_cons, not_mem_nil, or_false] at member
      rcases member with rfl | rfl | rfl | rfl
      · exact isDigit_of_parseOctet readA
      · exact isDigit_of_parseOctet readB
      · exact isDigit_of_parseOctet readC
      · exact isDigit_of_parseOctet readD
    · cases read
  intro c member
  have joined : ['.'].intercalate (s.splitOn '.') = s := intercalate_splitOn '.'
  rw [← joined] at member
  rcases mem_intercalate member with same | ⟨field, inFields, own⟩
  · exact .inr (.inl same)
  · exact .inl (isHex_of_isDigit (fields field inFields c own))

variable {ellipsis : Option ℕ}

/-- What the loop over the groups uses up are characters of an address, by induction on the
rounds.
-/
theorem addrChar_of_parseGroups {rounds ip ip' ellipsis'}
    (read : parseGroups rounds s ip ellipsis = some ([], ip', ellipsis'))
    : ∀ c ∈ s, AddrChar c := by
  induction rounds generalizing s ip ellipsis with
  | zero =>
    cases read
    nofun
  | succ rounds ih =>
    have digits : ∀ c ∈ s.takeWhile isHex, AddrChar c :=
      fun c member => .inl (mem_takeWhile_imp member)
    have whole : s.takeWhile isHex ++ s.dropWhile isHex = s := takeWhile_append_dropWhile
    have after : (∀ c ∈ s.dropWhile isHex, AddrChar c) → ∀ c ∈ s, AddrChar c := by
      intro rest c member
      rw [← whole, mem_append] at member
      exact member.elim (digits c) (rest c)
    have colon : AddrChar ':' := .inr (.inr rfl)
    simp only [parseGroups] at read
    split at read
    · cases read
    split at read
    next done => exact after (by rw [done]; nofun)
    · split at read
      · cases read
      · obtain ⟨ip4, read4, _⟩ := map_eq_some_iff.mp read
        exact addrChar_of_parseIPv4 read4
    · cases read
    next rest text =>
      refine after ?_
      rw [text]
      have later : ∀ c ∈ rest, AddrChar c := by
        split at read
        · cases read
        split at read
        next empty =>
          rw [empty]
          nofun
        · exact ih read
      exact forall_mem_cons.mpr ⟨colon, forall_mem_cons.mpr ⟨colon, later⟩⟩
    next rest text =>
      refine after ?_
      rw [text]
      exact forall_mem_cons.mpr ⟨colon, ih read⟩
    · cases read

theorem addrChar_of_bind (read : (parseGroups 8 s [] ellipsis).bind expandEllipsis = some ip)
    : ∀ c ∈ s, AddrChar c := by
  obtain ⟨⟨leftover, bytes, ellipsis'⟩, groups, expanded⟩ := bind_eq_some_iff.mp read
  cases leftover with
  | nil => exact addrChar_of_parseGroups groups
  | cons c s => cases expanded

theorem addrChar_of_parseIPv6 (read : parseIPv6 s = some ip) : ∀ c ∈ s, AddrChar c := by
  have colon : AddrChar ':' := .inr (.inr rfl)
  unfold parseIPv6 at read
  split at read
  · exact forall_mem_cons.mpr ⟨colon, forall_mem_cons.mpr ⟨colon, forall_mem_nil _⟩⟩
  · exact forall_mem_cons.mpr ⟨colon, forall_mem_cons.mpr ⟨colon, addrChar_of_bind read⟩⟩
  · exact addrChar_of_bind read

theorem addrChar_of_parseIP {s} (read : parseIP s = some ip) : ∀ c ∈ s.toList, AddrChar c := by
  obtain ⟨addr, parsed, _⟩ := map_eq_some_iff.mp read
  unfold parseAddr at parsed
  split at parsed
  · cases parsed
  split at parsed
  · exact addrChar_of_parseIPv4 parsed
  · exact addrChar_of_parseIPv6 parsed
  · cases parsed

theorem AddrChar.range (char : AddrChar c) : '.' ≤ c ∧ c ≤ 'f' := by
  rcases char with hex | rfl | rfl
  · unfold isHex hexVal at hex
    split at hex
    next digit => exact ⟨Char.le_trans (by decide) digit.1, Char.le_trans digit.2 (by decide)⟩
    · split at hex
      next lower => exact ⟨Char.le_trans (by decide) lower.1, lower.2⟩
      · split at hex
        next upper => exact ⟨Char.le_trans (by decide) upper.1, Char.le_trans upper.2 (by decide)⟩
        · cases hex
  · decide
  · decide

theorem AddrChar.isSpace (char : AddrChar c) : isSpace c = false := by
  have outside : ∀ x ∈ ['\t', '\n', '\u000b', '\u000c', '\r', ' ', '\u0085', '\u00a0', '\u1680',
      '\u2028', '\u2029', '\u202f', '\u205f', '\u3000'], ¬('.' ≤ x ∧ x ≤ 'f') := by
    simp
  rw [Text.isSpace, Bool.or_eq_false_iff, Bool.and_eq_false_imp, decide_eq_false_iff_not]
  refine ⟨fun member => outside c member char.range, ?_⟩
  intro above
  exact absurd (Char.le_trans (of_decide_eq_true above) char.range.2) (by decide)

theorem splitHostPort_toString (ip : IP) {port} (plain : PlainPort port.toList)
    : splitHostPort (joinHostPort ip.toString port) = .ok (ip.toString, port) := by
  refine splitHostPort_joinHostPort ?_ ?_ plain
  · exact fun member => absurd (ip.addrChar_of_mem_toString member) (by decide)
  · exact fun member => absurd (ip.addrChar_of_mem_toString member) (by decide)

end HelsterApi.Net
