import Mathlib.Algebra.Order.Ring.Int
import Mathlib.Data.List.Basic

/-! Network addresses made of a host and a port, after `net`, and decimal numbers, after `strconv`.
-/

namespace HelsterApi.Net

open List

def splitLastColon (s : List Char) : Option (List Char × List Char) :=
  if ':' ∈ s then
    let port := (s.reverse.takeWhile (· ≠ ':')).reverse
    some (s.take (s.length - (port.length + 1)), port)
  else none

def addrError (addr why : String) : String := "address " ++ addr ++ ": " ++ why

/-- `SplitHostPort`: the port stands after the last colon, and a host with colons between
brackets.
-/
def splitHostPort (hostport : String) : Except String (String × String) :=
  let s := hostport.toList
  match splitLastColon s with
  | none => .error (addrError hostport "missing port in address")
  | some (before, port) =>
    match s with
    | '[' :: inner =>
      if ']' ∉ inner then .error (addrError hostport "missing ']' in address")
      else
        let host := inner.takeWhile (· ≠ ']')
        let rest := (inner.dropWhile (· ≠ ']')).tail
        if rest = [] then .error (addrError hostport "missing port in address")
        else if before.length = host.length + 2 then
          if '[' ∈ inner then .error (addrError hostport "unexpected '[' in address")
          else if ']' ∈ rest then .error (addrError hostport "unexpected ']' in address")
          else .ok (String.ofList host, String.ofList port)
        else if rest.head? = some ':' then .error (addrError hostport "too many colons in address")
        else .error (addrError hostport "missing port in address")
    | _ =>
      if ':' ∈ before then .error (addrError hostport "too many colons in address")
      else if '[' ∈ s then .error (addrError hostport "unexpected '[' in address")
      else if ']' ∈ s then .error (addrError hostport "unexpected ']' in address")
      else .ok (String.ofList before, String.ofList port)

def joinHostPort (host port : String) : String :=
  if ':' ∈ host.toList then "[" ++ host ++ "]:" ++ port else host ++ ":" ++ port

def unsigned : List Char → List Char
  | '-' :: digits => digits
  | '+' :: digits => digits
  | digits => digits

/-- `strconv.Atoi`: a decimal number with an optional sign that fits 64 bits. -/
def atoi (s : String) : Option ℤ :=
  let digits := unsigned s.toList
  let magnitude : ℤ := Nat.ofDigitChars 10 digits 0
  let value := if s.toList.head? = some '-' then -magnitude else magnitude
  if digits ≠ [] ∧ digits.all Char.isDigit ∧ -2 ^ 63 ≤ value ∧ value < 2 ^ 63 then some value
  else none

/-- The number that `strconv.Atoi` returns, also beside an error: zero for no number, the nearest
64-bit number for one out of range.
-/
def atoiValue (s : String) : ℤ :=
  let digits := unsigned s.toList
  let magnitude : ℤ := Nat.ofDigitChars 10 digits 0
  let value := if s.toList.head? = some '-' then -magnitude else magnitude
  if digits ≠ [] ∧ digits.all Char.isDigit then max (-2 ^ 63) (min (2 ^ 63 - 1) value) else 0

/-- A text can stand for a port: it has no colon and no bracket. -/
structure PlainPort (s : List Char) : Prop where
  colon : ':' ∉ s
  opening : '[' ∉ s
  closing : ']' ∉ s

/-- What reads as a number is a plain port. -/
theorem plainPort_of_atoi {s n} (read : atoi s = some n) : PlainPort s.toList := by
  have digits : ∀ c ∈ unsigned s.toList, c.isDigit = true := by
    simp only [atoi, Option.ite_none_right_eq_some] at read
    exact all_eq_true.mp read.1.2.1
  have signed : ∀ c ∈ s.toList, c = '-' ∨ c = '+' ∨ c.isDigit = true := by
    intro c member
    unfold unsigned at digits
    split at digits
    next rest text =>
      rw [text, mem_cons] at member
      rcases member with same | later
      · exact .inl same
      · exact .inr (.inr (digits c later))
    next rest text =>
      rw [text, mem_cons] at member
      rcases member with same | later
      · exact .inr (.inl same)
      · exact .inr (.inr (digits c later))
    · exact .inr (.inr (digits c member))
  refine ⟨?_, ?_, ?_⟩ <;> exact fun member => absurd (signed _ member) (by decide)

/-- A text is split before a port without a colon. -/
theorem splitLastColon_append {before port} (plain : ':' ∉ port)
    : splitLastColon (before ++ ':' :: port) = some (before, port) := by
  have reversed : ((before ++ ':' :: port).reverse.takeWhile (· ≠ ':')).reverse = port := by
    have all : ∀ c ∈ port.reverse, decide (c ≠ ':') = true := by
      intro c member
      refine decide_eq_true ?_
      rintro rfl
      exact plain (mem_reverse.mp member)
    rw [reverse_append, reverse_cons, append_assoc, takeWhile_append_of_pos all]
    simp
  unfold splitLastColon
  rw [if_pos (by simp)]
  simp only [reversed, length_append, length_cons, Nat.add_sub_cancel]
  rw [take_left' rfl]

/-- A plain host and its port are read back. -/
theorem splitHostPort_append {host port} (colon : ':' ∉ host)
    (opening : '[' ∉ host) (closing : ']' ∉ host) (plain : PlainPort port)
    : splitHostPort (String.ofList (host ++ ':' :: port))
      = .ok (String.ofList host, String.ofList port) := by
  have noOpening : '[' ∉ host ++ ':' :: port := by simp [opening, plain.opening]
  have noClosing : ']' ∉ host ++ ':' :: port := by simp [closing, plain.closing]
  simp only [splitHostPort, String.toList_ofList, splitLastColon_append plain.colon]
  split
  next inner bracket =>
    rw [bracket] at noOpening
    exact absurd (mem_cons_self) noOpening
  · rw [if_neg colon, if_neg noOpening, if_neg noClosing]

/-- A host in brackets and its port are read back. -/
theorem splitHostPort_brackets {host port} (opening : '[' ∉ host)
    (closing : ']' ∉ host) (plain : PlainPort port)
    : splitHostPort (String.ofList ('[' :: (host ++ ']' :: ':' :: port)))
      = .ok (String.ofList host, String.ofList port) := by
  have all : ∀ c ∈ host, decide (c ≠ ']') = true := by
    intro c member
    refine decide_eq_true ?_
    rintro rfl
    exact closing member
  have split : splitLastColon ('[' :: (host ++ ']' :: ':' :: port))
      = some ('[' :: host ++ [']'], port) := by
    have text : '[' :: (host ++ ']' :: ':' :: port) = ('[' :: host ++ [']']) ++ ':' :: port := by
      simp
    rw [text]
    exact splitLastColon_append plain.colon
  have noOpening : '[' ∉ host ++ ']' :: ':' :: port := by simp [opening, plain.opening]
  have taken : (host ++ ']' :: ':' :: port).takeWhile (· ≠ ']') = host := by
    rw [takeWhile_append_of_pos all]
    simp
  have dropped : ((host ++ ']' :: ':' :: port).dropWhile (· ≠ ']')).tail = ':' :: port := by
    rw [dropWhile_append_of_pos all]
    simp
  simp only [splitHostPort, String.toList_ofList, split]
  have closed : ¬ ']' ∉ host ++ ']' :: ':' :: port := by simp
  have rest : ']' ∉ ':' :: port := by simp [plain.closing]
  rw [if_neg closed, taken, dropped, if_neg (cons_ne_nil ':' port), if_pos (by simp),
    if_neg noOpening, if_neg rest]

/-- What `JoinHostPort` writes is read back. -/
theorem splitHostPort_joinHostPort {host port} (opening : '[' ∉ host.toList)
    (closing : ']' ∉ host.toList) (plain : PlainPort port.toList)
    : splitHostPort (joinHostPort host port) = .ok (host, port) := by
  unfold joinHostPort
  split
  · have text : "[" ++ host ++ "]:" ++ port
        = String.ofList ('[' :: (host.toList ++ ']' :: ':' :: port.toList)) := by
      refine String.toList_inj.mp ?_
      simp
    rw [text, splitHostPort_brackets opening closing plain, String.ofList_toList,
      String.ofList_toList]
  next colon =>
    have text : host ++ ":" ++ port = String.ofList (host.toList ++ ':' :: port.toList) := by
      refine String.toList_inj.mp ?_
      simp
    rw [text, splitHostPort_append colon opening closing plain, String.ofList_toList,
      String.ofList_toList]

end HelsterApi.Net
