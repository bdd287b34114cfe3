import Mathlib.Data.List.Basic

/-! Comparison of names that ignores surrounding white space and the case of letters. The names
compared with are ASCII, so only characters whose case folds to an ASCII letter matter.
-/

namespace HelsterApi.Text

def isSpace (c : Char) : Bool :=
  c ∈ ['\t', '\n', '\u000b', '\u000c', '\r', ' ', '\u0085', '\u00a0', '\u1680', '\u2028',
    '\u2029', '\u202f', '\u205f', '\u3000']
  || ('\u2000' ≤ c && c ≤ '\u200a')

def trimSpace (s : String) : List Char :=
  ((s.toList.dropWhile isSpace).reverse.dropWhile isSpace).reverse

/-- A text without white space has none at its front. -/
theorem dropWhile_isSpace {s : List Char} (clean : ∀ c ∈ s, isSpace c = false)
    : s.dropWhile isSpace = s := by
  cases s with
  | nil => rfl
  | cons c s => rw [List.dropWhile_cons_of_neg (by simp [clean c List.mem_cons_self])]

/-- A text without white space is trimmed already. -/
theorem trimSpace_eq {s : String} (clean : ∀ c ∈ s.toList, isSpace c = false)
    : trimSpace s = s.toList := by
  unfold trimSpace
  rw [dropWhile_isSpace clean,
    dropWhile_isSpace fun c member => clean c (List.mem_reverse.mp member),
    List.reverse_reverse]

/-- The lower-case ASCII letter that a character folds to; other characters stay. -/
def foldChar (c : Char) : Char :=
  if c = '\u017f' then 's' else if c = '\u212a' then 'k' else c.toLower

def equalFold (s : List Char) (name : String) : Bool := s.map foldChar = name.toList.map foldChar

def names (s name : String) : Bool := equalFold (trimSpace s) name

/-- `unicode.ToLower`: ASCII letters lose their case, and no other character becomes a dot. -/
structure LowerCase where
  toLower : Char → Char
  ascii : ∀ c, c.toNat < 128 → toLower c = c.toLower
  dot : ∀ c, toLower c = '.' → c = '.'

def LowerCase.asciiOnly : LowerCase where
  toLower c := if c.toNat < 128 then c.toLower else c
  ascii _ small := if_pos small
  dot c lowered := by
    have all : ∀ n < 128, (Char.ofNat n).toLower = '.' → Char.ofNat n = '.' := by decide
    split at lowered
    next small =>
      have same := all c.toNat small
      rw [Char.ofNat_toNat] at same
      exact same lowered
    · exact lowered

end HelsterApi.Text
