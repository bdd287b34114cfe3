import Mathlib.Data.List.Basic

/-! Internet addresses as byte strings and as text, after the packages `net` and `net/netip`. An
IPv4 address has a form of four bytes and one of sixteen, and all that is asked is the same for
both.
-/

namespace HelsterApi.Net

open List

/-- An address as its bytes: four, or sixteen. -/
structure IP where
  bytes : List UInt8
  sized : bytes.length = 4 ∨ bytes.length = 16
  deriving DecidableEq

/-- A fact of all bytes is one of the numbers below 256. -/
theorem forall_byte {P : UInt8 → Prop} (all : ∀ n < 256, P (UInt8.ofNat n)) (byte) : P byte := by
  have own := all byte.toNat byte.toNat_lt
  rwa [UInt8.ofNat_toNat] at own

def v4InV6Prefix : List UInt8 := [0, 0, 0, 0, 0, 0, 0, 0, 0, 0, 0xff, 0xff]

namespace IP

def byte (ip : IP) (i : ℕ) : UInt8 := ip.bytes.getD i 0

/-- An IPv4 address in its form of four bytes. -/
def ofOctets (a b c d : UInt8) : IP := ⟨[a, b, c, d], .inl rfl⟩

/-- `net.IPv4`: an IPv4 address in its form of sixteen bytes. -/
def ipv4 (a b c d : UInt8) : IP := ⟨v4InV6Prefix ++ [a, b, c, d], .inr rfl⟩

def ipv4Zero : IP := ipv4 0 0 0 0

def ipv6Unspecified : IP := ⟨replicate 16 0, .inr rfl⟩

def ipv6Loopback : IP := ⟨replicate 15 0 ++ [1], .inr rfl⟩

variable {ip : IP}

/-- An address that is not of four bytes has four after the first twelve. -/
theorem length_drop_of_ne (long : ip.bytes.length ≠ 4) : (ip.bytes.drop 12).length = 4 := by
  have wide := ip.sized.resolve_left long
  rw [length_drop, wide]

/-- `To4`: the form of four bytes; `none` for an address that is not IPv4. -/
def to4 (ip : IP) : Option IP :=
  if short : ip.bytes.length = 4 then some ip
  else if ip.bytes.take 12 = v4InV6Prefix then
    some ⟨ip.bytes.drop 12, .inl (length_drop_of_ne short)⟩
  else none

/-- `To16`: the form of sixteen bytes. -/
def to16 (ip : IP) : IP :=
  if short : ip.bytes.length = 4 then
    ⟨v4InV6Prefix ++ ip.bytes, .inr (by rw [length_append, short]; rfl)⟩
  else ip

/-- The form of four bytes if there is one. -/
def short (ip : IP) : IP := ip.to4.getD ip

/-- `Equal`: an IPv4 address is the same in both forms. -/
def equal (ip x : IP) : Bool :=
  if ip.bytes.length = x.bytes.length then ip.bytes == x.bytes
  else if ip.bytes.length = 4 then x.bytes.take 12 == v4InV6Prefix && ip.bytes == x.bytes.drop 12
  else ip.bytes.take 12 == v4InV6Prefix && ip.bytes.drop 12 == x.bytes

def isUnspecified (ip : IP) : Bool := ip.equal ipv4Zero || ip.equal ipv6Unspecified

def isLoopback (ip : IP) : Bool :=
  match ip.to4 with
  | some ip4 => ip4.byte 0 == 127
  | none => ip.equal ipv6Loopback

def isPrivate (ip : IP) : Bool :=
  match ip.to4 with
  | some ip4 =>
    ip4.byte 0 == 10 || (ip4.byte 0 == 172 && ip4.byte 1 &&& 0xf0 == 16)
      || (ip4.byte 0 == 192 && ip4.byte 1 == 168)
  | none => ip.bytes.length == 16 && ip.byte 0 &&& 0xfe == 0xfc

def isInterfaceLocalMulticast (ip : IP) : Bool :=
  ip.bytes.length == 16 && ip.byte 0 == 0xff && ip.byte 1 &&& 0x0f == 0x01

def isLinkLocalMulticast (ip : IP) : Bool :=
  match ip.to4 with
  | some ip4 => ip4.byte 0 == 224 && ip4.byte 1 == 0 && ip4.byte 2 == 0
  | none => ip.bytes.length == 16 && ip.byte 0 == 0xff && ip.byte 1 &&& 0x0f == 0x02

def isLinkLocalUnicast (ip : IP) : Bool :=
  match ip.to4 with
  | some ip4 => ip4.byte 0 == 169 && ip4.byte 1 == 254
  | none => ip.bytes.length == 16 && ip.byte 0 == 0xfe && ip.byte 1 &&& 0xc0 == 0x80

/-- An address is its bytes. -/
@[ext]
theorem ext {x} (same : ip.bytes = x.bytes) : ip = x := by
  cases ip
  cases x
  cases same
  rfl

/-- Four bytes are an IPv4 address already. -/
theorem to4_of_length (four : ip.bytes.length = 4) : ip.to4 = some ip := by
  rw [to4, dif_pos four]

variable {ip4 : IP}

/-- An IPv4 address has four bytes. -/
theorem length_of_to4 (found : ip.to4 = some ip4) : ip4.bytes.length = 4 := by
  unfold to4 at found
  split at found
  next four =>
    cases found
    exact four
  next long =>
    split at found <;> cases found
    exact length_drop_of_ne long

/-- Writing an address with 16 bytes does not change which IPv4 address it is. -/
theorem to4_to16 (ip : IP) : ip.to16.to4 = ip.to4 := by
  unfold to16
  split
  next four =>
    rw [to4_of_length four]
    have long : (v4InV6Prefix ++ ip.bytes).length ≠ 4 := by
      rw [length_append, four]
      decide
    have taken : (v4InV6Prefix ++ ip.bytes).take 12 = v4InV6Prefix := take_left' rfl
    have dropped : (v4InV6Prefix ++ ip.bytes).drop 12 = ip.bytes := drop_left' rfl
    rw [to4, dif_neg long, if_pos taken]
    exact congrArg some (ext dropped)
  · rfl

/-- The long form has 16 bytes. -/
theorem length_to16 (ip : IP) : ip.to16.bytes.length = 16 := by
  unfold to16
  split
  next four =>
    rw [length_append, four]
    rfl
  next long => exact ip.sized.resolve_left long

/-- What is not IPv4 is long already. -/
theorem to16_of_to4_eq_none (none4 : ip.to4 = none) : ip.to16 = ip := by
  unfold to16
  split
  next four => simp [to4_of_length four] at none4
  · rfl

/-- The long form of four bytes has them after the mapped prefix. -/
theorem bytes_to16_of_length (four : ip.bytes.length = 4)
    : ip.to16.bytes = v4InV6Prefix ++ ip.bytes := by
  rw [to16, dif_pos four]

/-- Sixteen bytes are long already. -/
theorem to16_of_length (long : ip.bytes.length = 16) : ip.to16 = ip := by
  rw [to16, dif_neg (by rw [long]; decide)]

/-- Bytes that begin with the mapped prefix are split after it in one way. -/
theorem append_eq_iff (octets bytes : List UInt8)
    : v4InV6Prefix ++ octets = bytes
      ↔ bytes.take 12 = v4InV6Prefix ∧ octets = bytes.drop 12 := by
  constructor
  · rintro rfl
    have dropped : (v4InV6Prefix ++ octets).drop 12 = octets := drop_left' rfl
    exact ⟨take_left' rfl, dropped.symm⟩
  · rintro ⟨taken, rfl⟩
    rw [← taken, take_append_drop]

/-- An address and the IPv4 address it stands for have one long form. -/
theorem to16_of_to4 (found : ip.to4 = some ip4) : ip4.to16 = ip.to16 := by
  have four := length_of_to4 found
  unfold to4 at found
  split at found
  · cases found
    rfl
  next long =>
    split at found <;> cases found
    rename_i mapped
    rw [to16_of_length (ip.sized.resolve_left long)]
    refine ext ?_
    rw [bytes_to16_of_length four]
    exact (append_eq_iff _ _).mpr ⟨mapped, rfl⟩

/-- No IPv4 address is interface-local multicast. -/
theorem interfaceLocal_of_to4 (found : ip.to4 = some ip4)
    : ip.isInterfaceLocalMulticast = false := by
  have bytes := bytes_to16_of_length (length_of_to4 found)
  rw [to16_of_to4 found] at bytes
  unfold isInterfaceLocalMulticast byte
  rcases ip.sized with four | long
  · simp [four]
  · rw [to16_of_length long] at bytes
    rw [bytes]
    simp [v4InV6Prefix]

/-- Addresses are equal exactly if their long forms are. -/
theorem equal_iff (ip x : IP) : ip.equal x = true ↔ ip.to16 = x.to16 := by
  rw [IP.ext_iff]
  unfold equal
  rcases ip.sized with four | long <;> rcases x.sized with four' | long'
  · rw [if_pos (four.trans four'.symm), bytes_to16_of_length four, bytes_to16_of_length four',
      beq_iff_eq, append_cancel_left_eq]
  · rw [if_neg (by rw [four, long']; decide), if_pos four, bytes_to16_of_length four,
      to16_of_length long', append_eq_iff, Bool.and_eq_true, beq_iff_eq, beq_iff_eq]
  · rw [if_neg (by rw [long, four']; decide), if_neg (by rw [long]; decide),
      bytes_to16_of_length four', to16_of_length long, Bool.and_eq_true, beq_iff_eq,
      beq_iff_eq, @eq_comm _ ip.bytes, append_eq_iff, @eq_comm _ x.bytes]
  · rw [if_pos (long.trans long'.symm), to16_of_length long, to16_of_length long', beq_iff_eq]

end IP

/-- A network: its number and its mask. -/
structure IPNet where
  ip : IP
  mask : List UInt8
  deriving DecidableEq

def maskByte (ones : ℕ) : UInt8 :=
  if 8 ≤ ones then 0xff else ~~~(0xff >>> UInt8.ofNat ones)

def cidrMask (ones : ℕ) : ℕ → List UInt8
  | 0 => []
  | bytes + 1 => maskByte ones :: cidrMask (ones - 8) bytes

/-- `networkNumberAndMask`, without bytes for a network that contains no address. -/
def IPNet.networkNumberAndMask (n : IPNet) : List UInt8 × List UInt8 :=
  if n.mask.length = 4 then
    if n.ip.short.bytes.length = 4 then (n.ip.short.bytes, n.mask) else ([], [])
  else if n.mask.length = 16 then
    if n.ip.short.bytes.length = 4 then (n.ip.short.bytes, n.mask.drop 12)
    else (n.ip.short.bytes, n.mask)
  else ([], [])

def masked (bytes mask : List UInt8) : List UInt8 := zipWith (· &&& ·) bytes mask

def IPNet.contains (n : IPNet) (ip : IP) : Bool :=
  ip.short.bytes.length == n.networkNumberAndMask.1.length
    && masked n.networkNumberAndMask.1 n.networkNumberAndMask.2
      == masked ip.short.bytes n.networkNumberAndMask.2

/-- A masked address is as long as its mask. -/
theorem length_masked {bytes mask} (same : bytes.length = mask.length)
    : (masked bytes mask).length = mask.length := by
  rw [masked, length_zipWith, same, Nat.min_self]

/-- `Mask`: the address under a mask, in the form of the mask's size; `none` if there is no
such form.
-/
def IP.mask (ip : IP) (mask : List UInt8) : Option IP :=
  let mask := if mask.length = 16 ∧ ip.bytes.length = 4 ∧ mask.take 12 = replicate 12 0xff
    then mask.drop 12 else mask
  let bytes := if mask.length = 4 ∧ ip.bytes.length = 16 ∧ ip.bytes.take 12 = v4InV6Prefix
    then ip.bytes.drop 12 else ip.bytes
  if fits : bytes.length = mask.length ∧ (mask.length = 4 ∨ mask.length = 16) then
    some ⟨masked bytes mask, by rw [length_masked fits.1]; exact fits.2⟩
  else none

/-- The short form does not depend on how the address is written. -/
theorem IP.bytes_short_to16 (ip : IP) : ip.to16.short.bytes = ip.short.bytes := by
  unfold short
  rw [ip.to4_to16]
  cases found : ip.to4 with
  | some ip4 => rfl
  | none => rw [to16_of_to4_eq_none found]

/-- Nor does it matter for being in a network. -/
theorem IPNet.contains_to16 (n : IPNet) (ip : IP) : n.contains ip.to16 = n.contains ip := by
  unfold contains
  rw [ip.bytes_short_to16]

/-- Nor for being equal to another address. -/
theorem IP.equal_to16 (ip x : IP) : ip.to16.equal x = ip.equal x := by
  rw [Bool.eq_iff_iff, equal_iff, equal_iff, to16_of_length ip.length_to16]

variable (s : List Char)

/-- One field of a dotted address: decimal digits without a leading zero, up to 255. -/
def parseOctet : Option UInt8 :=
  if s ≠ [] ∧ s.all Char.isDigit ∧ (s.head? = some '0' → s.length = 1)
      ∧ Nat.ofDigitChars 10 s 0 ≤ 255 then
    some (UInt8.ofNat (Nat.ofDigitChars 10 s 0))
  else none

/-- `parseIPv4Fields`: four fields between dots. -/
def parseIPv4 : Option IP :=
  match s.splitOn '.' with
  | [a, b, c, d] => do
      let a ← parseOctet a
      let b ← parseOctet b
      let c ← parseOctet c
      let d ← parseOctet d
      some (IP.ofOctets a b c d)
  | _ => none

def hexVal (c : Char) : Option ℕ :=
  if '0' ≤ c ∧ c ≤ '9' then some (c.toNat - '0'.toNat)
  else if 'a' ≤ c ∧ c ≤ 'f' then some (c.toNat - 'a'.toNat + 10)
  else if 'A' ≤ c ∧ c ≤ 'F' then some (c.toNat - 'A'.toNat + 10)
  else none

def isHex (c : Char) : Bool := (hexVal c).isSome

def hexValue (digits : List Char) : ℕ := digits.foldl (fun acc c => 16 * acc + (hexVal c).getD 0) 0

def groupBytes (group : ℕ) : List UInt8 := [UInt8.ofNat (group / 256), UInt8.ofNat (group % 256)]

/-- The loop of `parseIPv6` over the groups, with the rounds left, the text left, the bytes so far
and the position of the ellipsis.
-/
def parseGroups
    : ℕ → List Char → List UInt8 → Option ℕ → Option (List Char × List UInt8 × Option ℕ)
  | 0, s, ip, ellipsis => some (s, ip, ellipsis)
  | rounds + 1, s, ip, ellipsis =>
    let digits := s.takeWhile isHex
    let bytes := ip ++ groupBytes (hexValue digits)
    if digits.length = 0 ∨ 4 < digits.length then none
    else
      match s.dropWhile isHex with
      | [] => some ([], bytes, ellipsis)
      | '.' :: _ =>
        -- An embedded IPv4 address takes the place of the last two groups.
        if (ellipsis = none ∧ ip.length ≠ 12) ∨ 16 < ip.length + 4 then none
        else (parseIPv4 s).map fun ip4 => ([], ip ++ ip4.bytes, ellipsis)
      | [':'] => none
      | ':' :: ':' :: rest =>
        if ellipsis.isSome then none
        else if rest = [] then some ([], bytes, some bytes.length)
        else parseGroups rounds rest bytes (some bytes.length)
      | ':' :: rest => parseGroups rounds rest bytes ellipsis
      | _ => none

/-- The end of `parseIPv6`: the whole text is used and the ellipsis stands for the missing bytes, at
least one group.
-/
def expandEllipsis : List Char × List UInt8 × Option ℕ → Option IP
  | (_ :: _, _, _) => none
  | ([], ip, none) => if long : ip.length = 16 then some ⟨ip, .inr long⟩ else none
  | ([], ip, some ellipsis) =>
    if short : ip.length < 16 then
      some ⟨ip.take ellipsis ++ (replicate (16 - ip.length) 0 ++ ip.drop ellipsis), .inr (by
        simp only [length_append, length_take, length_replicate, length_drop]
        omega)⟩
    else none

def parseIPv6 : List Char → Option IP
  | [':', ':'] => some IP.ipv6Unspecified
  | ':' :: ':' :: s => (parseGroups 8 s [] (some 0)).bind expandEllipsis
  | s => (parseGroups 8 s [] none).bind expandEllipsis

/-- `netip.ParseAddr`, but that an address with a zone is refused, as its callers do: the first sign
decides.
-/
def parseAddr : Option IP :=
  if '%' ∈ s then none
  else
    match s.find? fun c => c == '.' || c == ':' with
    | some '.' => parseIPv4 s
    | some ':' => parseIPv6 s
    | _ => none

/-- `net.ParseIP`: the address in its form of sixteen bytes. -/
def parseIP (s : String) : Option IP := (parseAddr s.toList).map IP.to16

def parsePrefixLength (bits : ℕ) : Option ℕ :=
  if s ≠ [] ∧ s.all Char.isDigit ∧ Nat.ofDigitChars 10 s 0 ≤ bits then
    some (Nat.ofDigitChars 10 s 0)
  else none

def parseCIDR (s : String) : Option IPNet := do
  let addr := s.toList.takeWhile (· ≠ '/')
  let length ← (s.toList.dropWhile (· ≠ '/')).tail?
  let ip ← parseAddr addr
  let ones ← parsePrefixLength length (8 * ip.bytes.length)
  let mask := cidrMask ones ip.bytes.length
  let number ← ip.to16.mask mask
  some ⟨number, mask⟩

def decimalText (byte : UInt8) : List Char := Nat.toDigits 10 byte.toNat

def hexText (group : ℕ) : List Char := Nat.toDigits 16 group

def groupsOf : List UInt8 → List ℕ
  | high :: low :: rest => (256 * high.toNat + low.toNat) :: groupsOf rest
  | _ => []

variable (groups : List ℕ)

def joinGroups : List Char := [':'].intercalate (groups.map hexText)

/-- The run of zero groups that `appendTo6` leaves out, from start to end: the first of the longest
ones, of at least two groups.
-/
def zeroRun : Option (ℕ × ℕ) :=
  (range groups.length).foldl (fun best i =>
    let length := ((groups.drop i).takeWhile (· == 0)).length
    if 2 ≤ length ∧ best.elim 0 (fun run => run.2 - run.1) < length then some (i, i + length)
    else best) none

/-- `appendTo6`: the groups, with an ellipsis for the run of zeros. -/
def groupsText : List Char :=
  match zeroRun groups with
  | none => joinGroups groups
  | some (start, stop) =>
    joinGroups (groups.take start) ++ ':' :: ':' :: joinGroups (groups.drop stop)

/-- `IP.String`: an IPv4 address, in both its forms, is written with dots. -/
def IP.toString (ip : IP) : String :=
  match ip.to4 with
  | some ip4 => String.ofList (['.'].intercalate (ip4.bytes.map decimalText))
  | none => String.ofList (groupsText (groupsOf ip.bytes))

end HelsterApi.Net
