import HelsterApi.Net.TextRoundtrip
import HelsterApi.Ssrf.Protection

/-! Which addresses are classified as private, IPv4 addresses embedded in IPv6 addresses among them,
and the dialer of protected fetches: the host is checked, a name is resolved, each of its addresses
is checked, and then one is dialed.
-/

namespace HelsterApi.Ssrf

open List Net

section

open IP

/-- An IPv4 address is in one of the networks reserved for private or special use, whatever its last
byte.
-/
def PrivateOctets (a b c : UInt8) : Prop :=
  a = 0 ∨ a = 10 ∨ (a = 100 ∧ 64 ≤ b ∧ b ≤ 127) ∨ a = 127 ∨ (a = 169 ∧ b = 254)
    ∨ (a = 172 ∧ 16 ≤ b ∧ b ≤ 31) ∨ (a = 192 ∧ b = 0 ∧ c = 0) ∨ (a = 192 ∧ b = 0 ∧ c = 2)
    ∨ (a = 192 ∧ b = 168) ∨ (a = 198 ∧ 18 ≤ b ∧ b ≤ 19) ∨ (a = 198 ∧ b = 51 ∧ c = 100)
    ∨ (a = 203 ∧ b = 0 ∧ c = 113) ∨ 224 ≤ a
  deriving Decidable

theorem contains_ofOctets (x y z w m₀ m₁ m₂ m₃ a b c d)
    : (⟨ipv4 x y z w, [m₀, m₁, m₂, m₃]⟩ : IPNet).contains (ofOctets a b c d) = true
      ↔ a &&& m₀ = x &&& m₀ ∧ b &&& m₁ = y &&& m₁ ∧ c &&& m₂ = z &&& m₂
        ∧ d &&& m₃ = w &&& m₃ := by
  have short : (ofOctets a b c d).short.bytes = [a, b, c, d] := rfl
  have number : (ipv4 x y z w).short.bytes = [x, y, z, w] := rfl
  have compared :
      (⟨ipv4 x y z w, [m₀, m₁, m₂, m₃]⟩ : IPNet).contains (ofOctets a b c d) = true
      ↔ x &&& m₀ = a &&& m₀ ∧ y &&& m₁ = b &&& m₁ ∧ z &&& m₂ = c &&& m₂
        ∧ w &&& m₃ = d &&& m₃ := by
    simp [IPNet.contains, IPNet.networkNumberAndMask, number, short, masked]
  rw [compared, @eq_comm _ (x &&& m₀), @eq_comm _ (y &&& m₁), @eq_comm _ (z &&& m₂),
    @eq_comm _ (w &&& m₃)]

structure Masks (byte : UInt8) : Prop where
  full : byte &&& 255 = byte
  none : byte &&& 0 = 0
  two : byte &&& 192 = 64 &&& 192 ↔ 64 ≤ byte ∧ byte ≤ 127
  four : byte &&& 240 = 16 &&& 240 ↔ 16 ≤ byte ∧ byte ≤ 31
  seven : byte &&& 254 = 18 &&& 254 ↔ 18 ≤ byte ∧ byte ≤ 19
  multicast : byte &&& 240 = 224 &&& 240 ↔ 224 ≤ byte ∧ byte ≤ 239
  reserved : byte &&& 240 = 240 &&& 240 ↔ 240 ≤ byte

theorem masks (byte) : Masks byte := by
  have all : ∀ byte : UInt8, byte &&& 255 = byte ∧ byte &&& 0 = 0
      ∧ (byte &&& 192 = 64 &&& 192 ↔ 64 ≤ byte ∧ byte ≤ 127)
      ∧ (byte &&& 240 = 16 &&& 240 ↔ 16 ≤ byte ∧ byte ≤ 31)
      ∧ (byte &&& 254 = 18 &&& 254 ↔ 18 ≤ byte ∧ byte ≤ 19)
      ∧ (byte &&& 240 = 224 &&& 240 ↔ 224 ≤ byte ∧ byte ≤ 239)
      ∧ (byte &&& 240 = 240 &&& 240 ↔ 240 ≤ byte) := by
    refine forall_byte ?_
    decide +kernel
  obtain ⟨full, none, two, four, seven, multicast, reserved⟩ := all byte
  exact ⟨full, none, two, four, seven, multicast, reserved⟩

theorem multicast_or_reserved (a b c d : UInt8)
    : (224 ≤ a ∧ a ≤ 239 ∨ 240 ≤ a ∨ a = 255 ∧ b = 255 ∧ c = 255 ∧ d = 255) ↔ 224 ≤ a := by
  simp only [UInt8.le_iff_toNat_le, ← UInt8.toNat_inj, UInt8.reduceToNat]
  omega

theorem any_privateIPv4Nets (a b c d : UInt8)
    : (privateIPv4Nets.any fun privateNet => privateNet.contains (ofOctets a b c d)) = true
      ↔ PrivateOctets a b c := by
  have explicit : privateIPv4Nets = [⟨ipv4 0 0 0 0, [255, 0, 0, 0]⟩,
      ⟨ipv4 10 0 0 0, [255, 0, 0, 0]⟩, ⟨ipv4 100 64 0 0, [255, 192, 0, 0]⟩,
      ⟨ipv4 127 0 0 0, [255, 0, 0, 0]⟩, ⟨ipv4 169 254 0 0, [255, 255, 0, 0]⟩,
      ⟨ipv4 172 16 0 0, [255, 240, 0, 0]⟩, ⟨ipv4 192 0 0 0, [255, 255, 255, 0]⟩,
      ⟨ipv4 192 0 2 0, [255, 255, 255, 0]⟩, ⟨ipv4 192 168 0 0, [255, 255, 0, 0]⟩,
      ⟨ipv4 198 18 0 0, [255, 254, 0, 0]⟩, ⟨ipv4 198 51 100 0, [255, 255, 255, 0]⟩,
      ⟨ipv4 203 0 113 0, [255, 255, 255, 0]⟩, ⟨ipv4 224 0 0 0, [240, 0, 0, 0]⟩,
      ⟨ipv4 240 0 0 0, [240, 0, 0, 0]⟩, ⟨ipv4 255 255 255 255, [255, 255, 255, 255]⟩] := by
    decide +kernel
  simp only [explicit, any_cons, any_nil, Bool.or_eq_true, contains_ofOctets,
    (masks _).full, (masks _).none, (masks b).two, (masks b).four, (masks b).seven,
    (masks a).multicast, (masks a).reserved, and_true, Bool.false_eq_true, or_false,
    multicast_or_reserved, PrivateOctets]

variable {ip : IP}

theorem isPrivateIP_of_to4 {a b c d} (found : ip.to4 = some (ofOctets a b c d))
    : isPrivateIP (some ip) = true ↔ PrivateOctets a b c := by
  have long := (to16_of_to4 found).symm
  have unspecified : ip.isUnspecified = true → PrivateOctets a b c := by
    intro is
    rw [isUnspecified, Bool.or_eq_true, equal_iff, equal_iff, long] at is
    rcases is with zero | zero
    · exact .inl (congrArg (fun ip => byte ip 12) zero)
    · exact absurd (congrArg (fun ip => byte ip 10) zero)
        (show ¬(0xff : UInt8) = 0 by decide)
  have special : (ip.isLoopback || ip.isLinkLocalUnicast || ip.isLinkLocalMulticast) = true
      → PrivateOctets a b c := by
    intro is
    unfold isLoopback isLinkLocalUnicast isLinkLocalMulticast at is
    rw [found] at is
    change (a == 127 || (a == 169 && b == 254) || (a == 224 && b == 0 && c == 0)) = true at is
    simp only [Bool.or_eq_true, Bool.and_eq_true, beq_iff_eq] at is
    rcases is with (loopback | ⟨linkLocal, rest⟩) | ⟨⟨multicast, _⟩, _⟩
    · exact .inr (.inr (.inr (.inl loopback)))
    · exact .inr (.inr (.inr (.inr (.inl ⟨linkLocal, rest⟩))))
    · have high : 224 ≤ a := by
        rw [multicast]
        decide
      simp only [PrivateOctets, high, or_true]
  simp only [isPrivateIP, interfaceLocal_of_to4 found, found]
  split
  next is => exact iff_of_true rfl (unspecified is)
  · split
    next is => exact iff_of_true rfl (special is)
    · exact any_privateIPv4Nets a b c d

theorem isPrivateIP_to16 (ip : IP) : isPrivateIP (some ip.to16) = isPrivateIP (some ip) := by
  cases found : ip.to4 with
  | none => rw [to16_of_to4_eq_none found]
  | some ip4 =>
    obtain ⟨a, b, c, d, rfl⟩ := exists_ofOctets (length_of_to4 found)
    have found16 : ip.to16.to4 = some (ofOctets a b c d) := by rw [to4_to16, found]
    rw [Bool.eq_iff_iff, isPrivateIP_of_to4 found, isPrivateIP_of_to4 found16]

/-- The standard formats in which an IPv6 address embeds an IPv4 address; a 6to4 address has ten
more bytes.
-/
inductive Embedding where
  | mapped
  | compatible
  | nat64
  | sixToFour (rest : List UInt8) (sized : rest.length = 10)

def Embedding.address (a b c d : UInt8) : Embedding → IP
  | .mapped => IP.ipv4 a b c d
  | .compatible => ⟨replicate 12 0 ++ [a, b, c, d], .inr rfl⟩
  | .nat64 => ⟨[0x00, 0x64, 0xff, 0x9b, 0, 0, 0, 0, 0, 0, 0, 0, a, b, c, d], .inr rfl⟩
  | .sixToFour rest sized =>
    ⟨[0x20, 0x02, a, b, c, d] ++ rest, .inr (by rw [length_append, sized]; rfl)⟩

open HelsterApi.Ssrf.Embedding

theorem privateIPv6Nets_eq
    : privateIPv6Nets = [
      ⟨⟨replicate 16 0, .inr rfl⟩, replicate 16 255⟩,
      ⟨⟨replicate 15 0 ++ [1], .inr rfl⟩, replicate 16 255⟩,
      ⟨⟨[0, 0, 0, 0, 0, 0, 0, 0, 0, 0, 255, 255, 0, 0, 0, 0], .inr rfl⟩,
        replicate 12 255 ++ replicate 4 0⟩,
      ⟨⟨[0, 0x64, 0xff, 0x9b] ++ replicate 12 0, .inr rfl⟩, replicate 12 255 ++ replicate 4 0⟩,
      ⟨⟨[1] ++ replicate 15 0, .inr rfl⟩, replicate 8 255 ++ replicate 8 0⟩,
      ⟨⟨[0x20, 1] ++ replicate 14 0, .inr rfl⟩, [255, 255, 254] ++ replicate 13 0⟩,
      ⟨⟨[0x20, 1, 0x0d, 0xb8] ++ replicate 12 0, .inr rfl⟩, replicate 4 255 ++ replicate 12 0⟩,
      ⟨⟨[0xfc] ++ replicate 15 0, .inr rfl⟩, [254] ++ replicate 15 0⟩,
      ⟨⟨[0xfe, 0x80] ++ replicate 14 0, .inr rfl⟩, [255, 192] ++ replicate 14 0⟩,
      ⟨⟨[0xff] ++ replicate 15 0, .inr rfl⟩, [255] ++ replicate 15 0⟩] := by
  decide +kernel

theorem contains_of_to4_eq_none {n : IPNet} (none4 : ip.to4 = none) (number4 : n.ip.to4 = none)
    (long : n.mask.length = 16)
    : n.contains ip = (masked ip.bytes n.mask == masked n.ip.bytes n.mask) := by
  have short : ip.short = ip := by
    simp [IP.short, none4]
  have number : n.ip.short = n.ip := by
    simp [IP.short, number4]
  have sixteen : ∀ x : IP, x.to4 = none → x.bytes.length = 16 := by
    intro x none4
    rw [← IP.to16_of_to4_eq_none none4]
    exact x.length_to16
  unfold IPNet.contains IPNet.networkNumberAndMask
  rw [short, number, sixteen n.ip number4, long]
  simp [sixteen ip none4, sixteen n.ip number4, BEq.comm]

/-- An IPv6 address is in one of the networks reserved for private or special use. -/
def PrivateBytes (bytes : List UInt8) : Prop :=
  bytes = replicate 16 0 ∨ bytes = replicate 15 0 ++ [1]
    ∨ bytes.take 12 = [0, 0x64, 0xff, 0x9b, 0, 0, 0, 0, 0, 0, 0, 0]
    ∨ bytes.take 8 = [1, 0, 0, 0, 0, 0, 0, 0]
    ∨ (bytes.take 2 = [0x20, 1] ∧ bytes.getD 2 0 &&& 254 = 0)
    ∨ bytes.take 4 = [0x20, 1, 0x0d, 0xb8]
    ∨ bytes.getD 0 0 &&& 254 = 0xfc
    ∨ (bytes.getD 0 0 = 0xfe ∧ bytes.getD 1 0 &&& 192 = 0x80)
    ∨ bytes.getD 0 0 = 0xff

variable {bytes : List UInt8}

theorem exists_bytes (long : bytes.length = 16)
    : ∃ b₀ b₁ b₂ b₃ b₄ b₅ b₆ b₇ b₈ b₉ b₁₀ b₁₁ b₁₂ b₁₃ b₁₄ b₁₅,
      bytes = [b₀, b₁, b₂, b₃, b₄, b₅, b₆, b₇, b₈, b₉, b₁₀, b₁₁, b₁₂, b₁₃, b₁₄, b₁₅] :=
  match bytes, long with
  | [b₀, b₁, b₂, b₃, b₄, b₅, b₆, b₇, b₈, b₉, b₁₀, b₁₁, b₁₂, b₁₃, b₁₄, b₁₅], _ =>
    ⟨b₀, b₁, b₂, b₃, b₄, b₅, b₆, b₇, b₈, b₉, b₁₀, b₁₁, b₁₂, b₁₃, b₁₄, b₁₅, rfl⟩

theorem any_privateIPv6Nets (none4 : ip.to4 = none)
    : (privateIPv6Nets.any fun privateNet => privateNet.contains ip) = true
      ↔ PrivateBytes ip.bytes := by
  have long : ip.bytes.length = 16 := by
    rw [← to16_of_to4_eq_none none4]
    exact ip.length_to16
  have mapped : (⟨⟨[0, 0, 0, 0, 0, 0, 0, 0, 0, 0, 255, 255, 0, 0, 0, 0], .inr rfl⟩,
      replicate 12 255 ++ replicate 4 0⟩ : IPNet).contains ip = false := by
    have short : ip.short = ip := by
      simp [short, none4]
    rw [IPNet.contains, short, long]
    rfl
  simp only [privateIPv6Nets_eq, any_cons, any_nil, mapped]
  iterate 9 rw [contains_of_to4_eq_none none4 (by decide) rfl]
  obtain ⟨b₀, b₁, b₂, b₃, b₄, b₅, b₆, b₇, b₈, b₉, b₁₀, b₁₁, b₁₂, b₁₃, b₁₄, b₁₅, bytes⟩ :=
    exists_bytes long
  have local6 : (252 : UInt8) &&& 254 = 252 := rfl
  have linkLocal : (128 : UInt8) &&& 192 = 128 := rfl
  simp [bytes, masked, PrivateBytes, (masks _).full, local6, linkLocal, and_assoc]

theorem PrivateBytes.of_multicast (multicast : bytes.getD 0 0 = 0xff) : PrivateBytes bytes :=
  .inr (.inr (.inr (.inr (.inr (.inr (.inr (.inr multicast)))))))

theorem isPrivateIP_of_to4_eq_none (none4 : ip.to4 = none)
    : isPrivateIP (some ip) = true ↔ PrivateBytes ip.bytes := by
  have same := to16_of_to4_eq_none none4
  have unspecified : ip.isUnspecified = true → PrivateBytes ip.bytes := by
    intro is
    rw [isUnspecified, Bool.or_eq_true, equal_iff, equal_iff, same] at is
    rcases is with zero | zero
    · rw [zero] at none4
      cases none4
    · exact .inl (congrArg bytes zero)
  have special : (ip.isLoopback || ip.isLinkLocalUnicast || ip.isLinkLocalMulticast) = true
      → PrivateBytes ip.bytes := by
    intro is
    unfold isLoopback isLinkLocalUnicast isLinkLocalMulticast at is
    rw [none4] at is
    simp only [Bool.or_eq_true, Bool.and_eq_true, beq_iff_eq, equal_iff, same] at is
    rcases is with (loopback | ⟨⟨_, first⟩, second⟩) | ⟨⟨_, first⟩, _⟩
    · exact .inr (.inl (congrArg bytes loopback))
    · exact .inr (.inr (.inr (.inr (.inr (.inr (.inr (.inl ⟨first, second⟩)))))))
    · exact .of_multicast first
  have interfaceLocal : ip.isInterfaceLocalMulticast = true → PrivateBytes ip.bytes := by
    intro is
    simp only [isInterfaceLocalMulticast, Bool.and_eq_true, beq_iff_eq] at is
    exact .of_multicast is.1.2
  have uniqueLocal : ip.isPrivate = true → PrivateBytes ip.bytes := by
    intro is
    unfold isPrivate at is
    rw [none4] at is
    simp only [Bool.and_eq_true, beq_iff_eq] at is
    exact .inr (.inr (.inr (.inr (.inr (.inr (.inl is.2))))))
  simp only [isPrivateIP, none4]
  split
  next is => exact iff_of_true rfl (unspecified is)
  · split
    next is => exact iff_of_true rfl (special is)
    · split
      next is => exact iff_of_true rfl (interfaceLocal is)
      · rw [Bool.or_eq_true, any_privateIPv6Nets none4]
        exact or_iff_left_of_imp uniqueLocal

theorem isPrivateIP_sixToFour (a b c d) (rest : List UInt8) (sized : rest.length = 10)
    : isPrivateIP (some ((sixToFour rest sized).address a b c d)) = false := by
  have none4 : ((sixToFour rest sized).address a b c d).to4 = none := by
    simp [to4, address, sized, v4InV6Prefix]
  rw [← Bool.not_eq_true, isPrivateIP_of_to4_eq_none none4]
  simp [PrivateBytes, address, replicate]
  decide

/-- Whether an IPv6 address that embeds an IPv4 address is classified as private whenever the latter
is: the mapped format and NAT64 always are, a 6to4 address never is, and an IPv4-compatible one only
if it is `::` or `::1`.
-/
theorem embedded_private_iff (e : Embedding) (a b c d : UInt8)
    : (isPrivateIP (some (ofOctets a b c d)) = true
        → isPrivateIP (some (e.address a b c d)) = true)
      ↔ e = .mapped ∨ e = .nat64 ∨ ¬PrivateOctets a b c
        ∨ (e = .compatible ∧ a = 0 ∧ b = 0 ∧ c = 0 ∧ (d = 0 ∨ d = 1)) := by
  rw [isPrivateIP_of_to4 (show (ofOctets a b c d).to4 = some _ from rfl)]
  cases e with
  | mapped =>
    refine iff_of_true ?_ (.inl rfl)
    exact (isPrivateIP_of_to4 (show (ipv4 a b c d).to4 = some _ from rfl)).mpr
  | nat64 => exact iff_of_true (fun _ =>
      (isPrivateIP_of_to4_eq_none rfl).mpr (.inr (.inr (.inl rfl)))) (.inr (.inl rfl))
  | compatible =>
    rw [isPrivateIP_of_to4_eq_none rfl]
    simp [PrivateBytes, address, replicate, and_or_left, imp_iff_not_or]
  | sixToFour rest sized =>
    simp [isPrivateIP_sixToFour]

/-- The private network 10.0.0.0/8 is reached by its 6to4 and IPv4-compatible addresses. -/
theorem embedded_private_unclassified
    : isPrivateIP (parseIP "10.0.0.1") = true
      ∧ isPrivateIP (parseIP "::10.0.0.1") = false
      ∧ isPrivateIP (parseIP "2002:a00:1::") = false := by
  decide +kernel

end

open SSRFProtection Text

structure DialCall where
  (network address : String)
  deriving DecidableEq

structure Dialed where
  calls : List DialCall
  result : Except String Unit

def Dialed.refused (error : String) : Dialed := ⟨[], .error error⟩

def networkAllowsIP (network : String) (ip : IP) : Bool :=
  if network = "tcp4" then ip.to4.isSome
  else if network = "tcp6" then ip.to4.isNone
  else true

/-- The loop over the resolved addresses: those of the wrong kind are skipped, and one not allowed
ends the dial.
-/
def candidateIPs (p : SSRFProtection) (network host : String)
    : List (Option IP) → Except String (List IP)
  | [] => .ok []
  | none :: resolved => candidateIPs p network host resolved
  | some ip :: resolved =>
    if networkAllowsIP network ip then
      match p.validateResolvedIP host ip with
      | .error err => .error err
      | .ok () => (candidateIPs p network host resolved).map (ip :: ·)
    else candidateIPs p network host resolved

/-- The loop over the candidates, until one can be dialed. `dial` is the result of each call of the
dialer.
-/
def dialCandidates (dial : ℕ → Except String Unit) (network host portText : String)
    : ℕ → Option String → List IP → Dialed
  | _, lastDialErr, [] =>
    .refused (lastDialErr.getD
      ("DNS resolution for " ++ host ++ " returned no usable IP addresses"))
  | attempt, _, ip :: candidates =>
    let call := ⟨network, joinHostPort ip.toString portText⟩
    match dial attempt with
    | .ok conn => ⟨[call], .ok conn⟩
    | .error err =>
      let later := dialCandidates dial network host portText (attempt + 1) (some err) candidates
      ⟨call :: later.calls, later.result⟩

/-- `DialContext`, for the protection in force, `none` if disabled, and what the resolver and the
dialer answer.
-/
def dialContext (lower : LowerCase) (getProtection : Except String (Option SSRFProtection))
    (lookupIPAddr : String → Except String (List (Option IP))) (dial : ℕ → Except String Unit)
    (network addr : String)
    : Dialed :=
  match getProtection with
  | .error err => .refused err
  | .ok none => ⟨[⟨network, addr⟩], dial 0⟩
  | .ok (some protection) =>
    match splitHostPort addr with
    | .error err => .refused ("invalid dial address " ++ addr ++ ": " ++ err)
    | .ok (host, portText) =>
      match atoi portText with
      | none => .refused ("invalid port: " ++ portText)
      | some port =>
        match protection.validateNetworkTarget lower host port with
        | .error err => .refused err
        | .ok () =>
          match parseIP host with
          | some ip => ⟨[⟨network, joinHostPort ip.toString portText⟩], dial 0⟩
          | none =>
            if protection.applyIPFilterForDomain then
              match lookupIPAddr host with
              | .error err => .refused ("DNS resolution failed for " ++ host ++ ": " ++ err)
              | .ok resolved =>
                match candidateIPs protection network host resolved with
                | .error err => .refused err
                | .ok candidates => dialCandidates dial network host portText 0 none candidates
            else ⟨[⟨network, addr⟩], dial 0⟩

/-- An address is the literal of an IP address and a port that the policy allows. -/
structure Permitted (p : SSRFProtection) (address : String) (ip : IP) (port : ℤ) : Prop where
  literal : ∃ host portText, splitHostPort address = .ok (host, portText)
    ∧ parseIP host = some ip ∧ atoi portText = some port
  policy : p.isIPAccessAllowed ip = true
  range : 1 ≤ port ∧ port ≤ 65535
  allowed : p.isAllowedPort port = true

theorem SSRFProtection.isIPAccessAllowed_to16 (p : SSRFProtection) (ip : IP)
    : p.isIPAccessAllowed ip.to16 = p.isIPAccessAllowed ip := by
  have listed : isIpInCIDRList ip.to16 p.ipList = isIpInCIDRList ip p.ipList := by
    simp only [isIpInCIDRList, IPNet.contains_to16, IP.equal_to16]
  unfold isIPAccessAllowed
  rw [isPrivateIP_to16, listed]

variable {lower : LowerCase} {p : SSRFProtection} {host : String} {port : ℤ}

theorem SSRFProtection.validateNetworkTarget_eq_ok
    (valid : p.validateNetworkTarget lower host port = .ok ())
    : (1 ≤ port ∧ port ≤ 65535) ∧ p.isAllowedPort port = true
      ∧ ∀ ip, parseIP host = some ip → p.isIPAccessAllowed ip = true := by
  simp only [validateNetworkTarget] at valid
  split at valid
  · cases valid
  split at valid
  · cases valid
  rename_i range
  split at valid
  · cases valid
  rename_i allowed
  refine ⟨by omega, by simpa using allowed, ?_⟩
  intro ip read
  -- The check reads the trimmed host, which is the host if that is an address.
  rw [trimSpace_eq fun c member => (addrChar_of_parseIP read c member).isSpace,
    String.ofList_toList, read] at valid
  simp only at valid
  split at valid
  next access => exact access
  · cases valid

variable {network : String} {candidates : List IP}

/-- Addresses that became candidates are allowed, by induction on the resolved ones. -/
theorem isIPAccessAllowed_of_candidateIPs {resolved}
    (found : candidateIPs p network host resolved = .ok candidates)
    : ∀ ip ∈ candidates, p.isIPAccessAllowed ip = true := by
  induction resolved generalizing candidates with
  | nil =>
    cases found
    nofun
  | cons answer resolved ih =>
    cases answer with
    | none => exact ih found
    | some ip =>
      rw [candidateIPs] at found
      split at found
      · split at found
        · cases found
        next validated =>
          have access : p.isIPAccessAllowed ip = true := by
            unfold validateResolvedIP at validated
            split at validated
            next access => exact access
            · cases validated
          cases later : candidateIPs p network host resolved with rw [later] at found
          | error err => cases found
          | ok others =>
            cases found
            exact forall_mem_cons.mpr ⟨access, ih later⟩
      · exact ih found

variable {dial : ℕ → Except String Unit} {portText : String} {call : DialCall}

/-- The calls of the loop over the candidates dial one of them, by induction on these. -/
theorem mem_calls_dialCandidates {attempt lastDialErr} (member : call ∈
      (dialCandidates dial network host portText attempt lastDialErr candidates).calls)
    : ∃ ip ∈ candidates, call = ⟨network, joinHostPort ip.toString portText⟩ := by
  induction candidates generalizing attempt lastDialErr with
  | nil => cases member
  | cons ip candidates ih =>
    rw [dialCandidates] at member
    simp only at member
    split at member
    · exact ⟨ip, mem_cons_self, mem_singleton.mp member⟩
    · rcases mem_cons.mp member with same | later
      · exact ⟨ip, mem_cons_self, same⟩
      · obtain ⟨other, inRest, same⟩ := ih later
        exact ⟨other, mem_cons_of_mem ip inRest, same⟩

variable {ip : IP}

theorem permitted_joinHostPort (read : atoi portText = some port) (range : 1 ≤ port ∧ port ≤ 65535)
    (allowed : p.isAllowedPort port = true) (access : p.isIPAccessAllowed ip = true)
    : Permitted p (joinHostPort ip.toString portText) ip.to16 port where
  literal := ⟨ip.toString, portText, splitHostPort_toString ip (plainPort_of_atoi read),
    parseIP_toString ip, read⟩
  policy := by rw [p.isIPAccessAllowed_to16, access]
  range := range
  allowed := allowed

theorem mem_calls_dialContext (filters : p.applyIPFilterForDomain = true) {lookupIPAddr addr}
    (member : call ∈ (dialContext lower (.ok (some p)) lookupIPAddr dial network addr).calls)
    : ∃ ip portText port, call = ⟨network, joinHostPort ip.toString portText⟩
      ∧ atoi portText = some port ∧ (1 ≤ port ∧ port ≤ 65535) ∧ p.isAllowedPort port = true
      ∧ p.isIPAccessAllowed ip = true := by
  simp only [dialContext] at member
  split at member
  · cases member
  rename_i host portText _
  split at member
  · cases member
  rename_i port read
  split at member
  · cases member
  rename_i valid
  obtain ⟨range, allowed, access⟩ := validateNetworkTarget_eq_ok valid
  split at member
  next ip parsed =>
    exact ⟨ip, portText, port, mem_singleton.mp member, read, range, allowed, access ip parsed⟩
  · rw [if_pos filters] at member
    split at member
    · cases member
    split at member
    · cases member
    rename_i candidates found
    obtain ⟨ip, candidate, same⟩ := mem_calls_dialCandidates member
    exact ⟨ip, portText, port, same, read, range, allowed,
      isIPAccessAllowed_of_candidateIPs found ip candidate⟩

/-- Whatever is dialed and whatever the resolver and the underlying dialer answer, that dialer is
only called with the literal of an address that the policy allows, on an allowed port, and without
private addresses with no private IPv4 address.
-/
theorem dials_only_permitted (lower : LowerCase) {p} (filters : p.applyIPFilterForDomain = true)
    (lookupIPAddr : String → Except String (List (Option IP))) (dial : ℕ → Except String Unit)
    (network addr : String)
    : ∀ call ∈ (dialContext lower (.ok (some p)) lookupIPAddr dial network addr).calls,
        ∃ ip port, Permitted p call.address ip port
          ∧ (p.allowPrivateIp = false
            → ∀ a b c d, ip.to4 = some (IP.ofOctets a b c d) → ¬PrivateOctets a b c) := by
  intro call member
  obtain ⟨ip, portText, port, rfl, read, range, allowed, access⟩ :=
    mem_calls_dialContext filters member
  refine ⟨ip.to16, port, permitted_joinHostPort read range allowed access, ?_⟩
  intro strict a b c d found
  rw [IP.to4_to16] at found
  intro octets
  unfold isIPAccessAllowed at access
  simp [(isPrivateIP_of_to4 found).mpr octets, strict] at access

def publicOnly : SSRFProtection where
  allowPrivateIp := false
  domainFilterMode := false
  domainList := []
  ipFilterMode := false
  ipList := []
  allowedPorts := [443]
  applyIPFilterForDomain := true

def lookupTwo (_ : String) : Except String (List (Option IP)) :=
  .ok [some (IP.ipv4 93 184 216 34), none,
    some ⟨[0x26, 0x06, 0x28, 0, 0, 0, 0, 0, 0, 0, 0, 0, 0, 0, 0, 1], .inr rfl⟩]

def secondSucceeds : ℕ → Except String Unit
  | 0 => .error "connection refused"
  | _ => .ok ()

def twoCandidates : List DialCall :=
  (dialContext .asciiOnly (.ok (some publicOnly)) lookupTwo secondSucceeds "tcp"
    "example.com:443").calls

/-- Both addresses of the domain are dialed as literals, and are permitted. -/
theorem dials_only_permitted_candidates
    : twoCandidates = [⟨"tcp", "93.184.216.34:443"⟩, ⟨"tcp", "[2606:2800::1]:443"⟩]
      ∧ ∀ call ∈ twoCandidates, ∃ ip port, Permitted publicOnly call.address ip port
        ∧ (publicOnly.allowPrivateIp = false
          → ∀ a b c d, ip.to4 = some (IP.ofOctets a b c d) → ¬PrivateOctets a b c) :=
  ⟨by decide +kernel,
    dials_only_permitted .asciiOnly rfl lookupTwo secondSucceeds "tcp" "example.com:443"⟩

end HelsterApi.Ssrf
