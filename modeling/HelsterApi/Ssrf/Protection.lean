import HelsterApi.Net.Address
import HelsterApi.Net.HostPort
import HelsterApi.Text.Folding

/-! The policy against requests to internal networks, and its domain check under the spellings of
one DNS name. The case of letters does not matter, but a host with the dot of the root is only
matched by entries written with it.
-/

namespace HelsterApi.Ssrf

open Net Text

section

/-- The configuration of the protection. A filter mode is `true` for a list of what is allowed,
`false` for one of what is not.
-/
structure SSRFProtection where
  (allowPrivateIp domainFilterMode : Bool)
  domainList : List String
  ipFilterMode : Bool
  ipList : List String
  allowedPorts : List ℤ
  applyIPFilterForDomain : Bool

def ipv4Net (a b c d : UInt8) (ones : ℕ) : IPNet := ⟨IP.ipv4 a b c d, cidrMask ones 4⟩

def privateIPv4Nets : List IPNet :=
  [ipv4Net 0 0 0 0 8, ipv4Net 10 0 0 0 8, ipv4Net 100 64 0 0 10, ipv4Net 127 0 0 0 8,
    ipv4Net 169 254 0 0 16, ipv4Net 172 16 0 0 12, ipv4Net 192 0 0 0 24, ipv4Net 192 0 2 0 24,
    ipv4Net 192 168 0 0 16, ipv4Net 198 18 0 0 15, ipv4Net 198 51 100 0 24,
    ipv4Net 203 0 113 0 24, ipv4Net 224 0 0 0 4, ipv4Net 240 0 0 0 4,
    ipv4Net 255 255 255 255 32]

def privateIPv6Nets : List IPNet :=
  ["::/128", "::1/128", "::ffff:0:0/96", "64:ff9b::/96", "100::/64", "2001::/23",
    "2001:db8::/32", "fc00::/7", "fe80::/10", "ff00::/8"].filterMap parseCIDR

def isPrivateIP : Option IP → Bool
  | none => true
  | some ip =>
    if ip.isUnspecified then true
    else if ip.isLoopback || ip.isLinkLocalUnicast || ip.isLinkLocalMulticast then true
    else if ip.isInterfaceLocalMulticast then true
    else
      match ip.to4 with
      | some v4 => privateIPv4Nets.any fun privateNet => privateNet.contains v4
      | none => (privateIPv6Nets.any fun privateNet => privateNet.contains ip) || ip.isPrivate

variable (p : SSRFProtection)

/-- `isAllowedPort`: without a list all ports are. -/
def SSRFProtection.isAllowedPort (port : ℤ) : Bool :=
  p.allowedPorts.isEmpty || decide (port ∈ p.allowedPorts)

/-- Whether an entry of a domain list, trimmed and in lower case, matches a domain: as it is, or
with `*.` for the domain and all below it.
-/
def domainMatches (item domain : List Char) : Bool :=
  domain == item
    || match item with
      | '*' :: '.' :: suffix => ('.' :: suffix).isSuffixOf domain || domain == suffix
      | _ => false

variable (lower : LowerCase)

def lowered (s : List Char) : List Char := s.map lower.toLower

def isDomainListed (domain : String) (list : List String) : Bool :=
  list.any fun item =>
    let item := lowered lower (trimSpace item)
    item ≠ [] && domainMatches item (lowered lower domain.toList)

def SSRFProtection.isDomainAllowed (p : SSRFProtection) (domain : String) : Bool :=
  if p.domainFilterMode then isDomainListed lower domain p.domainList
  else !isDomainListed lower domain p.domainList

/-- `IsIpInCIDRList`: an entry that is no network is compared as an address. -/
def isIpInCIDRList (ip : IP) (cidrList : List String) : Bool :=
  cidrList.any fun cidr =>
    match parseCIDR cidr with
    | some network => network.contains ip
    | none =>
      match parseIP cidr with
      | some whitelistIP => ip.equal whitelistIP
      | none => false

def SSRFProtection.isIPAccessAllowed (ip : IP) : Bool :=
  if isPrivateIP (some ip) && !p.allowPrivateIp then false
  else if p.ipFilterMode then isIpInCIDRList ip p.ipList
  else !isIpInCIDRList ip p.ipList

def SSRFProtection.ipAccessError (host : String) (ip : IP) : String :=
  let resolves := if host = "" then ip.toString else host ++ " resolves to " ++ ip.toString
  if isPrivateIP (some ip) && !p.allowPrivateIp then "private IP address not allowed: " ++ resolves
  else if p.ipFilterMode then "ip not in whitelist: " ++ resolves
  else "ip in blacklist: " ++ resolves

def SSRFProtection.validateNetworkTarget (p : SSRFProtection) (host : String) (port : ℤ)
    : Except String Unit :=
  let host := String.ofList (trimSpace host)
  if host = "" then .error "invalid host"
  else if port < 1 ∨ 65535 < port then .error ("invalid port: " ++ toString port)
  else if p.isAllowedPort port = false then .error ("port " ++ toString port ++ " is not allowed")
  else
    match parseIP host with
    | some ip => if p.isIPAccessAllowed ip then .ok () else .error (p.ipAccessError "" ip)
    | none =>
      if p.isDomainAllowed lower host then .ok ()
      else if p.domainFilterMode then .error ("domain not in whitelist: " ++ host)
      else .error ("domain in blacklist: " ++ host)

def SSRFProtection.validateResolvedIP (host : String) (ip : IP) : Except String Unit :=
  if p.isIPAccessAllowed ip then .ok () else .error (p.ipAccessError host ip)

end

open List

/-- A host is a spelling of a DNS name: its letters in any case, with the dot of the root if
`rooted`.
-/
def Spells (name : List Char) (rooted : Bool) (host : String) : Prop :=
  host.toList.map Char.toLower = if rooted then name ++ ['.'] else name
  deriving Decidable

/-- A host that the check takes for a domain as it is written: no address, no blanks around it. -/
def IsDomain (host : String) : Prop :=
  String.ofList (trimSpace host) = host ∧ host ≠ "" ∧ parseIP host = none
  deriving Decidable

/-- An entry covers a name as it is written: it is the name, or stands for a domain of the name. -/
def CoversRelative (item name : List Char) : Prop :=
  item = name ∨ ∃ domain, item = '*' :: '.' :: domain ∧ (name = domain ∨ '.' :: domain <:+ name)

/-- An entry written with the dot of the root covers a name. The entry `*.` stands for the root
itself.
-/
def CoversRooted (item name : List Char) : Prop :=
  item = name ++ ['.']
    ∨ ∃ domain, item = '*' :: '.' :: domain
      ∧ (domain = [] ∨ ∃ base, domain = base ++ ['.'] ∧ (name = base ∨ '.' :: base <:+ name))

def entries (lower : LowerCase) (list : List String) : List (List Char) :=
  (list.map fun item => lowered lower (trimSpace item)).filter (· ≠ [])

theorem domainMatches_iff (item domain)
    : domainMatches item domain = true
      ↔ item = domain
        ∨ ∃ suffix, item = '*' :: '.' :: suffix ∧ (domain = suffix ∨ '.' :: suffix <:+ domain) := by
  unfold domainMatches
  split
  next suffix => simp [@eq_comm _ domain, or_comm]
  next other =>
    simp only [Bool.or_false, beq_iff_eq, @eq_comm _ domain]
    refine (or_iff_left ?_).symm
    rintro ⟨suffix, rfl, _⟩
    exact other suffix rfl

theorem suffix_rooted (domain name)
    : '.' :: domain <:+ name ++ ['.']
      ↔ domain = [] ∨ ∃ base, domain = base ++ ['.'] ∧ '.' :: base <:+ name := by
  constructor
  · rintro ⟨before, whole⟩
    rcases eq_nil_or_concat domain with rfl | ⟨base, last, rfl⟩
    · exact .inl rfl
    · rw [concat_eq_append] at whole ⊢
      rw [← cons_append, ← append_assoc] at whole
      obtain ⟨ended, same⟩ := append_inj' whole rfl
      cases same
      exact .inr ⟨base, rfl, before, ended⟩
  · rintro (rfl | ⟨base, rfl, before, rfl⟩)
    · exact ⟨name, rfl⟩
    · exact ⟨before, by simp⟩

theorem domainMatches_rooted (item name)
    : domainMatches item (name ++ ['.']) = true ↔ CoversRooted item name := by
  rw [domainMatches_iff, CoversRooted]
  refine or_congr_right (exists_congr fun domain => and_congr_right fun _ => ?_)
  rw [suffix_rooted]
  constructor
  · rintro (same | empty | ⟨base, ended, below⟩)
    · exact .inr ⟨name, same.symm, .inl rfl⟩
    · exact .inl empty
    · exact .inr ⟨base, ended, .inr below⟩
  · rintro (empty | ⟨base, ended, same | below⟩)
    · exact .inr (.inl empty)
    · exact .inl (by rw [same, ended])
    · exact .inr (.inr ⟨base, ended, below⟩)

theorem toLower_toLower (lower : LowerCase) (c : Char)
    : lower.toLower c.toLower = lower.toLower c := by
  by_cases small : c.toNat < 128
  · have all : ∀ n < 128, (Char.ofNat n).toLower.toNat < 128
        ∧ (Char.ofNat n).toLower.toLower = (Char.ofNat n).toLower := by
      decide
    have own := all c.toNat small
    rw [Char.ofNat_toNat] at own
    rw [lower.ascii c small, lower.ascii c.toLower own.1, own.2]
  · have above : ¬(c.val ≥ 'A'.val ∧ c.val ≤ 'Z'.val) := by
      rintro ⟨_, upper⟩
      exact small (Nat.lt_of_le_of_lt (UInt32.le_iff_toNat_le.mp upper) (by decide))
    have unchanged : c.toLower = c := dif_neg above
    rw [unchanged]

variable {lower : LowerCase} {name : List Char} {rooted : Bool} {host : String}

theorem Spells.lowered (spelled : Spells name rooted host)
    : lowered lower host.toList
      = if rooted then Ssrf.lowered lower name ++ ['.'] else Ssrf.lowered lower name := by
  have dot := lower.ascii '.' (by decide)
  have caseless : Ssrf.lowered lower host.toList
      = Ssrf.lowered lower (host.toList.map Char.toLower) := by
    simp [Ssrf.lowered, toLower_toLower]
  rw [caseless, spelled]
  cases rooted with
  | false => rfl
  | true => simp [Ssrf.lowered, dot]

/-- An entry covers a name, written with or without the dot of the root. -/
def Covers (rooted : Bool) (item name : List Char) : Prop :=
  if rooted then CoversRooted item name else CoversRelative item name

theorem isDomainListed_of_spells (spelled : Spells name rooted host) (list)
    : isDomainListed lower host list = true
      ↔ ∃ item ∈ entries lower list, Covers rooted item (lowered lower name) := by
  have listed : isDomainListed lower host list = true
      ↔ ∃ item ∈ entries lower list, domainMatches item (lowered lower host.toList) = true := by
    simp [isDomainListed, entries, and_assoc]
  rw [listed, spelled.lowered]
  cases rooted with
  | false => simp [Covers, domainMatches_iff, CoversRelative]
  | true => simp only [Covers, if_true, domainMatches_rooted]

/-- At an allowed port a domain passes the whole check exactly if it passes the domain check. -/
theorem validateNetworkTarget_domain {p : SSRFProtection} {port : ℤ} (domain : IsDomain host)
    (valid : 1 ≤ port ∧ port ≤ 65535) (allowed : p.isAllowedPort port = true)
    : p.validateNetworkTarget lower host port = .ok ()
      ↔ p.isDomainAllowed lower host = true := by
  obtain ⟨trimmed, filled, noAddress⟩ := domain
  unfold SSRFProtection.validateNetworkTarget
  rw [trimmed]
  dsimp only
  rw [if_neg filled, if_neg (by omega), if_neg (by simp [allowed]), noAddress]
  dsimp only
  split
  next passes => exact iff_of_true rfl passes
  next refused =>
    refine iff_of_false ?_ refused
    split <;> exact nofun

/-- Two spellings of a name get the same verdict exactly if both or neither have the dot of the
root, or if the list covers the name with the dot exactly if without. At an allowed port this is
the verdict on the target.
-/
theorem domain_check_spelling (lower : LowerCase) (p : SSRFProtection)
    {name rooted rooted' host host'} (spelled : Spells name rooted host)
    (spelled' : Spells name rooted' host')
    : (p.isDomainAllowed lower host = p.isDomainAllowed lower host'
        ↔ rooted = rooted'
          ∨ ((∃ item ∈ entries lower p.domainList, CoversRelative item (lowered lower name))
            ↔ ∃ item ∈ entries lower p.domainList, CoversRooted item (lowered lower name)))
      ∧ ∀ port, 1 ≤ port ∧ port ≤ 65535 → p.isAllowedPort port = true
        → IsDomain host → IsDomain host'
        → ((p.validateNetworkTarget lower host port = .ok ()
            ↔ p.validateNetworkTarget lower host' port = .ok ())
          ↔ p.isDomainAllowed lower host = p.isDomainAllowed lower host') := by
  have listed : p.isDomainAllowed lower host = p.isDomainAllowed lower host'
      ↔ (isDomainListed lower host p.domainList ↔ isDomainListed lower host' p.domainList) := by
    unfold SSRFProtection.isDomainAllowed
    split
    · exact Bool.eq_iff_iff
    · exact Bool.not_inj_iff.trans Bool.eq_iff_iff
  refine ⟨?_, fun port valid allowed domain domain' => ?_⟩
  · rw [listed, isDomainListed_of_spells spelled, isDomainListed_of_spells spelled']
    cases rooted <;> cases rooted'
    · exact iff_of_true Iff.rfl (.inl rfl)
    · simp [Covers]
    · rw [iff_comm (b := ∃ item ∈ _, Covers false item _)]
      simp [Covers]
    · exact iff_of_true Iff.rfl (.inl rfl)
  · rw [validateNetworkTarget_domain domain valid allowed,
      validateNetworkTarget_domain domain' valid allowed]
    exact Bool.eq_iff_iff.symm

def blacklist : SSRFProtection where
  allowPrivateIp := false
  domainFilterMode := false
  domainList := ["example.com", "*.example.com"]
  ipFilterMode := false
  ipList := []
  allowedPorts := []
  applyIPFilterForDomain := true

/-- Two spellings in different case get the same verdict. -/
theorem domain_check_spelling_case
    : Spells "example.com".toList false "Example.COM"
      ∧ Spells "example.com".toList false "example.com"
      ∧ blacklist.isDomainAllowed .asciiOnly "Example.COM"
        = blacklist.isDomainAllowed .asciiOnly "example.com"
      ∧ (blacklist.validateNetworkTarget .asciiOnly "Example.COM" 443 = .ok ()
        ↔ blacklist.validateNetworkTarget .asciiOnly "example.com" 443 = .ok ()) := by
  have upper : Spells "example.com".toList false "Example.COM" := by decide +kernel
  have plain : Spells "example.com".toList false "example.com" := by decide +kernel
  obtain ⟨verdict, target⟩ := domain_check_spelling .asciiOnly blacklist upper plain
  have same := verdict.mpr (.inl rfl)
  exact ⟨upper, plain, same,
    (target 443 (by decide) rfl (by decide +kernel) (by decide +kernel)).mpr same⟩

/-- A domain that may not be reached is reached with the dot of the root. -/
theorem domain_check_rooted_bypass
    : blacklist.validateNetworkTarget .asciiOnly "EXAMPLE.com" 443
        = .error "domain in blacklist: EXAMPLE.com"
      ∧ blacklist.validateNetworkTarget .asciiOnly "example.com." 443 = .ok () := by
  decide +kernel

end HelsterApi.Ssrf
