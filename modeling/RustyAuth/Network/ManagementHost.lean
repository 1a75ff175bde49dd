/-
  The hosts that management calls may reach.

  `managementClient` resolves the host of an endpoint at every call, checks every address of the
  answer by `publicManagementHost` and pins the client to them.  The networks that are not public
  are stated as address prefixes (`NonPublicIpv4`) and the checks on octets are shown to be these
  (`publicIpv4_iff`).  An IPv4-mapped address is judged by the address it carries, but an address of
  6to4 is not: the call is safe exactly if no address of its answer is one of a non-public IPv4
  address (`management_client_iff`).
-/
import RustyAuth.Library.Addresses
import RustyAuth.Rpc.Errors

namespace RustyAuth

open Library

inductive Environment
  | development
  | production
deriving DecidableEq

/-! ## Public hosts -/

/-- `Ipv4Addr::is_private`. -/
def isPrivate (a b : Nat) : Bool :=
  a == 10 || (a == 172 && 16 ≤ b && b ≤ 31) || (a == 192 && b == 168)

/-- The checks of `public_management_host` on an IPv4 address; a.b.c.d are its octets. -/
def publicIpv4 (address : Ipv4Addr) : Bool :=
  let a := address.a.val
  let b := address.b.val
  let c := address.c.val
  let d := address.d.val
  !((a == 0 && b == 0 && c == 0 && d == 0) || isPrivate a b || a == 127 ||
    (a == 169 && b == 254) || (a == 255 && b == 255 && c == 255 && d == 255) ||
    (224 ≤ a && a ≤ 239) || a == 0 || (a == 100 && 64 ≤ b && b ≤ 127) ||
    (a == 192 && b == 0 && c == 0) || (a == 192 && b == 0 && c == 2) ||
    (a == 198 && (b == 18 || b == 19)) || (a == 198 && b == 51 && c == 100) ||
    (a == 203 && b == 0 && c == 113) || 240 ≤ a)

/-- `Ipv6Addr::octets`. -/
def octets (address : Ipv6Addr) : List Nat := address.segments.flatMap fun s => [s / 256, s % 256]

def octet (address : Ipv6Addr) (i : Nat) : Nat := (octets address).getD i 0

/-- The checks on an IPv6 address that is not IPv4-mapped. -/
def publicIpv6 (address : Ipv6Addr) : Bool :=
  let blocked := address.segments == [0, 0, 0, 0, 0, 0, 0, 0] ||
    address.segments == [0, 0, 0, 0, 0, 0, 0, 1] || octet address 0 == 0xff ||
    octet address 0 &&& 0xfe == 0xfc ||
    (octet address 0 == 0xfe && octet address 1 &&& 0xc0 == 0x80) ||
    (octet address 0 == 0x20 && octet address 1 == 0x01 && octet address 2 == 0x0d &&
      octet address 3 == 0xb8)
  !blocked && octet address 0 &&& 0xe0 == 0x20

def forbiddenHosts : List (List Char) :=
  ["localhost".toList, "metadata.google.internal".toList, "metadata.amazonaws.com".toList]

def forbiddenSuffixes : List (List Char) :=
  [".localhost".toList, ".local".toList, ".internal".toList, ".home.arpa".toList,
    ".invalid".toList]

/-- The body of `public_management_host`, with the call for a mapped address as a parameter. -/
def publicHost (mappedHost : List Char → Bool) (host : List Char) : Bool :=
  match IpAddr.parse host with
  | some (.v4 address) => publicIpv4 address
  | some (.v6 address) =>
      match address.toIpv4Mapped with
      | some mapped => mappedHost mapped.text
      | none => publicIpv6 address
  | none =>
      let host := (host.rdropWhile (· == '.')).map Char.toLower
      host.contains '.' && !forbiddenHosts.contains host &&
        !forbiddenSuffixes.any (·.isSuffixOf host)

/-- A mapped address is written as an IPv4 address, so that one call leads to no further one. -/
def publicManagementHost : List Char → Bool := publicHost (publicHost fun _ => false)

/-- The recursion of the source. -/
theorem publicManagementHost_eq (host : List Char) :
    publicManagementHost host = publicHost publicManagementHost host := by
  have hmapped : ∀ mapped : Ipv4Addr, publicHost (fun _ => false) mapped.text =
      publicManagementHost mapped.text := by
    intro mapped
    have hparse : IpAddr.parse mapped.text = some (.v4 mapped) := IpAddr.parse_text (.v4 mapped)
    unfold publicManagementHost publicHost
    rw [hparse]
  unfold publicManagementHost publicHost
  split
  · rfl
  · split
    · next mapped _ => exact hmapped mapped
    · rfl
  · rfl

/-! ## Endpoints -/

/-- The parts of a URL that are read here. -/
structure Url where
  scheme : String
  username : String
  password : Option String
  host : Option (List Char)
  portOrKnownDefault : Option Nat
  path : String
  query : Option String
  fragment : Option String

def developmentHosts : List (List Char) :=
  ["localhost".toList, "127.0.0.1".toList, "::1".toList, "host.docker.internal".toList]

/-- `safe_management_endpoint`; `parseUrl` is `Url::parse`. -/
def safeManagementEndpoint (parseUrl : String → Option Url) (value : String)
    (environment : Environment) : RpcResult Url := do
  let endpoint ← okOr (parseUrl (trimmed value)) (invalid "management endpoint is invalid")
  ensure (endpoint.username = "" ∧ endpoint.password = none ∧ endpoint.query = none ∧
    endpoint.fragment = none ∧ (endpoint.path = "" ∨ endpoint.path = "/"))
    (invalid "management endpoint must be an origin")
  let host ← okOr endpoint.host (invalid "management endpoint has no host")
  ensure (environment = .production → publicManagementHost host = true)
    (invalid "management endpoint must use a public host")
  ensure (endpoint.scheme = "https" ∨ (endpoint.scheme = "http" ∧ environment = .development ∧
    (host ∈ developmentHosts ∨ '.' ∉ host)))
    (invalid "management endpoint must use HTTPS")
  return endpoint

/-! ## Addresses -/

structure SocketAddr where
  ip : IpAddr
  port : Nat
deriving DecidableEq

/-- The order of socket addresses is that of these lists. -/
def SocketAddr.parts (address : SocketAddr) : List Nat :=
  match address.ip with
  | .v4 ip => [0, ip.a, ip.b, ip.c, ip.d, address.port]
  | .v6 ip => 1 :: ip.segments ++ [address.port]

/-- `Vec::dedup`. -/
def dedup : List SocketAddr → List SocketAddr
  | [] => []
  | [a] => [a]
  | a :: b :: rest => if a = b then dedup (b :: rest) else a :: dedup (b :: rest)

/-- `sort_unstable` and `dedup`. -/
def distinct (addresses : List SocketAddr) : List SocketAddr :=
  dedup (addresses.insertionSort fun x y => x.parts ≤ y.parts)

/-- `validated_management_addresses`. -/
def validatedManagementAddresses (addresses : List SocketAddr) (environment : Environment) :
    RpcResult (List SocketAddr) := do
  let addresses := distinct addresses
  ensure (addresses ≠ [])
    ⟨.unavailable, "management endpoint DNS returned no addresses"⟩
  ensure (environment = .production →
    ∀ address ∈ addresses, publicManagementHost address.ip.text = true)
    (invalid "management endpoint DNS resolved to a non-public address")
  return addresses

/-- What a lookup answers. -/
inductive DnsAnswer
  | timedOut
  | failed
  | resolved (addresses : List SocketAddr)

def DnsAnswer.addresses : DnsAnswer → List SocketAddr
  | .resolved addresses => addresses
  | _ => []

/-- `tokio::time::timeout` around `lookup_host`. -/
def lookupHost : DnsAnswer → RpcResult (List SocketAddr)
  | .timedOut => .error ⟨.unavailable, "management endpoint DNS timed out"⟩
  | .failed => .error ⟨.unavailable, "management endpoint DNS failed"⟩
  | .resolved addresses => .ok addresses

/-- What the client takes from other crates: URLs, URIs and the building of its transport. -/
structure NetCrates where
  parseUrl : String → Option Url
  parseUri : String → Bool
  transportBuilds : Bool

/-- A client that connects to its addresses only. -/
structure PinnedClient where
  host : List Char
  addresses : List SocketAddr

/-- `management_client`, with the answer that the lookup of this call gets. -/
def managementClient (net : NetCrates) (endpoint : String) (environment : Environment)
    (answer : DnsAnswer) : RpcResult PinnedClient := do
  let url ← safeManagementEndpoint net.parseUrl endpoint environment
  let host ← okOr url.host (invalid "stored management endpoint has no host")
  let _ ← okOr url.portOrKnownDefault (invalid "stored management endpoint has no port")
  let addresses ← lookupHost answer
  let addresses ← validatedManagementAddresses addresses environment
  ensure (net.transportBuilds = true)
    ⟨.internal, "build pinned management transport"⟩
  ensure (net.parseUri endpoint = true) (invalid "stored management endpoint is invalid")
  return ⟨host, addresses⟩

/-! ## Networks that are not public -/

/-- An IPv4 address as a number. -/
def Ipv4Addr.value (address : Ipv4Addr) : Nat :=
  ((address.a * 256 + address.b) * 256 + address.c) * 256 + address.d

/-- The first `bits` bits of an address are those of the network. -/
def InNetwork (address network : Ipv4Addr) (bits : Nat) : Prop :=
  Ipv4Addr.value address / 2 ^ (32 - bits) = Ipv4Addr.value network / 2 ^ (32 - bits)

def nonPublicNetworks : List (Ipv4Addr × Nat) :=
  [(⟨0, 0, 0, 0⟩, 8), (⟨10, 0, 0, 0⟩, 8), (⟨172, 16, 0, 0⟩, 12), (⟨192, 168, 0, 0⟩, 16),
    (⟨127, 0, 0, 0⟩, 8), (⟨169, 254, 0, 0⟩, 16), (⟨100, 64, 0, 0⟩, 10), (⟨192, 0, 0, 0⟩, 24),
    (⟨192, 0, 2, 0⟩, 24), (⟨198, 51, 100, 0⟩, 24), (⟨203, 0, 113, 0⟩, 24), (⟨198, 18, 0, 0⟩, 15),
    (⟨224, 0, 0, 0⟩, 4), (⟨240, 0, 0, 0⟩, 4), (⟨255, 255, 255, 255⟩, 32)]

def NonPublicIpv4 (address : Ipv4Addr) : Prop :=
  ∃ network ∈ nonPublicNetworks, InNetwork address network.1 network.2

section Octets

variable (address : Ipv4Addr)

theorem inNetwork_8 (a : Fin 256) : InNetwork address ⟨a, 0, 0, 0⟩ 8 ↔ address.a.val = a := by
  simp only [InNetwork, Ipv4Addr.value]
  omega

theorem inNetwork_16 (a b : Fin 256) :
    InNetwork address ⟨a, b, 0, 0⟩ 16 ↔ address.a.val = a ∧ address.b.val = b := by
  simp only [InNetwork, Ipv4Addr.value]
  omega

theorem inNetwork_24 (a b c : Fin 256) :
    InNetwork address ⟨a, b, c, 0⟩ 24 ↔
      address.a.val = a ∧ address.b.val = b ∧ address.c.val = c := by
  simp only [InNetwork, Ipv4Addr.value]
  omega

theorem inNetwork_32 (a b c d : Fin 256) :
    InNetwork address ⟨a, b, c, d⟩ 32 ↔
      address.a.val = a ∧ address.b.val = b ∧ address.c.val = c ∧ address.d.val = d := by
  simp only [InNetwork, Ipv4Addr.value]
  omega

end Octets

theorem publicIpv4_iff (address : Ipv4Addr) :
    publicIpv4 address = true ↔ ¬ NonPublicIpv4 address := by
  -- the prefixes that end within an octet
  have h12 : InNetwork address ⟨172, 16, 0, 0⟩ 12 ↔
      (address.a.val = 172 ∧ 16 ≤ address.b.val) ∧ address.b.val ≤ 31 := by
    simp only [InNetwork, Ipv4Addr.value]
    omega
  have h10 : InNetwork address ⟨100, 64, 0, 0⟩ 10 ↔
      (address.a.val = 100 ∧ 64 ≤ address.b.val) ∧ address.b.val ≤ 127 := by
    simp only [InNetwork, Ipv4Addr.value]
    omega
  have h15 : InNetwork address ⟨198, 18, 0, 0⟩ 15 ↔
      address.a.val = 198 ∧ (address.b.val = 18 ∨ address.b.val = 19) := by
    simp only [InNetwork, Ipv4Addr.value]
    omega
  have h224 : InNetwork address ⟨224, 0, 0, 0⟩ 4 ↔ 224 ≤ address.a.val ∧ address.a.val ≤ 239 := by
    simp only [InNetwork, Ipv4Addr.value]
    omega
  have h240 : InNetwork address ⟨240, 0, 0, 0⟩ 4 ↔ 240 ≤ address.a.val := by
    simp only [InNetwork, Ipv4Addr.value]
    omega
  simp only [NonPublicIpv4, nonPublicNetworks, List.mem_cons, List.not_mem_nil, or_false,
    exists_eq_or_imp, exists_eq_left, publicIpv4, isPrivate, Bool.not_eq_true',
    Bool.or_eq_false_iff, Bool.and_eq_false_iff, beq_eq_false_iff_ne, decide_eq_false_iff_not,
    not_or, not_and_or, and_assoc, or_assoc, ne_eq, h12, h10, h15, h224, h240, inNetwork_8,
    inNetwork_16, inNetwork_24, inNetwork_32, Fin.coe_ofNat_eq_mod, Nat.reduceMod, Nat.zero_mod]
  constructor
  · intro h
    obtain ⟨-, n10, n172, n192, n127, n169, n255, n224, n0, n100, n1920, n1922, n19818, n19851,
      n203, n240⟩ := h
    exact ⟨n0, n10, n172, n192, n127, n169, n100, n1920, n1922, n19851, n203, n19818, n224, n240,
      n255⟩
  · intro h
    obtain ⟨n0, n10, n172, n192, n127, n169, n100, n1920, n1922, n19851, n203, n19818, n224, n240,
      n255⟩ := h
    exact ⟨Or.inl n0, n10, n172, n192, n127, n169, n255, n224, n0, n100, n1920, n1922, n19818,
      n19851, n203, n240⟩

/-! ## Addresses that reach no public host -/

def segment (address : Ipv6Addr) (i : Nat) : Nat := address.segments.getD i 0

/-- The IPv4 address within a 6to4 address, one of 2002::/16. -/
def sixToFour (address : Ipv6Addr) : Option Ipv4Addr :=
  if segment address 0 = 0x2002 then
    some ⟨Fin.ofNat 256 (segment address 1 / 256), Fin.ofNat 256 (segment address 1),
      Fin.ofNat 256 (segment address 2 / 256), Fin.ofNat 256 (segment address 2)⟩
  else none

/-- 2000::/3. -/
def GlobalUnicast (address : Ipv6Addr) : Prop := segment address 0 / 2 ^ 13 = 0x2000 / 2 ^ 13

/-- 2001:db8::/32. -/
def Documentation (address : Ipv6Addr) : Prop :=
  segment address 0 = 0x2001 ∧ segment address 1 = 0xdb8

theorem octet_zero (address : Ipv6Addr) : octet address 0 = segment address 0 / 256 ∧
    octet address 1 = segment address 0 % 256 ∧ octet address 2 = segment address 1 / 256 ∧
    octet address 3 = segment address 1 % 256 := by
  have hlength := address.length_eq
  unfold octet octets segment
  cases hsegments : address.segments with
  | nil =>
    rw [hsegments] at hlength
    cases hlength
  | cons s segments =>
    cases segments with
    | nil =>
      rw [hsegments] at hlength
      cases hlength
    | cons t segments => exact ⟨rfl, rfl, rfl, rfl⟩

theorem segment_lt (address : Ipv6Addr) (i : Nat) : segment address i < 65536 := by
  unfold segment
  rw [List.getD_eq_getElem?_getD]
  cases hi : address.segments[i]? with
  | none => decide
  | some s => exact address.small s (List.mem_of_getElem? hi)

theorem and_e0_eq {n : Nat} (h : n < 256) : (n &&& 0xe0 = 0x20) ↔ n / 32 = 1 := by
  have key : ∀ n : Fin 256, (n.val &&& 0xe0 = 0x20) ↔ n.val / 32 = 1 := by decide +kernel
  exact key ⟨n, h⟩

theorem and_fe_eq {n : Nat} (h : n < 256) : (n &&& 0xfe = 0xfc) → n / 32 = 7 := by
  have key : ∀ n : Fin 256, (n.val &&& 0xfe = 0xfc) → n.val / 32 = 7 := by decide +kernel
  exact key ⟨n, h⟩

/-- The other tests only refuse addresses outside 2000::/3. -/
theorem publicIpv6_iff (address : Ipv6Addr) :
    publicIpv6 address = true ↔ GlobalUnicast address ∧ ¬ Documentation address := by
  obtain ⟨h0, h1, h2, h3⟩ := octet_zero address
  have hlt0 := segment_lt address 0
  have hlt1 := segment_lt address 1
  have hglobal : (segment address 0 / 256 &&& 0xe0 = 0x20) ↔ GlobalUnicast address := by
    rw [and_e0_eq (by omega)]
    unfold GlobalUnicast
    omega
  have hdoc : Documentation address ↔ ((segment address 0 / 256 = 0x20 ∧
      segment address 0 % 256 = 0x01) ∧ segment address 1 / 256 = 0x0d) ∧
      segment address 1 % 256 = 0xb8 := by
    unfold Documentation
    omega
  simp only [publicIpv6, h0, h1, h2, h3, Bool.and_eq_true, Bool.not_eq_true', Bool.or_eq_false_iff,
    beq_eq_false_iff_ne, beq_iff_eq, Bool.and_eq_false_iff, hglobal, hdoc, not_and_or]
  constructor
  · rintro ⟨⟨-, hnotdoc⟩, hunicast⟩
    exact ⟨hunicast, hnotdoc⟩
  · rintro ⟨hunicast, hnotdoc⟩
    have hfirst : segment address 0 / 256 / 32 = 1 := by
      unfold GlobalUnicast at hunicast
      omega
    have hnonzero : ∀ segments : List Nat, segments.getD 0 0 = 0 → address.segments ≠ segments := by
      intro segments hzero heq
      unfold segment at hfirst
      rw [heq, hzero] at hfirst
      cases hfirst
    have hlocal : segment address 0 / 256 &&& 0xfe ≠ 0xfc := by
      intro heq
      have hseven := and_fe_eq (by omega) heq
      omega
    refine ⟨⟨⟨⟨⟨⟨hnonzero _ rfl, hnonzero _ rfl⟩, ?_⟩, hlocal⟩, Or.inl ?_⟩, hnotdoc⟩, hunicast⟩ <;>
      omega

/-- The addresses that a client may not be pinned to.  An address that stands for an IPv4 address,
    mapped or by 6to4, is as public as that one. -/
def Forbidden : IpAddr → Prop
  | .v4 address => NonPublicIpv4 address
  | .v6 address =>
      match address.toIpv4Mapped with
      | some mapped => NonPublicIpv4 mapped
      | none => ¬ GlobalUnicast address ∨ Documentation address ∨
          ∃ carried ∈ sixToFour address, NonPublicIpv4 carried

/-- The same by prefixes alone: every IPv4-mapped address lies outside 2000::/3. -/
def ForbiddenByPrefix : IpAddr → Prop
  | .v4 address => NonPublicIpv4 address
  | .v6 address => ¬ GlobalUnicast address ∨ Documentation address ∨
      ∃ carried ∈ sixToFour address, NonPublicIpv4 carried

/-- A 6to4 address of a non-public IPv4 address. -/
def Tunnels : IpAddr → Prop
  | .v4 _ => False
  | .v6 address => ∃ carried ∈ sixToFour address, NonPublicIpv4 carried

def IsMapped : IpAddr → Prop
  | .v4 _ => False
  | .v6 address => ∃ mapped, address.toIpv4Mapped = some mapped

theorem publicManagementHost_v4 (address : Ipv4Addr) :
    publicManagementHost (IpAddr.v4 address).text = true ↔ ¬ NonPublicIpv4 address := by
  rw [publicManagementHost_eq]
  unfold publicHost
  rw [IpAddr.parse_text]
  exact publicIpv4_iff address

/-- The addresses that are let through. -/
theorem publicManagementHost_v6 (address : Ipv6Addr) :
    publicManagementHost (IpAddr.v6 address).text = true ↔
      (∃ mapped, address.toIpv4Mapped = some mapped ∧ ¬ NonPublicIpv4 mapped) ∨
        (address.toIpv4Mapped = none ∧ GlobalUnicast address ∧ ¬ Documentation address) := by
  rw [publicManagementHost_eq]
  unfold publicHost
  rw [IpAddr.parse_text]
  dsimp only
  cases hmapped : address.toIpv4Mapped with
  | some mapped =>
    have hv4 := publicManagementHost_v4 mapped
    simp only [Option.some.injEq, exists_eq_left', reduceCtorEq, false_and, or_false]
    exact hv4
  | none =>
    simp only [reduceCtorEq, false_and, exists_false, false_or, true_and]
    exact publicIpv6_iff address

theorem segment_zero_of_mapped {address : Ipv6Addr} {mapped : Ipv4Addr}
    (h : address.toIpv4Mapped = some mapped) : segment address 0 = 0 := by
  unfold segment
  rw [toIpv4Mapped_eq_some h]
  rfl

theorem not_globalUnicast_of_mapped {address : Ipv6Addr} {mapped : Ipv4Addr}
    (h : address.toIpv4Mapped = some mapped) : ¬ GlobalUnicast address := by
  unfold GlobalUnicast
  rw [segment_zero_of_mapped h]
  decide

theorem not_tunnels_of_mapped {address : Ipv6Addr} {mapped : Ipv4Addr}
    (h : address.toIpv4Mapped = some mapped) : ¬ Tunnels (.v6 address) := by
  have hnone : sixToFour address = none := by
    unfold sixToFour
    rw [segment_zero_of_mapped h]
    rfl
  rintro ⟨carried, hcarried, -⟩
  rw [hnone] at hcarried
  cases hcarried

/-- Among the addresses let through, 6to4 is what is missed. -/
theorem forbidden_iff_of_public {address : IpAddr}
    (h : publicManagementHost address.text = true) : Forbidden address ↔ Tunnels address := by
  cases address with
  | v4 address =>
    exact ⟨fun hbad => absurd hbad ((publicManagementHost_v4 address).mp h), False.elim⟩
  | v6 address =>
    rcases (publicManagementHost_v6 address).mp h with ⟨mapped, hmapped, hpublic⟩ |
      ⟨hnone, hunicast, hnotdoc⟩
    · unfold Forbidden
      dsimp only
      rw [hmapped]
      exact ⟨fun hbad => absurd hbad hpublic, fun ht => absurd ht (not_tunnels_of_mapped hmapped)⟩
    · unfold Forbidden
      dsimp only
      rw [hnone]
      constructor
      · rintro (hbad | hbad | hbad)
        · exact absurd hunicast hbad
        · exact absurd hbad hnotdoc
        · exact hbad
      · exact fun ht => Or.inr (Or.inr ht)

theorem forbiddenByPrefix_iff_of_public {address : IpAddr}
    (h : publicManagementHost address.text = true) :
    ForbiddenByPrefix address ↔ Tunnels address ∨ IsMapped address := by
  cases address with
  | v4 address =>
    refine ⟨fun hbad => absurd hbad ((publicManagementHost_v4 address).mp h), ?_⟩
    rintro (hbad | hbad) <;> exact hbad.elim
  | v6 address =>
    rcases (publicManagementHost_v6 address).mp h with ⟨mapped, hmapped, -⟩ |
      ⟨hnone, hunicast, hnotdoc⟩
    · exact ⟨fun _ => Or.inr ⟨mapped, hmapped⟩,
        fun _ => Or.inl (not_globalUnicast_of_mapped hmapped)⟩
    · constructor
      · rintro (hbad | hbad | hbad)
        · exact absurd hunicast hbad
        · exact absurd hbad hnotdoc
        · exact Or.inl hbad
      · rintro (ht | ⟨mapped, hmapped⟩)
        · exact Or.inr (Or.inr ht)
        · rw [hnone] at hmapped
          cases hmapped

/-! ## Calls -/

theorem mem_dedup {a : SocketAddr} : ∀ addresses : List SocketAddr,
    a ∈ dedup addresses ↔ a ∈ addresses := by
  intro addresses
  fun_induction dedup addresses with
  | case1 => rfl
  | case2 b => rfl
  | case3 b rest ih =>
    rw [ih]
    simp
  | case4 b c rest hne ih => rw [List.mem_cons, ih, List.mem_cons (b := b)]

theorem validatedManagementAddresses_eq_ok (addresses pinned : List SocketAddr) :
    validatedManagementAddresses addresses .production = .ok pinned ↔
      pinned = distinct addresses ∧ pinned ≠ [] ∧
        ∀ a ∈ pinned, publicManagementHost a.ip.text = true := by
  unfold validatedManagementAddresses
  simp only [bind_unit_eq_ok, ensure_eq_ok, pure_eq_ok, forall_const]
  constructor
  · rintro ⟨hne, hpublic, rfl⟩
    exact ⟨rfl, hne, hpublic⟩
  · rintro ⟨rfl, hne, hpublic⟩
    exact ⟨hne, hpublic, rfl⟩

theorem mem_distinct {addresses : List SocketAddr} {a : SocketAddr} :
    a ∈ distinct addresses ↔ a ∈ addresses := by
  unfold distinct
  rw [mem_dedup, List.mem_insertionSort]

/-- Nothing but the answer can make a call to the endpoint fail. -/
def Servable (net : NetCrates) (endpoint : String) : Prop :=
  ∃ url, safeManagementEndpoint net.parseUrl endpoint .production = .ok url ∧
    url.portOrKnownDefault ≠ none ∧ net.transportBuilds = true ∧ net.parseUri endpoint = true

/-- A call that succeeds is pinned to its own answer, without a bad address. -/
def Guarded (bad : IpAddr → Prop) (net : NetCrates) (endpoint : String) (answer : DnsAnswer) :
    Prop :=
  ∀ client, managementClient net endpoint .production answer = .ok client →
    ∀ a ∈ client.addresses, a ∈ answer.addresses ∧ ¬ bad a.ip

theorem managementClient_eq_ok {net : NetCrates} {endpoint : String} {answer : DnsAnswer}
    {client : PinnedClient} (h : managementClient net endpoint .production answer = .ok client) :
    Servable net endpoint ∧ (∀ a, a ∈ client.addresses ↔ a ∈ answer.addresses) ∧
      ∀ a ∈ answer.addresses, publicManagementHost a.ip.text = true := by
  unfold managementClient at h
  simp only [bind_eq_ok, okOr_eq_ok, ensure_eq_ok, pure_eq_ok] at h
  obtain ⟨url, hurl, host, -, port, hport, addresses, hlookup, pinned, hpinned, -, hbuilds, -, huri,
    rfl⟩ := h
  have haddresses : answer.addresses = addresses := by
    cases answer with
    | resolved answered => exact Except.ok.inj hlookup
    | timedOut => cases hlookup
    | failed => cases hlookup
  obtain ⟨rfl, -, hpublic⟩ := (validatedManagementAddresses_eq_ok addresses pinned).mp hpinned
  rw [haddresses]
  refine ⟨⟨url, hurl, ?_, hbuilds, huri⟩, fun a => mem_distinct, fun a ha => ?_⟩
  · rw [hport]
    exact Option.some_ne_none port
  · exact hpublic a (mem_distinct.mpr ha)

theorem exists_client {net : NetCrates} {endpoint : String} {answer : DnsAnswer}
    (hservable : Servable net endpoint) (hne : answer.addresses ≠ [])
    (hpublic : ∀ a ∈ answer.addresses, publicManagementHost a.ip.text = true) :
    ∃ client, managementClient net endpoint .production answer = .ok client := by
  obtain ⟨url, hurl, hport, hbuilds, huri⟩ := hservable
  obtain ⟨port, hport⟩ := Option.ne_none_iff_exists'.mp hport
  have hhost : ∃ host, url.host = some host := by
    unfold safeManagementEndpoint at hurl
    simp only [bind_eq_ok, okOr_eq_ok, ensure_eq_ok, pure_eq_ok] at hurl
    obtain ⟨url', -, -, -, host, hhost, -, -, -, -, rfl⟩ := hurl
    exact ⟨host, hhost⟩
  obtain ⟨host, hhost⟩ := hhost
  cases answer with
  | timedOut => exact absurd rfl hne
  | failed => exact absurd rfl hne
  | resolved addresses =>
    obtain ⟨a, ha⟩ := List.exists_mem_of_ne_nil _ hne
    have hpinned : validatedManagementAddresses addresses .production = .ok (distinct addresses) :=
      (validatedManagementAddresses_eq_ok addresses _).mpr
        ⟨rfl, List.ne_nil_of_mem (mem_distinct.mpr ha), fun b hb => hpublic b (mem_distinct.mp hb)⟩
    refine ⟨⟨host, distinct addresses⟩, ?_⟩
    unfold managementClient
    simp only [bind_eq_ok, okOr_eq_ok, ensure_eq_ok, pure_eq_ok]
    exact ⟨url, hurl, host, hhost, port, hport, addresses, rfl, _, hpinned, (), hbuilds, (), huri,
      rfl⟩

/-- A call is safe unless it succeeds on an address that the check misses. -/
theorem guarded_iff {bad missed : IpAddr → Prop}
    (h : ∀ {address : IpAddr}, publicManagementHost address.text = true →
      (bad address ↔ missed address))
    (net : NetCrates) (endpoint : String) (answer : DnsAnswer) :
    Guarded bad net endpoint answer ↔
      ¬ Servable net endpoint ∨
        (∃ a ∈ answer.addresses, publicManagementHost a.ip.text = false) ∨
        ∀ a ∈ answer.addresses, ¬ missed a.ip := by
  constructor
  · intro hguarded
    by_contra hcond
    simp only [not_or, not_not, not_exists, not_and, Bool.not_eq_false, not_forall] at hcond
    obtain ⟨hservable, hpublic, a, ha, hmissed⟩ := hcond
    obtain ⟨client, hclient⟩ := exists_client hservable (List.ne_nil_of_mem ha) hpublic
    obtain ⟨-, hmem, -⟩ := managementClient_eq_ok hclient
    have hgood := (hguarded client hclient a ((hmem a).mpr ha)).2
    exact hgood ((h (hpublic a ha)).mpr hmissed)
  · intro hcond client hclient a ha
    obtain ⟨hservable, hmem, hpublic⟩ := managementClient_eq_ok hclient
    have ha := (hmem a).mp ha
    refine ⟨ha, fun hbad => ?_⟩
    rcases hcond with hnot | ⟨b, hb, hfalse⟩ | hnone
    · exact hnot hservable
    · rw [hpublic b hb] at hfalse
      cases hfalse
    · exact hnone a ha ((h (hpublic a ha)).mp hbad)

/-- For any number of calls, each with an answer of its own: every call that succeeds is pinned to
    its answer and to no address that leads to a non-public network, exactly if no answer that
    would be used contains a 6to4 address of a non-public IPv4 address.  Counted by prefixes alone,
    it must not contain an IPv4-mapped address either. -/
theorem management_client_iff (net : NetCrates) (endpoint : String) (answers : List DnsAnswer) :
    ((∀ answer ∈ answers, Guarded Forbidden net endpoint answer) ↔
      ∀ answer ∈ answers, ¬ Servable net endpoint ∨
        (∃ a ∈ answer.addresses, publicManagementHost a.ip.text = false) ∨
        ∀ a ∈ answer.addresses, ¬ Tunnels a.ip) ∧
    ((∀ answer ∈ answers, Guarded ForbiddenByPrefix net endpoint answer) ↔
      ∀ answer ∈ answers, ¬ Servable net endpoint ∨
        (∃ a ∈ answer.addresses, publicManagementHost a.ip.text = false) ∨
        ∀ a ∈ answer.addresses, ¬ (Tunnels a.ip ∨ IsMapped a.ip)) :=
  ⟨forall₂_congr fun answer _ => guarded_iff forbidden_iff_of_public net endpoint answer,
    forall₂_congr fun answer _ => guarded_iff forbiddenByPrefix_iff_of_public net endpoint answer⟩

/-- 2002:a00:1::, the 6to4 address of 10.0.0.1. -/
def tunnelAddress : SocketAddr :=
  ⟨.v6 ⟨[0x2002, 0x0a00, 0x0001, 0, 0, 0, 0, 0], rfl, by decide⟩, 443⟩

def sampleNet : NetCrates where
  parseUrl := fun _ =>
    some ⟨"https", "", none, some "realm.example.com".toList, some 443, "/", none, none⟩
  parseUri := fun _ => true
  transportBuilds := true

theorem management_client_tunnels :
    (∃ client, managementClient sampleNet "https://realm.example.com" .production
      (.resolved [tunnelAddress]) = .ok client ∧ tunnelAddress ∈ client.addresses) ∧
      Forbidden tunnelAddress.ip := by
  refine ⟨⟨⟨"realm.example.com".toList, [tunnelAddress]⟩, rfl, List.mem_cons_self⟩, ?_⟩
  refine Or.inr (Or.inr ⟨⟨10, 0, 0, 1⟩, rfl, (⟨10, 0, 0, 0⟩, 8), ?_, ?_⟩)
  · decide
  · unfold InNetwork
    decide

end RustyAuth
