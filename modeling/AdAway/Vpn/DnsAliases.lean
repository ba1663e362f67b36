import AdAway.Vpn.DnsServerMapper
import Mathlib.Data.List.Nodup

/-!
# Registering the fake DNS addresses

`DnsServerMapper.configureVpn` gives each DNS server it keeps one alias: an address of the subnet of
its family whose last byte is the number of the server. An IPv6 server is kept only when the tunnel
has an IPv6 address. `getDnsServerFromFakeAddress` then finds the server by the last byte of an
address alone.

The two disagree in three ways. The last byte wraps after 254 servers; it is read back as a signed
number, so that it names no server from 128 on; and the other bytes of the address are not looked
at, nor is its family.

## What may throw

A call of the builder throws when the platform refuses it, which is the parameter `accepts`. An IPv4
address that is refused is replaced by one of the next test network; any other refusal ends
`configureVpn`, as does the lack of an IPv4 address.

## Main definitions

* `Subnet`, `BuilderCall` — the data of a configuration
* `configureVpn` — the method: the servers kept, and the calls made of the builder
* `dnsAliases`, `tunnelAddresses` — what the calls register
* `MapsBack` — the promise of the mapper for an address
* `NamesOneServer` — when it is kept
* `RegistersServers`, `ServesSome` — some server is registered, and when

## Main results

* `configureVpn_eq_some` — which servers are kept, under which aliases
* `getDnsServerFromFakeAddress_eq` — the server of an address, by its last byte
* `fakeAddress_iff` — when an address is mapped back
* `registersServers_iff` — when a server is registered
-/

namespace AdAway

/-- A `Subnet`. -/
structure Subnet where
  address : InetAddress
  prefixLength : ℕ
  deriving DecidableEq

/-- `DnsServerMapper.TEST_NET_ADDRESS_BLOCKS`. -/
def testNetAddressBlocks : List Subnet :=
  [⟨⟨[192, 0, 2, 0], Or.inl rfl⟩, 24⟩, ⟨⟨[198, 51, 100, 0], Or.inl rfl⟩, 24⟩,
    ⟨⟨[203, 0, 113, 0], Or.inl rfl⟩, 24⟩]

/-- `DnsServerMapper.IPV6_ADDRESS_PREFIX_RESERVED_FOR_DOCUMENTATION`. -/
def ipv6AddressPrefixReservedForDocumentation : Subnet where
  address := ⟨[0x20, 0x01, 0x0d, 0xb8, 0, 0, 0, 0, 0, 0, 0, 0, 0, 0, 0, 0], Or.inr rfl⟩
  prefixLength := 32

/-- `DnsServerMapper.IPV6_PREFIX_LENGTH`. -/
def ipv6PrefixLength : ℕ := 120

/-- The calls of `VpnService.Builder`. -/
inductive BuilderCall
  | addAddress (address : InetAddress) (prefixLength : ℕ)
  | addDnsServer (address : InetAddress)
  | addRoute (address : InetAddress) (prefixLength : ℕ)
  deriving DecidableEq

/-! ### `configureVpn` -/

section Configure

variable (accepts : BuilderCall → Bool)

/-- A call of the builder; `none` when it throws. -/
def call (c : BuilderCall) : Option BuilderCall := if accepts c then some c else none

/-- `DnsServerMapper.addIpv4Address`. -/
def addIpv4Address : List Subnet → Option (Subnet × BuilderCall)
  | [] => none
  | subnet :: addressBlocks =>
    match call accepts (.addAddress (getAddress subnet.address 0) subnet.prefixLength) with
    | some c => some (subnet, c)
    | none => addIpv4Address addressBlocks

/-- `DnsServerMapper.addIpv6Address`. -/
def addIpv6Address : Option (Subnet × BuilderCall) := do
  let subnet := ipv6AddressPrefixReservedForDocumentation
  let c ← call accepts (.addAddress subnet.address ipv6PrefixLength)
  return (subnet, c)

/-- `DnsServerMapper.hasIpV6DnsServers`. -/
def hasIpV6DnsServers (isIpv6Enabled : Bool) (dnsServers : List InetAddress) : Bool :=
  (isIpv6Enabled || dnsServers.length == 1) && dnsServers.any InetAddress.isInet6

/-- The loop of `configureVpn`, with the servers mapped so far. -/
def mapDnsServers (ipv4Subnet : Subnet) (ipv6Subnet : Option Subnet) :
    List InetAddress → List InetAddress → Option (List InetAddress × List BuilderCall)
  | mapped, [] => some (mapped, [])
  | mapped, dnsServer :: dnsServers =>
    match if dnsServer.isInet6 then ipv6Subnet else some ipv4Subnet with
    | none => mapDnsServers ipv4Subnet ipv6Subnet mapped dnsServers
    | some subnetForDnsServer => do
      let mapped := mapped ++ [dnsServer]
      let dnsAddressAlias := getAddress subnetForDnsServer.address mapped.length
      let c ← call accepts (.addDnsServer dnsAddressAlias)
      let routes ← (if dnsServer.isInet6 then some []
        else (call accepts (.addRoute dnsAddressAlias 32)).map ([·]))
      let rest ← mapDnsServers ipv4Subnet ipv6Subnet mapped dnsServers
      return (rest.1, c :: routes ++ rest.2)

/-- `DnsServerMapper.configureVpn`: the field `dnsServers` after it, and the calls of the builder;
`none` when it throws. -/
def configureVpn (isIpv6Enabled : Bool) (dnsServers : List InetAddress) :
    Option (List InetAddress × List BuilderCall) := do
  let ipv4 ← addIpv4Address accepts testNetAddressBlocks
  let ipv6 ← (if hasIpV6DnsServers isIpv6Enabled dnsServers then (addIpv6Address accepts).map some
    else some none)
  let mapped ← mapDnsServers accepts ipv4.1 (ipv6.map Prod.fst) [] dnsServers
  return (mapped.1, ipv4.2 :: (ipv6.map Prod.snd).toList ++ mapped.2)

end Configure

/-! ### What is registered -/

/-- The fake DNS addresses registered, in order. -/
def dnsAliases (calls : List BuilderCall) : List InetAddress :=
  calls.filterMap fun
    | .addDnsServer address => some address
    | _ => none

/-- The addresses of the tunnel interface. -/
def tunnelAddresses (calls : List BuilderCall) : List InetAddress :=
  calls.filterMap fun
    | .addAddress address _ => some address
    | _ => none

/-- The test network of the tunnel: the first one the platform accepts. -/
def tunnelSubnet (accepts : BuilderCall → Bool) : Option Subnet :=
  testNetAddressBlocks.find? fun subnet =>
    accepts (.addAddress (getAddress subnet.address 0) subnet.prefixLength)

/-- The servers whose family has a subnet. -/
def keptServers (isIpv6Enabled : Bool) (dnsServers : List InetAddress) : List InetAddress :=
  dnsServers.filter fun server => !server.isInet6 || hasIpV6DnsServers isIpv6Enabled dnsServers

/-- The subnet of the family of a server, given the test network. -/
def subnetOf (ipv4 : Subnet) (server : InetAddress) : InetAddress :=
  if server.isInet6 then ipv6AddressPrefixReservedForDocumentation.address else ipv4.address

/-- The alias of the server at a position. -/
def aliasOf (ipv4 : Subnet) (i : ℕ) (server : InetAddress) : InetAddress :=
  getAddress (subnetOf ipv4 server) (i + 1)

/-- The last byte, unsigned. -/
def lastByte (a : InetAddress) : ℕ := (a.bytes.getLast a.bytes_ne_nil).toNat

/-- The promise of the mapper for an address: it finds a server exactly when the address is
registered, and then the server it is registered for. -/
def MapsBack (mapped : List InetAddress) (calls : List BuilderCall) (a : InetAddress) : Prop :=
  ∀ server, getDnsServerFromFakeAddress mapped a = some server ↔
    ∃ i : ℕ, (dnsAliases calls)[i]? = some a ∧ mapped[i]? = some server

/-- The address lies in the subnet of the family of a server. -/
def InSubnetOf (ipv4 : Subnet) (a server : InetAddress) : Prop :=
  (subnetOf ipv4 server).bytes.dropLast = a.bytes.dropLast

/-- The last byte of an address names one server, and the address lies in its subnet. Beyond 127 the
last byte names no server, and the address must be no alias. -/
def NamesOneServer (ipv4 : Subnet) (servers : List InetAddress) (a : InetAddress) : Prop :=
  if 2 ≤ lastByte a ∧ lastByte a < 128 then
    ∀ server, servers[lastByte a - 2]? = some server → InSubnetOf ipv4 a server ∧
      ∀ (i : ℕ) (other : InetAddress), servers[i]? = some other → i % 256 = lastByte a - 2 →
        other.isInet6 = server.isInet6 → other = server
  else
    ∀ (i : ℕ) (server : InetAddress), servers[i]? = some server → (i + 2) % 256 = lastByte a →
      ¬ InSubnetOf ipv4 a server

/-! ### Addresses of a subnet -/

@[simp] theorem lastByte_getAddress (subnet : InetAddress) (index : ℕ) :
    lastByte (getAddress subnet index) = (index + 1) % 256 := by
  simp [lastByte, getAddress]

@[simp] theorem bytes_getAddress (subnet : InetAddress) (index : ℕ) :
    (getAddress subnet index).bytes = subnet.bytes.dropLast ++ [UInt8.ofNat (index + 1)] := rfl

theorem getAddress_eq_iff {subnet a : InetAddress} {index : ℕ} :
    getAddress subnet index = a ↔
      subnet.bytes.dropLast = a.bytes.dropLast ∧ (index + 1) % 256 = lastByte a := by
  constructor
  · rintro rfl
    rw [bytes_getAddress, List.dropLast_concat, lastByte_getAddress]
    exact ⟨rfl, rfl⟩
  · rintro ⟨hleading, hbyte⟩
    have hlast : UInt8.ofNat (index + 1) = a.bytes.getLast a.bytes_ne_nil := by
      apply UInt8.toNat_inj.mp
      rw [UInt8.toNat_ofNat']
      exact hbyte
    have hbytes : (getAddress subnet index).bytes = a.bytes := by
      rw [bytes_getAddress, hleading, hlast, List.dropLast_append_getLast]
    cases a
    simpa only [getAddress, InetAddress.mk.injEq] using hbytes

/-- The server is found by the last byte alone, up to 127. -/
theorem getDnsServerFromFakeAddress_eq (dnsServers : List InetAddress) (a : InetAddress) :
    getDnsServerFromFakeAddress dnsServers a =
      if 2 ≤ lastByte a ∧ lastByte a < 128 then dnsServers[lastByte a - 2]? else none := by
  have hsigned : (a.bytes.getLast a.bytes_ne_nil).toInt8.toInt =
      if lastByte a < 128 then (lastByte a : Int) else lastByte a - 256 := by
    have hcond := BitVec.toInt_eq_toNat_cond (a.bytes.getLast a.bytes_ne_nil).toBitVec
    simp only [lastByte, ← UInt8.toNat_toBitVec, Int8.toInt, UInt8.toBitVec_toInt8] at hcond ⊢
    rw [hcond]
    split <;> split <;> omega
  have hbyte : lastByte a < 256 := UInt8.toNat_lt _
  rw [getDnsServerFromFakeAddress, hsigned]
  by_cases hlt : lastByte a < 128
  · simp only [if_pos hlt]
    by_cases hle : 2 ≤ lastByte a
    · have hindex : ((lastByte a : Int) - 2).toNat = lastByte a - 2 := by omega
      rw [hindex, if_pos (show 2 ≤ lastByte a ∧ lastByte a < 128 from ⟨hle, hlt⟩)]
      split
      · exact (List.getElem?_eq_none (by omega)).symm
      · rfl
    · rw [if_pos (by omega), if_neg (by omega)]
  · simp only [if_neg hlt]
    rw [if_pos (by omega), if_neg (by omega)]

/-! ### What `configureVpn` registers -/

section Configured

variable {accepts : BuilderCall → Bool} {isIpv6Enabled : Bool}
  {dnsServers mapped mapped' : List InetAddress} {calls : List BuilderCall} {ipv4 : Subnet}

theorem call_eq_some {c c' : BuilderCall} (h : call accepts c = some c') :
    accepts c = true ∧ c' = c := by
  rw [call] at h
  split at h
  · exact ⟨by assumption, (Option.some.inj h).symm⟩
  · exact absurd h (by simp)

theorem addIpv4Address_eq_some {blocks : List Subnet} {c : BuilderCall}
    (h : addIpv4Address accepts blocks = some (ipv4, c)) :
    blocks.find? (fun subnet =>
        accepts (.addAddress (getAddress subnet.address 0) subnet.prefixLength)) = some ipv4 ∧
      c = .addAddress (getAddress ipv4.address 0) ipv4.prefixLength := by
  induction blocks with
  | nil => simp [addIpv4Address] at h
  | cons subnet blocks ih =>
    rw [addIpv4Address, call] at h
    rw [List.find?_cons]
    split at h
    next c' hc =>
      obtain ⟨haccepts, rfl⟩ := call_eq_some hc
      obtain ⟨rfl, rfl⟩ := Prod.mk.inj (Option.some.inj h)
      exact ⟨by rw [haccepts], rfl⟩
    next hc =>
      have hrefused :
          accepts (.addAddress (getAddress subnet.address 0) subnet.prefixLength) = false := by
        by_contra haccepts
        simp [haccepts] at hc
      rw [hrefused]
      exact ih h

theorem dnsAliases_append (calls calls' : List BuilderCall) :
    dnsAliases (calls ++ calls') = dnsAliases calls ++ dnsAliases calls' :=
  List.filterMap_append

theorem tunnelAddresses_append (calls calls' : List BuilderCall) :
    tunnelAddresses (calls ++ calls') = tunnelAddresses calls ++ tunnelAddresses calls' :=
  List.filterMap_append

theorem addIpv6Address_eq_some {ipv6 : Option (Subnet × BuilderCall)}
    (h : (if hasIpV6DnsServers isIpv6Enabled dnsServers then (addIpv6Address accepts).map some
      else some none) = some ipv6) :
    ipv6 = if hasIpV6DnsServers isIpv6Enabled dnsServers then
      some (ipv6AddressPrefixReservedForDocumentation, .addAddress
        ipv6AddressPrefixReservedForDocumentation.address ipv6PrefixLength) else none := by
  split at h
  next hhas =>
    simp only [addIpv6Address, Option.bind_eq_bind, Option.map_eq_some_iff,
      Option.bind_eq_some_iff, Option.pure_def] at h
    obtain ⟨added, ⟨c, hc, hadded⟩, rfl⟩ := h
    obtain ⟨-, rfl⟩ := call_eq_some hc
    obtain rfl := Option.some.inj hadded
    rw [if_pos hhas]
  next hhas =>
    obtain rfl := Option.some.inj h
    rw [if_neg hhas]

/-- The calls for one server: a fake DNS address, and for IPv4 a route to it. -/
theorem routes_eq_some {dnsServer dnsAddressAlias : InetAddress} {routes : List BuilderCall}
    (h : (if dnsServer.isInet6 then some []
      else (call accepts (.addRoute dnsAddressAlias 32)).map ([·])) = some routes) :
    dnsAliases routes = [] ∧ tunnelAddresses routes = [] := by
  split at h
  · obtain rfl := Option.some.inj h
    exact ⟨rfl, rfl⟩
  · obtain ⟨c, hc, rfl⟩ := Option.map_eq_some_iff.mp h
    obtain ⟨-, rfl⟩ := call_eq_some hc
    exact ⟨rfl, rfl⟩

theorem mapDnsServers_eq_some {ipv6 : Option Subnet}
    (hipv6 : ∀ subnet ∈ ipv6, subnet = ipv6AddressPrefixReservedForDocumentation)
    (h : mapDnsServers accepts ipv4 ipv6 mapped dnsServers = some (mapped', calls)) :
    mapped' = mapped ++ dnsServers.filter (fun server => !server.isInet6 || ipv6.isSome) ∧
      dnsAliases calls = (dnsServers.filter fun server => !server.isInet6 || ipv6.isSome).mapIdx
        (fun i => aliasOf ipv4 (mapped.length + i)) ∧
      tunnelAddresses calls = [] := by
  induction dnsServers generalizing mapped calls with
  | nil =>
    obtain ⟨rfl, rfl⟩ := Prod.mk.inj (Option.some.inj h)
    simp [dnsAliases, tunnelAddresses]
  | cons dnsServer dnsServers ih =>
    rw [mapDnsServers] at h
    split at h
    next hsubnet =>
      -- an IPv6 server, and the tunnel has no IPv6 address
      split at hsubnet
      next hinet6 =>
        have hdrop : (!dnsServer.isInet6 || ipv6.isSome) = false := by simp [hinet6, hsubnet]
        rw [List.filter_cons, if_neg (by simp [hdrop])]
        exact ih h
      next => exact absurd hsubnet (by simp)
    next subnet hsubnet =>
      have hkeep : (!dnsServer.isInet6 || ipv6.isSome) = true := by
        split at hsubnet
        · simp [hsubnet]
        · simp_all
      have hsubnetOf : subnet.address = subnetOf ipv4 dnsServer := by
        rw [subnetOf]
        split at hsubnet
        next hinet6 => rw [if_pos hinet6, hipv6 subnet hsubnet]
        next hinet4 => rw [if_neg hinet4, Option.some.inj hsubnet]
      simp only [Option.bind_eq_bind, Option.bind_eq_some_iff, Option.pure_def] at h
      obtain ⟨c, hc, routes, hroutes, ⟨mapped₁, calls₁⟩, hrest, hresult⟩ := h
      obtain ⟨-, rfl⟩ := call_eq_some hc
      obtain ⟨rfl, rfl⟩ := Prod.mk.inj (Option.some.inj hresult)
      obtain ⟨hnoAlias, hnoAddress⟩ := routes_eq_some hroutes
      obtain ⟨hmapped, haliases, haddresses⟩ := ih hrest
      rw [List.filter_cons, if_pos hkeep]
      refine ⟨?_, ?_, ?_⟩
      · simpa using hmapped
      · have hcons : dnsAliases (.addDnsServer (getAddress subnet.address
              (mapped ++ [dnsServer]).length) :: routes ++ calls₁) =
            getAddress subnet.address (mapped ++ [dnsServer]).length ::
              dnsAliases (routes ++ calls₁) := rfl
        rw [hcons, dnsAliases_append, hnoAlias, haliases, List.mapIdx_cons, hsubnetOf]
        simp [aliasOf, Nat.add_comm, Nat.add_left_comm]
      · have hcons : tunnelAddresses (.addDnsServer (getAddress subnet.address
              (mapped ++ [dnsServer]).length) :: routes ++ calls₁) =
            tunnelAddresses (routes ++ calls₁) := rfl
        rw [hcons, tunnelAddresses_append, hnoAddress, haddresses, List.append_nil]

/-- **What `configureVpn` has set up.** The servers with a subnet are mapped in order, each under
the alias of its position, and the tunnel has an address in the subnet of each family. -/
theorem configureVpn_eq_some
    (h : configureVpn accepts isIpv6Enabled dnsServers = some (mapped, calls))
    (hipv4 : tunnelSubnet accepts = some ipv4) :
    mapped = keptServers isIpv6Enabled dnsServers ∧
      dnsAliases calls = (keptServers isIpv6Enabled dnsServers).mapIdx (aliasOf ipv4) ∧
      tunnelAddresses calls = getAddress ipv4.address 0 ::
        if hasIpV6DnsServers isIpv6Enabled dnsServers
          then [ipv6AddressPrefixReservedForDocumentation.address] else [] := by
  simp only [configureVpn, Option.bind_eq_bind, Option.bind_eq_some_iff, Option.pure_def] at h
  obtain ⟨⟨subnet, c⟩, haddIpv4, ipv6, haddIpv6, ⟨mapped₁, calls₁⟩, hmap, hresult⟩ := h
  obtain ⟨rfl, rfl⟩ := Prod.mk.inj (Option.some.inj hresult)
  obtain ⟨hsubnet, rfl⟩ := addIpv4Address_eq_some haddIpv4
  obtain rfl : subnet = ipv4 := Option.some.inj (hsubnet.symm.trans hipv4)
  have hipv6 := addIpv6Address_eq_some haddIpv6
  have hleading : ∀ subnet ∈ ipv6.map Prod.fst,
      subnet = ipv6AddressPrefixReservedForDocumentation := by
    rw [hipv6]
    split <;> simp
  have hisSome : (ipv6.map Prod.fst).isSome = hasIpV6DnsServers isIpv6Enabled dnsServers := by
    rw [hipv6]
    split <;> simp_all
  obtain ⟨hmapped, haliases, haddresses⟩ := mapDnsServers_eq_some hleading hmap
  simp only [hisSome, List.nil_append, List.length_nil, Nat.zero_add] at hmapped haliases
  refine ⟨hmapped, ?_, ?_⟩
  · have hnone : dnsAliases (ipv6.map Prod.snd).toList = [] := by
      rw [hipv6]
      split <;> rfl
    rw [keptServers, ← haliases, List.cons_append]
    change dnsAliases ((ipv6.map Prod.snd).toList ++ calls₁) = dnsAliases calls₁
    rw [dnsAliases_append, hnone, List.nil_append]
  · have hsome : tunnelAddresses (ipv6.map Prod.snd).toList =
        if hasIpV6DnsServers isIpv6Enabled dnsServers
          then [ipv6AddressPrefixReservedForDocumentation.address] else [] := by
      rw [hipv6]
      split <;> rfl
    rw [List.cons_append]
    change getAddress subnet.address 0 ::
      tunnelAddresses ((ipv6.map Prod.snd).toList ++ calls₁) = _
    rw [tunnelAddresses_append, hsome, haddresses, List.append_nil]

end Configured

/-! ### The aliases -/

section Aliases

variable {ipv4 : Subnet} {servers : List InetAddress} {a : InetAddress}

theorem aliasOf_eq_iff {i : ℕ} {server : InetAddress} :
    aliasOf ipv4 i server = a ↔ InSubnetOf ipv4 a server ∧ (i + 2) % 256 = lastByte a :=
  getAddress_eq_iff

theorem isInet6_of_tunnelSubnet {accepts : BuilderCall → Bool}
    (hipv4 : tunnelSubnet accepts = some ipv4) : ipv4.address.isInet6 = false := by
  have hmem : ipv4 ∈ testNetAddressBlocks := List.mem_of_find?_eq_some hipv4
  have hall : ∀ subnet ∈ testNetAddressBlocks, subnet.address.isInet6 = false := by decide
  exact hall ipv4 hmem

theorem isInet6_getAddress (subnet : InetAddress) (index : ℕ) :
    (getAddress subnet index).isInet6 = subnet.isInet6 := by
  have hpos := List.length_pos_of_ne_nil subnet.bytes_ne_nil
  simp only [InetAddress.isInet6, bytes_getAddress, List.length_append, List.length_dropLast,
    List.length_singleton, Nat.sub_add_cancel hpos]

theorem isInet6_subnetOf (hipv4 : ipv4.address.isInet6 = false) (server : InetAddress) :
    (subnetOf ipv4 server).isInet6 = server.isInet6 := by
  rw [subnetOf]
  split
  next hinet6 => exact hinet6.symm
  next hinet4 => exact hipv4.trans (Bool.eq_false_iff.mpr hinet4).symm

/-- A subnet has addresses of one family. -/
theorem InSubnetOf.isInet6_eq (hipv4 : ipv4.address.isInet6 = false) {server : InetAddress}
    (hserver : InSubnetOf ipv4 a server) : a.isInet6 = server.isInet6 := by
  have hlength := congrArg List.length hserver
  have hsubnet := (subnetOf ipv4 server).length_eq
  have ha := a.length_eq
  rw [← isInet6_subnetOf hipv4 server, InetAddress.isInet6, InetAddress.isInet6,
    decide_eq_decide]
  simp only [List.length_dropLast] at hlength
  omega

/-- Two servers have one alias when they are of one family and their numbers agree in a byte. -/
theorem aliasOf_eq_aliasOf_iff (hipv4 : ipv4.address.isInet6 = false) {i j : ℕ}
    {server other : InetAddress} :
    aliasOf ipv4 i server = aliasOf ipv4 j other ↔
      server.isInet6 = other.isInet6 ∧ i % 256 = j % 256 := by
  have hself : InSubnetOf ipv4 (aliasOf ipv4 j other) other := (aliasOf_eq_iff.mp rfl).1
  have hbyte : lastByte (aliasOf ipv4 j other) = (j + 2) % 256 := lastByte_getAddress _ _
  rw [aliasOf_eq_iff, hbyte]
  constructor
  · rintro ⟨hserver, hnumber⟩
    exact ⟨(hserver.isInet6_eq hipv4).symm.trans (hself.isInet6_eq hipv4), by omega⟩
  · rintro ⟨hfamily, hnumber⟩
    refine ⟨?_, by omega⟩
    rw [InSubnetOf, subnetOf, hfamily]
    exact hself

/-- An address is the alias of a server when it lies in its subnet, under its number. -/
theorem exists_alias_iff {calls : List BuilderCall} {server : InetAddress}
    (haliases : dnsAliases calls = servers.mapIdx (aliasOf ipv4)) :
    (∃ i : ℕ, (dnsAliases calls)[i]? = some a ∧ servers[i]? = some server) ↔
      ∃ i : ℕ, servers[i]? = some server ∧ InSubnetOf ipv4 a server ∧
        (i + 2) % 256 = lastByte a := by
  refine exists_congr fun i => ?_
  rw [haliases, List.getElem?_mapIdx]
  simp only [Option.map_eq_some_iff, aliasOf_eq_iff]
  constructor
  · rintro ⟨⟨server', hserver', halias⟩, hserver⟩
    obtain rfl : server' = server := Option.some.inj (hserver'.symm.trans hserver)
    exact ⟨hserver, halias⟩
  · rintro ⟨hserver, halias⟩
    exact ⟨⟨server, hserver, halias⟩, hserver⟩

theorem mapsBack_iff (hipv4 : ipv4.address.isInet6 = false) {calls : List BuilderCall}
    (haliases : dnsAliases calls = servers.mapIdx (aliasOf ipv4)) :
    MapsBack servers calls a ↔ NamesOneServer ipv4 servers a := by
  rw [MapsBack, NamesOneServer, getDnsServerFromFakeAddress_eq]
  simp only [exists_alias_iff haliases]
  split
  next hbyte =>
    constructor
    · intro h server hserver
      obtain ⟨i, -, hsubnet, -⟩ := (h server).mp hserver
      refine ⟨hsubnet, fun j other hother hj hfamily => ?_⟩
      have hsubnetOther : InSubnetOf ipv4 a other := by
        rw [InSubnetOf, subnetOf, hfamily]
        exact hsubnet
      have hfound := (h other).mpr ⟨j, hother, hsubnetOther, by omega⟩
      exact Option.some.inj (hfound.symm.trans hserver)
    · intro h server
      constructor
      · intro hserver
        exact ⟨lastByte a - 2, hserver, (h server hserver).1, by omega⟩
      · rintro ⟨i, hserver, hsubnet, hnumber⟩
        have hlength : lastByte a - 2 < servers.length := by
          have hi : i < servers.length := (List.getElem?_eq_some_iff.mp hserver).1
          omega
        -- the server found is the one named by the last byte, and it shares the subnet
        have hfound := List.getElem?_eq_getElem hlength
        obtain ⟨hsubnetFound, hsame⟩ := h _ hfound
        have hfamily := (hsubnet.isInet6_eq hipv4).symm.trans (hsubnetFound.isInet6_eq hipv4)
        rw [hfound, hsame i server hserver (by omega) hfamily]
  next hbyte =>
    constructor
    · intro h i server hserver hnumber hsubnet
      exact absurd ((h server).mpr ⟨i, hserver, hsubnet, hnumber⟩) (by simp)
    · intro h server
      constructor
      · intro hfound
        exact absurd hfound (by simp)
      · rintro ⟨i, hserver, hsubnet, hnumber⟩
        exact absurd hsubnet (h i server hserver hnumber)

theorem aliases_nodup_iff (hipv4 : ipv4.address.isInet6 = false) :
    (servers.mapIdx (aliasOf ipv4)).Nodup ↔
      ∀ (i j : ℕ) (server other : InetAddress), i < j → servers[i]? = some server →
        servers[j]? = some other → i % 256 = j % 256 → server.isInet6 ≠ other.isInet6 := by
  rw [List.nodup_iff_getElem?_ne_getElem?]
  constructor
  · intro h i j server other hij hserver hother hnumber hfamily
    have hj : j < servers.length := (List.getElem?_eq_some_iff.mp hother).1
    apply h i j hij (by simpa using hj)
    rw [List.getElem?_mapIdx, List.getElem?_mapIdx, hserver, hother, Option.map_some,
      Option.map_some, (aliasOf_eq_aliasOf_iff hipv4).mpr ⟨hfamily, hnumber⟩]
  · intro h i j hij hj heq
    rw [List.length_mapIdx] at hj
    have hi : i < servers.length := by omega
    rw [List.getElem?_mapIdx, List.getElem?_mapIdx, List.getElem?_eq_getElem hi,
      List.getElem?_eq_getElem hj] at heq
    obtain ⟨hfamily, hnumber⟩ := (aliasOf_eq_aliasOf_iff hipv4).mp (Option.some.inj heq)
    exact h i j _ _ hij (List.getElem?_eq_getElem hi) (List.getElem?_eq_getElem hj) hnumber hfamily

/-- The alias that is the address of the tunnel: number 1 in IPv4, and number 0 in IPv6. -/
theorem aliasOf_mem_tunnelAddresses_iff (hipv4 : ipv4.address.isInet6 = false) {i : ℕ}
    {server : InetAddress} {hasIpv6 : Bool} (hhas : server.isInet6 = true → hasIpv6 = true) :
    aliasOf ipv4 i server ∈ getAddress ipv4.address 0 ::
        (if hasIpv6 then [ipv6AddressPrefixReservedForDocumentation.address] else []) ↔
      i % 256 = if server.isInet6 then 254 else 255 := by
  have hfamily : (aliasOf ipv4 i server).isInet6 = server.isInet6 := by
    rw [aliasOf, isInet6_getAddress, isInet6_subnetOf hipv4]
  cases hserver : server.isInet6 with
  | false =>
    have hsubnet : InSubnetOf ipv4 (getAddress ipv4.address 0) server := by
      simp [InSubnetOf, subnetOf, hserver]
    have hne : aliasOf ipv4 i server ≠ ipv6AddressPrefixReservedForDocumentation.address := by
      intro heq
      rw [heq, hserver] at hfamily
      exact absurd hfamily (by decide)
    have hown : aliasOf ipv4 i server = getAddress ipv4.address 0 ↔ i % 256 = 255 := by
      rw [aliasOf_eq_iff, lastByte_getAddress]
      constructor
      · rintro ⟨-, hnumber⟩
        omega
      · intro hnumber
        exact ⟨hsubnet, by omega⟩
    rw [List.mem_cons, hown]
    cases hasIpv6 <;> simp [hne]
  | true =>
    have hsubnet : InSubnetOf ipv4 ipv6AddressPrefixReservedForDocumentation.address server := by
      simp [InSubnetOf, subnetOf, hserver]
    have hne : aliasOf ipv4 i server ≠ getAddress ipv4.address 0 := by
      intro heq
      rw [heq, hserver, isInet6_getAddress, hipv4] at hfamily
      exact absurd hfamily (by decide)
    have hown : aliasOf ipv4 i server = ipv6AddressPrefixReservedForDocumentation.address ↔
        i % 256 = 254 := by
      have hzero : lastByte ipv6AddressPrefixReservedForDocumentation.address = 0 := rfl
      rw [aliasOf_eq_iff, hzero]
      constructor
      · rintro ⟨-, hnumber⟩
        omega
      · intro hnumber
        exact ⟨hsubnet, by omega⟩
    rw [hhas hserver, List.mem_cons]
    simp [hne, hown]

end Aliases

/-- **When a fake address is mapped back.** The mapper keeps its promise for an address when the
last byte names one server, in whose subnet it lies; the aliases are distinct when no two servers of
one family are a multiple of 256 apart; and with up to 254 servers none is the tunnel's own. -/
theorem fakeAddress_iff {accepts : BuilderCall → Bool} {isIpv6Enabled : Bool}
    {dnsServers mapped : List InetAddress} {calls : List BuilderCall} {ipv4 : Subnet}
    (h : configureVpn accepts isIpv6Enabled dnsServers = some (mapped, calls))
    (hipv4 : tunnelSubnet accepts = some ipv4) (a : InetAddress) :
    (MapsBack mapped calls a ↔
        NamesOneServer ipv4 (keptServers isIpv6Enabled dnsServers) a) ∧
      ((dnsAliases calls).Nodup ↔
        ∀ (i j : ℕ) (server other : InetAddress), i < j →
          (keptServers isIpv6Enabled dnsServers)[i]? = some server →
          (keptServers isIpv6Enabled dnsServers)[j]? = some other →
          i % 256 = j % 256 → server.isInet6 ≠ other.isInet6) ∧
      ((∀ fake ∈ dnsAliases calls, fake ∉ tunnelAddresses calls) ↔
        ∀ (i : ℕ) (server : InetAddress),
          (keptServers isIpv6Enabled dnsServers)[i]? = some server →
          i % 256 ≠ if server.isInet6 then 254 else 255) := by
  have hfamily := isInet6_of_tunnelSubnet hipv4
  obtain ⟨rfl, haliases, haddresses⟩ := configureVpn_eq_some h hipv4
  refine ⟨mapsBack_iff hfamily haliases, ?_, ?_⟩
  · rw [haliases]
    exact aliases_nodup_iff hfamily
  · have hhas : ∀ server ∈ keptServers isIpv6Enabled dnsServers, server.isInet6 = true →
        hasIpV6DnsServers isIpv6Enabled dnsServers = true := by
      intro server hserver hinet6
      have hkept := (List.mem_filter.mp hserver).2
      simpa [hinet6] using hkept
    have howns : ∀ (i : ℕ) (server : InetAddress),
        (keptServers isIpv6Enabled dnsServers)[i]? = some server →
        (aliasOf ipv4 i server ∈ tunnelAddresses calls ↔
          i % 256 = if server.isInet6 then 254 else 255) := by
      intro i server hserver
      rw [haddresses]
      exact aliasOf_mem_tunnelAddresses_iff hfamily (hhas server (List.mem_of_getElem? hserver))
    rw [haliases]
    constructor
    · intro hdisjoint i server hserver hnumber
      have hmem := (howns i server hserver).mpr hnumber
      obtain ⟨hi, rfl⟩ := List.getElem?_eq_some_iff.mp hserver
      exact hdisjoint (aliasOf ipv4 i _) (List.mem_mapIdx.mpr ⟨i, hi, rfl⟩) hmem
    · intro hnumbers fake hfake hmem
      obtain ⟨i, hi, rfl⟩ := List.mem_mapIdx.mp hfake
      have hserver := List.getElem?_eq_getElem hi
      exact hnumbers i _ hserver ((howns i _ hserver).mp hmem)

/-- Two servers, one of each family: `10.0.0.53` and `fd00::53`. -/
def twoServers : List InetAddress :=
  [⟨[10, 0, 0, 53], Or.inl rfl⟩,
    ⟨[0xfd, 0, 0, 0, 0, 0, 0, 0, 0, 0, 0, 0, 0, 0, 0, 0x53], Or.inr rfl⟩]

/-- The first test network. -/
def testNet1 : InetAddress := ⟨[192, 0, 2, 0], Or.inl rfl⟩

/-- The calls for them: the aliases are `192.0.2.2` and `2001:db8::3`. -/
def twoServersCalls : List BuilderCall :=
  [.addAddress (getAddress testNet1 0) 24,
    .addAddress ipv6AddressPrefixReservedForDocumentation.address 120,
    .addDnsServer (getAddress testNet1 1), .addRoute (getAddress testNet1 1) 32,
    .addDnsServer (getAddress ipv6AddressPrefixReservedForDocumentation.address 2)]

theorem configureVpn_twoServers :
    configureVpn (fun _ => true) true twoServers = some (twoServers, twoServersCalls) := rfl

theorem fakeAddress_iff_twoServers :
    MapsBack twoServers twoServersCalls (getAddress testNet1 1) ∧
      (dnsAliases twoServersCalls).Nodup := by
  obtain ⟨hback, hnodup, -⟩ := fakeAddress_iff configureVpn_twoServers
    (show tunnelSubnet _ = some ⟨testNet1, 24⟩ from rfl) (getAddress testNet1 1)
  have hkept : keptServers true twoServers = twoServers := rfl
  have hbound : ∀ (i : ℕ) (server : InetAddress), twoServers[i]? = some server → i < 2 :=
    fun i server hserver => (List.getElem?_eq_some_iff.mp hserver).1
  rw [hkept] at hback hnodup
  refine ⟨hback.mpr ?_, hnodup.mpr ?_⟩
  · intro server hserver
    obtain rfl := Option.some.inj hserver
    refine ⟨rfl, fun i other hother hi _ => ?_⟩
    have hlt := hbound i _ hother
    have hbyte : lastByte (getAddress testNet1 1) - 2 = 0 := rfl
    obtain rfl : i = 0 := by omega
    exact (Option.some.inj hother).symm
  · intro i j _ _ hij hi hj hnumber
    have := hbound i _ hi
    have := hbound j _ hj
    omega

/-- `2001:db8::2` is in the subnet of the tunnel, is no alias, and is mapped to the first server. -/
theorem not_fakeAddress :
    ¬ ∀ (accepts : BuilderCall → Bool) (isIpv6Enabled : Bool)
      (dnsServers mapped : List InetAddress) (calls : List BuilderCall),
      configureVpn accepts isIpv6Enabled dnsServers = some (mapped, calls) →
      ∀ a, MapsBack mapped calls a := by
  intro h
  have hback := h _ _ _ _ _ configureVpn_twoServers
    (getAddress ipv6AddressPrefixReservedForDocumentation.address 1)
  obtain ⟨i, halias, -⟩ := (hback ⟨[10, 0, 0, 53], Or.inl rfl⟩).mp rfl
  have hmem := List.mem_of_getElem? halias
  exact absurd hmem (by decide)

/-! ### A server is registered -/

/-- What `configureVpn` owes a network that has DNS servers: some fake address, and one for each
server it maps; these are all servers, or all of IPv4, in order. -/
structure RegistersServers (dnsServers mapped : List InetAddress) (calls : List BuilderCall) :
    Prop where
  registered : dnsAliases calls ≠ []
  aliased : (dnsAliases calls).length = mapped.length
  families : mapped = dnsServers ∨ mapped = dnsServers.filter fun server => !server.isInet6

/-- The network has an IPv4 server, or IPv6 is enabled, or there is one server only. -/
def ServesSome (isIpv6Enabled : Bool) (dnsServers : List InetAddress) : Prop :=
  (∃ server ∈ dnsServers, server.isInet6 = false) ∨ isIpv6Enabled = true ∨ dnsServers.length = 1

theorem tunnelSubnet_isSome {accepts : BuilderCall → Bool} {isIpv6Enabled : Bool}
    {dnsServers : List InetAddress} {configured : List InetAddress × List BuilderCall}
    (h : configureVpn accepts isIpv6Enabled dnsServers = some configured) :
    ∃ ipv4, tunnelSubnet accepts = some ipv4 := by
  simp only [configureVpn, Option.bind_eq_bind, Option.bind_eq_some_iff] at h
  obtain ⟨⟨ipv4, c⟩, haddIpv4, -⟩ := h
  exact ⟨ipv4, (addIpv4Address_eq_some haddIpv4).1⟩

/-- The decision for IPv6 is taken once for all servers. -/
theorem keptServers_eq (isIpv6Enabled : Bool) (dnsServers : List InetAddress) :
    keptServers isIpv6Enabled dnsServers =
      if hasIpV6DnsServers isIpv6Enabled dnsServers then dnsServers
      else dnsServers.filter fun server => !server.isInet6 := by
  rw [keptServers]
  split
  next hhas => simp [hhas]
  next hhas => simp [hhas]

theorem keptServers_ne_nil_iff {isIpv6Enabled : Bool} {dnsServers : List InetAddress}
    (hne : dnsServers ≠ []) :
    keptServers isIpv6Enabled dnsServers ≠ [] ↔ ServesSome isIpv6Enabled dnsServers := by
  rw [keptServers_eq, ServesSome]
  have hfilter : (dnsServers.filter fun server => !server.isInet6) ≠ [] ↔
      ∃ server ∈ dnsServers, server.isInet6 = false := by
    simp [List.filter_eq_nil_iff]
  split
  next hhas =>
    have hserves : isIpv6Enabled = true ∨ dnsServers.length = 1 := by
      simp only [hasIpV6DnsServers, Bool.and_eq_true, Bool.or_eq_true, beq_iff_eq] at hhas
      exact hhas.1
    exact iff_of_true hne (.inr hserves)
  next hhas =>
    rw [hfilter]
    refine ⟨.inl, fun h => h.elim id fun hserves => ?_⟩
    -- IPv6 would be served, so no server has it
    have hany : dnsServers.any InetAddress.isInet6 = false := by
      rw [Bool.eq_false_iff]
      intro hany
      refine hhas ?_
      simp only [hasIpV6DnsServers, Bool.and_eq_true, Bool.or_eq_true, beq_iff_eq]
      exact ⟨hserves, hany⟩
    obtain ⟨server, hserver⟩ := List.exists_mem_of_ne_nil dnsServers hne
    exact ⟨server, hserver, by simpa using List.any_eq_false.mp hany server hserver⟩

theorem mapDnsServers_isSome {accepts : BuilderCall → Bool} (haccepts : ∀ c, accepts c = true)
    (ipv4Subnet : Subnet) (ipv6Subnet : Option Subnet) (mapped dnsServers : List InetAddress) :
    (mapDnsServers accepts ipv4Subnet ipv6Subnet mapped dnsServers).isSome = true := by
  have hcall : ∀ c, call accepts c = some c := fun c => if_pos (haccepts c)
  induction dnsServers generalizing mapped with
  | nil => rfl
  | cons dnsServer dnsServers ih =>
    rw [mapDnsServers]
    split
    next => exact ih mapped
    next subnet _ =>
      obtain ⟨rest, hrest⟩ := Option.isSome_iff_exists.mp (ih (mapped ++ [dnsServer]))
      simp only [hcall, hrest]
      split <;> rfl

/-- `configureVpn` does not throw when the platform refuses nothing. -/
theorem configureVpn_isSome {accepts : BuilderCall → Bool} (haccepts : ∀ c, accepts c = true)
    (isIpv6Enabled : Bool) (dnsServers : List InetAddress) :
    (configureVpn accepts isIpv6Enabled dnsServers).isSome = true := by
  have hcall : ∀ c, call accepts c = some c := fun c => if_pos (haccepts c)
  have hmap := mapDnsServers_isSome haccepts
  rw [configureVpn, testNetAddressBlocks, addIpv4Address, hcall, addIpv6Address]
  simp only [hcall]
  split
  next => simp [Option.isSome_bind, hmap]
  next => simp [Option.isSome_bind, hmap]

/-- **When a DNS server is registered.** For a network that has DNS servers, `configureVpn` returns
when the platform refuses nothing, and then a fake address is registered exactly if there is an IPv4
server, or IPv6 is enabled, or there is one server only. -/
theorem registersServers_iff {dnsServers : List InetAddress} (hne : dnsServers ≠ [])
    (accepts : BuilderCall → Bool) (isIpv6Enabled : Bool) :
    ((∀ c, accepts c = true) → (configureVpn accepts isIpv6Enabled dnsServers).isSome = true) ∧
      ∀ mapped calls, configureVpn accepts isIpv6Enabled dnsServers = some (mapped, calls) →
        (RegistersServers dnsServers mapped calls ↔ ServesSome isIpv6Enabled dnsServers) := by
  refine ⟨fun haccepts => configureVpn_isSome haccepts isIpv6Enabled dnsServers,
    fun mapped calls h => ?_⟩
  obtain ⟨ipv4, hipv4⟩ := tunnelSubnet_isSome h
  obtain ⟨rfl, haliases, -⟩ := configureVpn_eq_some h hipv4
  have hnil : dnsAliases calls ≠ [] ↔ keptServers isIpv6Enabled dnsServers ≠ [] := by
    rw [haliases, ne_eq, List.mapIdx_eq_nil_iff]
  rw [← keptServers_ne_nil_iff hne]
  refine ⟨fun hregisters => hnil.mp hregisters.registered, fun hkept => ⟨hnil.mpr hkept, ?_, ?_⟩⟩
  · rw [haliases, List.length_mapIdx]
  · rw [keptServers_eq]
    split
    next => exact .inl rfl
    next => exact .inr rfl

theorem registersServers_iff_twoServers : RegistersServers twoServers twoServers twoServersCalls :=
  ((registersServers_iff (by decide) _ _).2 twoServers twoServersCalls configureVpn_twoServers).mpr
    (.inr (.inl rfl))

/-- Two IPv6 servers, `fd00::53` and `fd00::54`. -/
def twoIpv6Servers : List InetAddress :=
  [⟨[0xfd, 0, 0, 0, 0, 0, 0, 0, 0, 0, 0, 0, 0, 0, 0, 0x53], Or.inr rfl⟩,
    ⟨[0xfd, 0, 0, 0, 0, 0, 0, 0, 0, 0, 0, 0, 0, 0, 0, 0x54], Or.inr rfl⟩]

/-- They are dropped while IPv6 is disabled, and no address is registered. -/
theorem not_registersServers :
    ¬ ∀ (accepts : BuilderCall → Bool) (isIpv6Enabled : Bool)
      (dnsServers mapped : List InetAddress) (calls : List BuilderCall), dnsServers ≠ [] →
      configureVpn accepts isIpv6Enabled dnsServers = some (mapped, calls) →
      RegistersServers dnsServers mapped calls := by
  intro h
  have hregisters := h (fun _ => true) false twoIpv6Servers [] _ (by decide) rfl
  exact hregisters.registered rfl

end AdAway
