import AdAway.Vpn.DnsAliases
import AdAway.Vpn.TunnelAnswers
import AdAway.Vpn.WorkCalls

/-!
# Where queries are sent

`DnsServerMapper.configureVpn` maps the DNS servers of a network of the device: the active one, or
else the first one that has servers. The tunnel is a network too, and while it is up the platform
reports it as the active one, with the fake addresses as its DNS servers. A tunnel that took these
would send its queries to itself.

It never does: `getNetworkDnsServers` passes over each network with the transport of a tunnel. So no
datagram is sent to an address of a tunnel, over any number of tunnels and changes of the networks.

## What is left open

The networks that are reported. Those that are no tunnel have no DNS server in the blocks of
addresses that are reserved for documentation, from which the tunnel takes its own. The networks do
not change while `getNetworkDnsServers` looks at them.

## Main definitions

* `ConnectivityManager`, `getNetworkDnsServers` — the servers taken
* `IsTunnelAddress` — the addresses that a tunnel may capture

## Main results

* `getNetworkDnsServers_eq` — whose servers are taken
* `sent_outside_tunnel` — no datagram goes back into a tunnel
-/

namespace AdAway

/-! ### The networks -/

/-- The constants `NetworkCapabilities.TRANSPORT_*`. -/
inductive Transport
  | cellular
  | wifi
  | vpn
  | other (type : ℕ)
  deriving DecidableEq, Repr

/-- A `Network`, with what the `ConnectivityManager` answers for it. -/
structure Network where
  /-- The transports of `getNetworkCapabilities`, which may answer `null`. -/
  capabilities : Option (List Transport)
  /-- The DNS servers of `getLinkProperties`, which may answer `null`. -/
  linkProperties : Option (List InetAddress)

/-- `ConnectivityManager`. -/
structure ConnectivityManager where
  activeNetwork : Option Network
  allNetworks : List Network

/-- `DnsServerMapper.getNetworkDnsServers`, of a network. -/
def Network.dnsServers (network : Network) : List InetAddress := network.linkProperties.getD []

/-- `DnsServerMapper.isNotVpnNetwork`. -/
def isNotVpnNetwork (network : Network) : Bool :=
  network.capabilities.any fun capabilities => !decide (.vpn ∈ capabilities)

/-- The loops over the networks: the DNS servers of the first one that applies and has any. -/
def firstDnsServers (applies : Network → Bool) : List Network → List InetAddress
  | [] => []
  | network :: networks =>
    if applies network ∧ network.dnsServers ≠ [] then network.dnsServers
    else firstDnsServers applies networks

/-- `DnsServerMapper.getAnyNonVpnNetworkDns`. -/
def getAnyNonVpnNetworkDns (connectivityManager : ConnectivityManager) : List InetAddress :=
  firstDnsServers isNotVpnNetwork connectivityManager.allNetworks

/-- The transport of the active network; the source has `-1` for another one. -/
def activeNetworkTransport (capabilities : List Transport) : Option Transport :=
  if .cellular ∈ capabilities then some .cellular
  else if .wifi ∈ capabilities then some .wifi
  else none

/-- The network has the transport and is no tunnel. No network has the transport `-1`. -/
def matchesTransport (transport : Option Transport) (network : Network) : Bool :=
  network.capabilities.any fun capabilities =>
    transport.any (fun transport => transport ∈ capabilities) && !decide (.vpn ∈ capabilities)

/-- `DnsServerMapper.getDnsFromNonVpnNetworkWithMatchingTransportType`. -/
def getDnsFromNonVpnNetworkWithMatchingTransportType (connectivityManager : ConnectivityManager)
    (activeNetwork : Network) : List InetAddress :=
  match activeNetwork.capabilities with
  | none => []
  | some capabilities =>
    firstDnsServers (matchesTransport (activeNetworkTransport capabilities))
      connectivityManager.allNetworks

/-- `DnsServerMapper.getNetworkDnsServers`. -/
def getNetworkDnsServers (connectivityManager : ConnectivityManager) : List InetAddress :=
  match connectivityManager.activeNetwork with
  | none => getAnyNonVpnNetworkDns connectivityManager
  | some activeNetwork =>
    if isNotVpnNetwork activeNetwork then activeNetwork.dnsServers
    else getDnsFromNonVpnNetworkWithMatchingTransportType connectivityManager activeNetwork

/-! ### Whose servers are taken -/

/-- The networks of the device. -/
def ConnectivityManager.networks (connectivityManager : ConnectivityManager) : List Network :=
  connectivityManager.activeNetwork.toList ++ connectivityManager.allNetworks

theorem firstDnsServers_eq {applies : Network → Bool} {networks : List Network}
    (h : firstDnsServers applies networks ≠ []) :
    ∃ network ∈ networks, applies network = true ∧
      firstDnsServers applies networks = network.dnsServers := by
  induction networks with
  | nil => exact absurd rfl h
  | cons network networks ih =>
    rw [firstDnsServers] at h ⊢
    split
    next happlies => exact ⟨network, List.mem_cons_self, happlies.1, rfl⟩
    next hnot =>
      rw [if_neg hnot] at h
      obtain ⟨network', hmem, happlies, heq⟩ := ih h
      exact ⟨network', List.mem_cons_of_mem _ hmem, happlies, heq⟩

theorem isNotVpnNetwork_of_matchesTransport {transport : Option Transport} {network : Network}
    (h : matchesTransport transport network = true) : isNotVpnNetwork network = true := by
  rw [isNotVpnNetwork]
  rw [matchesTransport] at h
  cases hcapabilities : network.capabilities with
  | none => simp [hcapabilities] at h
  | some capabilities =>
    rw [hcapabilities, Option.any_some, Bool.and_eq_true] at h
    exact h.2

/-- The servers taken are all those of one network that is no tunnel. -/
theorem getNetworkDnsServers_eq {connectivityManager : ConnectivityManager}
    (h : getNetworkDnsServers connectivityManager ≠ []) :
    ∃ network ∈ connectivityManager.networks, isNotVpnNetwork network = true ∧
      getNetworkDnsServers connectivityManager = network.dnsServers := by
  rw [ConnectivityManager.networks]
  rw [getNetworkDnsServers] at h ⊢
  split
  next hactive =>
    simp only [hactive] at h
    obtain ⟨network, hmem, hnotVpn, heq⟩ := firstDnsServers_eq h
    exact ⟨network, List.mem_append_right _ hmem, hnotVpn, heq⟩
  next activeNetwork hactive =>
    simp only [hactive] at h
    split
    next hnotVpn => exact ⟨activeNetwork, by simp [hactive], hnotVpn, rfl⟩
    next hvpn =>
      rw [if_neg hvpn, getDnsFromNonVpnNetworkWithMatchingTransportType] at h
      rw [getDnsFromNonVpnNetworkWithMatchingTransportType]
      split
      next hnone => simp [hnone] at h
      next capabilities hcapabilities =>
        simp only [hcapabilities] at h
        obtain ⟨network, hmem, hmatches, heq⟩ := firstDnsServers_eq h
        exact ⟨network, List.mem_append_right _ hmem, isNotVpnNetwork_of_matchesTransport hmatches, heq⟩

/-! ### The addresses of a tunnel -/

/-- The subnets that a tunnel takes its addresses from. -/
def tunnelSubnets : List InetAddress :=
  testNetAddressBlocks.map Subnet.address ++ [ipv6AddressPrefixReservedForDocumentation.address]

/-- The address lies in such a subnet: a tunnel may capture what is sent to it. -/
def IsTunnelAddress (a : InetAddress) : Prop :=
  ∃ subnet ∈ tunnelSubnets, subnet.bytes.dropLast = a.bytes.dropLast

instance (a : InetAddress) : Decidable (IsTunnelAddress a) :=
  inferInstanceAs (Decidable (∃ subnet ∈ tunnelSubnets, subnet.bytes.dropLast = a.bytes.dropLast))

theorem isTunnelAddress_getAddress {subnet : InetAddress} (h : subnet ∈ tunnelSubnets) (index : ℕ) :
    IsTunnelAddress (getAddress subnet index) :=
  ⟨subnet, h, by rw [bytes_getAddress, List.dropLast_concat]⟩

/-- What `configureVpn` registers are addresses of the tunnel. -/
theorem isTunnelAddress_of_configureVpn {accepts : BuilderCall → Bool} {isIpv6Enabled : Bool}
    {dnsServers mapped : List InetAddress} {calls : List BuilderCall}
    (h : configureVpn accepts isIpv6Enabled dnsServers = some (mapped, calls)) {a : InetAddress}
    (ha : a ∈ dnsAliases calls ++ tunnelAddresses calls) : IsTunnelAddress a := by
  obtain ⟨ipv4, hipv4⟩ := tunnelSubnet_isSome h
  obtain ⟨-, haliases, haddresses⟩ := configureVpn_eq_some h hipv4
  have hsubnet4 : ipv4.address ∈ tunnelSubnets :=
    List.mem_append_left _ (List.mem_map_of_mem (List.mem_of_find?_eq_some hipv4))
  have hsubnet6 : ipv6AddressPrefixReservedForDocumentation.address ∈ tunnelSubnets :=
    List.mem_append_right _ (List.mem_singleton_self _)
  rcases List.mem_append.mp ha with ha | ha
  · rw [haliases] at ha
    obtain ⟨i, hi, rfl⟩ := List.mem_mapIdx.mp ha
    refine isTunnelAddress_getAddress ?_ _
    rw [subnetOf]
    split
    · exact hsubnet6
    · exact hsubnet4
  · rw [haddresses] at ha
    rcases List.mem_cons.mp ha with rfl | ha
    · exact isTunnelAddress_getAddress hsubnet4 0
    · split at ha
      · obtain rfl := List.mem_singleton.mp ha
        exact ⟨_, hsubnet6, rfl⟩
      · exact absurd ha List.not_mem_nil

/-- Only a tunnel has DNS servers at addresses of a tunnel. -/
def Reports (connectivityManager : ConnectivityManager) : Prop :=
  ∀ network ∈ connectivityManager.networks, isNotVpnNetwork network = true →
    ∀ server ∈ network.dnsServers, ¬ IsTunnelAddress server

/-- The servers come from the networks that are reported when the tunnel is established. -/
def Configured (dnsServers : List InetAddress) : Prop :=
  ∃ connectivityManager accepts isIpv6Enabled calls, Reports connectivityManager ∧
    configureVpn accepts isIpv6Enabled (getNetworkDnsServers connectivityManager)
      = some (dnsServers, calls)

/-- No server of the mapper is at an address of a tunnel. -/
def OutsideTunnel (dnsServers : List InetAddress) : Prop :=
  ∀ server ∈ dnsServers, ¬ IsTunnelAddress server

theorem Configured.outsideTunnel {dnsServers : List InetAddress} (h : Configured dnsServers) :
    OutsideTunnel dnsServers := by
  obtain ⟨connectivityManager, accepts, isIpv6Enabled, calls, hreports, hconfigure⟩ := h
  obtain ⟨ipv4, hipv4⟩ := tunnelSubnet_isSome hconfigure
  obtain ⟨rfl, -, -⟩ := configureVpn_eq_some hconfigure hipv4
  intro server hserver
  have hmem : server ∈ getNetworkDnsServers connectivityManager := (List.mem_filter.mp hserver).1
  obtain ⟨network, hnetwork, hnotVpn, heq⟩ := getNetworkDnsServers_eq (List.ne_nil_of_mem hmem)
  exact hreports network hnetwork hnotVpn server (heq ▸ hmem)

theorem OutsideTunnel.default {dnsServers : List InetAddress} (h : OutsideTunnel dnsServers) :
    ¬ IsTunnelAddress (getDefaultDnsServerAddress dnsServers) := by
  rw [getDefaultDnsServerAddress, List.getLastD_eq_getLast?]
  cases hlast : dnsServers.getLast? with
  | none => decide
  | some server => exact h server (List.mem_of_getLast? hlast)

/-- What a fake address is mapped to is a server of the mapper. -/
theorem mem_of_getDnsServerFromFakeAddress {dnsServers : List InetAddress} {a server : InetAddress}
    (h : getDnsServerFromFakeAddress dnsServers a = some server) : server ∈ dnsServers := by
  rw [getDnsServerFromFakeAddress_eq] at h
  obtain ⟨-, h⟩ := Option.ite_none_right_eq_some.mp h
  exact List.mem_of_getElem? h

/-! ### In a run -/

section Runs

variable {IpPacket UdpPacket Message Name : Type} {lib : PacketLibraries IpPacket UdpPacket Message Name}

/-- No packet is read but with the servers that the loop has. -/
def ReadsFrom (s t : TunnelLoop IpPacket) : Prop :=
  t.dnsServers = s.dnsServers ∧ ∀ read ∈ t.reads, read ∈ s.reads ∨ read.dnsServers = s.dnsServers

theorem ReadsFrom.of_eq {s t : TunnelLoop IpPacket} (hservers : t.dnsServers = s.dnsServers)
    (hreads : t.reads = s.reads) : ReadsFrom s t :=
  ⟨hservers, fun _ hread => Or.inl (hreads ▸ hread)⟩

theorem ReadsFrom.trans {s t u : TunnelLoop IpPacket} (h : ReadsFrom s t) (h' : ReadsFrom t u) :
    ReadsFrom s u := by
  refine ⟨h'.1.trans h.1, fun read hread => ?_⟩
  rcases h'.2 read hread with hread | heq
  · exact h.2 read hread
  · exact Or.inr (heq.trans h.1)

open TunnelLoop

theorem readsFrom_perform {request : ℕ} {forward : ForwardResult} {s t : TunnelLoop IpPacket}
    {call : EventLoopCall IpPacket} (ht : perform lib request forward s call = some t) :
    ReadsFrom s t := by
  cases call with
  | queueDeviceWrite ipOutPacket =>
    obtain rfl := Option.some.inj ht
    exact .of_eq rfl rfl
  | forwardPacket packet =>
    rw [perform] at ht
    split at ht <;> obtain rfl := Option.some.inj ht <;> exact .of_eq rfl rfl
  | forwardPacketCallback packet requestPacket =>
    obtain ⟨queue, -, rfl⟩ := Option.map_eq_some_iff.mp ht
    dsimp only
    split
    · exact .of_eq rfl rfl
    · exact .of_eq rfl rfl
    all_goals
      split <;> exact .of_eq rfl rfl

theorem readsFrom_read {s t : TunnelLoop IpPacket} {input : DeviceInput}
    (ht : readPacketFromDevice lib s input = some t) : ReadsFrom s t := by
  cases input with
  | packet packetData hostEntry forward =>
    obtain ⟨-, ht⟩ := Option.ite_none_right_eq_some.mp ht
    have hcalls : ∀ (calls : List (EventLoopCall IpPacket)) (s' : TunnelLoop IpPacket),
        calls.foldlM (perform lib s.reads.length forward) s' = some t → ReadsFrom s' t := by
      intro calls
      induction calls with
      | nil =>
        intro s' ht
        obtain rfl := Option.some.inj ht
        exact .of_eq rfl rfl
      | cons call calls ih =>
        intro s' ht
        rw [List.foldlM_cons] at ht
        obtain ⟨s'', hcall, ht⟩ := Option.bind_eq_some_iff.mp ht
        exact (readsFrom_perform hcall).trans (ih s'' ht)
    have happended : ReadsFrom s
        { s with reads := s.reads ++ [⟨packetData, s.dnsServers, hostEntry⟩] } := by
      refine ⟨rfl, fun read hread => ?_⟩
      rcases List.mem_append.mp hread with hread | hread
      · exact Or.inl hread
      · obtain rfl := List.mem_singleton.mp hread
        exact Or.inr rfl
    exact happended.trans (hcalls _ _ ht)
  | ioException | closed | empty =>
    obtain rfl := Option.some.inj ht
    exact .of_eq rfl rfl

theorem readsFrom_doOne {s t : TunnelLoop IpPacket} {poll : PollResult}
    (ht : doOne lib s poll = some t) : ReadsFrom s t := by
  cases poll with
  | errnoException =>
    obtain rfl := Option.some.inj ht
    exact .of_eq rfl rfl
  | timeout watchdogThrows =>
    rw [doOne] at ht
    obtain ⟨polled, -, rfl⟩ := Option.map_eq_some_iff.mp ht
    exact .of_eq rfl rfl
  | events turn =>
    obtain ⟨-, ht⟩ := Option.ite_none_left_eq_some.mp ht
    obtain ⟨handled, hhandled, ht⟩ := Option.bind_eq_some_iff.mp ht
    have hresponses : ReadsFrom s handled := by
      obtain ⟨polled, -, hhandled⟩ := Option.bind_eq_some_iff.mp hhandled
      obtain ⟨queue, -, rfl⟩ := Option.map_eq_some_iff.mp hhandled
      exact .of_eq rfl rfl
    have hwritten : ReadsFrom s
        (if turn.deviceReadyToWrite then writeToDevice turn.writeFails handled else handled) := by
      split
      · exact hresponses.trans (.of_eq rfl rfl)
      · exact hresponses
    split at ht
    · exact Option.some.inj ht ▸ hresponses
    · dsimp only at ht
      generalize (if turn.deviceReadyToWrite then writeToDevice turn.writeFails handled else handled)
        = written at hwritten ht
      split at ht
      · exact Option.some.inj ht ▸ hwritten
      · split at ht
        · exact hwritten.trans (readsFrom_read ht)
        · exact Option.some.inj ht ▸ hwritten

/-- The servers that packets were read with, and those that the next ones will be read with. -/
structure ReadOutside (s : TunnelLoop IpPacket) : Prop where
  dnsServers : OutsideTunnel s.dnsServers
  reads : ∀ read ∈ s.reads, OutsideTunnel read.dnsServers

theorem ReadOutside.of_readsFrom {s t : TunnelLoop IpPacket} (hs : ReadOutside s)
    (h : ReadsFrom s t) : ReadOutside t where
  dnsServers := h.1 ▸ hs.dnsServers
  reads := by
    intro read hread
    rcases h.2 read hread with hread | heq
    · exact hs.reads read hread
    · exact heq ▸ hs.dnsServers

/-- A tunnel is established for servers that are outside of it. -/
def ConfiguredStep : TunnelAction → Prop
  | .runVpn dnsServers => Configured dnsServers
  | .arrive _ _ | .doOne _ => True

theorem ReadOutside.step {s t : TunnelLoop IpPacket} {a : TunnelAction} (hs : ReadOutside s)
    (ha : ConfiguredStep a) (h : stepTunnel lib s a = some t) : ReadOutside t := by
  cases a with
  | arrive socket datagram =>
    obtain ⟨queue, -, rfl⟩ := Option.map_eq_some_iff.mp h
    exact hs.of_readsFrom (.of_eq rfl rfl)
  | doOne poll =>
    obtain ⟨-, h⟩ := Option.ite_none_right_eq_some.mp h
    exact hs.of_readsFrom (readsFrom_doOne h)
  | runVpn dnsServers =>
    obtain ⟨-, h⟩ := Option.ite_none_left_eq_some.mp h
    obtain rfl := Option.some.inj h
    exact ⟨ha.outsideTunnel, hs.reads⟩

/-- A packet without payload is meant for a server of the mapper. -/
theorem mem_of_readRequest_eq_empty {dnsServers : List InetAddress} {packetData : List UInt8}
    {dnsAddress : InetAddress} {packetPort : UInt16}
    (h : readRequest lib.pcap lib.dns dnsServers packetData = .empty dnsAddress packetPort) :
    dnsAddress ∈ dnsServers := by
  rw [readRequest] at h
  split at h
  next => cases h
  next ipPacket hip =>
    split at h
    next => cases h
    next hudp =>
      split at h
      next => cases h
      next udpPacket hpacket =>
        dsimp only at h
        split at h
        next => cases h
        next dnsAddress' haddress =>
          split at h
          next hpayload =>
            cases h
            exact mem_of_getDnsServerFromFakeAddress haddress
          next =>
            split at h
            next => cases h
            next =>
              split at h
              next => cases h
              next => cases h

/-- What is sent goes to a server of the mapper. -/
theorem Upstream.exists_read {reads : List TunnelRead} {x : ℕ × DatagramPacket}
    (h : Upstream lib reads x) : ∃ read ∈ reads, x.2.address ∈ read.dnsServers := by
  cases h with
  | @empty read dnsAddress packetPort hread hempty hpacket =>
    refine ⟨read, List.mem_of_getElem? hread, ?_⟩
    rw [hpacket]
    exact mem_of_readRequest_eq_empty hempty
  | @allowed read r hread hasks _ hpacket =>
    refine ⟨read, List.mem_of_getElem? hread, ?_⟩
    rw [hpacket]
    exact mem_of_getDnsServerFromFakeAddress (readRequest_eq_query _ _ hasks).2.2.1

/-- **Nothing is sent back into a tunnel**, in a run in which each tunnel is established for the
networks reported at that time. Each datagram of the proxy goes to an address that no tunnel can
capture, and so does the packet of the watchdog; the fake addresses and those of the interface are
ones that it can. -/
theorem sent_outside_tunnel {clock : ℤ} {as : List TunnelAction} {s : TunnelLoop IpPacket}
    (h : ActionSystem.run (stepTunnel lib) (startTunnel clock) as = some s)
    (hconfigured : ∀ dnsServers, TunnelAction.runVpn dnsServers ∈ as → Configured dnsServers) :
    (∀ x ∈ s.sent, ¬ IsTunnelAddress x.2.address) ∧
    ¬ IsTunnelAddress (getDefaultDnsServerAddress s.dnsServers) ∧
    ∀ accepts isIpv6Enabled dnsServers mapped calls,
      configureVpn accepts isIpv6Enabled dnsServers = some (mapped, calls) →
      ∀ a ∈ dnsAliases calls ++ tunnelAddresses calls, IsTunnelAddress a := by
  have hsteps : ∀ a ∈ as, ConfiguredStep a := by
    intro a ha
    cases a with
    | runVpn dnsServers => exact hconfigured dnsServers ha
    | arrive | doOne => trivial
  have hs : ReadOutside s := ActionSystem.invariant_run_of_forall_mem
    (fun _ _ _ hs ha hstep => ReadOutside.step hs ha hstep)
    ⟨fun _ hserver => absurd hserver List.not_mem_nil, fun _ hread => absurd hread List.not_mem_nil⟩
    hsteps h
  refine ⟨fun x hx => ?_, hs.dnsServers.default, fun _ _ _ _ _ hconfigure a ha =>
    isTunnelAddress_of_configureVpn hconfigure ha⟩
  obtain ⟨read, hread, hserver⟩ := ((accounted_run h).upstream x hx).exists_read
  exact hs.reads read hread _ hserver

end Runs

/-- The tunnel is the active network, and its DNS server is a fake address. -/
def reconnectedNetworks : ConnectivityManager where
  activeNetwork := some ⟨some [.wifi, .vpn], some [getAddress testNet1 1]⟩
  allNetworks := [⟨some [.cellular], some []⟩, ⟨some [.wifi, .vpn], some [getAddress testNet1 1]⟩,
    ⟨some [.wifi], some [quadNine]⟩]

example : getNetworkDnsServers reconnectedNetworks = [quadNine] := by decide

theorem sent_outside_tunnel_allowedQuery : ∃ s,
    ActionSystem.run (stepTunnel ipv4Libraries) (startTunnel 0) allowedQuery = some s ∧
    s.sent ≠ [] ∧ ∀ x ∈ s.sent, ¬ IsTunnelAddress x.2.address := by
  obtain ⟨s, hs⟩ : ∃ s,
    ActionSystem.run (stepTunnel ipv4Libraries) (startTunnel 0) allowedQuery = some s := ⟨_, rfl⟩
  have hreports : Reports reconnectedNetworks := by
    rw [Reports]
    decide
  have hconfigured : ∀ dnsServers, TunnelAction.runVpn dnsServers ∈ allowedQuery →
      Configured dnsServers := by
    intro dnsServers hmem
    simp only [allowedQuery, oneQuery, List.cons_append, List.nil_append, List.mem_cons, reduceCtorEq,
      or_false, List.not_mem_nil, TunnelAction.runVpn.injEq] at hmem
    obtain rfl := hmem
    exact ⟨reconnectedNetworks, fun _ => true, true, _, hreports, rfl⟩
  refine ⟨s, hs, ?_, (sent_outside_tunnel hs hconfigured).1⟩
  obtain rfl := Option.some.inj hs
  exact List.cons_ne_nil _ _

end AdAway
