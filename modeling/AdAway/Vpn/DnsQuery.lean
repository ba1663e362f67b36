import AdAway.Vpn.DnsPacketProxy

/-!
# Relaying the response to a query

A forwarded query keeps its socket until the response arrives. `DnsQuery.handleResponse` receives
the datagram into a buffer of 1024 bytes and hands the buffer, not the part of it that was written,
to the callback, which is `DnsPacketProxy.handleDnsResponse` with the request packet.

The packet for the device therefore carries 1024 bytes whatever the length of the response: a
shorter response is followed by zeros, a longer one is cut.

## Main definitions

* `receive` — `DatagramSocket.receive` into a buffer
* `handleResponse` — `DnsQuery.handleResponse`
* `Pcap4j.Lawful` — a built packet carries what its builder holds
* `Relays` — the packet for the device answers the request with a payload

## Main results

* `relays_receive` — the packet carries the buffer back to the sender of the request
* `relays_iff` — when the response is relayed unchanged
-/

namespace AdAway

/-! ### Receiving -/

/-- The size of the buffer of `DnsQuery.handleResponse`. -/
abbrev responseSize : ℕ := 1024

/-- The buffer after `DatagramSocket.receive` of a datagram: what does not fit is lost, what is not
written stays. -/
def receive (buffer payload : List UInt8) : List UInt8 :=
  payload.take buffer.length ++ buffer.drop payload.length

@[simp] theorem length_receive (buffer payload : List UInt8) :
    (receive buffer payload).length = buffer.length := by
  rw [receive, List.length_append, List.length_take, List.length_drop]
  omega

/-- The buffer holds the datagram and nothing else exactly when it has its length. -/
theorem receive_eq_iff (buffer payload : List UInt8) :
    receive buffer payload = payload ↔ payload.length = buffer.length := by
  constructor
  · intro h
    rw [← h, length_receive]
  · intro h
    rw [receive, ← h, List.take_length, h, List.drop_length, List.append_nil]

variable {IpPacket UdpPacket Message Name : Type} (pcap : Pcap4j IpPacket UdpPacket)
  (dns : DnsJava Message Name) (getByName : Option String → Option InetAddress)

/-- `DnsQuery.handleResponse` of the query for `requestPacket`; no datagram when `receive` throws.
-/
def handleResponse (requestPacket : IpPacket) (datagram : Option (List UInt8)) :
    List (EventLoopCall IpPacket) :=
  match datagram with
  | none => []
  | some payload =>
    let responseData := List.replicate responseSize 0
    handleDnsResponse pcap requestPacket (receive responseData payload)

/-! ### Building -/

/-- The UDP packet goes between these ends with this payload. -/
structure UdpPacketIs (udpPacket : UdpPacket) (srcPort dstPort : UInt16) (rawData : List UInt8) :
    Prop where
  srcPort_eq : pcap.srcPort udpPacket = srcPort
  dstPort_eq : pcap.dstPort udpPacket = dstPort
  payload_eq : pcap.payload udpPacket = some rawData

/-- A packet built from a UDP packet of the same IP version, with checksums and lengths corrected,
carries the addresses, the ports and the raw data of its builder, if they fit a datagram. -/
structure Pcap4j.Lawful : Prop where
  build_ipV4 : ∀ (packet : IpPacket) (src dst : InetAddress) (udp : UdpBuilder UdpPacket),
    pcap.isIpV4 packet = true → (pcap.udpPacket packet).isSome = true →
    udp.correctChecksumAtBuild = true → udp.correctLengthAtBuild = true →
    udp.rawData.length ≤ 65507 →
    pcap.srcAddr (pcap.build (.ipV4 packet src dst true true udp)) = src ∧
      pcap.dstAddr (pcap.build (.ipV4 packet src dst true true udp)) = dst ∧
      ∃ udpPacket, pcap.udpPacket (pcap.build (.ipV4 packet src dst true true udp)) = some udpPacket ∧
        UdpPacketIs pcap udpPacket udp.srcPort udp.dstPort udp.rawData
  build_ipV6 : ∀ (packet : IpPacket) (src dst : InetAddress) (udp : UdpBuilder UdpPacket),
    pcap.isIpV4 packet = false → (pcap.udpPacket packet).isSome = true →
    udp.correctChecksumAtBuild = true → udp.correctLengthAtBuild = true →
    udp.rawData.length ≤ 65507 →
    pcap.srcAddr (pcap.build (.ipV6 packet src dst true udp)) = src ∧
      pcap.dstAddr (pcap.build (.ipV6 packet src dst true udp)) = dst ∧
      ∃ udpPacket, pcap.udpPacket (pcap.build (.ipV6 packet src dst true udp)) = some udpPacket ∧
        UdpPacketIs pcap udpPacket udp.srcPort udp.dstPort udp.rawData

/-! ### Relaying -/

/-- The packet answers the request with the payload: its ends are those of the request, swapped. -/
structure Relays (requestPacket : IpPacket) (payload : List UInt8) (ipOutPacket : IpPacket) :
    Prop where
  srcAddr_eq : pcap.srcAddr ipOutPacket = pcap.dstAddr requestPacket
  dstAddr_eq : pcap.dstAddr ipOutPacket = pcap.srcAddr requestPacket
  udp : ∃ request response, pcap.udpPacket requestPacket = some request ∧
    pcap.udpPacket ipOutPacket = some response ∧
    UdpPacketIs pcap response (pcap.dstPort request) (pcap.srcPort request) payload

variable {pcap}

/-- A response is relayed with the payload it is given. -/
theorem relays_handleDnsResponse (hpcap : pcap.Lawful) {requestPacket : IpPacket}
    {request : UdpPacket} (hudp : pcap.udpPacket requestPacket = some request)
    {responsePayload : List UInt8} (hlength : responsePayload.length ≤ 65507) :
    ∃ ipOutPacket, handleDnsResponse pcap requestPacket responsePayload
        = [.queueDeviceWrite ipOutPacket] ∧
      Relays pcap requestPacket responsePayload ipOutPacket := by
  rw [handleDnsResponse, hudp]
  refine ⟨_, rfl, ?_⟩
  let payLoadBuilder : UdpBuilder UdpPacket :=
    ⟨request, pcap.dstPort request, pcap.srcPort request, pcap.dstAddr requestPacket,
      pcap.srcAddr requestPacket, true, true, responsePayload⟩
  have hsome : (pcap.udpPacket requestPacket).isSome = true := by rw [hudp, Option.isSome_some]
  split
  next hip =>
    obtain ⟨hsrc, hdst, response, hresponse, his⟩ :=
      hpcap.build_ipV4 requestPacket (pcap.dstAddr requestPacket) (pcap.srcAddr requestPacket)
        payLoadBuilder hip hsome rfl rfl hlength
    exact ⟨hsrc, hdst, request, response, hudp, hresponse, his⟩
  next hip =>
    have hip : pcap.isIpV4 requestPacket = false := by simpa using hip
    obtain ⟨hsrc, hdst, response, hresponse, his⟩ :=
      hpcap.build_ipV6 requestPacket (pcap.dstAddr requestPacket) (pcap.srcAddr requestPacket)
        payLoadBuilder hip hsome rfl rfl hlength
    exact ⟨hsrc, hdst, request, response, hudp, hresponse, his⟩

/-- A packet carries one payload. -/
theorem Relays.payload_unique {requestPacket ipOutPacket : IpPacket} {p p' : List UInt8}
    (h : Relays pcap requestPacket p ipOutPacket) (h' : Relays pcap requestPacket p' ipOutPacket) :
    p = p' := by
  obtain ⟨_, response, _, hresponse, his⟩ := h.udp
  obtain ⟨_, response', _, hresponse', his'⟩ := h'.udp
  obtain rfl : response = response' := Option.some.inj (hresponse.symm.trans hresponse')
  exact Option.some.inj (his.payload_eq.symm.trans his'.payload_eq)

/-- **The packet for the device carries the whole buffer.** -/
theorem relays_receive (hpcap : pcap.Lawful) {requestPacket : IpPacket} {request : UdpPacket}
    (hudp : pcap.udpPacket requestPacket = some request) (p : List UInt8) :
    ∃ ipOutPacket, handleResponse pcap requestPacket (some p) = [.queueDeviceWrite ipOutPacket] ∧
      Relays pcap requestPacket (receive (List.replicate responseSize 0) p) ipOutPacket := by
  refine relays_handleDnsResponse hpcap hudp ?_
  rw [length_receive, List.length_replicate]
  decide

/-- **When a response is relayed unchanged.** An allowed query is forwarded with its raw data to the
server and port it was meant for; the datagram that answers it, whatever its length, gives one
packet for the device. This packet carries the receive buffer back to the sender of the query, and
exactly the datagram's payload when the payload has the size of the buffer, not otherwise. -/
theorem relays_iff (hpcap : pcap.Lawful) {t : HostEntries} {proxy : DnsPacketProxy}
    {packetData : List UInt8} {r : DnsRequest IpPacket Message Name}
    (hread : readRequest pcap dns proxy.dnsServers packetData = .query r)
    (hallowed : (getHostEntry t proxy (dns.nameToString r.name true)).1.type = .allowed)
    (p : List UInt8) :
    (handleDnsRequest pcap dns getByName t proxy packetData).1
        = [.forwardPacketCallback ⟨r.dnsRawData, r.dnsAddress, r.packetPort⟩ r.ipPacket] ∧
      ∃ ipOutPacket, handleResponse pcap r.ipPacket (some p) = [.queueDeviceWrite ipOutPacket] ∧
        Relays pcap r.ipPacket (receive (List.replicate responseSize 0) p) ipOutPacket ∧
        (Relays pcap r.ipPacket p ipOutPacket ↔ p.length = responseSize) := by
  obtain ⟨-, -, -, ⟨request, hudp, -, -⟩, -, -⟩ := readRequest_eq_query pcap dns hread
  obtain ⟨ipOutPacket, hcalls, hrelays⟩ := relays_receive hpcap hudp p
  refine ⟨?_, ipOutPacket, hcalls, hrelays, ?_⟩
  · rw [handleDnsRequest_query pcap dns getByName hread, answerQuery, hallowed]
  · have hbuffer : (List.replicate responseSize (0 : UInt8)).length = responseSize :=
      List.length_replicate
    rw [← hbuffer, ← receive_eq_iff]
    constructor
    · intro h
      exact hrelays.payload_unique h
    · intro h
      rw [← h]
      exact hrelays

/-- `ipv4Pcap` builds what it is told. -/
theorem lawful_ipv4Pcap : ipv4Pcap.Lawful := by
  constructor
  · intro packet src dst udp _ hsome _ _ _
    have hprotocol : packet.protocol = 17 := by
      by_contra hne
      simp [ipv4Pcap, hne] at hsome
    exact ⟨rfl, rfl, _, if_pos hprotocol, rfl, rfl, rfl⟩
  · intro packet src dst udp hip
    cases hip

theorem allowed_adsQuery : (getHostEntry ∅ freshProxy
    (questionDns.nameToString adsQuery.name true)).1.type = .allowed := by
  rw [getHostEntry_fst vpnModel_freshProxy]
  rfl

/-- A response of the size of the buffer. -/
theorem relays_iff_responseSize : ∃ ipOutPacket,
    handleResponse ipv4Pcap adsQuery.ipPacket (some (List.replicate responseSize 7))
      = [.queueDeviceWrite ipOutPacket] ∧
    Relays ipv4Pcap adsQuery.ipPacket (List.replicate responseSize 7) ipOutPacket := by
  have hread : readRequest ipv4Pcap questionDns freshProxy.dnsServers adsQueryPacket
      = .query adsQuery := readRequest_adsQueryPacket
  obtain ⟨-, ipOutPacket, hcalls, -, hiff⟩ := relays_iff questionDns (fun _ => none) lawful_ipv4Pcap
    hread allowed_adsQuery (List.replicate responseSize 7)
  exact ⟨ipOutPacket, hcalls, hiff.mpr List.length_replicate⟩

/-- A shorter response is not relayed unchanged: the packet for the device has the size of the
buffer. -/
theorem not_relays_short :
    ¬ ∀ (t : HostEntries) (proxy : DnsPacketProxy) (packetData : List UInt8)
      (r : DnsRequest Ipv4Udp QuestionMessage String) (p : List UInt8),
      readRequest ipv4Pcap questionDns proxy.dnsServers packetData = .query r →
      (getHostEntry t proxy (questionDns.nameToString r.name true)).1.type = .allowed →
      ∃ ipOutPacket, handleResponse ipv4Pcap r.ipPacket (some p) = [.queueDeviceWrite ipOutPacket] ∧
        Relays ipv4Pcap r.ipPacket p ipOutPacket := by
  intro h
  obtain ⟨ipOutPacket, hcalls, hrelays⟩ := h ∅ freshProxy adsQueryPacket adsQuery
    (adsQueryPacket.drop 28) readRequest_adsQueryPacket allowed_adsQuery
  obtain ⟨request, hudp⟩ : ∃ request, ipv4Pcap.udpPacket adsQuery.ipPacket = some request := ⟨_, rfl⟩
  obtain ⟨ipOutPacket', hcalls', hbuffer⟩ := relays_receive lawful_ipv4Pcap hudp (adsQueryPacket.drop 28)
  rw [hcalls] at hcalls'
  cases hcalls'
  have hlength := congrArg List.length (hrelays.payload_unique hbuffer)
  rw [length_receive, List.length_replicate] at hlength
  exact absurd hlength (by decide)

end AdAway
