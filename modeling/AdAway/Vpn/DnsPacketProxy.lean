import AdAway.Db.HostEntrySync
import AdAway.Library.LruCache
import AdAway.Source.SourceLoader
import AdAway.Vpn.DnsServerMapper

/-!
# Answering DNS queries

`DnsPacketProxy` reads the packets of the tunnel. A query for a blocked host is answered with no
record, one for a redirected host with the redirection, any other one is forwarded to the DNS server
behind the fake address.

Three components must agree on the spelling of a name: `SourceLoader` stores it as the line spells
it, `HostEntryDao.getEntry` compares exactly, and the proxy asks for the lower case name without the
root dot. `blocked_query_iff` says what follows.

The packet formats are those of two libraries, which are parameters: `Pcap4j` for IP and UDP,
`DnsJava` for DNS messages. The block cache is any `LruCache`: `sync` does not touch it, so a row it
has kept need not be in the table any more.

## Main definitions

* `Pcap4j`, `DnsJava` — the libraries
* `readRequest` — the packet, read up to the name it asks for
* `BlockCache` — the cache in front of the table
* `handleDnsRequest`, `handleDnsResponse` — the two directions
* `SameDomainName` — a query asks for a host

## Main results

* `allowMatches_toLowerCase` — the rules that allow a name do not see its case
* `blocked_query_iff` — when a query for a blocked host takes the BLOCKED branch
-/

namespace AdAway

/-! ### IP and UDP packets -/

/-- A `UdpPacket.Builder` made from a packet, with an `UnknownPacket` of raw data as payload. -/
structure UdpBuilder (UdpPacket : Type) where
  packet : UdpPacket
  srcPort : UInt16
  dstPort : UInt16
  srcAddr : InetAddress
  dstAddr : InetAddress
  correctChecksumAtBuild : Bool
  correctLengthAtBuild : Bool
  rawData : List UInt8

/-- An `IpV4Packet.Builder` or an `IpV6Packet.Builder` made from a packet. -/
inductive IpBuilder (IpPacket UdpPacket : Type)
  | ipV4 (packet : IpPacket) (srcAddr dstAddr : InetAddress)
      (correctChecksumAtBuild correctLengthAtBuild : Bool) (payloadBuilder : UdpBuilder UdpPacket)
  | ipV6 (packet : IpPacket) (srcAddr dstAddr : InetAddress)
      (correctLengthAtBuild : Bool) (payloadBuilder : UdpBuilder UdpPacket)

/-- The packets of the Pcap4j library. -/
structure Pcap4j (IpPacket UdpPacket : Type) where
  /-- `(IpPacket) IpSelector.newPacket`, unless it throws. -/
  newPacket : List UInt8 → Option IpPacket
  /-- The protocol of the header is `IpNumber.UDP`. -/
  isUdp : IpPacket → Bool
  /-- `instanceof IpV4Packet`. -/
  isIpV4 : IpPacket → Bool
  srcAddr : IpPacket → InetAddress
  dstAddr : IpPacket → InetAddress
  /-- `(UdpPacket) getPayload()`, unless the payload is no `UdpPacket`. -/
  udpPacket : IpPacket → Option UdpPacket
  srcPort : UdpPacket → UInt16
  dstPort : UdpPacket → UInt16
  /-- The raw data of the payload, if there is one. -/
  payload : UdpPacket → Option (List UInt8)
  /-- `build()`. -/
  build : IpBuilder IpPacket UdpPacket → IpPacket

/-! ### DNS messages -/

/-- `Flags`, those the proxy changes. -/
inductive Flag
  | qr
  | aa
  | rd
  deriving DecidableEq, Repr

/-- `Rcode`, the one the proxy sets. -/
inductive Rcode
  | noerror
  deriving DecidableEq, Repr

/-- `Section`, those the proxy adds a record to. -/
inductive MessageSection
  | answer
  | authority
  deriving DecidableEq, Repr

/-- The records the proxy adds, of class `DClass.IN`. -/
inductive DnsRecord (Name : Type)
  | soa (name : String) (ttl : ℕ) (host admin : String) (serial refresh retry expire minimum : ℕ)
  | a (name : Name) (ttl : ℕ) (address : InetAddress)
  | aaaa (name : Name) (ttl : ℕ) (address : InetAddress)

/-- The messages of the dnsjava library. -/
structure DnsJava (Message Name : Type) where
  /-- `new Message`, unless it throws. -/
  newMessage : List UInt8 → Option Message
  /-- The name of `getQuestion()`, if there is a question. -/
  questionName : Message → Option Name
  /-- `Name.toString(omitFinalDot)`. -/
  nameToString : Name → Bool → String
  setFlag : Message → Flag → Message
  unsetFlag : Message → Flag → Message
  setRcode : Message → Rcode → Message
  addRecord : Message → DnsRecord Name → MessageSection → Message
  toWire : Message → List UInt8

/-- `NEGATIVE_CACHE_TTL_SECONDS`. -/
def negativeCacheTtlSeconds : ℕ := 5

/-- `NEGATIVE_CACHE_SOA_RECORD`. -/
def negativeCacheSoaRecord (Name : Type) : DnsRecord Name :=
  .soa "adaway.vpn.invalid." negativeCacheTtlSeconds "adaway.vpn.invalid." "adaway.vpn.invalid."
    0 0 0 0 negativeCacheTtlSeconds

/-! ### The event loop -/

/-- A `DatagramPacket` to send. -/
structure DatagramPacket where
  data : List UInt8
  address : InetAddress
  port : UInt16

/-- The calls of the `EventLoop`. The callback of a forwarded packet is `handleDnsResponse` with the
request packet. -/
inductive EventLoopCall (IpPacket : Type)
  | forwardPacket (packet : DatagramPacket)
  | forwardPacketCallback (packet : DatagramPacket) (requestPacket : IpPacket)
  | queueDeviceWrite (ipOutPacket : IpPacket)

/-- The call sends something upstream. -/
def EventLoopCall.isForward {IpPacket : Type} : EventLoopCall IpPacket → Bool
  | .forwardPacket _ | .forwardPacketCallback _ _ => true
  | .queueDeviceWrite _ => false

/-! ### The proxy -/

/-- The field `blockCache` of `VpnModel`. -/
abbrev BlockCache := LruCache String HostEntry (4 * 1024)

/-- The row that the cache has kept for a host. -/
def BlockCache.find (blockCache : BlockCache) (host : String) : Option HostEntry :=
  LruCache.find blockCache.entries host

/-- What the cache has kept is in the table. -/
def BlockCache.Fresh (t : HostEntries) (blockCache : BlockCache) : Prop :=
  LruCache.Coherent (fun host => getEntry host t) blockCache

/-- The fields of `DnsPacketProxy`. -/
structure DnsPacketProxy where
  /-- The servers of the `DnsServerMapper`. -/
  dnsServers : List InetAddress
  /-- The field `vpnModel`, set by `initialize`. -/
  vpnModel : Option BlockCache

/-- `DnsPacketProxy.initialize`. -/
def DnsPacketProxy.initialized (proxy : DnsPacketProxy) (vpnModel : BlockCache) : DnsPacketProxy :=
  { proxy with vpnModel := some vpnModel }

/-- `toLowerCase`, on the ASCII text that names are written in. -/
def toLowerCase (s : String) : String := String.ofList (s.toList.map Char.toLower)

/-- A query the proxy has read. -/
structure DnsRequest (IpPacket Message Name : Type) where
  ipPacket : IpPacket
  dnsAddress : InetAddress
  packetPort : UInt16
  dnsRawData : List UInt8
  dnsMsg : Message
  name : Name

/-- What the proxy reads from a packet. -/
inductive TunnelPacket (IpPacket Message Name : Type)
  /-- No DNS query. -/
  | discarded
  /-- A UDP packet without payload, as Firefox sends them to the gateway. -/
  | empty (dnsAddress : InetAddress) (packetPort : UInt16)
  /-- A DNS query. -/
  | query (r : DnsRequest IpPacket Message Name)

variable {IpPacket UdpPacket Message Name : Type} (pcap : Pcap4j IpPacket UdpPacket)
  (dns : DnsJava Message Name) (getByName : Option String → Option InetAddress)

/-- The start of `DnsPacketProxy.handleDnsRequest`, up to the name of the question. -/
def readRequest (dnsServers : List InetAddress) (packetData : List UInt8) :
    TunnelPacket IpPacket Message Name :=
  match pcap.newPacket packetData with
  | none => .discarded
  | some ipPacket =>
    if !pcap.isUdp ipPacket then .discarded
    else match pcap.udpPacket ipPacket with
    | none => .discarded
    | some udpPacket =>
      let packetPort := pcap.dstPort udpPacket
      match getDnsServerFromFakeAddress dnsServers (pcap.dstAddr ipPacket) with
      | none => .discarded
      | some dnsAddress =>
        match pcap.payload udpPacket with
        | none => .empty dnsAddress packetPort
        | some dnsRawData =>
          match dns.newMessage dnsRawData with
          | none => .discarded
          | some dnsMsg =>
            match dns.questionName dnsMsg with
            | none => .discarded
            | some name => .query ⟨ipPacket, dnsAddress, packetPort, dnsRawData, dnsMsg, name⟩

/-- `DnsPacketProxy.getHostEntry`, over the table. -/
def getHostEntry (t : HostEntries) (proxy : DnsPacketProxy) (dnsQueryName : String) :
    HostEntry × DnsPacketProxy :=
  let hostname := toLowerCase dnsQueryName
  let allowed : HostEntry := ⟨hostname, .allowed, none⟩
  match proxy.vpnModel with
  | none => (allowed, proxy)
  | some blockCache =>
    let (entry, blockCache) := blockCache.get (fun host => getEntry host t) hostname
    (entry.getD allowed, { proxy with vpnModel := some blockCache })

/-- `DnsPacketProxy.handleDnsResponse`; no call when the request is no UDP packet, which throws. -/
def handleDnsResponse (requestPacket : IpPacket) (responsePayload : List UInt8) :
    List (EventLoopCall IpPacket) :=
  match pcap.udpPacket requestPacket with
  | none => []
  | some udpOutPacket =>
    let payLoadBuilder : UdpBuilder UdpPacket :=
      { packet := udpOutPacket
        srcPort := pcap.dstPort udpOutPacket
        dstPort := pcap.srcPort udpOutPacket
        srcAddr := pcap.dstAddr requestPacket
        dstAddr := pcap.srcAddr requestPacket
        correctChecksumAtBuild := true
        correctLengthAtBuild := true
        rawData := responsePayload }
    let ipOutPacket :=
      if pcap.isIpV4 requestPacket then
        pcap.build (.ipV4 requestPacket (pcap.dstAddr requestPacket) (pcap.srcAddr requestPacket)
          true true payLoadBuilder)
      else
        pcap.build (.ipV6 requestPacket (pcap.dstAddr requestPacket) (pcap.srcAddr requestPacket)
          true payLoadBuilder)
    [.queueDeviceWrite ipOutPacket]

/-- The answer to a query of a blocked host. -/
def blockedMessage (dnsMsg : Message) : Message :=
  let dnsMsg := dns.setFlag dnsMsg .qr
  let dnsMsg := dns.setRcode dnsMsg .noerror
  dns.addRecord dnsMsg (negativeCacheSoaRecord Name) .authority

/-- The answer to a query of a redirected host. Without an address it has no record. -/
def redirectedMessage (name : Name) (redirection : Option String) (dnsMsg : Message) : Message :=
  let dnsMsg := dns.setFlag dnsMsg .qr
  let dnsMsg := dns.setFlag dnsMsg .aa
  let dnsMsg := dns.unsetFlag dnsMsg .rd
  let dnsMsg := dns.setRcode dnsMsg .noerror
  match getByName redirection with
  | none => dnsMsg
  | some address =>
    let record :=
      if address.isInet6 then .aaaa name negativeCacheTtlSeconds address
      else .a name negativeCacheTtlSeconds address
    dns.addRecord dnsMsg record .answer

/-- The `switch` of `DnsPacketProxy.handleDnsRequest`. -/
def answerQuery (r : DnsRequest IpPacket Message Name) (entry : HostEntry) :
    List (EventLoopCall IpPacket) :=
  match entry.type with
  | .blocked => handleDnsResponse pcap r.ipPacket (dns.toWire (blockedMessage dns r.dnsMsg))
  | .allowed => [.forwardPacketCallback ⟨r.dnsRawData, r.dnsAddress, r.packetPort⟩ r.ipPacket]
  | .redirected =>
    handleDnsResponse pcap r.ipPacket
      (dns.toWire (redirectedMessage dns getByName r.name entry.redirection r.dnsMsg))

/-- `DnsPacketProxy.handleDnsRequest`, over the table. -/
def handleDnsRequest (t : HostEntries) (proxy : DnsPacketProxy) (packetData : List UInt8) :
    List (EventLoopCall IpPacket) × DnsPacketProxy :=
  match readRequest pcap dns proxy.dnsServers packetData with
  | .discarded => ([], proxy)
  | .empty dnsAddress packetPort => ([.forwardPacket ⟨[], dnsAddress, packetPort⟩], proxy)
  | .query r =>
    let (entry, proxy) := getHostEntry t proxy (dns.nameToString r.name true)
    (answerQuery pcap dns getByName r entry, proxy)

/-! ### What the proxy has read -/

/-- What a query was read from. -/
theorem readRequest_eq_query {dnsServers : List InetAddress} {packetData : List UInt8}
    {r : DnsRequest IpPacket Message Name}
    (h : readRequest pcap dns dnsServers packetData = .query r) :
    pcap.newPacket packetData = some r.ipPacket ∧ pcap.isUdp r.ipPacket = true ∧
      getDnsServerFromFakeAddress dnsServers (pcap.dstAddr r.ipPacket) = some r.dnsAddress ∧
      (∃ udpPacket, pcap.udpPacket r.ipPacket = some udpPacket ∧
        pcap.dstPort udpPacket = r.packetPort ∧ pcap.payload udpPacket = some r.dnsRawData) ∧
      dns.newMessage r.dnsRawData = some r.dnsMsg ∧ dns.questionName r.dnsMsg = some r.name := by
  rw [readRequest] at h
  split at h
  next => cases h
  next ipPacket hip =>
    split at h
    next => cases h
    next hudp =>
      split at h
      next => cases h
      next udpPacket hpacket =>
        dsimp only at h
        split at h
        next => cases h
        next dnsAddress haddress =>
          split at h
          next => cases h
          next dnsRawData hraw =>
            split at h
            next => cases h
            next dnsMsg hmsg =>
              split at h
              next => cases h
              next name hname =>
                cases h
                exact ⟨hip, by simpa using hudp, haddress, ⟨udpPacket, hpacket, rfl, hraw⟩, hmsg,
                  hname⟩

/-- The calls of a query. -/
theorem handleDnsRequest_query {t : HostEntries} {proxy : DnsPacketProxy}
    {packetData : List UInt8} {r : DnsRequest IpPacket Message Name}
    (h : readRequest pcap dns proxy.dnsServers packetData = .query r) :
    (handleDnsRequest pcap dns getByName t proxy packetData).1
      = answerQuery pcap dns getByName r
          (getHostEntry t proxy (dns.nameToString r.name true)).1 := by
  rw [handleDnsRequest, h]

section HostEntry

variable {t : HostEntries} {proxy : DnsPacketProxy} {blockCache : BlockCache}

/-- Once initialized, the proxy finds the row kept in the cache, or else that of the table, or makes
an allowed one. -/
theorem getHostEntry_fst (h : proxy.vpnModel = some blockCache) (dnsQueryName : String) :
    (getHostEntry t proxy dnsQueryName).1 = ((blockCache.find (toLowerCase dnsQueryName)).or
      (getEntry (toLowerCase dnsQueryName) t)).getD ⟨toLowerCase dnsQueryName, .allowed, none⟩ := by
  rw [getHostEntry, h]
  dsimp only
  rw [LruCache.get_fst]
  rfl

/-- With a fresh cache it finds the row of the table. -/
theorem getHostEntry_fst_of_fresh (h : proxy.vpnModel = some blockCache)
    (hfresh : blockCache.Fresh t) (dnsQueryName : String) :
    (getHostEntry t proxy dnsQueryName).1 = (getEntry (toLowerCase dnsQueryName) t).getD
      ⟨toLowerCase dnsQueryName, .allowed, none⟩ := by
  rw [getHostEntry, h]
  dsimp only
  rw [hfresh.get_fst]

/-- A fresh cache stays fresh. -/
theorem fresh_getHostEntry (h : proxy.vpnModel = some blockCache) (hfresh : blockCache.Fresh t)
    (dnsQueryName : String) :
    ∃ blockCache', (getHostEntry t proxy dnsQueryName).2.vpnModel = some blockCache' ∧
      blockCache'.Fresh t := by
  rw [getHostEntry, h]
  exact ⟨_, rfl, hfresh.get _⟩

end HostEntry

/-- A response goes to the device only. -/
theorem not_isForward_of_handleDnsResponse {requestPacket : IpPacket} {responsePayload : List UInt8}
    {call : EventLoopCall IpPacket}
    (h : call ∈ handleDnsResponse pcap requestPacket responsePayload) : call.isForward = false := by
  rw [handleDnsResponse] at h
  split at h
  next => cases h
  next =>
    obtain rfl := List.mem_singleton.mp h
    rfl

/-! ### One spelling of a name -/

/-- The characters without a final dot. -/
def dropFinalDot (cs : List Char) : List Char := if cs.getLast? = some '.' then cs.dropLast else cs

/-- The spelling of a name that the proxy asks for: lower case, no root dot. -/
def canonicalName (host : String) : String := toLowerCase (String.ofList (dropFinalDot host.toList))

/-- The name of a question, rendered without the root dot, is the host up to the case of its letters
and its own final dot. -/
def SameDomainName (dnsQueryName host : String) : Prop :=
  toLowerCase dnsQueryName = canonicalName host

instance (dnsQueryName host : String) : Decidable (SameDomainName dnsQueryName host) :=
  inferInstanceAs (Decidable (toLowerCase dnsQueryName = canonicalName host))

/-- Allowing does not see the case of a name: it is blocking and redirecting that depend on how a
line spells it. -/
theorem allowMatches_toLowerCase (items : List HostListItem) (host : String) :
    AllowMatches items (toLowerCase host) ↔ AllowMatches items host := by
  simp only [AllowMatches, toLowerCase, like_map_toLower]

/-- The query takes the BLOCKED branch, and nothing is sent upstream. -/
def TakesBlocked (t : HostEntries) (proxy : DnsPacketProxy) (packetData : List UInt8)
    (r : DnsRequest IpPacket Message Name) : Prop :=
  (getHostEntry t proxy (dns.nameToString r.name true)).1.type = .blocked ∧
    ∀ call ∈ (handleDnsRequest pcap dns getByName t proxy packetData).1, call.isForward = false

/-- The BLOCKED branch is taken exactly when the row found for the name asked for is blocked: the one
kept in the cache, or else the one of the table. -/
theorem takesBlocked_iff {t : HostEntries} {proxy : DnsPacketProxy} {blockCache : BlockCache}
    (hvpn : proxy.vpnModel = some blockCache) {packetData : List UInt8}
    {r : DnsRequest IpPacket Message Name}
    (hread : readRequest pcap dns proxy.dnsServers packetData = .query r) {host : String}
    (hname : toLowerCase (dns.nameToString r.name true) = host) :
    TakesBlocked pcap dns getByName t proxy packetData r ↔
      (∃ e, blockCache.find host = some e ∧ e.type = .blocked) ∨
        blockCache.find host = none ∧ ∃ e ∈ t.rows, e.host = host ∧ e.type = .blocked := by
  rw [TakesBlocked, handleDnsRequest_query pcap dns getByName hread, getHostEntry_fst hvpn, hname]
  have hsent : ∀ e : HostEntry, e.type = .blocked →
      ∀ call ∈ answerQuery pcap dns getByName r e, call.isForward = false := by
    intro e htype call hcall
    rw [answerQuery, htype] at hcall
    exact not_isForward_of_handleDnsResponse pcap hcall
  cases hkept : blockCache.find host with
  | some e =>
    rw [Option.some_or, Option.getD_some]
    constructor
    · rintro ⟨htype, -⟩
      exact Or.inl ⟨e, rfl, htype⟩
    · rintro (⟨e', heq, htype⟩ | ⟨hnone, -⟩)
      · obtain rfl := Option.some.inj heq
        exact ⟨htype, hsent e htype⟩
      · cases hnone
  | none =>
    rw [Option.none_or]
    constructor
    · rintro ⟨htype, -⟩
      cases hentry : getEntry host t with
      | none =>
        rw [hentry] at htype
        cases htype
      | some e =>
        rw [hentry] at htype
        obtain ⟨hmem, hhost⟩ := KeyedTable.find?_eq_some_iff.mp hentry
        exact Or.inr ⟨rfl, e, hmem, hhost, htype⟩
    · rintro (⟨e, heq, -⟩ | ⟨-, e, hmem, hhost, htype⟩)
      · cases heq
      · have hentry : getEntry host t = some e := KeyedTable.find?_eq_some_iff.mpr ⟨hmem, hhost⟩
        rw [hentry, Option.getD_some]
        exact ⟨htype, hsent e htype⟩

/-- **When a query for a blocked host is blocked.** For a host that a line blocks, that `sync` has
seen and that no rule allows or redirects, a query for it takes the BLOCKED branch exactly when the
row that the cache has kept for the canonical spelling is blocked, or it has kept none and the same
holds of that spelling: a blocked item is spelled so, and no rule allows or redirects it. A host that
is spelled canonically is always blocked, unless the cache has kept another row for it. -/
theorem blocked_query_iff {g : Guava} {source : HostsSource} {line : String}
    {item stored : HostListItem} {items : List HostListItem} {q : SyncAnswers items}
    {old t : HostEntries} (hparse : parseLine g source line = some item)
    (htype : item.type = .blocked) (hstored : stored ∈ items) (hitem : stored.unnumbered = item)
    (hsync : sync items q old = some t) (hallow : ¬ AllowMatches items item.host)
    (hredirect : ¬ Listed items .redirected item.host) {proxy : DnsPacketProxy}
    {blockCache : BlockCache} (hvpn : proxy.vpnModel = some blockCache) {packetData : List UInt8}
    {r : DnsRequest IpPacket Message Name}
    (hread : readRequest pcap dns proxy.dnsServers packetData = .query r)
    (hname : SameDomainName (dns.nameToString r.name true) item.host) :
    (TakesBlocked pcap dns getByName t proxy packetData r ↔
      (∃ e, blockCache.find (canonicalName item.host) = some e ∧ e.type = .blocked) ∨
        blockCache.find (canonicalName item.host) = none ∧
          Listed items .blocked (canonicalName item.host) ∧
          ¬ Listed items .redirected (canonicalName item.host) ∧
          ¬ AllowMatches items (canonicalName item.host)) ∧
    (canonicalName item.host = item.host →
      (∀ e, blockCache.find item.host = some e → e.type = .blocked) →
      TakesBlocked pcap dns getByName t proxy packetData r) := by
  have hiff : TakesBlocked pcap dns getByName t proxy packetData r ↔
      (∃ e, blockCache.find (canonicalName item.host) = some e ∧ e.type = .blocked) ∨
        blockCache.find (canonicalName item.host) = none ∧
          Listed items .blocked (canonicalName item.host) ∧
          ¬ Listed items .redirected (canonicalName item.host) ∧
          ¬ AllowMatches items (canonicalName item.host) := by
    rw [takesBlocked_iff pcap dns getByName hvpn hread hname,
      (isRebuilt_of_sync hsync).blocked_iff (canonicalName item.host)]
  refine ⟨hiff, fun hcanonical hkept => hiff.mpr ?_⟩
  rw [hcanonical]
  cases hfind : blockCache.find item.host with
  | some e => exact Or.inl ⟨e, rfl, hkept e hfind⟩
  | none =>
    have henabled := (stored_of_parseLine hparse).1
    rw [← hitem] at htype henabled
    exact Or.inr ⟨rfl, ⟨stored, hstored, htype, henabled, by rw [← hitem]; rfl⟩, hredirect, hallow⟩

/-! ### A query for one host -/

/-- An IPv4 packet that carries a UDP packet. -/
structure Ipv4Udp where
  src : InetAddress
  dst : InetAddress
  protocol : UInt8
  srcPort : UInt16
  dstPort : UInt16
  data : Option (List UInt8)

/-- The number in two bytes. -/
def word (bytes : List UInt8) (i : ℕ) : UInt16 :=
  (bytes.getD i 0).toUInt16 * 256 + (bytes.getD (i + 1) 0).toUInt16

/-- The two bytes of a number. -/
def wordBytes (n : UInt16) : List UInt8 := [(n / 256).toUInt8, n.toUInt8]

/-- The library on IPv4 packets without header options. -/
def ipv4Pcap : Pcap4j Ipv4Udp Ipv4Udp where
  newPacket bytes :=
    if h : 28 ≤ bytes.length ∧ bytes.getD 0 0 = 0x45 then
      some
        { src := ⟨(bytes.drop 12).take 4, Or.inl (by rw [List.length_take, List.length_drop]; omega)⟩
          dst := ⟨(bytes.drop 16).take 4, Or.inl (by rw [List.length_take, List.length_drop]; omega)⟩
          protocol := bytes.getD 9 0
          srcPort := word bytes 20
          dstPort := word bytes 22
          data := if bytes.length = 28 then none else some (bytes.drop 28) }
    else none
  isUdp packet := packet.protocol = 17
  isIpV4 _ := true
  srcAddr := Ipv4Udp.src
  dstAddr := Ipv4Udp.dst
  udpPacket packet := if packet.protocol = 17 then some packet else none
  srcPort := Ipv4Udp.srcPort
  dstPort := Ipv4Udp.dstPort
  payload := Ipv4Udp.data
  build
    | .ipV4 packet src dst _ _ udp | .ipV6 packet src dst _ udp =>
      ⟨src, dst, packet.protocol, udp.srcPort, udp.dstPort, some udp.rawData⟩

/-- A DNS message with one question. -/
structure QuestionMessage where
  id : UInt16
  flags : UInt16
  question : List UInt8
  answer : List (DnsRecord String)
  authority : List (DnsRecord String)

/-- The labels of a name in wire format, each with a dot after it. -/
def readName : ℕ → List UInt8 → List Char
  | 0, _ | _, [] => []
  | fuel + 1, length :: bytes =>
    if length = 0 then []
    else (bytes.take length.toNat).map (fun b => Char.ofNat b.toNat) ++
      '.' :: readName fuel (bytes.drop length.toNat)

/-- The wire format of a name that ends in a dot. -/
def writeName (name : String) : List UInt8 :=
  (name.toList.splitOn '.').flatMap fun label =>
    UInt8.ofNat label.length :: label.map fun c => UInt8.ofNat c.toNat

/-- The bit of a flag. -/
def flagBit : Flag → UInt16
  | .qr => 0x8000
  | .aa => 0x0400
  | .rd => 0x0100

/-- The wire format of a record after a question that ends at `offset`; the two further names of the
first SOA record point back to its own. -/
def writeRecord (offset : ℕ) : DnsRecord String → List UInt8
  | .soa name ttl _ _ serial refresh retry expire minimum =>
    let pointer := wordBytes (0xC000 + UInt16.ofNat offset)
    let number (n : ℕ) := wordBytes (UInt16.ofNat (n / 65536)) ++ wordBytes (UInt16.ofNat n)
    writeName name ++ wordBytes 6 ++ wordBytes 1 ++ number ttl ++ wordBytes 24 ++ pointer ++ pointer ++
      number serial ++ number refresh ++ number retry ++ number expire ++ number minimum
  | .a _ ttl address | .aaaa _ ttl address =>
    wordBytes 0xC00C ++ wordBytes (if address.isInet6 then 28 else 1) ++ wordBytes 1 ++ wordBytes 0 ++
      wordBytes (UInt16.ofNat ttl) ++ wordBytes (UInt16.ofNat address.bytes.length) ++ address.bytes

/-- The library on messages with one question and no record. -/
def questionDns : DnsJava QuestionMessage String where
  newMessage bytes :=
    if 17 ≤ bytes.length ∧ word bytes 4 = 1 ∧ word bytes 6 = 0 ∧ word bytes 8 = 0 ∧ word bytes 10 = 0 then
      some ⟨word bytes 0, word bytes 2, bytes.drop 12, [], []⟩
    else none
  questionName m := some (String.ofList (readName 128 m.question))
  nameToString name omitFinalDot := if omitFinalDot then String.ofList name.toList.dropLast else name
  setFlag m flag := { m with flags := m.flags ||| flagBit flag }
  unsetFlag m flag := { m with flags := m.flags &&& ~~~ flagBit flag }
  setRcode m _ := { m with flags := m.flags &&& 0xFFF0 }
  addRecord m record
    | .answer => { m with answer := m.answer ++ [record] }
    | .authority => { m with authority := m.authority ++ [record] }
  toWire m :=
    wordBytes m.id ++ wordBytes m.flags ++ wordBytes 1 ++ wordBytes (UInt16.ofNat m.answer.length) ++
      wordBytes (UInt16.ofNat m.authority.length) ++ wordBytes 0 ++ m.question ++
      (m.answer ++ m.authority).flatMap (writeRecord (12 + m.question.length))

/-- The DNS server `9.9.9.9`. -/
def quadNine : InetAddress := ⟨[9, 9, 9, 9], Or.inl rfl⟩

/-- A query for the address of `ads.example`, sent to the first fake DNS address. -/
def adsQueryPacket : List UInt8 :=
  [69, 0, 0, 57, 0, 0, 64, 0, 64, 17, 182, 176, 192, 0, 2, 1, 192, 0, 2, 2, 156, 64, 0, 53, 0, 37,
    8, 133, 18, 52, 1, 0, 0, 1, 0, 0, 0, 0, 0, 0, 3, 97, 100, 115, 7, 101, 120, 97, 109, 112, 108,
    101, 0, 0, 1, 0, 1]

/-- The query as the proxy reads it. -/
def adsQuery : DnsRequest Ipv4Udp QuestionMessage String where
  ipPacket :=
    { src := ⟨[192, 0, 2, 1], Or.inl rfl⟩
      dst := ⟨[192, 0, 2, 2], Or.inl rfl⟩
      protocol := 17
      srcPort := 40000
      dstPort := 53
      data := some (adsQueryPacket.drop 28) }
  dnsAddress := quadNine
  packetPort := 53
  dnsRawData := adsQueryPacket.drop 28
  dnsMsg := ⟨0x1234, 0x0100, adsQueryPacket.drop 40, [], []⟩
  name := "ads.example."

theorem readRequest_adsQueryPacket :
    readRequest ipv4Pcap questionDns [quadNine] adsQueryPacket = .query adsQuery := rfl

/-- One blocked host, loaded from a source. -/
def blockedHost (host : String) : List HostListItem := [⟨1, host, .blocked, true, none, 2⟩]

/-- The only answers over it. -/
def blockedHostAnswers (host : String) : SyncAnswers (blockedHost host) where
  allowed := []
  allowed_perm := .of_eq rfl
  redirected := []
  redirected_perm := .of_eq rfl
  redirected_sorted := .nil

theorem not_allowMatches_blockedHost (host host' : String) :
    ¬ AllowMatches (blockedHost host) host' := by
  rintro ⟨i, hi, htype, -⟩
  obtain rfl := List.mem_singleton.mp hi
  cases htype

theorem not_redirected_blockedHost (host host' : String) :
    ¬ Listed (blockedHost host) .redirected host' := by
  rintro ⟨i, hi, htype, -⟩
  obtain rfl := List.mem_singleton.mp hi
  cases htype

/-- A cache nobody has used yet. -/
def emptyCache : BlockCache := ⟨[], List.nodup_nil, Nat.zero_le _⟩

theorem fresh_emptyCache (t : HostEntries) : emptyCache.Fresh t :=
  LruCache.coherent_evictAll _ emptyCache

/-- A proxy for one server whose cache is still empty. -/
def freshProxy : DnsPacketProxy := (DnsPacketProxy.mk [quadNine] none).initialized emptyCache

theorem vpnModel_freshProxy : freshProxy.vpnModel = some emptyCache := rfl

/-- A host spelled canonically is blocked. -/
theorem blocked_query_iff_lower_case : ∃ t : HostEntries,
    sync (blockedHost "ads.example") (blockedHostAnswers "ads.example") ∅ = some t ∧
    TakesBlocked ipv4Pcap questionDns (fun _ => none) t freshProxy adsQueryPacket adsQuery := by
  obtain ⟨t, ht⟩ : ∃ t : HostEntries,
      sync (blockedHost "ads.example") (blockedHostAnswers "ads.example") ∅ = some t := ⟨_, rfl⟩
  have hparse : parseLine lenientGuava hostsFileSource "0.0.0.0 ads.example"
      = some ⟨0, "ads.example", .blocked, true, none, 2⟩ := by decide
  have hblocked := blocked_query_iff ipv4Pcap questionDns (fun _ => none) hparse rfl
    (List.mem_singleton_self _) rfl ht (not_allowMatches_blockedHost _ _)
    (not_redirected_blockedHost _ _) vpnModel_freshProxy readRequest_adsQueryPacket (by decide)
  exact ⟨t, ht, hblocked.2 (by decide) nofun⟩

/-- A host stored with a capital letter is not found: its queries are forwarded. -/
theorem not_takesBlocked_capital :
    ¬ ∀ (g : Guava) (source : HostsSource) (line : String) (item stored : HostListItem)
      (items : List HostListItem) (q : SyncAnswers items) (old t : HostEntries)
      (proxy : DnsPacketProxy) (blockCache : BlockCache) (packetData : List UInt8)
      (r : DnsRequest Ipv4Udp QuestionMessage String),
      parseLine g source line = some item → item.type = .blocked → stored ∈ items →
      stored.unnumbered = item → sync items q old = some t → ¬ AllowMatches items item.host →
      ¬ Listed items .redirected item.host → proxy.vpnModel = some blockCache →
      readRequest ipv4Pcap questionDns proxy.dnsServers packetData = .query r →
      SameDomainName (questionDns.nameToString r.name true) item.host →
      TakesBlocked ipv4Pcap questionDns (fun _ => none) t proxy packetData r := by
  intro h
  obtain ⟨t, ht⟩ : ∃ t : HostEntries,
      sync (blockedHost "Ads.Example") (blockedHostAnswers "Ads.Example") ∅ = some t := ⟨_, rfl⟩
  have hparse : parseLine lenientGuava hostsFileSource "0.0.0.0 Ads.Example"
      = some ⟨0, "Ads.Example", .blocked, true, none, 2⟩ := by decide
  have hblocked := h lenientGuava hostsFileSource _ _ _ _ _ ∅ t freshProxy _ adsQueryPacket
    adsQuery hparse rfl (List.mem_singleton_self _) rfl ht (not_allowMatches_blockedHost _ _)
    (not_redirected_blockedHost _ _) rfl readRequest_adsQueryPacket (by decide)
  have hrow := (takesBlocked_iff ipv4Pcap questionDns (fun _ => none) vpnModel_freshProxy
    readRequest_adsQueryPacket rfl).mp hblocked
  rcases hrow with ⟨e, he, -⟩ | ⟨-, e, he, hhost, -⟩
  · cases he
  · cases ht
    obtain rfl := List.mem_singleton.mp he
    exact absurd hhost (by decide)

end AdAway
