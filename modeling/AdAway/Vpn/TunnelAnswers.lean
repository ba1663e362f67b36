import AdAway.Vpn.TunnelRuns

/-!
# What the tunnel is answered

Each packet that is queued for the device answers one query that was read, and no query is answered
by two packets. A blocked or redirected name is answered at once and is never sent upstream; an
allowed one is sent upstream once, and is answered with the first datagram that arrives on its socket,
if one does before the query is dropped. A failed write loses one packet and reorders none.

All of it holds across tunnels: the account is kept by the fields that a tunnel leaves behind.

## Main definitions

* `lostOrOpen` — the packets lost, with the tunnel that may still lose one
* `AnswersFrom` — a table answers the queries

## Main results

* `device_answers` — the packets for the device
* `relayed_answer` — a packet that answers an allowed query
* `upstream_of_rebuilt` — what the lists answer for is not asked upstream
-/

namespace AdAway

variable {IpPacket UdpPacket Message Name : Type} {lib : PacketLibraries IpPacket UdpPacket Message Name}

/-! ### What is lost -/

section Lost

open TunnelLoop

theorem left_queueDeviceWrites (request : ℕ) (calls : List (EventLoopCall IpPacket))
    (deviceWrites : Outbox DeviceWrite) :
    (queueDeviceWrites lib request calls deviceWrites).left = deviceWrites.left := by
  induction calls generalizing deviceWrites with
  | nil => rfl
  | cons call calls ih =>
    rw [queueDeviceWrites, List.foldl_cons, ← queueDeviceWrites, ih]
    cases call with
    | forwardPacket packet => rfl
    | forwardPacketCallback packet requestPacket => rfl
    | queueDeviceWrite ipOutPacket =>
      dsimp only
      cases lib.getRawData ipOutPacket <;> rfl

theorem left_acceptAnswers (answers : List (Answer (DnsCallback IpPacket) DnsServer))
    (deviceWrites : Outbox DeviceWrite) :
    (acceptAnswers lib answers deviceWrites).left = deviceWrites.left := by
  induction answers generalizing deviceWrites with
  | nil => rfl
  | cons a answers ih =>
    rw [acceptAnswers, List.foldl_cons, ← acceptAnswers, ih, left_queueDeviceWrites]

/-- Reading a packet writes nothing to the device. -/
theorem left_perform {request : ℕ} {forward : ForwardResult} {s t : TunnelLoop IpPacket}
    {call : EventLoopCall IpPacket} (ht : perform lib request forward s call = some t) :
    t.deviceWrites.left = s.deviceWrites.left := by
  cases call with
  | queueDeviceWrite ipOutPacket =>
    obtain rfl := Option.some.inj ht
    exact left_queueDeviceWrites request _ _
  | forwardPacket packet =>
    rw [perform] at ht
    split at ht <;> obtain rfl := Option.some.inj ht <;> rfl
  | forwardPacketCallback packet requestPacket =>
    obtain ⟨queue, -, rfl⟩ := Option.map_eq_some_iff.mp ht
    dsimp only
    split
    · rfl
    · rfl
    all_goals
      split <;> rfl

theorem left_read {s t : TunnelLoop IpPacket} {input : DeviceInput}
    (ht : readPacketFromDevice lib s input = some t) :
    t.deviceWrites.left = s.deviceWrites.left := by
  cases input with
  | packet packetData hostEntry forward =>
    obtain ⟨-, ht⟩ := Option.ite_none_right_eq_some.mp ht
    have hcalls : ∀ (calls : List (EventLoopCall IpPacket)) (s' : TunnelLoop IpPacket),
        calls.foldlM (perform lib s.reads.length forward) s' = some t →
        t.deviceWrites.left = s'.deviceWrites.left := by
      intro calls
      induction calls with
      | nil =>
        intro s' ht
        obtain rfl := Option.some.inj ht
        rfl
      | cons call calls ih =>
        intro s' ht
        rw [List.foldlM_cons] at ht
        obtain ⟨s'', hcall, ht⟩ := Option.bind_eq_some_iff.mp ht
        rw [ih s'' ht, left_perform hcall]
    have hread := hcalls _ _ ht
    exact hread
  | ioException | closed | empty =>
    obtain rfl := Option.some.inj ht
    rfl

/-- The packets lost, with the tunnel that may still lose one. -/
def lostOrOpen (s : TunnelLoop IpPacket) : ℕ :=
  s.deviceWrites.lost.length + s.deviceOpened.toNat

theorem lostOrOpen_le_of_left {s t : TunnelLoop IpPacket} (hopened : s.deviceOpened = true)
    (h : t.deviceWrites.left = s.deviceWrites.left) : lostOrOpen t ≤ lostOrOpen s := by
  rw [lostOrOpen, lostOrOpen, Outbox.lost, Outbox.lost, h, hopened]
  exact Nat.add_le_add_left (Bool.toNat_le _) _

theorem lostOrOpen_writeToDevice {s : TunnelLoop IpPacket} (hopened : s.deviceOpened = true)
    (writeFails : Option ℕ) : lostOrOpen (writeToDevice writeFails s) = lostOrOpen s := by
  rw [lostOrOpen, lostOrOpen, writeToDevice, hopened]
  dsimp only
  rw [Outbox.length_lost_drain]
  cases s.deviceWrites.fails writeFails <;> rfl

/-- A turn loses a packet only if it ends the tunnel. -/
theorem lostOrOpen_doOne {s t : TunnelLoop IpPacket} (hopened : s.deviceOpened = true)
    {poll : PollResult} (ht : doOne lib s poll = some t) : lostOrOpen t ≤ lostOrOpen s := by
  cases poll with
  | errnoException =>
    obtain rfl := Option.some.inj ht
    exact lostOrOpen_le_of_left hopened rfl
  | timeout watchdogThrows =>
    rw [doOne] at ht
    obtain ⟨polled, -, rfl⟩ := Option.map_eq_some_iff.mp ht
    exact lostOrOpen_le_of_left hopened rfl
  | events turn =>
    obtain ⟨-, ht⟩ := Option.ite_none_left_eq_some.mp ht
    obtain ⟨handled, hhandled, ht⟩ := Option.bind_eq_some_iff.mp ht
    have hresponses : lostOrOpen handled ≤ lostOrOpen s := by
      obtain ⟨polled, -, hhandled⟩ := Option.bind_eq_some_iff.mp hhandled
      obtain ⟨queue, -, rfl⟩ := Option.map_eq_some_iff.mp hhandled
      exact lostOrOpen_le_of_left hopened (left_acceptAnswers _ _)
    split at ht
    next => exact Option.some.inj ht ▸ hresponses
    next hstill =>
    have hstill : handled.deviceOpened = true := by simpa using hstill
    have hwritten : lostOrOpen
        (if turn.deviceReadyToWrite then writeToDevice turn.writeFails handled else handled)
        ≤ lostOrOpen s := by
      split
      · rw [lostOrOpen_writeToDevice hstill]
        exact hresponses
      · exact hresponses
    dsimp only at ht
    generalize (if turn.deviceReadyToWrite then writeToDevice turn.writeFails handled else handled)
      = written at hwritten ht
    split at ht
    next => exact Option.some.inj ht ▸ hwritten
    next hopen =>
    have hopen : written.deviceOpened = true := by simpa using hopen
    split at ht
    · exact (lostOrOpen_le_of_left hopen (left_read ht)).trans hwritten
    · exact Option.some.inj ht ▸ hwritten

/-- The action establishes a tunnel. -/
def TunnelAction.isRunVpn : TunnelAction → Bool
  | .runVpn _ => true
  | .arrive _ _ | .doOne _ => false

theorem lostOrOpen_step {s t : TunnelLoop IpPacket} {a : TunnelAction}
    (hstep : stepTunnel lib s a = some t) : lostOrOpen t ≤ lostOrOpen s + a.isRunVpn.toNat := by
  cases a with
  | arrive socket datagram =>
    obtain ⟨queue, -, rfl⟩ := Option.map_eq_some_iff.mp hstep
    exact le_rfl
  | doOne poll =>
    obtain ⟨hopened, hstep⟩ := Option.ite_none_right_eq_some.mp hstep
    exact lostOrOpen_doOne hopened hstep
  | runVpn dnsServers =>
    obtain ⟨hclosed, hstep⟩ := Option.ite_none_left_eq_some.mp hstep
    obtain rfl := Option.some.inj hstep
    exact Nat.add_le_add_right (Nat.le_add_right _ _) 1

/-- Each tunnel loses one packet at most. -/
theorem lostOrOpen_run {s t : TunnelLoop IpPacket} {as : List TunnelAction}
    (h : ActionSystem.run (stepTunnel lib) s as = some t) :
    lostOrOpen t ≤ lostOrOpen s + as.countP TunnelAction.isRunVpn := by
  induction as generalizing s with
  | nil =>
    obtain rfl := Option.some.inj h
    exact le_rfl
  | cons a as ih =>
    obtain ⟨u, hu, h⟩ := ActionSystem.run_cons_eq_some.mp h
    have hstep := lostOrOpen_step hu
    have hrun := ih h
    have htunnel : (if a.isRunVpn = true then 1 else 0) = a.isRunVpn.toNat := by
      cases a.isRunVpn <;> rfl
    rw [List.countP_cons, htunnel]
    omega

/-- A tunnel that is established loses one packet at most. -/
theorem length_lost_tunnel {s t : TunnelLoop IpPacket} {dnsServers : List InetAddress}
    {during : List TunnelAction} (hduring : ∀ a ∈ during, a.isRunVpn = false)
    (h : ActionSystem.run (stepTunnel lib) s (.runVpn dnsServers :: during) = some t) :
    t.deviceWrites.lost.length ≤ s.deviceWrites.lost.length + 1 := by
  obtain ⟨u, hu, h⟩ := ActionSystem.run_cons_eq_some.mp h
  obtain ⟨-, hu⟩ := Option.ite_none_left_eq_some.mp hu
  obtain rfl := Option.some.inj hu
  have hlost := lostOrOpen_run h
  have hnone : during.countP TunnelAction.isRunVpn = 0 := by
    rw [List.countP_eq_zero]
    exact fun a ha => by simp [hduring a ha]
  rw [hnone] at hlost
  exact (Nat.le_add_right _ _).trans hlost

end Lost

/-! ### One query -/

/-- The sum of the words. -/
def wordSum : List UInt8 → ℕ
  | high :: low :: bytes => high.toNat * 256 + low.toNat + wordSum bytes
  | [high] => high.toNat * 256
  | [] => 0

/-- The complement of the ones' complement sum. -/
def internetChecksum (bytes : List UInt8) : UInt16 :=
  let sum := wordSum bytes
  UInt16.ofNat (if sum = 0 then 65535 else 65534 - (sum - 1) % 65535)

/-- The bytes of a packet that may not be fragmented, with 64 hops to live. -/
def ipv4RawData (packet : Ipv4Udp) : List UInt8 :=
  let data := packet.data.getD []
  let udpLength := wordBytes (UInt16.ofNat (8 + data.length))
  let header (checksum : UInt16) :=
    [0x45, 0] ++ wordBytes (UInt16.ofNat (28 + data.length)) ++ [0, 0, 64, 0, 64, packet.protocol] ++
      wordBytes checksum ++ packet.src.bytes ++ packet.dst.bytes
  let udp (checksum : UInt16) :=
    wordBytes packet.srcPort ++ wordBytes packet.dstPort ++ udpLength ++ wordBytes checksum ++ data
  let pseudoHeader := packet.src.bytes ++ packet.dst.bytes ++ [0, packet.protocol] ++ udpLength
  header (internetChecksum (header 0)) ++ udp (internetChecksum (pseudoHeader ++ udp 0))

/-- The libraries on such packets; no host redirects to an address. -/
def ipv4Libraries : PacketLibraries Ipv4Udp Ipv4Udp QuestionMessage String :=
  ⟨ipv4Pcap, questionDns, fun _ => none, fun packet => some (ipv4RawData packet)⟩

example : ipv4RawData adsQuery.ipPacket = adsQueryPacket := by decide

/-- A turn without anything to read, write or handle. -/
def quietTurn : PolledTurn :=
  ⟨false, false, fun _ => false, fun _ => .handled, none, .empty⟩

/-- A tunnel in which one query is read, with what `getHostEntry` answers. -/
def oneQuery (hostEntry : String → HostEntry) : List TunnelAction :=
  [.runVpn [quadNine],
    .doOne (.events { quietTurn with
      deviceReadyToRead := true
      input := .packet adsQueryPacket hostEntry ⟨.sent 0 0, false⟩ })]

/-- The query is allowed; its answer arrives and is written to the device. -/
def allowedQuery : List TunnelAction :=
  oneQuery (fun dnsQueryName => ⟨dnsQueryName, .allowed, none⟩) ++
    [.arrive 0 ⟨(quadNine, 53), adsQueryPacket.drop 28⟩,
      .doOne (.events { quietTurn with ready := fun _ => true }),
      .doOne (.events { quietTurn with deviceReadyToWrite := true })]

/-! ### The device and the servers -/

/-- **What the device is answered.** In every state of a run, over any number of tunnels: no packet
that was read is answered twice, and what is delivered keeps the order in which it was queued. Each
packet delivered answers the query it belongs to, and each query the proxy can answer itself has its
packet delivered, lost or waiting. From the time it is established to the next one, each tunnel of
the run loses one packet at most. -/
theorem device_answers {clock : ℤ} {as : List TunnelAction} {s : TunnelLoop IpPacket}
    (h : ActionSystem.run (stepTunnel lib) (startTunnel clock) as = some s) :
    ((s.deviceWrites.delivered ++ s.deviceWrites.lost ++ s.deviceWrites.waiting).map
      DeviceWrite.request).Nodup ∧
    s.deviceWrites.delivered.Sublist s.deviceWrites.added ∧
    (∀ w ∈ s.deviceWrites.delivered, TunnelResponse lib s.reads s.dnsQueryQueue.history.answers w) ∧
    AnsweredLocally lib s.reads
      (s.deviceWrites.delivered ++ s.deviceWrites.lost ++ s.deviceWrites.waiting) ∧
    (∀ before dnsServers during t u, before ++ .runVpn dnsServers :: during <+: as →
      (∀ a ∈ during, a.isRunVpn = false) →
      ActionSystem.run (stepTunnel lib) (startTunnel clock) before = some t →
      ActionSystem.run (stepTunnel lib) t (.runVpn dnsServers :: during) = some u →
      u.deviceWrites.lost.length ≤ t.deviceWrites.lost.length + 1) ∧
    s.deviceWrites.lost.length ≤ as.countP TunnelAction.isRunVpn := by
  have hs := accounted_run h
  have hsub := s.deviceWrites.delivered_sublist
  refine ⟨Outbox.nodup_delivered hs.response_nodup, hsub,
    fun w hw => hs.response w (hsub.subset hw), ?_,
    fun _ _ _ _ _ _ hduring _ htunnel => length_lost_tunnel hduring htunnel, ?_⟩
  · intro n read r payload rawData hread hasks hlocal hraw
    exact s.deviceWrites.perm_added.mem_iff.mp
      (hs.answeredLocally n read r payload rawData hread hasks hlocal hraw)
  · have hlost := lostOrOpen_run h
    rw [show lostOrOpen (startTunnel clock : TunnelLoop IpPacket) = 0 from rfl, Nat.zero_add] at hlost
    exact (Nat.le_add_right _ _).trans hlost

theorem device_answers_allowedQuery : ∃ s w,
    ActionSystem.run (stepTunnel ipv4Libraries) (startTunnel 0) allowedQuery = some s ∧
    s.deviceWrites.delivered = [w] ∧
    TunnelResponse ipv4Libraries s.reads s.dnsQueryQueue.history.answers w := by
  obtain ⟨s, hs⟩ : ∃ s, ActionSystem.run (stepTunnel ipv4Libraries) (startTunnel 0) allowedQuery
    = some s := ⟨_, rfl⟩
  obtain ⟨w, hw⟩ : ∃ w, s.deviceWrites.delivered = [w] := by
    obtain rfl := Option.some.inj hs
    exact ⟨_, rfl⟩
  obtain ⟨-, -, hanswers, -⟩ := device_answers hs
  exact ⟨s, w, hs, hw, hanswers w (hw ▸ List.mem_singleton_self w)⟩

/-- **What a server's answer goes through.** A packet for the device that answers an allowed query
carries the first datagram that arrived on the socket of this query, which was sent, once, to the
server the query is meant for. While the query waits, or once it was dropped, there is no such
packet. -/
theorem relayed_answer {clock : ℤ} {as : List TunnelAction} {s : TunnelLoop IpPacket}
    (h : ActionSystem.run (stepTunnel lib) (startTunnel clock) as = some s) {w : DeviceWrite}
    (hw : w ∈ s.deviceWrites.added) {read : TunnelRead} {r : DnsRequest IpPacket Message Name}
    (hread : s.reads[w.request]? = some read) (hasks : read.Asks lib r)
    (hallowed : (read.entry lib r).type = .allowed) :
    ∃ p ∈ s.dnsQueryQueue.history.passed, p.callback.request = w.request ∧
      p.server = (r.dnsAddress, r.packetPort) ∧
      (w.request, ⟨r.dnsRawData, r.dnsAddress, r.packetPort⟩) ∈ s.sent ∧
      (s.sent.map Prod.fst).Nodup ∧
      (p.socket ∉ s.dnsQueryQueue.queries.map fun q => q.socket) ∧
      p ∉ s.dnsQueryQueue.history.dropped ∧
      ∃ datagram, (s.dnsQueryQueue.history.arrivedOn p.socket).head? = some datagram ∧
        rawResponse lib r.ipPacket (receive (List.replicate responseSize 0) datagram.data)
          = some w.rawData := by
  have hs := accounted_run h
  cases hs.response w hw with
  | answered hread' hasks' hlocal =>
    obtain rfl := Option.some.inj (hread.symm.trans hread')
    obtain rfl := TunnelPacket.query.inj (hasks.symm.trans hasks')
    rw [(localAnswer_eq_none_iff lib r _).mpr hallowed] at hlocal
    cases hlocal
  | @relayed read' r' a hread' hasks' hallowed' ha hcallback hraw =>
    obtain rfl := Option.some.inj (hread.symm.trans hread')
    obtain rfl := TunnelPacket.query.inj (hasks.symm.trans hasks')
    obtain ⟨hpassed, -⟩ := hs.custody.answered a ha
    obtain ⟨hfirst, hdata⟩ := hs.custody.answer a ha
    rw [hdata] at hraw
    cases hs.forwarded a.query hpassed with
    | allowed hread'' hasks'' hallowed'' hpacket hserver hsent =>
      rw [hcallback] at hread'' hsent
      obtain rfl := Option.some.inj (hread.symm.trans hread'')
      obtain rfl := TunnelPacket.query.inj (hasks.symm.trans hasks'')
      refine ⟨a.query, hpassed, congrArg DnsCallback.request hcallback, hserver, hsent,
        hs.upstream_nodup, hs.custody.not_pending ha, ?_, a.datagram, hfirst, hraw⟩
      exact fun hdropped => (hs.custody.dropped _ hdropped).2.2 a ha rfl

theorem relayed_answer_allowedQuery : ∃ s w p,
    ActionSystem.run (stepTunnel ipv4Libraries) (startTunnel 0) allowedQuery = some s ∧
    w ∈ s.deviceWrites.added ∧ p ∈ s.dnsQueryQueue.history.passed ∧
    p.server = (quadNine, 53) ∧ p ∉ s.dnsQueryQueue.history.dropped := by
  obtain ⟨s, hs⟩ : ∃ s, ActionSystem.run (stepTunnel ipv4Libraries) (startTunnel 0) allowedQuery
    = some s := ⟨_, rfl⟩
  obtain ⟨w, hw, read, hread, hasks, hallowed⟩ : ∃ w, w ∈ s.deviceWrites.added ∧ ∃ read,
      s.reads[w.request]? = some read ∧ read.Asks ipv4Libraries adsQuery ∧
      (read.entry ipv4Libraries adsQuery).type = .allowed := by
    obtain rfl := Option.some.inj hs
    exact ⟨_, List.mem_singleton_self _, _, rfl, readRequest_adsQueryPacket, rfl⟩
  obtain ⟨p, hp, -, hserver, -, -, -, hdropped, -⟩ := relayed_answer hs hw hread hasks hallowed
  exact ⟨s, w, p, hs, hw, hp, hserver, hdropped⟩

/-! ### The lists and the tunnel -/

/-- `getHostEntry` of an initialized proxy over the table answers, with a cache that is fresh. -/
def AnswersFrom (t : HostEntries) (hostEntry : String → HostEntry) : Prop :=
  ∃ (proxy : DnsPacketProxy) (blockCache : BlockCache), proxy.vpnModel = some blockCache ∧
    blockCache.Fresh t ∧
    ∀ dnsQueryName, hostEntry dnsQueryName = (getHostEntry t proxy dnsQueryName).1

/-- A name is allowed exactly if the lists do not answer for its lower-case spelling. -/
theorem AnswersFrom.type_eq_allowed_iff {items : List HostListItem} {t : HostEntries}
    (ht : IsRebuilt items t) {hostEntry : String → HostEntry} (h : AnswersFrom t hostEntry)
    (dnsQueryName : String) :
    (hostEntry dnsQueryName).type = .allowed ↔ ¬ Overridden items (toLowerCase dnsQueryName) := by
  obtain ⟨proxy, blockCache, hvpn, hfresh, hanswers⟩ := h
  rw [hanswers, getHostEntry_fst_of_fresh hvpn hfresh, ← ht.find?_eq_none_iff, getEntry]
  cases hentry : t.find? (toLowerCase dnsQueryName) with
  | none => exact iff_of_true rfl rfl
  | some e =>
    exact iff_of_false (ht.not_allowed (KeyedTable.find?_eq_some_iff.mp hentry).1)
      (Option.some_ne_none e)

/-- **Nothing is asked upstream that the lists answer.** When the queries of a run are answered from
a rebuilt table, each datagram sent belongs to a packet of its own: it is the empty datagram of a
packet without payload, or the payload of a query whose name the lists do not answer for. A query
whose name they do answer for is sent nowhere, and has its packet for the device. -/
theorem upstream_of_rebuilt {clock : ℤ} {as : List TunnelAction} {s : TunnelLoop IpPacket}
    (h : ActionSystem.run (stepTunnel lib) (startTunnel clock) as = some s)
    {items : List HostListItem} {t : HostEntries} (ht : IsRebuilt items t)
    (hserved : ∀ read ∈ s.reads, AnswersFrom t read.hostEntry) :
    (s.sent.map Prod.fst).Nodup ∧
    (∀ n packet, (n, packet) ∈ s.sent → ∃ read, s.reads[n]? = some read ∧
      (readRequest lib.pcap lib.dns read.dnsServers read.packetData
          = .empty packet.address packet.port ∧ packet.data = [] ∨
        ∃ r, read.Asks lib r ∧ packet = ⟨r.dnsRawData, r.dnsAddress, r.packetPort⟩ ∧
          ¬ Overridden items (toLowerCase (lib.dns.nameToString r.name true)))) ∧
    ∀ n read r, s.reads[n]? = some read → read.Asks lib r →
      Overridden items (toLowerCase (lib.dns.nameToString r.name true)) →
      (∀ packet, (n, packet) ∉ s.sent) ∧
      ∃ payload, localAnswer lib r (read.entry lib r) = some payload ∧
        ∀ rawData, rawResponse lib r.ipPacket payload = some rawData →
          ⟨n, rawData⟩ ∈ s.deviceWrites.added := by
  have hs := accounted_run h
  have hallowed : ∀ {n : ℕ} {read : TunnelRead} (r : DnsRequest IpPacket Message Name),
      s.reads[n]? = some read → ((read.entry lib r).type = .allowed ↔
        ¬ Overridden items (toLowerCase (lib.dns.nameToString r.name true))) :=
    fun r hread => (hserved _ (List.mem_of_getElem? hread)).type_eq_allowed_iff ht _
  refine ⟨hs.upstream_nodup, ?_, ?_⟩
  · intro n packet hsent
    cases hs.upstream _ hsent with
    | @empty read dnsAddress packetPort hread hempty hpacket =>
      obtain rfl : packet = _ := hpacket
      exact ⟨read, hread, Or.inl ⟨hempty, rfl⟩⟩
    | @allowed read r hread hasks htype hpacket =>
      exact ⟨read, hread, Or.inr ⟨r, hasks, hpacket, (hallowed r hread).mp htype⟩⟩
  · intro n read r hread hasks hover
    have htype : (read.entry lib r).type ≠ .allowed := fun htype => (hallowed r hread).mp htype hover
    constructor
    · intro packet hsent
      cases hs.upstream _ hsent with
      | empty hread' hempty =>
        obtain rfl := Option.some.inj (hread.symm.trans hread')
        cases hempty.symm.trans hasks
      | allowed hread' hasks' htype' =>
        obtain rfl := Option.some.inj (hread.symm.trans hread')
        obtain rfl := TunnelPacket.query.inj (hasks.symm.trans hasks')
        exact htype htype'
    · cases hlocal : localAnswer lib r (read.entry lib r) with
      | none => exact absurd ((localAnswer_eq_none_iff lib r _).mp hlocal) htype
      | some payload =>
        exact ⟨payload, rfl, fun rawData hraw =>
          hs.answeredLocally n read r payload rawData hread hasks hlocal hraw⟩

theorem upstream_of_rebuilt_blocked : ∃ t s,
    sync (blockedHost "ads.example") (blockedHostAnswers "ads.example") ∅ = some t ∧
    ActionSystem.run (stepTunnel ipv4Libraries) (startTunnel 0)
      (oneQuery fun dnsQueryName => (getHostEntry t freshProxy dnsQueryName).1) = some s ∧
    (∀ packet, (0, packet) ∉ s.sent) ∧ s.deviceWrites.added ≠ [] := by
  obtain ⟨t, ht⟩ : ∃ t : HostEntries,
      sync (blockedHost "ads.example") (blockedHostAnswers "ads.example") ∅ = some t := ⟨_, rfl⟩
  have hover : Overridden (blockedHost "ads.example")
      (toLowerCase (questionDns.nameToString adsQuery.name true)) :=
    Or.inr ⟨⟨_, List.mem_singleton_self _, rfl, rfl, by decide⟩, not_allowMatches_blockedHost _ _⟩
  obtain ⟨s, hs⟩ : ∃ s, ActionSystem.run (stepTunnel ipv4Libraries) (startTunnel 0)
      (oneQuery fun dnsQueryName => (getHostEntry t freshProxy dnsQueryName).1) = some s := by
    obtain rfl := Option.some.inj ht
    exact ⟨_, rfl⟩
  let read : TunnelRead :=
    ⟨adsQueryPacket, [quadNine], fun dnsQueryName => (getHostEntry t freshProxy dnsQueryName).1⟩
  have hreads : s.reads = [read] := by
    obtain rfl := Option.some.inj ht
    obtain rfl := Option.some.inj hs
    rfl
  have hserved : ∀ read ∈ s.reads, AnswersFrom t read.hostEntry := by
    rw [hreads]
    intro read' hread'
    obtain rfl := List.mem_singleton.mp hread'
    exact ⟨freshProxy, emptyCache, vpnModel_freshProxy, fresh_emptyCache t, fun _ => rfl⟩
  obtain ⟨-, -, hlisted⟩ := upstream_of_rebuilt hs (isRebuilt_of_sync ht) hserved
  obtain ⟨hsent, payload, -, hqueued⟩ :=
    hlisted 0 read adsQuery (by rw [hreads]; rfl) readRequest_adsQueryPacket hover
  exact ⟨t, s, ht, hs, hsent, List.ne_nil_of_mem (hqueued _ rfl)⟩

end AdAway
