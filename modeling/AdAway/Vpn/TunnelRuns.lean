import AdAway.Vpn.TunnelLoop

/-!
# The account of the tunnel

Packets that are read have numbers, and so has all they cause: the datagram sent upstream, the query
that waits for its answer and the packet for the device. The account says what each of these owes to
the packet it carries the number of, and that nothing carries a number twice.

A turn reads one packet at most, so what is new has the next number; only an answer carries an older
one, and a query is answered once.

## Main definitions

* `localAnswer` — the message that answers a query without a server
* `TunnelResponse`, `Upstream`, `Forwarded` — what a packet for the device, a datagram and a query
  are there for
* `Accounted` — the invariant

## Main results

* `TunnelLoop.accounted_read`, `TunnelLoop.accounted_handleResponses` — the parts of a turn
* `accounted_step`, `accounted_run` — a step and a run
-/

namespace AdAway

variable {IpPacket UdpPacket Message Name : Type} (lib : PacketLibraries IpPacket UdpPacket Message Name)

/-! ### What a packet read asks for -/

/-- The packet is this query. -/
def TunnelRead.Asks (read : TunnelRead) (r : DnsRequest IpPacket Message Name) : Prop :=
  readRequest lib.pcap lib.dns read.dnsServers read.packetData = .query r

/-- What `VpnModel` says about the name of the query. -/
def TunnelRead.entry (read : TunnelRead) (r : DnsRequest IpPacket Message Name) : HostEntry :=
  read.hostEntry (lib.dns.nameToString r.name true)

/-- The message that answers a query without a server. -/
def localAnswer (r : DnsRequest IpPacket Message Name) (entry : HostEntry) : Option (List UInt8) :=
  match entry.type with
  | .blocked => some (lib.dns.toWire (blockedMessage lib.dns r.dnsMsg))
  | .redirected =>
    some (lib.dns.toWire (redirectedMessage lib.dns lib.getByName r.name entry.redirection r.dnsMsg))
  | .allowed => none

theorem localAnswer_eq_none_iff (r : DnsRequest IpPacket Message Name) (entry : HostEntry) :
    localAnswer lib r entry = none ↔ entry.type = .allowed := by
  rw [localAnswer]
  cases entry.type <;> simp

theorem answerQuery_eq (r : DnsRequest IpPacket Message Name) (entry : HostEntry) :
    answerQuery lib.pcap lib.dns lib.getByName r entry =
      match localAnswer lib r entry with
      | some payload => handleDnsResponse lib.pcap r.ipPacket payload
      | none => [.forwardPacketCallback ⟨r.dnsRawData, r.dnsAddress, r.packetPort⟩ r.ipPacket] := by
  rw [answerQuery, localAnswer]
  cases entry.type <;> rfl

/-! ### What is there for the device and upstream -/

/-- The packet for the device answers the query it carries the number of: with the message of the
proxy, or with what the callback of the query was given. -/
inductive TunnelResponse (reads : List TunnelRead) (answers : List (Answer (DnsCallback IpPacket) DnsServer))
    (w : DeviceWrite) : Prop
  | answered {read : TunnelRead} {r : DnsRequest IpPacket Message Name} {payload : List UInt8}
      (hread : reads[w.request]? = some read) (hasks : read.Asks lib r)
      (hlocal : localAnswer lib r (read.entry lib r) = some payload)
      (hraw : rawResponse lib r.ipPacket payload = some w.rawData)
  | relayed {read : TunnelRead} {r : DnsRequest IpPacket Message Name}
      {a : Answer (DnsCallback IpPacket) DnsServer}
      (hread : reads[w.request]? = some read) (hasks : read.Asks lib r)
      (hallowed : (read.entry lib r).type = .allowed) (ha : a ∈ answers)
      (hcallback : a.query.callback = ⟨w.request, r.ipPacket⟩)
      (hraw : rawResponse lib r.ipPacket a.responseData = some w.rawData)

/-- The datagram is the payload of an allowed query, or the empty one of a packet without payload,
sent to the server the packet is meant for. -/
inductive Upstream (reads : List TunnelRead) (x : ℕ × DatagramPacket) : Prop
  | empty {read : TunnelRead} {dnsAddress : InetAddress} {packetPort : UInt16}
      (hread : reads[x.1]? = some read)
      (hempty : readRequest lib.pcap lib.dns read.dnsServers read.packetData
        = .empty dnsAddress packetPort)
      (hpacket : x.2 = ⟨[], dnsAddress, packetPort⟩)
  | allowed {read : TunnelRead} {r : DnsRequest IpPacket Message Name}
      (hread : reads[x.1]? = some read) (hasks : read.Asks lib r)
      (hallowed : (read.entry lib r).type = .allowed)
      (hpacket : x.2 = ⟨r.dnsRawData, r.dnsAddress, r.packetPort⟩)

/-- The query was forwarded for an allowed name, to the server the packet is meant for. -/
inductive Forwarded (reads : List TunnelRead) (sent : List (ℕ × DatagramPacket))
    (p : SentQuery (DnsCallback IpPacket) DnsServer) : Prop
  | allowed {read : TunnelRead} {r : DnsRequest IpPacket Message Name}
      (hread : reads[p.callback.request]? = some read) (hasks : read.Asks lib r)
      (hallowed : (read.entry lib r).type = .allowed) (hpacket : p.callback.requestPacket = r.ipPacket)
      (hserver : p.server = (r.dnsAddress, r.packetPort))
      (hsent : (p.callback.request, ⟨r.dnsRawData, r.dnsAddress, r.packetPort⟩) ∈ sent)

/-- Each query that is answered locally has its packet for the device. -/
def AnsweredLocally (reads : List TunnelRead) (added : List DeviceWrite) : Prop :=
  ∀ n read r payload rawData, reads[n]? = some read → read.Asks lib r →
    localAnswer lib r (read.entry lib r) = some payload →
    rawResponse lib r.ipPacket payload = some rawData → ⟨n, rawData⟩ ∈ added

/-- **The invariant.** -/
structure Accounted (s : TunnelLoop IpPacket) : Prop where
  custody : Custody s.dnsQueryQueue.queries s.dnsQueryQueue.history
  forwarded : ∀ p ∈ s.dnsQueryQueue.history.passed, Forwarded lib s.reads s.sent p
  forwarded_nodup : (s.dnsQueryQueue.history.passed.map fun p => p.callback.request).Nodup
  response : ∀ w ∈ s.deviceWrites.added, TunnelResponse lib s.reads s.dnsQueryQueue.history.answers w
  response_nodup : (s.deviceWrites.added.map DeviceWrite.request).Nodup
  upstream : ∀ x ∈ s.sent, Upstream lib s.reads x
  upstream_nodup : (s.sent.map Prod.fst).Nodup
  answeredLocally : AnsweredLocally lib s.reads s.deviceWrites.added

theorem accounted_start (clock : ℤ) : Accounted lib (startTunnel clock) where
  custody := custody_start clock
  forwarded := nofun
  forwarded_nodup := List.nodup_nil
  response := nofun
  response_nodup := List.nodup_nil
  upstream := nofun
  upstream_nodup := List.nodup_nil
  answeredLocally := fun _ _ _ _ _ hread => by cases hread

/-! ### What stays when more is read and answered -/

section Grow

variable {reads : List TunnelRead} {answers : List (Answer (DnsCallback IpPacket) DnsServer)}
  {lib}

theorem getElem?_concat {n : ℕ} {read : TunnelRead} (h : reads[n]? = some read)
    (more : List TunnelRead) : (reads ++ more)[n]? = some read := by
  rw [List.getElem?_append_left (List.getElem?_eq_some_iff.mp h).1, h]

theorem lt_of_getElem? {n : ℕ} {read : TunnelRead} (h : reads[n]? = some read) : n < reads.length :=
  (List.getElem?_eq_some_iff.mp h).1

theorem TunnelResponse.grow {w : DeviceWrite} (h : TunnelResponse lib reads answers w)
    (moreReads : List TunnelRead) (moreAnswers : List (Answer (DnsCallback IpPacket) DnsServer)) :
    TunnelResponse lib (reads ++ moreReads) (answers ++ moreAnswers) w := by
  cases h with
  | answered hread hasks hlocal hraw =>
    exact .answered (getElem?_concat hread moreReads) hasks hlocal hraw
  | relayed hread hasks hallowed ha hcallback hraw =>
    exact .relayed (getElem?_concat hread moreReads) hasks hallowed
      (List.mem_append_left moreAnswers ha) hcallback hraw

theorem TunnelResponse.lt {w : DeviceWrite} (h : TunnelResponse lib reads answers w) :
    w.request < reads.length := by
  cases h with
  | answered hread => exact lt_of_getElem? hread
  | relayed hread => exact lt_of_getElem? hread

theorem Upstream.grow {x : ℕ × DatagramPacket} (h : Upstream lib reads x)
    (moreReads : List TunnelRead) : Upstream lib (reads ++ moreReads) x := by
  cases h with
  | empty hread hempty hpacket => exact .empty (getElem?_concat hread moreReads) hempty hpacket
  | allowed hread hasks hallowed hpacket =>
    exact .allowed (getElem?_concat hread moreReads) hasks hallowed hpacket

theorem Upstream.lt {x : ℕ × DatagramPacket} (h : Upstream lib reads x) : x.1 < reads.length := by
  cases h with
  | empty hread => exact lt_of_getElem? hread
  | allowed hread => exact lt_of_getElem? hread

theorem Forwarded.grow {sent : List (ℕ × DatagramPacket)}
    {p : SentQuery (DnsCallback IpPacket) DnsServer} (h : Forwarded lib reads sent p)
    (moreReads : List TunnelRead) (moreSent : List (ℕ × DatagramPacket)) :
    Forwarded lib (reads ++ moreReads) (sent ++ moreSent) p := by
  cases h with
  | allowed hread hasks hallowed hpacket hserver hsent =>
    exact .allowed (getElem?_concat hread moreReads) hasks hallowed hpacket hserver
      (List.mem_append_left moreSent hsent)

theorem Forwarded.lt {sent : List (ℕ × DatagramPacket)}
    {p : SentQuery (DnsCallback IpPacket) DnsServer} (h : Forwarded lib reads sent p) :
    p.callback.request < reads.length := by
  cases h with
  | allowed hread => exact lt_of_getElem? hread

/-- A list of numbers below a bound takes the bound itself, once. -/
theorem nodup_concat_of_lt {β : Type} {f : β → ℕ} {l : List β} {n : ℕ} (hl : (l.map f).Nodup)
    (hlt : ∀ b ∈ l, f b < n) (new : Option β) (hnew : ∀ b ∈ new, f b = n) :
    ((l ++ new.toList).map f).Nodup := by
  cases new with
  | none => simpa using hl
  | some b =>
    rw [Option.toList_some, List.map_append, List.map_singleton, List.nodup_append]
    refine ⟨hl, List.nodup_singleton _, fun m hm k hk => ?_⟩
    obtain ⟨b', hb', rfl⟩ := List.mem_map.mp hm
    rw [List.mem_singleton.mp hk, hnew b rfl]
    exact (hlt b' hb').ne

end Grow

/-! ### What a turn leaves of the history -/

section Frame

variable {κ α : Type}

/-- Adding a query passes it in, unless the constructor throws, and gives no answer. -/
theorem addQuery_passed (query : SentQuery κ α) (now created : ℤ) (constructorThrows : Bool)
    (queries : List (DnsQuery κ α)) (h : QueryHistory κ α) :
    (addQuery query now created constructorThrows queries h).2.passed
        = h.passed ++ (if constructorThrows then [] else [query]) ∧
      (addQuery query now created constructorThrows queries h).2.answers = h.answers := by
  have hdrop : ∀ (q : DnsQuery κ α) (queries : List (DnsQuery κ α)) (h' : QueryHistory κ α),
      h'.passed = h.passed ∧ h'.answers = h.answers →
      (h'.drop q.toSentQuery).passed = h.passed ∧ (h'.drop q.toSentQuery).answers = h.answers :=
    fun _ _ _ hI => hI
  have hcleared : (clearTimedOutQueries (now.tdiv 1000) h queries).2.passed = h.passed ∧
      (clearTimedOutQueries (now.tdiv 1000) h queries).2.answers = h.answers :=
    clearTimedOutQueries_induction
      (I := fun _ h' => h'.passed = h.passed ∧ h'.answers = h.answers) hdrop _ ⟨rfl, rfl⟩
  obtain ⟨hpassed, hanswers⟩ := ensureFreeSpace_induction
    (I := fun _ h' => h'.passed = h.passed ∧ h'.answers = h.answers) hdrop hcleared
  cases constructorThrows with
  | true => exact ⟨hpassed.trans (List.append_nil _).symm, hanswers⟩
  | false => exact ⟨congrArg (· ++ [query]) hpassed, hanswers⟩

/-- Handling the responses adds answers and passes no query in. -/
theorem handleResponses_answers {outcome : ℕ → ResponseOutcome} {queries : List (DnsQuery κ α)}
    {h : QueryHistory κ α} {r : List (DnsQuery κ α) × QueryHistory κ α}
    (hr : handleResponses outcome queries h = some r) :
    r.2.passed = h.passed ∧ ∃ new, r.2.answers = h.answers ++ new := by
  have hone : ∀ {q : DnsQuery κ α} {h h' : QueryHistory κ α},
      q.handleResponse (outcome q.socket) h = some h' →
      h'.passed = h.passed ∧ ∃ new, h'.answers = h.answers ++ new := by
    intro q h h' hh
    rcases DnsQuery.handleResponse_cases hh with ⟨-, rfl⟩ | ⟨-, datagram, rest, -, rfl⟩
    · exact ⟨rfl, [], (List.append_nil _).symm⟩
    · exact ⟨rfl, _, rfl⟩
  induction queries generalizing h r with
  | nil =>
    obtain rfl := Option.some.inj hr
    exact ⟨rfl, [], (List.append_nil _).symm⟩
  | cons q queries ih =>
    rcases handleResponses_cons_cases hr with ⟨-, h', hh, ⟨-, rfl⟩ | ⟨-, hr⟩⟩ | ⟨-, r', hr', rfl⟩
    · exact hone hh
    · obtain ⟨hpassed, new, hnew⟩ := hone hh
      obtain ⟨hpassed', new', hnew'⟩ := ih hr
      exact ⟨hpassed'.trans hpassed, new ++ new', by rw [hnew', hnew, List.append_assoc]⟩
    · have hkept := ih hr'
      exact hkept

/-- Polling leaves the history as it is. -/
theorem stepQueue_poll {s t : DnsQueryQueue κ α} {ready : ℕ → Bool}
    (h : stepQueue s (.poll ready) = some t) : t.history = s.history := by
  obtain rfl := Option.some.inj h
  rfl

/-- An arrival changes neither the queries passed in nor the answers. -/
theorem stepQueue_arrive {s t : DnsQueryQueue κ α} {socket : ℕ} {datagram : Datagram α}
    (h : stepQueue s (.arrive socket datagram) = some t) :
    t.history.passed = s.history.passed ∧ t.history.answers = s.history.answers := by
  obtain ⟨-, h⟩ := Option.ite_none_right_eq_some.mp h
  obtain rfl := Option.some.inj h
  exact ⟨rfl, rfl⟩

/-- Forwarding a packet gives no answer. -/
theorem stepQueue_forwardPacket_answers {s t : DnsQueryQueue κ α} {server : α} {callback : κ}
    {outcome : ForwardOutcome} (h : stepQueue s (.forwardPacket server callback outcome) = some t) :
    t.history.answers = s.history.answers := by
  cases outcome with
  | noSocket =>
    obtain rfl := Option.some.inj h
    rfl
  | notSent =>
    obtain rfl := Option.some.inj h
    rfl
  | notAdded now created =>
    obtain rfl := Option.some.inj h
    exact (addQuery_passed ⟨s.history.created, callback, server⟩ now created true _ _).2
  | sent now created =>
    obtain rfl := Option.some.inj h
    exact (addQuery_passed ⟨s.history.created, callback, server⟩ now created false _ _).2

/-- A packet that is sent has its query passed in, with a socket of its own. -/
theorem stepQueue_forwardPacket_sent {s t : DnsQueryQueue κ α} {server : α} {callback : κ}
    {now created : ℤ} (h : stepQueue s (.forwardPacket server callback (.sent now created)) = some t) :
    t.history.passed = s.history.passed ++ [⟨s.history.created, callback, server⟩] := by
  obtain rfl := Option.some.inj h
  exact (addQuery_passed ⟨s.history.created, callback, server⟩ now created false _ _).1

/-- A query that cannot be created is not passed in. -/
theorem stepQueue_forwardPacket_notAdded {s t : DnsQueryQueue κ α} {server : α} {callback : κ}
    {now created : ℤ}
    (h : stepQueue s (.forwardPacket server callback (.notAdded now created)) = some t) :
    t.history.passed = s.history.passed := by
  obtain rfl := Option.some.inj h
  have hpassed := (addQuery_passed ⟨s.history.created, callback, server⟩ now created true s.queries
    { s.history with created := s.history.created + 1 }).1
  rwa [if_pos rfl, List.append_nil] at hpassed

end Frame

/-! ### Reading a packet -/

namespace TunnelLoop

variable {lib}

variable (lib) in
/-- What the calls of `handleDnsResponse` queue. -/
theorem added_queueDeviceWrites (request : ℕ) (requestPacket : IpPacket)
    (responsePayload : List UInt8) (deviceWrites : Outbox DeviceWrite) :
    (queueDeviceWrites lib request (handleDnsResponse lib.pcap requestPacket responsePayload)
        deviceWrites).added
      = deviceWrites.added ++
        ((rawResponse lib requestPacket responsePayload).map (DeviceWrite.mk request)).toList := by
  rw [rawResponse, handleDnsResponse]
  cases lib.pcap.udpPacket requestPacket with
  | none => exact (List.append_nil _).symm
  | some udpOutPacket =>
    dsimp only [queueDeviceWrites, List.foldl_cons, List.foldl_nil]
    cases lib.getRawData _ with
    | none => exact (List.append_nil _).symm
    | some rawData => rfl

/-- A response of the proxy is queued. -/
theorem foldlM_perform_handleDnsResponse (request : ℕ) (forward : ForwardResult)
    (s : TunnelLoop IpPacket) (requestPacket : IpPacket) (responsePayload : List UInt8) :
    (handleDnsResponse lib.pcap requestPacket responsePayload).foldlM (perform lib request forward) s
      = some { s with
          deviceWrites := queueDeviceWrites lib request
            (handleDnsResponse lib.pcap requestPacket responsePayload) s.deviceWrites } := by
  rw [handleDnsResponse]
  cases lib.pcap.udpPacket requestPacket with
  | none => rfl
  | some udpOutPacket => rfl

/-- One packet is read: what is new has its number. -/
theorem accounted_append {s t : TunnelLoop IpPacket} (hs : Accounted lib s) {read : TunnelRead}
    (hreads : t.reads = s.reads ++ [read])
    (hcustody : Custody t.dnsQueryQueue.queries t.dnsQueryQueue.history)
    (hanswers : t.dnsQueryQueue.history.answers = s.dnsQueryQueue.history.answers)
    (p : Option (SentQuery (DnsCallback IpPacket) DnsServer))
    (hpassed : t.dnsQueryQueue.history.passed = s.dnsQueryQueue.history.passed ++ p.toList)
    (hp : ∀ p' ∈ p, p'.callback.request = s.reads.length ∧ Forwarded lib t.reads t.sent p')
    (w : Option DeviceWrite) (hadded : t.deviceWrites.added = s.deviceWrites.added ++ w.toList)
    (hw : ∀ w' ∈ w, w'.request = s.reads.length ∧
      TunnelResponse lib t.reads t.dnsQueryQueue.history.answers w')
    (x : Option (ℕ × DatagramPacket)) (hsent : t.sent = s.sent ++ x.toList)
    (hx : ∀ x' ∈ x, x'.1 = s.reads.length ∧ Upstream lib t.reads x')
    (hlocal : ∀ r payload rawData, read.Asks lib r →
      localAnswer lib r (read.entry lib r) = some payload →
      rawResponse lib r.ipPacket payload = some rawData →
      ⟨s.reads.length, rawData⟩ ∈ t.deviceWrites.added) : Accounted lib t where
  custody := hcustody
  forwarded := by
    intro p' hp'
    rw [hpassed, List.mem_append, Option.mem_toList] at hp'
    rcases hp' with hp' | hp'
    · rw [hreads, hsent]
      exact (hs.forwarded p' hp').grow _ _
    · exact (hp p' hp').2
  forwarded_nodup := by
    rw [hpassed]
    exact nodup_concat_of_lt hs.forwarded_nodup (fun p' hp' => (hs.forwarded p' hp').lt) p
      fun p' hp' => (hp p' hp').1
  response := by
    intro w' hw'
    rw [hadded, List.mem_append, Option.mem_toList] at hw'
    rcases hw' with hw' | hw'
    · rw [hreads, hanswers]
      have hgrown := (hs.response w' hw').grow [read] []
      rwa [List.append_nil] at hgrown
    · exact (hw w' hw').2
  response_nodup := by
    rw [hadded]
    exact nodup_concat_of_lt hs.response_nodup (fun w' hw' => (hs.response w' hw').lt) w
      fun w' hw' => (hw w' hw').1
  upstream := by
    intro x' hx'
    rw [hsent, List.mem_append, Option.mem_toList] at hx'
    rcases hx' with hx' | hx'
    · rw [hreads]
      exact (hs.upstream x' hx').grow _
    · exact (hx x' hx').2
  upstream_nodup := by
    rw [hsent]
    exact nodup_concat_of_lt hs.upstream_nodup (fun x' hx' => (hs.upstream x' hx').lt) x
      fun x' hx' => (hx x' hx').1
  answeredLocally := by
    intro n read' r payload rawData hread hasks hanswer hraw
    rw [hreads] at hread
    rcases Nat.lt_or_ge n s.reads.length with hlt | hge
    · rw [List.getElem?_append_left hlt] at hread
      rw [hadded]
      exact List.mem_append_left _
        (hs.answeredLocally n read' r payload rawData hread hasks hanswer hraw)
    · obtain rfl : n = s.reads.length := by
        have hlt := (List.getElem?_eq_some_iff.mp hread).1
        rw [List.length_append, List.length_singleton] at hlt
        omega
      obtain rfl : read = read' := by simpa using hread
      exact hlocal r payload rawData hasks hanswer hraw

theorem accounted_leave {s : TunnelLoop IpPacket} (hs : Accounted lib s) : Accounted lib s.leave :=
  { hs with }

/-- A query of an allowed name is forwarded. -/
theorem accounted_forward {s : TunnelLoop IpPacket} (hs : Accounted lib s) {read : TunnelRead}
    {r : DnsRequest IpPacket Message Name} (hasks : read.Asks lib r)
    (hallowed : (read.entry lib r).type = .allowed) {forward : ForwardResult}
    {t : TunnelLoop IpPacket}
    (ht : perform lib s.reads.length forward { s with reads := s.reads ++ [read] }
      (.forwardPacketCallback ⟨r.dnsRawData, r.dnsAddress, r.packetPort⟩ r.ipPacket) = some t) :
    Accounted lib t := by
  obtain ⟨queue, hqueue, ht⟩ := Option.map_eq_some_iff.mp ht
  have hcustody : Custody queue.queries queue.history := custody_step hs.custody hqueue
  have hanswers := stepQueue_forwardPacket_answers hqueue
  have hread : (s.reads ++ [read])[s.reads.length]? = some read := by simp
  have hlocal : ∀ (added : List DeviceWrite) (r' : DnsRequest IpPacket Message Name) payload rawData,
      read.Asks lib r' → localAnswer lib r' (read.entry lib r') = some payload →
      rawResponse lib r'.ipPacket payload = some rawData → ⟨s.reads.length, rawData⟩ ∈ added := by
    intro added r' payload rawData hasks' hanswer _
    obtain rfl : r = r' := TunnelPacket.query.inj (hasks.symm.trans hasks')
    rw [(localAnswer_eq_none_iff lib r _).mpr hallowed] at hanswer
    cases hanswer
  -- a packet that is not sent leaves no query
  have hnot : queue.history.passed = s.dnsQueryQueue.history.passed →
      Accounted lib { s with reads := s.reads ++ [read], dnsQueryQueue := queue } := by
    intro hpassed
    exact accounted_append hs rfl hcustody hanswers none (by rw [hpassed]; simp) nofun none
      (List.append_nil _).symm nofun none (List.append_nil _).symm nofun (hlocal _)
  obtain ⟨outcome, rethrown⟩ := forward
  cases outcome with
  | noSocket =>
    have hsame := hnot (by rw [← Option.some.inj hqueue])
    obtain rfl := ht
    cases rethrown with
    | true => exact accounted_leave hsame
    | false => exact hsame
  | notSent =>
    have hsame := hnot (by rw [← Option.some.inj hqueue]; rfl)
    obtain rfl := ht
    cases rethrown with
    | true => exact accounted_leave hsame
    | false => exact hsame
  | notAdded now created =>
    obtain rfl := ht
    refine accounted_append hs rfl hcustody hanswers none ?_ nofun
      none (List.append_nil _).symm nofun (some (s.reads.length, _)) rfl ?_ (hlocal _)
    · exact (stepQueue_forwardPacket_notAdded hqueue).trans (List.append_nil _).symm
    · rintro x ⟨rfl⟩
      exact ⟨rfl, .allowed hread hasks hallowed rfl⟩
  | sent now created =>
    obtain rfl := ht
    refine accounted_append hs rfl hcustody hanswers (some _) (stepQueue_forwardPacket_sent hqueue) ?_
      none (List.append_nil _).symm nofun (some (s.reads.length, _)) rfl ?_ (hlocal _)
    · rintro p ⟨rfl⟩
      exact ⟨rfl, .allowed hread hasks hallowed rfl rfl
        (List.mem_append_right _ (List.mem_singleton.mpr rfl))⟩
    · rintro x ⟨rfl⟩
      exact ⟨rfl, .allowed hread hasks hallowed rfl⟩

/-- A query is answered by the proxy. -/
theorem accounted_answer {s : TunnelLoop IpPacket} (hs : Accounted lib s) {read : TunnelRead}
    {r : DnsRequest IpPacket Message Name} (hasks : read.Asks lib r) {payload : List UInt8}
    (hanswer : localAnswer lib r (read.entry lib r) = some payload) :
    Accounted lib { s with
      reads := s.reads ++ [read]
      deviceWrites := queueDeviceWrites lib s.reads.length
        (handleDnsResponse lib.pcap r.ipPacket payload) s.deviceWrites } := by
  have hread : (s.reads ++ [read])[s.reads.length]? = some read := by simp
  have hadded := added_queueDeviceWrites lib s.reads.length r.ipPacket payload s.deviceWrites
  refine accounted_append hs rfl hs.custody rfl none (List.append_nil _).symm nofun _ hadded ?_ none
    (List.append_nil _).symm nofun ?_
  · intro w hw
    obtain ⟨rawData, hraw, rfl⟩ := Option.map_eq_some_iff.mp hw
    exact ⟨rfl, .answered hread hasks hanswer hraw⟩
  · intro r' payload' rawData hasks' hanswer' hraw
    obtain rfl : r = r' := TunnelPacket.query.inj (hasks.symm.trans hasks')
    obtain rfl : payload = payload' := Option.some.inj (hanswer.symm.trans hanswer')
    rw [hadded, hraw]
    simp

/-- **Reading a packet** keeps the account. -/
theorem accounted_read {s t : TunnelLoop IpPacket} (hs : Accounted lib s) {input : DeviceInput}
    (ht : readPacketFromDevice lib s input = some t) : Accounted lib t := by
  cases input with
  | ioException =>
    obtain rfl := Option.some.inj ht
    exact accounted_leave hs
  | closed =>
    obtain rfl := Option.some.inj ht
    exact accounted_leave hs
  | empty =>
    obtain rfl := Option.some.inj ht
    exact hs
  | packet packetData hostEntry forward =>
    obtain ⟨-, ht⟩ := Option.ite_none_right_eq_some.mp ht
    let read : TunnelRead := ⟨packetData, s.dnsServers, hostEntry⟩
    have hread : (s.reads ++ [read])[s.reads.length]? = some read := by simp
    have hnone : (∀ r : DnsRequest IpPacket Message Name, ¬ read.Asks lib r) →
        ∀ x : Option (ℕ × DatagramPacket),
        (∀ x' ∈ x, x'.1 = s.reads.length ∧ Upstream lib (s.reads ++ [read]) x') →
        Accounted lib { s with reads := s.reads ++ [read], sent := s.sent ++ x.toList } :=
      fun hno x hx => accounted_append hs rfl hs.custody rfl none (List.append_nil _).symm
        (fun _ hw => absurd hw (Option.not_mem_none _)) none (List.append_nil _).symm
        (fun _ ha => absurd ha (Option.not_mem_none _)) x rfl hx
        fun r _ _ hasks => absurd hasks (hno r)
    have hnotSent : ∀ x ∈ (none : Option (ℕ × DatagramPacket)), x.1 = s.reads.length ∧
        Upstream lib (s.reads ++ [read]) x := fun _ hx => absurd hx (Option.not_mem_none _)
    rw [requestCalls] at ht
    cases hpacket : readRequest lib.pcap lib.dns s.dnsServers packetData with
    | discarded =>
      rw [hpacket] at ht
      obtain rfl := Option.some.inj ht
      have hno : ∀ r : DnsRequest IpPacket Message Name, ¬ read.Asks lib r := by
        intro r hasks
        cases hpacket.symm.trans hasks
      simpa using hnone hno none hnotSent
    | empty dnsAddress packetPort =>
      rw [hpacket] at ht
      have hno : ∀ r : DnsRequest IpPacket Message Name, ¬ read.Asks lib r := by
        intro r hasks
        cases hpacket.symm.trans hasks
      rw [List.foldlM_cons] at ht
      obtain ⟨t', ht', ht⟩ := Option.bind_eq_some_iff.mp ht
      obtain rfl := Option.some.inj ht
      obtain ⟨outcome, rethrown⟩ := forward
      cases outcome with
      | noSocket =>
        obtain rfl := Option.some.inj ht'
        simpa using accounted_leave (hnone hno none hnotSent)
      | notSent =>
        obtain rfl := Option.some.inj ht'
        simpa using accounted_leave (hnone hno none hnotSent)
      | notAdded now created | sent now created =>
        obtain rfl := Option.some.inj ht'
        refine hnone hno (some _) ?_
        rintro x ⟨rfl⟩
        exact ⟨rfl, .empty hread hpacket rfl⟩
    | query r =>
      rw [hpacket] at ht
      have hasks : read.Asks lib r := hpacket
      dsimp only at ht
      rw [answerQuery_eq] at ht
      cases hanswer : localAnswer lib r (read.entry lib r) with
      | none =>
        rw [show localAnswer lib r (hostEntry (lib.dns.nameToString r.name true)) = none from hanswer,
          List.foldlM_cons] at ht
        obtain ⟨t', ht', ht⟩ := Option.bind_eq_some_iff.mp ht
        obtain rfl := Option.some.inj ht
        exact accounted_forward hs hasks ((localAnswer_eq_none_iff lib r _).mp hanswer) ht'
      | some payload =>
        rw [show localAnswer lib r (hostEntry (lib.dns.nameToString r.name true)) = some payload
          from hanswer] at ht
        dsimp only at ht
        rw [foldlM_perform_handleDnsResponse] at ht
        obtain rfl := Option.some.inj ht
        exact accounted_answer hs hasks hanswer

end TunnelLoop

/-! ### Handling the responses -/

/-- What a map picks from a list has the names of what it is picked from. -/
theorem map_filterMap_sublist {β γ δ : Type} {g : β → Option γ} {f : β → δ} {f' : γ → δ}
    (hg : ∀ b c, g b = some c → f' c = f b) (l : List β) :
    ((l.filterMap g).map f').Sublist (l.map f) := by
  induction l with
  | nil => exact List.Sublist.refl _
  | cons b l ih =>
    cases hb : g b with
    | none =>
      rw [List.filterMap_cons_none hb, List.map_cons]
      exact ih.cons _
    | some c =>
      rw [List.filterMap_cons_some hb, List.map_cons, List.map_cons, hg b c hb]
      exact ih.cons_cons _

/-- Two answers to one packet are one. -/
theorem Custody.answers_requests_nodup {queries : List (DnsQuery (DnsCallback IpPacket) DnsServer)}
    {h : QueryHistory (DnsCallback IpPacket) DnsServer} (hc : Custody queries h)
    (hpassed : (h.passed.map fun p => p.callback.request).Nodup) :
    (h.answers.map fun a => a.query.callback.request).Nodup := by
  refine hc.answers_nodup.of_map.map_on ?_
  intro a ha a' ha' heq
  have hquery : a.query = a'.query :=
    List.inj_on_of_nodup_map hpassed (hc.answered a ha).1 (hc.answered a' ha').1 heq
  exact List.inj_on_of_nodup_map hc.answers_nodup ha ha' (by rw [hquery])

namespace TunnelLoop

variable {lib}

/-- What the callback of the answer writes. -/
def relayedWrite (lib : PacketLibraries IpPacket UdpPacket Message Name)
    (a : Answer (DnsCallback IpPacket) DnsServer) : Option DeviceWrite :=
  (rawResponse lib a.query.callback.requestPacket a.responseData).map
    (DeviceWrite.mk a.query.callback.request)

variable (lib) in
/-- Each callback queues its packet. -/
theorem added_acceptAnswers (answers : List (Answer (DnsCallback IpPacket) DnsServer))
    (deviceWrites : Outbox DeviceWrite) :
    (acceptAnswers lib answers deviceWrites).added
      = deviceWrites.added ++ answers.filterMap (relayedWrite lib) := by
  induction answers generalizing deviceWrites with
  | nil => exact (List.append_nil _).symm
  | cons a answers ih =>
    rw [acceptAnswers, List.foldl_cons, ← acceptAnswers, ih, added_queueDeviceWrites,
      List.append_assoc]
    congr 1
    cases hwrite : relayedWrite lib a with
    | none =>
      rw [List.filterMap_cons_none hwrite]
      rw [relayedWrite] at hwrite
      rw [hwrite]
      rfl
    | some w =>
      rw [List.filterMap_cons_some hwrite]
      rw [relayedWrite] at hwrite
      rw [hwrite]
      rfl

/-- An answer whose callback returns has its number, and belongs to a query that was forwarded. -/
theorem response_relayed {s : TunnelLoop IpPacket} (hs : Accounted lib s)
    {a : Answer (DnsCallback IpPacket) DnsServer} (ha : a.query ∈ s.dnsQueryQueue.history.passed)
    {answers : List (Answer (DnsCallback IpPacket) DnsServer)} (hanswers : a ∈ answers)
    {w : DeviceWrite} (hw : relayedWrite lib a = some w) :
    TunnelResponse lib s.reads answers w := by
  obtain ⟨rawData, hraw, rfl⟩ := Option.map_eq_some_iff.mp hw
  cases hs.forwarded a.query ha with
  | allowed hread hasks hallowed hpacket hserver hsent =>
    rw [hpacket] at hraw
    refine .relayed hread hasks hallowed hanswers ?_ hraw
    rw [← hpacket]

/-- A packet for the device that was there before answers another query. -/
theorem TunnelResponse.request_ne {s : TunnelLoop IpPacket} (hs : Accounted lib s) {w : DeviceWrite}
    (hw : w ∈ s.deviceWrites.added) {new : List (Answer (DnsCallback IpPacket) DnsServer)}
    (hnodup : ((s.dnsQueryQueue.history.answers ++ new).map fun a =>
      a.query.callback.request).Nodup)
    {a : Answer (DnsCallback IpPacket) DnsServer} (ha : a ∈ new)
    (hpassed : a.query ∈ s.dnsQueryQueue.history.passed) :
    w.request ≠ a.query.callback.request := by
  intro heq
  cases hs.response w hw with
  | answered hread hasks hlocal hraw =>
    cases hs.forwarded a.query hpassed with
    | allowed hread' hasks' hallowed =>
      obtain rfl := Option.some.inj (hread.symm.trans ((congrArg (s.reads[·]?) heq).trans hread'))
      obtain rfl := TunnelPacket.query.inj (hasks.symm.trans hasks')
      rw [(localAnswer_eq_none_iff lib _ _).mpr hallowed] at hlocal
      cases hlocal
  | relayed hread hasks hallowed ha' hcallback hraw =>
    rw [List.map_append, List.nodup_append] at hnodup
    refine hnodup.2.2 _ (List.mem_map_of_mem ha') _ (List.mem_map_of_mem ha) ?_
    rw [hcallback]
    exact heq

/-- **Handling the responses** keeps the account. -/
theorem accounted_handleResponses {s t : TunnelLoop IpPacket} (hs : Accounted lib s)
    {turn : PolledTurn} (ht : handleResponses lib turn s = some t) : Accounted lib t := by
  obtain ⟨polled, hpoll, ht⟩ := Option.bind_eq_some_iff.mp ht
  obtain ⟨handled, hhandled, rfl⟩ := Option.map_eq_some_iff.mp ht
  have hpolled : polled.history = s.dnsQueryQueue.history := stepQueue_poll hpoll
  have hcustody : Custody handled.queries handled.history :=
    custody_step (custody_step hs.custody hpoll) hhandled
  obtain ⟨r, hr, rfl⟩ := Option.map_eq_some_iff.mp hhandled
  obtain ⟨hpassed, new, hnew⟩ := handleResponses_answers hr
  rw [hpolled] at hpassed hnew
  have hanswers : newAnswers polled ⟨r.1, r.2⟩ = new := by
    rw [newAnswers, hpolled, hnew, List.drop_left]
  have hforwarded_nodup : (r.2.passed.map fun p => p.callback.request).Nodup := by
    rw [hpassed]
    exact hs.forwarded_nodup
  have hnodup := hcustody.answers_requests_nodup hforwarded_nodup
  rw [hnew] at hnodup
  have hnewPassed : ∀ a ∈ new, a.query ∈ s.dnsQueryQueue.history.passed := by
    intro a ha
    rw [← hpassed]
    exact (hcustody.answered a (hnew ▸ List.mem_append_right _ ha)).1
  -- the callbacks that return
  let returned := new.filter fun a => !callbackThrows turn a
  have hreturned : ∀ a ∈ returned, a ∈ new := fun a ha => List.mem_of_mem_filter ha
  have hadded := added_acceptAnswers lib returned s.deviceWrites
  have hrequest : ∀ (a : Answer (DnsCallback IpPacket) DnsServer) w, relayedWrite lib a = some w →
      w.request = a.query.callback.request := by
    intro a w hw
    obtain ⟨rawData, -, rfl⟩ := Option.map_eq_some_iff.mp hw
    rfl
  constructor
  case custody => exact hcustody
  case forwarded =>
    intro p hp
    exact hs.forwarded p (hpassed ▸ hp)
  case forwarded_nodup => exact hforwarded_nodup
  case response =>
    intro w hw
    rw [hanswers, hadded, List.mem_append, List.mem_filterMap] at hw
    show TunnelResponse lib s.reads r.2.answers w
    rw [hnew]
    rcases hw with hw | ⟨a, ha, hw⟩
    · have hgrown := (hs.response w hw).grow [] new
      rwa [List.append_nil] at hgrown
    · exact response_relayed hs (hnewPassed a (hreturned a ha))
        (List.mem_append_right _ (hreturned a ha)) hw
  case response_nodup =>
    rw [hanswers, hadded, List.map_append, List.nodup_append]
    have hsub := map_filterMap_sublist (f := fun a => a.query.callback.request) hrequest returned
    refine ⟨hs.response_nodup, ?_, ?_⟩
    · rw [List.map_append] at hnodup
      exact (hnodup.of_append_right.sublist (List.filter_sublist.map _)).sublist hsub
    · intro n hn m hm
      obtain ⟨w, hw, rfl⟩ := List.mem_map.mp hn
      obtain ⟨a, ha, rfl⟩ := List.mem_map.mp (hsub.subset hm)
      exact TunnelResponse.request_ne hs hw hnodup (hreturned a ha) (hnewPassed a (hreturned a ha))
  case upstream => exact hs.upstream
  case upstream_nodup => exact hs.upstream_nodup
  case answeredLocally =>
    intro n read r' payload rawData hread hasks hlocal hraw
    rw [hanswers, hadded]
    exact List.mem_append_left _ (hs.answeredLocally n read r' payload rawData hread hasks hlocal hraw)

/-- Writing to the device queues nothing. -/
theorem accounted_writeToDevice {s : TunnelLoop IpPacket} (hs : Accounted lib s)
    (writeFails : Option ℕ) : Accounted lib (writeToDevice writeFails s) :=
  { hs with }

/-- Polling changes no account. -/
theorem accounted_poll {s : TunnelLoop IpPacket} (hs : Accounted lib s) {ready : ℕ → Bool}
    {polled : DnsQueryQueue (DnsCallback IpPacket) DnsServer}
    (hpoll : stepQueue s.dnsQueryQueue (.poll ready) = some polled) (deviceOpened : Bool) :
    Accounted lib { s with deviceOpened := deviceOpened, dnsQueryQueue := polled } := by
  have hcustody := custody_step hs.custody hpoll
  obtain rfl := Option.some.inj hpoll
  exact { hs with custody := hcustody }

/-- **One turn** keeps the account. -/
theorem accounted_doOne {s t : TunnelLoop IpPacket} (hs : Accounted lib s) {poll : PollResult}
    (ht : doOne lib s poll = some t) : Accounted lib t := by
  cases poll with
  | errnoException =>
    obtain rfl := Option.some.inj ht
    exact accounted_leave hs
  | timeout watchdogThrows =>
    rw [doOne] at ht
    obtain ⟨polled, hpoll, rfl⟩ := Option.map_eq_some_iff.mp ht
    exact accounted_poll hs hpoll _
  | events turn =>
    obtain ⟨-, ht⟩ := Option.ite_none_left_eq_some.mp ht
    obtain ⟨handled, hhandled, ht⟩ := Option.bind_eq_some_iff.mp ht
    have hresponses := accounted_handleResponses hs hhandled
    have hwritten : Accounted lib
        (if turn.deviceReadyToWrite then writeToDevice turn.writeFails handled else handled) := by
      split
      · exact accounted_writeToDevice hresponses _
      · exact hresponses
    split at ht
    · obtain rfl := Option.some.inj ht
      exact hresponses
    dsimp only at ht
    generalize (if turn.deviceReadyToWrite then writeToDevice turn.writeFails handled else handled)
      = written at hwritten ht
    split at ht
    · obtain rfl := Option.some.inj ht
      exact hwritten
    split at ht
    · exact accounted_read hwritten ht
    · obtain rfl := Option.some.inj ht
      exact hwritten

end TunnelLoop

/-! ### A run -/

variable {lib}

/-- **Each step** keeps the account. -/
theorem accounted_step {s t : TunnelLoop IpPacket} {a : TunnelAction} (hs : Accounted lib s)
    (hstep : stepTunnel lib s a = some t) : Accounted lib t := by
  cases a with
  | arrive socket datagram =>
    obtain ⟨queue, hqueue, rfl⟩ := Option.map_eq_some_iff.mp hstep
    obtain ⟨hpassed, hanswers⟩ := stepQueue_arrive hqueue
    have hcustody := custody_step hs.custody hqueue
    exact
      { hs with
        custody := hcustody
        forwarded := fun p hp => hs.forwarded p (hpassed ▸ hp)
        forwarded_nodup := by
          show (queue.history.passed.map _).Nodup
          rw [hpassed]
          exact hs.forwarded_nodup
        response := fun w hw => by
          show TunnelResponse lib s.reads queue.history.answers w
          rw [hanswers]
          exact hs.response w hw }
  | doOne poll =>
    obtain ⟨-, hstep⟩ := Option.ite_none_right_eq_some.mp hstep
    exact TunnelLoop.accounted_doOne hs hstep
  | runVpn dnsServers =>
    obtain ⟨-, hstep⟩ := Option.ite_none_left_eq_some.mp hstep
    obtain rfl := Option.some.inj hstep
    exact { hs with }

/-- **The account over a run**, whatever tunnels it has. -/
theorem accounted_run {clock : ℤ} {as : List TunnelAction} {s : TunnelLoop IpPacket}
    (h : ActionSystem.run (stepTunnel lib) (startTunnel clock) as = some s) : Accounted lib s :=
  ActionSystem.invariant_run (fun _ _ _ hs hstep => accounted_step hs hstep)
    (accounted_start lib clock) h

end AdAway
