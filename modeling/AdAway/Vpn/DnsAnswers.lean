import AdAway.Vpn.DnsPacketProxy

/-!
# The answers of the two proxies

A query is answered by the proxy itself when its name is redirected. `DohPacketProxy`, the proxy that
resolves over HTTPS, also answers an allowed name itself, with the first address of its lookup. In
each case the answer is the query, its flags changed and one record added for the address: `A` for
an IPv4 address, `AAAA` for an IPv6 one, always of class `IN`. Neither proxy looks at the type or
the class of the question.

What the dnsjava library says of a message is a parameter, `MessageSections`, and `Reads` is what
is relied on: changing a flag leaves the sections alone, and a record added to the answer section
comes last in it.

## Main definitions

* `Question`, `RecordHeader`, `MessageSections`, `Reads` — what a message says
* `queryDohServer`, `dohHandleDnsRequest` — the methods of `DohPacketProxy`
* `AnswersQuestion` — each record of the answer section answers the question

## Main results

* `answersQuestion_iff` — when the answer answers the question
* `local_answer_iff` — what each proxy answers
-/

namespace AdAway

/-! ### What a message says -/

/-- `Type.A`. -/
def typeA : ℕ := 1

/-- `Type.AAAA`. -/
def typeAaaa : ℕ := 28

/-- `Type.ANY`. -/
def typeAny : ℕ := 255

/-- `DClass.IN`. -/
def classIn : ℕ := 1

/-- The question of a message. -/
structure Question (Name : Type) where
  name : Name
  type : ℕ
  dclass : ℕ
  deriving DecidableEq, Repr

/-- What a record is about. -/
structure RecordHeader (Name : Type) where
  name : Name
  type : ℕ
  dclass : ℕ
  deriving DecidableEq, Repr

/-- The type of the record for an address. -/
def addressType (address : InetAddress) : ℕ := if address.isInet6 then typeAaaa else typeA

/-- The record answers the question: it has its name and class, and its type unless that is
`ANY`. -/
def Answers {Name : Type} (q : Question Name) (record : RecordHeader Name) : Prop :=
  record.name = q.name ∧ record.dclass = q.dclass ∧ (q.type = typeAny ∨ record.type = q.type)

/-- The sections of a message of the dnsjava library. -/
structure MessageSections (Message Name : Type) where
  /-- `getQuestion()`. -/
  question : Message → Option (Question Name)
  /-- `getSection(Section.ANSWER)`. -/
  answers : Message → List (RecordHeader Name)

section

variable {IpPacket UdpPacket Message Name : Type} (pcap : Pcap4j IpPacket UdpPacket)
  (dns : DnsJava Message Name) (getByName : Option String → Option InetAddress)
  (sections : MessageSections Message Name)

/-- The record for an address. -/
def addressRecord (name : Name) (address : InetAddress) : DnsRecord Name :=
  if address.isInet6 then .aaaa name negativeCacheTtlSeconds address
  else .a name negativeCacheTtlSeconds address

/-- What the library says of the messages that the proxies make. -/
structure Reads : Prop where
  questionName : ∀ m, dns.questionName m = (sections.question m).map Question.name
  question_setFlag : ∀ m flag, sections.question (dns.setFlag m flag) = sections.question m
  question_unsetFlag : ∀ m flag, sections.question (dns.unsetFlag m flag) = sections.question m
  question_setRcode : ∀ m rcode, sections.question (dns.setRcode m rcode) = sections.question m
  question_addRecord : ∀ m record,
    sections.question (dns.addRecord m record .answer) = sections.question m
  answers_setFlag : ∀ m flag, sections.answers (dns.setFlag m flag) = sections.answers m
  answers_unsetFlag : ∀ m flag, sections.answers (dns.unsetFlag m flag) = sections.answers m
  answers_setRcode : ∀ m rcode, sections.answers (dns.setRcode m rcode) = sections.answers m
  answers_addRecord : ∀ m name address,
    sections.answers (dns.addRecord m (addressRecord name address) .answer) =
      sections.answers m ++ [⟨name, addressType address, classIn⟩]

/-- Each record of the answer section answers the question. -/
def AnswersQuestion (m : Message) : Prop :=
  ∀ q ∈ sections.question m, ∀ record ∈ sections.answers m, Answers q record

/-- The answer with an address. -/
def addressedMessage (name : Name) (address : InetAddress) (dnsMsg : Message) : Message :=
  let dnsMsg := dns.setFlag dnsMsg .qr
  let dnsMsg := dns.setFlag dnsMsg .aa
  let dnsMsg := dns.unsetFlag dnsMsg .rd
  let dnsMsg := dns.setRcode dnsMsg .noerror
  dns.addRecord dnsMsg (addressRecord name address) .answer

/-! ### `DohPacketProxy` -/

/-- What `DohPacketProxy` does with a packet: it calls the event loop, or has the lookup of a query
executed. -/
inductive DohCall (IpPacket Message Name : Type)
  | eventLoop (call : EventLoopCall IpPacket)
  | execute (r : DnsRequest IpPacket Message Name)

/-- `DohPacketProxy.queryDohServer`, for the lookup of `dnsOverHttps`; it has no addresses when it
throws. -/
def queryDohServer (lookup : String → Option (List InetAddress))
    (r : DnsRequest IpPacket Message Name) : List (EventLoopCall IpPacket) :=
  match (lookup (dns.nameToString r.name true)).bind List.head? with
  | none => []
  | some address =>
    handleDnsResponse pcap r.ipPacket (dns.toWire (addressedMessage dns r.name address r.dnsMsg))

/-- The `switch` of `DohPacketProxy.handleDnsRequest`. -/
def dohAnswerQuery (r : DnsRequest IpPacket Message Name) (entry : HostEntry) :
    List (DohCall IpPacket Message Name) :=
  match entry.type with
  | .blocked =>
    (handleDnsResponse pcap r.ipPacket (dns.toWire (blockedMessage dns r.dnsMsg))).map .eventLoop
  | .allowed => [.execute r]
  | .redirected =>
    (handleDnsResponse pcap r.ipPacket
      (dns.toWire (redirectedMessage dns getByName r.name entry.redirection r.dnsMsg))).map
        .eventLoop

/-- `DohPacketProxy.handleDnsRequest`, which reads a packet and finds an entry as `DnsPacketProxy`
does. -/
def dohHandleDnsRequest (t : HostEntries) (proxy : DnsPacketProxy) (packetData : List UInt8) :
    List (DohCall IpPacket Message Name) × DnsPacketProxy :=
  match readRequest pcap dns proxy.dnsServers packetData with
  | .discarded => ([], proxy)
  | .empty dnsAddress packetPort =>
    ([.eventLoop (.forwardPacket ⟨[], dnsAddress, packetPort⟩)], proxy)
  | .query r =>
    let (entry, proxy) := getHostEntry t proxy (dns.nameToString r.name true)
    (dohAnswerQuery pcap dns getByName r entry, proxy)

/-! ### What is answered -/

theorem redirectedMessage_of_address {redirection : Option String} {address : InetAddress}
    (h : getByName redirection = some address) (name : Name) (dnsMsg : Message) :
    redirectedMessage dns getByName name redirection dnsMsg =
      addressedMessage dns name address dnsMsg := by
  rw [redirectedMessage, h]
  rfl

variable {dns sections}

theorem answers_addressedMessage (hreads : Reads dns sections) (name : Name) (address : InetAddress)
    (dnsMsg : Message) :
    sections.answers (addressedMessage dns name address dnsMsg) =
      sections.answers dnsMsg ++ [⟨name, addressType address, classIn⟩] := by
  rw [addressedMessage, hreads.answers_addRecord, hreads.answers_setRcode, hreads.answers_unsetFlag,
    hreads.answers_setFlag, hreads.answers_setFlag]

theorem question_addressedMessage (hreads : Reads dns sections) (name : Name)
    (address : InetAddress) (dnsMsg : Message) :
    sections.question (addressedMessage dns name address dnsMsg) = sections.question dnsMsg := by
  rw [addressedMessage, hreads.question_addRecord, hreads.question_setRcode,
    hreads.question_unsetFlag, hreads.question_setFlag, hreads.question_setFlag]

/-- **When the answer answers the question**: the records that the query has brought along do, the
question is of class `IN`, and it asks for the type of the address, or for any. -/
theorem answersQuestion_iff (hreads : Reads dns sections) {dnsMsg : Message} {q : Question Name}
    (hquestion : sections.question dnsMsg = some q) (address : InetAddress) :
    AnswersQuestion sections (addressedMessage dns q.name address dnsMsg) ↔
      AnswersQuestion sections dnsMsg ∧ q.dclass = classIn ∧
        (q.type = typeAny ∨ q.type = addressType address) := by
  have hadded : Answers q ⟨q.name, addressType address, classIn⟩ ↔
      q.dclass = classIn ∧ (q.type = typeAny ∨ q.type = addressType address) := by
    rw [Answers]
    constructor
    · rintro ⟨-, hclass, htype⟩
      exact ⟨hclass.symm, htype.imp id Eq.symm⟩
    · rintro ⟨hclass, htype⟩
      exact ⟨rfl, hclass.symm, htype.imp id Eq.symm⟩
  simp only [AnswersQuestion, question_addressedMessage hreads, answers_addressedMessage hreads,
    hquestion, Option.mem_some_iff, forall_eq', List.forall_mem_append, List.forall_mem_singleton]
  rw [hadded]

theorem question_of_readRequest (hreads : Reads dns sections) {dnsServers : List InetAddress}
    {packetData : List UInt8} {r : DnsRequest IpPacket Message Name}
    (hread : readRequest pcap dns dnsServers packetData = .query r) :
    ∃ q, sections.question r.dnsMsg = some q ∧ q.name = r.name := by
  obtain ⟨-, -, -, -, -, hname⟩ := readRequest_eq_query pcap dns hread
  rw [hreads.questionName, Option.map_eq_some_iff] at hname
  exact hname

/-- **What a proxy answers itself.** For a query, and an address found for it, each proxy responds
with the query and one record added, of the name of the question, of class `IN` and of the type of
the address, whatever type and class the question has. The answer section answers the question
exactly if it did before, the question is of class `IN`, and it asks for that type or for any. -/
theorem local_answer_iff (hreads : Reads dns sections) {t : HostEntries} {proxy : DnsPacketProxy}
    {packetData : List UInt8} {r : DnsRequest IpPacket Message Name}
    (hread : readRequest pcap dns proxy.dnsServers packetData = .query r) (address : InetAddress) :
    let entry := (getHostEntry t proxy (dns.nameToString r.name true)).1
    let m := addressedMessage dns r.name address r.dnsMsg
    let response := handleDnsResponse pcap r.ipPacket (dns.toWire m)
    (entry.type = .redirected → getByName entry.redirection = some address →
      (handleDnsRequest pcap dns getByName t proxy packetData).1 = response ∧
      (dohHandleDnsRequest pcap dns getByName t proxy packetData).1 = response.map .eventLoop) ∧
    (entry.type = .allowed →
      (dohHandleDnsRequest pcap dns getByName t proxy packetData).1 = [.execute r]) ∧
    (∀ lookup addresses, lookup (dns.nameToString r.name true) = some (address :: addresses) →
      queryDohServer pcap dns lookup r = response) ∧
    ∃ q, sections.question r.dnsMsg = some q ∧ sections.question m = some q ∧
      sections.answers m = sections.answers r.dnsMsg ++ [⟨q.name, addressType address, classIn⟩] ∧
      (AnswersQuestion sections m ↔ AnswersQuestion sections r.dnsMsg ∧ q.dclass = classIn ∧
        (q.type = typeAny ∨ q.type = addressType address)) := by
  intro entry m response
  obtain ⟨q, hquestion, hname⟩ := question_of_readRequest pcap hreads hread
  refine ⟨fun hredirected haddress => ⟨?_, ?_⟩, fun hallowed => ?_, fun lookup addresses hlookup => ?_,
    q, hquestion, ?_, ?_, ?_⟩
  · rw [handleDnsRequest_query pcap dns getByName hread, answerQuery, hredirected]
    rw [redirectedMessage_of_address dns getByName haddress]
  · rw [dohHandleDnsRequest, hread]
    dsimp only
    rw [dohAnswerQuery, hredirected]
    rw [redirectedMessage_of_address dns getByName haddress]
  · rw [dohHandleDnsRequest, hread]
    dsimp only
    rw [dohAnswerQuery, hallowed]
  · rw [queryDohServer, hlookup]
    rfl
  · rw [question_addressedMessage hreads, hquestion]
  · rw [answers_addressedMessage hreads, hname]
  · rw [← answersQuestion_iff hreads hquestion address, hname]

end

/-! ### A query for a redirected host -/

/-- What a record of the concrete library is about. -/
def recordHeader : DnsRecord String → RecordHeader String
  | .soa name _ _ _ _ _ _ _ _ => ⟨name, 6, classIn⟩
  | .a name _ _ => ⟨name, typeA, classIn⟩
  | .aaaa name _ _ => ⟨name, typeAaaa, classIn⟩

/-- The sections of a message with one question, which ends in its type and class. -/
def questionSections : MessageSections QuestionMessage String where
  question m :=
    let typeAndClass := m.question.drop (m.question.length - 4)
    some ⟨String.ofList (readName 128 m.question), (word typeAndClass 0).toNat,
      (word typeAndClass 2).toNat⟩
  answers m := m.answer.map recordHeader

theorem reads_questionSections : Reads questionDns questionSections where
  questionName _ := rfl
  question_setFlag _ _ := rfl
  question_unsetFlag _ _ := rfl
  question_setRcode _ _ := rfl
  question_addRecord _ _ := rfl
  answers_setFlag _ _ := rfl
  answers_unsetFlag _ _ := rfl
  answers_setRcode _ _ := rfl
  answers_addRecord m name address := by
    have hheader : recordHeader (addressRecord name address) =
        ⟨name, addressType address, classIn⟩ := by
      rw [addressRecord, addressType]
      split <;> rfl
    rw [← hheader]
    exact List.map_append

/-- `ads.example` is redirected to `1.2.3.4`. -/
def redirectedHosts : HostEntries :=
  ⟨[⟨"ads.example", .redirected, some "1.2.3.4"⟩], List.nodup_singleton _⟩

/-- That address. -/
def redirectionAddress : InetAddress := ⟨[1, 2, 3, 4], Or.inl rfl⟩

/-- The resolution of literals, for that one. -/
def getByLiteral (host : Option String) : Option InetAddress :=
  if host = some "1.2.3.4" then some redirectionAddress else none

theorem local_answer_iff_ipv4 :
    (handleDnsRequest ipv4Pcap questionDns getByLiteral redirectedHosts freshProxy
        adsQueryPacket).1 =
      handleDnsResponse ipv4Pcap adsQuery.ipPacket (questionDns.toWire
        (addressedMessage questionDns "ads.example." redirectionAddress adsQuery.dnsMsg)) ∧
    AnswersQuestion questionSections
      (addressedMessage questionDns "ads.example." redirectionAddress adsQuery.dnsMsg) := by
  have hread : readRequest ipv4Pcap questionDns freshProxy.dnsServers
      adsQueryPacket = .query adsQuery := readRequest_adsQueryPacket
  obtain ⟨hredirected, -, -, q, hq, -, -, hanswers⟩ := local_answer_iff ipv4Pcap getByLiteral
    reads_questionSections hread redirectionAddress
  refine ⟨(hredirected rfl rfl).1, hanswers.mpr ⟨nofun, ?_⟩⟩
  obtain rfl := Option.some.inj hq
  exact ⟨rfl, .inr rfl⟩

/-- A query for the IPv6 address of `ads.example`. -/
def adsQueryPacketAaaa : List UInt8 := adsQueryPacket.set 26 8 |>.set 27 106 |>.set 54 28

/-- It is answered with the IPv4 address. -/
theorem not_answersQuestion : ¬ ∀ (t : HostEntries) (proxy : DnsPacketProxy)
    (packetData : List UInt8) (r : DnsRequest Ipv4Udp QuestionMessage String) (address : InetAddress),
    let entry := (getHostEntry t proxy (questionDns.nameToString r.name true)).1
    readRequest ipv4Pcap questionDns proxy.dnsServers packetData = .query r →
    entry.type = .redirected → getByLiteral entry.redirection = some address →
    AnswersQuestion questionSections
      (redirectedMessage questionDns getByLiteral r.name entry.redirection r.dnsMsg) := by
  intro h
  obtain ⟨r, hread⟩ : ∃ r, readRequest ipv4Pcap questionDns freshProxy.dnsServers
      adsQueryPacketAaaa = .query r := ⟨_, rfl⟩
  cases hread
  have hanswers := h redirectedHosts freshProxy adsQueryPacketAaaa _ redirectionAddress rfl rfl rfl
  have hanswer := hanswers _ rfl ⟨"ads.example.", typeA, classIn⟩ (List.mem_singleton_self _)
  rcases hanswer.2.2 with htype | htype
  · exact absurd htype (by decide)
  · exact absurd htype (by decide)

end AdAway
