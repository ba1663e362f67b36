import AdAway.Library.Outbox
import AdAway.Vpn.DnsQueryRuns

/-!
# The loop that serves the tunnel

`VpnWorker.runVpn` repeats `doOne` until the tunnel is closed or something is thrown. A turn polls
the tunnel and the sockets of the pending queries, handles the responses, writes what is queued for
the device and reads one packet. What it reads is answered locally or forwarded; a response that
arrives later is queued for the device by the callback of its query.

The queue of packets for the device and the queue of queries are fields of `VpnWorker`. They outlive
the tunnel: what is left of them when a turn throws is served by the next `runVpn`.

## What is left open

What the poll reports, which writes fail, what is read, whether a packet can be sent, and what
`VpnModel` answers for a name. The last is an input of the turn, so the tables may be rebuilt between
any two turns, and the cache may serve what it likes. One loop runs at a time.

## What is recorded

The packets read, with their numbers, and the datagrams sent. A packet for the device carries the
number of the packet it answers. The program has none of these, and no step looks at them.

## Main definitions

* `PacketLibraries` — what the loop needs of the packet libraries
* `requestCalls` — `DnsPacketProxy.handleDnsRequest`, for any answers of `getHostEntry`
* `TunnelLoop`, `doOne`, `stepTunnel` — the loop

## Main results

* `handleDnsRequest_eq_requestCalls` — the proxy makes the calls of `requestCalls`
-/

namespace AdAway

/-! ### Packets -/

/-- The packet libraries, as far as the loop uses them. -/
structure PacketLibraries (IpPacket UdpPacket Message Name : Type) where
  pcap : Pcap4j IpPacket UdpPacket
  dns : DnsJava Message Name
  /-- `InetAddress.getByName`. -/
  getByName : Option String → Option InetAddress
  /-- `IpPacket.getRawData`. -/
  getRawData : IpPacket → Option (List UInt8)

/-- A packet for the device. -/
structure DeviceWrite where
  /-- The number of the packet it answers. -/
  request : ℕ
  rawData : List UInt8
  deriving DecidableEq, Repr

/-- The callback of a forwarded query: `handleDnsResponse` with the request packet. -/
structure DnsCallback (IpPacket : Type) where
  /-- The number of the request packet. -/
  request : ℕ
  requestPacket : IpPacket

/-- The address and port of a DNS server. -/
abbrev DnsServer := InetAddress × UInt16

/-- A packet read from the tunnel. -/
structure TunnelRead where
  packetData : List UInt8
  /-- The servers of the `DnsServerMapper` at that time. -/
  dnsServers : List InetAddress
  /-- What `getHostEntry` answers at that time. -/
  hostEntry : String → HostEntry

section Requests

variable {IpPacket UdpPacket Message Name : Type} (lib : PacketLibraries IpPacket UdpPacket Message Name)

/-- The calls of `DnsPacketProxy.handleDnsRequest`, for any answers of `getHostEntry`. -/
def requestCalls (read : TunnelRead) : List (EventLoopCall IpPacket) :=
  match readRequest lib.pcap lib.dns read.dnsServers read.packetData with
  | .discarded => []
  | .empty dnsAddress packetPort => [.forwardPacket ⟨[], dnsAddress, packetPort⟩]
  | .query r =>
    answerQuery lib.pcap lib.dns lib.getByName r (read.hostEntry (lib.dns.nameToString r.name true))

/-- The proxy makes these calls, with what its `getHostEntry` answers. -/
theorem handleDnsRequest_eq_requestCalls (t : HostEntries) (proxy : DnsPacketProxy)
    (packetData : List UInt8) :
    (handleDnsRequest lib.pcap lib.dns lib.getByName t proxy packetData).1
      = requestCalls lib
          ⟨packetData, proxy.dnsServers, fun name => (getHostEntry t proxy name).1⟩ := by
  rw [handleDnsRequest, requestCalls]
  dsimp only
  cases readRequest lib.pcap lib.dns proxy.dnsServers packetData with
  | discarded => rfl
  | empty dnsAddress packetPort => rfl
  | query r => rfl

/-- What a response to the request is written as, if it is written at all. -/
def rawResponse (requestPacket : IpPacket) (responsePayload : List UInt8) : Option (List UInt8) :=
  match handleDnsResponse lib.pcap requestPacket responsePayload with
  | [.queueDeviceWrite ipOutPacket] => lib.getRawData ipOutPacket
  | _ => none

end Requests

/-! ### The state -/

/-- The fields of `VpnWorker` that a turn uses. -/
structure TunnelLoop (IpPacket : Type) where
  /-- The loop of `runVpn` goes on. -/
  deviceOpened : Bool
  /-- The servers of the `DnsServerMapper`. -/
  dnsServers : List InetAddress
  deviceWrites : Outbox DeviceWrite
  dnsQueryQueue : DnsQueryQueue (DnsCallback IpPacket) DnsServer
  /-- The packets read from the tunnel. -/
  reads : List TunnelRead
  /-- The datagrams sent, with the numbers of the packets that caused them. -/
  sent : List (ℕ × DatagramPacket)

/-- How `forwardPacket` ends. -/
structure ForwardResult where
  outcome : ForwardOutcome
  /-- A failure is thrown on, as for `ENETUNREACH` and `EPERM`. -/
  rethrown : Bool
  deriving DecidableEq, Repr

/-- What `readPacketFromDevice` meets. -/
inductive DeviceInput
  | ioException
  /-- The tunnel is closed: `read` returns `-1`. -/
  | closed
  /-- `read` returns `0`. -/
  | empty
  | packet (packetData : List UInt8) (hostEntry : String → HostEntry) (forward : ForwardResult)

/-- A turn in which the poll reports events. -/
structure PolledTurn where
  deviceReadyToWrite : Bool
  deviceReadyToRead : Bool
  /-- The sockets with data to read. -/
  ready : ℕ → Bool
  outcome : ℕ → ResponseOutcome
  /-- The writes before the one that fails, if one does. -/
  writeFails : Option ℕ
  input : DeviceInput

/-- What `Os.poll` does. -/
inductive PollResult
  | errnoException
  /-- No event, and whether `handleTimeout` of the watchdog throws. -/
  | timeout (watchdogThrows : Bool)
  | events (turn : PolledTurn)

namespace TunnelLoop

variable {IpPacket UdpPacket Message Name : Type} (lib : PacketLibraries IpPacket UdpPacket Message Name)

/-- The loop of `runVpn` is left. -/
def leave (s : TunnelLoop IpPacket) : TunnelLoop IpPacket := { s with deviceOpened := false }

/-- `VpnWorker.queueDeviceWrite`, for each of the calls that makes one. -/
def queueDeviceWrites (request : ℕ) (calls : List (EventLoopCall IpPacket))
    (deviceWrites : Outbox DeviceWrite) : Outbox DeviceWrite :=
  calls.foldl (fun deviceWrites call =>
    match call with
    | .queueDeviceWrite ipOutPacket =>
      match lib.getRawData ipOutPacket with
      | none => deviceWrites
      | some rawData => deviceWrites.add ⟨request, rawData⟩
    | .forwardPacket _ | .forwardPacketCallback _ _ => deviceWrites) deviceWrites

/-- The callbacks of these answers are called. -/
def acceptAnswers (answers : List (Answer (DnsCallback IpPacket) DnsServer))
    (deviceWrites : Outbox DeviceWrite) : Outbox DeviceWrite :=
  answers.foldl (fun deviceWrites answer =>
    queueDeviceWrites lib answer.query.callback.request
      (handleDnsResponse lib.pcap answer.query.callback.requestPacket answer.responseData)
      deviceWrites) deviceWrites

/-- A call of the proxy for the packet with this number. -/
def perform (request : ℕ) (forward : ForwardResult) (s : TunnelLoop IpPacket) :
    EventLoopCall IpPacket → Option (TunnelLoop IpPacket)
  | .queueDeviceWrite ipOutPacket =>
    some { s with
      deviceWrites := queueDeviceWrites lib request [.queueDeviceWrite ipOutPacket] s.deviceWrites }
  | .forwardPacket packet =>
    match forward.outcome with
    | .notAdded _ _ | .sent _ _ => some { s with sent := s.sent ++ [(request, packet)] }
    | .noSocket | .notSent => some s.leave
  | .forwardPacketCallback packet requestPacket =>
    (stepQueue s.dnsQueryQueue
      (.forwardPacket (packet.address, packet.port) ⟨request, requestPacket⟩ forward.outcome)).map
    fun dnsQueryQueue =>
      match forward.outcome with
      | .sent _ _ =>
        { s with dnsQueryQueue := dnsQueryQueue, sent := s.sent ++ [(request, packet)] }
      | .notAdded _ _ =>
        -- not an `IOException`, so nothing between here and `work` catches it
        TunnelLoop.leave
          { s with dnsQueryQueue := dnsQueryQueue, sent := s.sent ++ [(request, packet)] }
      | .noSocket | .notSent =>
        let s := { s with dnsQueryQueue := dnsQueryQueue }
        if forward.rethrown then s.leave else s

/-- `VpnWorker.MAX_PACKET_SIZE`. -/
def maxPacketSize : ℕ := 32767

/-- `VpnWorker.readPacketFromDevice`. The proxy makes one call at most. -/
def readPacketFromDevice (s : TunnelLoop IpPacket) : DeviceInput → Option (TunnelLoop IpPacket)
  | .ioException | .closed => some s.leave
  | .empty => some s
  | .packet packetData hostEntry forward =>
    if packetData ≠ [] ∧ packetData.length ≤ maxPacketSize then
      let read : TunnelRead := ⟨packetData, s.dnsServers, hostEntry⟩
      (requestCalls lib read).foldlM (perform lib s.reads.length forward)
        { s with reads := s.reads ++ [read] }
    else none

/-- The answers that handling the responses has added. -/
def newAnswers (before after : DnsQueryQueue (DnsCallback IpPacket) DnsServer) :
    List (Answer (DnsCallback IpPacket) DnsServer) :=
  after.history.answers.drop before.history.answers.length

/-- The answer whose callback throws. -/
def callbackThrows (turn : PolledTurn) (a : Answer (DnsCallback IpPacket) DnsServer) : Bool :=
  turn.outcome a.query.socket = .callbackThrows

/-- `DnsQueryQueue.handleResponses`, with what the callbacks do. -/
def handleResponses (turn : PolledTurn) (s : TunnelLoop IpPacket) : Option (TunnelLoop IpPacket) :=
  (stepQueue s.dnsQueryQueue (.poll turn.ready)).bind fun polled =>
    (stepQueue polled (.handleResponses turn.outcome)).map fun handled =>
      let answers := newAnswers polled handled
      { s with
        deviceOpened := !answers.any (callbackThrows turn)
        deviceWrites := acceptAnswers lib (answers.filter fun a => !callbackThrows turn a) s.deviceWrites
        dnsQueryQueue := handled }

/-- `VpnWorker.writeToDevice`. -/
def writeToDevice (writeFails : Option ℕ) (s : TunnelLoop IpPacket) : TunnelLoop IpPacket :=
  { s with
    deviceOpened := !s.deviceWrites.fails writeFails
    deviceWrites := s.deviceWrites.drain writeFails }

/-- `VpnWorker.doOne`. What a step has thrown ends the turn. -/
def doOne (s : TunnelLoop IpPacket) : PollResult → Option (TunnelLoop IpPacket)
  | .errnoException => some s.leave
  | .timeout watchdogThrows =>
    (stepQueue s.dnsQueryQueue (.poll fun _ => false)).map fun polled =>
      { s with deviceOpened := !watchdogThrows, dnsQueryQueue := polled }
  | .events turn =>
    if turn.deviceReadyToWrite ∧ s.deviceWrites.waiting = [] then none
    else
      (handleResponses lib turn s).bind fun s =>
        if !s.deviceOpened then some s
        else
          let s := if turn.deviceReadyToWrite then writeToDevice turn.writeFails s else s
          if !s.deviceOpened then some s
          else if turn.deviceReadyToRead then readPacketFromDevice lib s turn.input
          else some s

end TunnelLoop

/-- What happens next. -/
inductive TunnelAction
  /-- A datagram arrives on the socket of a query. -/
  | arrive (socket : ℕ) (datagram : Datagram DnsServer)
  | doOne (poll : PollResult)
  /-- A tunnel is established, for these servers. -/
  | runVpn (dnsServers : List InetAddress)

variable {IpPacket UdpPacket Message Name : Type} (lib : PacketLibraries IpPacket UdpPacket Message Name)

/-- One step. -/
def stepTunnel (s : TunnelLoop IpPacket) : TunnelAction → Option (TunnelLoop IpPacket)
  | .arrive socket datagram =>
    (stepQueue s.dnsQueryQueue (.arrive socket datagram)).map fun dnsQueryQueue =>
      { s with dnsQueryQueue := dnsQueryQueue }
  | .doOne poll => if s.deviceOpened then s.doOne lib poll else none
  | .runVpn dnsServers =>
    if s.deviceOpened then none else some { s with deviceOpened := true, dnsServers := dnsServers }

/-- The constructor of `VpnWorker`, at the time `clock`. -/
def startTunnel (clock : ℤ) : TunnelLoop IpPacket :=
  ⟨false, [], .empty, startQueue clock, [], []⟩

end AdAway
