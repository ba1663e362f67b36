import AdAway.Tcpdump.TcpdumpUtils
import AdAway.Vpn.DnsPacketProxy

/-!
# The logs of both methods

`AdBlockModel.getLogs` is to return the logs unique and sorted by date, older first. `VpnModel` adds
each name it is asked for to a linked set while it records. `RootModel` starts tcpdump, which appends
its lines to a file, and reads the names back from them.

Both are a view of one history: the requests made while recording, since the logs were last cleared.
A request is an atomic step here. Starting tcpdump succeeds, and so does clearing its file.

Tcpdump prints whatever packets go to port 53. The names asked for are read back from its lines as
long as each packet is a query with plain labels, or is printed without a question mark, as a
response is whose bytes are not printed as one.

## Main definitions

* `RecordedRequests` — the history
* `VpnLogs`, `TcpdumpLog` — the two models
* `PrintedPacket` — a packet in the file
* `PrintedPacket.Asks` — the query that the packet is, if it is one

## Main results

* `getLogs_vpn`, `getLogs_root` — what each model returns
-/

namespace AdAway

/-! ### The history -/

/-- What may happen next. -/
inductive RecordAction (ρ : Type)
  /-- The device asks for a name. -/
  | request (r : ρ)
  | setRecordingLogs (recording : Bool)
  | clearLogs

/-- The requests made while recording, since the logs were last cleared. -/
structure RecordedRequests (ρ : Type) where
  recording : Bool
  requests : List ρ

variable {ρ : Type}

/-- One step. -/
def RecordedRequests.step (s : RecordedRequests ρ) : RecordAction ρ → RecordedRequests ρ
  | .request r => if s.recording then { s with requests := s.requests ++ [r] } else s
  | .setRecordingLogs recording => { s with recording := recording }
  | .clearLogs => { s with requests := [] }

/-- The history of some actions. -/
def recordedRequests (as : List (RecordAction ρ)) : RecordedRequests ρ :=
  as.foldl RecordedRequests.step ⟨false, []⟩

/-- A state that follows the history in each step follows it in a run. -/
theorem recordedRequests_induction {σ : Type} (step : σ → RecordAction ρ → σ) (start : σ)
    {R : σ → RecordedRequests ρ → Prop} (hstep : ∀ s h a, R s h → R (step s a) (h.step a))
    (hstart : R start ⟨false, []⟩) (as : List (RecordAction ρ)) :
    R (as.foldl step start) (recordedRequests as) := by
  induction as using List.reverseRecOn with
  | nil => exact hstart
  | append_singleton as a ih =>
    rw [recordedRequests, List.foldl_concat, List.foldl_concat]
    exact hstep _ _ a ih

/-! ### The VPN -/

/-- The fields of `VpnModel` for the logs. -/
structure VpnLogs where
  logs : LinkedSet String
  recordingLogs : Bool

namespace VpnLogs

/-- The constructor of `VpnModel`. -/
def start : VpnLogs := ⟨LinkedSet.empty, false⟩

/-- The logs in a query: `DnsPacketProxy.getHostEntry` asks `VpnModel.getEntry` for the name in lower
case. -/
def step (s : VpnLogs) : RecordAction String → VpnLogs
  | .request dnsQueryName =>
    if s.recordingLogs then { s with logs := s.logs.add (toLowerCase dnsQueryName) } else s
  | .setRecordingLogs recording => { s with recordingLogs := recording }
  | .clearLogs => { s with logs := LinkedSet.empty }

/-- `VpnModel.getLogs`. -/
def getLogs (s : VpnLogs) : List String := s.logs.elements

end VpnLogs

/-- **The logs of the VPN** are the names asked for, each once, in the order of the first requests. -/
theorem getLogs_vpn (as : List (RecordAction String)) :
    (as.foldl VpnLogs.step VpnLogs.start).getLogs
      = (LinkedSet.ofList ((recordedRequests as).requests.map toLowerCase)).elements := by
  have hrun := recordedRequests_induction VpnLogs.step VpnLogs.start
    (R := fun s h => s.recordingLogs = h.recording ∧
      s.logs = LinkedSet.ofList (h.requests.map toLowerCase)) ?_ ⟨rfl, rfl⟩ as
  · rw [VpnLogs.getLogs, hrun.2]
  · rintro s h a ⟨hrecording, hlogs⟩
    cases a with
    | request dnsQueryName =>
      rw [VpnLogs.step, RecordedRequests.step, hrecording]
      split
      · exact ⟨rfl, by rw [List.map_append, List.map_singleton, LinkedSet.ofList_concat, hlogs]⟩
      · exact ⟨hrecording, hlogs⟩
    | setRecordingLogs recording => exact ⟨rfl, hlogs⟩
    | clearLogs => exact ⟨hrecording, rfl⟩

/-! ### The file -/

/-- A packet to port 53, as tcpdump prints it. -/
structure PrintedPacket where
  /-- The line of the IP header. -/
  header : String
  /-- The addresses in front of the message. -/
  front : String
  /-- What is captured of the message. -/
  capture : List UInt8
  /-- The length of the message. -/
  length : ℕ

/-- The name asked for, for a query that the pattern finds. -/
def DnsQueryMessage.loggedName (m : DnsQueryMessage) : Option String :=
  if m.class' = 1 ∧ m.type.toNat ∈ loggedTypes ∧ m.labels ≠ [] then
    some (String.ofList (hostnameOf m.labels))
  else none

namespace PrintedPacket

/-- The lines of the packet. -/
def lines (response : DnsHeader → Printer Unit) (packet : PrintedPacket) : List String :=
  [packet.header, packet.front ++ String.ofList
    (match nsPrint response packet.length packet.capture with
      | .ok ((), line) => line
      | .error _ => [])]

/-- The packet is a query with plain labels, and no question mark stands in front of it; or it is
none, and has no question mark at all. -/
def Asks (response : DnsHeader → Printer Unit) (packet : PrintedPacket) :
    Option DnsQueryMessage → Prop
  | some m => (∀ label ∈ m.labels, IsPlainLabel label) ∧ (∃ back, packet.capture = m.encode ++ back) ∧
      '?' ∉ packet.header.toList ∧ '?' ∉ packet.front.toList
  | none => ∀ line ∈ packet.lines response, '?' ∉ line.toList

theorem getTcpdumpHostname_eq_none {line : String} (h : '?' ∉ line.toList) :
    getTcpdumpHostname line = none := by
  rw [getTcpdumpHostname, search_eq_none_of_unmarked h]

/-- What is found in the lines of the packet. -/
theorem filterMap_lines {response : DnsHeader → Printer Unit} {packet : PrintedPacket}
    {message : Option DnsQueryMessage} (h : packet.Asks response message) :
    (packet.lines response).filterMap getTcpdumpHostname
      = (message.bind DnsQueryMessage.loggedName).toList := by
  cases message with
  | none =>
    rw [Option.bind_none, Option.toList_none, List.filterMap_eq_nil_iff]
    exact fun line hline => getTcpdumpHostname_eq_none (h line hline)
  | some m =>
    obtain ⟨hplain, ⟨back, hcapture⟩, hheader, hfront⟩ := h
    have hprinted := m.prints_nsPrint response packet.length back
    have hline := getTcpdumpHostname_line m hplain hfront packet.length
    rw [lines, hcapture, hprinted, List.filterMap_cons_none (getTcpdumpHostname_eq_none hheader)]
    dsimp only
    rw [Option.bind_some, DnsQueryMessage.loggedName, ← hline]
    cases hname : getTcpdumpHostname (packet.front ++ String.ofList (m.line packet.length)) with
    | none =>
      rw [List.filterMap_cons_none hname]
      rfl
    | some name =>
      rw [List.filterMap_cons_some hname]
      rfl

/-- What is found in the lines of some packets. -/
theorem flatMap_lines {response : DnsHeader → Printer Unit} {packets : List PrintedPacket}
    {messages : List (Option DnsQueryMessage)} (h : List.Forall₂ (Asks response) packets messages) :
    (packets.flatMap fun packet => (packet.lines response).filterMap getTcpdumpHostname)
      = messages.filterMap fun message => message.bind DnsQueryMessage.loggedName := by
  induction h with
  | nil => rfl
  | @cons packet message packets messages hpacket _ ih =>
    rw [List.flatMap_cons, filterMap_lines hpacket, ih, List.filterMap_cons]
    cases message.bind DnsQueryMessage.loggedName <;> rfl

end PrintedPacket

/-- The tcpdump process and its log file. -/
structure TcpdumpLog where
  running : Bool
  lines : List String

namespace TcpdumpLog

/-- No process and an empty file. -/
def start : TcpdumpLog := ⟨false, []⟩

/-- A packet is printed, `RootModel.setRecordingLogs` and `RootModel.clearLogs`. -/
def step (response : DnsHeader → Printer Unit) (s : TcpdumpLog) :
    RecordAction PrintedPacket → TcpdumpLog
  | .request packet =>
    if s.running then { s with lines := s.lines ++ packet.lines response } else s
  | .setRecordingLogs recording => { s with running := recording }
  | .clearLogs => { s with lines := [] }

end TcpdumpLog

/-- The lines in the file are those of the packets printed while recording, since it was cleared. -/
theorem filterMap_tcpdumpLog (response : DnsHeader → Printer Unit)
    (as : List (RecordAction PrintedPacket)) :
    (as.foldl (TcpdumpLog.step response) TcpdumpLog.start).lines.filterMap getTcpdumpHostname
      = (recordedRequests as).requests.flatMap fun packet =>
        (packet.lines response).filterMap getTcpdumpHostname := by
  have hrun := recordedRequests_induction (TcpdumpLog.step response) TcpdumpLog.start
    (R := fun s h => s.running = h.recording ∧
      s.lines.filterMap getTcpdumpHostname = h.requests.flatMap fun packet =>
        (packet.lines response).filterMap getTcpdumpHostname) ?_ ⟨rfl, rfl⟩ as
  · exact hrun.2
  · rintro s h a ⟨hrunning, hlines⟩
    cases a with
    | request packet =>
      rw [TcpdumpLog.step, RecordedRequests.step, hrunning]
      split
      · refine ⟨rfl, ?_⟩
        rw [List.filterMap_append, hlines, List.flatMap_append, List.flatMap_singleton]
      · exact ⟨hrunning, hlines⟩
    | setRecordingLogs recording => exact ⟨rfl, hlines⟩
    | clearLogs => exact ⟨hrunning, rfl⟩

/-- **The logs of the root method**: if each packet recorded is a query with plain labels or has no
question mark, they are the names asked for in the queries that the pattern finds, each once, in the
order of the first requests. -/
theorem getLogs_root (response : DnsHeader → Printer Unit) (as : List (RecordAction PrintedPacket))
    {messages : List (Option DnsQueryMessage)}
    (hasks : List.Forall₂ (PrintedPacket.Asks response) (recordedRequests as).requests messages) :
    getLogs (as.foldl (TcpdumpLog.step response) TcpdumpLog.start).lines =
      (LinkedSet.ofList
        (messages.filterMap fun message => message.bind DnsQueryMessage.loggedName)).elements := by
  rw [getLogs, filterMap_tcpdumpLog, PrintedPacket.flatMap_lines hasks]

/-- A packet with a query about `ads.example`. -/
def adsPacket (type : UInt16) : PrintedPacket where
  header := "IP (tos 0x0, ttl 64, id 0, offset 0, flags [DF], proto UDP (17), length 57)"
  front := "    localhost.40000 > dns.domain: "
  capture := (adsQueryMessage type).encode
  length := 29

/-- A packet with a response, of which the header was captured. -/
def responsePacket : PrintedPacket :=
  { adsPacket 1 with capture := [0x12, 0x34, 0x84, 0x80, 0, 0, 0, 0, 0, 0, 0, 0] }

theorem asks_adsPacket (response : DnsHeader → Printer Unit) (type : UInt16) :
    (adsPacket type).Asks response (some (adsQueryMessage type)) :=
  ⟨isPlain_adsQueryMessage type, ⟨[], (List.append_nil _).symm⟩,
    by dsimp only [adsPacket]; decide, by dsimp only [adsPacket]; decide⟩

/-- Recording is started, cleared, stopped and started again; the query for a `TXT` record is not
found, and what goes on while it is stopped is not printed. -/
def recordedActions : List (RecordAction PrintedPacket) :=
  [.request (adsPacket 1), .setRecordingLogs true, .request (adsPacket 1), .clearLogs,
    .request (adsPacket 16), .request responsePacket, .request (adsPacket 28),
    .setRecordingLogs false, .request (adsPacket 1), .setRecordingLogs true, .request (adsPacket 1)]

theorem getLogs_root_recordedActions :
    getLogs (recordedActions.foldl (TcpdumpLog.step fun _ => trunc) TcpdumpLog.start).lines
      = ["ads.example"] := by
  have hresponse : responsePacket.Asks (fun _ => trunc) none := by
    intro line hline
    rw [PrintedPacket.lines, List.mem_cons, List.mem_singleton] at hline
    rcases hline with rfl | rfl
    · decide
    · decide
  have hasks : List.Forall₂ (PrintedPacket.Asks fun _ => trunc)
      (recordedRequests recordedActions).requests
      [some (adsQueryMessage 16), none, some (adsQueryMessage 28), some (adsQueryMessage 1)] :=
    .cons (asks_adsPacket _ 16) (.cons hresponse (.cons (asks_adsPacket _ 28)
      (.cons (asks_adsPacket _ 1) .nil)))
  rw [getLogs_root _ _ hasks]
  rfl

end AdAway
