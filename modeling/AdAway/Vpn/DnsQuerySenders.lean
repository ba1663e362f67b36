import AdAway.Vpn.DnsQueryRuns

/-!
# Who may answer a query

The socket of a query is not connected, `receive` takes a datagram from any address, and neither
`DnsQuery` nor the callback looks at where it comes from. So the first datagram that arrives on the
socket of a pending query answers it, be it from the DNS server or not.

That no part of the program looks at a sender is stated for whole runs: `DnsQueryQueue.map` renames
the addresses in a queue, renaming commutes with every step, and two runs that differ in addresses
only therefore give the same packets to the device.

## Main definitions

* `DnsQueryQueue.map`, `QueueAction.map` — other senders and servers
* `relayed` — what the callbacks hand over for the device

## Main results

* `stepQueue_map` — a step does not look at the addresses
* `answers_first_datagram` — which datagrams are relayed
-/

namespace AdAway

variable {κ α β : Type}

/-! ### Renaming addresses -/

/-- The same data from another address. -/
def Datagram.map (f : α → β) (d : Datagram α) : Datagram β := ⟨f d.sender, d.data⟩

/-- The same query to another address. -/
def SentQuery.map (f : α → β) (q : SentQuery κ α) : SentQuery κ β :=
  ⟨q.socket, q.callback, f q.server⟩

def DnsQuery.map (f : α → β) (q : DnsQuery κ α) : DnsQuery κ β :=
  ⟨q.toSentQuery.map f, q.pollIn, q.time⟩

def Answer.map (f : α → β) (a : Answer κ α) : Answer κ β :=
  ⟨a.query.map f, a.datagram.map f, a.responseData⟩

def DatagramSocket.map (f : α → β) (s : DatagramSocket α) : DatagramSocket β :=
  ⟨s.closed, s.buffer.map (Datagram.map f)⟩

def QueryHistory.map (f : α → β) (h : QueryHistory κ α) : QueryHistory κ β where
  sockets := fun n => (h.sockets n).map f
  created := h.created
  arrivals := h.arrivals.map fun p => (p.1, p.2.map f)
  passed := h.passed.map (SentQuery.map f)
  dropped := h.dropped.map (SentQuery.map f)
  abandoned := h.abandoned.map (SentQuery.map f)
  answers := h.answers.map (Answer.map f)
  clock := h.clock

/-- The queue with other senders and servers. -/
def DnsQueryQueue.map (f : α → β) (s : DnsQueryQueue κ α) : DnsQueryQueue κ β :=
  ⟨s.queries.map (DnsQuery.map f), s.history.map f⟩

/-- The action with another sender or server. -/
def QueueAction.map (f : α → β) : QueueAction κ α → QueueAction κ β
  | .forwardPacket server callback outcome => .forwardPacket (f server) callback outcome
  | .arrive socket datagram => .arrive socket (datagram.map f)
  | .poll ready => .poll ready
  | .handleResponses outcome => .handleResponses outcome

/-! ### The methods do not look at addresses -/

theorem QueryHistory.setSocket_map (f : α → β) (h : QueryHistory κ α) (n : ℕ)
    (state : DatagramSocket α) :
    (h.map f).setSocket n (state.map f) = (h.setSocket n state).map f := by
  have hsockets : Function.update (fun k => (h.sockets k).map f) n (state.map f)
      = fun k => (Function.update h.sockets n state k).map f := by
    funext k
    by_cases heq : k = n
    · simp [heq]
    · simp [heq]
  exact congrArg (fun sockets => { h.map f with sockets := sockets }) hsockets

theorem QueryHistory.close_map (f : α → β) (h : QueryHistory κ α) (n : ℕ) :
    (h.map f).close n = (h.close n).map f :=
  h.setSocket_map f n { h.sockets n with closed := true }

theorem QueryHistory.drop_map (f : α → β) (h : QueryHistory κ α) (q : SentQuery κ α) :
    (h.map f).drop (q.map f) = (h.drop q).map f := by
  refine QueryHistory.ext ?_ rfl rfl rfl ?_ rfl rfl rfl
  · have hclose := congrArg sockets (h.close_map f q.socket)
    exact hclose
  · simp [drop, map]

theorem DnsQuery.handleResponse_map (f : α → β) (q : DnsQuery κ α) (outcome : ResponseOutcome)
    (h : QueryHistory κ α) :
    (q.map f).handleResponse outcome (h.map f)
      = (q.handleResponse outcome h).map fun h => h.map f := by
  rw [handleResponse, handleResponse]
  split
  next =>
    rw [Option.map_some, ← QueryHistory.close_map]
    rfl
  next =>
    have hbuffer : ((h.map f).sockets (q.map f).socket).buffer
        = (h.sockets q.socket).buffer.map (Datagram.map f) := rfl
    rw [hbuffer]
    cases (h.sockets q.socket).buffer with
    | nil => rfl
    | cons datagram rest =>
      have hsocket :
          ((h.map f).setSocket q.socket ⟨false, rest.map (Datagram.map f)⟩).close q.socket
            = ((h.setSocket q.socket ⟨false, rest⟩).close q.socket).map f := by
        rw [← QueryHistory.close_map, ← QueryHistory.setSocket_map]
        rfl
      refine congrArg some (QueryHistory.ext ?_ rfl rfl rfl rfl rfl ?_ rfl)
      · have hsockets := congrArg QueryHistory.sockets hsocket
        exact hsockets
      · simp [QueryHistory.map, Answer.map, Datagram.map, DnsQuery.map]

theorem clearTimedOutQueries_map (f : α → β) (now : ℤ) (h : QueryHistory κ α)
    (queries : List (DnsQuery κ α)) :
    clearTimedOutQueries now (h.map f) (queries.map (DnsQuery.map f))
      = ((clearTimedOutQueries now h queries).1.map (DnsQuery.map f),
        (clearTimedOutQueries now h queries).2.map f) := by
  induction queries generalizing h with
  | nil => rfl
  | cons q queries ih =>
    rw [List.map_cons, clearTimedOutQueries, clearTimedOutQueries]
    have hold : (q.map f).isOlderThan (now - dnsTimeoutSec) = q.isOlderThan (now - dnsTimeoutSec) :=
      rfl
    rw [hold]
    split
    next =>
      rw [show (q.map f).toSentQuery = q.toSentQuery.map f from rfl, QueryHistory.drop_map]
      exact ih _
    next => rfl

theorem ensureFreeSpace_map (f : α → β) (h : QueryHistory κ α) (queries : List (DnsQuery κ α)) :
    ensureFreeSpace (h.map f) (queries.map (DnsQuery.map f))
      = ((ensureFreeSpace h queries).1.map (DnsQuery.map f),
        (ensureFreeSpace h queries).2.map f) := by
  rw [ensureFreeSpace.eq_def, ensureFreeSpace.eq_def, List.length_map]
  split
  next =>
    cases queries with
    | nil => rfl
    | cons q queries =>
      show (queries.map (DnsQuery.map f), (h.map f).drop (q.toSentQuery.map f)) = _
      rw [QueryHistory.drop_map]
  next => rfl

theorem addQuery_map (f : α → β) (query : SentQuery κ α) (now created : ℤ)
    (constructorThrows : Bool) (queries : List (DnsQuery κ α)) (h : QueryHistory κ α) :
    addQuery (query.map f) now created constructorThrows (queries.map (DnsQuery.map f)) (h.map f)
      = ((addQuery query now created constructorThrows queries h).1.map (DnsQuery.map f),
        (addQuery query now created constructorThrows queries h).2.map f) := by
  simp only [addQuery, clearTimedOutQueries_map, ensureFreeSpace_map]
  cases constructorThrows <;> simp [QueryHistory.map, DnsQuery.map]

theorem handleResponses_map (f : α → β) (outcome : ℕ → ResponseOutcome)
    (queries : List (DnsQuery κ α)) (h : QueryHistory κ α) :
    handleResponses outcome (queries.map (DnsQuery.map f)) (h.map f)
      = (handleResponses outcome queries h).map fun r => (r.1.map (DnsQuery.map f), r.2.map f) := by
  induction queries generalizing h with
  | nil => rfl
  | cons q queries ih =>
    rw [List.map_cons, handleResponses, handleResponses]
    have hanswered : (q.map f).isAnswered = q.isAnswered := rfl
    have hsocket : (q.map f).socket = q.socket := rfl
    rw [hanswered, hsocket, DnsQuery.handleResponse_map]
    split
    next =>
      cases q.handleResponse (outcome q.socket) h with
      | none => rfl
      | some h' =>
        rw [Option.map_some, Option.bind_some, Option.bind_some]
        split
        next => rfl
        next => exact ih h'
    next =>
      rw [ih, Option.map_map, Option.map_map]
      rfl

/-- **A step does not look at the addresses.** -/
theorem stepQueue_map (f : α → β) (s : DnsQueryQueue κ α) (a : QueueAction κ α) :
    stepQueue (s.map f) (a.map f) = (stepQueue s a).map fun s => s.map f := by
  cases a with
  | forwardPacket server callback outcome =>
    let query : SentQuery κ α := ⟨s.history.created, callback, server⟩
    let history := { s.history with created := s.history.created + 1 }
    have hadded : ∀ (now created : ℤ) (constructorThrows : Bool),
        some (⟨(addQuery (query.map f) now created constructorThrows
            (s.queries.map (DnsQuery.map f)) (history.map f)).1,
          (addQuery (query.map f) now created constructorThrows
            (s.queries.map (DnsQuery.map f)) (history.map f)).2⟩ : DnsQueryQueue κ β)
        = (some (⟨(addQuery query now created constructorThrows s.queries history).1,
            (addQuery query now created constructorThrows s.queries history).2⟩ :
              DnsQueryQueue κ α)).map fun s => s.map f := by
      intro now created constructorThrows
      rw [addQuery_map]
      rfl
    cases outcome with
    | noSocket => rfl
    | notSent =>
      show some (⟨s.queries.map (DnsQuery.map f),
        ({ s.history with created := s.history.created + 1 }.map f).close s.history.created⟩ :
          DnsQueryQueue κ β) = _
      rw [QueryHistory.close_map]
      rfl
    | notAdded now created =>
      exact hadded now created true
    | sent now created =>
      exact hadded now created false
  | arrive socket datagram =>
    show (if _ then some (⟨_, _⟩ : DnsQueryQueue κ β) else none)
      = (if _ then some _ else none).map _
    by_cases hopen : socket < s.history.created ∧ (s.history.sockets socket).closed = false
    · rw [if_pos hopen, if_pos (by exact hopen), Option.map_some]
      refine congrArg (fun history => some (⟨s.queries.map (DnsQuery.map f), history⟩ :
        DnsQueryQueue κ β)) (QueryHistory.ext ?_ rfl ?_ rfl rfl rfl rfl rfl)
      · have hsocket := congrArg QueryHistory.sockets (s.history.setSocket_map f socket
          ⟨false, (s.history.sockets socket).buffer ++ [datagram]⟩)
        rw [DatagramSocket.map, List.map_append] at hsocket
        exact hsocket
      · simp [QueryHistory.map, DnsQueryQueue.map]
    · rw [if_neg hopen, if_neg (by exact hopen)]
      rfl
  | poll ready =>
    show some (⟨pollQueryFds ready (s.queries.map (DnsQuery.map f)), s.history.map f⟩ :
      DnsQueryQueue κ β) = _
    rw [pollQueryFds, List.map_map]
    simp [stepQueue, DnsQueryQueue.map, pollQueryFds, DnsQuery.map, SentQuery.map,
      Function.comp_def]
  | handleResponses outcome =>
    show (handleResponses outcome (s.queries.map (DnsQuery.map f)) (s.history.map f)).map _ = _
    rw [handleResponses_map, Option.map_map]
    simp [stepQueue, Option.map_map, Function.comp_def, DnsQueryQueue.map]

/-! ### Which datagrams are relayed -/

variable {IpPacket UdpPacket : Type} (pcap : Pcap4j IpPacket UdpPacket)

/-- What the callbacks have handed over for the device, each that of `handleDnsRequest` for its
request packet. -/
def relayed (s : DnsQueryQueue IpPacket α) : List (EventLoopCall IpPacket) :=
  s.history.answers.flatMap fun a => handleDnsResponse pcap a.query.callback a.responseData

theorem relayed_map (f : α → β) (s : DnsQueryQueue IpPacket α) :
    relayed pcap (s.map f) = relayed pcap s := by
  rw [relayed, relayed]
  show (s.history.answers.map (Answer.map f)).flatMap _ = _
  rw [List.flatMap_map]
  rfl

/-- Two runs whose actions differ in addresses only give the same packets to the device, and leave
the same queries pending. -/
theorem relayed_eq_of_map_eq {f : α → β} {clock : ℤ} {as as' : List (QueueAction IpPacket α)}
    (hsame : as'.map (QueueAction.map f) = as.map (QueueAction.map f))
    {s : DnsQueryQueue IpPacket α} (h : ActionSystem.run stepQueue (startQueue clock) as = some s) :
    ∃ s', ActionSystem.run stepQueue (startQueue clock) as' = some s' ∧
      relayed pcap s' = relayed pcap s ∧
      (s'.queries.map fun q => q.socket) = s.queries.map fun q => q.socket := by
  have hrun := ActionSystem.run_map (stepQueue_map f) (startQueue clock) as
  have hrun' := ActionSystem.run_map (stepQueue_map f) (startQueue clock) as'
  rw [hsame, hrun, h, Option.map_some] at hrun'
  obtain ⟨s', hs', heq⟩ := Option.map_eq_some_iff.mp hrun'.symm
  refine ⟨s', hs', ?_, ?_⟩
  · rw [← relayed_map pcap f, heq, relayed_map]
  · have hqueries := congrArg (fun s => s.queries.map fun q => q.socket) heq
    simpa [DnsQueryQueue.map, DnsQuery.map, SentQuery.map, Function.comp_def] using hqueries

/-- **The first datagram answers a query.** In every state of a run: what the callbacks have handed
over is the response to each answered query, made of the first datagram that has arrived on the
socket of the query; no query is answered twice, and no answered one is pending. When the responses
are handled and no callback throws, a query that is ready and whose datagram is received is answered
so and no longer pending. And who has sent the datagrams changes nothing: a run that differs in
addresses only gives the device the same packets and leaves the same queries pending. -/
theorem answers_first_datagram {clock : ℤ} {as : List (QueueAction IpPacket α)}
    {s : DnsQueryQueue IpPacket α}
    (h : ActionSystem.run stepQueue (startQueue clock) as = some s) :
    (relayed pcap s = s.history.answers.flatMap fun a =>
      handleResponse pcap a.query.callback (some a.datagram.data)) ∧
    (s.history.answers.map fun a => a.query.socket).Nodup ∧
    (∀ a ∈ s.history.answers, (s.history.arrivedOn a.query.socket).head? = some a.datagram ∧
      a.query.socket ∉ s.queries.map fun q => q.socket) ∧
    (∀ outcome t, (∀ q ∈ s.queries, outcome q.socket ≠ .callbackThrows) →
      stepQueue s (.handleResponses outcome) = some t →
      ∀ q ∈ s.queries, q.isAnswered = true → outcome q.socket = .handled →
        (q.socket ∉ t.queries.map fun q => q.socket) ∧
        ∃ a ∈ t.history.answers, a.query = q.toSentQuery ∧
          (s.history.arrivedOn q.socket).head? = some a.datagram) ∧
    ∀ as' : List (QueueAction IpPacket α),
      (as'.map (QueueAction.map fun _ => ())) = as.map (QueueAction.map fun _ => ()) →
      ∃ s', ActionSystem.run stepQueue (startQueue clock) as' = some s' ∧
        relayed pcap s' = relayed pcap s ∧
        (s'.queries.map fun q => q.socket) = s.queries.map fun q => q.socket := by
  have hcustody := custody_run h
  refine ⟨?_, hcustody.answers_nodup, fun a ha => ⟨(hcustody.answer a ha).1, ?_⟩, ?_,
    fun as' hsame => relayed_eq_of_map_eq pcap hsame h⟩
  · refine List.flatMap_congr fun a ha => ?_
    rw [(hcustody.answer a ha).2]
    rfl
  · exact hcustody.not_pending ha
  · intro outcome t hno hstep q hq hready hhandled
    have hcustody' := custody_step hcustody hstep
    obtain ⟨r, hr, rfl⟩ := Option.map_eq_some_iff.mp hstep
    obtain ⟨-, harrivals, -, hanswered⟩ := handleResponses_frame hr
    obtain ⟨a, ha, heq⟩ := hanswered hno q hq hready hhandled
    have hsocket : a.query.socket = q.socket := by rw [heq]
    refine ⟨hsocket ▸ hcustody'.not_pending ha, a, ha, heq, ?_⟩
    have hfirst := (hcustody'.answer a ha).1
    rw [QueryHistory.arrivedOn, harrivals, hsocket] at hfirst
    exact hfirst

/-- A query to the server `1`, to which a datagram from `sender` comes first. -/
def answeredFrom (sender : ℕ) : List (QueueAction Ipv4Udp ℕ) :=
  [.forwardPacket 1 adsQuery.ipPacket (.sent 0 0), .arrive 0 ⟨sender, [7]⟩, .arrive 0 ⟨1, [8]⟩,
    .poll fun _ => true, .handleResponses fun _ => .handled]

theorem answers_first_datagram_answeredFrom : ∃ s,
    ActionSystem.run stepQueue (startQueue 0) (answeredFrom 2) = some s ∧
    relayed ipv4Pcap s = handleResponse ipv4Pcap adsQuery.ipPacket (some [7]) ∧
    ∃ s', ActionSystem.run stepQueue (startQueue 0) (answeredFrom 1) = some s' ∧
      relayed ipv4Pcap s' = relayed ipv4Pcap s := by
  obtain ⟨s, hs⟩ : ∃ s, ActionSystem.run stepQueue (startQueue 0) (answeredFrom 2) = some s :=
    ⟨_, rfl⟩
  obtain ⟨hrelayed, -, -, -, hsame⟩ := answers_first_datagram ipv4Pcap hs
  obtain ⟨s', hs', heq, -⟩ := hsame (answeredFrom 1) rfl
  refine ⟨s, hs, ?_, s', hs', heq⟩
  rw [hrelayed]
  obtain rfl := Option.some.inj hs
  rfl

/-- A datagram that does not come from the server answers the query. -/
theorem not_answers_from_server :
    ¬ ∀ (as : List (QueueAction Ipv4Udp ℕ)) s,
      ActionSystem.run stepQueue (startQueue 0) as = some s →
      ∀ a ∈ s.history.answers, a.datagram.sender = a.query.server := by
  intro h
  have hserver := h (answeredFrom 2) _ rfl
    ⟨⟨0, adsQuery.ipPacket, 1⟩, ⟨2, [7]⟩, receive (List.replicate responseSize 0) [7]⟩
    List.mem_cons_self
  exact absurd hserver (by decide)

end AdAway
