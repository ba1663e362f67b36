import AdAway.Library.ActionSystem
import AdAway.Vpn.DnsQuery

/-!
# The queries that wait for a response

`VpnWorker.forwardPacket` sends a request over a socket of its own and puts the socket with a
callback into the `DnsQueryQueue`. Before each new query the queue drops those that have waited for
too long, from its head, and the oldest one when there are too many; `handleResponses` goes through
the queue and answers the queries whose socket has data. Whichever way a query leaves the queue, its
socket is closed.

## Time and sockets

The clock is read in milliseconds, once to drop queries and once to create the new one, and the
queue keeps whole seconds. What the poll reports, which datagrams arrive from whom, and whether
`receive` and the callback throw, is left open. `receive` waits for a datagram, so a query that is
reported ready has no next step while there is none.

## What is recorded

`QueryHistory` holds the sockets. It also records the arrivals, the queries passed in, those
dropped or abandoned and the answers given, which the program does not; no step looks at these.

## Main definitions

* `DnsQuery`, `SentQuery`, `Answer` — a pending query, what it was created with, a callback call
* `clearTimedOutQueries`, `ensureFreeSpace`, `addQuery`, `handleResponses` — the methods
* `DnsQueryQueue`, `stepQueue` — the queue with its history, and the steps of the event loop

## Main results

* `handleResponse_cases`, `handleResponses_cons_cases` — what handling the responses can do
* `addQuery_fst`, `sublist_handleResponses` — the queue after a method
* `size_bounded_iff` — when the queue stays within its maximum
-/

namespace AdAway

/-! ### Queries -/

/-- `DnsQueryQueue.DNS_MAXIMUM_WAITING`. -/
def dnsMaximumWaiting : ℕ := 1024

/-- `DnsQueryQueue.DNS_TIMEOUT_SEC`. -/
def dnsTimeoutSec : ℤ := 10

/-- A datagram with the address and port it comes from. -/
structure Datagram (α : Type) where
  sender : α
  data : List UInt8
  deriving DecidableEq, Repr

/-- What `forwardPacket` has sent: the number of the socket, the callback, and the address and port
of the DNS server. -/
structure SentQuery (κ α : Type) where
  socket : ℕ
  callback : κ
  server : α
  deriving DecidableEq, Repr

/-- A `DnsQuery`. -/
structure DnsQuery (κ α : Type) extends SentQuery κ α where
  /-- `pollfd.revents` has `POLLIN`. -/
  pollIn : Bool
  /-- The creation time in seconds. -/
  time : ℤ
  deriving DecidableEq, Repr

/-- A call of a callback. -/
structure Answer (κ α : Type) where
  query : SentQuery κ α
  /-- The datagram received. -/
  datagram : Datagram α
  /-- The argument of the callback. -/
  responseData : List UInt8
  deriving DecidableEq, Repr

/-- A `DatagramSocket`. -/
structure DatagramSocket (α : Type) where
  closed : Bool
  /-- The datagrams to receive. -/
  buffer : List (Datagram α)
  deriving DecidableEq, Repr

/-- The sockets, and what has happened to the queries. -/
@[ext] structure QueryHistory (κ α : Type) where
  sockets : ℕ → DatagramSocket α
  /-- How many sockets there are. -/
  created : ℕ
  /-- The datagrams that have arrived, with the socket. -/
  arrivals : List (ℕ × Datagram α)
  /-- The queries passed to `addQuery`, and added. -/
  passed : List (SentQuery κ α)
  /-- The queries dropped by time-out or for space. -/
  dropped : List (SentQuery κ α)
  /-- The queries passed to `addQuery` for which the constructor of `DnsQuery` has thrown. -/
  abandoned : List (SentQuery κ α)
  answers : List (Answer κ α)
  /-- The last reading of the clock. -/
  clock : ℤ

variable {κ α : Type}

namespace DnsQuery

/-- `DnsQuery.isOlderThan`. -/
def isOlderThan (q : DnsQuery κ α) (timestamp : ℤ) : Bool := q.time < timestamp

theorem isOlderThan_eq_false_iff {q : DnsQuery κ α} {timestamp : ℤ} :
    q.isOlderThan timestamp = false ↔ timestamp ≤ q.time := by
  simp [isOlderThan]

/-- `DnsQuery.isAnswered`. -/
def isAnswered (q : DnsQuery κ α) : Bool := q.pollIn

end DnsQuery

namespace QueryHistory

/-- A socket changes. -/
def setSocket (h : QueryHistory κ α) (socket : ℕ) (state : DatagramSocket α) : QueryHistory κ α :=
  { h with sockets := Function.update h.sockets socket state }

/-- `DatagramSocket.close`. -/
def close (h : QueryHistory κ α) (socket : ℕ) : QueryHistory κ α :=
  h.setSocket socket { h.sockets socket with closed := true }

@[simp] theorem sockets_setSocket_self (h : QueryHistory κ α) (n : ℕ) (state : DatagramSocket α) :
    (h.setSocket n state).sockets n = state := by simp [setSocket]

theorem sockets_setSocket_of_ne (h : QueryHistory κ α) {n k : ℕ} (hne : k ≠ n)
    (state : DatagramSocket α) : (h.setSocket n state).sockets k = h.sockets k := by
  simp [setSocket, hne]

@[simp] theorem closed_close_self (h : QueryHistory κ α) (n : ℕ) :
    ((h.close n).sockets n).closed = true := by simp [close]

theorem sockets_close_of_ne (h : QueryHistory κ α) {n k : ℕ} (hne : k ≠ n) :
    (h.close n).sockets k = h.sockets k := h.sockets_setSocket_of_ne hne _

/-- Closes a query that is removed without an answer. -/
def drop (h : QueryHistory κ α) (q : SentQuery κ α) : QueryHistory κ α :=
  { h.close q.socket with dropped := h.dropped ++ [q] }

end QueryHistory

/-- What happens when a query is handled. -/
inductive ResponseOutcome
  /-- `receive` throws. -/
  | ioException
  /-- `receive` and the callback return. -/
  | handled
  /-- `receive` returns and the callback throws. -/
  | callbackThrows
  deriving DecidableEq, Repr

/-- `DnsQuery.handleResponse`; `none` while `receive` waits for a datagram. -/
def DnsQuery.handleResponse (q : DnsQuery κ α) (outcome : ResponseOutcome)
    (h : QueryHistory κ α) : Option (QueryHistory κ α) :=
  if outcome = .ioException then some (h.close q.socket)
  else
    match (h.sockets q.socket).buffer with
    | [] => none
    | datagram :: buffer =>
      let responseData := receive (List.replicate responseSize 0) datagram.data
      some { (h.setSocket q.socket ⟨false, buffer⟩).close q.socket with
        answers := h.answers ++ [⟨q.toSentQuery, datagram, responseData⟩] }

/-! ### The methods of the queue -/

/-- `DnsQueryQueue.clearTimedOutQueries`: the queries left. -/
def clearTimedOutQueries (now : ℤ) (h : QueryHistory κ α) :
    List (DnsQuery κ α) → List (DnsQuery κ α) × QueryHistory κ α
  | [] => ([], h)
  | timedOutQuery :: queries =>
    if timedOutQuery.isOlderThan (now - dnsTimeoutSec) then
      clearTimedOutQueries now (h.drop timedOutQuery.toSentQuery) queries
    else (timedOutQuery :: queries, h)

/-- `DnsQueryQueue.ensureFreeSpace`. -/
def ensureFreeSpace (h : QueryHistory κ α) (queries : List (DnsQuery κ α)) :
    List (DnsQuery κ α) × QueryHistory κ α :=
  if queries.length > dnsMaximumWaiting then
    match queries with
    | [] => ([], h)
    | oldestQuery :: queries => (queries, h.drop oldestQuery.toSentQuery)
  else (queries, h)

/-- `DnsQueryQueue.addQuery`, with the two readings of the clock. The constructor of `DnsQuery` makes
the second one, and throws if it gets no file descriptor for the socket. -/
def addQuery (query : SentQuery κ α) (now created : ℤ) (constructorThrows : Bool)
    (queries : List (DnsQuery κ α)) (h : QueryHistory κ α) :
    List (DnsQuery κ α) × QueryHistory κ α :=
  let cleared := clearTimedOutQueries (now.tdiv 1000) h queries
  let free := ensureFreeSpace cleared.2 cleared.1
  if constructorThrows then
    (free.1,
      { free.2 with
        abandoned := free.2.abandoned ++ [query]
        clock := created })
  else
    (free.1 ++ [⟨query, false, created.tdiv 1000⟩],
      { free.2 with
        passed := free.2.passed ++ [query]
        clock := created })

/-- `DnsQueryQueue.handleResponses`. A query is removed before it is handled; an exception of a
callback ends the loop. -/
def handleResponses (outcome : ℕ → ResponseOutcome) :
    List (DnsQuery κ α) → QueryHistory κ α → Option (List (DnsQuery κ α) × QueryHistory κ α)
  | [], h => some ([], h)
  | query :: queries, h =>
    if query.isAnswered then
      (query.handleResponse (outcome query.socket) h).bind fun h =>
        if outcome query.socket = .callbackThrows then some (queries, h)
        else handleResponses outcome queries h
    else (handleResponses outcome queries h).map fun r => (query :: r.1, r.2)

/-- `DnsQueryQueue.getQueryFds`, and the poll that sets `revents` in what it returns. -/
def pollQueryFds (ready : ℕ → Bool) (queries : List (DnsQuery κ α)) : List (DnsQuery κ α) :=
  queries.map fun query => { query with pollIn := ready query.socket }

/-! ### The event loop -/

/-- The queue and its history. -/
structure DnsQueryQueue (κ α : Type) where
  queries : List (DnsQuery κ α)
  history : QueryHistory κ α

/-- What becomes of the socket of `forwardPacket`. -/
inductive ForwardOutcome
  /-- The socket cannot be created. -/
  | noSocket
  /-- The packet cannot be sent. -/
  | notSent
  /-- The packet is sent, and `addQuery` throws after these readings of the clock. -/
  | notAdded (now created : ℤ)
  /-- The query is added, with these readings of the clock. -/
  | sent (now created : ℤ)
  deriving DecidableEq, Repr

/-- What happens next. -/
inductive QueueAction (κ α : Type)
  /-- `VpnWorker.forwardPacket` of a packet to `server`. -/
  | forwardPacket (server : α) (callback : κ) (outcome : ForwardOutcome)
  /-- A datagram arrives. -/
  | arrive (socket : ℕ) (datagram : Datagram α)
  | poll (ready : ℕ → Bool)
  | handleResponses (outcome : ℕ → ResponseOutcome)

/-- One step. -/
def stepQueue (s : DnsQueryQueue κ α) : QueueAction κ α → Option (DnsQueryQueue κ α)
  | .forwardPacket server callback outcome =>
    let dnsSocket := s.history.created
    let history := { s.history with created := dnsSocket + 1 }
    match outcome with
    | .noSocket => some s
    | .notSent => some ⟨s.queries, history.close dnsSocket⟩
    | .notAdded now created =>
      -- `forwardPacket` catches an `IOException` only, so the socket is not closed
      let added := addQuery ⟨dnsSocket, callback, server⟩ now created true s.queries history
      some ⟨added.1, added.2⟩
    | .sent now created =>
      let added := addQuery ⟨dnsSocket, callback, server⟩ now created false s.queries history
      some ⟨added.1, added.2⟩
  | .arrive socket datagram =>
    if socket < s.history.created ∧ (s.history.sockets socket).closed = false then
      some ⟨s.queries,
        { s.history.setSocket socket ⟨false, (s.history.sockets socket).buffer ++ [datagram]⟩ with
          arrivals := s.history.arrivals ++ [(socket, datagram)] }⟩
    else none
  | .poll ready => some ⟨pollQueryFds ready s.queries, s.history⟩
  | .handleResponses outcome =>
    (handleResponses outcome s.queries s.history).map fun r => ⟨r.1, r.2⟩

/-- The constructor of `DnsQueryQueue`, at the time `clock`. -/
def startQueue (clock : ℤ) : DnsQueryQueue κ α where
  queries := []
  history :=
    { sockets := fun _ => ⟨false, []⟩
      created := 0
      arrivals := []
      passed := []
      dropped := []
      abandoned := []
      answers := []
      clock := clock }

/-! ### The size -/

theorem clearTimedOutQueries_fst (now : ℤ) (h : QueryHistory κ α) (queries : List (DnsQuery κ α)) :
    (clearTimedOutQueries now h queries).1
      = queries.dropWhile fun q => q.isOlderThan (now - dnsTimeoutSec) := by
  induction queries generalizing h with
  | nil => rfl
  | cons q queries ih =>
    rw [clearTimedOutQueries, List.dropWhile_cons]
    split
    next => exact ih _
    next => rfl

theorem ensureFreeSpace_fst (h : QueryHistory κ α) (queries : List (DnsQuery κ α)) :
    (ensureFreeSpace h queries).1
      = if queries.length > dnsMaximumWaiting then queries.tail else queries := by
  rw [ensureFreeSpace.eq_def]
  split
  next => cases queries <;> rfl
  next => rfl

/-- The queries that have not timed out. -/
def remaining (now : ℤ) (queries : List (DnsQuery κ α)) : List (DnsQuery κ α) :=
  queries.dropWhile fun q => q.isOlderThan (now.tdiv 1000 - dnsTimeoutSec)

/-- A query is added, if it is, after at most one query is dropped for space. -/
theorem addQuery_fst (query : SentQuery κ α) (now created : ℤ) (constructorThrows : Bool)
    (queries : List (DnsQuery κ α)) (h : QueryHistory κ α) :
    (addQuery query now created constructorThrows queries h).1
      = (if (remaining now queries).length > dnsMaximumWaiting then (remaining now queries).tail
          else remaining now queries) ++
        if constructorThrows then [] else [⟨query, false, created.tdiv 1000⟩] := by
  have hfree : (ensureFreeSpace (clearTimedOutQueries (now.tdiv 1000) h queries).2
        (clearTimedOutQueries (now.tdiv 1000) h queries).1).1
      = if (remaining now queries).length > dnsMaximumWaiting then (remaining now queries).tail
        else remaining now queries := by
    rw [ensureFreeSpace_fst, clearTimedOutQueries_fst]
    rfl
  cases constructorThrows with
  | true => exact hfree.trans (List.append_nil _).symm
  | false => exact congrArg (· ++ [_]) hfree

/-- A time-out is seen at the head. -/
theorem length_remaining (now : ℤ) (queries : List (DnsQuery κ α)) :
    (remaining now queries).length ≤ queries.length ∧
      ((remaining now queries).length < queries.length ↔
        ∃ q ∈ queries.head?, q.isOlderThan (now.tdiv 1000 - dnsTimeoutSec) = true) := by
  rw [remaining]
  cases queries with
  | nil => simp
  | cons q queries =>
    have hle := List.length_dropWhile_le
      (fun q => DnsQuery.isOlderThan q (now.tdiv 1000 - dnsTimeoutSec)) queries
    rw [List.dropWhile_cons]
    split
    next hold =>
      simp only [List.length_cons, List.head?_cons, Option.mem_some_iff]
      exact ⟨by omega, iff_of_true (by omega) ⟨q, rfl, hold⟩⟩
    next hnew =>
      refine ⟨le_rfl, iff_of_false (lt_irrefl _) ?_⟩
      rintro ⟨q', hq', hold⟩
      obtain rfl := Option.some.inj hq'
      exact hnew hold

/-- A query is handled: `receive` throws, or it takes the first datagram of the socket. -/
theorem DnsQuery.handleResponse_cases {q : DnsQuery κ α} {outcome : ResponseOutcome}
    {h h' : QueryHistory κ α} (hh : q.handleResponse outcome h = some h') :
    (outcome = .ioException ∧ h' = h.close q.socket) ∨
      (outcome ≠ .ioException ∧ ∃ datagram buffer,
        (h.sockets q.socket).buffer = datagram :: buffer ∧
        h' = { (h.setSocket q.socket ⟨false, buffer⟩).close q.socket with
          answers := h.answers ++ [⟨q.toSentQuery, datagram,
            receive (List.replicate responseSize 0) datagram.data⟩] }) := by
  rw [handleResponse] at hh
  split at hh
  next hthrows => exact Or.inl ⟨hthrows, (Option.some.inj hh).symm⟩
  next hthrows =>
    split at hh
    next => cases hh
    next datagram buffer hbuffer =>
      exact Or.inr ⟨hthrows, datagram, buffer, hbuffer, (Option.some.inj hh).symm⟩

/-- The first query is handled, with or without an exception of its callback, or it is kept. -/
theorem handleResponses_cons_cases {outcome : ℕ → ResponseOutcome} {q : DnsQuery κ α}
    {queries : List (DnsQuery κ α)} {h : QueryHistory κ α}
    {r : List (DnsQuery κ α) × QueryHistory κ α}
    (hr : handleResponses outcome (q :: queries) h = some r) :
    (q.isAnswered = true ∧ ∃ h', q.handleResponse (outcome q.socket) h = some h' ∧
      ((outcome q.socket = .callbackThrows ∧ r = (queries, h')) ∨
        (outcome q.socket ≠ .callbackThrows ∧ handleResponses outcome queries h' = some r))) ∨
      (q.isAnswered = false ∧ ∃ r', handleResponses outcome queries h = some r' ∧
        r = (q :: r'.1, r'.2)) := by
  rw [handleResponses] at hr
  split at hr
  next hready =>
    obtain ⟨h', hh, hr⟩ := Option.bind_eq_some_iff.mp hr
    refine Or.inl ⟨hready, h', hh, ?_⟩
    split at hr
    next hthrows => exact Or.inl ⟨hthrows, (Option.some.inj hr).symm⟩
    next hthrows => exact Or.inr ⟨hthrows, hr⟩
  next hready =>
    obtain ⟨r', hr', rfl⟩ := Option.map_eq_some_iff.mp hr
    exact Or.inr ⟨(Bool.not_eq_true _).mp hready, r', hr', rfl⟩

/-- Handling the responses only removes queries. -/
theorem sublist_handleResponses {outcome : ℕ → ResponseOutcome} {queries : List (DnsQuery κ α)}
    {h : QueryHistory κ α} {r : List (DnsQuery κ α) × QueryHistory κ α}
    (hr : handleResponses outcome queries h = some r) : r.1.Sublist queries := by
  induction queries generalizing h r with
  | nil =>
    obtain rfl := Option.some.inj hr
    exact List.Sublist.refl _
  | cons q queries ih =>
    rcases handleResponses_cons_cases hr with ⟨-, h', -, ⟨-, rfl⟩ | ⟨-, hr⟩⟩ | ⟨-, r', hr', rfl⟩
    · exact List.sublist_cons_self q queries
    · exact (ih hr).cons q
    · exact (ih hr').cons_cons q

namespace DnsQueryQueue

/-- No more queries wait than `DNS_MAXIMUM_WAITING`. -/
def Bounded (s : DnsQueryQueue κ α) : Prop := s.queries.length ≤ dnsMaximumWaiting

/-- When the maximum is reached, a query is added only if one has timed out. -/
def KeepsBounded (s : DnsQueryQueue κ α) : QueueAction κ α → Prop
  | .forwardPacket _ _ (.sent now _) =>
    s.queries.length = dnsMaximumWaiting →
      ∃ q ∈ s.queries.head?, q.isOlderThan (now.tdiv 1000 - dnsTimeoutSec) = true
  | _ => True

theorem bounded_step {s t : DnsQueryQueue κ α} {a : QueueAction κ α} (hs : s.Bounded)
    (hstep : stepQueue s a = some t) : t.Bounded ↔ s.KeepsBounded a := by
  cases a with
  | forwardPacket server callback outcome =>
    cases outcome with
    | noSocket =>
      obtain rfl := Option.some.inj hstep
      exact iff_of_true hs trivial
    | notSent =>
      obtain rfl := Option.some.inj hstep
      exact iff_of_true hs trivial
    | notAdded now created =>
      obtain rfl := Option.some.inj hstep
      have hle : (remaining now s.queries).length ≤ dnsMaximumWaiting :=
        (length_remaining now s.queries).1.trans hs
      refine iff_of_true ?_ trivial
      rw [Bounded, addQuery_fst, if_pos rfl, List.append_nil, if_neg hle.not_gt]
      exact hle
    | sent now created =>
      obtain rfl := Option.some.inj hstep
      obtain ⟨hle, hlt⟩ := length_remaining now s.queries
      rw [Bounded, addQuery_fst, if_neg Bool.false_ne_true, KeepsBounded, ← hlt, List.length_append,
        List.length_singleton]
      rw [Bounded] at hs
      split
      next hfull => omega
      next => omega
  | arrive socket datagram =>
    obtain ⟨-, hstep⟩ := Option.ite_none_right_eq_some.mp hstep
    obtain rfl := Option.some.inj hstep
    exact iff_of_true hs trivial
  | poll ready =>
    obtain rfl := Option.some.inj hstep
    refine iff_of_true ?_ trivial
    rw [Bounded, pollQueryFds, List.length_map]
    exact hs
  | handleResponses outcome =>
    obtain ⟨r, hr, rfl⟩ := Option.map_eq_some_iff.mp hstep
    exact iff_of_true (le_trans (sublist_handleResponses hr).length_le hs) trivial

/-- **When the queue stays within its maximum.** In a run of the event loop, with any readings of
the clock and any sockets answering, no state reached has more than `DNS_MAXIMUM_WAITING` queries
waiting exactly if no query is added while the maximum is reached and none has timed out. -/
theorem size_bounded_iff {clock : ℤ} {as : List (QueueAction κ α)} {s : DnsQueryQueue κ α}
    (h : ActionSystem.run stepQueue (startQueue clock) as = some s) :
    (∀ bs, bs <+: as → ∀ t, ActionSystem.run stepQueue (startQueue clock) bs = some t → t.Bounded) ↔
      ActionSystem.StepsMeet stepQueue KeepsBounded (startQueue clock) as :=
  ActionSystem.stepsMeet_iff_forall_prefix (I := Bounded)
    (fun _ _ _ hs hstep => bounded_step hs hstep) (Nat.zero_le _) h

/-- A request is sent and its query added, with this reading of the clock. -/
def forwardAt (now : ℤ) : QueueAction Unit Unit := .forwardPacket () () (.sent now now)

/-- Two requests, the second one after the first has timed out. -/
theorem size_bounded_iff_twoRequests : ∃ s : DnsQueryQueue Unit Unit,
    ActionSystem.run stepQueue (startQueue 0) [forwardAt 0, forwardAt 11000] = some s ∧
      s.Bounded := by
  obtain ⟨s, hs⟩ : ∃ s : DnsQueryQueue Unit Unit,
    ActionSystem.run stepQueue (startQueue 0) [forwardAt 0, forwardAt 11000] = some s := ⟨_, rfl⟩
  have hok : ActionSystem.StepsMeet stepQueue KeepsBounded (startQueue 0)
      [forwardAt 0, forwardAt 11000] := by
    refine ⟨nofun, fun t ht => ⟨?_, fun _ _ => trivial⟩⟩
    obtain rfl := Option.some.inj ht
    exact nofun
  exact ⟨s, hs, (size_bounded_iff hs).mpr hok _ List.prefix_rfl s hs⟩

/-- Up to one more than the maximum, requests sent at one time all wait. -/
theorem exists_run_forwardAt {n : ℕ} (hn : n ≤ dnsMaximumWaiting + 1) :
    ∃ s : DnsQueryQueue Unit Unit,
      ActionSystem.run stepQueue (startQueue 0) (List.replicate n (forwardAt 0)) = some s ∧
      s.queries.length = n ∧ ∀ q ∈ s.queries, q.time = 0 := by
  induction n with
  | zero => exact ⟨startQueue 0, rfl, rfl, nofun⟩
  | succ n ih =>
    obtain ⟨s, hs, hlength, htime⟩ := ih (by omega)
    have hremaining : remaining 0 s.queries = s.queries := by
      rw [remaining, List.dropWhile_eq_self_iff]
      intro hpos
      have hhead := htime _ (List.getElem_mem hpos)
      simp [DnsQuery.isOlderThan, dnsTimeoutSec, hhead]
    obtain ⟨t, ht⟩ : ∃ t, stepQueue s (forwardAt 0) = some t := ⟨_, rfl⟩
    have hqueries : t.queries = s.queries ++ [⟨⟨s.history.created, (), ()⟩, false, 0⟩] := by
      obtain rfl := Option.some.inj ht
      show (addQuery _ 0 0 false s.queries _).1 = _
      rw [addQuery_fst, hremaining, if_neg (by omega)]
      rfl
    refine ⟨t, ?_, ?_, ?_⟩
    · rw [List.replicate_succ', ActionSystem.run_append, hs]
      exact ActionSystem.run_cons_eq_some.mpr ⟨t, ht, rfl⟩
    · rw [hqueries, List.length_append, hlength, List.length_singleton]
    · intro q hq
      rw [hqueries] at hq
      rcases List.mem_append.mp hq with hq | hq
      · exact htime q hq
      · obtain rfl := List.mem_singleton.mp hq
        rfl

/-- Requests sent at one time wait in a number over the maximum. -/
theorem not_size_bounded :
    ¬ ∀ (as : List (QueueAction Unit Unit)) s,
      ActionSystem.run stepQueue (startQueue 0) as = some s → s.Bounded := by
  intro h
  obtain ⟨s, hs, hlength, -⟩ := exists_run_forwardAt (le_refl (dnsMaximumWaiting + 1))
  have hbounded := h _ s hs
  rw [Bounded, hlength] at hbounded
  omega

end DnsQueryQueue

end AdAway
