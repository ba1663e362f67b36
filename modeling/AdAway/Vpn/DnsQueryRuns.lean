import AdAway.Vpn.DnsQueryQueue

/-!
# What becomes of each query

A socket that is passed to `addQuery` has one owner at a time: the query while it waits, and nobody
once it has left the queue, by time-out, for space or to be answered. A socket whose `DnsQuery`
could not be created has none from the start, and stays open. `Custody` says so for the queue and
its history, together with what the answers owe to the datagrams that have arrived.
`Timely` is about the clock only: the queue drops old queries from its head, and this finds them all
because the queries are ordered by their creation time as long as the clock does not go back.

## Main definitions

* `Custody`, `Timely` — the two invariants
* `ClockForward` — the clock does not go back

## Main results

* `Custody.close` — a query leaves the queue and its socket is closed
* `custody_run`, `timely_run` — the invariants over a run
* `queries_accounted_for` — order, age, sockets and callbacks
-/

namespace AdAway

variable {κ α : Type}

/-! ### Custody -/

/-- The datagrams that have arrived on a socket. -/
def QueryHistory.arrivedOn (h : QueryHistory κ α) (n : ℕ) : List (Datagram α) :=
  (h.arrivals.filter fun p => p.1 = n).map Prod.snd

/-- The socket of each query added is open exactly while its query is pending, and an open socket
still holds all that has arrived. An answered query is answered once, with the first datagram of its
socket; a dropped one never. An abandoned socket stays open and belongs to no query that was added.
-/
structure Custody (queries : List (DnsQuery κ α)) (h : QueryHistory κ α) : Prop where
  queries_nodup : (queries.map fun q => q.socket).Nodup
  pending : ∀ q ∈ queries, q.toSentQuery ∈ h.passed
  passed_nodup : (h.passed.map fun p => p.socket).Nodup
  passed_lt : ∀ p ∈ h.passed, p.socket < h.created
  open_iff : ∀ p ∈ h.passed,
    (h.sockets p.socket).closed = false ↔ p.socket ∈ queries.map fun q => q.socket
  fresh : ∀ n, h.created ≤ n → (h.sockets n).closed = false
  buffer : ∀ n, (h.sockets n).closed = false → (h.sockets n).buffer = h.arrivedOn n
  answers_nodup : (h.answers.map fun a => a.query.socket).Nodup
  answered : ∀ a ∈ h.answers, a.query ∈ h.passed ∧ (h.sockets a.query.socket).closed = true
  answer : ∀ a ∈ h.answers, (h.arrivedOn a.query.socket).head? = some a.datagram ∧
    a.responseData = receive (List.replicate responseSize 0) a.datagram.data
  dropped : ∀ p ∈ h.dropped, p ∈ h.passed ∧ (h.sockets p.socket).closed = true ∧
    ∀ a ∈ h.answers, a.query ≠ p
  abandoned : ∀ p ∈ h.abandoned, p.socket < h.created ∧ (h.sockets p.socket).closed = false ∧
    ∀ p' ∈ h.passed, p'.socket ≠ p.socket

theorem custody_start (clock : ℤ) :
    Custody (startQueue clock : DnsQueryQueue κ α).queries (startQueue clock).history := by
  constructor
  case fresh => exact fun _ _ => rfl
  case buffer => exact fun _ _ => rfl
  all_goals simp [startQueue]

namespace Custody

variable {queries before after : List (DnsQuery κ α)} {q : DnsQuery κ α} {h : QueryHistory κ α}

/-- A pending query has an open socket that no answer and no dropped query has used. -/
theorem unused (hc : Custody queries h) (hq : q ∈ queries) :
    (h.sockets q.socket).closed = false ∧ (∀ a ∈ h.answers, a.query.socket ≠ q.socket) ∧
      ∀ p ∈ h.dropped, p.socket ≠ q.socket := by
  have hopen : (h.sockets q.socket).closed = false :=
    (hc.open_iff _ (hc.pending q hq)).mpr (List.mem_map.mpr ⟨q, hq, rfl⟩)
  refine ⟨hopen, fun a ha heq => ?_, fun p hp heq => ?_⟩
  · have hclosed := (hc.answered a ha).2
    rw [heq, hopen] at hclosed
    cases hclosed
  · have hclosed := (hc.dropped p hp).2.1
    rw [heq, hopen] at hclosed
    cases hclosed

/-- An answered query is not pending. -/
theorem not_pending (hc : Custody queries h) {a : Answer κ α} (ha : a ∈ h.answers) :
    a.query.socket ∉ queries.map fun q => q.socket := by
  intro hmem
  obtain ⟨hpassed, hclosed⟩ := hc.answered a ha
  rw [(hc.open_iff _ hpassed).mpr hmem] at hclosed
  cases hclosed

/-- An abandoned socket is of no query, neither pending nor answered. -/
theorem abandoned_unused (hc : Custody queries h) {p : SentQuery κ α} (hp : p ∈ h.abandoned) :
    (h.sockets p.socket).closed = false ∧ (p.socket ∉ queries.map fun q => q.socket) ∧
      ∀ a ∈ h.answers, a.query.socket ≠ p.socket := by
  obtain ⟨-, hopen, hpassed⟩ := hc.abandoned p hp
  refine ⟨hopen, fun hmem => ?_, fun a ha => hpassed _ (hc.answered a ha).1⟩
  obtain ⟨q, hq, heq⟩ := List.mem_map.mp hmem
  exact hpassed _ (hc.pending q hq) heq

/-- **A query leaves the queue** and its socket is closed, whatever is left to receive. -/
theorem close (hc : Custody (before ++ q :: after) h) (rest : List (Datagram α)) :
    Custody (before ++ after) (h.setSocket q.socket ⟨true, rest⟩) := by
  have hnodup := hc.queries_nodup
  rw [List.map_append, List.map_cons, List.nodup_middle, List.nodup_cons, ← List.map_append] at hnodup
  have hmem : ∀ n, n ∈ (before ++ q :: after).map (fun q => q.socket) ↔
      n = q.socket ∨ n ∈ (before ++ after).map fun q => q.socket := by
    intro n
    simp only [List.map_append, List.map_cons, List.mem_append, List.mem_cons]
    tauto
  have hother : ∀ n, n ≠ q.socket →
      (h.setSocket q.socket ⟨true, rest⟩).sockets n = h.sockets n := by
    intro n hn
    exact h.sockets_setSocket_of_ne hn _
  have hself : ((h.setSocket q.socket ⟨true, rest⟩).sockets q.socket).closed = true := by simp
  have hclosed : ∀ n, (h.sockets n).closed = true →
      ((h.setSocket q.socket ⟨true, rest⟩).sockets n).closed = true := by
    intro n hn
    by_cases heq : n = q.socket
    · rw [heq, hself]
    · rwa [hother n heq]
  have hlt : q.socket < h.created := hc.passed_lt _ (hc.pending q (by simp))
  constructor
  case queries_nodup => exact hnodup.2
  case pending =>
    intro q' hq'
    refine hc.pending q' ?_
    simp only [List.mem_append, List.mem_cons] at hq' ⊢
    tauto
  case passed_nodup => exact hc.passed_nodup
  case passed_lt => exact hc.passed_lt
  case open_iff =>
    intro p hp
    by_cases heq : p.socket = q.socket
    · rw [heq, hself]
      exact iff_of_false Bool.noConfusion hnodup.1
    · rw [hother _ heq, hc.open_iff p hp, hmem, or_iff_right heq]
  case fresh =>
    intro n hn
    rw [hother n (by have : h.created ≤ n := hn; omega)]
    exact hc.fresh n hn
  case buffer =>
    intro n hn
    by_cases heq : n = q.socket
    · rw [heq, hself] at hn
      cases hn
    · rw [hother n heq] at hn ⊢
      exact hc.buffer n hn
  case answers_nodup => exact hc.answers_nodup
  case answered => exact fun a ha => ⟨(hc.answered a ha).1, hclosed _ (hc.answered a ha).2⟩
  case answer => exact hc.answer
  case dropped =>
    intro p hp
    obtain ⟨hpassed, hpclosed, hanswers⟩ := hc.dropped p hp
    exact ⟨hpassed, hclosed _ hpclosed, hanswers⟩
  case abandoned =>
    intro p hp
    obtain ⟨hplt, hopen, hpassed⟩ := hc.abandoned p hp
    rw [hother _ (hpassed _ (hc.pending q (by simp))).symm]
    exact ⟨hplt, hopen, hpassed⟩

/-- A query is dropped. -/
theorem drop (hc : Custody (before ++ q :: after) h) :
    Custody (before ++ after) (h.drop q.toSentQuery) := by
  obtain ⟨-, hanswers, -⟩ := hc.unused (q := q) (by simp)
  have hclose := hc.close (h.sockets q.socket).buffer
  refine { hclose with dropped := ?_ }
  intro p hp
  rcases List.mem_append.mp hp with hp | hp
  · exact hclose.dropped p hp
  · obtain rfl := List.mem_singleton.mp hp
    refine ⟨hc.pending q (by simp), ?_, fun a ha heq => hanswers a ha (by rw [heq])⟩
    exact h.closed_close_self q.socket

/-- A query is handled: it is answered with the first datagram of its socket, or `receive` has
thrown. -/
theorem handleResponse (hc : Custody (before ++ q :: after) h) {outcome : ResponseOutcome}
    {h' : QueryHistory κ α} (hh : q.handleResponse outcome h = some h') :
    Custody (before ++ after) h' := by
  have hmem : q ∈ before ++ q :: after := by simp
  obtain ⟨hopen, hanswers, hdropped⟩ := hc.unused hmem
  rcases DnsQuery.handleResponse_cases hh with ⟨-, rfl⟩ | ⟨-, datagram, rest, hbuffer, rfl⟩
  · exact hc.close _
  -- `receive` and then `close` leave the socket closed, without its first datagram
  have hclose : Custody (before ++ after)
      ((h.setSocket q.socket ⟨false, rest⟩).close q.socket) := by
    have heq : (h.setSocket q.socket ⟨false, rest⟩).close q.socket
        = h.setSocket q.socket ⟨true, rest⟩ := by
      simp [QueryHistory.close, QueryHistory.setSocket]
    rw [heq]
    exact hc.close rest
  have hself : (((h.setSocket q.socket ⟨false, rest⟩).close q.socket).sockets q.socket).closed
      = true := QueryHistory.closed_close_self _ _
  refine { hclose with answers_nodup := ?_, answered := ?_, answer := ?_, dropped := ?_ }
  · rw [List.map_append, List.nodup_append]
    refine ⟨hclose.answers_nodup, List.nodup_singleton _, ?_⟩
    intro n hn n' hn' heq
    obtain ⟨a, ha, rfl⟩ := List.mem_map.mp hn
    rw [List.map_singleton, List.mem_singleton] at hn'
    exact hanswers a ha (heq.trans hn')
  · intro a ha
    rcases List.mem_append.mp ha with ha | ha
    · exact hclose.answered a ha
    · obtain rfl := List.mem_singleton.mp ha
      exact ⟨hc.pending q hmem, hself⟩
  · intro a ha
    rcases List.mem_append.mp ha with ha | ha
    · exact hclose.answer a ha
    · obtain rfl := List.mem_singleton.mp ha
      refine ⟨?_, rfl⟩
      show (h.arrivedOn q.socket).head? = some datagram
      rw [← hc.buffer q.socket hopen, hbuffer]
      rfl
  · intro p hp
    obtain ⟨hpassed, hclosed, hne⟩ := hclose.dropped p hp
    refine ⟨hpassed, hclosed, fun a ha => ?_⟩
    rcases List.mem_append.mp ha with ha | ha
    · exact hne a ha
    · obtain rfl := List.mem_singleton.mp ha
      exact fun heq => hdropped p hp (by rw [← heq])

theorem handleResponses {outcome : ℕ → ResponseOutcome}
    {r : List (DnsQuery κ α) × QueryHistory κ α} (hc : Custody (before ++ queries) h)
    (hr : AdAway.handleResponses outcome queries h = some r) : Custody (before ++ r.1) r.2 := by
  induction queries generalizing before h r with
  | nil =>
    obtain rfl := Option.some.inj hr
    exact hc
  | cons q queries ih =>
    rcases handleResponses_cons_cases hr with ⟨-, h', hh, ⟨-, rfl⟩ | ⟨-, hr⟩⟩ | ⟨-, r', hr', rfl⟩
    · exact hc.handleResponse hh
    · exact ih (hc.handleResponse hh) hr
    · have hkept : Custody ((before ++ [q]) ++ queries) h := by simpa using hc
      simpa using ih hkept hr'

theorem poll (hc : Custody queries h) (ready : ℕ → Bool) :
    Custody (pollQueryFds ready queries) h := by
  have hsockets : (pollQueryFds ready queries).map (fun q => q.socket)
      = queries.map fun q => q.socket := by
    rw [pollQueryFds, List.map_map]
    rfl
  refine { hc with queries_nodup := ?_, pending := ?_, open_iff := ?_ }
  · rw [hsockets]
    exact hc.queries_nodup
  · intro q hq
    obtain ⟨q', hq', rfl⟩ := List.mem_map.mp hq
    exact hc.pending q' hq'
  · rw [hsockets]
    exact hc.open_iff

/-- A datagram arrives on an open socket. -/
theorem arrive (hc : Custody queries h) {n : ℕ} (hopen : (h.sockets n).closed = false)
    (datagram : Datagram α) :
    Custody queries { h.setSocket n ⟨false, (h.sockets n).buffer ++ [datagram]⟩ with
      arrivals := h.arrivals ++ [(n, datagram)] } := by
  let h' : QueryHistory κ α := { h.setSocket n ⟨false, (h.sockets n).buffer ++ [datagram]⟩ with
    arrivals := h.arrivals ++ [(n, datagram)] }
  have hclosed : ∀ k, (h'.sockets k).closed = (h.sockets k).closed := by
    intro k
    by_cases heq : k = n
    · simp [h', heq, hopen]
    · simp [h', h.sockets_setSocket_of_ne heq]
  have harrived : ∀ k, h'.arrivedOn k
      = h.arrivedOn k ++ if n = k then [datagram] else [] := by
    intro k
    by_cases heq : n = k
    · simp [h', QueryHistory.arrivedOn, heq]
    · simp [h', QueryHistory.arrivedOn, heq]
  constructor
  case queries_nodup => exact hc.queries_nodup
  case pending => exact hc.pending
  case passed_nodup => exact hc.passed_nodup
  case passed_lt => exact hc.passed_lt
  case open_iff => exact fun p hp => (hclosed p.socket) ▸ hc.open_iff p hp
  case fresh => exact fun k hk => (hclosed k) ▸ hc.fresh k hk
  case buffer =>
    intro k hk
    rw [hclosed] at hk
    rw [harrived, ← hc.buffer k hk]
    by_cases heq : n = k
    · simp [heq]
    · simp [heq, h.sockets_setSocket_of_ne (Ne.symm heq)]
  case answers_nodup => exact hc.answers_nodup
  case answered =>
    exact fun a ha => ⟨(hc.answered a ha).1, (hclosed _).trans (hc.answered a ha).2⟩
  case answer =>
    intro a ha
    obtain ⟨hhead, hdata⟩ := hc.answer a ha
    refine ⟨?_, hdata⟩
    rw [harrived, List.head?_append, hhead]
    rfl
  case dropped =>
    intro p hp
    obtain ⟨hpassed, hpclosed, hne⟩ := hc.dropped p hp
    exact ⟨hpassed, (hclosed _).trans hpclosed, hne⟩
  case abandoned => exact fun p hp => (hclosed p.socket) ▸ hc.abandoned p hp

/-- A socket is created. -/
theorem create (hc : Custody queries h) :
    Custody queries { h with created := h.created + 1 } where
  __ := hc
  passed_lt := fun p hp => Nat.lt_succ_of_lt (hc.passed_lt p hp)
  fresh := fun n hn => hc.fresh n (Nat.le_of_succ_le hn)
  abandoned := fun p hp => ⟨Nat.lt_succ_of_lt (hc.abandoned p hp).1, (hc.abandoned p hp).2⟩

end Custody

/-- The socket has been created and not been used. -/
structure Spare (h : QueryHistory κ α) (n : ℕ) : Prop where
  lt : n < h.created
  not_passed : ∀ p ∈ h.passed, p.socket ≠ n
  not_abandoned : ∀ p ∈ h.abandoned, p.socket ≠ n
  open_eq : (h.sockets n).closed = false

namespace Custody

variable {queries : List (DnsQuery κ α)} {q : DnsQuery κ α} {h : QueryHistory κ α} {n : ℕ}

theorem spare_create (hc : Custody queries h) :
    Spare { h with created := h.created + 1 } h.created :=
  ⟨Nat.lt_succ_self _, fun p hp => (hc.passed_lt p hp).ne, fun p hp => (hc.abandoned p hp).1.ne,
    hc.fresh _ le_rfl⟩

/-- A socket that has not been passed in is closed. -/
theorem close_spare (hc : Custody queries h) (hn : Spare h n) : Custody queries (h.close n) := by
  have hother : ∀ k, k ≠ n → (h.close n).sockets k = h.sockets k :=
    fun k hk => h.sockets_close_of_ne hk
  have hpassed : ∀ p ∈ h.passed, (h.close n).sockets p.socket = h.sockets p.socket :=
    fun p hp => hother _ (hn.not_passed p hp)
  constructor
  case queries_nodup => exact hc.queries_nodup
  case pending => exact hc.pending
  case passed_nodup => exact hc.passed_nodup
  case passed_lt => exact hc.passed_lt
  case open_iff => exact fun p hp => (hpassed p hp) ▸ hc.open_iff p hp
  case fresh =>
    intro k hk
    have hlt := hn.lt
    rw [hother k (by have : h.created ≤ k := hk; omega)]
    exact hc.fresh k hk
  case buffer =>
    intro k hk
    by_cases heq : k = n
    · simp [heq] at hk
    · rw [hother k heq] at hk ⊢
      exact hc.buffer k hk
  case answers_nodup => exact hc.answers_nodup
  case answered =>
    intro a ha
    obtain ⟨hmem, hclosed⟩ := hc.answered a ha
    exact ⟨hmem, (hpassed _ hmem) ▸ hclosed⟩
  case answer => exact hc.answer
  case dropped =>
    intro p hp
    obtain ⟨hmem, hclosed, hne⟩ := hc.dropped p hp
    exact ⟨hmem, (hpassed _ hmem) ▸ hclosed, hne⟩
  case abandoned =>
    intro p hp
    rw [hother _ (hn.not_abandoned p hp)]
    exact hc.abandoned p hp

theorem spare_drop (hc : Custody (q :: queries) h) (hn : Spare h n) :
    Spare (h.drop q.toSentQuery) n := by
  refine ⟨hn.lt, hn.not_passed, hn.not_abandoned, ?_⟩
  have hne : n ≠ q.socket := (hn.not_passed _ (hc.pending q List.mem_cons_self)).symm
  show ((h.close q.socket).sockets n).closed = false
  rw [h.sockets_close_of_ne hne]
  exact hn.open_eq

/-- A query with a socket of its own is added. -/
theorem add (hc : Custody queries h) {query : SentQuery κ α} (hn : Spare h query.socket)
    (time clock : ℤ) :
    Custody (queries ++ [⟨query, false, time⟩])
      { h with passed := h.passed ++ [query], clock := clock } := by
  have hne : ∀ p ∈ h.passed, p ∈ h.passed ++ [query] := fun p hp => List.mem_append_left _ hp
  have hsockets : (queries ++ [(⟨query, false, time⟩ : DnsQuery κ α)]).map (fun q => q.socket)
      = queries.map (fun q => q.socket) ++ [query.socket] := List.map_append
  have hnew : query.socket ∉ queries.map fun q => q.socket := by
    intro hmem
    obtain ⟨q, hq, heq⟩ := List.mem_map.mp hmem
    exact hn.not_passed _ (hc.pending q hq) heq
  constructor
  case queries_nodup =>
    rw [hsockets, ← List.concat_eq_append]
    exact hc.queries_nodup.concat hnew
  case pending =>
    intro q hq
    rcases List.mem_append.mp hq with hq | hq
    · exact hne _ (hc.pending q hq)
    · obtain rfl := List.mem_singleton.mp hq
      exact List.mem_append_right _ List.mem_cons_self
  case passed_nodup =>
    show ((h.passed ++ [query]).map fun p => p.socket).Nodup
    rw [List.map_append, List.map_singleton, ← List.concat_eq_append]
    refine hc.passed_nodup.concat ?_
    intro hmem
    obtain ⟨p, hp, heq⟩ := List.mem_map.mp hmem
    exact hn.not_passed p hp heq
  case passed_lt =>
    intro p hp
    rcases List.mem_append.mp hp with hp | hp
    · exact hc.passed_lt p hp
    · obtain rfl := List.mem_singleton.mp hp
      exact hn.lt
  case open_iff =>
    intro p hp
    rw [hsockets, List.mem_append, List.mem_singleton]
    rcases List.mem_append.mp hp with hp | hp
    · rw [or_iff_left (hn.not_passed p hp)]
      exact hc.open_iff p hp
    · obtain rfl := List.mem_singleton.mp hp
      exact iff_of_true hn.open_eq (Or.inr rfl)
  case fresh => exact hc.fresh
  case buffer => exact hc.buffer
  case answers_nodup => exact hc.answers_nodup
  case answered => exact fun a ha => ⟨hne _ (hc.answered a ha).1, (hc.answered a ha).2⟩
  case answer => exact hc.answer
  case dropped => exact fun p hp => ⟨hne _ (hc.dropped p hp).1, (hc.dropped p hp).2⟩
  case abandoned =>
    intro p hp
    obtain ⟨hplt, hopen, hpassed⟩ := hc.abandoned p hp
    refine ⟨hplt, hopen, fun p' hp' => ?_⟩
    rcases List.mem_append.mp hp' with hp' | hp'
    · exact hpassed p' hp'
    · obtain rfl := List.mem_singleton.mp hp'
      exact (hn.not_abandoned p hp).symm

/-- A socket is left without a query. -/
theorem abandon (hc : Custody queries h) {query : SentQuery κ α} (hn : Spare h query.socket)
    (clock : ℤ) :
    Custody queries { h with abandoned := h.abandoned ++ [query], clock := clock } := by
  refine { hc with abandoned := ?_ }
  intro p hp
  rcases List.mem_append.mp hp with hp | hp
  · exact hc.abandoned p hp
  · obtain rfl := List.mem_singleton.mp hp
    exact ⟨hn.lt, hn.open_eq, hn.not_passed⟩

end Custody

/-! ### Dropping queries -/

/-- What dropping the head keeps is kept when queries time out. -/
theorem clearTimedOutQueries_induction {I : List (DnsQuery κ α) → QueryHistory κ α → Prop}
    (hdrop : ∀ q queries h, I (q :: queries) h → I queries (h.drop q.toSentQuery)) (now : ℤ)
    {queries : List (DnsQuery κ α)} {h : QueryHistory κ α} (hI : I queries h) :
    I (clearTimedOutQueries now h queries).1 (clearTimedOutQueries now h queries).2 := by
  induction queries generalizing h with
  | nil => exact hI
  | cons q queries ih =>
    rw [clearTimedOutQueries]
    split
    next => exact ih (hdrop q queries h hI)
    next => exact hI

theorem ensureFreeSpace_induction {I : List (DnsQuery κ α) → QueryHistory κ α → Prop}
    (hdrop : ∀ q queries h, I (q :: queries) h → I queries (h.drop q.toSentQuery))
    {queries : List (DnsQuery κ α)} {h : QueryHistory κ α} (hI : I queries h) :
    I (ensureFreeSpace h queries).1 (ensureFreeSpace h queries).2 := by
  rw [ensureFreeSpace.eq_def]
  split
  next =>
    cases queries with
    | nil => exact hI
    | cons q queries => exact hdrop q queries h hI
  next => exact hI

theorem Custody.addQuery {queries : List (DnsQuery κ α)} {h : QueryHistory κ α}
    (hc : Custody queries h) {query : SentQuery κ α} (hn : Spare h query.socket)
    (now created : ℤ) (constructorThrows : Bool) :
    Custody (addQuery query now created constructorThrows queries h).1
      (addQuery query now created constructorThrows queries h).2 := by
  have hdrop : ∀ (q : DnsQuery κ α) queries h, Custody (q :: queries) h ∧ Spare h query.socket →
      Custody queries (h.drop q.toSentQuery) ∧ Spare (h.drop q.toSentQuery) query.socket :=
    fun q queries h hI =>
      ⟨Custody.drop (show Custody ([] ++ q :: queries) h from hI.1), hI.1.spare_drop hI.2⟩
  have hcleared := clearTimedOutQueries_induction
    (I := fun queries h => Custody queries h ∧ Spare h query.socket) hdrop (now.tdiv 1000) ⟨hc, hn⟩
  have hfree := ensureFreeSpace_induction
    (I := fun queries h => Custody queries h ∧ Spare h query.socket) hdrop hcleared
  cases constructorThrows with
  | true => exact hfree.1.abandon hfree.2 _
  | false => exact hfree.1.add hfree.2 _ _

/-- **Custody is kept** by each step of the event loop. -/
theorem custody_step {s t : DnsQueryQueue κ α} {a : QueueAction κ α}
    (hs : Custody s.queries s.history) (hstep : stepQueue s a = some t) :
    Custody t.queries t.history := by
  cases a with
  | forwardPacket server callback outcome =>
    cases outcome with
    | noSocket =>
      obtain rfl := Option.some.inj hstep
      exact hs
    | notSent =>
      obtain rfl := Option.some.inj hstep
      exact hs.create.close_spare hs.spare_create
    | notAdded now created =>
      obtain rfl := Option.some.inj hstep
      exact hs.create.addQuery hs.spare_create now created true
    | sent now created =>
      obtain rfl := Option.some.inj hstep
      exact hs.create.addQuery hs.spare_create now created false
  | arrive socket datagram =>
    obtain ⟨hopen, hstep⟩ := Option.ite_none_right_eq_some.mp hstep
    obtain rfl := Option.some.inj hstep
    exact hs.arrive hopen.2 datagram
  | poll ready =>
    obtain rfl := Option.some.inj hstep
    exact hs.poll ready
  | handleResponses outcome =>
    obtain ⟨r, hr, rfl⟩ := Option.map_eq_some_iff.mp hstep
    exact Custody.handleResponses (show Custody ([] ++ s.queries) s.history from hs) hr

theorem custody_run {clock : ℤ} {as : List (QueueAction κ α)} {s : DnsQueryQueue κ α}
    (h : ActionSystem.run stepQueue (startQueue clock) as = some s) :
    Custody s.queries s.history :=
  ActionSystem.invariant_run (I := fun s => Custody s.queries s.history)
    (fun _ _ _ hs hstep => custody_step hs hstep) (custody_start clock) h

/-! ### The order of time -/

/-- The queries are ordered by their creation time, none of which is later than the clock. -/
structure Timely (queries : List (DnsQuery κ α)) (clock : ℤ) : Prop where
  sorted : queries.Pairwise fun q q' => q.time ≤ q'.time
  le_clock : ∀ q ∈ queries, q.time ≤ clock.tdiv 1000

theorem Timely.sublist {queries queries' : List (DnsQuery κ α)} {clock : ℤ}
    (h : Timely queries clock) (hsub : queries'.Sublist queries) : Timely queries' clock :=
  ⟨h.sorted.sublist hsub, fun q hq => h.le_clock q (hsub.subset hq)⟩

theorem Timely.mono {queries : List (DnsQuery κ α)} {clock clock' : ℤ} (h : Timely queries clock)
    (hle : clock ≤ clock') : Timely queries clock' :=
  ⟨h.sorted, fun q hq => le_trans (h.le_clock q hq) (Int.tdiv_le_tdiv (by decide) hle)⟩

theorem sublist_remaining (now : ℤ) (queries : List (DnsQuery κ α)) :
    (remaining now queries).Sublist queries := List.dropWhile_sublist _

/-- **Expiry looks at the head only**: in an ordered queue no query is left that has timed out. -/
theorem Timely.remaining_young {queries : List (DnsQuery κ α)} {clock : ℤ} (h : Timely queries clock)
    (now : ℤ) :
    ∀ q ∈ remaining now queries, q.isOlderThan (now.tdiv 1000 - dnsTimeoutSec) = false := by
  have hsorted := h.sorted
  clear h
  induction queries with
  | nil => exact nofun
  | cons q queries ih =>
    rw [List.pairwise_cons] at hsorted
    rw [remaining, List.dropWhile_cons]
    split
    next => exact ih hsorted.2
    next hnew =>
      have hnew := DnsQuery.isOlderThan_eq_false_iff.mp (Bool.eq_false_of_not_eq_true hnew)
      intro q' hq'
      have hle : q.time ≤ q'.time := by
        rcases List.mem_cons.mp hq' with rfl | hq'
        · exact le_rfl
        · exact hsorted.1 q' hq'
      exact DnsQuery.isOlderThan_eq_false_iff.mpr (le_trans hnew hle)

/-! ### What the methods leave of the history -/

/-- Handling a query changes its socket and adds an answer. -/
theorem DnsQuery.handleResponse_frame {q : DnsQuery κ α} {outcome : ResponseOutcome}
    {h h' : QueryHistory κ α} (hh : q.handleResponse outcome h = some h') :
    h'.clock = h.clock ∧ h'.arrivals = h.arrivals ∧ (∀ a ∈ h.answers, a ∈ h'.answers) ∧
      (outcome ≠ .ioException → ∃ a ∈ h'.answers, a.query = q.toSentQuery) := by
  rcases handleResponse_cases hh with ⟨hthrows, rfl⟩ | ⟨-, datagram, rest, -, rfl⟩
  · exact ⟨rfl, rfl, fun a ha => ha, fun hne => absurd hthrows hne⟩
  · refine ⟨rfl, rfl, fun a ha => List.mem_append_left _ ha, fun _ => ?_⟩
    exact ⟨_, List.mem_append_right _ List.mem_cons_self, rfl⟩

/-- Handling the responses keeps the answers, and answers each query that is ready unless an
exception gets in the way. -/
theorem handleResponses_frame {outcome : ℕ → ResponseOutcome} {queries : List (DnsQuery κ α)}
    {h : QueryHistory κ α} {r : List (DnsQuery κ α) × QueryHistory κ α}
    (hr : handleResponses outcome queries h = some r) :
    r.2.clock = h.clock ∧ r.2.arrivals = h.arrivals ∧ (∀ a ∈ h.answers, a ∈ r.2.answers) ∧
      ((∀ q ∈ queries, outcome q.socket ≠ .callbackThrows) → ∀ q ∈ queries, q.isAnswered = true →
        outcome q.socket = .handled → ∃ a ∈ r.2.answers, a.query = q.toSentQuery) := by
  induction queries generalizing h r with
  | nil =>
    obtain rfl := Option.some.inj hr
    exact ⟨rfl, rfl, fun a ha => ha, fun _ => nofun⟩
  | cons q queries ih =>
    rcases handleResponses_cons_cases hr with
      ⟨-, h', hh, ⟨hthrows, rfl⟩ | ⟨-, hr⟩⟩ | ⟨hready, r', hr', rfl⟩
    · obtain ⟨hclock, harrivals, hanswers, -⟩ := DnsQuery.handleResponse_frame hh
      refine ⟨hclock, harrivals, hanswers, fun hno => absurd hthrows ?_⟩
      exact hno q List.mem_cons_self
    · obtain ⟨hclock, harrivals, hanswers, hanswered⟩ := DnsQuery.handleResponse_frame hh
      obtain ⟨hclock', harrivals', hanswers', hanswered'⟩ := ih hr
      refine ⟨hclock'.trans hclock, harrivals'.trans harrivals,
        fun a ha => hanswers' a (hanswers a ha), fun hno q' hq' hready' hhandled => ?_⟩
      rcases List.mem_cons.mp hq' with rfl | hq'
      · obtain ⟨a, ha, heq⟩ := hanswered (by rw [hhandled]; decide)
        exact ⟨a, hanswers' a ha, heq⟩
      · exact hanswered' (fun q hq => hno q (List.mem_cons_of_mem _ hq)) q' hq' hready' hhandled
    · obtain ⟨hclock, harrivals, hanswers, hanswered⟩ := ih hr'
      refine ⟨hclock, harrivals, hanswers, fun hno q' hq' hready' hhandled => ?_⟩
      rcases List.mem_cons.mp hq' with rfl | hq'
      · rw [hready] at hready'
        cases hready'
      · exact hanswered (fun q hq => hno q (List.mem_cons_of_mem _ hq)) q' hq' hready' hhandled

/-- The queries after `addQuery`: none has timed out, and the new one comes last. -/
theorem Timely.addQuery {queries : List (DnsQuery κ α)} {clock : ℤ} (ht : Timely queries clock)
    {now created : ℤ} (hnow : clock ≤ now) (hcreated : now ≤ created) (query : SentQuery κ α)
    (constructorThrows : Bool) (h : QueryHistory κ α) :
    Timely (addQuery query now created constructorThrows queries h).1 created ∧
      ∀ q ∈ (addQuery query now created constructorThrows queries h).1,
        q.isOlderThan (now.tdiv 1000 - dnsTimeoutSec) = false := by
  obtain ⟨kept, hkept, hsub⟩ : ∃ kept, (AdAway.addQuery query now created constructorThrows queries h).1
      = kept ++ (if constructorThrows then [] else [⟨query, false, created.tdiv 1000⟩]) ∧
        kept.Sublist (remaining now queries) := by
    refine ⟨_, addQuery_fst query now created constructorThrows queries h, ?_⟩
    split
    next => exact List.tail_sublist _
    next => exact List.Sublist.refl _
  have htimely := (ht.mono (le_trans hnow hcreated)).sublist
    (hsub.trans (sublist_remaining now queries))
  have hyoung := ht.remaining_young now
  have hlast : now.tdiv 1000 ≤ created.tdiv 1000 := Int.tdiv_le_tdiv (by decide) hcreated
  rw [hkept]
  cases constructorThrows with
  | true =>
    rw [if_pos rfl, List.append_nil]
    exact ⟨htimely, fun q hq => hyoung q (hsub.subset hq)⟩
  | false =>
  rw [if_neg Bool.false_ne_true]
  refine ⟨⟨?_, ?_⟩, ?_⟩
  · rw [List.pairwise_append]
    refine ⟨htimely.sorted, List.pairwise_singleton _ _, fun q hq q' hq' => ?_⟩
    obtain rfl := List.mem_singleton.mp hq'
    exact htimely.le_clock q hq
  · intro q hq
    rcases List.mem_append.mp hq with hq | hq
    · exact htimely.le_clock q hq
    · obtain rfl := List.mem_singleton.mp hq
      exact le_rfl
  · intro q hq
    rcases List.mem_append.mp hq with hq | hq
    · exact hyoung q (hsub.subset hq)
    · obtain rfl := List.mem_singleton.mp hq
      rw [DnsQuery.isOlderThan_eq_false_iff, dnsTimeoutSec]
      show now.tdiv 1000 - 10 ≤ created.tdiv 1000
      omega

/-- The clock does not go back. -/
def ClockForward (s : DnsQueryQueue κ α) : QueueAction κ α → Prop
  | .forwardPacket _ _ (.notAdded now created) | .forwardPacket _ _ (.sent now created) =>
    s.history.clock ≤ now ∧ now ≤ created
  | _ => True

instance (s : DnsQueryQueue κ α) (a : QueueAction κ α) : Decidable (ClockForward s a) :=
  match a with
  | .forwardPacket _ _ (.notAdded now created) | .forwardPacket _ _ (.sent now created) =>
    inferInstanceAs (Decidable (s.history.clock ≤ now ∧ now ≤ created))
  | .forwardPacket _ _ .noSocket | .forwardPacket _ _ .notSent => isTrue trivial
  | .arrive _ _ | .poll _ | .handleResponses _ => isTrue trivial

theorem timely_step {s t : DnsQueryQueue κ α} {a : QueueAction κ α}
    (hs : Timely s.queries s.history.clock) (hclock : ClockForward s a)
    (hstep : stepQueue s a = some t) : Timely t.queries t.history.clock := by
  cases a with
  | forwardPacket server callback outcome =>
    cases outcome with
    | noSocket =>
      obtain rfl := Option.some.inj hstep
      exact hs
    | notSent =>
      obtain rfl := Option.some.inj hstep
      exact hs
    | notAdded now created =>
      obtain rfl := Option.some.inj hstep
      exact (hs.addQuery hclock.1 hclock.2 ⟨s.history.created, callback, server⟩ true _).1
    | sent now created =>
      obtain rfl := Option.some.inj hstep
      exact (hs.addQuery hclock.1 hclock.2 ⟨s.history.created, callback, server⟩ false _).1
  | arrive socket datagram =>
    obtain ⟨-, hstep⟩ := Option.ite_none_right_eq_some.mp hstep
    obtain rfl := Option.some.inj hstep
    exact hs
  | poll ready =>
    obtain rfl := Option.some.inj hstep
    refine ⟨List.pairwise_map.mpr hs.sorted, fun q hq => ?_⟩
    obtain ⟨q', hq', rfl⟩ := List.mem_map.mp hq
    exact hs.le_clock q' hq'
  | handleResponses outcome =>
    obtain ⟨r, hr, rfl⟩ := Option.map_eq_some_iff.mp hstep
    rw [show r.2.clock = s.history.clock from (handleResponses_frame hr).1]
    exact hs.sublist (sublist_handleResponses hr)

theorem timely_run {clock : ℤ} {as : List (QueueAction κ α)} {s : DnsQueryQueue κ α}
    (h : ActionSystem.run stepQueue (startQueue clock) as = some s)
    (hclock : ActionSystem.StepsMeet stepQueue ClockForward (startQueue clock) as) :
    Timely s.queries s.history.clock :=
  ActionSystem.invariant_run_of_stepsMeet (I := fun s => Timely s.queries s.history.clock)
    (fun _ _ _ hs hok hstep => timely_step hs hok hstep)
    ⟨List.Pairwise.nil, fun _ hq => absurd hq List.not_mem_nil⟩ hclock h

/-! ### What becomes of each query -/

/-- **Every query is accounted for.** In every state of a run with a clock that does not go back:
the pending queries are ordered by their creation time; after one more call of `addQuery`, whether
it returns or throws, none of them is older than the time-out by the seconds of the clock that it has
read first; the socket of each query added is pending and open, or removed and closed; the socket of
each query that could not be created is open, and neither pending nor answered; each callback has
been called at most once, for a query that was added, and with data that has arrived on the socket of
this query; and none has been called for a query that was dropped. -/
theorem queries_accounted_for {clock : ℤ} {as : List (QueueAction κ α)} {s : DnsQueryQueue κ α}
    (h : ActionSystem.run stepQueue (startQueue clock) as = some s)
    (hclock : ActionSystem.StepsMeet stepQueue ClockForward (startQueue clock) as) :
    (s.queries.Pairwise fun q q' => q.time ≤ q'.time) ∧
    (∀ server callback now created outcome t, s.history.clock ≤ now → now ≤ created →
      outcome = .sent now created ∨ outcome = .notAdded now created →
      stepQueue s (.forwardPacket server callback outcome) = some t →
      ∀ q ∈ t.queries, q.isOlderThan (now.tdiv 1000 - dnsTimeoutSec) = false) ∧
    (∀ p ∈ s.history.passed,
      (p.socket ∈ s.queries.map fun q => q.socket) ∧ (s.history.sockets p.socket).closed = false ∨
      (p.socket ∉ s.queries.map fun q => q.socket) ∧ (s.history.sockets p.socket).closed = true) ∧
    (∀ p ∈ s.history.abandoned, (s.history.sockets p.socket).closed = false ∧
      (p.socket ∉ s.queries.map fun q => q.socket) ∧
      ∀ a ∈ s.history.answers, a.query.socket ≠ p.socket) ∧
    (s.history.passed.map fun p => p.socket).Nodup ∧
    (s.history.answers.map fun a => a.query.socket).Nodup ∧
    (∀ a ∈ s.history.answers, a.query ∈ s.history.passed ∧
      (a.query.socket, a.datagram) ∈ s.history.arrivals ∧
      a.responseData = receive (List.replicate responseSize 0) a.datagram.data) ∧
    ∀ p ∈ s.history.dropped, p ∈ s.history.passed ∧ ∀ a ∈ s.history.answers, a.query ≠ p := by
  have hcustody := custody_run h
  have htimely := timely_run h hclock
  refine ⟨htimely.sorted, ?_, ?_, fun p hp => hcustody.abandoned_unused hp, hcustody.passed_nodup,
    hcustody.answers_nodup, ?_, ?_⟩
  · rintro server callback now created outcome t hnow hcreated (rfl | rfl) hstep
    · obtain rfl := Option.some.inj hstep
      exact (htimely.addQuery hnow hcreated ⟨s.history.created, callback, server⟩ false _).2
    · obtain rfl := Option.some.inj hstep
      exact (htimely.addQuery hnow hcreated ⟨s.history.created, callback, server⟩ true _).2
  · intro p hp
    have hopen := hcustody.open_iff p hp
    cases hclosed : (s.history.sockets p.socket).closed with
    | false => exact Or.inl ⟨hopen.mp hclosed, rfl⟩
    | true =>
      refine Or.inr ⟨fun hmem => ?_, rfl⟩
      rw [hopen.mpr hmem] at hclosed
      cases hclosed
  · intro a ha
    obtain ⟨hfirst, hdata⟩ := hcustody.answer a ha
    refine ⟨(hcustody.answered a ha).1, ?_, hdata⟩
    obtain ⟨p, hp, heq⟩ := List.mem_map.mp (List.mem_of_mem_head? hfirst)
    rw [List.mem_filter, decide_eq_true_eq] at hp
    rw [← hp.2, ← heq]
    exact hp.1
  · exact fun p hp => ⟨(hcustody.dropped p hp).1, (hcustody.dropped p hp).2.2⟩

/-- One query times out before the next one, which is answered; a third one is not created. -/
def oneOfTwo : List (QueueAction Unit Unit) :=
  [.forwardPacket () () (.sent 0 0), .forwardPacket () () (.sent 11000 11000), .arrive 1 ⟨(), [7]⟩,
    .poll fun n => n = 1, .handleResponses fun _ => .handled,
    .forwardPacket () () (.notAdded 12000 12000)]

theorem queries_accounted_for_oneOfTwo : ∃ s : DnsQueryQueue Unit Unit,
    ActionSystem.run stepQueue (startQueue 0) oneOfTwo = some s ∧
    s.history.dropped = [⟨0, (), ()⟩] ∧
    (∀ a ∈ s.history.answers, a.query ≠ ⟨0, (), ()⟩) ∧
    (s.history.answers.map fun a => a.query.socket) = [1] ∧
    s.history.abandoned = [⟨2, (), ()⟩] ∧ (s.history.sockets 2).closed = false := by
  obtain ⟨s, hs⟩ : ∃ s : DnsQueryQueue Unit Unit,
    ActionSystem.run stepQueue (startQueue 0) oneOfTwo = some s := ⟨_, rfl⟩
  have hclock : ActionSystem.StepsMeet stepQueue ClockForward (startQueue 0) oneOfTwo := by decide
  have hdropped : s.history.dropped = [⟨0, (), ()⟩] := by
    obtain rfl := Option.some.inj hs
    rfl
  have hanswers : (s.history.answers.map fun a => a.query.socket) = [1] := by
    obtain rfl := Option.some.inj hs
    rfl
  have habandoned : s.history.abandoned = [⟨2, (), ()⟩] := by
    obtain rfl := Option.some.inj hs
    rfl
  obtain ⟨-, -, -, hleft, -, -, -, hnever⟩ := queries_accounted_for hs hclock
  refine ⟨s, hs, hdropped, (hnever ⟨0, (), ()⟩ ?_).2, hanswers, habandoned,
    (hleft ⟨2, (), ()⟩ ?_).1⟩
  · rw [hdropped]
    exact List.mem_cons_self
  · rw [habandoned]
    exact List.mem_cons_self

/-- A query is pending for up to a second more than the time-out, and a socket passed in is open and
not pending once its query could not be created. -/
theorem not_queries_accounted_for :
    (¬ ∀ (sent now : ℤ) (s : DnsQueryQueue Unit Unit), 0 ≤ sent → sent + 10000 < now →
      ActionSystem.run stepQueue (startQueue 0)
        [DnsQueryQueue.forwardAt sent, DnsQueryQueue.forwardAt now] = some s →
      0 ∉ s.queries.map fun q => q.socket) ∧
    ¬ ∀ (as : List (QueueAction Unit Unit)) s,
      ActionSystem.run stepQueue (startQueue 0) as = some s →
      ∀ p ∈ s.history.passed ++ s.history.abandoned,
        (p.socket ∈ s.queries.map fun q => q.socket) ∧ (s.history.sockets p.socket).closed = false ∨
        (p.socket ∉ s.queries.map fun q => q.socket) ∧ (s.history.sockets p.socket).closed = true := by
  constructor
  · intro h
    exact h 0 10999 _ le_rfl (by decide) rfl (by decide)
  · intro h
    have hsocket := h [.forwardPacket () () (.notAdded 0 0)] _ rfl ⟨0, (), ()⟩ List.mem_cons_self
    exact absurd hsocket (by decide)

end AdAway
