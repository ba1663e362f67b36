import AdAway.Library.ActionSystem
import AdAway.Source.SourceLoader
import Mathlib.Algebra.BigOperators.Fin
import Mathlib.Algebra.BigOperators.Group.Multiset.Basic
import Mathlib.Algebra.Order.BigOperators.Group.Finset
import Mathlib.Data.Fintype.BigOperators
import Mathlib.Tactic.Abel

/-!
# The threads of `SourceLoader.parse`

A reader, `parserCount` parsers and an inserter run on a thread each. The reader puts the lines into
`hostsLineQueue` and then one end marker a parser; a parser takes lines, puts the items it parses
into `hostsListItemQueue` and, once it has taken a marker, an end item; the inserter collects the
items in a reused batch buffer and stops after `parserCount` end items.

One action is one access to a queue together with the local work before the next access, so every
schedule of the threads is a list of actions. The number of parsers `n`, the size of the batch and
the function that parses a line are parameters.

## The markers

The code compares a line with the marker by reference. `QueuedLine.endMarker` is that reference; a
line that merely reads like it is a `QueuedLine.line`.

## Why nothing is lost

The markers follow the lines through the first queue, so a parser that holds one, or has stopped,
finds no line left there (`LoaderInv.lines`). The last end item follows all items through the second
queue, so once all parsers have stopped that queue is empty or ends with an end item
(`LoaderInv.items`). Counting the markers does the rest.

## Main definitions

* `ItemInserter`, `ItemInserter.receive`, `ItemInserter.flush` — the loop of the inserter
* `LoaderState`, `stepLoader` — the threads and their queues

## Main results

* `InserterInv.receive` — the batch holds what was received since the last insert
* `LoaderInv.step`, `loaderMeasure_lt`, `exists_stepLoader` — invariant, measure and progress
* `load_exact` — every schedule ends with every item inserted once
-/

namespace AdAway

/-! ### The queues -/

/-- An element of `hostsLineQueue`. -/
inductive QueuedLine
  /-- A line of the source. -/
  | line (text : String)
  /-- The reference `END_OF_QUEUE_MARKER`. -/
  | endMarker
  deriving DecidableEq, Repr

/-- An element of `hostsListItemQueue`. -/
inductive QueuedItem
  /-- A parsed item. -/
  | item (item : HostListItem)
  /-- An item whose host is the reference `END_OF_QUEUE_MARKER`. -/
  | endItem
  deriving DecidableEq, Repr

/-! ### The inserter -/

/-- The local variables of `ItemInserter.call`, and the calls it has made to the DAO. -/
structure ItemInserter where
  inserted : ℕ
  workerStopped : ℕ
  /-- The reused buffer, with `null` in the slots never written. -/
  batch : List (Option HostListItem)
  cacheSize : ℕ
  queueEmptied : Bool
  /-- The arrays passed to `HostListItemDao.insert`. -/
  inserts : List (List (Option HostListItem))
  /-- The returned count. -/
  returned : Option ℕ
  deriving DecidableEq, Repr

/-- `ItemInserter.call` before its loop. -/
def ItemInserter.init (batchSize : ℕ) : ItemInserter where
  inserted := 0
  workerStopped := 0
  batch := List.replicate batchSize none
  cacheSize := 0
  queueEmptied := false
  inserts := []
  returned := none

/-- One turn of the loop of `ItemInserter.call`. -/
def ItemInserter.receive (parserCount : ℕ) (s : ItemInserter) : QueuedItem → ItemInserter
  | .endItem =>
    let workerStopped := s.workerStopped + 1
    { s with
      workerStopped := workerStopped
      queueEmptied := s.queueEmptied || decide (parserCount ≤ workerStopped) }
  | .item item =>
    let batch := s.batch.set s.cacheSize (some item)
    let cacheSize := s.cacheSize + 1
    if batch.length ≤ cacheSize then
      { s with
        batch := batch
        inserts := s.inserts ++ [batch]
        inserted := s.inserted + cacheSize
        cacheSize := 0 }
    else { s with batch := batch, cacheSize := cacheSize }

/-- `ItemInserter.call` after its loop. -/
def ItemInserter.flush (s : ItemInserter) : ItemInserter :=
  let remaining := s.batch.take s.cacheSize
  let inserted := s.inserted + s.cacheSize
  { s with
    inserts := s.inserts ++ [remaining]
    inserted := inserted
    returned := some inserted }

/-! ### The system -/

/-- A parser thread. -/
inductive ParserState
  /-- Before `lineQueue.take()`. -/
  | taking
  /-- It has taken this element. -/
  | parsing (line : QueuedLine)
  /-- Its loop has ended. -/
  | stopped
  deriving DecidableEq, Repr

/-- The threads and their queues, with `n` parsers. -/
structure LoaderState (n : ℕ) where
  /-- The lines the reader has not read. -/
  unread : List String
  /-- The markers the reader has not sent. -/
  unsent : ℕ
  hostsLineQueue : List QueuedLine
  parsers : Fin n → ParserState
  hostsListItemQueue : List QueuedItem
  inserter : ItemInserter

/-- What may happen next. -/
inductive LoaderAction (n : ℕ)
  /-- The reader adds a line or a marker. -/
  | read
  /-- A parser takes an element. -/
  | take (i : Fin n)
  /-- A parser deals with the element it has taken. -/
  | parse (i : Fin n)
  /-- The inserter takes an element and deals with it. -/
  | insert
  /-- The inserter flushes its batch and returns. -/
  | flush
  deriving DecidableEq, Repr

/-- The item a queued line is parsed to. -/
def QueuedLine.result (parse : String → Option HostListItem) : QueuedLine → Option HostListItem
  | .line text => parse text
  | .endMarker => none

/-- What a parser adds to the item queue for an element. -/
def QueuedLine.output (parse : String → Option HostListItem) : QueuedLine → List QueuedItem
  | .line text => (parse text).toList.map QueuedItem.item
  | .endMarker => [.endItem]

/-- What a parser does after an element. -/
def QueuedLine.next : QueuedLine → ParserState
  | .line _ => .taking
  | .endMarker => .stopped

variable {n : ℕ}

/-- One step. -/
def stepLoader (parse : String → Option HostListItem) (s : LoaderState n) :
    LoaderAction n → Option (LoaderState n)
  | .read =>
    match s.unread, s.unsent with
    | line :: unread, _ =>
      some { s with unread := unread, hostsLineQueue := s.hostsLineQueue ++ [.line line] }
    | [], unsent + 1 =>
      some { s with unsent := unsent, hostsLineQueue := s.hostsLineQueue ++ [.endMarker] }
    | [], 0 => none
  | .take i =>
    match s.parsers i, s.hostsLineQueue with
    | .taking, line :: queue =>
      some { s with
        hostsLineQueue := queue
        parsers := Function.update s.parsers i (.parsing line) }
    | _, _ => none
  | .parse i =>
    match s.parsers i with
    | .parsing line =>
      some { s with
        parsers := Function.update s.parsers i line.next
        hostsListItemQueue := s.hostsListItemQueue ++ line.output parse }
    | _ => none
  | .insert =>
    match s.inserter.queueEmptied, s.hostsListItemQueue with
    | false, item :: queue =>
      some { s with
        hostsListItemQueue := queue
        inserter := s.inserter.receive n item }
    | _, _ => none
  | .flush =>
    match s.inserter.queueEmptied, s.inserter.returned with
    | true, none => some { s with inserter := s.inserter.flush }
    | _, _ => none

/-- The threads are about to start. -/
def startLoader (n batchSize : ℕ) (lines : List String) : LoaderState n where
  unread := lines
  unsent := n
  hostsLineQueue := []
  parsers := fun _ => .taking
  hostsListItemQueue := []
  inserter := .init batchSize

/-- One step, as a relation. -/
inductive LoaderStep (parse : String → Option HostListItem) (s : LoaderState n) :
    LoaderAction n → LoaderState n → Prop
  | readLine (line unread) (h : s.unread = line :: unread) :
      LoaderStep parse s .read
        { s with unread := unread, hostsLineQueue := s.hostsLineQueue ++ [.line line] }
  | sendMarker (unsent) (h : s.unread = []) (hn : s.unsent = unsent + 1) :
      LoaderStep parse s .read
        { s with unsent := unsent, hostsLineQueue := s.hostsLineQueue ++ [.endMarker] }
  | take (i line queue) (hi : s.parsers i = .taking) (hq : s.hostsLineQueue = line :: queue) :
      LoaderStep parse s (.take i)
        { s with
          hostsLineQueue := queue
          parsers := Function.update s.parsers i (.parsing line) }
  | parse (i line) (hi : s.parsers i = .parsing line) :
      LoaderStep parse s (.parse i)
        { s with
          parsers := Function.update s.parsers i line.next
          hostsListItemQueue := s.hostsListItemQueue ++ line.output parse }
  | insert (item queue) (he : s.inserter.queueEmptied = false)
      (hq : s.hostsListItemQueue = item :: queue) :
      LoaderStep parse s .insert
        { s with
          hostsListItemQueue := queue
          inserter := s.inserter.receive n item }
  | flush (he : s.inserter.queueEmptied = true) (hr : s.inserter.returned = none) :
      LoaderStep parse s .flush { s with inserter := s.inserter.flush }

theorem stepLoader_eq_some {parse : String → Option HostListItem} {s s' : LoaderState n}
    {a : LoaderAction n} (h : stepLoader parse s a = some s') : LoaderStep parse s a s' := by
  cases a with
  | read =>
    rw [stepLoader] at h
    split at h
    next _ line unread hu => exact Option.some.inj h ▸ .readLine line unread hu
    next hu hn => exact Option.some.inj h ▸ .sendMarker _ hu hn
    next => cases h
  | take i =>
    rw [stepLoader] at h
    split at h
    next line queue hi hq => exact Option.some.inj h ▸ .take i line queue hi hq
    next => cases h
  | parse i =>
    rw [stepLoader] at h
    split at h
    next line hi => exact Option.some.inj h ▸ .parse i line hi
    next => cases h
  | insert =>
    rw [stepLoader] at h
    split at h
    next item queue he hq => exact Option.some.inj h ▸ .insert item queue he hq
    next => cases h
  | flush =>
    rw [stepLoader] at h
    split at h
    next he hr => exact Option.some.inj h ▸ .flush he hr
    next => cases h

/-! ### What the inserter has received -/

/-- The inserter has received the items `received`, in this order: they are in the arrays it has
inserted and, up to `cacheSize`, in its buffer. -/
structure InserterInv (batchSize : ℕ) (received : List HostListItem) (s : ItemInserter) : Prop where
  length_eq : s.batch.length = batchSize
  cacheSize_lt : s.cacheSize < batchSize
  inserted_eq : s.inserted = s.inserts.flatten.length
  kept : s.returned = none →
    s.inserts.flatten ++ s.batch.take s.cacheSize = received.map some
  returned : ∀ count, s.returned = some count →
    s.inserts.flatten = received.map some ∧ count = received.length

theorem inserterInv_init {batchSize : ℕ} (h : 0 < batchSize) :
    InserterInv batchSize [] (.init batchSize) :=
  ⟨List.length_replicate, h, rfl, fun _ => rfl, nofun⟩

theorem take_set_succ {α : Type*} {l : List α} {k : ℕ} (h : k < l.length) (a : α) :
    (l.set k a).take (k + 1) = l.take k ++ [a] := by
  rw [List.take_add_one, List.take_set_of_le (le_refl k), List.getElem?_set_self h]
  rfl

/-- A received item goes to the next slot; a full batch is inserted as a whole, each slot of it
written since the last insert. -/
theorem InserterInv.receive {batchSize : ℕ} {received : List HostListItem} {s : ItemInserter}
    (hs : InserterInv batchSize received s) (hr : s.returned = none) (n : ℕ)
    (item : HostListItem) :
    InserterInv batchSize (received ++ [item]) (s.receive n (.item item)) := by
  have hlt : s.cacheSize < s.batch.length := by
    rw [hs.length_eq]
    exact hs.cacheSize_lt
  have hkept : s.inserts.flatten ++ (s.batch.set s.cacheSize (some item)).take (s.cacheSize + 1)
      = (received ++ [item]).map some := by
    rw [take_set_succ hlt, ← List.append_assoc, hs.kept hr, List.map_append]
    rfl
  have hlen : (s.batch.set s.cacheSize (some item)).length = batchSize := by
    rw [List.length_set, hs.length_eq]
  rw [ItemInserter.receive]
  by_cases hfull : (s.batch.set s.cacheSize (some item)).length ≤ s.cacheSize + 1
  · rw [if_pos hfull]
    rw [List.take_of_length_le hfull] at hkept
    have hsize : s.cacheSize + 1 = batchSize := by
      have := hs.cacheSize_lt
      omega
    have hpos : 0 < batchSize := hsize ▸ Nat.succ_pos s.cacheSize
    refine ⟨hlen, hpos, ?_, fun _ => ?_, fun count hc => ?_⟩
    · rw [List.flatten_append, List.length_append, ← hs.inserted_eq]
      simp [hlen, hsize]
    · simpa using hkept
    · rw [hr] at hc
      cases hc
  · rw [if_neg hfull]
    have hroom : s.cacheSize + 1 < batchSize := by
      rw [hlen] at hfull
      omega
    refine ⟨hlen, hroom, hs.inserted_eq, fun _ => hkept, fun count hc => ?_⟩
    rw [hr] at hc
    cases hc

theorem InserterInv.flush {batchSize : ℕ} {received : List HostListItem} {s : ItemInserter}
    (hs : InserterInv batchSize received s) (hr : s.returned = none) :
    InserterInv batchSize received s.flush := by
  have hall : s.flush.inserts.flatten = received.map some := by
    rw [← hs.kept hr, ItemInserter.flush, List.flatten_append]
    simp
  have hcount : s.inserted + s.cacheSize = s.flush.inserts.flatten.length := by
    have hle : s.cacheSize ≤ s.batch.length := by
      rw [hs.length_eq]
      exact hs.cacheSize_lt.le
    rw [ItemInserter.flush, List.flatten_append, List.length_append, ← hs.inserted_eq]
    simp [hle]
  refine ⟨hs.length_eq, hs.cacheSize_lt, hcount, nofun, fun count hc => ⟨hall, ?_⟩⟩
  obtain rfl := Option.some.inj hc
  rw [hcount, hall, List.length_map]

/-! ### The invariant of the threads -/

/-- The parser has taken its marker. -/
def ParserState.ended : ParserState → ℕ
  | .parsing .endMarker | .stopped => 1
  | .taking | .parsing (.line _) => 0

/-- The parser has sent its end item. -/
def ParserState.done : ParserState → ℕ
  | .stopped => 1
  | .taking | .parsing _ => 0

/-- The parser holds an element. -/
def ParserState.busy : ParserState → ℕ
  | .parsing _ => 1
  | .taking | .stopped => 0

/-- The item a parser is about to add. -/
def ParserState.held (parse : String → Option HostListItem) : ParserState → Multiset HostListItem
  | .parsing line => ((line.result parse).toList : Multiset HostListItem)
  | .taking | .stopped => 0

/-- The items in an element of the item queue. -/
def QueuedItem.toOption : QueuedItem → Option HostListItem
  | .item i => some i
  | .endItem => none

/-- The items that are still on their way to the inserter. -/
def LoaderState.pending (parse : String → Option HostListItem) (s : LoaderState n) :
    Multiset HostListItem :=
  (s.unread.filterMap parse : Multiset HostListItem)
    + (s.hostsLineQueue.filterMap fun line => line.result parse : List HostListItem)
    + ∑ i, (s.parsers i).held parse
    + (s.hostsListItemQueue.filterMap QueuedItem.toOption : List HostListItem)

/-- Replacing one summand. -/
theorem sum_update_add {σ M : Type*} [AddCommMonoid M] (g : σ → M) (f : Fin n → σ) (i : Fin n)
    (x : σ) : ∑ j, g (Function.update f i x j) + g (f i) = ∑ j, g (f j) + g x := by
  have hcomp : (fun j => g (Function.update f i x j)) = Function.update (fun j => g (f j)) i (g x) :=
    funext fun j => Function.apply_update (fun _ => g) f i x j
  rw [hcomp, Finset.sum_update_of_mem (Finset.mem_univ i),
    Finset.sum_eq_add_sum_sdiff_singleton_of_mem (Finset.mem_univ i) fun j => g (f j)]
  abel

/-- The invariant of the threads. -/
structure LoaderInv (parse : String → Option HostListItem) (batchSize : ℕ) (lines : List String)
    (s : LoaderState n) : Prop where
  /-- Every parsed item is received or on its way. -/
  content : ∃ received, InserterInv batchSize received s.inserter ∧
    (received : Multiset HostListItem) + s.pending parse = (lines.filterMap parse : List HostListItem)
  /-- The reader sends the markers last. -/
  unsent : s.unread ≠ [] → s.unsent = n
  /-- There is one marker a parser. -/
  markers : s.unsent + s.hostsLineQueue.count .endMarker + ∑ i, (s.parsers i).ended = n
  /-- There is one end item a stopped parser. -/
  endItems : s.hostsListItemQueue.count .endItem + s.inserter.workerStopped
    = ∑ i, (s.parsers i).done
  /-- The lines are before the markers, and gone once a marker is taken. -/
  lines : ∃ texts k, s.hostsLineQueue
      = texts.map QueuedLine.line ++ List.replicate k QueuedLine.endMarker ∧
    (texts ≠ [] → ∀ i, (s.parsers i).ended = 0)
  /-- The last end item is after every item. -/
  items : (∀ i, s.parsers i = .stopped) → s.hostsListItemQueue ≠ [] →
    s.hostsListItemQueue.getLast? = some .endItem
  /-- The inserter stops after the last end item. -/
  emptied : s.inserter.queueEmptied = true ↔ n ≤ s.inserter.workerStopped
  /-- It returns after it has stopped. -/
  returned : s.inserter.returned ≠ none → s.inserter.queueEmptied = true

theorem loaderInv_start {parse : String → Option HostListItem} {batchSize : ℕ} (hn : 0 < n)
    (hb : 0 < batchSize) (lines : List String) :
    LoaderInv parse batchSize lines (startLoader n batchSize lines) where
  content := by
    refine ⟨[], inserterInv_init hb, ?_⟩
    simp [LoaderState.pending, startLoader, ParserState.held]
  unsent := fun _ => rfl
  markers := by simp [startLoader, ParserState.ended]
  endItems := by simp [startLoader, ParserState.done, ItemInserter.init]
  lines := ⟨[], 0, rfl, fun h => absurd rfl h⟩
  items := fun _ h => absurd rfl h
  emptied := by simp [startLoader, ItemInserter.init, hn.ne']
  returned := fun h => absurd rfl h

/-! ### The items on their way -/

section Pending

variable {parse : String → Option HostListItem} {s : LoaderState n}

theorem pending_readLine {line : String} {unread : List String} (h : s.unread = line :: unread) :
    LoaderState.pending parse
        { s with unread := unread, hostsLineQueue := s.hostsLineQueue ++ [.line line] }
      = s.pending parse := by
  have hhead : ((line :: unread).filterMap parse : Multiset HostListItem)
      = ([line].filterMap parse : List HostListItem) + (unread.filterMap parse : List HostListItem) := by
    rw [← List.singleton_append, List.filterMap_append, Multiset.coe_add]
  have hlast : ([QueuedLine.line line].filterMap fun l => l.result parse)
      = [line].filterMap parse := by
    simp [List.filterMap_cons, QueuedLine.result]
  rw [LoaderState.pending, LoaderState.pending, h, hhead, List.filterMap_append, hlast,
    ← Multiset.coe_add]
  abel

theorem pending_sendMarker {unsent : ℕ} :
    LoaderState.pending parse
        { s with unsent := unsent, hostsLineQueue := s.hostsLineQueue ++ [.endMarker] }
      = s.pending parse := by
  have hlast : ([QueuedLine.endMarker].filterMap fun l => l.result parse) = [] := rfl
  rw [LoaderState.pending, LoaderState.pending, List.filterMap_append, hlast, List.append_nil]

theorem pending_take {i : Fin n} {line : QueuedLine} {queue : List QueuedLine}
    (hi : s.parsers i = .taking) (hq : s.hostsLineQueue = line :: queue) :
    LoaderState.pending parse
        { s with
          hostsLineQueue := queue
          parsers := Function.update s.parsers i (.parsing line) }
      = s.pending parse := by
  have hsum := sum_update_add (ParserState.held parse) s.parsers i (.parsing line)
  rw [hi, show ParserState.held parse .taking = 0 from rfl, add_zero] at hsum
  have hhead : ((line :: queue).filterMap fun l => l.result parse : Multiset HostListItem)
      = ParserState.held parse (.parsing line)
        + (queue.filterMap fun l => l.result parse : List HostListItem) := by
    rw [ParserState.held, Multiset.coe_add]
    cases hl : line.result parse <;> simp [hl]
  rw [LoaderState.pending, LoaderState.pending, hq, hhead, hsum]
  abel

theorem pending_parse {i : Fin n} {line : QueuedLine} (hi : s.parsers i = .parsing line) :
    LoaderState.pending parse
        { s with
          parsers := Function.update s.parsers i line.next
          hostsListItemQueue := s.hostsListItemQueue ++ line.output parse }
      = s.pending parse := by
  have hsum := sum_update_add (ParserState.held parse) s.parsers i line.next
  have hnext : ParserState.held parse line.next = 0 := by cases line <;> rfl
  rw [hi, hnext, add_zero] at hsum
  have houtput : ((line.output parse).filterMap QueuedItem.toOption : Multiset HostListItem)
      = ParserState.held parse (.parsing line) := by
    cases line with
    | line text => cases hl : parse text <;>
        simp [QueuedLine.output, ParserState.held, QueuedLine.result, hl, QueuedItem.toOption]
    | endMarker => rfl
  rw [LoaderState.pending, LoaderState.pending, ← hsum, List.filterMap_append, ← Multiset.coe_add,
    houtput]
  abel

theorem pending_insert {item : QueuedItem} {queue : List QueuedItem}
    (hq : s.hostsListItemQueue = item :: queue) (inserter : ItemInserter) :
    s.pending parse = (item.toOption.toList : Multiset HostListItem)
      + LoaderState.pending parse
        { s with hostsListItemQueue := queue, inserter := inserter } := by
  have hhead : ((item :: queue).filterMap QueuedItem.toOption : Multiset HostListItem)
      = (item.toOption.toList : Multiset HostListItem)
        + (queue.filterMap QueuedItem.toOption : List HostListItem) := by
    rw [Multiset.coe_add]
    cases hl : item.toOption <;> simp [hl]
  rw [LoaderState.pending, LoaderState.pending, hq, hhead]
  abel

end Pending

/-! ### Every step keeps the invariant -/

theorem ParserState.ended_le_one (p : ParserState) : p.ended ≤ 1 := by
  rcases p with _ | (_ | _) | _ <;> simp [ParserState.ended]

theorem ParserState.done_eq_one {p : ParserState} (h : p.done = 1) : p = .stopped := by
  cases p with
  | stopped => rfl
  | taking => cases h
  | parsing => cases h

theorem ParserState.done_le_one (p : ParserState) : p.done ≤ 1 := by
  cases p <;> simp [ParserState.done]

theorem QueuedLine.ended_next (line : QueuedLine) :
    line.next.ended = (ParserState.parsing line).ended := by
  cases line <;> rfl

theorem QueuedLine.count_output (parse : String → Option HostListItem) (line : QueuedLine) :
    (line.output parse).count .endItem = line.next.done := by
  cases line with
  | line text => cases h : parse text <;> simp [QueuedLine.output, QueuedLine.next, h, ParserState.done]
  | endMarker => rfl

theorem receive_item_frame (n : ℕ) (s : ItemInserter) (item : HostListItem) :
    (s.receive n (.item item)).workerStopped = s.workerStopped ∧
      (s.receive n (.item item)).queueEmptied = s.queueEmptied ∧
      (s.receive n (.item item)).returned = s.returned := by
  rw [ItemInserter.receive]
  split <;> exact ⟨rfl, rfl, rfl⟩

theorem count_endMarker (texts : List String) (k : ℕ) :
    (texts.map QueuedLine.line ++ List.replicate k QueuedLine.endMarker).count .endMarker = k := by
  have htexts : (texts.map QueuedLine.line).count .endMarker = 0 := by
    rw [List.count_eq_zero]
    simp
  rw [List.count_append, htexts, List.count_replicate_self, Nat.zero_add]

section Step

variable {parse : String → Option HostListItem} {batchSize : ℕ} {lines : List String}
  {s s' : LoaderState n}

/-- While lines are unread, no marker is under way. -/
theorem LoaderInv.no_marker (hs : LoaderInv parse batchSize lines s) (hu : s.unread ≠ []) :
    s.hostsLineQueue.count .endMarker = 0 ∧ ∀ i, (s.parsers i).ended = 0 := by
  have hmarkers := hs.markers
  have hunsent := hs.unsent hu
  have hsum : ∑ i, (s.parsers i).ended = 0 := by omega
  refine ⟨by omega, fun i => ?_⟩
  exact Finset.sum_eq_zero_iff.mp hsum i (Finset.mem_univ i)

theorem LoaderInv.readLine (hs : LoaderInv parse batchSize lines s) {line : String}
    {unread : List String} (h : s.unread = line :: unread) :
    LoaderInv parse batchSize lines
      { s with unread := unread, hostsLineQueue := s.hostsLineQueue ++ [.line line] } where
  content := by
    obtain ⟨received, hins, heq⟩ := hs.content
    exact ⟨received, hins, by rw [pending_readLine h, heq]⟩
  unsent := fun _ => hs.unsent (by simp [h])
  markers := by
    rw [List.count_append, show [QueuedLine.line line].count .endMarker = 0 from rfl]
    exact hs.markers
  endItems := hs.endItems
  lines := by
    obtain ⟨hcount, hended⟩ := hs.no_marker (by simp [h])
    obtain ⟨texts, k, hq, -⟩ := hs.lines
    rw [hq, count_endMarker] at hcount
    refine ⟨texts ++ [line], 0, ?_, fun _ => hended⟩
    rw [hq, hcount]
    simp
  items := hs.items
  emptied := hs.emptied
  returned := hs.returned

theorem LoaderInv.sendMarker (hs : LoaderInv parse batchSize lines s) {unsent : ℕ}
    (h : s.unread = []) (hn : s.unsent = unsent + 1) :
    LoaderInv parse batchSize lines
      { s with unsent := unsent, hostsLineQueue := s.hostsLineQueue ++ [.endMarker] } where
  content := by
    obtain ⟨received, hins, heq⟩ := hs.content
    exact ⟨received, hins, by rw [pending_sendMarker, heq]⟩
  unsent := fun hu => absurd h hu
  markers := by
    have hmarkers := hs.markers
    rw [List.count_append, show [QueuedLine.endMarker].count .endMarker = 1 from rfl]
    show unsent + (s.hostsLineQueue.count .endMarker + 1) + ∑ i, (s.parsers i).ended = n
    omega
  endItems := hs.endItems
  lines := by
    obtain ⟨texts, k, hq, htexts⟩ := hs.lines
    refine ⟨texts, k + 1, ?_, htexts⟩
    rw [hq, List.append_assoc, List.replicate_succ']
  items := hs.items
  emptied := hs.emptied
  returned := hs.returned

theorem LoaderInv.take (hs : LoaderInv parse batchSize lines s) {i : Fin n} {line : QueuedLine}
    {queue : List QueuedLine} (hi : s.parsers i = .taking) (hq : s.hostsLineQueue = line :: queue) :
    LoaderInv parse batchSize lines
      { s with
        hostsLineQueue := queue
        parsers := Function.update s.parsers i (.parsing line) } where
  content := by
    obtain ⟨received, hins, heq⟩ := hs.content
    exact ⟨received, hins, by rw [pending_take hi hq, heq]⟩
  unsent := hs.unsent
  markers := by
    have hmarkers := hs.markers
    have hsum := sum_update_add ParserState.ended s.parsers i (.parsing line)
    rw [hi, show ParserState.ended .taking = 0 from rfl] at hsum
    rw [hq, List.count_cons] at hmarkers
    have hline : (if (line == QueuedLine.endMarker) = true then 1 else 0)
        = (ParserState.parsing line).ended := by cases line <;> rfl
    rw [hline] at hmarkers
    show s.unsent + queue.count .endMarker
      + ∑ j, (Function.update s.parsers i (.parsing line) j).ended = n
    omega
  endItems := by
    have hsum := sum_update_add ParserState.done s.parsers i (.parsing line)
    rw [hi, show ParserState.done .taking = 0 from rfl,
      show ParserState.done (.parsing line) = 0 from rfl, add_zero, add_zero] at hsum
    exact hs.endItems.trans hsum.symm
  lines := by
    obtain ⟨texts, k, hqueue, htexts⟩ := hs.lines
    rw [hq] at hqueue
    cases texts with
    | nil =>
      cases k with
      | zero => cases hqueue
      | succ k =>
        obtain ⟨-, htail⟩ := List.cons.inj hqueue
        exact ⟨[], k, htail, fun h => absurd rfl h⟩
    | cons text texts =>
      rw [List.map_cons, List.cons_append] at hqueue
      obtain ⟨rfl, htail⟩ := List.cons.inj hqueue
      refine ⟨texts, k, htail, fun _ j => ?_⟩
      have hended := htexts (List.cons_ne_nil text texts) j
      show (Function.update s.parsers i _ j).ended = 0
      rcases eq_or_ne j i with rfl | hne
      · rw [Function.update_self]
        rfl
      · rwa [Function.update_of_ne hne]
  items := fun hall => by
    have hself : Function.update s.parsers i (.parsing line) i = .stopped := hall i
    rw [Function.update_self] at hself
    cases hself
  emptied := hs.emptied
  returned := hs.returned

theorem LoaderInv.parsed (hs : LoaderInv parse batchSize lines s) {i : Fin n} {line : QueuedLine}
    (hi : s.parsers i = .parsing line) :
    LoaderInv parse batchSize lines
      { s with
        parsers := Function.update s.parsers i line.next
        hostsListItemQueue := s.hostsListItemQueue ++ line.output parse } where
  content := by
    obtain ⟨received, hins, heq⟩ := hs.content
    exact ⟨received, hins, by rw [pending_parse hi, heq]⟩
  unsent := hs.unsent
  markers := by
    have hsum := sum_update_add ParserState.ended s.parsers i line.next
    rw [hi, line.ended_next, Nat.add_right_cancel_iff] at hsum
    exact hsum.symm ▸ hs.markers
  endItems := by
    have hsum := sum_update_add ParserState.done s.parsers i line.next
    rw [hi, show ParserState.done (.parsing line) = 0 from rfl, add_zero] at hsum
    have hend := hs.endItems
    show (s.hostsListItemQueue ++ line.output parse).count .endItem + s.inserter.workerStopped
      = ∑ j, (Function.update s.parsers i line.next j).done
    rw [List.count_append, line.count_output, hsum, ← hend]
    omega
  lines := by
    obtain ⟨texts, k, hq, htexts⟩ := hs.lines
    refine ⟨texts, k, hq, fun hne j => ?_⟩
    show (Function.update s.parsers i line.next j).ended = 0
    rcases eq_or_ne j i with rfl | hji
    · rw [Function.update_self, line.ended_next, ← hi]
      exact htexts hne j
    · rw [Function.update_of_ne hji]
      exact htexts hne j
  items := fun hall _ => by
    have hself : Function.update s.parsers i line.next i = .stopped := hall i
    rw [Function.update_self] at hself
    cases line with
    | line text => cases hself
    | endMarker => exact List.getLast?_concat
  emptied := hs.emptied
  returned := hs.returned

theorem LoaderInv.insert (hs : LoaderInv parse batchSize lines s) {item : QueuedItem}
    {queue : List QueuedItem} (he : s.inserter.queueEmptied = false)
    (hq : s.hostsListItemQueue = item :: queue) :
    LoaderInv parse batchSize lines
      { s with
        hostsListItemQueue := queue
        inserter := s.inserter.receive n item } := by
  have hr : s.inserter.returned = none := by
    by_contra hr
    rw [hs.returned hr] at he
    cases he
  have hend := hs.endItems
  rw [hq, List.count_cons] at hend
  have hitems : (∀ i, s.parsers i = .stopped) → queue ≠ [] → queue.getLast? = some .endItem := by
    intro hall hne
    have hlast := hs.items hall (by simp [hq])
    rw [hq] at hlast
    obtain ⟨j, rest, rfl⟩ := List.exists_cons_of_ne_nil hne
    rwa [List.getLast?_cons_cons] at hlast
  obtain ⟨received, hins, heq⟩ := hs.content
  rw [pending_insert hq (s.inserter.receive n item)] at heq
  cases item with
  | item i =>
    obtain ⟨hws, hqe, hret⟩ := receive_item_frame n s.inserter i
    refine ⟨⟨received ++ [i], hins.receive hr n i, ?_⟩, hs.unsent, hs.markers, ?_, hs.lines, hitems,
      ?_, ?_⟩
    · rw [← heq, ← Multiset.coe_add, add_assoc]
      rfl
    · rw [hws]
      simpa using hend
    · rw [hws, hqe]
      exact hs.emptied
    · rw [hqe, hret]
      exact hs.returned
  | endItem =>
    refine ⟨⟨received, ⟨hins.length_eq, hins.cacheSize_lt, hins.inserted_eq, hins.kept,
      hins.returned⟩, ?_⟩, hs.unsent, hs.markers, ?_, hs.lines, hitems, ?_, ?_⟩
    · rw [← heq]
      simp [QueuedItem.toOption]
    · show queue.count .endItem + (s.inserter.workerStopped + 1) = _
      rw [← hend]
      simp
      omega
    · show (s.inserter.queueEmptied || decide (n ≤ s.inserter.workerStopped + 1)) = true ↔ _
      rw [he, Bool.false_or, decide_eq_true_eq]
      rfl
    · exact fun h => absurd hr h

theorem LoaderInv.flush (hs : LoaderInv parse batchSize lines s)
    (he : s.inserter.queueEmptied = true) (hr : s.inserter.returned = none) :
    LoaderInv parse batchSize lines { s with inserter := s.inserter.flush } := by
  obtain ⟨received, hins, heq⟩ := hs.content
  exact ⟨⟨received, hins.flush hr, heq⟩, hs.unsent, hs.markers, hs.endItems, hs.lines, hs.items,
    hs.emptied, fun _ => he⟩

/-- **Every step keeps the invariant.** -/
theorem LoaderInv.step (hs : LoaderInv parse batchSize lines s) {a : LoaderAction n}
    (h : stepLoader parse s a = some s') : LoaderInv parse batchSize lines s' := by
  cases stepLoader_eq_some h with
  | readLine _ _ hu => exact hs.readLine hu
  | sendMarker _ hu hn => exact hs.sendMarker hu hn
  | take _ _ _ hi hq => exact hs.take hi hq
  | parse _ _ hi => exact hs.parsed hi
  | insert _ _ he hq => exact hs.insert he hq
  | flush he hr => exact hs.flush he hr

end Step

/-! ### Termination -/

/-- The steps the state has left: four for an unread line or unsent marker, three for one in the
first queue, two for one a parser holds, one for an item in the second queue, one for the flush. -/
def loaderMeasure (s : LoaderState n) : ℕ :=
  4 * (s.unread.length + s.unsent) + 3 * s.hostsLineQueue.length + 2 * ∑ i, (s.parsers i).busy
    + s.hostsListItemQueue.length + if s.inserter.returned = none then 1 else 0

theorem QueuedLine.length_output_le (parse : String → Option HostListItem) (line : QueuedLine) :
    (line.output parse).length ≤ 1 := by
  cases line with
  | line text => cases h : parse text <;> simp [QueuedLine.output, h]
  | endMarker => exact le_rfl

theorem loaderMeasure_lt {parse : String → Option HostListItem} {s s' : LoaderState n}
    {a : LoaderAction n} (h : stepLoader parse s a = some s') :
    loaderMeasure s' < loaderMeasure s := by
  cases stepLoader_eq_some h with
  | readLine line unread hu =>
    simp only [loaderMeasure, hu, List.length_cons, List.length_append, List.length_nil]
    omega
  | sendMarker unsent hu hn =>
    simp only [loaderMeasure, hu, hn, List.length_cons, List.length_append, List.length_nil]
    omega
  | take i line queue hi hq =>
    have hsum := sum_update_add ParserState.busy s.parsers i (.parsing line)
    rw [hi, show ParserState.busy .taking = 0 from rfl,
      show ParserState.busy (.parsing line) = 1 from rfl] at hsum
    simp only [loaderMeasure, hq, List.length_cons]
    omega
  | parse i line hi =>
    have hsum := sum_update_add ParserState.busy s.parsers i line.next
    have hnext : line.next.busy = 0 := by cases line <;> rfl
    have hout := line.length_output_le parse
    rw [hi, hnext, show ParserState.busy (.parsing line) = 1 from rfl] at hsum
    simp only [loaderMeasure, List.length_append]
    omega
  | insert item queue he hq =>
    have hret : (s.inserter.receive n item).returned = s.inserter.returned := by
      cases item with
      | item i => exact (receive_item_frame n s.inserter i).2.2
      | endItem => rfl
    simp only [loaderMeasure, hq, hret, List.length_cons]
    omega
  | flush he hr =>
    have hret : s.inserter.flush.returned ≠ none := Option.some_ne_none _
    simp only [loaderMeasure, hr, hret, if_true, if_false]
    omega

section Progress

variable {parse : String → Option HostListItem} {batchSize : ℕ} {lines : List String}
  {s : LoaderState n}

/-- A count over the parsers that leaves one out is less than their number. -/
theorem sum_lt_of_eq_zero {g : ParserState → ℕ} (hg : ∀ p, g p ≤ 1) {i : Fin n}
    (hi : g (s.parsers i) = 0) : ∑ j, g (s.parsers j) < n := by
  have hlt : ∑ j, g (s.parsers j) < ∑ _j : Fin n, 1 :=
    Finset.sum_lt_sum (fun j _ => hg (s.parsers j)) ⟨i, Finset.mem_univ i, hi ▸ Nat.one_pos⟩
  simpa using hlt

theorem sum_done_le (s : LoaderState n) : ∑ i, (s.parsers i).done ≤ n := by
  have hle := Finset.sum_le_sum fun i (_ : i ∈ Finset.univ) => (s.parsers i).done_le_one
  simpa using hle

/-- When every parser counts, every parser has stopped. -/
theorem all_stopped_of_sum_done (h : n ≤ ∑ i, (s.parsers i).done) :
    ∀ i, s.parsers i = .stopped := by
  intro i
  by_contra hi
  have hzero : (s.parsers i).done = 0 := by
    have hne : (s.parsers i).done ≠ 1 := fun h1 => hi (ParserState.done_eq_one h1)
    have hle := (s.parsers i).done_le_one
    omega
  have hlt := sum_lt_of_eq_zero ParserState.done_le_one hzero
  omega

theorem sum_ended_of_all_stopped (h : ∀ i, s.parsers i = .stopped) :
    ∑ i, (s.parsers i).ended = n := by
  simp [h, ParserState.ended]

/-- Once all parsers have stopped, nothing is left before the second queue. -/
theorem LoaderInv.drained (hs : LoaderInv parse batchSize lines s) (hn : 0 < n)
    (hall : ∀ i, s.parsers i = .stopped) :
    s.unread = [] ∧ s.unsent = 0 ∧ s.hostsLineQueue = [] := by
  have hmarkers := hs.markers
  rw [sum_ended_of_all_stopped hall] at hmarkers
  refine ⟨?_, by omega, ?_⟩
  · by_contra hu
    have := hs.unsent hu
    omega
  · obtain ⟨texts, k, hq, htexts⟩ := hs.lines
    rw [hq, count_endMarker] at hmarkers
    have htexts : texts = [] := by
      by_contra hne
      have hended := htexts hne ⟨0, hn⟩
      rw [hall] at hended
      cases hended
    rw [hq, htexts, show k = 0 by omega]
    rfl

/-- **The inserter stops only after every item has been received.** -/
theorem LoaderInv.received_all (hs : LoaderInv parse batchSize lines s) (hn : 0 < n)
    (he : s.inserter.queueEmptied = true) :
    (∀ i, s.parsers i = .stopped) ∧ s.unread = [] ∧ s.unsent = 0 ∧ s.hostsLineQueue = [] ∧
      s.hostsListItemQueue = [] := by
  have hstopped := hs.emptied.mp he
  have hend := hs.endItems
  have hsum := sum_done_le s
  have hall := all_stopped_of_sum_done (show n ≤ ∑ i, (s.parsers i).done by omega)
  obtain ⟨hu, hun, hq⟩ := hs.drained hn hall
  refine ⟨hall, hu, hun, hq, ?_⟩
  by_contra hne
  have hlast := hs.items hall hne
  have hmem : QueuedItem.endItem ∈ s.hostsListItemQueue := List.mem_of_getLast? hlast
  have hpos := List.count_pos_iff.mpr hmem
  omega

/-- **The threads never block**: when none can take a step, the inserter has returned. -/
theorem LoaderInv.returned_of_stuck (hs : LoaderInv parse batchSize lines s)
    (hstuck : ∀ a, stepLoader parse s a = none) : s.inserter.returned ≠ none := by
  intro hr
  have hread := hstuck .read
  have hparse : ∀ i line, s.parsers i ≠ .parsing line := fun i line hi => by
    have := hstuck (.parse i)
    simp [stepLoader, hi] at this
  have hu : s.unread = [] ∧ s.unsent = 0 := by
    rw [stepLoader] at hread
    split at hread
    next => cases hread
    next => cases hread
    next hu hn => exact ⟨hu, hn⟩
  have hall : ∀ i, s.parsers i = .stopped := by
    intro i
    cases hi : s.parsers i with
    | stopped => rfl
    | parsing line => exact absurd hi (hparse i line)
    | taking =>
      -- the marker of this parser is still in the queue, so there is something to take
      have hzero : (s.parsers i).ended = 0 := by rw [hi]; rfl
      have hsum := sum_lt_of_eq_zero ParserState.ended_le_one hzero
      have hmarkers := hs.markers
      have hpos : 0 < s.hostsLineQueue.count .endMarker := by omega
      have htake := hstuck (.take i)
      cases hq : s.hostsLineQueue with
      | nil =>
        rw [hq] at hpos
        cases hpos
      | cons line queue => simp [stepLoader, hi, hq] at htake
  cases he : s.inserter.queueEmptied with
  | true =>
    have hflush := hstuck .flush
    simp [stepLoader, he, hr] at hflush
  | false =>
    have hws : ¬ n ≤ s.inserter.workerStopped := fun hle => by
      rw [hs.emptied.mpr hle] at he
      cases he
    have hend := hs.endItems
    have hsum : ∑ i, (s.parsers i).done = n := by simp [hall, ParserState.done]
    have hpos : 0 < s.hostsListItemQueue.count .endItem := by omega
    have hinsert := hstuck .insert
    cases hq : s.hostsListItemQueue with
    | nil =>
      rw [hq] at hpos
      cases hpos
    | cons item queue => simp [stepLoader, he, hq] at hinsert

/-- The inserted items, once the inserter has returned. -/
theorem LoaderInv.inserted (hs : LoaderInv parse batchSize lines s) (hn : 0 < n) {count : ℕ}
    (hr : s.inserter.returned = some count) :
    ∃ items : List HostListItem, s.inserter.inserts.flatten = items.map some ∧
      items.Perm (lines.filterMap parse) ∧ count = items.length := by
  have he := hs.returned (by simp [hr])
  obtain ⟨hall, hu, -, hq, hi⟩ := hs.received_all hn he
  obtain ⟨received, hins, heq⟩ := hs.content
  have hpending : s.pending parse = 0 := by
    simp [LoaderState.pending, hu, hq, hi, hall, ParserState.held]
  rw [hpending, add_zero] at heq
  obtain ⟨hflat, hcount⟩ := hins.returned count hr
  exact ⟨received, hflat, Multiset.coe_eq_coe.mp heq, hcount⟩

end Progress

/-! ### The loader -/

/-- The `parserCount` of `SourceLoader.parse`. -/
abbrev parserCount : ℕ := 3

/-- `SourceLoader.INSERT_BATCH_SIZE`. -/
def insertBatchSize : ℕ := 100

/-- **Every schedule loads every item once.** Whatever the schedule, it ends after a bounded number
of steps, and it only ends with the inserter returning; the inserter stops only once nothing is left
in a queue or a thread; the arrays it has passed to the DAO then hold the items of the valid lines,
each as often as the lines give it, and no empty slot; and it returns their number. -/
theorem load_exact (g : Guava) (source : HostsSource) (lines : List String)
    {as : List (LoaderAction parserCount)} {s : LoaderState parserCount}
    (h : ActionSystem.run (stepLoader (parseLine g source))
      (startLoader parserCount insertBatchSize lines) as = some s) :
    as.length ≤ 4 * (lines.length + parserCount) + 1 ∧
    ((∀ a, stepLoader (parseLine g source) s a = none) → s.inserter.returned ≠ none) ∧
    (s.inserter.queueEmptied = true →
      (∀ i, s.parsers i = .stopped) ∧ s.unread = [] ∧ s.unsent = 0 ∧ s.hostsLineQueue = [] ∧
        s.hostsListItemQueue = []) ∧
    ∀ count, s.inserter.returned = some count →
      ∃ items : List HostListItem, s.inserter.inserts.flatten = items.map some ∧
        items.Perm (lines.filterMap (parseLine g source)) ∧ count = items.length := by
  have hn : 0 < parserCount := by decide
  have hstart : LoaderInv (parseLine g source) insertBatchSize lines
      (startLoader parserCount insertBatchSize lines) := loaderInv_start hn (by decide) lines
  have hs := ActionSystem.invariant_run (fun _ _ _ hs hstep => LoaderInv.step hs hstep) hstart h
  have hlength := ActionSystem.length_add_le_of_measure (I := fun _ => True)
    (fun _ _ _ _ _ => trivial) (fun _ _ _ _ hstep => loaderMeasure_lt hstep) trivial h
  refine ⟨?_, hs.returned_of_stuck, hs.received_all hn, fun count hr => hs.inserted hn hr⟩
  have hinit : loaderMeasure (startLoader parserCount insertBatchSize lines)
      = 4 * (lines.length + parserCount) + 1 := by
    simp [loaderMeasure, startLoader, ParserState.busy, ItemInserter.init]
  omega

/-- A line that reads like the end marker, and a blocked host. -/
def markerLines : List String := ["#EndOfQueueMarker", "0.0.0.0 ads.example"]

/-- The first parser parses all lines. -/
def markerSchedule : List (LoaderAction parserCount) :=
  [.read, .take 0, .parse 0, .read, .take 0, .parse 0, .insert, .read, .read, .read,
    .take 0, .parse 0, .take 1, .parse 1, .take 2, .parse 2, .insert, .insert, .insert, .flush]

theorem load_exact_marker : ∃ s : LoaderState parserCount,
    ActionSystem.run (stepLoader (parseLine lenientGuava hostsFileSource))
      (startLoader parserCount insertBatchSize markerLines) markerSchedule = some s ∧
    s.inserter.returned = some 1 ∧
    ∃ items : List HostListItem, s.inserter.inserts.flatten = items.map some ∧
      items.Perm (markerLines.filterMap (parseLine lenientGuava hostsFileSource)) ∧
      1 = items.length := by
  obtain ⟨s, hs⟩ : ∃ s : LoaderState parserCount,
      ActionSystem.run (stepLoader (parseLine lenientGuava hostsFileSource))
        (startLoader parserCount insertBatchSize markerLines) markerSchedule = some s := ⟨_, rfl⟩
  have hr : s.inserter.returned = some 1 := by
    cases hs
    rfl
  obtain ⟨-, -, -, hinserted⟩ := load_exact lenientGuava hostsFileSource markerLines hs
  exact ⟨s, hs, hr, hinserted 1 hr⟩

end AdAway
