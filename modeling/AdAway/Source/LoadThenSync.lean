import AdAway.Db.RedirectTies
import AdAway.Source.SourceModel

/-!
# Loading a source, and then rebuilding `host_entries`

The three parser threads of `SourceLoader.parse` decide in which order the items of a file are
inserted, and so which identifiers they get. `sync` looks at the identifiers for one purpose only:
of several redirections of a host in its first source, the last one inserted is left in the table.

So the table is the same for every schedule of the threads, but for the hosts that the file
redirects to different addresses, and that no source before it redirects. For these each schedule
leaves one of the redirections of the file, and none of them is left by all schedules: a parser may
hold any line until all others have been parsed.

## Main definitions

* `loadSource` — the tables after `SourceLoader.parse`, for a schedule
* `TiedInFile` — the file decides between redirections of the host by their order

## Main results

* `exists_load_last` — any line may be parsed last
* `load_sync_exact` — what the schedule decides
-/

namespace AdAway

open ActionSystem

/-! ### A line that is parsed last -/

section Schedule

variable (parse : String → Option HostListItem)

/-- The reader has ended. -/
def afterReader (queue : List QueuedLine) (parsers : Fin parserCount → ParserState)
    (items : List QueuedItem) (inserter : ItemInserter) : LoaderState parserCount where
  unread := []
  unsent := 0
  hostsLineQueue := queue
  parsers := parsers
  hostsListItemQueue := items
  inserter := inserter

/-- The reader puts all lines and markers into the queue. -/
theorem reaches_afterReader (lines : List String) :
    Reaches (stepLoader parse) (startLoader parserCount insertBatchSize lines)
      (afterReader (lines.map .line ++ List.replicate parserCount .endMarker) (fun _ => .taking) []
        (.init insertBatchSize)) := by
  have hmarkers : ∀ (k : ℕ) (queue : List QueuedLine),
      Reaches (stepLoader parse)
        { startLoader parserCount insertBatchSize [] with unsent := k, hostsLineQueue := queue }
        (afterReader (queue ++ List.replicate k .endMarker) (fun _ => .taking) []
          (.init insertBatchSize)) := by
    intro k
    induction k with
    | zero =>
      intro queue
      rw [List.replicate_zero, List.append_nil]
      exact .refl _
    | succ k ih =>
      intro queue
      have hnext := ih (queue ++ [.endMarker])
      rw [List.append_assoc, List.singleton_append, ← List.replicate_succ] at hnext
      exact .head (a := .read) rfl hnext
  have hlines : ∀ (lines : List String) (queue : List QueuedLine),
      Reaches (stepLoader parse)
        { startLoader parserCount insertBatchSize lines with hostsLineQueue := queue }
        { startLoader parserCount insertBatchSize [] with
          hostsLineQueue := queue ++ lines.map .line } := by
    intro lines
    induction lines with
    | nil =>
      intro queue
      rw [List.map_nil, List.append_nil]
      exact .refl _
    | cons line lines ih =>
      intro queue
      have hnext := ih (queue ++ [.line line])
      rw [List.append_assoc, List.singleton_append, ← List.map_cons] at hnext
      exact .head (a := .read) rfl hnext
  exact (hlines lines []).trans (hmarkers parserCount (lines.map .line))

/-- A parser that is taking goes through the lines at the head of the queue. -/
theorem reaches_parse {i : Fin parserCount} (parsers : Fin parserCount → ParserState)
    (hi : parsers i = .taking) (inserter : ItemInserter) (lines : List String)
    (queue : List QueuedLine) (items : List QueuedItem) :
    Reaches (stepLoader parse)
      (afterReader (lines.map .line ++ queue) parsers items inserter)
      (afterReader queue parsers (items ++ (lines.filterMap parse).map .item) inserter) := by
  induction lines generalizing items with
  | nil =>
    simp only [List.filterMap_nil, List.map_nil, List.append_nil, List.nil_append]
    exact .refl _
  | cons line lines ih =>
    have htake : stepLoader parse
        (afterReader ((line :: lines).map .line ++ queue) parsers items inserter) (.take i) =
        some (afterReader (lines.map .line ++ queue)
          (Function.update parsers i (.parsing (.line line))) items inserter) := by
      simp [stepLoader, afterReader, hi]
    have hparse : stepLoader parse
        (afterReader (lines.map .line ++ queue)
          (Function.update parsers i (.parsing (.line line))) items inserter) (.parse i) =
        some (afterReader (lines.map .line ++ queue) parsers
          (items ++ (parse line).toList.map .item) inserter) := by
      have hback : Function.update parsers i .taking = parsers := by
        rw [← hi, Function.update_eq_self]
      simp [stepLoader, afterReader, QueuedLine.next, QueuedLine.output, hback]
    have hnext := ih (items ++ (parse line).toList.map .item)
    have hitems : items ++ (parse line).toList.map .item ++ (lines.filterMap parse).map .item =
        items ++ ((line :: lines).filterMap parse).map .item := by
      rw [List.append_assoc, ← List.map_append, List.filterMap_cons]
      cases parse line <;> rfl
    rw [hitems] at hnext
    exact .head htake (.head hparse hnext)

/-- The second parser holds a line while the first one goes through all others. -/
theorem reaches_parse_last (before after : List String) (line : String) (inserter : ItemInserter) :
    Reaches (stepLoader parse)
      (afterReader ((before ++ line :: after).map .line ++ List.replicate parserCount .endMarker)
        (fun _ => .taking) [] inserter)
      (afterReader (List.replicate parserCount .endMarker) (fun _ => .taking)
        (((before ++ after).filterMap parse ++ (parse line).toList).map .item) inserter) := by
  let held : Fin parserCount → ParserState :=
    Function.update (fun _ => .taking) 1 (.parsing (.line line))
  let markers : List QueuedLine := List.replicate parserCount .endMarker
  have hbefore := reaches_parse parse (i := 0) (fun _ => .taking) rfl inserter before
    (.line line :: (after.map .line ++ markers)) []
  have htake : stepLoader parse
      (afterReader (.line line :: (after.map .line ++ markers)) (fun _ => .taking)
        ([] ++ (before.filterMap parse).map .item) inserter) (.take 1) =
      some (afterReader (after.map .line ++ markers) held
        ([] ++ (before.filterMap parse).map .item) inserter) := rfl
  have hafter := reaches_parse parse (i := 0) held rfl inserter after markers
    ([] ++ (before.filterMap parse).map .item)
  have hparse : stepLoader parse
      (afterReader markers held ([] ++ (before.filterMap parse).map .item ++
        (after.filterMap parse).map .item) inserter) (.parse 1) =
      some (afterReader markers (Function.update held 1 .taking)
        ([] ++ (before.filterMap parse).map .item ++ (after.filterMap parse).map .item ++
          (parse line).toList.map .item) inserter) := rfl
  have hback : Function.update held 1 .taking = fun _ => .taking := by
    rw [Function.update_idem]
    exact Function.update_eq_self (1 : Fin parserCount) _
  have hitems : ([] : List QueuedItem) ++ (before.filterMap parse).map .item ++
      (after.filterMap parse).map .item ++ (parse line).toList.map .item =
      ((before ++ after).filterMap parse ++ (parse line).toList).map .item := by
    simp only [List.nil_append, List.filterMap_append, List.map_append]
  rw [hback, hitems] at hparse
  have hqueue : (before ++ line :: after).map QueuedLine.line ++ markers =
      before.map .line ++ .line line :: (after.map .line ++ markers) := by
    simp only [List.map_append, List.map_cons, List.append_assoc, List.cons_append]
  rw [hqueue]
  exact hbefore.trans (.head htake (hafter.trans (.head hparse (.refl _))))

/-- The parsers take their markers. -/
theorem reaches_markers (items : List QueuedItem) (inserter : ItemInserter) :
    ∃ parsers, Reaches (stepLoader parse)
      (afterReader (List.replicate parserCount .endMarker) (fun _ => .taking) items inserter)
      (afterReader [] parsers (items ++ List.replicate parserCount .endItem) inserter) := by
  have hitems : items ++ List.replicate parserCount .endItem =
      items ++ [.endItem] ++ [.endItem] ++ [.endItem] := by
    simp [List.replicate_succ]
  rw [hitems]
  exact ⟨_, [.take 0, .parse 0, .take 1, .parse 1, .take 2, .parse 2], rfl⟩

/-- The inserter goes through the items at the head of the queue. -/
theorem reaches_insert (parsers : Fin parserCount → ParserState) (queue : List QueuedItem)
    (items : List HostListItem) {received : List HostListItem} {inserter : ItemInserter}
    (hinv : InserterInv insertBatchSize received inserter) (hr : inserter.returned = none)
    (he : inserter.queueEmptied = false) (hw : inserter.workerStopped = 0) :
    ∃ inserter', Reaches (stepLoader parse)
        (afterReader [] parsers (items.map .item ++ queue) inserter)
        (afterReader [] parsers queue inserter') ∧
      InserterInv insertBatchSize (received ++ items) inserter' ∧ inserter'.returned = none ∧
      inserter'.queueEmptied = false ∧ inserter'.workerStopped = 0 := by
  induction items generalizing received inserter with
  | nil =>
    rw [List.append_nil]
    exact ⟨inserter, .refl _, hinv, hr, he, hw⟩
  | cons item items ih =>
    obtain ⟨hws, hqe, hret⟩ := receive_item_frame parserCount inserter item
    obtain ⟨inserter', hreach, hinv', hrest⟩ := ih (hinv.receive hr parserCount item)
      (hret.trans hr) (hqe.trans he) (hws.trans hw)
    have hstep : stepLoader parse
        (afterReader [] parsers ((item :: items).map .item ++ queue) inserter) .insert =
        some (afterReader [] parsers (items.map .item ++ queue)
          (inserter.receive parserCount (.item item))) := by
      simp [stepLoader, afterReader, he]
    rw [List.append_assoc, List.singleton_append] at hinv'
    exact ⟨inserter', .head hstep hreach, hinv', hrest⟩

/-- The inserter receives the end items and returns. -/
theorem reaches_returned (parsers : Fin parserCount → ParserState)
    {received : List HostListItem} {inserter : ItemInserter}
    (hinv : InserterInv insertBatchSize received inserter) (hr : inserter.returned = none)
    (he : inserter.queueEmptied = false) (hw : inserter.workerStopped = 0) :
    ∃ s : LoaderState parserCount, Reaches (stepLoader parse)
        (afterReader [] parsers (List.replicate parserCount .endItem) inserter) s ∧
      s.inserter.returned = some received.length ∧
      s.inserter.inserts.flatten = received.map some := by
  obtain ⟨inserted, workerStopped, batch, cacheSize, queueEmptied, inserts, returned⟩ := inserter
  obtain rfl : returned = none := hr
  obtain rfl : queueEmptied = false := he
  obtain rfl : workerStopped = 0 := hw
  have hended : InserterInv insertBatchSize received
      ⟨inserted, 3, batch, cacheSize, true, inserts, none⟩ :=
    ⟨hinv.length_eq, hinv.cacheSize_lt, hinv.inserted_eq, hinv.kept, hinv.returned⟩
  obtain ⟨hflat, hcount⟩ := (hended.flush rfl).returned _ rfl
  exact ⟨_, ⟨[.insert, .insert, .insert, .flush], rfl⟩, congrArg some hcount, hflat⟩

/-- **Any line may be parsed last.** -/
theorem exists_load_last (before after : List String) (line : String) :
    ∃ s : LoaderState parserCount, Reaches (stepLoader parse)
        (startLoader parserCount insertBatchSize (before ++ line :: after)) s ∧
      s.inserter.returned.isSome ∧
      s.inserter.inserts.flatten =
        ((before ++ after).filterMap parse ++ (parse line).toList).map some := by
  have hstart : InserterInv insertBatchSize [] (.init insertBatchSize) :=
    inserterInv_init (by decide)
  let received := (before ++ after).filterMap parse ++ (parse line).toList
  obtain ⟨parsers, hmarkers⟩ := reaches_markers parse (received.map .item)
    (.init insertBatchSize)
  obtain ⟨inserter, hinsert, hinv, hr, he, hw⟩ := reaches_insert parse parsers
    (List.replicate parserCount .endItem) received hstart rfl rfl rfl
  obtain ⟨s, hreturned, hsome, hflat⟩ := reaches_returned parse parsers hinv hr he hw
  refine ⟨s, ?_, by rw [hsome]; rfl, hflat⟩
  exact (reaches_afterReader parse _).trans ((reaches_parse_last parse before after line _).trans
    (hmarkers.trans (hinsert.trans hreturned)))

end Schedule

/-! ### The rows after loading -/

/-- `SourceLoader.parse` with a schedule of its threads: the tables once it has returned. -/
def loadSource (g : Guava) (source : HostsSource) (lines : List String)
    (as : List (LoaderAction parserCount)) (db : Database) : Option Database :=
  match ActionSystem.run (stepLoader (parseLine g source))
      (startLoader parserCount insertBatchSize lines) as with
  | none => none
  | some s =>
    if s.inserter.returned.isSome then
      some (execAll db (parseStatements source.id (s.inserter.inserts.map List.reduceOption)))
    else none

/-- The rows of `hosts_lists` when these items have been inserted for source `k`. -/
def loadedRows (db : Database) (k : ℤ) (items : List HostListItem) : List HostListItem :=
  (db.hostsLists.rows.filter fun i => !decide (i.sourceId = k)) ++
    items.mapIdx fun n item => { item with id := db.hostsLists.sequence + 1 + n }

theorem rows_execAll_parseStatements (db : Database) (k : ℤ) (batches : List (List HostListItem)) :
    (execAll db (parseStatements k batches)).hostsLists.rows =
      loadedRows db k batches.flatten := by
  have hinserts : ∀ (batches : List (List HostListItem)) (db : Database),
      (execAll db (batches.map .insertItems)).hostsLists =
        db.hostsLists.insertAll (fun i n => { i with id := n }) (fun _ _ => rfl)
          batches.flatten := by
    intro batches
    induction batches with
    | nil => exact fun _ => rfl
    | cons batch batches ih =>
      intro db
      rw [List.map_cons, execAll_cons, ih, List.flatten_cons]
      exact List.foldl_append.symm
  rw [parseStatements, execAll_cons, hinserts, SequencedTable.rows_insertAll]
  rfl

theorem mem_loadedRows {db : Database} {k : ℤ} {items : List HostListItem} {i : HostListItem} :
    i ∈ loadedRows db k items ↔
      (i ∈ db.hostsLists.rows ∧ i.sourceId ≠ k) ∨
        ∃ (n : ℕ) (h : n < items.length),
          { items[n] with id := db.hostsLists.sequence + 1 + n } = i := by
  rw [loadedRows, List.mem_append, List.mem_filter, List.mem_mapIdx]
  simp

section Loaded

variable {g : Guava} {source : HostsSource} {lines : List String} {db db' : Database}

/-- **Any schedule** inserts the items of the file, in some order. -/
theorem exists_items_of_loadSource {as : List (LoaderAction parserCount)}
    (h : loadSource g source lines as db = some db') :
    ∃ items, items.Perm (lines.filterMap (parseLine g source)) ∧
      db'.hostsLists.rows = loadedRows db source.id items := by
  rw [loadSource] at h
  split at h
  next => cases h
  next s hs =>
    split at h
    next hreturned =>
      obtain ⟨count, hcount⟩ := Option.isSome_iff_exists.mp hreturned
      obtain ⟨load, hload⟩ := exists_sourceLoad hs hcount
      obtain rfl := Option.some.inj h
      refine ⟨load.batches.flatten, load.perm, ?_⟩
      rw [rows_execAll_parseStatements, hload]
    next => cases h

/-- The items of the file, with one of them moved to the end. -/
theorem filterMap_perm_of_last {parse : String → Option HostListItem} (before after : List String)
    {line : String} {item : HostListItem} (hline : parse line = some item) :
    ((before ++ after).filterMap parse ++ [item]).Perm
      ((before ++ line :: after).filterMap parse) := by
  rw [List.filterMap_append, List.filterMap_append, List.filterMap_cons_some hline,
    List.append_assoc]
  exact (List.perm_append_singleton item _).append_left _

/-- Some schedule inserts the item of a given line last. -/
theorem exists_loadSource_last (db : Database) (before after : List String) {line : String}
    {item : HostListItem} (hline : parseLine g source line = some item) :
    ∃ as db', loadSource g source (before ++ line :: after) as db = some db' ∧
      db'.hostsLists.rows = loadedRows db source.id
        ((before ++ after).filterMap (parseLine g source) ++ [item]) := by
  obtain ⟨s, ⟨as, has⟩, hreturned, hflat⟩ :=
    exists_load_last (parseLine g source) before after line
  have hitems : (s.inserter.inserts.map List.reduceOption).flatten =
      (before ++ after).filterMap (parseLine g source) ++ [item] := by
    have hreduce : (s.inserter.inserts.map List.reduceOption).flatten =
        s.inserter.inserts.flatten.reduceOption := (List.filterMap_flatten (f := id)).symm
    have hsome :
        (((before ++ after).filterMap (parseLine g source) ++ [item]).map some).filterMap id =
          (before ++ after).filterMap (parseLine g source) ++ [item] := by
      rw [List.filterMap_map, Function.id_comp, List.filterMap_some]
    rw [hreduce, hflat, hline]
    exact hsome
  have hrows := rows_execAll_parseStatements db source.id
    (s.inserter.inserts.map List.reduceOption)
  rw [hitems] at hrows
  refine ⟨as, _, ?_, hrows⟩
  rw [loadSource, has]
  exact if_pos hreturned

end Loaded

/-! ### Two orders of the same items -/

section Orders

variable {db : Database} {k : ℤ} {items items' : List HostListItem} {host : String}

theorem unnumbered_loadedRows (db : Database) (k : ℤ) (items : List HostListItem) :
    (loadedRows db k items).map HostListItem.unnumbered =
      (db.hostsLists.rows.filter fun i => !decide (i.sourceId = k)).map HostListItem.unnumbered ++
        items.map HostListItem.unnumbered := by
  have hnumbered :
      (items.mapIdx fun n item => { item with id := db.hostsLists.sequence + 1 + n }).map
        HostListItem.unnumbered = items.map HostListItem.unnumbered := by
    refine List.ext_getElem? fun n => ?_
    rw [List.getElem?_map, List.getElem?_mapIdx, List.getElem?_map, Option.map_map]
    rfl
  rw [loadedRows, List.map_append, hnumbered]

theorem sameItems_loadedRows (hperm : items'.Perm items) :
    SameItems (loadedRows db k items) (loadedRows db k items') := by
  rw [SameItems, unnumbered_loadedRows, unnumbered_loadedRows]
  exact (hperm.map HostListItem.unnumbered).append_left _

/-- The redirections of a first source that is not the one loaded are those of before. -/
theorem TopRedirect.of_loadedRows (hitems : ∀ i ∈ items, i.sourceId = k)
    (hperm : items'.Perm items) {i : HostListItem}
    (hi : TopRedirect (loadedRows db k items) host i) (hne : i.sourceId ≠ k) :
    TopRedirect (loadedRows db k items') host i := by
  have hmem : i ∈ loadedRows db k items' := by
    rcases mem_loadedRows.mp hi.mem with hkept | ⟨n, hn, rfl⟩
    · exact mem_loadedRows.mpr (Or.inl hkept)
    · exact absurd (hitems _ (List.getElem_mem hn)) hne
  refine ⟨hmem, hi.type_eq, hi.enabled_eq, hi.host_eq, fun j hj htype hen hhost => ?_⟩
  rcases mem_loadedRows.mp hj with hkept | ⟨n, hn, rfl⟩
  · exact hi.least j (mem_loadedRows.mpr (Or.inl hkept)) htype hen hhost
  · -- the same item is among the rows of the other order
    obtain ⟨m, hm, heq⟩ := List.mem_iff_getElem.mp (hperm.mem_iff.mp (List.getElem_mem hn))
    have hother := hi.least { items[m] with id := db.hostsLists.sequence + 1 + m }
      (mem_loadedRows.mpr (Or.inr ⟨m, hm, rfl⟩))
    rw [heq] at hother
    exact hother htype hen hhost

/-- So is the last of them. -/
theorem LastRedirect.of_loadedRows (hitems : ∀ i ∈ items, i.sourceId = k)
    (hperm : items'.Perm items) {i : HostListItem}
    (hi : LastRedirect (loadedRows db k items) host i) (hne : i.sourceId ≠ k) :
    LastRedirect (loadedRows db k items') host i := by
  have hitems' : ∀ i ∈ items', i.sourceId = k := fun i hi => hitems i (hperm.mem_iff.mp hi)
  have htop := hi.toTopRedirect.of_loadedRows hitems hperm hne
  refine ⟨htop, fun j hj => hi.last j (hj.of_loadedRows hitems' hperm.symm ?_)⟩
  have hle := hj.least i htop.mem htop.type_eq htop.enabled_eq htop.host_eq
  have hge := htop.least j hj.mem hj.type_eq hj.enabled_eq hj.host_eq
  omega

/-- The file decides between its redirections of the host by their order: they differ, and no other
source redirects the host before it. -/
structure TiedInFile (db : Database) (k : ℤ) (fileItems : List HostListItem) (host : String) :
    Prop where
  differ : ∃ i ∈ fileItems, ∃ j ∈ fileItems, i.type = .redirected ∧ i.host = host ∧
    j.type = .redirected ∧ j.host = host ∧ i.redirection ≠ j.redirection
  first : ∀ i ∈ db.hostsLists.rows, i.type = .redirected → i.enabled = true → i.host = host →
    k ≤ i.sourceId

/-- A redirection of the file that comes first is one of its source. -/
theorem TopRedirect.eq_of_tied (hitems : ∀ i ∈ items, i.enabled = true ∧ i.sourceId = k)
    (hperm : items'.Perm items) (htied : TiedInFile db k items host) {i : HostListItem}
    (hi : TopRedirect (loadedRows db k items') host i) :
    ∃ (n : ℕ) (h : n < items'.length),
      { items'[n] with id := db.hostsLists.sequence + 1 + n } = i := by
  obtain ⟨j, hj, -, -, htype, hhost, -⟩ := htied.differ
  rcases mem_loadedRows.mp hi.mem with ⟨hkept, hne⟩ | hnew
  · obtain ⟨hen, hsource⟩ := hitems j hj
    obtain ⟨n, hn, rfl⟩ := List.mem_iff_getElem.mp (hperm.mem_iff.mpr hj)
    have hle := hi.least { items'[n] with id := db.hostsLists.sequence + 1 + n }
      (mem_loadedRows.mpr (Or.inr ⟨n, hn, rfl⟩)) htype hen hhost
    have hge := htied.first i hkept hi.type_eq hi.enabled_eq hi.host_eq
    have heq : i.sourceId = k := le_antisymm (hle.trans hsource.le) hge
    exact absurd heq hne
  · exact hnew

/-- A row of the source loaded is an item of the file, but for its identifier. -/
theorem exists_mem_of_loadedRows {fileItems : List HostListItem} (hperm : items.Perm fileItems)
    {i : HostListItem} (hi : i ∈ loadedRows db k items) (hsource : i.sourceId = k) :
    ∃ j ∈ fileItems, j.type = i.type ∧ j.host = i.host ∧ j.redirection = i.redirection := by
  rcases mem_loadedRows.mp hi with ⟨-, hne⟩ | ⟨n, hn, rfl⟩
  · exact absurd hsource hne
  · exact ⟨items[n], hperm.mem_iff.mp (List.getElem_mem hn), rfl, rfl, rfl⟩

/-- Two redirections of a host by the source loaded that differ are a tie. -/
theorem TopRedirect.tiedInFile {fileItems : List HostListItem} (hperm : items.Perm fileItems)
    (hperm' : items'.Perm fileItems) {i i' : HostListItem}
    (hi : TopRedirect (loadedRows db k items) host i) (hsource : i.sourceId = k)
    (hi' : TopRedirect (loadedRows db k items') host i') (hsource' : i'.sourceId = k)
    (hne : i.redirection ≠ i'.redirection) : TiedInFile db k fileItems host := by
  obtain ⟨j, hj, htype, hhost, hred⟩ := exists_mem_of_loadedRows hperm hi.mem hsource
  obtain ⟨j', hj', htype', hhost', hred'⟩ := exists_mem_of_loadedRows hperm' hi'.mem hsource'
  refine ⟨⟨j, hj, j', hj', htype.trans hi.type_eq, hhost.trans hi.host_eq,
    htype'.trans hi'.type_eq, hhost'.trans hi'.host_eq, ?_⟩, fun l hl hlt hle hlh => ?_⟩
  · rw [hred, hred']
    exact hne
  · by_cases hother : l.sourceId = k
    · exact hother.ge
    · exact hsource.ge.trans (hi.least l (mem_loadedRows.mpr (Or.inl ⟨hl, hother⟩)) hlt hle hlh)

section Sync

variable {rows rows' : List HostListItem} {q : SyncAnswers rows} {q' : SyncAnswers rows'}
  {old old' new new' : HostEntries} {fileItems : List HostListItem}

/-- `sync` can complete for one order of the items if it does for another. -/
theorem canComplete_of_loadedRows (hrows : rows = loadedRows db k items)
    (hrows' : rows' = loadedRows db k items') (hperm : items'.Perm items)
    (h : sync rows q old = some new) : CanComplete rows' := by
  subst hrows hrows'
  exact (canComplete_of_isSome (Option.isSome_iff_exists.mpr ⟨new, h⟩)).of_sameItems
    (sameItems_loadedRows hperm)

/-- The row of a tied host is a redirection of the file. -/
theorem find?_sync_of_tied (hrows : rows = loadedRows db k items)
    (hfile : ∀ i ∈ fileItems, i.enabled = true ∧ i.sourceId = k) (hperm : items.Perm fileItems)
    (htied : TiedInFile db k fileItems host) (hq : q.ById) (h : sync rows q old = some new) :
    ∃ i, LastRedirect rows host i ∧ new.find? host = some (redirectEntry i) ∧
      ∃ (n : ℕ) (h : n < items.length),
        { items[n] with id := db.hostsLists.sequence + 1 + n } = i := by
  subst hrows
  have hlisted : Listed (loadedRows db k items) .redirected host := by
    obtain ⟨j, hj, -, -, htype, hhost, -⟩ := htied.differ
    obtain ⟨n, hn, rfl⟩ := List.mem_iff_getElem.mp (hperm.mem_iff.mpr hj)
    exact ⟨_, mem_loadedRows.mpr (Or.inr ⟨n, hn, rfl⟩), htype, (hfile _ hj).1, hhost⟩
  obtain ⟨i, hi, hfind⟩ := find?_sync_byId h hq hlisted
  exact ⟨i, hi, hfind, hi.toTopRedirect.eq_of_tied hfile hperm htied⟩

/-- The redirection inserted last wins the tie. -/
theorem find?_sync_of_last {j : HostListItem} (hrows : rows = loadedRows db k (items ++ [j]))
    (hfile : ∀ i ∈ fileItems, i.enabled = true ∧ i.sourceId = k)
    (hperm : (items ++ [j]).Perm fileItems) (htied : TiedInFile db k fileItems host)
    (htype : j.type = .redirected) (hhost : j.host = host) (hq : q.ById)
    (h : sync rows q old = some new) : new.find? host = some (redirectEntry j) := by
  obtain ⟨i, hi, hfind, n, hn, hin⟩ := find?_sync_of_tied hrows hfile hperm htied hq h
  subst hrows
  have hj : j ∈ fileItems := hperm.mem_iff.mp (by simp)
  have hlen : items.length < (items ++ [j]).length := by simp
  have hlast : (items ++ [j])[items.length] = j := by simp
  have hsource : i.sourceId = k := by
    rw [← hin]
    exact (hfile _ (hperm.mem_iff.mp (List.getElem_mem hn))).2
  have htop : TopRedirect (loadedRows db k (items ++ [j])) host
      { j with id := db.hostsLists.sequence + 1 + items.length } := by
    refine ⟨mem_loadedRows.mpr (Or.inr ⟨items.length, hlen, by rw [hlast]⟩), htype,
      (hfile j hj).1, hhost, fun l hl hlt hle hlh => ?_⟩
    show j.sourceId ≤ l.sourceId
    rw [(hfile j hj).2, ← hsource]
    exact hi.least l hl hlt hle hlh
  have hle : db.hostsLists.sequence + 1 + items.length ≤ i.id := hi.last _ htop
  have hid : i.id = db.hostsLists.sequence + 1 + n := by rw [← hin]
  have hn' : n = items.length := by
    rw [List.length_append, List.length_singleton] at hn
    omega
  subst hn'
  rw [hfind, ← hin, hlast]
  rfl

/-- **A host that is not tied** has the same row for both orders. -/
theorem find?_sync_eq_of_not_tied (hrows : rows = loadedRows db k items)
    (hrows' : rows' = loadedRows db k items') (hids' : (rows'.map HostListItem.id).Nodup)
    (hids : (rows.map HostListItem.id).Nodup)
    (hfile : ∀ i ∈ fileItems, i.enabled = true ∧ i.sourceId = k) (hperm : items.Perm fileItems)
    (hperm' : items'.Perm fileItems) (htied : ¬ TiedInFile db k fileItems host) (hq : q.ById)
    (hq' : q'.ById) (h : sync rows q old = some new) (h' : sync rows' q' old' = some new') :
    new'.find? host = new.find? host := by
  subst hrows hrows'
  have hsame : SameItems (loadedRows db k items) (loadedRows db k items') :=
    sameItems_loadedRows (hperm'.trans hperm.symm)
  have hitems : ∀ i ∈ items, i.sourceId = k := fun i hi => (hfile i (hperm.mem_iff.mp hi)).2
  have hitems' : ∀ i ∈ items', i.sourceId = k := fun i hi => (hfile i (hperm'.mem_iff.mp hi)).2
  by_cases hr : Listed (loadedRows db k items) .redirected host
  · obtain ⟨i, hi, hfind⟩ := find?_sync_byId h hq hr
    obtain ⟨i', hi', hfind'⟩ := find?_sync_byId h' hq' (hr.of_sameItems hsame.symm)
    rw [hfind, hfind']
    by_cases hsource : i.sourceId = k
    · by_cases hsource' : i'.sourceId = k
      · have hred : i'.redirection = i.redirection := by
          by_contra hne
          exact htied (hi.toTopRedirect.tiedInFile hperm hperm' hsource hi'.toTopRedirect hsource'
            (Ne.symm hne))
        rw [redirectEntry, redirectEntry, hred, hi'.host_eq, hi.host_eq]
      · have hback := hi'.of_loadedRows hitems' (hperm.trans hperm'.symm) hsource'
        obtain rfl := hi.unique hids hback
        rfl
    · have hback := hi.of_loadedRows hitems (hperm'.trans hperm.symm) hsource
      obtain rfl := hback.unique hids' hi'
      rfl
  · have huntied : Untied (loadedRows db k items) host := fun i _ hi => absurd hi.listed hr
    obtain ⟨-, -, -, -, -, -, hunique, -⟩ := sync_exact h
    exact hunique _ q' old' new' hsame h' host huntied

end Sync

end Orders

/-! ### What the schedule decides -/

section Main

variable {g : Guava} {source : HostsSource} {lines : List String} {db : Database}

theorem stored_of_mem_filterMap {i : HostListItem}
    (hi : i ∈ lines.filterMap (parseLine g source)) :
    i.enabled = true ∧ i.sourceId = source.id := by
  obtain ⟨line, -, hline⟩ := List.mem_filterMap.mp hi
  obtain ⟨hen, hsource, -⟩ := stored_of_parseLine hline
  exact ⟨hen, hsource⟩

/-- **What the schedule decides.** When `sync` completes after one schedule, it completes after
each for some order of the allowed hosts, and for every order if `LIKE` can compare with all of
them. A host has the same row after each schedule exactly when it is not tied in the file; the row
of a tied host is one of the redirections of the file. -/
theorem load_sync_exact {as : List (LoaderAction parserCount)} {db₁ : Database}
    (h : loadSource g source lines as db = some db₁) {q : SyncAnswers db₁.hostsLists.rows}
    (hq : q.ById) {old new : HostEntries} (hsync : sync db₁.hostsLists.rows q old = some new) :
    (∀ as' db₂ old', loadSource g source lines as' db = some db₂ →
      (∃ q' : SyncAnswers db₂.hostsLists.rows, q'.ById ∧
        (sync db₂.hostsLists.rows q' old').isSome) ∧
      (AllowedFit db₁.hostsLists.rows → ∀ q', (sync db₂.hostsLists.rows q' old').isSome)) ∧
    (∀ host,
      (∀ as' db₂ (q' : SyncAnswers db₂.hostsLists.rows) old' new',
        loadSource g source lines as' db = some db₂ → q'.ById →
        sync db₂.hostsLists.rows q' old' = some new' → new'.find? host = new.find? host) ↔
      ¬ TiedInFile db source.id (lines.filterMap (parseLine g source)) host) ∧
    ∀ host, TiedInFile db source.id (lines.filterMap (parseLine g source)) host →
      ∃ i ∈ lines.filterMap (parseLine g source), i.type = .redirected ∧ i.host = host ∧
        new.find? host = some (redirectEntry i) := by
  obtain ⟨items, hperm, hrows⟩ := exists_items_of_loadSource h
  have hfile : ∀ i ∈ lines.filterMap (parseLine g source),
      i.enabled = true ∧ i.sourceId = source.id := fun i hi => stored_of_mem_filterMap hi
  have hcan : ∀ as' db₂, loadSource g source lines as' db = some db₂ →
      CanComplete db₂.hostsLists.rows := by
    intro as' db₂ h'
    obtain ⟨items', hperm', hrows'⟩ := exists_items_of_loadSource h'
    exact canComplete_of_loadedRows hrows hrows' (hperm'.trans hperm.symm) hsync
  have hfit : ∀ as' db₂, loadSource g source lines as' db = some db₂ →
      AllowedFit db₁.hostsLists.rows → AllowedFit db₂.hostsLists.rows := by
    intro as' db₂ h' hfit
    obtain ⟨items', hperm', hrows'⟩ := exists_items_of_loadSource h'
    rw [hrows] at hfit
    rw [hrows']
    exact hfit.of_sameItems (sameItems_loadedRows (hperm'.trans hperm.symm))
  have htied : ∀ host, TiedInFile db source.id (lines.filterMap (parseLine g source)) host →
      ∃ i ∈ lines.filterMap (parseLine g source), i.type = .redirected ∧ i.host = host ∧
        new.find? host = some (redirectEntry i) := by
    intro host htied
    obtain ⟨i, hi, hfind, n, hn, rfl⟩ := find?_sync_of_tied hrows hfile hperm htied hq hsync
    exact ⟨items[n], hperm.mem_iff.mp (List.getElem_mem hn), hi.type_eq, hi.host_eq, hfind⟩
  refine ⟨fun as' db₂ old' h' => ⟨?_, fun hallowed q' => ?_⟩, fun host => ⟨?_, ?_⟩, htied⟩
  · exact ⟨_, byId_answersById _, sync_answersById_isSome (hcan as' db₂ h') old'⟩
  · exact (sync_isSome_iff_of_allowedFit (hfit as' db₂ h' hallowed) q' old').mpr
      (hcan as' db₂ h').1
  · intro hsame htie
    obtain ⟨i, -, -, -, hfind⟩ := htied host htie
    -- a redirection other than the one left, whose line is parsed last
    obtain ⟨j, hj, htype, hhost, hne⟩ : ∃ j ∈ lines.filterMap (parseLine g source),
        j.type = .redirected ∧ j.host = host ∧ j.redirection ≠ i.redirection := by
      obtain ⟨j, hj, j', hj', htype, hhost, htype', hhost', hne⟩ := htie.differ
      by_cases hji : j.redirection = i.redirection
      · exact ⟨j', hj', htype', hhost', fun hji' => hne (hji.trans hji'.symm)⟩
      · exact ⟨j, hj, htype, hhost, hji⟩
    obtain ⟨line, hmem, hline⟩ := List.mem_filterMap.mp hj
    obtain ⟨before, after, rfl⟩ := List.append_of_mem hmem
    obtain ⟨as', db₂, hload, hrows'⟩ :=
      exists_loadSource_last db before after hline
    have hperm' := filterMap_perm_of_last before after hline
    obtain ⟨new', hnew'⟩ := Option.isSome_iff_exists.mp
      (sync_answersById_isSome (hcan as' db₂ hload) ∅)
    have hlast := find?_sync_of_last hrows' hfile hperm' htie htype hhost (byId_answersById _) hnew'
    have heq := hsame as' db₂ _ _ new' hload (byId_answersById _) hnew'
    rw [hlast, hfind, redirectEntry, redirectEntry] at heq
    exact hne (HostEntry.mk.inj (Option.some.inj heq)).2.2
  · intro htie as' db₂ q' old' new' h' hq' hsync'
    obtain ⟨items', hperm', hrows'⟩ := exists_items_of_loadSource h'
    exact find?_sync_eq_of_not_tied hrows hrows' db₂.hostsLists.nodup_keys
      db₁.hostsLists.nodup_keys hfile hperm hperm' htie hq hq' hsync hsync'

end Main

/-- A hosts file that may redirect. -/
def redirectSource : HostsSource := { hostsFileSource with redirectEnabled := true }

/-- Two redirections of one host. -/
def tiedLines : List String := ["1.1.1.1 ads.example", "2.2.2.2 ads.example"]

/-- The redirection of the host to an address. -/
def adsRedirect (ip : String) : HostListItem := ⟨0, "ads.example", .redirected, true, some ip, 2⟩

theorem filterMap_tiedLines :
    tiedLines.filterMap (parseLine lenientGuava redirectSource) =
      [adsRedirect "1.1.1.1", adsRedirect "2.2.2.2"] := by
  decide

/-- Tables without rows. -/
def noRows : Database := ⟨.empty, .empty⟩

theorem tiedInFile_tiedLines :
    TiedInFile noRows 2 (tiedLines.filterMap (parseLine lenientGuava redirectSource))
      "ads.example" := by
  rw [filterMap_tiedLines]
  refine ⟨⟨adsRedirect "1.1.1.1", by simp, adsRedirect "2.2.2.2", by simp, rfl, rfl, rfl, rfl,
    by decide⟩, fun i hi => ?_⟩
  exact absurd hi List.not_mem_nil

/-- A schedule after which the redirection of a line is left. -/
theorem exists_load_sync_tied (before after : List String) (line ip : String)
    (hlines : tiedLines = before ++ line :: after)
    (hline : parseLine lenientGuava redirectSource line = some (adsRedirect ip)) :
    ∃ as db₁ new, loadSource lenientGuava redirectSource tiedLines as noRows = some db₁ ∧
      sync db₁.hostsLists.rows (answersById db₁.hostsLists.rows) ∅ = some new ∧
      new.find? "ads.example" = some ⟨"ads.example", .redirected, some ip⟩ := by
  obtain ⟨as, db₁, hload, hrows⟩ := exists_loadSource_last noRows before after hline
  rw [← hlines] at hload
  have hperm := filterMap_perm_of_last before after hline
  rw [← hlines] at hperm
  have hblocked : blockedRows db₁.hostsLists.rows = [] := by
    refine List.eq_nil_iff_forall_not_mem.mpr fun e he => ?_
    obtain ⟨i, hi, htype, -, -⟩ := mem_blockedRows.mp he
    rw [hrows] at hi
    rcases mem_loadedRows.mp hi with ⟨hkept, -⟩ | ⟨n, hn, rfl⟩
    · exact absurd hkept List.not_mem_nil
    · have hmem := hperm.mem_iff.mp (List.getElem_mem hn)
      rw [filterMap_tiedLines] at hmem
      have hredirected : ∀ i ∈ [adsRedirect "1.1.1.1", adsRedirect "2.2.2.2"],
          i.type = .redirected := by decide
      exact absurd ((hredirected _ hmem).symm.trans htype) (by decide)
  have hcan : CanComplete db₁.hostsLists.rows := by
    refine ⟨by simp [hblocked], fun _ host ⟨i, hi, htype, hen, _⟩ => ?_⟩
    have hrow := mem_blockedRows.mpr ⟨i, hi, htype, hen, rfl⟩
    rw [hblocked] at hrow
    exact absurd hrow List.not_mem_nil
  obtain ⟨new, hnew⟩ := Option.isSome_iff_exists.mp (sync_answersById_isSome hcan ∅)
  refine ⟨as, db₁, new, hload, hnew, ?_⟩
  exact find?_sync_of_last hrows (fun i hi => stored_of_mem_filterMap hi) hperm
    tiedInFile_tiedLines rfl rfl (byId_answersById _) hnew

theorem load_sync_exact_tied :
    ∃ as db₁ new, loadSource lenientGuava redirectSource tiedLines as noRows = some db₁ ∧
      sync db₁.hostsLists.rows (answersById db₁.hostsLists.rows) ∅ = some new ∧
      ∃ i ∈ [adsRedirect "1.1.1.1", adsRedirect "2.2.2.2"], i.type = .redirected ∧
        i.host = "ads.example" ∧ new.find? "ads.example" = some (redirectEntry i) := by
  obtain ⟨as, db₁, new, hload, hsync, -⟩ := exists_load_sync_tied [] _ _ "1.1.1.1" rfl
    (by decide)
  obtain ⟨-, -, htied⟩ := load_sync_exact hload (byId_answersById _) hsync
  have hrow := htied "ads.example" tiedInFile_tiedLines
  rw [filterMap_tiedLines] at hrow
  exact ⟨as, db₁, new, hload, hsync, hrow⟩

/-- Two schedules for a file that redirects a host twice leave different redirections. -/
theorem not_load_sync_schedule_independent :
    ¬ ∀ (g : Guava) (source : HostsSource) (lines : List String) (db db₁ db₂ : Database)
      (as as' : List (LoaderAction parserCount)) (old new new' : HostEntries),
      loadSource g source lines as db = some db₁ → loadSource g source lines as' db = some db₂ →
      sync db₁.hostsLists.rows (answersById db₁.hostsLists.rows) old = some new →
      sync db₂.hostsLists.rows (answersById db₂.hostsLists.rows) old = some new' →
      ∀ host, new'.find? host = new.find? host := by
  intro h
  obtain ⟨as, db₁, new, hload, hsync, hfind⟩ :=
    exists_load_sync_tied [] _ _ "1.1.1.1" rfl (by decide)
  obtain ⟨as', db₂, new', hload', hsync', hfind'⟩ :=
    exists_load_sync_tied ["1.1.1.1 ads.example"] [] _ "2.2.2.2" rfl (by decide)
  have heq := h _ _ _ _ _ _ _ _ _ _ _ hload hload' hsync hsync' "ads.example"
  rw [hfind, hfind'] at heq
  exact absurd heq (by decide)

end AdAway
