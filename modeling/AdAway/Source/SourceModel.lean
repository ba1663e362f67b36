import AdAway.Db.HostsSourceDao
import AdAway.Source.SourceLoaderRun

/-!
# Checking and retrieving the sources

`SourceModel` checks the enabled sources for updates and retrieves them. A source of type URL is
asked for with the validators stored for it: the entity tag of the last download and the online
modification date, which a check stores as well. A server that answers "not modified" ends the
download without a body.

The web is what each URL serves at the moment. The server is the one of the HTTP standard: it
answers "not modified" when `If-None-Match` is its entity tag or, without `If-None-Match`, when its
modification date is not after `If-Modified-Since`. The HTTP client hands over what the server
answers: its response cache, which a conditional request bypasses, is left out. A body may break
while it is read: what has been delivered until then is loaded as if it were everything. And closing
it may fail: the copy then counts as failed, with the entity tag and the items stored.

Nothing the methods do to the tables depends on a query made after the first one, so a method is the
list of its statements. How many threads insert the items, and in which batches, is `SourceLoad`.

## Main definitions

* `Page`, `Site`, `notModified` — what is served, and the server
* `getRequestFor`, `getHostsSourceLastUpdate`, `downloadHostSource` — the methods for one source
* `checkForUpdate`, `retrieveHostsSources` — the methods for all sources

## Main results

* `exists_sourceLoad` — a finished run of the loader is a `SourceLoad`
* `mem_retrieveSource` — the statements made for a source
* `Site.execAll_ends` — what copying a source changes
-/

namespace AdAway

/-! ### The web -/

/-- What a URL serves. -/
structure Page where
  /-- The lines of the body. -/
  body : List String
  /-- The header `ETag`. -/
  entityTag : Option String
  /-- The header `Last-Modified`, in seconds since the epoch. -/
  lastModified : Option ℤ
  /-- A "not modified" response carries `Last-Modified` too. -/
  datesNotModified : Bool
  deriving DecidableEq

/-- What an address leads to. -/
structure Site where
  /-- The page or the file, unless it cannot be read. -/
  page : Option Page
  /-- The date that the API of the Git hosting or the document provider gives. -/
  lastUpdate : Option ZonedDateTime
  /-- Reading the body or the file breaks after this many lines, if it breaks. -/
  breaksAfter : Option ℕ
  /-- Closing the body or the file fails. -/
  closeFails : Bool

/-- The lines that the loader gets of the page: `SourceReader` keeps a failure to itself. -/
def Site.delivered (site : Site) (page : Page) : List String :=
  match site.breaksAfter with
  | none => page.body
  | some lines => page.body.take lines

/-- The headers of a request. -/
structure Request where
  ifNoneMatch : Option String
  /-- In seconds since the epoch. -/
  ifModifiedSince : Option ℤ
  deriving DecidableEq

/-- The server answers "not modified". -/
def notModified (request : Request) (page : Page) : Bool :=
  match request.ifNoneMatch with
  | some tag => page.entityTag = some tag
  | none =>
    match request.ifModifiedSince, page.lastModified with
    | some since, some date => date ≤ since
    | _, _ => false

/-! ### One source -/

/-- `GitHostsSource.isHostedOnGit`. -/
def isHostedOnGit (url : String) : Bool :=
  startsWith url "https://raw.githubusercontent.com/" ||
    startsWith url "https://gist.githubusercontent.com" ||
    startsWith url "https://gitlab.com/"

/-- `SourceModel.getRequestFor`. -/
def getRequestFor (source : HostsSource) : Request :=
  ⟨source.entityTag, source.onlineModificationDate.map toTimestamp⟩

/-- `SourceModel.getUrlLastUpdate`. -/
def getUrlLastUpdate (site : Site) (source : HostsSource) : Option ZonedDateTime :=
  if isHostedOnGit source.url then site.lastUpdate
  else match site.page with
  | none => none
  | some page =>
    if notModified (getRequestFor source) page then
      match if page.datesNotModified then page.lastModified else none with
      | some lastModified => some (fromTimestamp lastModified)
      | none => source.onlineModificationDate
    else page.lastModified.map fromTimestamp

/-- `SourceModel.getHostsSourceLastUpdate`. -/
def getHostsSourceLastUpdate (site : Site) (source : HostsSource) : Option ZonedDateTime :=
  match source.getType with
  | .url => getUrlLastUpdate site source
  | .file => site.lastUpdate
  | .unsupported => none

/-- What `SourceLoader.parse` passes to `HostListItemDao.insert`. -/
structure SourceLoad (g : Guava) (source : HostsSource) (lines : List String) where
  batches : List (List HostListItem)
  perm : batches.flatten.Perm (lines.filterMap (parseLine g source))

/-- Any choice of the batches. -/
abbrev Loads (g : Guava) := ∀ source lines, SourceLoad g source lines

/-- Each body is inserted in one batch, in the order of its lines. -/
def oneBatch : Loads lenientGuava := fun source lines =>
  ⟨[lines.filterMap (parseLine lenientGuava source)], by simp⟩

/-- What the copy of a source comes to. -/
inductive Copy
  /-- No update is available. -/
  | skipped
  /-- An `IOException`, with what has been stored before it. -/
  | failed (entityTag : Option String) (batches : Option (List (List HostListItem)))
  /-- The copy is done, with the entity tag of the response if there is one and the batches inserted
  by `SourceLoader.parse` if it has run. -/
  | done (entityTag : Option String) (batches : Option (List (List HostListItem)))
  deriving DecidableEq

/-- The copy counts as failed. -/
def Copy.isFailed : Copy → Bool
  | .failed _ _ => true
  | .skipped | .done _ _ => false

/-- The batches inserted by `SourceLoader.parse`. -/
def Copy.loaded : Copy → Option (List (List HostListItem))
  | .skipped => none
  | .failed _ batches | .done _ batches => batches

/-- The copy, once the reader is closed. -/
def Site.ends (site : Site) : Option String → Option (List (List HostListItem)) → Copy :=
  if site.closeFails then .failed else .done

@[simp] theorem Site.loaded_ends (site : Site) (entityTag : Option String)
    (batches : Option (List (List HostListItem))) :
    (site.ends entityTag batches).loaded = batches := by
  rw [Site.ends]
  split <;> rfl

/-- The prefix of a weak entity tag is dropped. -/
def dropWeakPrefix (entityTag : String) : String :=
  if startsWith entityTag "W/" then String.ofList (entityTag.toList.drop 2) else entityTag

variable {g : Guava}

/-- `SourceModel.downloadHostSource`. -/
def downloadHostSource (loads : Loads g) (site : Site) (source : HostsSource) : Copy :=
  match site.page with
  | none => .failed none none
  | some page =>
    if notModified (getRequestFor source) page then site.ends none none
    else site.ends (page.entityTag.map dropWeakPrefix)
      (some (loads source (site.delivered page)).batches)

/-- `SourceModel.readSourceFile`. -/
def readSourceFile (loads : Loads g) (site : Site) (source : HostsSource) : Copy :=
  match site.page with
  | none => .failed none none
  | some page => site.ends none (some (loads source (site.delivered page)).batches)

/-- The `onlineModificationDate` of `retrieveHostsSources`. -/
def onlineDate (now : ZonedDateTime) (site : Site) (source : HostsSource) : ZonedDateTime :=
  (getHostsSourceLastUpdate site source).getD now

/-- The copy that `retrieveHostsSources` makes of an enabled source. -/
def copySource (loads : Loads g) (now : ZonedDateTime) (site : Site) (source : HostsSource) : Copy :=
  if source.localModificationDate.any fun d => d.isAfter (onlineDate now site source) then .skipped
  else match source.getType with
  | .url => downloadHostSource loads site source
  | .file => readSourceFile loads site source
  | .unsupported => .done none none

/-- The statements of `SourceLoader.parse`. -/
def parseStatements (id : ℤ) (batches : List (List HostListItem)) : List Statement :=
  .clearSourceHosts id :: batches.map .insertItems

/-- The statements that store an entity tag and load batches. -/
def storeStatements (id : ℤ) (entityTag : Option String)
    (batches : Option (List (List HostListItem))) : List Statement :=
  entityTag.toList.map (.updateEntityTag id) ++ batches.toList.flatMap (parseStatements id)

/-- The statements of the copy of an enabled source. -/
def Copy.statements (now online : ZonedDateTime) (id : ℤ) : Copy → List Statement
  | .skipped => []
  | .failed entityTag batches => storeStatements id entityTag batches
  | .done entityTag batches =>
    storeStatements id entityTag batches ++
      [.updateModificationDates id (if online.isAfter now then online else now) online,
        .updateSize id]

/-- One turn of the loop of `retrieveHostsSources`, on the source as it was read at the start. -/
def retrieveSource (now online : ZonedDateTime) (source : HostsSource) (copy : Copy) :
    List Statement :=
  if source.enabled then copy.statements now online source.id
  else [.clearSourceHosts source.id, .clearProperties source.id]

/-! ### All sources -/

/-- `HostErrorException`, by its error. -/
inductive HostErrorException
  | noConnection
  | downloadFailed
  deriving DecidableEq, Repr

/-- The update that `checkForUpdate` sees for a source. -/
def hasUpdate (zone : ZoneRules) (now : ZonedDateTime) (lastModifiedOnline : Option ZonedDateTime)
    (source : HostsSource) : Bool :=
  match lastModifiedOnline with
  | none => source.localModificationDate.any fun d => d.isBefore (now.minusWeek zone)
  | some online => source.localModificationDate.all fun d => online.isAfter d

/-- `SourceModel.checkForUpdate`, on the answer of `getEnabled`: its result and its statements. -/
def checkForUpdate (zone : ZoneRules) (offline : Bool) (now : ZonedDateTime) (web : String → Site)
    (sources : List HostsSource) : Except HostErrorException Bool × List Statement :=
  if offline then (.error .noConnection, [])
  else
    (.ok (sources.any fun s => hasUpdate zone now (getHostsSourceLastUpdate (web s.url) s) s),
      sources.map fun s =>
        .updateOnlineModificationDate s.id (getHostsSourceLastUpdate (web s.url) s))

/-- The statements of the loop of `SourceModel.retrieveHostsSources`, on the answer of `getAll`. -/
def retrieveStatements (loads : Loads g) (now : ZonedDateTime) (web : String → Site)
    (sources : List HostsSource) : List Statement :=
  sources.flatMap fun s =>
    retrieveSource now (onlineDate now (web s.url) s) s (copySource loads now (web s.url) s)

/-- `SourceModel.retrieveHostsSources`, on the answer of `getAll`: its result and its statements up
to the call of `sync`, which it makes unless it throws. -/
def retrieveHostsSources (loads : Loads g) (offline : Bool) (now : ZonedDateTime)
    (web : String → Site) (sources : List HostsSource) :
    Except HostErrorException Unit × List Statement :=
  if offline then (.error .noConnection, [])
  else
    let copies := (sources.filter HostsSource.enabled).map fun s =>
      copySource loads now (web s.url) s
    let numberOfCopies := copies.countP fun c => c ≠ .skipped
    let numberOfFailedCopies := copies.countP Copy.isFailed
    (if numberOfCopies = numberOfFailedCopies ∧ numberOfCopies ≠ 0 then .error .downloadFailed
      else .ok (),
      retrieveStatements loads now web sources)

/-! ### The loader -/

/-- **A finished run of the loader** inserts the batches of a `SourceLoad`, whatever its schedule.
-/
theorem exists_sourceLoad {source : HostsSource} {lines : List String}
    {as : List (LoaderAction parserCount)} {s : LoaderState parserCount} {count : ℕ}
    (h : ActionSystem.run (stepLoader (parseLine g source))
      (startLoader parserCount insertBatchSize lines) as = some s)
    (hreturned : s.inserter.returned = some count) :
    ∃ load : SourceLoad g source lines,
      load.batches = s.inserter.inserts.map List.reduceOption := by
  have hn : 0 < parserCount := by decide
  have hs : LoaderInv (parseLine g source) insertBatchSize lines s :=
    ActionSystem.invariant_run (fun _ _ _ hs hstep => LoaderInv.step hs hstep)
      (loaderInv_start hn (by decide) lines) h
  obtain ⟨items, hflat, hperm, -⟩ := hs.inserted hn hreturned
  have hitems : (s.inserter.inserts.map List.reduceOption).flatten = items := by
    have hreduce : s.inserter.inserts.flatten.filterMap id = items := by
      rw [hflat, List.filterMap_map, Function.id_comp, List.filterMap_some]
    rw [← hreduce, List.filterMap_flatten]
    rfl
  exact ⟨⟨s.inserter.inserts.map List.reduceOption, hitems.symm ▸ hperm⟩, rfl⟩

/-- The loaded items are enabled, belong to the source and are not stored yet. -/
theorem SourceLoad.stored {source : HostsSource} {lines : List String}
    (load : SourceLoad g source lines) {i : HostListItem} (hi : i ∈ load.batches.flatten) :
    i.enabled = true ∧ i.sourceId = source.id ∧ i.id = 0 := by
  obtain ⟨line, -, hline⟩ := List.mem_filterMap.mp (load.perm.mem_iff.mp hi)
  exact stored_of_parseLine hline

theorem SourceLoad.ofSource_flatten {source : HostsSource} {lines : List String}
    (load : SourceLoad g source lines) :
    ofSource source.id load.batches.flatten = load.batches.flatten := by
  have hmap : load.batches.flatten.filterMap (fun i =>
      if i.sourceId = source.id then some i.unnumbered else none)
      = load.batches.flatten.filterMap some := by
    refine List.filterMap_congr fun i hi => ?_
    obtain ⟨-, hsource, hid⟩ := load.stored hi
    rw [if_pos hsource, HostListItem.unnumbered, ← hid]
  rw [ofSource, hmap, List.filterMap_some]

/-! ### What copying a source changes -/

/-- A copy that loads a body loads what is delivered of the page. -/
theorem loaded_copySource {loads : Loads g} {now : ZonedDateTime} {site : Site}
    {source : HostsSource} {batches : List (List HostListItem)}
    (h : (copySource loads now site source).loaded = some batches) :
    ∃ page, site.page = some page ∧ batches = (loads source (site.delivered page)).batches := by
  rw [copySource] at h
  split at h
  next => cases h
  next =>
    split at h
    next =>
      rw [downloadHostSource] at h
      split at h
      next => cases h
      next page hpage =>
        split at h
        next =>
          rw [Site.loaded_ends] at h
          cases h
        next =>
          rw [Site.loaded_ends] at h
          exact ⟨page, hpage, (Option.some.inj h).symm⟩
    next =>
      rw [readSourceFile] at h
      split at h
      next => cases h
      next page hpage =>
        rw [Site.loaded_ends] at h
        exact ⟨page, hpage, (Option.some.inj h).symm⟩
    next => cases h

/-- The statement stores the tag, the dates or the size of source `k`. -/
def Statement.Stamps (k : ℤ) : Statement → Prop
  | .updateEntityTag id _ | .updateModificationDates id _ _ | .updateSize id
  | .clearProperties id => id = k
  | _ => False

theorem stamps_updateEntityTag {k : ℤ} {entityTag : Option String} :
    ∀ st ∈ entityTag.toList.map (Statement.updateEntityTag k), st.Stamps k := by
  intro st hst
  obtain ⟨tag, -, rfl⟩ := List.mem_map.mp hst
  exact rfl

theorem stamps_updateModificationDates {k : ℤ} {localDate online : ZonedDateTime} :
    ∀ st ∈ [Statement.updateModificationDates k localDate online, .updateSize k], st.Stamps k := by
  intro st hst
  rcases List.mem_cons.mp hst with rfl | hst
  · exact rfl
  · obtain rfl := List.mem_singleton.mp hst
    exact rfl

theorem mem_storeStatements {k : ℤ} {entityTag : Option String}
    {batches : Option (List (List HostListItem))} {st : Statement}
    (h : st ∈ storeStatements k entityTag batches) :
    st = .clearSourceHosts k ∨ st.Stamps k ∨
      ∃ loaded, batches = some loaded ∧ ∃ batch ∈ loaded, st = .insertItems batch := by
  rw [storeStatements, List.mem_append] at h
  rcases h with h | h
  · exact Or.inr (Or.inl (stamps_updateEntityTag st h))
  · rcases batches with _ | loaded
    · cases h
    · rw [Option.toList_some, List.flatMap_singleton] at h
      rcases List.mem_cons.mp h with rfl | h
      · exact Or.inl rfl
      · obtain ⟨batch, hbatch, rfl⟩ := List.mem_map.mp h
        exact Or.inr (Or.inr ⟨loaded, rfl, batch, hbatch, rfl⟩)

/-- The statements of a copy clear the source, stamp it, or insert one of its batches. -/
theorem Copy.mem_statements {now online : ZonedDateTime} {k : ℤ} {copy : Copy} {st : Statement}
    (h : st ∈ copy.statements now online k) :
    st = .clearSourceHosts k ∨ st.Stamps k ∨
      ∃ loaded, copy.loaded = some loaded ∧ ∃ batch ∈ loaded, st = .insertItems batch := by
  cases copy with
  | skipped => cases h
  | failed entityTag batches => exact mem_storeStatements h
  | done entityTag batches =>
    rcases List.mem_append.mp h with h | h
    · exact mem_storeStatements h
    · exact Or.inr (Or.inl (stamps_updateModificationDates st h))

/-- **The statements of retrieving a source** clear it, stamp it, or insert a batch of its page. -/
theorem mem_retrieveSource {loads : Loads g} {now online : ZonedDateTime} {site : Site}
    {source : HostsSource} {st : Statement}
    (h : st ∈ retrieveSource now online source (copySource loads now site source)) :
    st = .clearSourceHosts source.id ∨ st.Stamps source.id ∨
      ∃ page, site.page = some page ∧
        ∃ batch ∈ (loads source (site.delivered page)).batches, st = .insertItems batch := by
  rw [retrieveSource] at h
  split at h
  next =>
    rcases Copy.mem_statements h with hclear | hstamps | ⟨loaded, hloaded, batch, hbatch, hst⟩
    · exact Or.inl hclear
    · exact Or.inr (Or.inl hstamps)
    · obtain ⟨page, hpage, rfl⟩ := loaded_copySource hloaded
      exact Or.inr (Or.inr ⟨page, hpage, batch, hbatch, hst⟩)
  next =>
    rcases List.mem_cons.mp h with rfl | h
    · exact Or.inl rfl
    · obtain rfl := List.mem_singleton.mp h
      exact Or.inr (Or.inl rfl)

theorem Statement.Stamps.about {k : ℤ} {st : Statement} (h : st.Stamps k) : st.About k := by
  cases st with
  | updateEntityTag | updateModificationDates | updateSize | clearProperties => exact h
  | _ => exact h.elim

/-- Retrieving handles each source with statements about it. -/
theorem about_retrieveSource (loads : Loads g) (now : ZonedDateTime) (web : String → Site)
    (s : HostsSource) :
    ∀ st ∈ retrieveSource now (onlineDate now (web s.url) s) s (copySource loads now (web s.url) s),
      st.About s.id := by
  intro st hst
  rcases mem_retrieveSource hst with rfl | hstamps | ⟨page, -, batch, hbatch, rfl⟩
  · exact rfl
  · exact hstamps.about
  · intro i hi
    exact ((loads s ((web s.url).delivered page)).stored
      (List.mem_flatten.mpr ⟨batch, hbatch, hi⟩)).2.1

/-- Inserting batches adds their items and leaves the sources alone. -/
theorem execAll_insertItems (db : Database) (batches : List (List HostListItem)) (k : ℤ) :
    (execAll db (batches.map .insertItems)).source k = db.source k ∧
      (execAll db (batches.map .insertItems)).sourceItems k
        = db.sourceItems k ++ ofSource k batches.flatten := by
  induction batches generalizing db with
  | nil => exact ⟨rfl, (List.append_nil _).symm⟩
  | cons batch batches ih =>
    obtain ⟨hsource, hitems⟩ := ih (Statement.exec db (.insertItems batch))
    constructor
    · rw [List.map_cons, execAll_cons, hsource, Statement.source_exec]
      exact Option.map_id_apply
    · rw [List.map_cons, execAll_cons, hitems, Statement.sourceItems_exec, List.flatten_cons,
        ofSource_append, ← List.append_assoc]
      rfl

/-- `SourceLoader.parse` leaves the source with the items of its batches. -/
theorem execAll_parseStatements (db : Database) (batches : List (List HostListItem)) (k : ℤ) :
    (execAll db (parseStatements k batches)).source k = db.source k ∧
      (execAll db (parseStatements k batches)).sourceItems k = ofSource k batches.flatten := by
  obtain ⟨hsource, hitems⟩ := execAll_insertItems (Statement.exec db (.clearSourceHosts k)) batches k
  constructor
  · rw [parseStatements, execAll_cons, hsource, Statement.source_exec]
    exact Option.map_id_apply
  · rw [parseStatements, execAll_cons, hitems, Statement.sourceItems_exec,
      Statement.onSourceItems, if_pos rfl, List.nil_append]

/-- The last two statements of a copy store the dates and the size. -/
theorem execAll_stamp {db : Database} {k : ℤ} {s : HostsSource} (hs : db.source k = some s)
    (hk : s.id = k) (localDate online : ZonedDateTime) :
    (execAll db [.updateModificationDates k localDate online, .updateSize k]).source k
      = some
        { s with
          localModificationDate := some localDate.stored
          onlineModificationDate := some online.stored
          size := (db.sourceItems k).length } ∧
    (execAll db [.updateModificationDates k localDate online, .updateSize k]).sourceItems k
      = db.sourceItems k := by
  constructor
  · rw [execAll_cons, execAll_cons, execAll_nil, Statement.source_exec, Statement.source_exec, hs]
    simp only [Option.map_some, Statement.onSource, hk, if_true]
    rfl
  · rw [execAll_cons, execAll_cons, execAll_nil, Statement.sourceItems_exec,
      Statement.sourceItems_exec]
    rfl

/-- The entity tag of a response is stored if there is one. -/
theorem execAll_updateEntityTag {db : Database} {s : HostsSource} (hs : db.source s.id = some s)
    (entityTag : Option String) :
    (execAll db (entityTag.toList.map (.updateEntityTag s.id))).source s.id
        = some { s with entityTag := entityTag.or s.entityTag } ∧
      (execAll db (entityTag.toList.map (.updateEntityTag s.id))).sourceItems s.id
        = db.sourceItems s.id := by
  cases entityTag with
  | none => exact ⟨hs, rfl⟩
  | some tag =>
    refine ⟨?_, Statement.sourceItems_exec db (.updateEntityTag s.id tag) s.id⟩
    refine (Statement.source_exec db (.updateEntityTag s.id tag) s.id).trans ?_
    simp [hs, Statement.onSource]

/-- Two rows of a source with the same settings: all but what copying and checking store. -/
structure SameSettings (s s' : HostsSource) : Prop where
  id_eq : s'.id = s.id
  url_eq : s'.url = s.url
  enabled_eq : s'.enabled = s.enabled
  allowEnabled_eq : s'.allowEnabled = s.allowEnabled
  redirectEnabled_eq : s'.redirectEnabled = s.redirectEnabled

/-- What is stored before the reader is closed. -/
theorem execAll_storeStatements {db : Database} {s : HostsSource} (hs : db.source s.id = some s)
    (entityTag : Option String) (batches : Option (List (List HostListItem))) :
    (execAll db (storeStatements s.id entityTag batches)).source s.id
        = some { s with entityTag := entityTag.or s.entityTag } ∧
      (execAll db (storeStatements s.id entityTag batches)).sourceItems s.id
        = batches.elim (db.sourceItems s.id) fun b => ofSource s.id b.flatten := by
  rw [storeStatements, execAll_append]
  obtain ⟨htagSource, htagItems⟩ := execAll_updateEntityTag hs entityTag
  generalize execAll db (entityTag.toList.map (.updateEntityTag s.id)) = db₁ at htagSource htagItems
  have hparse : (execAll db₁ (batches.toList.flatMap (parseStatements s.id))).source s.id
        = db₁.source s.id ∧
      (execAll db₁ (batches.toList.flatMap (parseStatements s.id))).sourceItems s.id
        = batches.elim (db₁.sourceItems s.id) fun b => ofSource s.id b.flatten := by
    cases batches with
    | none => exact ⟨rfl, rfl⟩
    | some b =>
      rw [Option.toList_some, List.flatMap_singleton]
      exact execAll_parseStatements db₁ b s.id
  obtain ⟨hparseSource, hparseItems⟩ := hparse
  rw [htagItems] at hparseItems
  exact ⟨hparseSource.trans htagSource, hparseItems⟩

/-- A copy that is done stores the validators of the source and, if it has loaded a body, replaces
the items by those of the body. -/
theorem Copy.execAll_done {db : Database} {s : HostsSource} (hs : db.source s.id = some s)
    (now online : ZonedDateTime) (entityTag : Option String)
    (batches : Option (List (List HostListItem))) :
    ∃ s', (execAll db ((Copy.done entityTag batches).statements now online s.id)).source s.id
        = some s' ∧ SameSettings s s' ∧ s'.entityTag = entityTag.or s.entityTag ∧
      s'.localModificationDate = some (if online.isAfter now then online else now).stored ∧
      s'.onlineModificationDate = some online.stored ∧
      (execAll db ((Copy.done entityTag batches).statements now online s.id)).sourceItems s.id
        = batches.elim (db.sourceItems s.id) fun b => ofSource s.id b.flatten := by
  obtain ⟨hstored, hloaded⟩ := execAll_storeStatements hs entityTag batches
  rw [Copy.statements, execAll_append]
  obtain ⟨hsource, hitems⟩ := execAll_stamp hstored rfl
    (if online.isAfter now then online else now) online
  exact ⟨_, hsource, ⟨rfl, rfl, rfl, rfl, rfl⟩, rfl, rfl, rfl, hitems.trans hloaded⟩

/-- No copy changes the settings of its source. -/
theorem Copy.sameSettings {db : Database} {s : HostsSource} (hs : db.source s.id = some s)
    (now online : ZonedDateTime) (copy : Copy) :
    ∃ s', (execAll db (copy.statements now online s.id)).source s.id = some s' ∧
      SameSettings s s' := by
  cases copy with
  | skipped => exact ⟨s, hs, rfl, rfl, rfl, rfl, rfl⟩
  | failed entityTag batches =>
    exact ⟨_, (execAll_storeStatements hs entityTag batches).1, rfl, rfl, rfl, rfl, rfl⟩
  | done entityTag batches =>
    obtain ⟨s', hs', hsettings, -⟩ := Copy.execAll_done hs now online entityTag batches
    exact ⟨s', hs', hsettings⟩

/-- **What a copy changes** until its reader is closed: the entity tag and, if it has loaded a body,
the items. The dates are stored after that, unless closing fails. -/
theorem Site.execAll_ends {db : Database} {s : HostsSource} (hs : db.source s.id = some s)
    (site : Site) (now online : ZonedDateTime) (entityTag : Option String)
    (batches : Option (List (List HostListItem))) :
    ∃ s', (execAll db ((site.ends entityTag batches).statements now online s.id)).source s.id
        = some s' ∧ SameSettings s s' ∧ s'.entityTag = entityTag.or s.entityTag ∧
      s'.localModificationDate = (if site.closeFails then s.localModificationDate
        else some (if online.isAfter now then online else now).stored) ∧
      s'.onlineModificationDate = (if site.closeFails then s.onlineModificationDate
        else some online.stored) ∧
      (execAll db ((site.ends entityTag batches).statements now online s.id)).sourceItems s.id
        = batches.elim (db.sourceItems s.id) fun b => ofSource s.id b.flatten := by
  rw [Site.ends]
  cases site.closeFails with
  | true =>
    obtain ⟨hstored, hloaded⟩ := execAll_storeStatements hs entityTag batches
    exact ⟨_, hstored, ⟨rfl, rfl, rfl, rfl, rfl⟩, rfl, rfl, rfl, hloaded⟩
  | false => exact Copy.execAll_done hs now online entityTag batches

end AdAway
