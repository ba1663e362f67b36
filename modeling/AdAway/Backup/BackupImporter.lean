import AdAway.Backup.BackupFormat
import AdAway.Db.HostListItemDao

/-!
# Exporting and importing a backup

`BackupExporter` writes the external sources and the user items, the items split by their type.
`BackupImporter` reads a backup back: it inserts the sources, which leaves a source with the URL of
another one out, and stores each item over a user item of the same host.

An import has no transaction. Which items and sources it writes depends on the backup only, so it is
a `Journal` of its writes, up to the exception that ends it.

## Main definitions

* `makeBackup` — the object that an export writes
* `BackupWrite`, `BackupWrite.exec` — what an import writes
* `importBackupObject`, `importBackup` — an import, of an object and of a file

## Main results

* `importBackupObject_makeBackup` — what the import of an export writes
* `HasUserItem.exec`, `hasUserItem_exec` — an item is there once written, until its host is written
  again
* `exists_source_foldl` — the sources after an import
-/

namespace AdAway

/-! ### Export -/

/-- `BackupExporter.buildSourcesBackup`. -/
def buildSourcesBackup (sources : List HostsSource) : List Json :=
  sources.map fun source => .object (sourceToJson source)

/-- `BackupExporter.buildListBackup`. -/
def buildListBackup (hosts : List HostListItem) : List Json :=
  hosts.map fun host => .object (hostToJson host)

/-- `BackupExporter.makeBackup`, on the answers of `getUserList` and `getAll`. -/
def makeBackup (userHosts : List HostListItem) (sources : List HostsSource) : JSONObject :=
  let blockedHosts := userHosts.filter fun value => value.type = .blocked
  let allowedHosts := userHosts.filter fun value => value.type = .allowed
  let redirectedHosts := userHosts.filter fun value => value.type = .redirected
  [("sources", .array (buildSourcesBackup sources)), ("blocked", .array (buildListBackup blockedHosts)),
    ("allowed", .array (buildListBackup allowedHosts)),
    ("redirected", .array (buildListBackup redirectedHosts))]

/-- The items of a backup, in the order of an import. -/
def exportedItems (userHosts : List HostListItem) : List HostListItem :=
  (userHosts.filter fun value => value.type = .blocked) ++
    ((userHosts.filter fun value => value.type = .allowed) ++
      userHosts.filter fun value => value.type = .redirected)

/-! ### Import -/

/-- What an import writes. -/
inductive BackupWrite
  /-- `HostsSourceDao.insert`. -/
  | source (source : HostsSource)
  /-- `HostListItemDao.update` over the item that `getHostId` finds, or `insert`. -/
  | item (item : HostListItem)
  deriving DecidableEq

/-- One write, with the answers of `getHostId`. -/
def BackupWrite.exec (getHostId : Database → String → Option ℤ) (db : Database) :
    BackupWrite → Database
  | .source s => insertSource s db
  | .item i => storeItem (getHostId db i.host) i db

/-- The run of an import. -/
abbrev Import := Journal BackupWrite JSONException

/-- One turn of `BackupImporter.importSourceBackup`. -/
def importSource (library : JsonLibrary) (source : Json) : Import Unit := do
  let sourceObject ← Journal.lift (getJSONObject source)
  let source ← Journal.lift (sourceFromJson library sourceObject)
  Journal.tell [.source source]

/-- One turn of `BackupImporter.importListBackup`. -/
def importHost (library : JsonLibrary) (type : ListType) (host : Json) : Import Unit := do
  let hostObject ← Journal.lift (getJSONObject host)
  let host ← Journal.lift (hostFromJson library type hostObject)
  Journal.tell [.item host]

/-- The loop of `BackupImporter.importListBackup`. -/
def importListBackup (library : JsonLibrary) (type : ListType) (backup : JSONObject) (key : String) :
    Import Unit := do
  let hosts ← Journal.lift (getJSONArray backup key)
  let _ ← Journal.forEach (importHost library type) hosts
  return ()

/-- `BackupImporter.importBackup` of an object. -/
def importBackupObject (library : JsonLibrary) (backup : JSONObject) : Import Unit := do
  let sources ← Journal.lift (getJSONArray backup "sources")
  let _ ← Journal.forEach (importSource library) sources
  importListBackup library .blocked backup "blocked"
  importListBackup library .allowed backup "allowed"
  importListBackup library .redirected backup "redirected"

/-- The lines of a file, one after the other without their ends. -/
def joinLines (content : String) : String :=
  String.ofList (content.toList.filter fun c => c ≠ '\n' ∧ c ≠ '\r')

/-- `BackupImporter.importBackup` of a file with this content, and whether it returns: a
`JSONException` makes it throw an `IOException`. -/
def importBackup (library : JsonLibrary) (getHostId : Database → String → Option ℤ) (content : String)
    (db : Database) : Bool × Database :=
  match library.parse (joinLines content) with
  | none => (false, db)
  | some backup =>
    let run := importBackupObject library backup
    (run.result.isOk, run.log.foldl (BackupWrite.exec getHostId) db)

/-! ### The import of an export -/

/-- The source that an import makes of an exported one. -/
def importedSource (source : HostsSource) : HostsSource :=
  newSource source.label source.url source.enabled source.allowEnabled source.redirectEnabled

/-- The item that an import makes of an exported one. -/
def importedItem (item : HostListItem) : HostListItem :=
  ⟨0, item.host, item.type, item.enabled, keptRedirection item.redirection, userSourceId⟩

theorem forEach_importSource (library : JsonLibrary) {sources : List HostsSource}
    (h : ∀ source ∈ sources, isValidUrl source.url = true) :
    Journal.forEach (importSource library) (buildSourcesBackup sources)
      = ⟨sources.map fun source => .source (importedSource source), .ok (sources.map fun _ => ())⟩ := by
  induction sources with
  | nil => rfl
  | cons source sources ih =>
    rw [List.forall_mem_cons] at h
    have hturn : importSource library (.object (sourceToJson source))
        = ⟨[.source (importedSource source)], .ok ()⟩ := by
      rw [importSource, getJSONObject, Journal.lift_ok, Journal.pure_bind,
        sourceFromJson_sourceToJson library h.1]
      rfl
    show Journal.forEach _ (.object (sourceToJson source) :: buildSourcesBackup sources) = _
    rw [Journal.forEach_cons_of_ok (congrArg Journal.result hturn) (congrArg Journal.result (ih h.2)),
      hturn, ih h.2]
    rfl

theorem forEach_importHost (library : JsonLibrary) {type : ListType} {hosts : List HostListItem}
    (h : ∀ host ∈ hosts, host.type = type) :
    Journal.forEach (importHost library type) (buildListBackup hosts)
      = ⟨hosts.map fun host => .item (importedItem host), .ok (hosts.map fun _ => ())⟩ := by
  induction hosts with
  | nil => rfl
  | cons host hosts ih =>
    rw [List.forall_mem_cons] at h
    have hturn : importHost library type (.object (hostToJson host))
        = ⟨[.item (importedItem host)], .ok ()⟩ := by
      rw [importHost, getJSONObject, Journal.lift_ok, Journal.pure_bind, hostFromJson_hostToJson,
        ← h.1]
      rfl
    show Journal.forEach _ (.object (hostToJson host) :: buildListBackup hosts) = _
    rw [Journal.forEach_cons_of_ok (congrArg Journal.result hturn) (congrArg Journal.result (ih h.2)),
      hturn, ih h.2]
    rfl

theorem importListBackup_eq {library : JsonLibrary} {type : ListType} {backup : JSONObject}
    {key : String} {hosts : List HostListItem}
    (hkey : getJSONArray backup key = .ok (buildListBackup hosts))
    (h : ∀ host ∈ hosts, host.type = type) :
    importListBackup library type backup key
      = ⟨hosts.map fun host => .item (importedItem host), .ok ()⟩ := by
  rw [importListBackup, hkey, Journal.lift_ok, Journal.pure_bind,
    Journal.bind_of_ok (congrArg Journal.result (forEach_importHost library h)),
    forEach_importHost library h]
  exact Journal.ext (List.append_nil _) rfl

/-- **What the import of an export writes**: all sources, then all items in the order of their
types. -/
theorem importBackupObject_makeBackup (library : JsonLibrary) {userHosts : List HostListItem}
    {sources : List HostsSource} (h : ∀ source ∈ sources, isValidUrl source.url = true) :
    importBackupObject library (makeBackup userHosts sources)
      = ⟨sources.map (fun source => .source (importedSource source)) ++
          (exportedItems userHosts).map fun item => .item (importedItem item), .ok ()⟩ := by
  have htype : ∀ type, ∀ host ∈ userHosts.filter (fun value => value.type = type),
      host.type = type := by
    intro type host hhost
    simpa using (List.mem_filter.mp hhost).2
  have hsources : getJSONArray (makeBackup userHosts sources) "sources"
      = .ok (buildSourcesBackup sources) := rfl
  have hblocked : importListBackup library .blocked (makeBackup userHosts sources) "blocked" = _ :=
    importListBackup_eq rfl (htype .blocked)
  have hallowed : importListBackup library .allowed (makeBackup userHosts sources) "allowed" = _ :=
    importListBackup_eq rfl (htype .allowed)
  have hredirected : importListBackup library .redirected (makeBackup userHosts sources) "redirected"
      = _ := importListBackup_eq rfl (htype .redirected)
  rw [importBackupObject, hsources, Journal.lift_ok, Journal.pure_bind,
    Journal.bind_of_ok (congrArg Journal.result (forEach_importSource library h)),
    forEach_importSource library h, hblocked, hallowed, hredirected]
  refine Journal.ext ?_ rfl
  show _ ++ (_ ++ (_ ++ _)) = _
  rw [exportedItems, List.map_append, List.map_append]

/-! ### The tables after an import -/

/-- The user has this item. -/
def HasUserItem (db : Database) (item : HostListItem) : Prop :=
  ∃ i ∈ db.hostsLists.rows, { i with id := item.id } = item

variable {getHostId : Database → String → Option ℤ}

theorem hostsLists_exec_source (db : Database) (source : HostsSource) :
    (BackupWrite.exec getHostId db (.source source)).hostsLists = db.hostsLists :=
  rows_insertSource source

theorem hostsSources_exec_item (db : Database) (item : HostListItem) :
    (BackupWrite.exec getHostId db (.item item)).hostsSources = db.hostsSources :=
  hostsSources_storeItem (getHostId db item.host) item db

/-- An item is there once written. -/
theorem hasUserItem_exec (h : ∀ db host, IsHostId db host (getHostId db host)) (db : Database)
    (item : HostListItem) : HasUserItem (BackupWrite.exec getHostId db (.item item)) item := by
  show HasUserItem (storeItem (getHostId db item.host) item db) item
  have hid := h db item.host
  cases hget : getHostId db item.host with
  | none => exact ⟨_, mem_rows_insertItem.mpr (Or.inr rfl), rfl⟩
  | some id =>
    rw [hget] at hid
    obtain ⟨i, hi, rfl, -, -⟩ := hid
    exact ⟨{ item with id := i.id }, mem_rows_updateItem.mpr (Or.inr ⟨rfl, i, hi, rfl⟩), rfl⟩

/-- It stays there until its host is written again. -/
theorem HasUserItem.exec (h : ∀ db host, IsHostId db host (getHostId db host)) {db : Database}
    {item : HostListItem} (hitem : HasUserItem db item) {write : BackupWrite}
    (hwrite : ∀ item', write = .item item' → item'.host ≠ item.host) :
    HasUserItem (write.exec getHostId db) item := by
  obtain ⟨i, hi, heq⟩ := hitem
  cases write with
  | source source => exact ⟨i, by rwa [hostsLists_exec_source], heq⟩
  | item item' =>
    refine ⟨i, ?_, heq⟩
    have hhost : i.host = item.host := heq ▸ rfl
    have hid := h db item'.host
    show i ∈ (storeItem (getHostId db item'.host) item' db).hostsLists.rows
    cases hget : getHostId db item'.host with
    | none => exact mem_rows_insertItem.mpr (Or.inl hi)
    | some id =>
      rw [hget] at hid
      obtain ⟨j, hj, rfl, hjhost, -⟩ := hid
      refine mem_rows_updateItem.mpr (Or.inl ⟨hi, fun hne => ?_⟩)
      -- the row that is written over is one of the other host
      obtain rfl := eq_of_id_eq hi hj hne
      exact hwrite item' rfl (hjhost.symm.trans hhost)

theorem HasUserItem.foldl (h : ∀ db host, IsHostId db host (getHostId db host)) {db : Database}
    {item : HostListItem} (hitem : HasUserItem db item) {items : List HostListItem}
    (hitems : ∀ item' ∈ items, item'.host ≠ item.host) :
    HasUserItem ((items.map BackupWrite.item).foldl (BackupWrite.exec getHostId) db) item := by
  induction items generalizing db with
  | nil => exact hitem
  | cons item' items ih =>
    rw [List.forall_mem_cons] at hitems
    refine ih (hitem.exec h fun item'' heq => ?_) hitems.2
    cases heq
    exact hitems.1

/-- Inserting a source keeps the others. -/
theorem mem_rows_insertSource {db : Database} {source s : HostsSource}
    (hs : s ∈ db.hostsSources.rows) : s ∈ (insertSource source db).hostsSources.rows := by
  rw [insertSource]
  split
  · exact hs
  · exact List.mem_append_left _ hs

variable (getHostId) in
theorem mem_rows_foldl_source {db : Database} {s : HostsSource} (hs : s ∈ db.hostsSources.rows)
    (sources : List HostsSource) :
    s ∈ ((sources.map BackupWrite.source).foldl (BackupWrite.exec getHostId) db).hostsSources.rows := by
  induction sources generalizing db with
  | nil => exact hs
  | cons source sources ih => exact ih (mem_rows_insertSource hs)

theorem hostsSources_foldl_item (db : Database) (items : List HostListItem) :
    ((items.map BackupWrite.item).foldl (BackupWrite.exec getHostId) db).hostsSources
      = db.hostsSources := by
  induction items generalizing db with
  | nil => rfl
  | cons item items ih =>
    rw [List.map_cons, List.foldl_cons, ih, hostsSources_exec_item]

variable (getHostId) in
/-- **The sources after an import**: a source whose URL is new, to the table and among those of the
backup, is inserted. -/
theorem exists_source_foldl {db : Database} {sources : List HostsSource} {s : HostsSource}
    (hs : s ∈ sources) (hnodup : (sources.map HostsSource.url).Nodup)
    (hnew : ∀ r ∈ db.hostsSources.rows, r.url ≠ s.url) :
    ∃ n, { s with id := n } ∈
      ((sources.map BackupWrite.source).foldl (BackupWrite.exec getHostId) db).hostsSources.rows := by
  induction sources generalizing db with
  | nil => exact absurd hs List.not_mem_nil
  | cons source sources ih =>
    rw [List.map_cons, List.nodup_cons] at hnodup
    rcases List.mem_cons.mp hs with rfl | hs
    · have hany : (db.hostsSources.rows.any fun r => r.url = s.url) = false := by
        rw [List.any_eq_false]
        exact fun r hr => by simpa using hnew r hr
      refine ⟨db.hostsSources.sequence + 1, mem_rows_foldl_source getHostId ?_ sources⟩
      show _ ∈ (insertSource s db).hostsSources.rows
      rw [insertSource, hany, if_neg Bool.false_ne_true]
      exact List.mem_append_right _ (List.mem_singleton.mpr rfl)
    · refine ih hs hnodup.2 fun r hr => ?_
      change r ∈ (insertSource source db).hostsSources.rows at hr
      rw [insertSource] at hr
      split at hr
      · exact hnew r hr
      · rcases List.mem_append.mp hr with hr | hr
        · exact hnew r hr
        · obtain rfl := List.mem_singleton.mp hr
          exact fun heq => hnodup.1 (List.mem_map.mpr ⟨s, hs, heq.symm⟩)

end AdAway
