import AdAway.Ui.ListScreens

/-!
# A backup in another database

What an import makes of the backup of a database that the application has reached, in any database.

Both tables merge. A source whose URL is taken keeps the row that is there. An item goes over the
one item of its host, whatever its type, so that of the items of one host the last one in the order
of an export stays: the blocked ones come first, then the allowed ones, then the redirected ones.

## Main definitions

* `Restores` — a row has what a backup keeps of a source
* `LastOfHost` — the item of a host that an import stores last

## Main results

* `importBackup_makeBackup` — what is there after the import
-/

namespace AdAway

/-- The row has all that a backup keeps of the source. -/
def Restores (r source : HostsSource) : Prop :=
  r.label = source.label ∧ r.url = source.url ∧ r.enabled = source.enabled ∧
    r.allowEnabled = source.allowEnabled ∧ r.redirectEnabled = source.redirectEnabled

instance (r source : HostsSource) : Decidable (Restores r source) := by
  unfold Restores; infer_instance

/-- The item is the last one of its host in an export. -/
def LastOfHost (userHosts : List HostListItem) (item : HostListItem) : Prop :=
  ∃ before after, exportedItems userHosts = before ++ item :: after ∧
    ∀ item' ∈ after, item'.host ≠ item.host

theorem mem_exportedItems {userHosts : List HostListItem} {item : HostListItem} :
    item ∈ exportedItems userHosts ↔ item ∈ userHosts := by
  simp only [exportedItems, List.mem_append, List.mem_filter, decide_eq_true_eq]
  cases item.type <;> simp

/-- Each host of the user has a last item. -/
theorem exists_lastOfHost {userHosts : List HostListItem} {item : HostListItem}
    (h : item ∈ userHosts) :
    ∃ last ∈ userHosts, last.host = item.host ∧ LastOfHost userHosts last := by
  have hfind : ((exportedItems userHosts).reverse.find? fun i => i.host = item.host).isSome := by
    rw [List.find?_isSome]
    exact ⟨item, List.mem_reverse.mpr (mem_exportedItems.mpr h), by simp⟩
  obtain ⟨last, hlast⟩ := Option.isSome_iff_exists.mp hfind
  obtain ⟨hhost, after, before, hitems, hafter⟩ := List.find?_eq_some_iff_append.mp hlast
  have hhost : last.host = item.host := by simpa using hhost
  have hitems : exportedItems userHosts = before.reverse ++ last :: after.reverse := by
    rw [← List.reverse_reverse (exportedItems userHosts), hitems]
    simp
  refine ⟨last, ?_, hhost, before.reverse, after.reverse, hitems, fun item' hitem' => ?_⟩
  · rw [← mem_exportedItems, hitems]
    exact List.mem_append_right _ List.mem_cons_self
  · have hne := hafter item' (List.mem_reverse.mp hitem')
    rw [hhost]
    simpa using hne

section Import

variable {getHostId : Database → String → Option ℤ}

/-- The sources after the import of sources whose URLs are distinct. -/
theorem exists_importedSource {db : Database} {sources : List HostsSource}
    (hnodup : (sources.map HostsSource.url).Nodup) {source : HostsSource} (hsource : source ∈ sources)
    (hfree : ∀ r ∈ db.hostsSources.rows, r.url ≠ source.url) :
    ∃ r ∈ ((sources.map fun source => BackupWrite.source (importedSource source)).foldl
      (BackupWrite.exec getHostId) db).hostsSources.rows, Restores r source := by
  have himported : ((sources.map importedSource).map HostsSource.url).Nodup := by
    rw [List.map_map]
    exact hnodup
  obtain ⟨n, hn⟩ := exists_source_foldl getHostId
    (List.mem_map.mpr ⟨source, hsource, rfl⟩) himported hfree
  rw [List.map_map] at hn
  exact ⟨_, hn, rfl, rfl, rfl, rfl, rfl⟩

/-- The last item of a host is there after the import. -/
theorem hasUserItem_importedItem (h : ∀ db host, IsHostId db host (getHostId db host)) (db : Database)
    {userHosts : List HostListItem} {item : HostListItem} (hlast : LastOfHost userHosts item) :
    HasUserItem (((exportedItems userHosts).map fun item => BackupWrite.item (importedItem item)).foldl
      (BackupWrite.exec getHostId) db) (importedItem item) := by
  obtain ⟨before, after, hitems, hafter⟩ := hlast
  have hwrites : (exportedItems userHosts).map (fun item => BackupWrite.item (importedItem item))
      = (before.map fun item => BackupWrite.item (importedItem item)) ++
          BackupWrite.item (importedItem item) :: (after.map importedItem).map BackupWrite.item := by
    rw [hitems, List.map_append, List.map_cons, List.map_map]
    rfl
  rw [hwrites, List.foldl_append, List.foldl_cons]
  refine (hasUserItem_exec h _ (importedItem item)).foldl h fun item' hitem' => ?_
  obtain ⟨item'', hitem'', rfl⟩ := List.mem_map.mp hitem'
  exact hafter item'' hitem''

theorem hostsSources_foldl_importedItem (db : Database) (items : List HostListItem) :
    ((items.map fun item => BackupWrite.item (importedItem item)).foldl (BackupWrite.exec getHostId)
      db).hostsSources = db.hostsSources := by
  have hmap : items.map (fun item => BackupWrite.item (importedItem item))
      = (items.map importedItem).map BackupWrite.item := by
    rw [List.map_map]
    rfl
  rw [hmap]
  exact hostsSources_foldl_item db (items.map importedItem)

variable (getHostId) in
/-- What the import of an export does. -/
theorem importBackup_of_parse {library : JsonLibrary} {userHosts : List HostListItem}
    {sources : List HostsSource} {content : String}
    (hparse : library.parse (joinLines content) = some (makeBackup userHosts sources))
    (hvalid : ∀ source ∈ sources, isValidUrl source.url = true) (db : Database) :
    importBackup library getHostId content db
      = (true, ((sources.map fun source => BackupWrite.source (importedSource source)) ++
          (exportedItems userHosts).map fun item => BackupWrite.item (importedItem item)).foldl
            (BackupWrite.exec getHostId) db) := by
  rw [importBackup, hparse]
  show ((importBackupObject library (makeBackup userHosts sources)).result.isOk, _) = _
  rw [importBackupObject_makeBackup library hvalid]
  rfl

end Import

/-- **The import of a backup** of a state that the application has reached, into any database: it
returns; each external source whose URL is not taken is there with its settings; the sources that
were there stay as they are; each host of the user has an item that is exported last, and this item
is there with its type, its flag and its redirection, unless the latter is empty. -/
theorem importBackup_makeBackup {g : Guava} {labels : SourceLabels} {as : List AppAction}
    {s : AppState} (hrun : ActionSystem.run (stepApp g) (installedApp labels) as = some s)
    {userHosts : List HostListItem} (huserHosts : IsUserList s.db userHosts)
    {sources : List HostsSource} (hsources : IsAnswer s.db sources) {library : JsonLibrary}
    (hlibrary : library.parse (joinLines (library.print (makeBackup userHosts sources)))
      = some (makeBackup userHosts sources))
    {getHostId : Database → String → Option ℤ}
    (hgetHostId : ∀ db host, IsHostId db host (getHostId db host)) (db : Database) :
    ∃ db', importBackup library getHostId (library.print (makeBackup userHosts sources)) db
        = (true, db') ∧
      (∀ source ∈ s.db.hostsSources.rows, source.id ≠ userSourceId →
        (∀ r ∈ db.hostsSources.rows, r.url ≠ source.url) →
          ∃ r ∈ db'.hostsSources.rows, Restores r source) ∧
      (∀ r ∈ db.hostsSources.rows, r ∈ db'.hostsSources.rows) ∧
      (∀ item ∈ s.db.itemsOf userSourceId, ∃ last ∈ s.db.itemsOf userSourceId,
        last.host = item.host ∧ LastOfHost userHosts last) ∧
      ∀ last, LastOfHost userHosts last →
        HasUserItem db' ⟨0, last.host, last.type, last.enabled, keptRedirection last.redirection,
          userSourceId⟩ := by
  have hmem : ∀ source, source ∈ sources ↔
      source ∈ s.db.hostsSources.rows ∧ source.id ≠ userSourceId := by
    intro source
    rw [hsources.1.mem_iff, List.mem_filter, decide_eq_true_eq]
  have hvalid : ∀ source ∈ sources, isValidUrl source.url = true := fun source hsource =>
    isValidUrl_of_run hrun source ((hmem source).mp hsource).1 ((hmem source).mp hsource).2
  have hnodup : (sources.map HostsSource.url).Nodup := by
    rw [(hsources.1.map HostsSource.url).nodup_iff]
    exact ((distinctUrls_installedApp labels).run hrun).sublist (List.filter_sublist.map _)
  refine ⟨_, importBackup_of_parse getHostId hlibrary hvalid db, ?_, ?_, ?_, ?_⟩
  · intro source hsource hid hfree
    rw [List.foldl_append, hostsSources_foldl_importedItem]
    exact exists_importedSource hnodup ((hmem source).mpr ⟨hsource, hid⟩) hfree
  · intro r hr
    rw [List.foldl_append, hostsSources_foldl_importedItem]
    have hkept := mem_rows_foldl_source getHostId hr (sources.map importedSource)
    rwa [List.map_map] at hkept
  · intro item hitem
    obtain ⟨last, hmem, hhost, hlast⟩ := exists_lastOfHost (huserHosts.mem_iff.mpr hitem)
    exact ⟨last, huserHosts.mem_iff.mp hmem, hhost, hlast⟩
  · intro last hlast
    rw [List.foldl_append]
    exact hasUserItem_importedItem hgetHostId _ hlast

/-- What the user lists in the run below. -/
def exportedHosts : List HostListItem :=
  [⟨1, "ads.example", .blocked, true, none, 1⟩, ⟨2, "ads.example", .allowed, true, none, 1⟩,
    ⟨3, "old.example", .redirected, true, some "", 1⟩]

/-- The external source of the run below. -/
def exportedSource : HostsSource := { hostsFileSource with id := 5, label := "ads" }

/-- The user replaces the sources, blocks a host and allows it from the log screen. A backup brings
an empty redirection. -/
def exportRun : List AppAction :=
  [.deleteSource 2, .deleteSource 3, .deleteSource 4,
    .addSource "ads" "https://example.org/hosts" false false,
    .addListItem .blocked "ads.example" none none, .addLogItem "ads.example" .allowed none,
    .importItem ⟨0, "old.example", .redirected, true, some "", 1⟩ none]

/-- The backup after this run, as the library prints it. -/
def exportedText : String :=
  "\x7b\n    \"sources\": [\n        \x7b\n            \"label\": \"ads\",\n" ++
    "            \"url\": \"https:\\/\\/example.org\\/hosts\",\n" ++
    "            \"enabled\": true,\n            \"allow\": false,\n" ++
    "            \"redirect\": false\n        \x7d\n    ],\n    \"blocked\": [\n" ++
    "        \x7b\n            \"host\": \"ads.example\",\n" ++
    "            \"enabled\": true\n        \x7d\n    ],\n    \"allowed\": [\n" ++
    "        \x7b\n            \"host\": \"ads.example\",\n" ++
    "            \"enabled\": true\n        \x7d\n    ],\n    \"redirected\": [\n" ++
    "        \x7b\n            \"host\": \"old.example\",\n" ++
    "            \"enabled\": true\n        \x7d\n    ]\n\x7d"

/-- A library that reads this text. -/
def exportedLibrary : JsonLibrary where
  print _ := exportedText
  parse text :=
    if text = joinLines exportedText then some (makeBackup exportedHosts [exportedSource]) else none
  valueOf _ := ""

theorem parse_exportedLibrary :
    exportedLibrary.parse (joinLines (exportedLibrary.print (makeBackup exportedHosts [exportedSource])))
      = some (makeBackup exportedHosts [exportedSource]) := by
  simp only [exportedLibrary, if_true]

/-- The state after this run, with its answers. -/
theorem exists_exportRun : ∃ s,
    ActionSystem.run (stepApp lenientGuava) (installedApp englishLabels) exportRun = some s ∧
      s.db.hostsSources.rows = [{ userSource with label := "User list" }, exportedSource] ∧
      s.db.hostsLists.rows = exportedHosts ∧ IsUserList s.db exportedHosts ∧
        IsAnswer s.db [exportedSource] := by
  have hrows : (ActionSystem.run (stepApp lenientGuava) (installedApp englishLabels) exportRun).map
      (fun s => (s.db.hostsSources.rows, s.db.hostsLists.rows))
      = some ([{ userSource with label := "User list" }, exportedSource], exportedHosts) := by
    decide +kernel
  obtain ⟨s, hs, hrows⟩ := Option.map_eq_some_iff.mp hrows
  obtain ⟨hsources, hitems⟩ := Prod.mk.inj hrows
  refine ⟨s, hs, hsources, hitems, ?_, ?_, List.pairwise_singleton _ _⟩
  · rw [IsUserList, Database.itemsOf, hitems]
    decide
  · rw [hsources]
    decide

theorem importBackup_makeBackup_installed : ∃ db',
    importBackup exportedLibrary firstHostId exportedText installedDatabase = (true, db') ∧
      (∃ r ∈ db'.hostsSources.rows, Restores r exportedSource) ∧
      HasUserItem db' ⟨0, "ads.example", .allowed, true, none, 1⟩ := by
  obtain ⟨s, hs, hsources, hitems, hlist, hanswer⟩ := exists_exportRun
  obtain ⟨db', hdb', hrestored, -, -, hlast⟩ := importBackup_makeBackup hs hlist hanswer
    parse_exportedLibrary isHostId_firstHostId installedDatabase
  refine ⟨db', hdb', ?_, ?_⟩
  · exact hrestored exportedSource (by rw [hsources]; decide) (by decide) (by decide)
  · refine hlast ⟨2, "ads.example", .allowed, true, none, 1⟩
      ⟨[⟨1, "ads.example", .blocked, true, none, 1⟩],
        [⟨3, "old.example", .redirected, true, some "", 1⟩], by decide, by decide⟩

/-- A database with another source of the URL. -/
def otherDatabase : Database :=
  insertSource (newSource "other" "https://example.org/hosts" true false false) installedDatabase

/-- Imported there, the source keeps the label that is there, the block of the host is lost, and so
is the empty redirection. -/
theorem exists_lost : ∃ s,
    ActionSystem.run (stepApp lenientGuava) (installedApp englishLabels) exportRun = some s ∧
      IsUserList s.db exportedHosts ∧ IsAnswer s.db [exportedSource] ∧
      exportedSource ∈ s.db.hostsSources.rows ∧
      (∀ r ∈ (importBackup exportedLibrary firstHostId exportedText otherDatabase).2.hostsSources.rows,
        ¬ Restores r exportedSource) ∧
      ∀ item ∈ s.db.itemsOf userSourceId, item.type ≠ .allowed →
        ¬ HasUserItem (importBackup exportedLibrary firstHostId exportedText otherDatabase).2 item := by
  obtain ⟨s, hs, hsources, hitems, hlist, hanswer⟩ := exists_exportRun
  have himport : importBackup exportedLibrary firstHostId exportedText otherDatabase = _ :=
    importBackup_of_parse firstHostId parse_exportedLibrary (by decide) otherDatabase
  rw [himport]
  refine ⟨s, hs, hlist, hanswer, ?_, ?_, ?_⟩
  · rw [hsources]
    decide
  · decide +kernel
  · rw [Database.itemsOf, hitems]
    unfold HasUserItem
    decide +kernel

theorem not_importBackup_keeps :
    ¬ ∀ (g : Guava) (labels : SourceLabels) (as : List AppAction) (s : AppState),
      ActionSystem.run (stepApp g) (installedApp labels) as = some s →
      ∀ userHosts sources, IsUserList s.db userHosts → IsAnswer s.db sources →
      ∀ library : JsonLibrary,
        library.parse (joinLines (library.print (makeBackup userHosts sources)))
          = some (makeBackup userHosts sources) →
      ∀ getHostId, (∀ db host, IsHostId db host (getHostId db host)) → ∀ db, ∃ db',
        importBackup library getHostId (library.print (makeBackup userHosts sources)) db = (true, db') ∧
          (∀ source ∈ s.db.hostsSources.rows, source.id ≠ userSourceId →
            ∃ r ∈ db'.hostsSources.rows, Restores r source) ∧
          ∀ item ∈ s.db.itemsOf userSourceId, HasUserItem db' item := by
  intro h
  obtain ⟨s, hs, hlist, hanswer, hsource, hlost, -⟩ := exists_lost
  obtain ⟨db', hdb', hrestored, -⟩ := h lenientGuava englishLabels exportRun s hs _ _ hlist hanswer
    exportedLibrary parse_exportedLibrary firstHostId isHostId_firstHostId otherDatabase
  obtain ⟨r, hr, hsettings⟩ := hrestored exportedSource hsource (by decide)
  refine hlost r ?_ hsettings
  rwa [show exportedText = exportedLibrary.print (makeBackup exportedHosts [exportedSource]) from rfl,
    hdb']

end AdAway
