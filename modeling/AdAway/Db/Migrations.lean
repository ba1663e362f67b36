import AdAway.Db.HostEntryDao
import AdAway.Library.Sql

/-!
# Migrations of the application database

The scripts that bring a database of schema version 1 to version 7, and the databases of the
versions they start from and end with.

Version 1 has no user source: `MIGRATION_1_2` inserts it, with the URL of today, and makes it the
owner of all items. `MIGRATION_5_6` looks for it by the URL of that time. It also deletes the
sources of an old kind, and not their items.

The bodies of the views and the foreign keys are left out: no statement of a script depends on them,
and foreign keys are enforced once the database is open.

## Main definitions

* `migration_1_2`, …, `migration_6_7` — the scripts
* `version1`, `version5`, `version7` — the databases, by their rows
* `Initialized` — what holds of an installed database

## Main results

* `run_migration_5_6` — what becomes of the sources from version 5 to 6
-/

namespace AdAway

open Sql (Value Row Column Table Index)

/-! ### The schema -/

/-- The names of tables and indexes. -/
inductive DbName
  | hostsSources
  | hostsSourcesNew
  | hostsLists
  | hostsListsNew
  | hostEntries
  | indexHostsSourcesUrl
  | indexHostsListsHost
  | indexHostsListsSourceId
  | indexHostEntriesHost
  deriving DecidableEq

/-- The columns. -/
inductive DbColumn
  | id
  | label
  | url
  | enabled
  | allowEnabled
  | redirectEnabled
  | lastModifiedLocal
  | lastModifiedOnline
  | entityTag
  | size
  | host
  | type
  | redirection
  | sourceId
  deriving DecidableEq

/-- A row of one of the tables. -/
abbrev DbRow := Row DbColumn

/-- A database of some version. -/
abbrev DbFile := Sql.Database DbName DbColumn

/-- The statements of the scripts. -/
abbrev DbStatement := Sql.Statement DbName DbColumn

/-- `HostsSource.USER_SOURCE_URL`. -/
def userSourceUrl : String := "content://org.adaway/user/hosts"

/-- The URL of the user source up to version 5. -/
def oldUserSourceUrl : String := "file://app/user/hosts"

/-- `value LIKE pattern`, of a pattern that is not too complex. -/
def likeValue (value : Value) (pattern : String) : Bool :=
  match value with
  | .text s => like s pattern = some true
  | _ => false

/-- The columns of `hosts_sources` from version 2 to 5. -/
def sourceColumns2 : List (Column DbColumn) :=
  [⟨.id, .integer, true, .null⟩, ⟨.url, .text, true, .null⟩, ⟨.enabled, .integer, true, .null⟩,
    ⟨.lastModifiedLocal, .integer, false, .null⟩, ⟨.lastModifiedOnline, .integer, false, .null⟩]

/-- The columns of `hosts_lists` from version 2 on. -/
def itemColumns2 : List (Column DbColumn) :=
  [⟨.id, .integer, true, .null⟩, ⟨.host, .text, true, .null⟩, ⟨.type, .integer, true, .null⟩,
    ⟨.enabled, .integer, true, .null⟩, ⟨.redirection, .text, false, .null⟩,
    ⟨.sourceId, .integer, true, .null⟩]

/-- The columns of `host_entries`. -/
def entryColumns : List (Column DbColumn) :=
  [⟨.host, .text, true, .null⟩, ⟨.type, .integer, true, .null⟩, ⟨.redirection, .text, false, .null⟩]

/-- `index_hosts_sources_url`. -/
def sourcesUrlIndex : Index DbName DbColumn := ⟨.indexHostsSourcesUrl, .hostsSources, .url, true⟩

/-- `index_hosts_lists_host`, which is unique in version 2 and 3. -/
def listsHostIndex (unique : Bool) : Index DbName DbColumn :=
  ⟨.indexHostsListsHost, .hostsLists, .host, unique⟩

/-- `index_hosts_lists_source_id`. -/
def listsSourceIdIndex : Index DbName DbColumn :=
  ⟨.indexHostsListsSourceId, .hostsLists, .sourceId, false⟩

/-- `index_host_entries_host`. -/
def entriesHostIndex : Index DbName DbColumn := ⟨.indexHostEntriesHost, .hostEntries, .host, true⟩

/-! ### The scripts -/

/-- `MIGRATION_1_2`. -/
def migration_1_2 : List DbStatement :=
  [.createTable false .hostsSourcesNew sourceColumns2 .id true,
    .insert .hostsSourcesNew
      [(.id, .integer userSourceId), (.url, .text userSourceUrl), (.enabled, .integer 1)],
    .insertSelect .hostsSourcesNew
      (fun r => [(.url, r .url), (.enabled, r .enabled), (.lastModifiedLocal, r .lastModifiedLocal),
        (.lastModifiedOnline, r .lastModifiedOnline)]) .hostsSources,
    .dropTable .hostsSources,
    .renameTable .hostsSourcesNew .hostsSources,
    .createTable false .hostsListsNew itemColumns2 .id true,
    .insertSelect .hostsListsNew
      (fun r => [(.host, r .host), (.type, r .type), (.enabled, r .enabled),
        (.redirection, r .redirection), (.sourceId, .integer userSourceId)]) .hostsLists,
    .dropTable .hostsLists,
    .renameTable .hostsListsNew .hostsLists,
    .createIndex false sourcesUrlIndex,
    .createIndex false (listsHostIndex true),
    .createIndex false listsSourceIdIndex]

/-- `MIGRATION_2_3`. -/
def migration_2_3 : List DbStatement := [.createView .hostEntries]

/-- `MIGRATION_3_4`. -/
def migration_3_4 : List DbStatement :=
  [.dropIndex .indexHostsListsHost, .createIndex false (listsHostIndex false),
    .dropView .hostEntries, .createView .hostEntries]

/-- `MIGRATION_4_5`. -/
def migration_4_5 : List DbStatement :=
  [.dropView .hostEntries, .createTable true .hostEntries entryColumns .host false,
    .createIndex true entriesHostIndex]

/-- Sets the label of a source with this URL. -/
def updateLabel (label url : String) : DbStatement :=
  .update .hostsSources (fun r => Function.update r .label (.text label))
    fun r => r .url = .text url

/-- What `MIGRATION_5_6` sets for the user source. -/
def setUserSource (r : DbRow) : DbRow :=
  Function.update (Function.update (Function.update r .url (.text userSourceUrl)) .allowEnabled
    (.integer 1)) .redirectEnabled (.integer 1)

/-- `MIGRATION_5_6`. -/
def migration_5_6 : List DbStatement :=
  [.addColumn .hostsSources ⟨.label, .text, true, .text ""⟩,
    .addColumn .hostsSources ⟨.allowEnabled, .integer, true, .integer 0⟩,
    .addColumn .hostsSources ⟨.redirectEnabled, .integer, true, .integer 0⟩,
    .addColumn .hostsSources ⟨.size, .integer, true, .integer 0⟩,
    .update .hostsSources (fun r => Function.update r .label (r .url)) fun _ => true,
    .update .hostsSources setUserSource fun r => r .url = .text oldUserSourceUrl,
    updateLabel "AdAway official hosts" "https://adaway.org/hosts.txt",
    updateLabel "StevenBlack Unified hosts"
      "https://raw.githubusercontent.com/StevenBlack/hosts/master/hosts",
    updateLabel "Pete Lowe blocklist hosts"
      "https://pgl.yoyo.org/adservers/serverlist.php?hostformat=hosts&showintro=0&mimetype=plaintext",
    .update .hostsSources (fun r => Function.update r .lastModifiedLocal .null) fun _ => true,
    .update .hostsSources
      (fun r => Function.update r .lastModifiedOnline ((r .lastModifiedOnline).div 1000))
      fun _ => true,
    .delete .hostsSources fun r => likeValue (r .url) "file://%"]

/-- `MIGRATION_6_7`. -/
def migration_6_7 : List DbStatement := [.addColumn .hostsSources ⟨.entityTag, .text, false, .null⟩]

/-- The migrations from version 5 on. -/
def migrationsFrom5 : List DbStatement := migration_5_6 ++ migration_6_7

/-- The migrations from version 1 on. -/
def migrationsFrom1 : List DbStatement :=
  migration_1_2 ++ (migration_2_3 ++ (migration_3_4 ++ (migration_4_5 ++ migrationsFrom5)))

/-! ### The databases -/

/-- The columns of `hosts_sources` of version 1. -/
def sourceColumns1 : List (Column DbColumn) :=
  [⟨.url, .text, true, .null⟩, ⟨.enabled, .integer, true, .null⟩,
    ⟨.lastModifiedLocal, .integer, false, .null⟩, ⟨.lastModifiedOnline, .integer, false, .null⟩]

/-- The columns of `hosts_lists` of version 1. -/
def itemColumns1 : List (Column DbColumn) :=
  [⟨.host, .text, true, .null⟩, ⟨.type, .integer, true, .null⟩, ⟨.enabled, .integer, true, .null⟩,
    ⟨.redirection, .text, false, .null⟩]

/-- A database of version 1 with these rows. -/
def version1 (sources items : List DbRow) : DbFile where
  tables :=
    [(.hostsSources, ⟨sourceColumns1, .url, false, sources, 0⟩),
      (.hostsLists, ⟨itemColumns1, .host, false, items, 0⟩)]
  indexes := []
  views := []

/-- A database of version 5 or later, which differ in the columns of `hosts_sources`. -/
def listsDatabase (sourceColumns : List (Column DbColumn)) (sources : List DbRow) (n : ℤ)
    (items : List DbRow) (m : ℤ) (entries : List DbRow) : DbFile where
  tables :=
    [(.hostsSources, ⟨sourceColumns, .id, true, sources, n⟩),
      (.hostsLists, ⟨itemColumns2, .id, true, items, m⟩),
      (.hostEntries, ⟨entryColumns, .host, false, entries, 0⟩)]
  indexes := [sourcesUrlIndex, listsSourceIdIndex, listsHostIndex false, entriesHostIndex]
  views := []

/-- A database of version 5 with these rows, where `n` and `m` are the last keys generated. -/
def version5 (sources : List DbRow) (n : ℤ) (items : List DbRow) (m : ℤ) (entries : List DbRow) :
    DbFile := listsDatabase sourceColumns2 sources n items m entries

/-- The columns of `hosts_sources` that version 6 adds. -/
def sourceColumns6 : List (Column DbColumn) :=
  sourceColumns2 ++ [⟨.label, .text, true, .text ""⟩] ++
    [⟨.allowEnabled, .integer, true, .integer 0⟩] ++
    [⟨.redirectEnabled, .integer, true, .integer 0⟩] ++ [⟨.size, .integer, true, .integer 0⟩]

/-- A database of version 7 with these rows. -/
def version7 (sources : List DbRow) (n : ℤ) (items : List DbRow) (m : ℤ) (entries : List DbRow) :
    DbFile :=
  listsDatabase (sourceColumns6 ++ [⟨.entityTag, .text, false, .null⟩]) sources n items m entries

/-- What holds of an installed database: the user source is there with its settings, the URLs are
unique, and each item is of a source that is there. -/
def Initialized (db : DbFile) : Prop :=
  ∃ sources items, db.table? .hostsSources = some sources ∧ db.table? .hostsLists = some items ∧
    (∃ s ∈ sources.rows, s .id = .integer userSourceId ∧ s .url = .text userSourceUrl ∧
      s .allowEnabled = .integer 1 ∧ s .redirectEnabled = .integer 1) ∧
    (sources.rows.map fun s => s .url).Nodup ∧
    ∀ i ∈ items.rows, ∃ s ∈ sources.rows, s .id = i .sourceId

/-! ### From version 5 to 7 -/

/-- The label of a source with a default label, or its URL. -/
def defaultLabel (url : Value) : Value :=
  if url = .text "https://adaway.org/hosts.txt" then .text "AdAway official hosts"
  else if url = .text "https://raw.githubusercontent.com/StevenBlack/hosts/master/hosts" then
    .text "StevenBlack Unified hosts"
  else if url = .text "https://pgl.yoyo.org/adservers/serverlist.php?hostformat=hosts&showintro=0&mimetype=plaintext"
    then .text "Pete Lowe blocklist hosts"
  else url

section From5

variable (n : ℤ) (items : List DbRow) (m : ℤ) (entries : List DbRow)

/-- `hosts_sources` satisfies its constraints. -/
def ValidSources (columns : List (Column DbColumn)) (sources : List DbRow) : Prop :=
  (⟨columns, .id, true, sources, n⟩ : Table DbColumn).Satisfies [.url]

variable {n items m entries} {columns : List (Column DbColumn)} {sources : List DbRow}

theorem table?_listsDatabase :
    (listsDatabase columns sources n items m entries).table? .hostsSources
      = some ⟨columns, .id, true, sources, n⟩ := rfl

theorem ValidSources.addColumn (h : ValidSources n columns sources) (c : Column DbColumn)
    (hnew : ∀ d ∈ columns, d.name ≠ c.name) (hkey : c.name ∉ [DbColumn.id, DbColumn.url])
    (hdefault : c.accepts c.defaultValue = true) :
    ValidSources n (columns ++ [c])
      (sources.map fun r => Function.update r c.name c.defaultValue) :=
  Sql.Table.Satisfies.addColumn h hnew hkey hdefault

theorem ValidSources.update (h : ValidSources n columns sources) (column : DbColumn)
    (value : DbRow → Value) (p : DbRow → Bool) (hkey : column ∉ [DbColumn.id, DbColumn.url])
    (haccepts : ∀ r ∈ sources, ∀ c ∈ columns, c.name = column → c.accepts (value r) = true) :
    ValidSources n columns
      (sources.map (Sql.updateRow (fun r => Function.update r column (value r)) p)) :=
  Sql.Table.Satisfies.update h hkey haccepts

theorem ValidSources.delete (h : ValidSources n columns sources) (p : DbRow → Bool) :
    ValidSources n columns (sources.filter fun r => !p r) := Sql.Table.Satisfies.delete h p

theorem run_addColumn {c : Column DbColumn}
    (h : ValidSources n (columns ++ [c])
      (sources.map fun r => Function.update r c.name c.defaultValue))
    (hnew : ∀ d ∈ columns, d.name ≠ c.name) (hdefault : c.accepts c.defaultValue = true)
    (script : List DbStatement) :
    Sql.run (listsDatabase columns sources n items m entries) (.addColumn .hostsSources c :: script)
      = Sql.run (listsDatabase (columns ++ [c])
          (sources.map fun r => Function.update r c.name c.defaultValue) n items m entries)
          script :=
  Sql.run_cons_of_some (Sql.exec_addColumn table?_listsDatabase hnew hdefault h) script

theorem run_update {assign : DbRow → DbRow} {p : DbRow → Bool}
    (h : ValidSources n columns (sources.map (Sql.updateRow assign p)))
    (script : List DbStatement) :
    Sql.run (listsDatabase columns sources n items m entries)
        (.update .hostsSources assign p :: script)
      = Sql.run (listsDatabase columns (sources.map (Sql.updateRow assign p)) n items m entries)
          script :=
  Sql.run_cons_of_some (Sql.exec_update table?_listsDatabase h) script

theorem run_delete (p : DbRow → Bool) (script : List DbStatement) :
    Sql.run (listsDatabase columns sources n items m entries) (.delete .hostsSources p :: script)
      = Sql.run (listsDatabase columns (sources.filter fun r => !p r) n items m entries) script :=
  Sql.run_cons_of_some (Sql.exec_delete table?_listsDatabase p) script

/-- The update of the user source keeps the constraints where no other source has its new URL. -/
theorem ValidSources.updateUserSource (h : ValidSources n sourceColumns6 sources)
    (hfree : ∀ r ∈ sources, ∀ r' ∈ sources, r .url = .text oldUserSourceUrl →
      r' .url ≠ .text userSourceUrl) :
    ValidSources n sourceColumns6
      (sources.map (Sql.updateRow setUserSource fun r => r .url = .text oldUserSourceUrl)) := by
  refine ⟨List.forall_mem_map.mpr fun r hr c hc => ?_, ?_⟩
  · rw [Sql.updateRow]
    split
    · have hset : ∀ c ∈ sourceColumns6, c.accepts (r c.name) = true →
          c.accepts (setUserSource r c.name) = true := by
        simp [sourceColumns6, sourceColumns2, setUserSource, Function.update, Column.accepts]
      exact hset c hc (h.1 r hr c hc)
    · exact h.1 r hr c hc
  · show ∀ c ∈ [DbColumn.id, DbColumn.url], _
    rw [List.forall_mem_cons, List.forall_mem_singleton]
    refine ⟨?_, ?_⟩
    · have hid : ∀ r : DbRow, Sql.updateRow setUserSource
          (fun r => r .url = .text oldUserSourceUrl) r .id = r .id := by
        intro r
        rw [Sql.updateRow]
        split <;> rfl
      show ((sources.map _).map fun r : DbRow => r .id).Nodup
      rw [List.map_map]
      have hcomp : (fun r : DbRow => r .id) ∘ Sql.updateRow setUserSource
          (fun r => r .url = .text oldUserSourceUrl) = fun r => r .id := funext hid
      rw [hcomp]
      exact h.2 .id List.mem_cons_self
    · -- the new URL is a function of the old one, which tells the sources apart
      have hurl := h.2 .url (List.mem_cons_of_mem _ List.mem_cons_self)
      show ((sources.map _).map fun r : DbRow => r .url).Nodup
      rw [List.map_map]
      refine List.Nodup.map_on ?_ (List.Nodup.of_map _ hurl)
      intro r hr r' hr' heq
      refine List.inj_on_of_nodup_map hurl hr hr' ?_
      simp only [Function.comp_apply, Sql.updateRow, decide_eq_true_eq] at heq
      split at heq
      next hold =>
        split at heq
        next hold' => rw [hold, hold']
        next => exact absurd heq.symm (hfree r hr r' hr' hold)
      next =>
        split at heq
        next hold' => exact absurd heq (hfree r' hr' r hr hold')
        next => exact heq

/-- What the new columns of version 6 make of a source. -/
def addColumns6 (r : DbRow) : DbRow :=
  Function.update (Function.update (Function.update (Function.update r .label (.text ""))
    .allowEnabled (.integer 0)) .redirectEnabled (.integer 0)) .size (.integer 0)

/-- What the first two updates of version 6 make of a source. -/
def updateUser (r : DbRow) : DbRow :=
  Sql.updateRow setUserSource (fun r => r .url = .text oldUserSourceUrl)
    (Sql.updateRow (fun r => Function.update r .label (r .url)) (fun _ => true) r)

/-- What `updateLabel` makes of a source. -/
def relabel (label url : String) : DbRow → DbRow :=
  Sql.updateRow (fun r => Function.update r .label (.text label)) fun r => r .url = .text url

/-- What the updates of the labels make of a source. -/
def relabelDefaults (r : DbRow) : DbRow :=
  relabel "Pete Lowe blocklist hosts"
    "https://pgl.yoyo.org/adservers/serverlist.php?hostformat=hosts&showintro=0&mimetype=plaintext"
    (relabel "StevenBlack Unified hosts"
      "https://raw.githubusercontent.com/StevenBlack/hosts/master/hosts"
      (relabel "AdAway official hosts" "https://adaway.org/hosts.txt" r))

/-- What the updates of the dates make of a source. -/
def updateDates (r : DbRow) : DbRow :=
  Sql.updateRow
    (fun r => Function.update r .lastModifiedOnline ((r .lastModifiedOnline).div 1000))
    (fun _ => true)
    (Sql.updateRow (fun r => Function.update r .lastModifiedLocal .null) (fun _ => true) r)

/-- A source after version 6, unless it is deleted. -/
def migrateSource (r : DbRow) : DbRow := updateDates (relabelDefaults (updateUser (addColumns6 r)))

/-- The sources after version 7. -/
def migrateSources (sources : List DbRow) : List DbRow :=
  ((sources.map migrateSource).filter fun r => !likeValue (r .url) "file://%").map fun r =>
    Function.update r .entityTag .null

theorem ValidSources.accepts (h : ValidSources n columns sources) {r : DbRow} (hr : r ∈ sources)
    {c : Column DbColumn} (hc : c ∈ columns) : c.accepts (r c.name) = true := h.1 r hr c hc

theorem accepts_text {c : Column DbColumn} (htype : c.type = .text) (s : String) :
    c.accepts (.text s) = true := by
  simp [Column.accepts, htype]

/-- The label is a text that is not null. -/
theorem accepts_label {c : Column DbColumn} (hc : c ∈ sourceColumns6) (hname : c.name = .label)
    (s : String) : c.accepts (.text s) = true := by
  have htype : ∀ c ∈ sourceColumns6, c.name = .label → c.type = .text := by decide
  exact accepts_text (htype c hc hname) s

/-- A source of version 6 has a URL. -/
theorem ValidSources.exists_url (h : ValidSources n sourceColumns6 sources) {r : DbRow}
    (hr : r ∈ sources) : ∃ s, r .url = .text s := by
  have hurl : (⟨.url, .text, true, .null⟩ : Column DbColumn).accepts (r .url) = true :=
    h.accepts hr (c := ⟨.url, .text, true, .null⟩) (by decide)
  cases hvalue : r .url with
  | text s => exact ⟨s, rfl⟩
  | null | integer _ =>
    rw [hvalue] at hurl
    cases hurl

/-- Each source is labelled by its URL. -/
theorem ValidSources.labelByUrl (h : ValidSources n sourceColumns6 sources) :
    ValidSources n sourceColumns6 (sources.map
      (Sql.updateRow (fun r => Function.update r .label (r .url)) (fun _ => true))) := by
  refine h.update .label (fun r => r .url) (fun _ => true) (by decide) ?_
  intro r hr c hc hname
  obtain ⟨s, hs⟩ := h.exists_url hr
  rw [hs]
  exact accepts_label hc hname s

variable (items m entries)

theorem run_addColumns6 (h : ValidSources n sourceColumns2 sources) (script : List DbStatement) :
    Sql.run (listsDatabase sourceColumns2 sources n items m entries)
          (.addColumn .hostsSources ⟨.label, .text, true, .text ""⟩ ::
            .addColumn .hostsSources ⟨.allowEnabled, .integer, true, .integer 0⟩ ::
            .addColumn .hostsSources ⟨.redirectEnabled, .integer, true, .integer 0⟩ ::
            .addColumn .hostsSources ⟨.size, .integer, true, .integer 0⟩ :: script)
        = Sql.run (listsDatabase sourceColumns6 (sources.map addColumns6) n items m entries)
            script ∧
      ValidSources n sourceColumns6 (sources.map addColumns6) := by
  have hlabel := h.addColumn ⟨.label, .text, true, .text ""⟩ (by decide) (by decide) rfl
  have hallow := hlabel.addColumn ⟨.allowEnabled, .integer, true, .integer 0⟩
    (by decide) (by decide) rfl
  have hredirect :=
    hallow.addColumn ⟨.redirectEnabled, .integer, true, .integer 0⟩ (by decide) (by decide) rfl
  have hsize := hredirect.addColumn ⟨.size, .integer, true, .integer 0⟩ (by decide) (by decide) rfl
  rw [run_addColumn hlabel (by decide) rfl, run_addColumn hallow (by decide) rfl,
    run_addColumn hredirect (by decide) rfl, run_addColumn hsize (by decide) rfl]
  simp only [List.map_map] at hsize ⊢
  exact ⟨rfl, hsize⟩

theorem run_updateUser (h : ValidSources n sourceColumns6 sources)
    (hfree : ∀ r ∈ sources, ∀ r' ∈ sources, r .url = .text oldUserSourceUrl →
      r' .url ≠ .text userSourceUrl) (script : List DbStatement) :
    Sql.run (listsDatabase sourceColumns6 sources n items m entries)
          (.update .hostsSources (fun r => Function.update r .label (r .url)) (fun _ => true) ::
            .update .hostsSources setUserSource
              (fun r => r .url = .text oldUserSourceUrl) :: script)
        = Sql.run (listsDatabase sourceColumns6 (sources.map updateUser) n items m entries) script ∧
      ValidSources n sourceColumns6 (sources.map updateUser) := by
  have hlabel := h.labelByUrl
  have huser := hlabel.updateUserSource (by
    simp only [List.forall_mem_map]
    exact hfree)
  rw [run_update hlabel, run_update huser]
  simp only [List.map_map] at huser ⊢
  exact ⟨rfl, huser⟩

theorem run_updateUser_eq_none (h : ValidSources n sourceColumns6 sources) {r r' : DbRow}
    (hr : r ∈ sources) (hr' : r' ∈ sources) (hold : r .url = .text oldUserSourceUrl)
    (hnew : r' .url = .text userSourceUrl) (script : List DbStatement) :
    Sql.run (listsDatabase sourceColumns6 sources n items m entries)
        (.update .hostsSources (fun r => Function.update r .label (r .url)) (fun _ => true) ::
          .update .hostsSources setUserSource (fun r => r .url = .text oldUserSourceUrl) :: script)
      = none := by
  have hlabel := h.labelByUrl
  rw [run_update hlabel]
  refine Sql.run_cons_of_none (Sql.exec_update_eq_none table?_listsDatabase fun hvalid => ?_) script
  -- both sources would have the new URL
  have hurls : (sources.map fun s => updateUser s .url).Nodup := by
    have hurl := hvalid.2 .url (List.mem_cons_of_mem _ List.mem_cons_self)
    change (((sources.map _).map _).map fun s : DbRow => s .url).Nodup at hurl
    rw [List.map_map, List.map_map] at hurl
    exact hurl
  have heq : updateUser r .url = updateUser r' .url := by
    simp [updateUser, Sql.updateRow, setUserSource, Function.update, hold, hnew, oldUserSourceUrl,
      userSourceUrl]
  obtain rfl := List.inj_on_of_nodup_map hurls hr hr' heq
  rw [hold] at hnew
  exact absurd hnew (by decide)

theorem run_updateLabel (h : ValidSources n sourceColumns6 sources) (label url : String)
    (script : List DbStatement) :
    Sql.run (listsDatabase sourceColumns6 sources n items m entries)
        (updateLabel label url :: script)
        = Sql.run (listsDatabase sourceColumns6 (sources.map (relabel label url)) n items m entries)
            script ∧
      ValidSources n sourceColumns6 (sources.map (relabel label url)) := by
  have hvalid := h.update .label (fun _ => .text label) (fun r => r .url = .text url) (by decide)
    fun r _ c hc hname => accepts_label hc hname label
  exact ⟨run_update hvalid script, hvalid⟩

theorem run_relabelDefaults (h : ValidSources n sourceColumns6 sources)
    (script : List DbStatement) :
    Sql.run (listsDatabase sourceColumns6 sources n items m entries)
          (updateLabel "AdAway official hosts" "https://adaway.org/hosts.txt" ::
            updateLabel "StevenBlack Unified hosts"
              "https://raw.githubusercontent.com/StevenBlack/hosts/master/hosts" ::
            updateLabel "Pete Lowe blocklist hosts"
              "https://pgl.yoyo.org/adservers/serverlist.php?hostformat=hosts&showintro=0&mimetype=plaintext" ::
            script)
        = Sql.run (listsDatabase sourceColumns6 (sources.map relabelDefaults) n items m entries)
            script ∧
      ValidSources n sourceColumns6 (sources.map relabelDefaults) := by
  obtain ⟨hfirst, h⟩ := run_updateLabel items m entries h _ _ _
  obtain ⟨hsecond, h⟩ := run_updateLabel items m entries h _ _ _
  obtain ⟨hthird, h⟩ := run_updateLabel items m entries h _ _ script
  rw [hfirst, hsecond, hthird]
  simp only [List.map_map] at h ⊢
  exact ⟨rfl, h⟩

theorem run_updateDates (h : ValidSources n sourceColumns6 sources) (script : List DbStatement) :
    Sql.run (listsDatabase sourceColumns6 sources n items m entries)
          (.update .hostsSources (fun r => Function.update r .lastModifiedLocal .null)
              (fun _ => true) ::
            .update .hostsSources
              (fun r => Function.update r .lastModifiedOnline ((r .lastModifiedOnline).div 1000))
              (fun _ => true) :: script)
        = Sql.run (listsDatabase sourceColumns6 (sources.map updateDates) n items m entries)
            script ∧
      ValidSources n sourceColumns6 (sources.map updateDates) := by
  have hnullable : ∀ c ∈ sourceColumns6, c.name = .lastModifiedLocal → c.notNull = false :=
    by decide
  have hinteger : ∀ c ∈ sourceColumns6, c.name = .lastModifiedOnline →
      c.type = .integer ∧ c.notNull = false := by
    decide
  have hlocal := h.update .lastModifiedLocal (fun _ => .null) (fun _ => true) (by decide) (by
    intro r _ c hc hname
    simp [Column.accepts, hnullable c hc hname])
  have honline := hlocal.update .lastModifiedOnline (fun r => (r .lastModifiedOnline).div 1000)
    (fun _ => true) (by decide) (by
      intro r _ c hc hname
      obtain ⟨htype, hnotNull⟩ := hinteger c hc hname
      cases r .lastModifiedOnline <;> simp [Value.div, Column.accepts, htype, hnotNull])
  rw [run_update hlocal, run_update honline]
  simp only [List.map_map] at honline ⊢
  exact ⟨rfl, honline⟩

/-- **From version 5 to 7**, where no other source than the user source has its new URL. -/
theorem run_migrationsFrom5 (h : ValidSources n sourceColumns2 sources)
    (hfree : ∀ r ∈ sources, ∀ r' ∈ sources, r .url = .text oldUserSourceUrl →
      r' .url ≠ .text userSourceUrl) :
    Sql.run (version5 sources n items m entries) migrationsFrom5
          = some (version7 (migrateSources sources) n items m entries) ∧
      ValidSources n (sourceColumns6 ++ [⟨.entityTag, .text, false, .null⟩])
        (migrateSources sources) := by
  obtain ⟨hcolumns, h⟩ := run_addColumns6 items m entries h _
  obtain ⟨huser, h⟩ := run_updateUser items m entries h (by
    simp only [List.forall_mem_map]
    exact hfree) _
  obtain ⟨hlabels, h⟩ := run_relabelDefaults items m entries h _
  obtain ⟨hdates, h⟩ := run_updateDates items m entries h _
  have htag := (h.delete fun r => likeValue (r .url) "file://%").addColumn
    ⟨.entityTag, .text, false, .null⟩ (by decide) (by decide) rfl
  rw [version5, migrationsFrom5, migration_5_6, migration_6_7]
  simp only [List.cons_append, List.nil_append]
  rw [hcolumns, huser, hlabels, hdates, run_delete, run_addColumn htag (by decide) rfl, Sql.run_nil]
  simp only [List.map_map] at htag ⊢
  exact ⟨rfl, htag⟩

/-- **From version 5 on**, where another source has the new URL of the user source. -/
theorem run_migrationsFrom5_eq_none (h : ValidSources n sourceColumns2 sources) {r r' : DbRow}
    (hr : r ∈ sources) (hr' : r' ∈ sources) (hold : r .url = .text oldUserSourceUrl)
    (hnew : r' .url = .text userSourceUrl) :
    Sql.run (version5 sources n items m entries) migrationsFrom5 = none := by
  obtain ⟨hcolumns, h⟩ := run_addColumns6 items m entries h _
  rw [version5, migrationsFrom5, migration_5_6]
  simp only [List.cons_append]
  rw [hcolumns]
  exact run_updateUser_eq_none items m entries h (List.mem_map_of_mem hr) (List.mem_map_of_mem hr')
    hold hnew _

end From5

end AdAway
