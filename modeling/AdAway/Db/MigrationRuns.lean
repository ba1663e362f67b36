import AdAway.Db.Migrations

/-!
# Runs of the migrations

What the migrations make of a database of version 1, and of one of version 5.

## Main results

* `migrate_version1` — what is kept of a database of version 1
* `migrate_initialized_iff` — when the migrated database is like an installed one
-/

namespace AdAway

open Sql (Value Row Column Table Index)

/-! ### A migrated source -/

theorem relabel_of_ne (label url : String) (r : DbRow) {c : DbColumn} (hc : c ≠ .label) :
    relabel label url r c = r c := by
  rw [relabel, Sql.updateRow]
  split
  · exact Function.update_of_ne hc _ _
  · rfl

theorem relabel_label (label url : String) (r : DbRow) :
    relabel label url r .label = if r .url = .text url then .text label else r .label := by
  simp only [relabel, Sql.updateRow, decide_eq_true_eq]
  split
  · exact Function.update_self _ _ _
  · rfl

theorem relabelDefaults_of_ne (r : DbRow) {c : DbColumn} (hc : c ≠ .label) :
    relabelDefaults r c = r c := by
  rw [relabelDefaults, relabel_of_ne _ _ _ hc, relabel_of_ne _ _ _ hc, relabel_of_ne _ _ _ hc]

theorem relabelDefaults_label {r : DbRow} (h : r .label = r .url) :
    relabelDefaults r .label = defaultLabel (r .url) := by
  simp only [relabelDefaults, relabel_label, relabel_of_ne, ne_eq, reduceCtorEq, not_false_eq_true,
    h, defaultLabel]
  by_cases hadaway : r .url = .text "https://adaway.org/hosts.txt"
  · simp [hadaway]
  · simp only [hadaway, if_false]
    by_cases hsteven :
        r .url = .text "https://raw.githubusercontent.com/StevenBlack/hosts/master/hosts"
    · simp [hsteven]
    · simp only [hsteven, if_false]

theorem updateUser_of_old {r : DbRow} (h : r .url = .text oldUserSourceUrl) :
    updateUser r = setUserSource (Function.update r .label (r .url)) := by
  show (if decide (r .url = .text oldUserSourceUrl) = true then _ else _) = _
  rw [if_pos (decide_eq_true h)]
  rfl

theorem updateUser_of_ne {r : DbRow} (h : r .url ≠ .text oldUserSourceUrl) :
    updateUser r = Function.update r .label (r .url) := by
  show (if decide (r .url = .text oldUserSourceUrl) = true then _ else _) = _
  rw [if_neg fun hold => h (of_decide_eq_true hold)]
  rfl

/-- The user source. -/
theorem migrateSource_of_old {r : DbRow} (h : r .url = .text oldUserSourceUrl) :
    migrateSource r .id = r .id ∧ migrateSource r .url = .text userSourceUrl ∧
      migrateSource r .allowEnabled = .integer 1 ∧
        migrateSource r .redirectEnabled = .integer 1 := by
  have huser := updateUser_of_old (r := addColumns6 r) h
  refine ⟨?_, ?_, ?_, ?_⟩
  all_goals
    show relabelDefaults (updateUser (addColumns6 r)) _ = _
    rw [relabelDefaults_of_ne _ (by decide), huser]
    rfl

/-- Any other source. -/
theorem migrateSource_of_ne {r : DbRow} (h : r .url ≠ .text oldUserSourceUrl) :
    migrateSource r .id = r .id ∧ migrateSource r .url = r .url ∧
      migrateSource r .enabled = r .enabled ∧ migrateSource r .label = defaultLabel (r .url) ∧
      migrateSource r .allowEnabled = .integer 0 ∧ migrateSource r .lastModifiedLocal = .null ∧
      migrateSource r .lastModifiedOnline = (r .lastModifiedOnline).div 1000 := by
  have huser := updateUser_of_ne (r := addColumns6 r) h
  have hkept : ∀ c, c ≠ .label → relabelDefaults (updateUser (addColumns6 r)) c
      = Function.update (addColumns6 r) .label (r .url) c := by
    intro c hc
    rw [relabelDefaults_of_ne _ hc, huser]
    rfl
  refine ⟨hkept .id (by decide), hkept .url (by decide), hkept .enabled (by decide), ?_,
    hkept .allowEnabled (by decide), rfl, ?_⟩
  · show relabelDefaults (updateUser (addColumns6 r)) .label = _
    rw [huser]
    exact relabelDefaults_label rfl
  · exact congrArg (fun v => Value.div v 1000) (hkept .lastModifiedOnline (by decide))

theorem mem_migrateSources {sources : List DbRow} {s : DbRow} :
    s ∈ migrateSources sources ↔ ∃ r ∈ sources,
      likeValue (migrateSource r .url) "file://%" = false ∧
        s = Function.update (migrateSource r) .entityTag .null := by
  simp only [migrateSources, List.mem_map, List.mem_filter, Bool.not_eq_true']
  constructor
  · rintro ⟨_, ⟨⟨r, hr, rfl⟩, hlike⟩, rfl⟩
    exact ⟨r, hr, hlike, rfl⟩
  · rintro ⟨r, hr, hlike, rfl⟩
    exact ⟨_, ⟨⟨r, hr, rfl⟩, hlike⟩, rfl⟩

/-- The identifier is kept. -/
theorem migrateSource_id (r : DbRow) : migrateSource r .id = r .id := by
  by_cases h : r .url = .text oldUserSourceUrl
  · exact (migrateSource_of_old h).1
  · exact (migrateSource_of_ne h).1

/-! ### From version 1 to 5 -/

/-- What `MIGRATION_1_2` inserts for the user source. -/
def userValues : List (DbColumn × Value) :=
  [(.id, .integer userSourceId), (.url, .text userSourceUrl), (.enabled, .integer 1)]

/-- What `MIGRATION_1_2` copies of a source. -/
def sourceValues (r : DbRow) : List (DbColumn × Value) :=
  [(.url, r .url), (.enabled, r .enabled), (.lastModifiedLocal, r .lastModifiedLocal),
    (.lastModifiedOnline, r .lastModifiedOnline)]

/-- What `MIGRATION_1_2` copies of an item. -/
def itemValues (r : DbRow) : List (DbColumn × Value) :=
  [(.host, r .host), (.type, r .type), (.enabled, r .enabled), (.redirection, r .redirection),
    (.sourceId, .integer userSourceId)]

/-- The user source in the new `hosts_sources`. -/
def insertedUser : DbRow :=
  (⟨sourceColumns2, .id, true, [], 0⟩ : Table DbColumn).newRow 1 userValues

/-- A source in the new `hosts_sources`. -/
def copiedSource (n : ℤ) (r : DbRow) : DbRow :=
  (⟨sourceColumns2, .id, true, [], 0⟩ : Table DbColumn).newRow n (sourceValues r)

/-- An item in the new `hosts_lists`. -/
def copiedItem (n : ℤ) (r : DbRow) : DbRow :=
  (⟨itemColumns2, .id, true, [], 0⟩ : Table DbColumn).newRow n (itemValues r)

/-- The rows of the new `hosts_sources`. -/
def copySources (sources : List DbRow) : List DbRow :=
  insertedUser :: Sql.Table.numberFrom copiedSource 2 sources

/-- The rows of the new `hosts_lists`. -/
def copyItems (items : List DbRow) : List DbRow := Sql.Table.numberFrom copiedItem 1 items

theorem map_copySources {α : Type} {proj proj' : DbRow → α}
    (hproj : ∀ n r, proj (copiedSource n r) = proj' r) (sources : List DbRow) :
    (copySources sources).map proj = proj insertedUser :: sources.map proj' := by
  rw [copySources, List.map_cons, Sql.Table.map_numberFrom fun n r _ => hproj n r]

theorem map_copyItems {α : Type} {proj proj' : DbRow → α}
    (hproj : ∀ n r, proj (copiedItem n r) = proj' r) (items : List DbRow) :
    (copyItems items).map proj = items.map proj' :=
  Sql.Table.map_numberFrom (fun n r _ => hproj n r) 1

/-- `hosts_sources` in version 1. -/
def sourcesTable1 (sources : List DbRow) : Table DbColumn :=
  ⟨sourceColumns1, .url, false, sources, 0⟩

/-- `hosts_lists` in version 1. -/
def itemsTable1 (items : List DbRow) : Table DbColumn := ⟨itemColumns1, .host, false, items, 0⟩

/-- `hosts_sources` from version 2 to 5. -/
def sourcesTable2 (sources : List DbRow) (n : ℤ) : Table DbColumn :=
  ⟨sourceColumns2, .id, true, sources, n⟩

/-- `hosts_lists` from version 2 on. -/
def itemsTable2 (items : List DbRow) (n : ℤ) : Table DbColumn := ⟨itemColumns2, .id, true, items, n⟩

section From1

variable {sources items : List DbRow} (h : (version1 sources items).Valid)

include h

theorem satisfies_sources1 : (sourcesTable1 sources).Satisfies [] := h _ List.mem_cons_self

theorem satisfies_items1 : (itemsTable1 items).Satisfies [] :=
  h _ (List.mem_cons_of_mem _ List.mem_cons_self)

/-- The copied sources fit the columns of version 2, and their keys are unique. -/
theorem satisfies_copySources (n : ℤ) : (sourcesTable2 (copySources sources) n).Satisfies [] := by
  refine ⟨fun s hs => ?_, ?_⟩
  · rcases List.mem_cons.mp hs with rfl | hs
    · show ∀ c ∈ sourceColumns2, c.accepts (insertedUser c.name) = true
      decide
    · obtain ⟨k, -, r, hr, rfl⟩ := Sql.Table.mem_numberFrom hs
      have haccepts : ∀ c ∈ sourceColumns1, c.accepts (r c.name) = true :=
        (satisfies_sources1 h).1 r hr
      show ∀ c ∈ sourceColumns2, c.accepts (copiedSource k r c.name) = true
      simp only [sourceColumns1, sourceColumns2, List.forall_mem_cons] at haccepts ⊢
      obtain ⟨hurl, henabled, hlocal, honline, -⟩ := haccepts
      exact ⟨rfl, hurl, henabled, hlocal, honline, List.forall_mem_nil _⟩
  · rw [List.forall_mem_singleton]
    show ((copySources sources).map fun s : DbRow => s .id).Nodup
    rw [copySources, List.map_cons, List.nodup_cons]
    refine ⟨fun hmem => ?_, ?_⟩
    · obtain ⟨s, hs, heq⟩ := List.mem_map.mp hmem
      obtain ⟨k, hk, r, -, rfl⟩ := Sql.Table.mem_numberFrom hs
      have hkey : k = 1 := Value.integer.inj heq
      omega
    · refine Sql.Table.nodup_numberFrom (fun _ _ => Value.integer.inj) ?_ 2
      exact fun _ _ _ => rfl

/-- The copied items fit the columns of version 2, and their keys are unique. -/
theorem satisfies_copyItems (n : ℤ) : (itemsTable2 (copyItems items) n).Satisfies [] := by
  refine ⟨fun i hi => ?_, ?_⟩
  · obtain ⟨k, -, r, hr, rfl⟩ := Sql.Table.mem_numberFrom hi
    have haccepts : ∀ c ∈ itemColumns1, c.accepts (r c.name) = true := (satisfies_items1 h).1 r hr
    show ∀ c ∈ itemColumns2, c.accepts (copiedItem k r c.name) = true
    simp only [itemColumns1, itemColumns2, List.forall_mem_cons] at haccepts ⊢
    obtain ⟨hhost, htype, henabled, hredirection, -⟩ := haccepts
    exact ⟨rfl, hhost, htype, henabled, hredirection, rfl, List.forall_mem_nil _⟩
  · rw [List.forall_mem_singleton]
    refine Sql.Table.nodup_numberFrom (fun _ _ => Value.integer.inj) ?_ 1
    exact fun _ _ _ => rfl

omit h in
/-- The URLs of the copied sources. -/
theorem map_url_copySources :
    (copySources sources).map (fun s : DbRow => s .url)
      = .text userSourceUrl :: sources.map fun s : DbRow => s .url :=
  map_copySources (fun _ _ => rfl) sources

omit h in
theorem map_host_copyItems :
    (copyItems items).map (fun i : DbRow => i .host) = items.map fun i : DbRow => i .host :=
  map_copyItems (fun _ _ => rfl) items

omit h in
theorem insertAll_sourceValues :
    (sourcesTable2 [insertedUser] 1).insertAll (sources.map sourceValues)
      = sourcesTable2 (copySources sources) (1 + sources.length) := by
  rw [Sql.Table.insertAll_eq rfl, Sql.Table.numberFrom_map, List.length_map]
  · rfl
  · intro values hvalues
    obtain ⟨r, -, rfl⟩ := List.mem_map.mp hvalues
    rfl

omit h in
theorem insertAll_itemValues :
    (itemsTable2 [] 0).insertAll (items.map itemValues)
      = itemsTable2 (copyItems items) items.length := by
  have hsequence : (itemsTable2 [] 0).sequence + (items.length : ℤ) = items.length := Int.zero_add _
  rw [Sql.Table.insertAll_eq rfl, Sql.Table.numberFrom_map, List.length_map, hsequence]
  · rfl
  · intro values hvalues
    obtain ⟨r, -, rfl⟩ := List.mem_map.mp hvalues
    rfl

/-- The statements of `MIGRATION_1_2` that copy the sources. -/
theorem run_copySources (script : List DbStatement) :
    Sql.run (version1 sources items)
        (.createTable false .hostsSourcesNew sourceColumns2 .id true ::
          .insert .hostsSourcesNew userValues ::
          .insertSelect .hostsSourcesNew sourceValues .hostsSources ::
          .dropTable .hostsSources :: .renameTable .hostsSourcesNew .hostsSources :: script)
      = Sql.run
          ⟨[(.hostsLists, itemsTable1 items),
            (.hostsSources, sourcesTable2 (copySources sources) (1 + sources.length))], [], []⟩
          script := by
  have huser : ((sourcesTable2 [] 0).insert userValues).Satisfies [] := by decide
  have hcopied :
      ((sourcesTable2 [insertedUser] 1).insertAll (sources.map sourceValues)).Satisfies [] := by
    rw [insertAll_sourceValues]
    exact satisfies_copySources h _
  have hinsert : (Sql.Statement.insert .hostsSourcesNew userValues).exec
      (⟨[(.hostsSources, sourcesTable1 sources), (.hostsLists, itemsTable1 items),
        (.hostsSourcesNew, sourcesTable2 [] 0)], [], []⟩ : DbFile) = _ :=
    Sql.exec_insert (t := sourcesTable2 [] 0) rfl huser
  have htable : (⟨[(.hostsSources, sourcesTable1 sources), (.hostsLists, itemsTable1 items),
      (.hostsSourcesNew, sourcesTable2 [insertedUser] 1)], [], []⟩ : DbFile).table? .hostsSources
        = some (sourcesTable1 sources) := rfl
  have hcreate : (Sql.Statement.createTable false .hostsSourcesNew sourceColumns2 .id true).exec
      (version1 sources items) = some ⟨[(.hostsSources, sourcesTable1 sources),
        (.hostsLists, itemsTable1 items), (.hostsSourcesNew, sourcesTable2 [] 0)], [], []⟩ := rfl
  rw [Sql.run_cons_of_some hcreate, Sql.run_cons_of_some hinsert]
  refine (Sql.run_cons_of_some
    (Sql.exec_insertSelect (t := sourcesTable2 [insertedUser] 1) rfl htable hcopied) _).trans ?_
  show Sql.run ⟨[(.hostsLists, itemsTable1 items), (.hostsSources,
    (sourcesTable2 [insertedUser] 1).insertAll (sources.map sourceValues))], [], []⟩ script = _
  rw [insertAll_sourceValues]

/-- The statements of `MIGRATION_1_2` that copy the items. -/
theorem run_copyItems (newSources : Table DbColumn) (script : List DbStatement) :
    Sql.run ⟨[(.hostsLists, itemsTable1 items), (.hostsSources, newSources)], [], []⟩
        (.createTable false .hostsListsNew itemColumns2 .id true ::
          .insertSelect .hostsListsNew itemValues .hostsLists ::
          .dropTable .hostsLists :: .renameTable .hostsListsNew .hostsLists :: script)
      = Sql.run
          ⟨[(.hostsSources, newSources),
            (.hostsLists, itemsTable2 (copyItems items) items.length)], [], []⟩ script := by
  have hcopied : ((itemsTable2 [] 0).insertAll (items.map itemValues)).Satisfies [] := by
    rw [insertAll_itemValues]
    exact satisfies_copyItems h _
  have htable : (⟨[(.hostsLists, itemsTable1 items), (.hostsSources, newSources),
      (.hostsListsNew, itemsTable2 [] 0)], [], []⟩ : DbFile).table? .hostsLists
        = some (itemsTable1 items) := rfl
  have hcreate : (Sql.Statement.createTable false .hostsListsNew itemColumns2 .id true).exec
      (⟨[(.hostsLists, itemsTable1 items), (.hostsSources, newSources)], [], []⟩ : DbFile)
        = some ⟨[(.hostsLists, itemsTable1 items), (.hostsSources, newSources),
          (.hostsListsNew, itemsTable2 [] 0)], [], []⟩ := rfl
  rw [Sql.run_cons_of_some hcreate]
  refine (Sql.run_cons_of_some
    (Sql.exec_insertSelect (t := itemsTable2 [] 0) rfl htable hcopied) _).trans ?_
  show Sql.run ⟨[(.hostsSources, newSources), (.hostsLists,
    (itemsTable2 [] 0).insertAll (items.map itemValues))], [], []⟩ script = _
  rw [insertAll_itemValues]

/-- The database of version 2 to 4, with these indexes and views. -/
def copiedDatabase (sources items : List DbRow) (indexes : List (Index DbName DbColumn))
    (views : List DbName) : DbFile :=
  ⟨[(.hostsSources, sourcesTable2 (copySources sources) (1 + sources.length)),
    (.hostsLists, itemsTable2 (copyItems items) items.length)], indexes, views⟩

/-- `MIGRATION_1_2` before its indexes are created. -/
theorem run_migration_1_2 (script : List DbStatement) :
    Sql.run (version1 sources items) (migration_1_2 ++ script)
      = Sql.run (copiedDatabase sources items [] []) (.createIndex false sourcesUrlIndex ::
          .createIndex false (listsHostIndex true) :: .createIndex false listsSourceIdIndex ::
          script) := by
  refine (run_copySources h _).trans ?_
  exact run_copyItems h _ _

/-- **From version 1 to 5**, where no source has the URL of the user source. -/
theorem run_migrationsTo5 (hfree : ∀ s ∈ sources, s .url ≠ .text userSourceUrl)
    (script : List DbStatement) :
    Sql.run (version1 sources items)
          (migration_1_2 ++ (migration_2_3 ++ (migration_3_4 ++ (migration_4_5 ++ script))))
        = Sql.run (version5 (copySources sources) (1 + sources.length) (copyItems items)
            items.length []) script ∧
      ValidSources (1 + sources.length) sourceColumns2 (copySources sources) := by
  have hurls : ((copySources sources).map fun s : DbRow => s .url).Nodup := by
    rw [map_url_copySources, List.nodup_cons]
    refine ⟨fun hmem => ?_, (satisfies_sources1 h).2 .url List.mem_cons_self⟩
    obtain ⟨s, hs, heq⟩ := List.mem_map.mp hmem
    exact hfree s hs heq
  have hhosts : ((copyItems items).map fun i : DbRow => i .host).Nodup := by
    rw [map_host_copyItems]
    exact (satisfies_items1 h).2 .host List.mem_cons_self
  have hurlIndex : (Sql.Statement.createIndex false sourcesUrlIndex).exec
      (copiedDatabase sources items [] [])
      = some (copiedDatabase sources items [sourcesUrlIndex] []) :=
    Sql.exec_createIndex (t := sourcesTable2 (copySources sources) (1 + sources.length)) rfl rfl
      fun _ => hurls
  have hhostIndex : (Sql.Statement.createIndex false (listsHostIndex true)).exec
      (copiedDatabase sources items [sourcesUrlIndex] [])
        = some (copiedDatabase sources items [sourcesUrlIndex, listsHostIndex true] []) :=
    Sql.exec_createIndex (t := itemsTable2 (copyItems items) items.length) rfl rfl fun _ => hhosts
  have hsourceIdIndex : (Sql.Statement.createIndex false listsSourceIdIndex).exec
      (copiedDatabase sources items [sourcesUrlIndex, listsHostIndex true] [])
        = some (copiedDatabase sources items
            [sourcesUrlIndex, listsHostIndex true, listsSourceIdIndex] []) :=
    Sql.exec_createIndex (t := itemsTable2 (copyItems items) items.length) rfl rfl nofun
  -- the host index is not unique any more
  have hhostIndex' : (Sql.Statement.createIndex false (listsHostIndex false)).exec
      (copiedDatabase sources items [sourcesUrlIndex, listsSourceIdIndex] [.hostEntries])
        = some (copiedDatabase sources items
            [sourcesUrlIndex, listsSourceIdIndex, listsHostIndex false] [.hostEntries]) :=
    Sql.exec_createIndex (t := itemsTable2 (copyItems items) items.length) rfl rfl nofun
  refine ⟨?_, ?_⟩
  · rw [run_migration_1_2 h, Sql.run_cons_of_some hurlIndex, Sql.run_cons_of_some hhostIndex,
      Sql.run_cons_of_some hsourceIdIndex]
    show Sql.run (copiedDatabase sources items [sourcesUrlIndex, listsSourceIdIndex] [.hostEntries])
      (.createIndex false (listsHostIndex false) ::
        .dropView .hostEntries :: .createView .hostEntries ::
        (migration_4_5 ++ script)) = _
    rw [Sql.run_cons_of_some hhostIndex']
    rfl
  · have hkeys := satisfies_copySources h (1 + sources.length)
    refine ⟨hkeys.1, ?_⟩
    show ∀ c ∈ [DbColumn.id, DbColumn.url], _
    rw [List.forall_mem_cons, List.forall_mem_singleton]
    exact ⟨hkeys.2 .id List.mem_cons_self, hurls⟩

/-- Where a source has the URL of the user source, the index on the URLs cannot be created. -/
theorem run_migration_1_2_eq_none {s : DbRow} (hs : s ∈ sources)
    (hurl : s .url = .text userSourceUrl)
    (script : List DbStatement) :
    Sql.run (version1 sources items) (migration_1_2 ++ script) = none := by
  have hurls : ¬ ((copySources sources).map fun s : DbRow => s .url).Nodup := by
    rw [map_url_copySources, List.nodup_cons]
    exact fun hnodup => hnodup.1 (List.mem_map.mpr ⟨s, hs, hurl⟩)
  rw [run_migration_1_2 h]
  exact Sql.run_cons_of_none (Sql.exec_createIndex_eq_none
    (t := sourcesTable2 (copySources sources) (1 + sources.length)) rfl rfl rfl hurls) _

end From1

/-! ### From version 1 to 7 -/

theorem migrateSources_cons (r : DbRow) (sources : List DbRow) :
    migrateSources (r :: sources)
      = if likeValue (migrateSource r .url) "file://%" = true then migrateSources sources
        else Function.update (migrateSource r) .entityTag .null :: migrateSources sources := by
  rw [migrateSources, List.map_cons, List.filter_cons]
  by_cases hlike : likeValue (migrateSource r .url) "file://%" = true
  · rw [hlike, if_neg (by decide), if_pos rfl, migrateSources]
  · rw [if_neg hlike, if_pos (by simpa using hlike), List.map_cons, migrateSources]

/-- What a version 7 source has of one of version 1. -/
def sourceView (s : DbRow) : Value × Value × Value × Value × Value :=
  (s .url, s .enabled, s .label, s .lastModifiedOnline, s .lastModifiedLocal)

/-- What the migrations make of it. -/
def migratedView (s : DbRow) : Value × Value × Value × Value × Value :=
  (s .url, s .enabled, defaultLabel (s .url), (s .lastModifiedOnline).div 1000, .null)

/-- The sources that are copied and migrated. -/
theorem map_sourceView_migrateSources {sources : List DbRow}
    (hold : ∀ s ∈ sources, s .url ≠ .text oldUserSourceUrl) {n : ℤ} (hn : 2 ≤ n) :
    ((migrateSources (Sql.Table.numberFrom copiedSource n sources)).filter fun s =>
        s .id ≠ .integer userSourceId).map sourceView
      = (sources.filter fun s => !likeValue (s .url) "file://%").map migratedView := by
  induction sources generalizing n with
  | nil => rfl
  | cons s sources ih =>
    rw [List.forall_mem_cons] at hold
    obtain ⟨hid, hurl, henabled, hlabel, -, hlocal, honline⟩ :=
      migrateSource_of_ne (r := copiedSource n s) hold.1
    rw [Sql.Table.numberFrom, migrateSources_cons, hurl, List.filter_cons]
    show (List.filter _ (if likeValue (s .url) "file://%" = true then _ else _)).map sourceView = _
    by_cases hlike : likeValue (s .url) "file://%" = true
    · rw [if_pos hlike, hlike, if_neg (by decide), ih hold.2 (by omega)]
    · have hkept : decide (Function.update (migrateSource (copiedSource n s)) .entityTag .null .id
          ≠ Value.integer userSourceId) = true := by
        rw [Function.update_of_ne (by decide), hid, decide_eq_true_eq]
        intro heq
        have : n = 1 := Value.integer.inj heq
        omega
      have hview : sourceView (Function.update (migrateSource (copiedSource n s)) .entityTag .null)
          = migratedView s := by
        simp only [sourceView, Function.update_of_ne, ne_eq, reduceCtorEq, not_false_eq_true, hurl,
          henabled, hlabel, hlocal, honline]
        rfl
      rw [if_neg hlike, List.filter_cons, if_pos hkept, if_pos (by simpa using hlike),
        List.map_cons, List.map_cons, hview, ih hold.2 (by omega)]

/-- **What is kept of a database of version 1** without a user source: the migrations succeed, the
items are the same and belong to the user source, and the other sources are those whose URL is not
that of a file, with their flag, a label and the date of their last online change in seconds. -/
theorem migrate_version1 {sources items : List DbRow} (h : (version1 sources items).Valid)
    (huser : ∀ s ∈ sources, s .url ≠ .text userSourceUrl ∧ s .url ≠ .text oldUserSourceUrl) :
    ∃ sources' n items' m, Sql.run (version1 sources items) migrationsFrom1
        = some (version7 sources' n items' m []) ∧
      items'.map (fun i => (i .host, i .type, i .enabled, i .redirection))
        = items.map (fun i => (i .host, i .type, i .enabled, i .redirection)) ∧
      (∀ i ∈ items', i .sourceId = .integer userSourceId) ∧
      (sources'.filter fun s => s .id ≠ .integer userSourceId).map sourceView
        = (sources.filter fun s => !likeValue (s .url) "file://%").map migratedView := by
  obtain ⟨hrun5, hvalid⟩ := run_migrationsTo5 h (fun s hs => (huser s hs).1) migrationsFrom5
  have hold : ∀ r ∈ copySources sources, r .url ≠ .text oldUserSourceUrl := by
    intro r hr
    rcases List.mem_cons.mp hr with rfl | hr
    · decide
    · obtain ⟨k, -, s, hs, rfl⟩ := Sql.Table.mem_numberFrom hr
      exact (huser s hs).2
  obtain ⟨hrun7, -⟩ := run_migrationsFrom5 (copyItems items) items.length [] hvalid
    fun r hr _ _ hurl => absurd hurl (hold r hr)
  refine ⟨_, _, _, _, hrun5.trans hrun7, map_copyItems (fun _ _ => rfl) items, fun i hi => ?_, ?_⟩
  · obtain ⟨k, -, r, -, rfl⟩ := Sql.Table.mem_numberFrom hi
    rfl
  · obtain ⟨hid, hurl, -⟩ := migrateSource_of_ne (r := insertedUser) (by decide)
    have hlike : ¬ likeValue (migrateSource insertedUser .url) "file://%" = true := by
      rw [hurl]
      decide
    have hdropped : ¬ decide (Function.update (migrateSource insertedUser) .entityTag .null .id
        ≠ Value.integer userSourceId) = true := by
      rw [Function.update_of_ne (by decide), hid]
      decide
    rw [copySources, migrateSources_cons, if_neg hlike, List.filter_cons, if_neg hdropped]
    exact map_sourceView_migrateSources (fun s hs => (huser s hs).2) (by decide)

/-- A source of version 1 or 5. -/
def storedSource (id : ℤ) (url : String) : DbRow
  | .id => .integer id
  | .url => .text url
  | .enabled => .integer 1
  | .lastModifiedOnline => .integer 1500
  | _ => .null

/-- A blocked item of version 1 or 5. -/
def storedItem (id : ℤ) (host : String) (sourceId : ℤ) : DbRow
  | .id => .integer id
  | .host => .text host
  | .type => .integer 0
  | .enabled => .integer 1
  | .sourceId => .integer sourceId
  | _ => .null

/-- A database of version 1. -/
def storedVersion1 : DbFile :=
  version1 [storedSource 0 "https://adaway.org/hosts.txt", storedSource 0 "file:///sdcard/hosts"]
    [storedItem 0 "ads.example" 0]

theorem valid_storedVersion1 : storedVersion1.Valid := by decide

/-- The second source is dropped. -/
theorem migrate_version1_kept : ∃ sources' n items' m,
    Sql.run storedVersion1 migrationsFrom1 = some (version7 sources' n items' m []) ∧
    (∀ i ∈ items', i .sourceId = .integer userSourceId) ∧
    (sources'.filter fun s => s .id ≠ .integer userSourceId).map sourceView
      = [(.text "https://adaway.org/hosts.txt", .integer 1, .text "AdAway official hosts",
          .integer 1, .null)] := by
  obtain ⟨sources', n, items', m, hrun, -, hitems, hsources⟩ :=
    migrate_version1 valid_storedVersion1 (by decide)
  refine ⟨sources', n, items', m, hrun, hitems, hsources.trans ?_⟩
  decide

/-! ### When the migrated database is like an installed one -/

/-- From version 1, the user source cannot allow or redirect. -/
theorem not_initialized_of_version1 {sources items : List DbRow}
    (h : (version1 sources items).Valid) :
    ¬ ∃ db, Sql.run (version1 sources items) migrationsFrom1 = some db ∧ Initialized db := by
  rintro ⟨db, hrun, hinit⟩
  rw [migrationsFrom1] at hrun
  by_cases hnew : ∃ s ∈ sources, s .url = .text userSourceUrl
  · obtain ⟨s, hs, hurl⟩ := hnew
    rw [run_migration_1_2_eq_none h hs hurl] at hrun
    cases hrun
  · have hfree : ∀ s ∈ sources, s .url ≠ .text userSourceUrl := fun s hs hurl => hnew ⟨s, hs, hurl⟩
    obtain ⟨hrun5, hvalid⟩ := run_migrationsTo5 h hfree migrationsFrom5
    rw [hrun5] at hrun
    have huser : insertedUser ∈ copySources sources := List.mem_cons_self
    by_cases hold : ∃ r ∈ copySources sources, r .url = .text oldUserSourceUrl
    · obtain ⟨r, hr, hurl⟩ := hold
      rw [run_migrationsFrom5_eq_none _ _ _ hvalid hr huser hurl rfl] at hrun
      cases hrun
    · obtain ⟨hrun7, -⟩ := run_migrationsFrom5 (copyItems items) items.length [] hvalid
        fun r hr _ _ hurl => absurd ⟨r, hr, hurl⟩ hold
      rw [hrun7] at hrun
      obtain rfl := Option.some.inj hrun
      obtain ⟨t, t', ht, -, ⟨s, hs, hid, -, hallow, -⟩, -⟩ := hinit
      obtain rfl : _ = t := Option.some.inj ht
      obtain ⟨r, hr, -, rfl⟩ := mem_migrateSources.mp hs
      rw [Function.update_of_ne (by decide), migrateSource_id] at hid
      -- no other source has the identifier
      obtain rfl : r = insertedUser :=
        List.inj_on_of_nodup_map (hvalid.2 .id List.mem_cons_self) hr huser hid
      rw [Function.update_of_ne (by decide),
        (migrateSource_of_ne (r := insertedUser) (by decide)).2.2.2.2.1] at hallow
      exact absurd hallow (by decide)

section FromVersion5

variable {sources : List DbRow} {n : ℤ} {items : List DbRow} {m : ℤ} {entries : List DbRow}

theorem validSources_version5 (h : (version5 sources n items m entries).Valid) :
    ValidSources n sourceColumns2 sources := h _ List.mem_cons_self

/-- From version 5, what an installed database promises holds unless another source has the new URL
of the user source, or an item belongs to another source that is a file. -/
theorem initialized_of_version5_iff (h : (version5 sources n items m entries).Valid)
    (huser : ∃ s ∈ sources, s .id = .integer userSourceId ∧ s .url = .text oldUserSourceUrl)
    (hsource : ∀ i ∈ items, ∃ s ∈ sources, s .id = i .sourceId) :
    (∃ db, Sql.run (version5 sources n items m entries) migrationsFrom5 = some db ∧
      Initialized db) ↔
      (∀ s ∈ sources, s .url ≠ .text userSourceUrl) ∧
        ∀ i ∈ items, ∀ s ∈ sources, s .id = i .sourceId → s .id ≠ .integer userSourceId →
          likeValue (s .url) "file://%" = false := by
  have hvalid := validSources_version5 h
  have hids : (sources.map fun s : DbRow => s .id).Nodup := hvalid.2 .id List.mem_cons_self
  have hurls : (sources.map fun s : DbRow => s .url).Nodup :=
    hvalid.2 .url (List.mem_cons_of_mem _ List.mem_cons_self)
  obtain ⟨user, huserMem, huserId, huserUrl⟩ := huser
  -- only the user source has its identifier and its old URL
  have hother : ∀ s ∈ sources, s .id ≠ .integer userSourceId → s .url ≠ .text oldUserSourceUrl := by
    intro s hs hid hurl
    obtain rfl := List.inj_on_of_nodup_map hurls hs huserMem (hurl.trans huserUrl.symm)
    exact hid huserId
  constructor
  · rintro ⟨db, hrun, hinit⟩
    have hfree : ∀ s ∈ sources, s .url ≠ .text userSourceUrl := by
      intro s hs hurl
      rw [run_migrationsFrom5_eq_none items m entries hvalid huserMem hs huserUrl hurl] at hrun
      cases hrun
    obtain ⟨hrun7, -⟩ := run_migrationsFrom5 items m entries hvalid fun _ _ r hr _ => hfree r hr
    rw [hrun7] at hrun
    obtain rfl := Option.some.inj hrun
    obtain ⟨t, t', ht, ht', -, -, hkept⟩ := hinit
    obtain rfl : _ = t := Option.some.inj ht
    obtain rfl : _ = t' := Option.some.inj ht'
    refine ⟨hfree, fun i hi s hs hid hne => ?_⟩
    obtain ⟨s', hs', hid'⟩ := hkept i hi
    obtain ⟨r, hr, hlike, rfl⟩ := mem_migrateSources.mp hs'
    rw [Function.update_of_ne (by decide), migrateSource_id] at hid'
    obtain rfl := List.inj_on_of_nodup_map hids hr hs (hid'.trans hid.symm)
    rwa [(migrateSource_of_ne (hother r hr hne)).2.1] at hlike
  · rintro ⟨hfree, hkept⟩
    obtain ⟨hrun7, hvalid7⟩ :=
      run_migrationsFrom5 items m entries hvalid fun _ _ r hr _ => hfree r hr
    obtain ⟨hid, hurl, hallow, hredirect⟩ := migrateSource_of_old huserUrl
    have huser7 : Function.update (migrateSource user) .entityTag .null ∈ migrateSources sources :=
      mem_migrateSources.mpr ⟨user, huserMem, by rw [hurl]; decide, rfl⟩
    refine ⟨_, hrun7, _, _, rfl, rfl, ⟨_, huser7, ?_, ?_, ?_, ?_⟩, ?_, fun i hi => ?_⟩
    · rw [Function.update_of_ne (by decide), hid, huserId]
    · rw [Function.update_of_ne (by decide), hurl]
    · rw [Function.update_of_ne (by decide), hallow]
    · rw [Function.update_of_ne (by decide), hredirect]
    · exact hvalid7.2 .url (List.mem_cons_of_mem _ List.mem_cons_self)
    · obtain ⟨s, hs, hsid⟩ := hsource i hi
      refine ⟨Function.update (migrateSource s) .entityTag .null,
        mem_migrateSources.mpr ⟨s, hs, ?_, rfl⟩, ?_⟩
      · by_cases hne : s .id = .integer userSourceId
        · obtain rfl := List.inj_on_of_nodup_map hids hs huserMem (hne.trans huserId.symm)
          rw [hurl]
          decide
        · rw [(migrateSource_of_ne (hother s hs hne)).2.1]
          exact hkept i hi s hs hsid hne
      · rw [Function.update_of_ne (by decide), migrateSource_id, hsid]

end FromVersion5

/-- **When the migrated database is like an installed one**: never from version 1; from version 5
when no other source has the new URL of the user source, and no item belongs to another source that
is a file. -/
theorem migrate_initialized_iff (sources : List DbRow) (n : ℤ) (items : List DbRow) (m : ℤ)
    (entries : List DbRow) :
    ((version1 sources items).Valid →
      ¬ ∃ db, Sql.run (version1 sources items) migrationsFrom1 = some db ∧ Initialized db) ∧
    ((version5 sources n items m entries).Valid →
      (∃ s ∈ sources, s .id = .integer userSourceId ∧ s .url = .text oldUserSourceUrl) →
      (∀ i ∈ items, ∃ s ∈ sources, s .id = i .sourceId) →
      ((∃ db, Sql.run (version5 sources n items m entries) migrationsFrom5 = some db ∧
          Initialized db) ↔
        (∀ s ∈ sources, s .url ≠ .text userSourceUrl) ∧
          ∀ i ∈ items, ∀ s ∈ sources, s .id = i .sourceId → s .id ≠ .integer userSourceId →
            likeValue (s .url) "file://%" = false)) :=
  ⟨not_initialized_of_version1, initialized_of_version5_iff⟩

/-- The sources of an application of version 5, one of them a file. -/
def sources5 : List DbRow :=
  [storedSource 1 oldUserSourceUrl, storedSource 2 "https://adaway.org/hosts.txt",
    storedSource 3 "file:///sdcard/hosts"]

theorem migrate_initialized_iff_sources5 :
    ∃ db, Sql.run
      (version5 sources5 3 [storedItem 1 "ads.example" 1, storedItem 2 "ads.example" 2] 2 [])
      migrationsFrom5 = some db ∧ Initialized db :=
  ((migrate_initialized_iff sources5 3
    [storedItem 1 "ads.example" 1, storedItem 2 "ads.example" 2] 2 []).2 (by decide +kernel)
    (by decide +kernel) (by decide +kernel)).mpr
    ⟨by decide +kernel, by decide +kernel⟩

/-- No database of version 1 is migrated so, and one of version 5 with an item of a file is not. -/
theorem not_migrate_initialized :
    (¬ ∀ sources items, (version1 sources items).Valid →
      ∃ db, Sql.run (version1 sources items) migrationsFrom1 = some db ∧ Initialized db) ∧
    ¬ ∀ sources n items m entries, (version5 sources n items m entries).Valid →
      (∃ s ∈ sources, s .id = .integer userSourceId ∧ s .url = .text oldUserSourceUrl) →
      (∀ i ∈ items, ∃ s ∈ sources, s .id = i .sourceId) →
      ∃ db, Sql.run (version5 sources n items m entries) migrationsFrom5 = some db ∧
        Initialized db := by
  refine ⟨fun h => ?_, fun h => ?_⟩
  · have hempty : (version1 [] []).Valid := by decide
    exact not_initialized_of_version1 hempty (h [] [] hempty)
  · have hvalid :
      (version5 sources5 3 [storedItem 1 "ads.example" 3] 1 []).Valid := by decide +kernel
    have huser :
        ∃ s ∈ sources5, s .id = .integer userSourceId ∧ s .url = .text oldUserSourceUrl := by
      decide +kernel
    have hsource : ∀ i ∈ [storedItem 1 "ads.example" 3], ∃ s ∈ sources5, s .id = i .sourceId := by
      decide +kernel
    obtain ⟨-, hkept⟩ := (initialized_of_version5_iff hvalid huser hsource).mp
      (h _ _ _ _ _ hvalid huser hsource)
    exact absurd hkept (by decide +kernel)

end AdAway
