import AdAway.Source.DownloadFailures
import AdAway.Ui.SourceEdit

/-!
# Disabling a source and enabling it again

`toggleEnabled` sets the flag of a source, and the flag of all its items to the same value. It does
not remember what the flags were, so a second toggle gives back what was there only if no item had a
flag of its own. Only the user's items have one, since only these can be edited: `FlagsFollow` says
so of the tables, and every call keeps it.

A call runs as a whole here. A source that is toggled while it is retrieved gets items that are
enabled.

## Main definitions

* `FlagsFollow` — the items of a source have its flag
* `SourceCall`, `stepCalls` — the calls that write the sources and the lists
* `SameSync` — what `sync` may do with some items it may do with others

## Main results

* `FlagsFollow.exec`, `FlagsFollow.stepApp` — the statements and the screens keep the flags
* `FlagsFollow.run` — the items have the flag of their source in every state of a run
* `toggleLaws_of_run` — what disabling a source, and toggling it twice, leads to
-/

namespace AdAway

/-! ### The flag of a source -/

/-- The flag of a source. -/
def Database.flag (db : Database) (id : ℤ) : Option Bool := (db.source id).map HostsSource.enabled

/-- The items of every external source have the flag of the source. -/
def FlagsFollow (db : Database) : Prop :=
  ∀ i ∈ db.hostsLists.rows, i.sourceId ≠ userSourceId → db.flag i.sourceId = some i.enabled

instance (db : Database) : Decidable (FlagsFollow db) :=
  List.decidableBAll (fun i : HostListItem =>
    i.sourceId ≠ userSourceId → db.flag i.sourceId = some i.enabled) db.hostsLists.rows

section Flags

variable {db db' : Database} {source : HostsSource}

/-- Rows that come from others, with the flags of the sources as they were. -/
theorem FlagsFollow.of_external (h : FlagsFollow db)
    (hrows : ∀ i ∈ db'.hostsLists.rows, i.sourceId ≠ userSourceId →
      i ∈ db.hostsLists.rows ∧ db'.flag i.sourceId = db.flag i.sourceId) : FlagsFollow db' := by
  intro i hi huser
  obtain ⟨hmem, hflag⟩ := hrows i hi huser
  exact hflag.trans (h i hmem huser)

theorem flag_of_hostsSources_eq (h : db'.hostsSources = db.hostsSources) (id : ℤ) :
    db'.flag id = db.flag id := by
  rw [Database.flag, Database.flag, Database.source, Database.source, h]

/-- A new source has a new identifier. -/
theorem flag_insertSource {id : ℤ} {enabled : Bool} (h : db.flag id = some enabled) :
    (insertSource source db).flag id = some enabled := by
  obtain ⟨s, hs, hen⟩ := Option.map_eq_some_iff.mp h
  rw [insertSource]
  split
  next => exact h
  next =>
    have hle := db.hostsSources.key_le s (KeyedTable.find?_eq_some_iff.mp hs).1
    rw [id_of_source hs] at hle
    show ((db.hostsSources.insert _ _).find? id).map HostsSource.enabled = some enabled
    rw [SequencedTable.find?_insert, if_neg (by omega)]
    exact h

theorem FlagsFollow.insertSource (h : FlagsFollow db) : FlagsFollow (insertSource source db) := by
  intro i hi huser
  rw [rows_insertSource] at hi
  exact flag_insertSource (h i hi huser)

/-- The items of a source that is deleted are deleted with it. -/
theorem FlagsFollow.deleteSource (h : FlagsFollow db) (id : ℤ) :
    FlagsFollow (deleteSource id db) := by
  refine h.of_external fun i hi _ => ?_
  obtain ⟨hmem, hne⟩ := mem_rows_deleteSource.mp hi
  refine ⟨hmem, ?_⟩
  show ((db.hostsSources.deleteWhere fun s => s.id = id).find? i.sourceId).map HostsSource.enabled =
    (db.hostsSources.find? i.sourceId).map HostsSource.enabled
  rw [SequencedTable.deleteWhere, KeyedTable.find?_deleteWhere]
  cases hfind : db.hostsSources.find? i.sourceId with
  | none => rfl
  | some s =>
    have hid : s.id = i.sourceId := KeyedTable.key_of_find? hfind
    rw [Option.filter_some, if_pos (by simpa [hid] using hne)]

/-! ### Statements -/

/-- The statement sets no flag, and the items it inserts have the flag of their source. -/
def Statement.KeepsFlags (db : Database) : Statement → Prop
  | .insertItems items => ∀ i ∈ items, db.flag i.sourceId = some i.enabled
  | .setSourceEnabled _ _ | .setSourceItemsEnabled _ _ => False
  | _ => True

theorem flag_exec {st : Statement} (hst : st.KeepsFlags db) (db' : Database) (id : ℤ) :
    (st.exec db').flag id = db'.flag id := by
  have hsame : ∀ s, (st.onSource db' s).enabled = s.enabled := by
    intro s
    cases st with
    | setSourceEnabled | setSourceItemsEnabled => exact hst.elim
    | clearSourceHosts | insertItems => rfl
    | _ =>
      dsimp only [Statement.onSource]
      split <;> rfl
  rw [Database.flag, Database.flag, Statement.source_exec, Option.map_map]
  exact congrArg (fun f => (db'.source id).map f) (funext hsame)

/-- **A statement of a retrieval** keeps the flags. -/
theorem FlagsFollow.exec (h : FlagsFollow db) {st : Statement} (hst : st.KeepsFlags db) :
    FlagsFollow (st.exec db) := by
  intro i hi huser
  rw [flag_exec hst]
  cases st with
  | clearSourceHosts => exact h i (List.mem_of_mem_filter hi) huser
  | insertItems items =>
    obtain ⟨new, hrows, hnew⟩ := SequencedTable.exists_rows_insertAll db.hostsLists
      (fun (i : HostListItem) n => { i with id := n }) (fun _ _ => rfl) items
    have hmem : i ∈ db.hostsLists.rows ++ new := hrows ▸ hi
    rcases List.mem_append.mp hmem with hmem | hmem
    · exact h i hmem huser
    · obtain ⟨j, hj, n, rfl⟩ := hnew i hmem
      exact hst j hj
  | setSourceEnabled | setSourceItemsEnabled => exact hst.elim
  | _ => exact h i hi huser

theorem Statement.KeepsFlags.of_flag {st : Statement} (h : st.KeepsFlags db)
    (hflag : ∀ id, db'.flag id = db.flag id) : st.KeepsFlags db' := by
  cases st with
  | insertItems items => exact fun i hi => (hflag _).trans (h i hi)
  | _ => exact h

theorem FlagsFollow.execAll {sts : List Statement} (h : FlagsFollow db)
    (hsts : ∀ st ∈ sts, st.KeepsFlags db) : FlagsFollow (execAll db sts) := by
  induction sts generalizing db with
  | nil => exact h
  | cons st sts ih =>
    obtain ⟨hst, hrest⟩ := List.forall_mem_cons.mp hsts
    exact ih (h.exec hst) fun st' hst' => (hrest st' hst').of_flag (flag_exec hst db)

/-! ### Toggles -/

theorem flag_toggleEnabled (id : ℤ) :
    (AdAway.execAll db (toggleEnabled source)).flag id =
      if id = source.id then (db.flag id).map fun _ => !source.enabled else db.flag id := by
  rw [Database.flag, Database.flag, toggleEnabled, execAll_cons, execAll_cons, execAll_nil,
    Statement.source_exec, Statement.source_exec]
  cases hs : db.source id with
  | none => simp
  | some s =>
    have hid := id_of_source hs
    by_cases heq : id = source.id <;> simp [Statement.onSource, hid, heq]

theorem rows_toggleEnabled :
    (AdAway.execAll db (toggleEnabled source)).hostsLists.rows =
      db.hostsLists.rows.map fun i =>
        if i.sourceId = source.id then i.withEnabled !source.enabled else i := by
  show db.hostsLists.rows.map _ = _
  exact List.map_congr_left fun i _ => by simp only [decide_eq_true_eq]

/-- **A toggle** keeps the flags: it sets those of the items with that of the source. -/
theorem FlagsFollow.toggleEnabled (h : FlagsFollow db) :
    FlagsFollow (AdAway.execAll db (toggleEnabled source)) := by
  intro i hi huser
  rw [rows_toggleEnabled] at hi
  obtain ⟨j, hj, rfl⟩ := List.mem_map.mp hi
  rw [flag_toggleEnabled]
  by_cases hid : j.sourceId = source.id
  · rw [if_pos hid] at huser ⊢
    have hflag := h j hj huser
    show (if j.sourceId = source.id then (db.flag j.sourceId).map fun _ => !source.enabled
      else db.flag j.sourceId) = some !source.enabled
    rw [if_pos hid, hflag]
    rfl
  · rw [if_neg hid] at huser ⊢
    rw [if_neg hid]
    exact h j hj huser

end Flags

/-! ### Calls -/

/-- The action is of a screen, or of the import of a backup. -/
def AppAction.OfScreens : AppAction → Prop
  | .statement _ | .load _ _ => False
  | _ => True

section Calls

variable {g : Guava} {s t : AppState}

/-- **A screen, or an import,** keeps the flags: what it writes are items of the user, and sources
without items. -/
theorem FlagsFollow.stepApp {a : AppAction} (ha : a.OfScreens) (h : FlagsFollow s.db)
    (hstep : stepApp g s a = some t) : FlagsFollow t.db := by
  have hstore : ∀ (id : Option ℤ) (item : HostListItem), item.sourceId = userSourceId →
      FlagsFollow (storeItem id item s.db) := by
    intro id item hitem
    refine h.of_external fun i hi huser => ?_
    rcases mem_rows_storeItem hi with ⟨hmem, -⟩ | ⟨heq, -⟩
    · exact ⟨hmem, flag_of_hostsSources_eq (hostsSources_storeItem id item s.db) _⟩
    · have hsource : i.sourceId = item.sourceId := by rw [← heq]
      exact absurd (hsource.trans hitem) huser
  have hupdate : ∀ item : HostListItem, item.sourceId = userSourceId →
      FlagsFollow (updateItem item s.db) := fun item hitem => hstore (some item.id) item hitem
  cases stepApp_eq_some_iff.mp hstep with
  | statement | load => exact ha.elim
  | addSource | importSource => exact h.insertSource
  | deleteSource => exact h.deleteSource _
  | toggleItemEnabled heditable => exact hupdate _ heditable.2
  | updateListItem heditable => exact hupdate _ heditable.2
  | addListItem => exact hstore _ _ rfl
  | addLogItem => exact hstore none _ rfl
  | importItem huser => exact hstore _ _ huser
  | removeListItem => exact h.of_external fun i hi _ => ⟨(mem_rows_deleteItem.mp hi).1, rfl⟩
  | removeLogItem =>
    exact h.of_external fun i hi _ => ⟨(mem_rows_deleteUserFromHost.mp hi).1, rfl⟩
  | read | clear | importBlocked | allowHost | redirectHost => exact h

theorem FlagsFollow.importBackup {library : JsonLibrary}
    {getHostId : Database → String → Option ℤ}
    (hid : ∀ db host, IsHostId db host (getHostId db host)) (content : String)
    (h : FlagsFollow s.db) :
    FlagsFollow (importBackup library getHostId content s.db).2 := by
  obtain ⟨as, hrun, has⟩ := @run_importBackup lenientGuava library getHostId hid content s
  refine ActionSystem.invariant_run_of_forall_mem (I := fun s => FlagsFollow s.db)
    (P := AppAction.OfScreens) (fun _ _ _ hs ha hstep => FlagsFollow.stepApp ha hs hstep) h ?_ hrun
  intro a ha
  obtain ⟨write, db, rfl⟩ := has a ha
  cases write <;> trivial

/-- The turn of a source that is up to date keeps the flags. -/
theorem keepsFlags_retrieveTurn {p : Platform} {w : Outside} {loads : Loads g}
    {now : ZonedDateTime} {db : Database} {source : HostsSource}
    (hsource : db.source source.id = some source) :
    ∀ st ∈ (SourceModel.retrieveTurn p w loads now source).log, st.KeepsFlags db := by
  intro st hst
  rcases SourceModel.mem_retrieveTurn hst with rfl | hstamps | ⟨hen, items, rfl, hitems⟩
  · trivial
  · cases st <;> trivial
  · intro i hi
    obtain ⟨hi, hid⟩ := hitems i hi
    rw [Database.flag, hid, hsource, hi, ← hen]
    rfl

/-- **A retrieval** keeps the flags, however it ends. -/
theorem FlagsFollow.retrieveHostsSources {p : Platform} {w : Outside} {loads : Loads g}
    {offline : Bool} {now : ZonedDateTime} {q : ∀ items, SyncAnswers items}
    {sources : List HostsSource} {t : Tables} (hanswer : IsAnswer t.db sources)
    (h : FlagsFollow t.db) :
    FlagsFollow
      (SourceModel.retrieveHostsSources p w loads offline now q sources t).2.db := by
  rw [SourceModel.db_retrieveHostsSources]
  cases offline with
  | true => exact h
  | false =>
    rw [SourceModel.log_retrieve]
    refine h.execAll fun st hst => ?_
    obtain ⟨source, hmem, hst⟩ := Journal.mem_log_forEach hst
    exact keepsFlags_retrieveTurn (SourceModel.source_of_isAnswer hanswer hmem) st hst

end Calls

/-! ### The system -/

/-- The action changes an item of the user, in a list or in the log. -/
def AppAction.ofUserItems : AppAction → Bool
  | .read _ | .toggleItemEnabled _ | .addListItem _ _ _ _ | .updateListItem _ _ _
  | .removeListItem _ | .addLogItem _ _ _ | .removeLogItem _ => true
  | _ => false

/-- The calls that write the sources, the lists or the entries. They do not overlap. -/
inductive SourceCall (g : Guava)
  /-- `SourceEditActivity.saveSource`, for the source the activity was opened for, if it was. -/
  | save (edited : Option ℤ) (state : SourceEditScreenState)
  /-- `SourceEditActivity` deletes a source. -/
  | delete (id : ℤ)
  /-- `HostsSourceDao.toggleEnabled`, by the list of the sources or by `enableAllSources`. -/
  | toggle (source : HostsSource)
  /-- `SourceModel.retrieveHostsSources`, on the answer of `getAll`. -/
  | retrieve (p : Platform) (w : Outside) (loads : Loads g) (offline : Bool) (now : ZonedDateTime)
    (q : ∀ items, SyncAnswers items) (sources : List HostsSource)
  /-- `BackupImporter.importBackup`. -/
  | importBackup (library : JsonLibrary)
    (getHostId : { f : Database → String → Option ℤ // ∀ db host, IsHostId db host (f db host) })
    (content : String)
  /-- A call of a view model for an item of the user. -/
  | userItem (a : AppAction)
  /-- `SourceModel.syncHostEntries`. -/
  | sync (q : ∀ items, SyncAnswers items)

/-- One call. -/
def stepCalls (g : Guava) (s : AppState) : SourceCall g → Option AppState
  | .save edited state =>
    if edited = some userSourceId then none
    else state.validate.2.map fun source => s.withDb (saveSource edited source s.db)
  | .delete id => if id = userSourceId then none else some (s.withDb (deleteSource id s.db))
  | .toggle source =>
    if source.id = userSourceId then none
    else some (s.withDb (execAll s.db (toggleEnabled source)))
  | .retrieve p w loads offline now q sources =>
    if IsAnswer s.db sources then
      let t := (SourceModel.retrieveHostsSources p w loads offline now q sources s.toTables).2
      some { s with db := t.db, hostEntries := t.hostEntries }
    else none
  | .importBackup library getHostId content =>
    some (s.withDb (importBackup library getHostId.1 content s.db).2)
  | .userItem a => if a.ofUserItems then stepApp g s a else none
  | .sync q => some (s.withEntries (SourceModel.syncHostEntries q s.toTables).2.hostEntries)

section Runs

variable {g : Guava} {s t : AppState}

/-- **A call** keeps the flags. -/
theorem FlagsFollow.step {c : SourceCall g} (h : FlagsFollow s.db)
    (hstep : stepCalls g s c = some t) : FlagsFollow t.db := by
  cases c with
  | save edited state =>
    obtain ⟨-, hstep⟩ := Option.ite_none_left_eq_some.mp hstep
    obtain ⟨source, -, rfl⟩ := Option.map_eq_some_iff.mp hstep
    cases edited with
    | none => exact h.insertSource
    | some id => exact (h.deleteSource id).insertSource
  | delete id =>
    obtain ⟨-, rfl⟩ := by simpa [stepCalls] using hstep
    exact h.deleteSource id
  | toggle source =>
    obtain ⟨-, rfl⟩ := by simpa [stepCalls] using hstep
    exact h.toggleEnabled
  | retrieve =>
    obtain ⟨hanswer, hstep⟩ := Option.ite_none_right_eq_some.mp hstep
    obtain rfl := Option.some.inj hstep
    exact h.retrieveHostsSources hanswer
  | importBackup library getHostId content =>
    obtain rfl := Option.some.inj hstep
    exact h.importBackup getHostId.2 content
  | userItem a =>
    obtain ⟨ha, hstep⟩ := Option.ite_none_right_eq_some.mp hstep
    refine FlagsFollow.stepApp ?_ h hstep
    cases a <;> trivial
  | sync q =>
    obtain rfl := Option.some.inj hstep
    exact h

/-- **The items have the flag of their source** in every state of a run. -/
theorem FlagsFollow.run {labels : SourceLabels} {cs : List (SourceCall g)}
    (h : ActionSystem.run (stepCalls g) (installedApp labels) cs = some s) : FlagsFollow s.db :=
  ActionSystem.invariant_run (I := fun s => FlagsFollow s.db) (fun _ _ _ hs hstep => hs.step hstep)
    (fun i hi => by simp at hi) h

end Runs

/-! ### What a toggle leads to -/

/-- Whatever `sync` makes of the items, it makes of the other items by the same answers of its
queries. -/
def SyncsAs (items items' : List HostListItem) : Prop :=
  ∀ q : SyncAnswers items, ∃ q' : SyncAnswers items', q'.allowed = q.allowed ∧
    q'.redirected = q.redirected ∧ ∀ t, sync items' q' t = sync items q t

/-- What `sync` makes of some items and of some others is the same. -/
def SameSync (items items' : List HostListItem) : Prop :=
  SyncsAs items items' ∧ SyncsAs items' items

/-- The statements that disable a source. -/
def disable (source : HostsSource) : List Statement :=
  if source.enabled then toggleEnabled source else []

/-- The statements of two toggles of a source. The first sets the flag of the entity. -/
def toggleTwice (source : HostsSource) : List Statement :=
  toggleEnabled source ++ toggleEnabled { source with enabled := !source.enabled }

/-- What toggling a source owes. -/
structure ToggleLaws (db : Database) (source : HostsSource) : Prop where
  /-- A disabled source counts for `sync` as if it had no items. -/
  disabled : SameSync (execAll db (disable source)).hostsLists.rows
    (execAll db [.clearSourceHosts source.id]).hostsLists.rows
  /-- A second toggle gives back the tables. -/
  toggled : execAll db (toggleTwice source) = db
  /-- It gives back the entries that `sync` has made of them. -/
  synced : ∀ (q : ∀ items, SyncAnswers items) (hostEntries hostEntries' : HostEntries),
    sync (execAll db (toggleTwice source)).hostsLists.rows (q _) hostEntries' =
      sync db.hostsLists.rows (q _) hostEntries

section Laws

variable {db : Database} {source : HostsSource} {items items' : List HostListItem}

/-- `sync` reads the enabled items only. -/
theorem SyncsAs.of_filter_enabled
    (h : items.filter HostListItem.enabled = items'.filter HostListItem.enabled) :
    SyncsAs items items' := by
  have hfilter : ∀ type : ListType, (items.filter fun i => i.type = type ∧ i.enabled) =
      items'.filter fun i => i.type = type ∧ i.enabled := by
    intro type
    have hsplit : ∀ l : List HostListItem, (l.filter fun i => i.type = type ∧ i.enabled) =
        (l.filter HostListItem.enabled).filter fun i => i.type = type := by
      intro l
      rw [List.filter_filter]
      exact List.filter_congr fun i _ => by simp [Bool.and_comm]
    rw [hsplit, hsplit, h]
  have hallowed : enabledAllowedHosts items = enabledAllowedHosts items' :=
    congrArg (List.map HostListItem.host) (hfilter .allowed)
  have hredirected : enabledRedirectedHosts items = enabledRedirectedHosts items' :=
    hfilter .redirected
  have hblocked : blockedRows items = blockedRows items' := by
    rw [blockedRows, blockedRows, hfilter]
  intro q
  refine ⟨⟨q.allowed, hallowed ▸ q.allowed_perm, q.redirected, hredirected ▸ q.redirected_perm,
    q.redirected_sorted⟩, rfl, rfl, fun t => ?_⟩
  rw [sync, sync, importBlocked, importBlocked, hblocked]

theorem SameSync.of_filter_enabled
    (h : items.filter HostListItem.enabled = items'.filter HostListItem.enabled) :
    SameSync items items' := ⟨.of_filter_enabled h, .of_filter_enabled h.symm⟩

theorem enabled_eq_of_flagsFollow (h : FlagsFollow db) (hsource : db.source source.id = some source)
    (hexternal : source.id ≠ userSourceId) {i : HostListItem} (hi : i ∈ db.hostsLists.rows)
    (hid : i.sourceId = source.id) : i.enabled = source.enabled := by
  have hflag := h i hi (by rwa [hid])
  rw [Database.flag, hid, hsource] at hflag
  exact (Option.some.inj hflag).symm

/-- The enabled items are those of the other sources, once the source is disabled. -/
theorem filter_enabled_disable (h : FlagsFollow db)
    (hsource : db.source source.id = some source) (hexternal : source.id ≠ userSourceId) :
    (execAll db (disable source)).hostsLists.rows.filter HostListItem.enabled =
      (execAll db [.clearSourceHosts source.id]).hostsLists.rows.filter HostListItem.enabled := by
  have hclear : (execAll db [.clearSourceHosts source.id]).hostsLists.rows =
      db.hostsLists.rows.filter fun i => !decide (i.sourceId = source.id) := rfl
  rw [hclear, List.filter_filter, disable]
  cases hen : source.enabled with
  | false =>
    rw [if_neg Bool.false_ne_true, execAll_nil]
    refine List.filter_congr fun i hi => ?_
    by_cases hid : i.sourceId = source.id
    · simp [enabled_eq_of_flagsFollow h hsource hexternal hi hid, hen]
    · simp [hid]
  | true =>
    rw [if_pos rfl, rows_toggleEnabled, List.filter_map]
    have hkept : ∀ i ∈ db.hostsLists.rows, (HostListItem.enabled ∘ fun i : HostListItem =>
        if i.sourceId = source.id then i.withEnabled !source.enabled else i) i =
          (i.enabled && !decide (i.sourceId = source.id)) := by
      intro i _
      by_cases hid : i.sourceId = source.id <;> simp [hid, hen, HostListItem.withEnabled]
    have hid : ∀ i ∈ db.hostsLists.rows.filter fun i =>
        i.enabled && !decide (i.sourceId = source.id),
        (if i.sourceId = source.id then i.withEnabled !source.enabled else i) = i := by
      intro i hi
      have hne : i.sourceId ≠ source.id := by
        simpa using (Bool.and_eq_true_iff.mp (List.mem_filter.mp hi).2).2
      exact if_neg hne
    rw [List.filter_congr hkept, List.map_congr_left hid, List.map_id']

theorem hostsSources_toggleEnabled :
    (execAll db (toggleEnabled source)).hostsSources.rows =
      db.hostsSources.rows.map fun s =>
        if s.id = source.id then { s with enabled := !source.enabled } else s := by
  show (db.hostsSources.rows.map _).map _ = _
  rw [List.map_map]
  rfl

/-- **Two toggles** give back the tables: the flags of the items were that of the source. -/
theorem execAll_toggleTwice (h : FlagsFollow db) (hsource : db.source source.id = some source)
    (hexternal : source.id ≠ userSourceId) : execAll db (toggleTwice source) = db := by
  have hsources : (execAll db (toggleTwice source)).hostsSources.rows = db.hostsSources.rows := by
    rw [toggleTwice, execAll_append, hostsSources_toggleEnabled, hostsSources_toggleEnabled,
      List.map_map]
    refine (List.map_congr_left fun s hs => ?_).trans (List.map_id' _)
    by_cases hid : s.id = source.id
    · have heq : db.source s.id = some s := KeyedTable.mem_rows_iff.mp hs
      rw [hid, hsource] at heq
      obtain rfl := Option.some.inj heq
      simp
    · simp [hid]
  have hlists : (execAll db (toggleTwice source)).hostsLists.rows = db.hostsLists.rows := by
    rw [toggleTwice, execAll_append, rows_toggleEnabled, rows_toggleEnabled, List.map_map]
    refine (List.map_congr_left fun i hi => ?_).trans (List.map_id' _)
    by_cases hid : i.sourceId = source.id
    · have hflag := enabled_eq_of_flagsFollow h hsource hexternal hi hid
      simp only [Function.comp_apply, hid, if_true, HostListItem.withEnabled, Bool.not_not, ← hflag]
      rw [← hid]
    · simp [hid]
  have htables : ∀ db' : Database, db'.hostsSources = db.hostsSources →
      db'.hostsLists = db.hostsLists → db' = db := by
    rintro ⟨hostsSources, hostsLists⟩ rfl rfl
    rfl
  exact htables _ (SequencedTable.ext_rows hsources rfl) (SequencedTable.ext_rows hlists rfl)

/-- **Toggling a source** keeps its laws in every state that the calls lead to. -/
theorem toggleLaws_of_run {g : Guava} {labels : SourceLabels} {cs : List (SourceCall g)}
    {s : AppState} (h : ActionSystem.run (stepCalls g) (installedApp labels) cs = some s)
    (hsource : s.db.source source.id = some source) (hexternal : source.id ≠ userSourceId) :
    ToggleLaws s.db source := by
  have hflags := FlagsFollow.run h
  have htwice := execAll_toggleTwice hflags hsource hexternal
  constructor
  · exact .of_filter_enabled (filter_enabled_disable hflags hsource hexternal)
  · exact htwice
  · intro q hostEntries hostEntries'
    rw [htwice]
    rfl

end Laws

/-- The page of every source holds one host. -/
def oneHostPage : Outside :=
  SourceModel.answering (some ⟨200, none, none, ⟨["0.0.0.0 ads.example.org"], false, false⟩⟩)

/-- The sources of the installation are retrieved. -/
def retrieveInstalled : SourceCall lenientGuava :=
  .retrieve SourceModel.acceptingPlatform oneHostPage oneBatch false ⟨0⟩ SourceModel.someAnswers
    (getAll (installedApp englishLabels).db)

/-- The application with the sources of the installation retrieved. -/
def retrievedApp : AppState :=
  let t := (SourceModel.retrieveHostsSources SourceModel.acceptingPlatform oneHostPage oneBatch
    false ⟨0⟩ SourceModel.someAnswers (getAll (installedApp englishLabels).db)
    (installedApp englishLabels).toTables).2
  { installedApp englishLabels with db := t.db, hostEntries := t.hostEntries }

/-- The first source of the installation, retrieved. -/
def retrievedSource : HostsSource :=
  { adAwaySource with
    localModificationDate := some ⟨0⟩
    onlineModificationDate := some ⟨0⟩
    size := 1 }

/-- The first source is toggled after all have been retrieved. -/
theorem toggleLaws_of_run_retrieved : ToggleLaws retrievedApp.db retrievedSource := by
  have hstep : stepCalls lenientGuava (installedApp englishLabels) retrieveInstalled =
      some retrievedApp := by
    rw [retrieveInstalled, stepCalls]
    exact if_pos (isAnswer_getAll _)
  have hsource : retrievedApp.db.source 2 = some retrievedSource := by decide +kernel
  have hrun : ActionSystem.run (stepCalls lenientGuava) (installedApp englishLabels)
      [retrieveInstalled] = some retrievedApp :=
    ActionSystem.run_cons_eq_some.mpr ⟨retrievedApp, hstep, rfl⟩
  exact toggleLaws_of_run hrun hsource (by decide)

end AdAway
