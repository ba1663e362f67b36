import AdAway.Backup.BackupImporter
import AdAway.Library.ActionSystem
import AdAway.Source.Download

/-!
# The writers of the lists

`hosts_lists` has many writers: the loader of the sources, the two list screens, the log screen, the
source editor and the import of a backup. Each of them checks something else, or nothing. This
module lets them take turns: a step is one statement, or one call of a view model, which runs as a
whole on the thread of the database.

A screen edits the item it has been shown, and writes all of it back. What it has been shown may be
out of date by then, so the state keeps in `read` every version of an item that a query has returned
or a screen has made.

A view model stores what it is told to. What the screens tell it is `FromScreens`: the texts of a
dialog, once they are valid, trimmed.

## Main definitions

* `HostListDialog.confirm`, `SourceEdit.validate` — what the dialogs accept
* `AppState`, `AppAction`, `stepApp` — the system
* `AppStep` — what a step can do
* `FromScreens` — the calls the screens make
* `initializedDatabase` — what a run starts from
* `AllItems`, `AllSources` — a property of every item, and of every external source

## Main results

* `stepApp_eq_some_iff` — `stepApp` and `AppStep` agree
* `AllItems.run`, `AllSources.run` — such a property holds as long as what is written has it
* `isValidUrl_of_run`, `DistinctUrls.run` — the URLs of the sources
* `run_importBackup` — the import of a backup is a run
-/

namespace AdAway

/-! ### Dialogs -/

/-- `Char.isWhitespace` of Kotlin. -/
def isWhitespace (c : Char) : Bool :=
  ('\t' ≤ c && c ≤ '\x0d') || ('\x1c' ≤ c && c ≤ ' ') || c = '\u00a0' || c = '\u1680' ||
    ('\u2000' ≤ c && c ≤ '\u200a') || c = '\u2028' || c = '\u2029' || c = '\u202f' ||
    c = '\u205f' || c = '\u3000'

/-- `String.trim` of Kotlin. -/
def trimWhitespace (s : String) : String :=
  String.ofList (((s.toList.dropWhile isWhitespace).reverse.dropWhile isWhitespace).reverse)

namespace HostListDialog

/-- `isHostValid` of the dialog. -/
def isHostValid (g : Guava) (type : ListType) (host : String) : Bool :=
  match type with
  | .blocked => isValidHostname g host
  | .allowed => isValidWildcardHostname g host
  | .redirected => isValidHostname g host

/-- What the dialog passes on for these texts, if its button is enabled. -/
def confirm (g : Guava) (type : ListType) (host redirection : String) :
    Option (String × Option String) :=
  let requiresRedirection := type = .redirected
  let hostValid := isHostValid g type host
  let redirectionValid := !requiresRedirection || isValidIP g redirection
  if hostValid && redirectionValid then
    let normalizedRedirection := if requiresRedirection then some (trimWhitespace redirection) else none
    some (trimWhitespace host, normalizedRedirection.filter (· ≠ ""))
  else none

end HostListDialog

/-- `SourceEditActivity.validate`. -/
def validateSource (label url : String) (allowFormat redirectedHosts : Bool) : Option HostsSource :=
  let label := trimWhitespace label
  let url := trimWhitespace url
  if label ≠ "" ∧ isValidUrl url then
    some (newSource label url true allowFormat (!allowFormat && redirectedHosts))
  else none

/-! ### The system -/

/-- The tables, and the items that have been read. -/
structure AppState extends Tables where
  read : List HostListItem

/-- What may happen next. -/
inductive AppAction
  /-- A statement of a check, a retrieval or a toggle of the sources that inserts nothing. -/
  | statement (st : Statement)
  /-- `SourceLoader` inserts a batch, parsed from these lines. -/
  | load (source : HostsSource) (lines : List String)
  /-- `SourceEditActivity.saveSource` inserts a source. -/
  | addSource (label url : String) (allowFormat redirectedHosts : Bool)
  /-- `SourceEditActivity` deletes a source. -/
  | deleteSource (id : ℤ)
  /-- A query returns an item. -/
  | read (item : HostListItem)
  /-- `ListsViewModel.toggleItemEnabled`. -/
  | toggleItemEnabled (item : HostListItem)
  /-- `ListsViewModel.addListItem`, with the answer of `getHostId`. -/
  | addListItem (type : ListType) (host : String) (redirection : Option String) (id : Option ℤ)
  /-- `ListsViewModel.updateListItem`. -/
  | updateListItem (item : HostListItem) (host : String) (redirection : Option String)
  /-- `ListsViewModel.removeListItem`. -/
  | removeListItem (item : HostListItem)
  /-- `LogViewModel.addListItem`. -/
  | addLogItem (host : String) (type : ListType) (redirection : Option String)
  /-- `LogViewModel.removeListItem`. -/
  | removeLogItem (host : String)
  /-- `BackupImporter` inserts a source. -/
  | importSource (source : HostsSource)
  /-- `BackupImporter` stores an item, with the answer of `getHostId`. -/
  | importItem (item : HostListItem) (id : Option ℤ)
  /-- `HostEntryDao.clear`. -/
  | clear
  /-- `HostEntryDao.importBlocked`. -/
  | importBlocked
  /-- `HostEntryDao.allowHost`. -/
  | allowHost (hostPattern : String)
  /-- `HostEntryDao.redirectHost`. -/
  | redirectHost (item : HostListItem)

/-- The new item of a view model. -/
def newItem (type : ListType) (host : String) (redirection : Option String) : HostListItem :=
  ⟨0, host, type, true, redirection, userSourceId⟩

/-- The item with the texts of the dialog. -/
def HostListItem.edited (item : HostListItem) (host : String) (redirection : Option String) :
    HostListItem := { item with host := host, redirection := redirection }

/-- The state with another database. -/
def AppState.withDb (s : AppState) (db : Database) : AppState := { s with db := db }

/-- The state with other entries. -/
def AppState.withEntries (s : AppState) (hostEntries : HostEntries) : AppState :=
  { s with hostEntries := hostEntries }

/-- A screen writes back an item it has been shown. -/
def AppState.writeBack (s : AppState) (item : HostListItem) : AppState :=
  { s with db := updateItem item s.db, read := item :: s.read }

/-- The list screens let the user change this item. -/
def AppState.Editable (s : AppState) (item : HostListItem) : Prop :=
  item ∈ s.read ∧ item.sourceId = userSourceId

instance (s : AppState) (item : HostListItem) : Decidable (s.Editable item) := by
  unfold AppState.Editable; infer_instance

/-- The statement inserts items. -/
def Statement.Inserts : Statement → Prop
  | .insertItems _ => True
  | _ => False

instance (st : Statement) : Decidable st.Inserts := by
  cases st <;> unfold Statement.Inserts <;> infer_instance

/-- One step. -/
def stepApp (g : Guava) (s : AppState) : AppAction → Option AppState
  | .statement st => if st.Inserts then none else some (s.withDb (st.exec s.db))
  | .load source lines =>
    if source.id = userSourceId then none
    else some (s.withDb (Statement.exec s.db (.insertItems (lines.filterMap (parseLine g source)))))
  | .addSource label url allowFormat redirectedHosts =>
    (validateSource label url allowFormat redirectedHosts).map fun source =>
      s.withDb (insertSource source s.db)
  | .deleteSource id =>
    if id = userSourceId then none else some (s.withDb (AdAway.deleteSource id s.db))
  | .read item =>
    if item ∈ s.db.hostsLists.rows then some { s with read := item :: s.read } else none
  | .toggleItemEnabled item =>
    if s.Editable item then some (s.writeBack (item.withEnabled !item.enabled)) else none
  | .addListItem type host redirection id =>
    if IsHostId s.db host id then some (s.withDb (storeItem id (newItem type host redirection) s.db))
    else none
  | .updateListItem item host redirection =>
    if s.Editable item then some (s.writeBack (item.edited host redirection)) else none
  | .removeListItem item =>
    if s.Editable item then some (s.withDb (deleteItem item s.db)) else none
  | .addLogItem host type redirection =>
    some (s.withDb (insertItem (newItem type host redirection) s.db))
  | .removeLogItem host => some (s.withDb (deleteUserFromHost host s.db))
  | .importSource source =>
    if isValidUrl source.url then some (s.withDb (insertSource source s.db)) else none
  | .importItem item id =>
    if item.sourceId = userSourceId ∧ IsHostId s.db item.host id then
      some (s.withDb (storeItem id item s.db))
    else none
  | .clear => some (s.withEntries (AdAway.clear s.hostEntries))
  | .importBlocked =>
    (AdAway.importBlocked s.db.hostsLists.rows s.hostEntries).map s.withEntries
  | .allowHost hostPattern => (AdAway.allowHost hostPattern s.hostEntries).map s.withEntries
  | .redirectHost item =>
    if item ∈ s.read ∧ item.type = .redirected then
      some (s.withEntries (AdAway.redirectHost (redirectEntry item) s.hostEntries))
    else none

/-- `stepApp` case by case: what each action requires, and the state it leads to. -/
inductive AppStep (g : Guava) (s : AppState) : AppAction → AppState → Prop
  | statement {st : Statement} (hinserts : ¬ st.Inserts) :
    AppStep g s (.statement st) (s.withDb (st.exec s.db))
  | load {source : HostsSource} {lines : List String} (huser : source.id ≠ userSourceId) :
    AppStep g s (.load source lines)
      (s.withDb (Statement.exec s.db (.insertItems (lines.filterMap (parseLine g source)))))
  | addSource {label url : String} {allowFormat redirectedHosts : Bool} {source : HostsSource}
    (hsource : validateSource label url allowFormat redirectedHosts = some source) :
    AppStep g s (.addSource label url allowFormat redirectedHosts) (s.withDb (insertSource source s.db))
  | deleteSource {id : ℤ} (huser : id ≠ userSourceId) :
    AppStep g s (.deleteSource id) (s.withDb (AdAway.deleteSource id s.db))
  | read {item : HostListItem} (hmem : item ∈ s.db.hostsLists.rows) :
    AppStep g s (.read item) { s with read := item :: s.read }
  | toggleItemEnabled {item : HostListItem} (heditable : s.Editable item) :
    AppStep g s (.toggleItemEnabled item) (s.writeBack (item.withEnabled !item.enabled))
  | addListItem {type : ListType} {host : String} {redirection : Option String} {id : Option ℤ}
    (hid : IsHostId s.db host id) :
    AppStep g s (.addListItem type host redirection id)
      (s.withDb (storeItem id (newItem type host redirection) s.db))
  | updateListItem {item : HostListItem} {host : String} {redirection : Option String}
    (heditable : s.Editable item) :
    AppStep g s (.updateListItem item host redirection) (s.writeBack (item.edited host redirection))
  | removeListItem {item : HostListItem} (heditable : s.Editable item) :
    AppStep g s (.removeListItem item) (s.withDb (deleteItem item s.db))
  | addLogItem {host : String} {type : ListType} {redirection : Option String} :
    AppStep g s (.addLogItem host type redirection)
      (s.withDb (insertItem (newItem type host redirection) s.db))
  | removeLogItem {host : String} :
    AppStep g s (.removeLogItem host) (s.withDb (deleteUserFromHost host s.db))
  | importSource {source : HostsSource} (hvalid : isValidUrl source.url = true) :
    AppStep g s (.importSource source) (s.withDb (insertSource source s.db))
  | importItem {item : HostListItem} {id : Option ℤ} (huser : item.sourceId = userSourceId)
    (hid : IsHostId s.db item.host id) :
    AppStep g s (.importItem item id) (s.withDb (storeItem id item s.db))
  | clear : AppStep g s .clear (s.withEntries (AdAway.clear s.hostEntries))
  | importBlocked {hostEntries : HostEntries}
    (himport : AdAway.importBlocked s.db.hostsLists.rows s.hostEntries = some hostEntries) :
    AppStep g s .importBlocked (s.withEntries hostEntries)
  | allowHost {hostPattern : String} {hostEntries : HostEntries}
    (hallow : AdAway.allowHost hostPattern s.hostEntries = some hostEntries) :
    AppStep g s (.allowHost hostPattern) (s.withEntries hostEntries)
  | redirectHost {item : HostListItem} (hread : item ∈ s.read) (htype : item.type = .redirected) :
    AppStep g s (.redirectHost item)
      (s.withEntries (AdAway.redirectHost (redirectEntry item) s.hostEntries))

/-- **What a step can do.** Every fact about the steps below goes through this. -/
theorem stepApp_eq_some_iff {g : Guava} {s t : AppState} {a : AppAction} :
    stepApp g s a = some t ↔ AppStep g s a t := by
  constructor
  · intro h
    cases a with
    | statement st =>
      obtain ⟨hinserts, rfl⟩ := by simpa [stepApp] using h
      exact .statement hinserts
    | load source lines =>
      obtain ⟨huser, rfl⟩ := by simpa [stepApp] using h
      exact .load huser
    | addSource label url allowFormat redirectedHosts =>
      obtain ⟨source, hsource, rfl⟩ := Option.map_eq_some_iff.mp h
      exact .addSource hsource
    | deleteSource id =>
      obtain ⟨huser, rfl⟩ := by simpa [stepApp] using h
      exact .deleteSource huser
    | read item =>
      obtain ⟨hmem, rfl⟩ := by simpa [stepApp] using h
      exact .read hmem
    | toggleItemEnabled item =>
      obtain ⟨heditable, rfl⟩ := by simpa [stepApp] using h
      exact .toggleItemEnabled heditable
    | addListItem type host redirection id =>
      obtain ⟨hid, rfl⟩ := by simpa [stepApp] using h
      exact .addListItem hid
    | updateListItem item host redirection =>
      obtain ⟨heditable, rfl⟩ := by simpa [stepApp] using h
      exact .updateListItem heditable
    | removeListItem item =>
      obtain ⟨heditable, rfl⟩ := by simpa [stepApp] using h
      exact .removeListItem heditable
    | addLogItem host type redirection =>
      obtain rfl := Option.some.inj h
      exact .addLogItem
    | removeLogItem host =>
      obtain rfl := Option.some.inj h
      exact .removeLogItem
    | importSource source =>
      obtain ⟨hvalid, rfl⟩ := by simpa [stepApp] using h
      exact .importSource hvalid
    | importItem item id =>
      obtain ⟨⟨huser, hid⟩, rfl⟩ := by simpa [stepApp] using h
      exact .importItem huser hid
    | clear =>
      obtain rfl := Option.some.inj h
      exact .clear
    | importBlocked =>
      obtain ⟨hostEntries, himport, rfl⟩ := Option.map_eq_some_iff.mp h
      exact .importBlocked himport
    | allowHost hostPattern =>
      obtain ⟨hostEntries, hallow, rfl⟩ := Option.map_eq_some_iff.mp h
      exact .allowHost hallow
    | redirectHost item =>
      obtain ⟨⟨hread, htype⟩, rfl⟩ := by simpa [stepApp] using h
      exact .redirectHost hread htype
  · intro h
    cases h <;> simp [stepApp, *]

/-- The calls the screens make: of the dialog of the lists, with valid texts, and of the log screen,
which asks for an address to redirect to. -/
def FromScreens (g : Guava) : AppAction → Prop
  | .addListItem type host redirection _ => ∃ hostText redirectionText,
    HostListDialog.confirm g type hostText redirectionText = some (host, redirection)
  | .updateListItem item host redirection => ∃ hostText redirectionText,
    HostListDialog.confirm g item.type hostText redirectionText = some (host, redirection)
  | .addLogItem _ type redirection =>
    (type = .redirected ∧ ∃ ip, redirection = some ip ∧ isValidIP g ip = true) ∨
      (type ≠ .redirected ∧ redirection = none)
  | _ => True

/-- The text has no line ends. -/
def OneLine (s : String) : Prop := ∀ c ∈ s.toList, c ≠ '\n' ∧ c ≠ '\r'

instance (s : String) : Decidable (OneLine s) :=
  List.decidableBAll (fun c : Char => c ≠ '\n' ∧ c ≠ '\r') s.toList

/-- The labels of the sources after the installation, in the language of the device. Each of them is
one line. -/
structure SourceLabels where
  /-- `R.string.hosts_user_source`. -/
  userSource : String
  /-- `R.string.hosts_adaway_source`. -/
  adAwaySource : String
  /-- `R.string.hosts_stevenblack_source`. -/
  stevenBlackSource : String
  /-- `R.string.hosts_peterlowe_source`. -/
  peterLoweSource : String
  oneLine : ∀ label ∈ [adAwaySource, stevenBlackSource, peterLoweSource], OneLine label

/-- The external sources that `AppDatabase.initialize` inserts. -/
def SourceLabels.sources (labels : SourceLabels) : List HostsSource :=
  [newSource labels.adAwaySource "https://adaway.org/hosts.txt" true false false,
    newSource labels.stevenBlackSource
      "https://raw.githubusercontent.com/StevenBlack/hosts/master/hosts" true false false,
    newSource labels.peterLoweSource
      "https://pgl.yoyo.org/adservers/serverlist.php?hostformat=hosts&showintro=0&mimetype=plaintext"
      true false false]

/-- `AppDatabase.initialize`. -/
def initializedDatabase (labels : SourceLabels) : Database :=
  labels.sources.foldl (fun db source => insertSource source db)
    { hostsSources := SequencedTable.empty.insert
        (fun n => { userSource with id := n, label := labels.userSource }) fun _ => rfl
      hostsLists := SequencedTable.empty }

/-- The application after the installation. -/
def installedApp (labels : SourceLabels) : AppState where
  db := initializedDatabase labels
  hostEntries := ∅
  read := []

theorem rows_foldl_insertSource (sources : List HostsSource) (db : Database) :
    (sources.foldl (fun db source => insertSource source db) db).hostsLists = db.hostsLists := by
  induction sources generalizing db with
  | nil => rfl
  | cons source sources ih => rw [List.foldl_cons, ih, rows_insertSource]

@[simp] theorem rows_installedApp (labels : SourceLabels) :
    (installedApp labels).db.hostsLists.rows = [] :=
  congrArg (fun t : SequencedTable HostListItem.id => t.rows)
    (rows_foldl_insertSource labels.sources _)

/-- The labels in English. -/
def englishLabels : SourceLabels where
  userSource := "User list"
  adAwaySource := "AdAway official hosts"
  stevenBlackSource := "StevenBlack Unified hosts"
  peterLoweSource := "Pete Lowe blocklist hosts"
  oneLine := by decide

/-! ### Every item -/

/-- The items that an action writes, up to their identifier and their flag. -/
def AppAction.Writes (g : Guava) : AppAction → HostListItem → Prop
  | .load source lines => fun i => i ∈ lines.filterMap (parseLine g source)
  | .addListItem type host redirection _ => fun i => i = newItem type host redirection
  | .updateListItem item host redirection => fun i => i = item.edited host redirection
  | .addLogItem host type redirection => fun i => i = newItem type host redirection
  | .importItem item _ => fun i => i = item
  | _ => fun _ => False

/-- The property does not depend on the identifier and the flag. -/
def Stable (P : HostListItem → Prop) : Prop :=
  ∀ i n enabled, P i → P { i with id := n, enabled := enabled }

/-- Every row and every item that has been read has the property. -/
structure AllItems (P : HostListItem → Prop) (s : AppState) : Prop where
  rows : ∀ i ∈ s.db.hostsLists.rows, P i
  read : ∀ i ∈ s.read, P i

section AllItems

variable {g : Guava} {P : HostListItem → Prop} {s t : AppState}

theorem AllItems.withDb (hs : AllItems P s) {db : Database} (h : ∀ i ∈ db.hostsLists.rows, P i) :
    AllItems P (s.withDb db) := ⟨h, hs.read⟩

theorem AllItems.writeBack (hs : AllItems P s) {item : HostListItem} (hitem : P item) :
    AllItems P (s.writeBack item) := by
  constructor
  · intro i hi
    rcases mem_rows_updateItem.mp hi with ⟨hi, -⟩ | ⟨rfl, -⟩
    · exact hs.rows i hi
    · exact hitem
  · exact List.forall_mem_cons.mpr ⟨hitem, hs.read⟩

theorem forall_rows_exec (hP : Stable P) {db : Database} (h : ∀ i ∈ db.hostsLists.rows, P i)
    {st : Statement} (hst : ∀ items, st = .insertItems items → ∀ i ∈ items, P i) :
    ∀ i ∈ (st.exec db).hostsLists.rows, P i := by
  intro i hi
  rcases mem_rows_exec hi with ⟨j, hj, enabled, rfl⟩ | ⟨items, heq, j, hj, n, rfl⟩
  · exact hP j j.id enabled (h j hj)
  · exact hP j n j.enabled (hst items heq j hj)

theorem forall_rows_storeItem (hP : Stable P) {db : Database} (h : ∀ i ∈ db.hostsLists.rows, P i)
    {item : HostListItem} (hitem : P item) (id : Option ℤ) :
    ∀ i ∈ (storeItem id item db).hostsLists.rows, P i := by
  intro i hi
  rcases mem_rows_storeItem hi with ⟨hi, -⟩ | ⟨heq, -⟩
  · exact h i hi
  · have hstable := hP item i.id i.enabled hitem
    rw [← heq] at hstable
    exact hstable

/-- **Every item**: a property of the items is kept by each step that writes items with it only. -/
theorem AllItems.step (hP : Stable P) {a : AppAction} (hs : AllItems P s)
    (hwrites : ∀ i, a.Writes g i → P i) (h : stepApp g s a = some t) : AllItems P t := by
  cases stepApp_eq_some_iff.mp h with
  | statement hinserts =>
    refine hs.withDb (forall_rows_exec hP hs.rows fun items heq => ?_)
    exact absurd (heq ▸ trivial) hinserts
  | load =>
    refine hs.withDb (forall_rows_exec hP hs.rows fun items heq i hi => hwrites i ?_)
    cases heq
    exact hi
  | addSource | importSource =>
    exact hs.withDb fun i hi => hs.rows i (rows_insertSource _ ▸ hi)
  | deleteSource => exact hs.withDb fun i hi => hs.rows i (mem_rows_deleteSource.mp hi).1
  | read hmem => exact ⟨hs.rows, List.forall_mem_cons.mpr ⟨hs.rows _ hmem, hs.read⟩⟩
  | toggleItemEnabled heditable => exact hs.writeBack (hP _ _ _ (hs.read _ heditable.1))
  | updateListItem => exact hs.writeBack (hwrites _ rfl)
  | addListItem | importItem =>
    exact hs.withDb (forall_rows_storeItem hP hs.rows (hwrites _ rfl) _)
  | addLogItem => exact hs.withDb (forall_rows_storeItem hP hs.rows (hwrites _ rfl) none)
  | removeListItem => exact hs.withDb fun i hi => hs.rows i (mem_rows_deleteItem.mp hi).1
  | removeLogItem => exact hs.withDb fun i hi => hs.rows i (mem_rows_deleteUserFromHost.mp hi).1
  | clear | importBlocked | allowHost | redirectHost => exact ⟨hs.rows, hs.read⟩

/-- **Every item in every state** of a run has a property that the items written by each step have.
-/
theorem AllItems.run (hP : Stable P) {as : List AppAction} (hs : AllItems P s)
    (hwrites : ∀ a ∈ as, ∀ i, a.Writes g i → P i)
    (h : ActionSystem.run (stepApp g) s as = some t) : AllItems P t :=
  ActionSystem.invariant_run_of_forall_mem
    (fun _ _ _ hs hwrites hstep => AllItems.step hP hs hwrites hstep) hs hwrites h

/-- Nothing has been stored or read after the installation. -/
theorem allItems_installedApp (P : HostListItem → Prop) (labels : SourceLabels) :
    AllItems P (installedApp labels) where
  rows := by simp
  read := fun _ hi => absurd hi List.not_mem_nil

end AllItems

/-! ### Every source -/

/-- The sources that an action inserts, unless their URL is taken. -/
def AppAction.InsertsSource : AppAction → HostsSource → Prop
  | .addSource label url allowFormat redirectedHosts => fun r =>
    validateSource label url allowFormat redirectedHosts = some r
  | .importSource source => fun r => r = source
  | _ => fun _ => False

/-- The label and the URL of every external source have the property. -/
def AllSources (P : String → String → Prop) (s : AppState) : Prop :=
  ∀ r ∈ s.db.hostsSources.rows, r.id ≠ userSourceId → P r.label r.url

/-- No two sources have the same URL. -/
def DistinctUrls (s : AppState) : Prop := (s.db.hostsSources.rows.map HostsSource.url).Nodup

section AllSources

variable {g : Guava} {P : String → String → Prop} {s t : AppState} {db : Database}

theorem labelUrl_onSource (db : Database) (st : Statement) (r : HostsSource) :
    (st.onSource db r).label = r.label ∧ (st.onSource db r).url = r.url := by
  cases st with
  | clearSourceHosts _ | insertItems _ | setSourceItemsEnabled _ _ => exact ⟨rfl, rfl⟩
  | _ =>
    dsimp only [Statement.onSource]
    split <;> exact ⟨rfl, rfl⟩

theorem hostsSources_exec (st : Statement) (db : Database) :
    (st.exec db).hostsSources.rows = db.hostsSources.rows.map (st.onSource db) := rfl

theorem mem_rows_of_mem_insertSource {source r : HostsSource}
    (hr : r ∈ (insertSource source db).hostsSources.rows) :
    r ∈ db.hostsSources.rows ∨ ∃ n, r = { source with id := n } := by
  rw [insertSource] at hr
  split at hr
  · exact Or.inl hr
  · rcases List.mem_append.mp hr with hr | hr
    · exact Or.inl hr
    · exact Or.inr ⟨_, List.mem_singleton.mp hr⟩

theorem nodup_urls_insertSource (h : (db.hostsSources.rows.map HostsSource.url).Nodup)
    (source : HostsSource) :
    ((insertSource source db).hostsSources.rows.map HostsSource.url).Nodup := by
  rw [insertSource]
  split
  next => exact h
  next hfree =>
    show ((db.hostsSources.rows ++ [_]).map HostsSource.url).Nodup
    rw [List.map_append, List.nodup_append]
    refine ⟨h, List.nodup_singleton _, ?_⟩
    intro url hurl url' hurl' heq
    obtain ⟨r, hr, rfl⟩ := List.mem_map.mp hurl
    obtain rfl := List.mem_singleton.mp hurl'
    exact hfree (List.any_eq_true.mpr ⟨r, hr, by simpa using heq⟩)

/-- What a step does to the sources. -/
theorem hostsSources_step {a : AppAction} (h : stepApp g s a = some t) :
    t.db.hostsSources = s.db.hostsSources ∨
      (∃ st : Statement, t.db.hostsSources.rows = s.db.hostsSources.rows.map (st.onSource s.db)) ∨
      (∃ source, a.InsertsSource source ∧
        t.db.hostsSources = (insertSource source s.db).hostsSources) ∨
      ∃ p, t.db.hostsSources = s.db.hostsSources.deleteWhere p := by
  cases stepApp_eq_some_iff.mp h with
  | statement | load => exact Or.inr (Or.inl ⟨_, hostsSources_exec _ s.db⟩)
  | addSource hsource => exact Or.inr (Or.inr (Or.inl ⟨_, hsource, rfl⟩))
  | importSource => exact Or.inr (Or.inr (Or.inl ⟨_, rfl, rfl⟩))
  | deleteSource => exact Or.inr (Or.inr (Or.inr ⟨_, rfl⟩))
  | addListItem | importItem => exact Or.inl (hostsSources_storeItem _ _ s.db)
  | _ => exact Or.inl rfl

/-- **Every source**: a property of the labels and the URLs is kept by each step that inserts
sources with it only. -/
theorem AllSources.step {a : AppAction} (hs : AllSources P s)
    (hinserts : ∀ r, a.InsertsSource r → P r.label r.url) (h : stepApp g s a = some t) :
    AllSources P t := by
  intro r hr hid
  rcases hostsSources_step h with heq | ⟨st, heq⟩ | ⟨source, hsource, heq⟩ | ⟨p, heq⟩
  · exact hs r (heq ▸ hr) hid
  · rw [heq] at hr
    obtain ⟨r', hr', rfl⟩ := List.mem_map.mp hr
    rw [st.id_onSource] at hid
    obtain ⟨hlabel, hurl⟩ := labelUrl_onSource s.db st r'
    rw [hlabel, hurl]
    exact hs r' hr' hid
  · rw [heq] at hr
    rcases mem_rows_of_mem_insertSource hr with hr | ⟨n, rfl⟩
    · exact hs r hr hid
    · exact hinserts source hsource
  · rw [heq] at hr
    exact hs r (List.mem_of_mem_filter hr) hid

/-- **Every source in every state** of a run has a property that the sources inserted have. -/
theorem AllSources.run {as : List AppAction} (hs : AllSources P s)
    (hinserts : ∀ a ∈ as, ∀ r, a.InsertsSource r → P r.label r.url)
    (h : ActionSystem.run (stepApp g) s as = some t) : AllSources P t :=
  ActionSystem.invariant_run_of_forall_mem
    (fun _ _ _ hs hinserts hstep => AllSources.step hs hinserts hstep) hs hinserts h

theorem DistinctUrls.step {a : AppAction} (hs : DistinctUrls s) (h : stepApp g s a = some t) :
    DistinctUrls t := by
  rcases hostsSources_step h with heq | ⟨st, heq⟩ | ⟨source, -, heq⟩ | ⟨p, heq⟩
  · rw [DistinctUrls, heq]
    exact hs
  · have hurl : HostsSource.url ∘ st.onSource s.db = HostsSource.url :=
      funext fun r => (labelUrl_onSource s.db st r).2
    rw [DistinctUrls, heq, List.map_map, hurl]
    exact hs
  · rw [DistinctUrls, heq]
    exact nodup_urls_insertSource hs source
  · rw [DistinctUrls, heq]
    exact hs.sublist (List.filter_sublist.map _)

/-- A source of the installation is the user's, or one of those that are inserted. -/
theorem mem_rows_installedApp {labels : SourceLabels} {r : HostsSource}
    (hr : r ∈ (installedApp labels).db.hostsSources.rows) :
    r.id = userSourceId ∨ ∃ source ∈ labels.sources, r.label = source.label ∧ r.url = source.url := by
  have hfold : ∀ (sources : List HostsSource) (db : Database),
      r ∈ (sources.foldl (fun db source => insertSource source db) db).hostsSources.rows →
        r ∈ db.hostsSources.rows ∨ ∃ source ∈ sources, r.label = source.label ∧ r.url = source.url := by
    intro sources
    induction sources with
    | nil => exact fun db hr => Or.inl hr
    | cons source sources ih =>
      intro db hr
      rcases ih (insertSource source db) hr with hr | ⟨source', hsource', heq⟩
      · rcases mem_rows_of_mem_insertSource hr with hr | ⟨n, rfl⟩
        · exact Or.inl hr
        · exact Or.inr ⟨source, List.mem_cons_self, rfl, rfl⟩
      · exact Or.inr ⟨source', List.mem_cons_of_mem source hsource', heq⟩
  rcases hfold labels.sources _ hr with hr | hsource
  · obtain rfl := List.mem_singleton.mp hr
    exact Or.inl rfl
  · exact Or.inr hsource

theorem allSources_installedApp {labels : SourceLabels}
    (h : ∀ source ∈ labels.sources, P source.label source.url) : AllSources P (installedApp labels) := by
  intro r hr hid
  rcases mem_rows_installedApp hr with huser | ⟨source, hsource, hlabel, hurl⟩
  · exact absurd huser hid
  · rw [hlabel, hurl]
    exact h source hsource

theorem distinctUrls_installedApp (labels : SourceLabels) : DistinctUrls (installedApp labels) := by
  have hfold : ∀ (sources : List HostsSource) (db : Database),
      (db.hostsSources.rows.map HostsSource.url).Nodup →
        ((sources.foldl (fun db source => insertSource source db) db).hostsSources.rows.map
          HostsSource.url).Nodup := by
    intro sources
    induction sources with
    | nil => exact fun db h => h
    | cons source sources ih => exact fun db h => ih _ (nodup_urls_insertSource h source)
  exact hfold labels.sources _ (List.nodup_singleton _)

theorem DistinctUrls.run {as : List AppAction} (hs : DistinctUrls s)
    (h : ActionSystem.run (stepApp g) s as = some t) : DistinctUrls t :=
  ActionSystem.invariant_run (fun _ _ _ hs hstep => hs.step hstep) hs h

/-- The URL of an inserted source is valid. -/
theorem isValidUrl_of_insertsSource {a : AppAction} (h : stepApp g s a = some t) {r : HostsSource}
    (hr : a.InsertsSource r) : isValidUrl r.url = true := by
  cases stepApp_eq_some_iff.mp h with
  | addSource =>
    rw [AppAction.InsertsSource, validateSource] at hr
    obtain ⟨hvalid, hr⟩ := Option.ite_none_right_eq_some.mp hr
    obtain rfl := Option.some.inj hr
    exact hvalid.2
  | importSource hvalid => exact hr ▸ hvalid
  | _ => exact hr.elim

/-- **The URLs of the external sources are valid** in every state of a run. -/
theorem isValidUrl_of_run {labels : SourceLabels} {as : List AppAction}
    (h : ActionSystem.run (stepApp g) (installedApp labels) as = some s) :
    AllSources (fun _ url => isValidUrl url = true) s := by
  refine ActionSystem.invariant_run (fun _ _ _ hs hstep =>
    AllSources.step hs (fun r hr => isValidUrl_of_insertsSource hstep hr) hstep)
    (allSources_installedApp ?_) h
  intro source hsource
  simp only [SourceLabels.sources, List.mem_cons, List.not_mem_nil, or_false] at hsource
  rcases hsource with rfl | rfl | rfl <;> simp only [newSource] <;> decide +kernel

end AllSources

/-! ### Every entry -/

/-- What a step does to the entries. -/
theorem hostEntries_step {g : Guava} {s t : AppState} {a : AppAction} (h : stepApp g s a = some t) :
    t.hostEntries = s.hostEntries ∨ t.hostEntries = ∅ ∨
      importBlocked s.db.hostsLists.rows s.hostEntries = some t.hostEntries ∨
      (∃ hostPattern, allowHost hostPattern s.hostEntries = some t.hostEntries) ∨
      ∃ item ∈ s.read, item.type = .redirected ∧
        t.hostEntries = redirectHost (redirectEntry item) s.hostEntries := by
  cases stepApp_eq_some_iff.mp h with
  | clear => exact Or.inr (Or.inl rfl)
  | importBlocked himport => exact Or.inr (Or.inr (Or.inl himport))
  | allowHost hallow => exact Or.inr (Or.inr (Or.inr (Or.inl ⟨_, hallow⟩)))
  | redirectHost hread htype => exact Or.inr (Or.inr (Or.inr (Or.inr ⟨_, hread, htype, rfl⟩)))
  | _ => exact Or.inl rfl

/-! ### The import of a backup -/

/-- The action that a write is. -/
def BackupWrite.action (getHostId : Database → String → Option ℤ) (db : Database) :
    BackupWrite → AppAction
  | .source s => .importSource s
  | .item i => .importItem i (getHostId db i.host)

/-- The write may come from a backup. -/
def BackupWrite.Read : BackupWrite → Prop
  | .source s => isValidUrl s.url = true
  | .item i => i.sourceId = userSourceId

section Import

variable {g : Guava} {library : JsonLibrary} {getHostId : Database → String → Option ℤ}

theorem read_of_mem_importSource (source : Json) :
    ∀ write ∈ (importSource library source).log, write.Read := by
  rw [importSource]
  refine Journal.forall_log_lift_bind fun sourceObject _ => ?_
  refine Journal.forall_log_lift_bind fun source hsource write hwrite => ?_
  obtain rfl := List.mem_singleton.mp hwrite
  exact (sourceFromJson_eq_ok hsource).1

theorem read_of_mem_importHost (type : ListType) (host : Json) :
    ∀ write ∈ (importHost library type host).log, write.Read := by
  rw [importHost]
  refine Journal.forall_log_lift_bind fun hostObject _ => ?_
  refine Journal.forall_log_lift_bind fun host hhost write hwrite => ?_
  obtain rfl := List.mem_singleton.mp hwrite
  exact (hostFromJson_eq_ok hhost).2.2

theorem read_of_mem_importListBackup (type : ListType) (backup : JSONObject) (key : String) :
    ∀ write ∈ (importListBackup library type backup key).log, write.Read := by
  rw [importListBackup]
  refine Journal.forall_log_lift_bind fun hosts _ => ?_
  refine Journal.forall_log_bind (fun write hwrite => ?_) fun _ _ write hwrite => ?_
  · obtain ⟨host, -, hwrite⟩ := Journal.mem_log_forEach hwrite
    exact read_of_mem_importHost type host write hwrite
  · exact absurd hwrite List.not_mem_nil

theorem read_of_mem_importBackupObject (backup : JSONObject) :
    ∀ write ∈ (importBackupObject library backup).log, write.Read := by
  rw [importBackupObject]
  refine Journal.forall_log_lift_bind fun sources _ => ?_
  refine Journal.forall_log_bind (fun write hwrite => ?_) fun _ _ => ?_
  · obtain ⟨source, -, hwrite⟩ := Journal.mem_log_forEach hwrite
    exact read_of_mem_importSource source write hwrite
  · refine Journal.forall_log_bind (read_of_mem_importListBackup .blocked backup _) fun _ _ => ?_
    refine Journal.forall_log_bind (read_of_mem_importListBackup .allowed backup _) fun _ _ => ?_
    exact read_of_mem_importListBackup .redirected backup _

theorem stepApp_action (h : ∀ db host, IsHostId db host (getHostId db host)) (s : AppState)
    {write : BackupWrite} (hread : write.Read) :
    stepApp g s (write.action getHostId s.db) = some (s.withDb (write.exec getHostId s.db)) := by
  cases write with
  | source source => exact stepApp_eq_some_iff.mpr (.importSource hread)
  | item item => exact stepApp_eq_some_iff.mpr (.importItem hread (h s.db item.host))

theorem run_writes (h : ∀ db host, IsHostId db host (getHostId db host)) {writes : List BackupWrite}
    (hread : ∀ write ∈ writes, write.Read) (s : AppState) :
    ∃ as, ActionSystem.run (stepApp g) s as
        = some (s.withDb (writes.foldl (BackupWrite.exec getHostId) s.db)) ∧
      ∀ a ∈ as, ∃ write ∈ writes, ∃ db, a = write.action getHostId db := by
  induction writes generalizing s with
  | nil => exact ⟨[], rfl, fun a ha => absurd ha List.not_mem_nil⟩
  | cons write writes ih =>
    rw [List.forall_mem_cons] at hread
    obtain ⟨as, hrun, has⟩ := ih hread.2 (s.withDb (write.exec getHostId s.db))
    refine ⟨write.action getHostId s.db :: as, ?_, ?_⟩
    · exact ActionSystem.run_cons_eq_some.mpr ⟨_, stepApp_action h s hread.1, hrun⟩
    · intro a ha
      rcases List.mem_cons.mp ha with rfl | ha
      · exact ⟨write, List.mem_cons_self, s.db, rfl⟩
      · obtain ⟨write', hwrite', db, rfl⟩ := has a ha
        exact ⟨write', List.mem_cons_of_mem write hwrite', db, rfl⟩

/-- **The import of a backup is a run**, whatever the file holds. -/
theorem run_importBackup (h : ∀ db host, IsHostId db host (getHostId db host)) (content : String)
    (s : AppState) :
    ∃ as, ActionSystem.run (stepApp g) s as
        = some (s.withDb (importBackup library getHostId content s.db).2) ∧
      ∀ a ∈ as, ∃ write db, a = BackupWrite.action getHostId db write := by
  rw [importBackup]
  cases library.parse (joinLines content) with
  | none => exact ⟨[], rfl, fun a ha => absurd ha List.not_mem_nil⟩
  | some backup =>
    obtain ⟨as, hrun, has⟩ := run_writes h (read_of_mem_importBackupObject backup) s
    refine ⟨as, hrun, fun a ha => ?_⟩
    obtain ⟨write, -, db, heq⟩ := has a ha
    exact ⟨write, db, heq⟩

end Import

end AdAway
