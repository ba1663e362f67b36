import AdAway.Db.HostsSourceDao

/-!
# Writing single items and sources

The statements of `HostListItemDao` and `HostsSourceDao` that write one item or one source: those of
the list screens, the log screen, the source editor and the backup. They are described by the rows
of `hosts_lists` after them.

`getHostId` looks for a user item of a host, and the screens and the backup store an item over the
one it finds. SQL does not say which item it finds when there are several, so an answer is any that
`IsHostId` allows.

## Main definitions

* `insertItem`, `updateItem`, `deleteItem`, `deleteUserFromHost`, `deleteSource` — the statements
* `IsHostId` — the answers of `getHostId`
* `storeItem` — store an item over the one that `getHostId` has found

## Main results

* `mem_rows_updateItem`, `mem_rows_insertItem` — the rows after a statement
* `mem_rows_storeItem` — where a row comes from when an item is stored
-/

namespace AdAway

/-! ### Statements -/

theorem HostListItem.id_setId (item : HostListItem) (n : ℤ) :
    ({ item with id := n } : HostListItem).id = n := rfl

/-- `HostListItemDao.insert` of an item without identifier. -/
def insertItem (item : HostListItem) (db : Database) : Database :=
  { db with hostsLists := db.hostsLists.insert (fun n => { item with id := n }) item.id_setId }

/-- `HostListItemDao.update`. -/
def updateItem (item : HostListItem) (db : Database) : Database :=
  { db with
    hostsLists := db.hostsLists.updateWhere (fun i => i.id = item.id)
      (fun i => { item with id := i.id }) fun _ => rfl }

/-- `HostListItemDao.delete`. -/
def deleteItem (item : HostListItem) (db : Database) : Database :=
  { db with hostsLists := db.hostsLists.deleteWhere fun i => i.id = item.id }

/-- `HostListItemDao.deleteUserFromHost`. -/
def deleteUserFromHost (host : String) (db : Database) : Database :=
  { db with
    hostsLists := db.hostsLists.deleteWhere fun i => i.sourceId = userSourceId ∧ i.host = host }

/-- `HostsSourceDao.delete`. The items of the source are deleted with it. -/
def deleteSource (id : ℤ) (db : Database) : Database where
  hostsSources := db.hostsSources.deleteWhere fun s => s.id = id
  hostsLists := db.hostsLists.deleteWhere fun i => i.sourceId = id

/-! ### Queries -/

/-- `HostListItemDao.getHostId` may answer `id`. -/
def IsHostId (db : Database) (host : String) : Option ℤ → Prop
  | some id => ∃ i ∈ db.hostsLists.rows, i.id = id ∧ i.host = host ∧ i.sourceId = userSourceId
  | none => ∀ i ∈ db.hostsLists.rows, ¬ (i.host = host ∧ i.sourceId = userSourceId)

instance (db : Database) (host : String) (id : Option ℤ) : Decidable (IsHostId db host id) := by
  cases id <;> unfold IsHostId <;> infer_instance

/-- `HostListItemDao.getUserList` may answer `items`. -/
def IsUserList (db : Database) (items : List HostListItem) : Prop :=
  items.Perm (db.itemsOf userSourceId)

/-- The answer of `getHostId` that comes first in the table. -/
def firstHostId (db : Database) (host : String) : Option ℤ :=
  (db.hostsLists.rows.find? fun i => i.host = host ∧ i.sourceId = userSourceId).map HostListItem.id

theorem isHostId_firstHostId (db : Database) (host : String) :
    IsHostId db host (firstHostId db host) := by
  rw [firstHostId]
  cases hfind : db.hostsLists.rows.find? fun i => i.host = host ∧ i.sourceId = userSourceId with
  | none =>
    intro i hi
    simpa using List.find?_eq_none.mp hfind i hi
  | some i =>
    have hi := List.find?_some hfind
    simp only [decide_eq_true_eq] at hi
    exact ⟨i, List.mem_of_find?_eq_some hfind, rfl, hi.1, hi.2⟩

/-- Stores an item over the one with the identifier found, or as a new one. -/
def storeItem (id : Option ℤ) (item : HostListItem) (db : Database) : Database :=
  match id with
  | some id => updateItem { item with id := id } db
  | none => insertItem item db

/-! ### The rows after a statement -/

variable {db : Database} {item i : HostListItem}

theorem mem_rows_insertItem :
    i ∈ (insertItem item db).hostsLists.rows ↔
      i ∈ db.hostsLists.rows ∨ i = { item with id := db.hostsLists.sequence + 1 } := by
  show i ∈ db.hostsLists.rows ++ [_] ↔ _
  rw [List.mem_append, List.mem_singleton]

theorem mem_rows_updateItem :
    i ∈ (updateItem item db).hostsLists.rows ↔
      (i ∈ db.hostsLists.rows ∧ i.id ≠ item.id) ∨
        (i = item ∧ ∃ j ∈ db.hostsLists.rows, j.id = item.id) := by
  show i ∈ db.hostsLists.rows.map (fun j => if decide (j.id = item.id) = true then
    { item with id := j.id } else j) ↔ _
  rw [List.mem_map]
  constructor
  · rintro ⟨j, hj, rfl⟩
    by_cases hid : j.id = item.id
    · rw [if_pos (by simpa using hid)]
      exact Or.inr ⟨by rw [hid], j, hj, hid⟩
    · rw [if_neg (by simpa using hid)]
      exact Or.inl ⟨hj, hid⟩
  · rintro (⟨hi, hid⟩ | ⟨rfl, j, hj, hid⟩)
    · exact ⟨i, hi, if_neg (by simpa using hid)⟩
    · exact ⟨j, hj, by rw [if_pos (by simpa using hid), hid]⟩

theorem mem_rows_deleteItem :
    i ∈ (deleteItem item db).hostsLists.rows ↔ i ∈ db.hostsLists.rows ∧ i.id ≠ item.id := by
  show i ∈ db.hostsLists.rows.filter _ ↔ _
  simp [List.mem_filter]

theorem mem_rows_deleteUserFromHost {host : String} :
    i ∈ (deleteUserFromHost host db).hostsLists.rows ↔
      i ∈ db.hostsLists.rows ∧ ¬ (i.sourceId = userSourceId ∧ i.host = host) := by
  show i ∈ db.hostsLists.rows.filter _ ↔ _
  simp [List.mem_filter, imp_iff_not_or]

theorem mem_rows_deleteSource {id : ℤ} :
    i ∈ (deleteSource id db).hostsLists.rows ↔ i ∈ db.hostsLists.rows ∧ i.sourceId ≠ id := by
  show i ∈ db.hostsLists.rows.filter _ ↔ _
  simp [List.mem_filter]

theorem rows_insertSource (source : HostsSource) :
    (insertSource source db).hostsLists = db.hostsLists := by
  rw [insertSource]
  split <;> rfl

theorem hostsSources_storeItem (id : Option ℤ) (item : HostListItem) (db : Database) :
    (storeItem id item db).hostsSources = db.hostsSources := by
  cases id <;> rfl

/-- The identifier tells two rows apart. -/
theorem eq_of_id_eq {j : HostListItem} (hi : i ∈ db.hostsLists.rows) (hj : j ∈ db.hostsLists.rows)
    (h : i.id = j.id) : i = j :=
  List.inj_on_of_nodup_map db.hostsLists.nodup_keys hi hj h

/-- **A row after an item is stored** is another row of before, or the item. -/
theorem mem_rows_storeItem {id : Option ℤ} :
    i ∈ (storeItem id item db).hostsLists.rows →
      (i ∈ db.hostsLists.rows ∧ some i.id ≠ id) ∨
        ({ i with id := item.id } = item ∧ ((∃ j ∈ db.hostsLists.rows, j.id = i.id ∧ id = some i.id) ∨
          id = none ∧ i.id = db.hostsLists.sequence + 1)) := by
  intro hi
  cases id with
  | some id =>
    rcases mem_rows_updateItem.mp hi with ⟨hmem, hne⟩ | ⟨rfl, j, hj, hid⟩
    · exact Or.inl ⟨hmem, fun heq => hne (Option.some.inj heq)⟩
    · exact Or.inr ⟨rfl, Or.inl ⟨j, hj, hid, rfl⟩⟩
  | none =>
    rcases mem_rows_insertItem.mp hi with hmem | rfl
    · exact Or.inl ⟨hmem, nofun⟩
    · exact Or.inr ⟨rfl, Or.inr ⟨rfl, rfl⟩⟩

/-- What a statement makes of a row: it is a row of before, up to its flag, or is inserted. -/
theorem mem_rows_exec {st : Statement} (hi : i ∈ (st.exec db).hostsLists.rows) :
    (∃ j ∈ db.hostsLists.rows, ∃ enabled, i = j.withEnabled enabled) ∨
      ∃ items, st = .insertItems items ∧ ∃ j ∈ items, ∃ n, i = { j with id := n } := by
  cases st with
  | clearSourceHosts sourceId =>
    exact Or.inl ⟨i, List.mem_of_mem_filter hi, i.enabled, rfl⟩
  | insertItems items =>
    obtain ⟨new, hrows, hnew⟩ := SequencedTable.exists_rows_insertAll db.hostsLists
      (fun (i : HostListItem) n => { i with id := n }) (fun _ _ => rfl) items
    have hmem : i ∈ db.hostsLists.rows ++ new := hrows ▸ hi
    rcases List.mem_append.mp hmem with hmem | hmem
    · exact Or.inl ⟨i, hmem, i.enabled, rfl⟩
    · obtain ⟨j, hj, n, rfl⟩ := hnew i hmem
      exact Or.inr ⟨items, rfl, j, hj, n, rfl⟩
  | setSourceItemsEnabled id enabled =>
    obtain ⟨j, hj, rfl⟩ := List.mem_map.mp hi
    split
    · exact Or.inl ⟨j, hj, enabled, rfl⟩
    · exact Or.inl ⟨j, hj, j.enabled, rfl⟩
  | _ => exact Or.inl ⟨i, hi, i.enabled, rfl⟩

end AdAway
