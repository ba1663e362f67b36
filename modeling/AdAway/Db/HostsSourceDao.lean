import AdAway.Db.Entity
import AdAway.Library.SequencedTable
import Mathlib.Data.List.Sort
import Mathlib.Data.String.Basic

/-!
# The tables `hosts_sources` and `hosts_lists`

The statements of `HostsSourceDao` and `HostListItemDao` that checking, retrieving and toggling the
sources run. Every statement is atomic and there are no transactions, so the statements are data:
a call of the application is a list of them, which may run at once or interleaved with others.

The items of a source are observed as `sourceItems`, which forgets their generated identifiers.

## Main definitions

* `Database` — the two tables
* `Statement`, `Statement.exec` — the statements
* `IsAnswer` — the answers of the two list queries
* `toggleEnabled` — the two statements of `HostsSourceDao.toggleEnabled`

## Main results

* `Statement.source_exec` — what a statement does to a row of `hosts_sources`
* `Statement.sourceItems_exec` — what a statement does to the items of a source
-/

namespace AdAway

/-- The two tables. -/
structure Database where
  /-- `hosts_sources`. -/
  hostsSources : SequencedTable HostsSource.id
  /-- `hosts_lists`. -/
  hostsLists : SequencedTable HostListItem.id

/-- The row of a source. -/
def Database.source (db : Database) (id : ℤ) : Option HostsSource := db.hostsSources.find? id

/-- The items of a source among others, without their identifiers. -/
def ofSource (id : ℤ) (items : List HostListItem) : List HostListItem :=
  items.filterMap fun i => if i.sourceId = id then some i.unnumbered else none

/-- The items of a source. -/
def Database.sourceItems (db : Database) (id : ℤ) : List HostListItem :=
  ofSource id db.hostsLists.rows

/-- The rows of the items of a source. -/
def Database.itemsOf (db : Database) (id : ℤ) : List HostListItem :=
  db.hostsLists.rows.filter fun i => i.sourceId = id

/-- The item with its flag set. -/
def HostListItem.withEnabled (i : HostListItem) (enabled : Bool) : HostListItem :=
  { i with enabled := enabled }

/-! ### Statements -/

/-- The statements that change a table. -/
inductive Statement
  /-- `HostListItemDao.clearSourceHosts`. -/
  | clearSourceHosts (sourceId : ℤ)
  /-- `HostListItemDao.insert` of items without identifier. -/
  | insertItems (items : List HostListItem)
  /-- `HostsSourceDao.setSourceEnabled`. -/
  | setSourceEnabled (id : ℤ) (enabled : Bool)
  /-- `HostsSourceDao.setSourceItemsEnabled`. -/
  | setSourceItemsEnabled (id : ℤ) (enabled : Bool)
  /-- `HostsSourceDao.updateOnlineModificationDate`. -/
  | updateOnlineModificationDate (id : ℤ) (dateTime : Option ZonedDateTime)
  /-- `HostsSourceDao.updateModificationDates`. -/
  | updateModificationDates (id : ℤ) (localModificationDate onlineModificationDate : ZonedDateTime)
  /-- `HostsSourceDao.updateEntityTag`. -/
  | updateEntityTag (id : ℤ) (entityTag : String)
  /-- `HostsSourceDao.updateSize`. -/
  | updateSize (id : ℤ)
  /-- `HostsSourceDao.clearProperties`. -/
  | clearProperties (id : ℤ)
  deriving DecidableEq

/-- What a statement does to a row of `hosts_sources`. -/
def Statement.onSource (db : Database) : Statement → HostsSource → HostsSource
  | .setSourceEnabled id enabled => fun s => if s.id = id then { s with enabled := enabled } else s
  | .updateOnlineModificationDate id dateTime => fun s =>
    if s.id = id then { s with onlineModificationDate := dateTime.map ZonedDateTime.stored } else s
  | .updateModificationDates id localModificationDate onlineModificationDate => fun s =>
    if s.id = id then
      { s with
        localModificationDate := some localModificationDate.stored
        onlineModificationDate := some onlineModificationDate.stored }
    else s
  | .updateEntityTag id entityTag => fun s =>
    if s.id = id then { s with entityTag := some entityTag } else s
  | .updateSize id => fun s =>
    if s.id = id then { s with size := (db.sourceItems id).length } else s
  | .clearProperties id => fun s =>
    if s.id = id then
      { s with
        localModificationDate := none
        onlineModificationDate := none
        entityTag := none
        size := 0 }
    else s
  | .clearSourceHosts _ | .insertItems _ | .setSourceItemsEnabled _ _ => id

theorem Statement.id_onSource (db : Database) (st : Statement) (s : HostsSource) :
    (st.onSource db s).id = s.id := by
  cases st <;> simp only [Statement.onSource, id] <;> split <;> rfl

/-- What a statement does to `hosts_lists`. -/
def Statement.onItems (t : SequencedTable HostListItem.id) :
    Statement → SequencedTable HostListItem.id
  | .clearSourceHosts sourceId => t.deleteWhere fun i => i.sourceId = sourceId
  | .insertItems items =>
    t.insertAll (fun i n => { i with id := n }) (fun _ _ => rfl) items
  | .setSourceItemsEnabled id enabled =>
    t.updateWhere (fun i => i.sourceId = id) (fun i => i.withEnabled enabled) fun _ => rfl
  | _ => t

/-- One statement. -/
def Statement.exec (db : Database) (st : Statement) : Database where
  hostsSources := db.hostsSources.updateWhere (fun _ => true) (st.onSource db) (st.id_onSource db)
  hostsLists := st.onItems db.hostsLists

/-- Statements one after the other. -/
def execAll (db : Database) (sts : List Statement) : Database := sts.foldl Statement.exec db

@[simp] theorem execAll_nil (db : Database) : execAll db [] = db := rfl

@[simp] theorem execAll_cons (db : Database) (st : Statement) (sts : List Statement) :
    execAll db (st :: sts) = execAll (st.exec db) sts := rfl

theorem execAll_append (db : Database) (sts sts' : List Statement) :
    execAll db (sts ++ sts') = execAll (execAll db sts) sts' := List.foldl_append

/-! ### Queries -/

/-- `HostsSourceDao.getAll` may answer `sources`: the external sources, by label. -/
def IsAnswer (db : Database) (sources : List HostsSource) : Prop :=
  sources.Perm (db.hostsSources.rows.filter fun s => s.id ≠ userSourceId) ∧
    sources.Pairwise fun s s' => s.label ≤ s'.label

/-- `HostsSourceDao.getEnabled` may answer `sources`: the enabled external sources, by URL. -/
def IsEnabledAnswer (db : Database) (sources : List HostsSource) : Prop :=
  sources.Perm (db.hostsSources.rows.filter fun s => s.enabled ∧ s.id ≠ userSourceId) ∧
    sources.Pairwise fun s s' => s.url ≤ s'.url

instance (db : Database) (sources : List HostsSource) : Decidable (IsAnswer db sources) := by
  unfold IsAnswer; infer_instance

instance (db : Database) (sources : List HostsSource) : Decidable (IsEnabledAnswer db sources) := by
  unfold IsEnabledAnswer; infer_instance

/-- The answer of `getAll` that keeps the sources of one label in their order. -/
def getAll (db : Database) : List HostsSource :=
  (db.hostsSources.rows.filter fun s => s.id ≠ userSourceId).insertionSort fun s s' =>
    s.label ≤ s'.label

theorem isAnswer_getAll (db : Database) : IsAnswer db (getAll db) := by
  refine ⟨List.perm_insertionSort _ _, ?_⟩
  have : Std.Total fun s s' : HostsSource => s.label ≤ s'.label :=
    ⟨fun s s' => le_total s.label s'.label⟩
  have : IsTrans HostsSource fun s s' => s.label ≤ s'.label := ⟨fun _ _ _ => le_trans⟩
  exact List.pairwise_insertionSort _ _

theorem nodup_of_perm_filter {db : Database} {sources : List HostsSource} {p : HostsSource → Bool}
    (h : sources.Perm (db.hostsSources.rows.filter p)) : (sources.map HostsSource.id).Nodup :=
  ((h.map HostsSource.id).nodup_iff).mpr
    (db.hostsSources.nodup_keys.sublist (List.filter_sublist.map _))

theorem source_of_mem_filter {db : Database} {sources : List HostsSource} {p : HostsSource → Bool}
    (h : sources.Perm (db.hostsSources.rows.filter p)) {s : HostsSource} :
    s ∈ sources ↔ db.source s.id = some s ∧ p s = true := by
  rw [h.mem_iff, List.mem_filter, KeyedTable.mem_rows_iff]
  exact Iff.rfl

theorem id_of_source {db : Database} {k : ℤ} {s : HostsSource} (h : db.source k = some s) :
    s.id = k := KeyedTable.key_of_find? h

/-! ### Calls of the DAO -/

/-- `HostsSourceDao.toggleEnabled`. -/
def toggleEnabled (source : HostsSource) : List Statement :=
  let enabled := !source.enabled
  [.setSourceEnabled source.id enabled, .setSourceItemsEnabled source.id enabled]

/-- `HostsSourceDao.insert` of a source without identifier: ignored when its URL is taken, after the
identifier was generated. -/
def insertSource (source : HostsSource) (db : Database) : Database :=
  if db.hostsSources.rows.any fun s => s.url = source.url then
    { db with hostsSources := db.hostsSources.skip }
  else { db with hostsSources := db.hostsSources.insert (fun n => { source with id := n }) fun _ => rfl }

/-- A source that has never been copied. -/
def newSource (label url : String) (enabled allowEnabled redirectEnabled : Bool) : HostsSource where
  id := 0
  label := label
  url := url
  enabled := enabled
  allowEnabled := allowEnabled
  redirectEnabled := redirectEnabled
  localModificationDate := none
  onlineModificationDate := none
  entityTag := none
  size := 0

/-- The row of the user's own items. -/
def userSource : HostsSource :=
  ⟨userSourceId, "User", "content://org.adaway/user/hosts", true, true, true, none, none, none, 0⟩

/-- The tables after the installation, without the external sources. -/
def installedDatabase : Database where
  hostsSources := SequencedTable.empty.insert (fun n => { userSource with id := n }) fun _ => rfl
  hostsLists := SequencedTable.empty

/-! ### What a statement does -/

/-- What a statement does to the items of source `k`. -/
def Statement.onSourceItems (k : ℤ) (items : List HostListItem) : Statement → List HostListItem
  | .clearSourceHosts id => if id = k then [] else items
  | .insertItems new => items ++ ofSource k new
  | .setSourceItemsEnabled id enabled =>
    if id = k then items.map fun i => i.withEnabled enabled else items
  | _ => items

theorem Statement.source_exec (db : Database) (st : Statement) (k : ℤ) :
    (st.exec db).source k = (db.source k).map (st.onSource db) := by
  show (db.hostsSources.updateWhere (fun _ => true) (st.onSource db) (st.id_onSource db)).find? k = _
  rw [SequencedTable.find?_updateWhere]
  rfl

theorem ofSource_cons (k : ℤ) (i : HostListItem) (items : List HostListItem) :
    ofSource k (i :: items) = if i.sourceId = k then i.unnumbered :: ofSource k items
      else ofSource k items := by
  by_cases h : i.sourceId = k <;> simp [ofSource, h]

theorem mem_ofSource {k : ℤ} {items : List HostListItem} {j : HostListItem} :
    j ∈ ofSource k items ↔ ∃ i ∈ items, i.sourceId = k ∧ i.unnumbered = j := by
  rw [ofSource, List.mem_filterMap]
  refine exists_congr fun i => and_congr_right fun _ => ?_
  split
  next h => simp [h]
  next h => simp [h]

theorem ofSource_append (k : ℤ) (items items' : List HostListItem) :
    ofSource k (items ++ items') = ofSource k items ++ ofSource k items' :=
  List.filterMap_append

theorem ofSource_filter_ne (k sourceId : ℤ) (items : List HostListItem) :
    ofSource k (items.filter fun i => !decide (i.sourceId = sourceId))
      = if sourceId = k then [] else ofSource k items := by
  induction items with
  | nil => simp [ofSource]
  | cons i items ih =>
    by_cases hi : i.sourceId = sourceId
    · rw [List.filter_cons_of_neg (by simp [hi]), ih, ofSource_cons, hi]
      split <;> rfl
    · rw [List.filter_cons_of_pos (by simp [hi]), ofSource_cons, ofSource_cons, ih]
      split
      next hk =>
        split
        next hs => exact absurd (hk.trans hs.symm) hi
        next => rfl
      next => rfl

theorem ofSource_map_withEnabled (k sourceId : ℤ) (enabled : Bool) (items : List HostListItem) :
    ofSource k (items.map fun i =>
        if decide (i.sourceId = sourceId) = true then i.withEnabled enabled else i)
      = if sourceId = k then (ofSource k items).map fun i => i.withEnabled enabled
        else ofSource k items := by
  induction items with
  | nil => simp [ofSource]
  | cons i items ih =>
    have hid : ∀ b, (if decide (i.sourceId = sourceId) = true then i.withEnabled b else i).sourceId
        = i.sourceId := by
      intro b
      split <;> rfl
    rw [List.map_cons, ofSource_cons, ofSource_cons, ih, hid]
    by_cases hk : i.sourceId = k
    · by_cases hs : sourceId = k
      · simp [hk, hs, HostListItem.withEnabled, HostListItem.unnumbered]
      · have hs' : k ≠ sourceId := fun h => hs h.symm
        simp [hk, hs, hs']
    · simp [hk]

/-- What a statement does to the items of a source depends on these items only. -/
theorem Statement.sourceItems_exec (db : Database) (st : Statement) (k : ℤ) :
    (st.exec db).sourceItems k = st.onSourceItems k (db.sourceItems k) := by
  cases st with
  | clearSourceHosts sourceId => exact ofSource_filter_ne k sourceId db.hostsLists.rows
  | insertItems items =>
    exact SequencedTable.filterMap_insertAll db.hostsLists _ _ items fun _ _ => rfl
  | setSourceItemsEnabled id enabled =>
    exact ofSource_map_withEnabled k id enabled db.hostsLists.rows
  | _ => rfl

/-- What toggling does to a source and its items. -/
theorem execAll_toggleEnabled (db : Database) (source : HostsSource) (k : ℤ) :
    (execAll db (toggleEnabled source)).source k
      = (db.source k).map
          (fun s => if s.id = source.id then { s with enabled := !source.enabled } else s) ∧
    (execAll db (toggleEnabled source)).sourceItems k
      = if source.id = k then (db.sourceItems k).map fun i => i.withEnabled !source.enabled
        else db.sourceItems k := by
  constructor
  · rw [toggleEnabled, execAll_cons, execAll_cons, execAll_nil, Statement.source_exec,
      Statement.source_exec]
    exact Option.map_id_apply
  · rw [toggleEnabled, execAll_cons, execAll_cons, execAll_nil, Statement.sourceItems_exec,
      Statement.sourceItems_exec]
    rfl

/-! ### Statements about one source -/

/-- The statement changes source `k` and its items only. -/
def Statement.About (k : ℤ) : Statement → Prop
  | .insertItems items => ∀ i ∈ items, i.sourceId = k
  | .clearSourceHosts id | .setSourceEnabled id _ | .setSourceItemsEnabled id _
  | .updateOnlineModificationDate id _ | .updateModificationDates id _ _ | .updateEntityTag id _
  | .updateSize id | .clearProperties id => id = k

/-- Two databases agree on a source and its items. -/
structure SameSource (k : ℤ) (db db' : Database) : Prop where
  source : db'.source k = db.source k
  items : db'.sourceItems k = db.sourceItems k

theorem SameSource.trans {k : ℤ} {db db' db'' : Database} (h : SameSource k db db')
    (h' : SameSource k db' db'') : SameSource k db db'' :=
  ⟨h'.source.trans h.source, h'.items.trans h.items⟩

theorem ofSource_eq_nil {k k' : ℤ} {items : List HostListItem} (h : ∀ i ∈ items, i.sourceId = k')
    (hne : k' ≠ k) : ofSource k items = [] := by
  rw [List.eq_nil_iff_forall_not_mem]
  intro j hj
  obtain ⟨i, hi, hk, -⟩ := mem_ofSource.mp hj
  exact hne ((h i hi).symm.trans hk)

/-- A statement about another source leaves a source and its items alone. -/
theorem Statement.sameSource_exec {k k' : ℤ} {st : Statement} (h : st.About k') (hne : k' ≠ k)
    (db : Database) : SameSource k db (st.exec db) := by
  constructor
  · rw [Statement.source_exec]
    cases hs : db.source k with
    | none => rfl
    | some s =>
      have hid : s.id = k := KeyedTable.key_of_find? hs
      rw [Option.map_some]
      congr 1
      cases st with
      | clearSourceHosts | insertItems | setSourceItemsEnabled => rfl
      | _ =>
        obtain rfl := h
        exact if_neg fun heq => hne (heq.symm.trans hid)
  · rw [Statement.sourceItems_exec]
    cases st with
    | clearSourceHosts =>
      obtain rfl := h
      exact if_neg hne
    | setSourceItemsEnabled =>
      obtain rfl := h
      exact if_neg hne
    | insertItems items =>
      show _ ++ ofSource k items = _
      rw [ofSource_eq_nil h hne, List.append_nil]
    | _ => rfl

/-- A statement about another source leaves the rows of the items of a source alone. -/
theorem Statement.itemsOf_exec {k k' : ℤ} {st : Statement} (h : st.About k') (hne : k' ≠ k)
    (db : Database) : (st.exec db).itemsOf k = db.itemsOf k := by
  cases st with
  | clearSourceHosts sourceId =>
    obtain rfl := h
    show ((db.hostsLists.rows.filter _).filter _) = _
    rw [List.filter_filter]
    refine List.filter_congr fun i _ => ?_
    by_cases hi : i.sourceId = k
    · simp [hi, hne.symm]
    · simp [hi]
  | insertItems items =>
    obtain ⟨new, hrows, hnew⟩ := SequencedTable.exists_rows_insertAll db.hostsLists
      (fun (i : HostListItem) n => { i with id := n }) (fun _ _ => rfl) items
    have hnil : (new.filter fun i => i.sourceId = k) = [] := by
      rw [List.filter_eq_nil_iff]
      intro i hi
      obtain ⟨j, hj, n, rfl⟩ := hnew i hi
      simpa [h j hj] using hne
    show (SequencedTable.insertAll _ _ _ _).rows.filter _ = _
    rw [hrows, List.filter_append, hnil, List.append_nil]
    rfl
  | setSourceItemsEnabled id enabled =>
    obtain rfl := h
    show ((db.hostsLists.rows.map _).filter _) = _
    rw [List.filter_map, Database.itemsOf]
    have hfilter : (db.hostsLists.rows.filter ((fun i => decide (i.sourceId = k)) ∘
        fun i => if decide (i.sourceId = id) = true then i.withEnabled enabled else i))
        = db.hostsLists.rows.filter fun i => i.sourceId = k := by
      refine List.filter_congr fun i _ => ?_
      show decide ((if decide (i.sourceId = id) = true then i.withEnabled enabled else i).sourceId = k)
        = _
      split <;> rfl
    rw [hfilter]
    refine (List.map_congr_left fun i hi => ?_).trans (List.map_id _)
    rw [List.mem_filter, decide_eq_true_eq] at hi
    exact if_neg (by simpa [hi.2] using hne.symm)
  | _ => rfl

theorem sameSource_execAll {k k' : ℤ} {sts : List Statement} (h : ∀ st ∈ sts, st.About k')
    (hne : k' ≠ k) (db : Database) : SameSource k db (execAll db sts) := by
  induction sts generalizing db with
  | nil => exact ⟨rfl, rfl⟩
  | cons st sts ih =>
    rw [List.forall_mem_cons] at h
    exact (Statement.sameSource_exec h.1 hne db).trans (ih h.2 (st.exec db))

/-- Statements about other sources, each about one, leave a source and its items alone. -/
theorem sameSource_execAll_of_others {k : ℤ} {sts : List Statement}
    (h : ∀ st ∈ sts, ∃ k', k' ≠ k ∧ st.About k') (db : Database) :
    SameSource k db (execAll db sts) ∧ (execAll db sts).itemsOf k = db.itemsOf k := by
  induction sts generalizing db with
  | nil => exact ⟨⟨rfl, rfl⟩, rfl⟩
  | cons st sts ih =>
    rw [List.forall_mem_cons] at h
    obtain ⟨⟨k', hne, habout⟩, hrest⟩ := h
    obtain ⟨hsame, hitems⟩ := ih hrest (st.exec db)
    exact ⟨(Statement.sameSource_exec habout hne db).trans hsame,
      hitems.trans (Statement.itemsOf_exec habout hne db)⟩

/-- Blocks of statements about other sources leave a source and its items alone. -/
theorem sameSource_execAll_flatMap {k : ℤ} {block : HostsSource → List Statement}
    (hblock : ∀ s, ∀ st ∈ block s, st.About s.id) {sources : List HostsSource}
    (h : ∀ s ∈ sources, s.id ≠ k) (db : Database) :
    SameSource k db (execAll db (sources.flatMap block)) := by
  induction sources generalizing db with
  | nil => exact ⟨rfl, rfl⟩
  | cons s sources ih =>
    rw [List.forall_mem_cons] at h
    rw [List.flatMap_cons, execAll_append]
    exact (sameSource_execAll (hblock s) h.1 db).trans (ih h.2 _)

/-- **One block for each source**: what all of them do to a source is what its own block does. -/
theorem exists_sameSource_block {block : HostsSource → List Statement}
    (hblock : ∀ s, ∀ st ∈ block s, st.About s.id) {sources : List HostsSource}
    (hnodup : (sources.map HostsSource.id).Nodup) {s : HostsSource} (hs : s ∈ sources)
    (db : Database) :
    ∃ db', SameSource s.id db db' ∧
      SameSource s.id (execAll db' (block s)) (execAll db (sources.flatMap block)) := by
  obtain ⟨before, after, rfl⟩ := List.append_of_mem hs
  rw [List.map_append, List.map_cons, List.nodup_middle, List.nodup_cons, List.mem_append] at hnodup
  obtain ⟨hnot, -⟩ := hnodup
  refine ⟨execAll db (before.flatMap block), ?_, ?_⟩
  · exact sameSource_execAll_flatMap hblock
      (fun s' hs' heq => hnot (Or.inl (List.mem_map.mpr ⟨s', hs', heq⟩))) db
  · rw [List.flatMap_append, List.flatMap_cons, execAll_append, execAll_append]
    exact sameSource_execAll_flatMap hblock
      (fun s' hs' heq => hnot (Or.inr (List.mem_map.mpr ⟨s', hs', heq⟩))) _

end AdAway
