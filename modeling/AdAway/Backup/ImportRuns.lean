import AdAway.Backup.BackupImporter
import Mathlib.Data.List.Induction

/-!
# Runs of an import

What an import leaves that fails, and what it leaves when it is run a second time.

An import writes each element of a backup before it reads the next one, so a failing one leaves the
elements before the one that it could not read.

An import finds the item to write over by its host, and writes all of it but its identifier. So the
identifiers of the user items of a host stay once there is one, and after an import each of them
holds the last item of its host. The second import writes over the same rows, in the same order.

## Main definitions

* `backupElements` — the elements of a backup, in the order of an import
* `hostIds`, `PicksFixed` — the user items of a host, and what `getHostId` picks among them
* `BackupWrite.overwrite` — what a write does to a row of a host that is there

## Main results

* `importBackup_of_fail` — what a failing import leaves
* `foldl_exec_foldl_exec` — writing the same once more changes nothing
* `importBackup_importBackup` — importing the same backup once more changes nothing
-/

namespace AdAway

/-! ### The elements of a backup -/

/-- A source of a backup, as it reads. -/
def sourceElement (library : JsonLibrary) (source : Json) : Except JSONException BackupWrite := do
  let sourceObject ← getJSONObject source
  let source ← sourceFromJson library sourceObject
  return .source source

/-- An item of a backup, as it reads. -/
def hostElement (library : JsonLibrary) (type : ListType) (host : Json) :
    Except JSONException BackupWrite := do
  let hostObject ← getJSONObject host
  let host ← hostFromJson library type hostObject
  return .item host

/-- The elements of an array of a backup. An array that is not there is one that cannot be read. -/
def arrayElements (backup : JSONObject) (key : String)
    (element : Json → Except JSONException BackupWrite) :
    List (Except JSONException BackupWrite) :=
  match getJSONArray backup key with
  | .ok elements => elements.map element
  | .error e => [.error e]

/-- The elements of a backup, in the order of an import. -/
def backupElements (library : JsonLibrary) (backup : JSONObject) :
    List (Except JSONException BackupWrite) :=
  arrayElements backup "sources" (sourceElement library) ++
    (arrayElements backup "blocked" (hostElement library .blocked) ++
      (arrayElements backup "allowed" (hostElement library .allowed) ++
        arrayElements backup "redirected" (hostElement library .redirected)))

/-- Reading an object and writing what it reads as. -/
theorem lift_bind_tell {α : Type} (json : Json) (read : JSONObject → Except JSONException α)
    (write : α → BackupWrite) :
    (Journal.lift (getJSONObject json) >>= fun object =>
        Journal.lift (read object) >>= fun a => Journal.tell [write a])
      = Journal.lift (do
          let object ← getJSONObject json
          let a ← read object
          return write a) >>= fun w => Journal.tell [w] := by
  cases getJSONObject json with
  | error e => rfl
  | ok object =>
    rw [Journal.lift_ok, Journal.pure_bind]
    show _ = Journal.lift (read object >>= _) >>= _
    cases read object <;> rfl

theorem importSource_eq (library : JsonLibrary) (source : Json) :
    importSource library source
      = Journal.lift (sourceElement library source) >>= fun write => Journal.tell [write] :=
  lift_bind_tell source (sourceFromJson library) .source

theorem importHost_eq (library : JsonLibrary) (type : ListType) (host : Json) :
    importHost library type host
      = Journal.lift (hostElement library type host) >>= fun write => Journal.tell [write] :=
  lift_bind_tell host (hostFromJson library type) .item

/-- An array is read element by element. -/
theorem forEach_eq_tellEach {turn : Json → Import Unit}
    {element : Json → Except JSONException BackupWrite}
    (hturn : ∀ json, turn json = Journal.lift (element json) >>= fun write => Journal.tell [write])
    (backup : JSONObject) (key : String) {α : Type} (k : Import α) :
    (Journal.lift (getJSONArray backup key) >>= fun elements =>
        Journal.forEach turn elements >>= fun _ => k)
      = Journal.tellEach (arrayElements backup key element) >>= fun _ => k := by
  rw [arrayElements]
  cases getJSONArray backup key with
  | error e => rfl
  | ok elements =>
    rw [Journal.lift_ok, Journal.pure_bind]
    exact Journal.forEach_bind_eq_tellEach hturn elements k

/-- An import writes the elements of the backup one by one. -/
theorem importBackupObject_eq_tellEach (library : JsonLibrary) (backup : JSONObject) :
    importBackupObject library backup = Journal.tellEach (backupElements library backup) := by
  have hlist : ∀ type key, importListBackup library type backup key
      = Journal.tellEach (arrayElements backup key (hostElement library type)) >>= fun _ =>
          pure () :=
    fun type key => forEach_eq_tellEach (importHost_eq library type) backup key (pure ())
  have hpure : ∀ xs : List (Except JSONException BackupWrite),
      (Journal.tellEach xs >>= fun _ => pure ()) = Journal.tellEach xs := by
    intro xs
    have happend := Journal.tellEach_append xs []
    rw [List.append_nil] at happend
    exact happend.symm
  rw [importBackupObject, forEach_eq_tellEach (importSource_eq library), backupElements,
    Journal.tellEach_append, Journal.tellEach_append, Journal.tellEach_append, hlist, hlist, hlist,
    hpure, hpure, hpure]

/-! ### An import that fails -/

/-- **What a failing import leaves**: the tables as they were, when the content is no JSON object;
else what the elements before the first one that cannot be read have written, and nothing of those
after it. -/
theorem importBackup_of_fail {library : JsonLibrary} {getHostId : Database → String → Option ℤ}
    {content : String} {db : Database}
    (hfail : (importBackup library getHostId content db).1 = false) :
    (library.parse (joinLines content) = none ∧
      (importBackup library getHostId content db).2 = db) ∨
      ∃ (backup : JSONObject) (before : List BackupWrite) (e : JSONException)
        (after : List (Except JSONException BackupWrite)),
        library.parse (joinLines content) = some backup ∧
        backupElements library backup = before.map .ok ++ .error e :: after ∧
        (importBackup library getHostId content db).2
          = before.foldl (BackupWrite.exec getHostId) db := by
  rw [importBackup] at hfail ⊢
  cases hparse : library.parse (joinLines content) with
  | none => exact Or.inl ⟨rfl, rfl⟩
  | some backup =>
    rw [hparse] at hfail
    simp only [importBackupObject_eq_tellEach] at hfail ⊢
    rcases Journal.tellEach_cases (backupElements library backup) with
      ⟨entries, -, heq⟩ | ⟨before, e, after, helements, heq⟩
    · rw [heq] at hfail
      cases hfail
    · exact Or.inr ⟨backup, before, e, after, rfl, helements, by rw [heq]⟩

/-- A library that reads a text as an object. -/
def readsAs (text : String) (object : JSONObject) : JsonLibrary where
  print _ := text
  parse content := if content = joinLines text then some object else none
  valueOf _ := ""

theorem parse_readsAs (text : String) (object : JSONObject) :
    (readsAs text object).parse (joinLines text) = some object := if_pos rfl

theorem importBackup_readsAs (text : String) (object : JSONObject)
    (getHostId : Database → String → Option ℤ) (db : Database) :
    importBackup (readsAs text object) getHostId text db
      = ((importBackupObject (readsAs text object) object).result.isOk,
          (importBackupObject (readsAs text object) object).log.foldl
            (BackupWrite.exec getHostId) db) := by
  rw [importBackup, parse_readsAs]

/-- Tables without rows. -/
def emptyDatabase : Database := ⟨SequencedTable.empty, SequencedTable.empty⟩

/-- A backup whose second blocked item has no flag. -/
def brokenBackup : JSONObject :=
  [("sources", .array []),
    ("blocked", .array [.object [("host", .string "ads.example"), ("enabled", .bool true)],
      .object [("host", .string "trackers.example")]]),
    ("allowed", .array []), ("redirected", .array [])]

/-- Its text. -/
def brokenText : String :=
  "\x7b\"sources\":[],\"blocked\":[\x7b\"host\":\"ads.example\",\"enabled\":true\x7d," ++
    "\x7b\"host\":\"trackers.example\"\x7d],\"allowed\":[],\"redirected\":[]\x7d"

/-- Its import fails, and the first blocked item is there. -/
theorem importBackup_brokenText :
    (importBackup (readsAs brokenText brokenBackup) firstHostId brokenText emptyDatabase).1
      = false ∧
      (importBackup (readsAs brokenText brokenBackup) firstHostId brokenText
        emptyDatabase).2.hostsLists.rows = [⟨1, "ads.example", .blocked, true, none, 1⟩] := by
  rw [importBackup_readsAs]
  decide +kernel

theorem importBackup_of_fail_broken : ∃ (backup : JSONObject) (before : List BackupWrite)
    (e : JSONException) (after : List (Except JSONException BackupWrite)),
    (readsAs brokenText brokenBackup).parse (joinLines brokenText) = some backup ∧
      backupElements (readsAs brokenText brokenBackup) backup
        = before.map .ok ++ .error e :: after ∧
      (importBackup (readsAs brokenText brokenBackup) firstHostId brokenText emptyDatabase).2
        = before.foldl (BackupWrite.exec firstHostId) emptyDatabase := by
  rcases importBackup_of_fail importBackup_brokenText.1 with ⟨hparse, -⟩ | hbroken
  · rw [parse_readsAs] at hparse
    cases hparse
  · exact hbroken

theorem not_importBackup_all_or_nothing :
    ¬ ∀ (library : JsonLibrary) (getHostId : Database → String → Option ℤ),
      (∀ db host, IsHostId db host (getHostId db host)) → ∀ content db,
        (importBackup library getHostId content db).1 = false →
          (importBackup library getHostId content db).2 = db := by
  intro h
  have hsame := h (readsAs brokenText brokenBackup) firstHostId isHostId_firstHostId brokenText
    emptyDatabase importBackup_brokenText.1
  have hrows := importBackup_brokenText.2
  rw [hsame] at hrows
  cases hrows

/-! ### The user items of a host -/

/-- The identifiers of the user items of a host, in the order of the table. -/
def hostIds (db : Database) (host : String) : List ℤ :=
  (db.hostsLists.rows.filter fun i => i.host = host ∧ i.sourceId = userSourceId).map HostListItem.id

/-- `getHostId` picks a fixed one of the user items of a host: it answers alike while they are the
same. -/
def PicksFixed (getHostId : Database → String → Option ℤ) : Prop :=
  ∀ db db' host, hostIds db host = hostIds db' host → getHostId db host = getHostId db' host

theorem picksFixed_firstHostId : PicksFixed firstHostId := by
  have hhead : ∀ db host, firstHostId db host = (hostIds db host).head? := by
    intro db host
    rw [hostIds, List.head?_map, List.head?_filter, firstHostId]
  intro db db' host hids
  rw [hhead, hhead, hids]

/-- Writing over a user item of the host keeps the identifiers of every host. -/
theorem hostIds_updateItem {db : Database} {item : HostListItem} {id : ℤ}
    (hid : IsHostId db item.host (some id)) (huser : item.sourceId = userSourceId) (host : String) :
    hostIds (updateItem { item with id := id } db) host = hostIds db host := by
  obtain ⟨j, hj, rfl, hjhost, hjuser⟩ := hid
  refine db.hostsLists.map_key_filter_updateWhere (fun i => i.id = j.id) _
    (fun i => { item with id := i.id }) (fun _ => rfl) fun i hi hij => ?_
  obtain rfl := eq_of_id_eq hi hj (of_decide_eq_true hij)
  show decide (item.host = host ∧ item.sourceId = userSourceId)
    = decide (i.host = host ∧ i.sourceId = userSourceId)
  rw [hjhost, huser, hjuser]

theorem hostIds_insertItem {db : Database} {item : HostListItem} {host : String}
    (hhost : item.host ≠ host) : hostIds (insertItem item db) host = hostIds db host := by
  show ((db.hostsLists.rows ++ [_]).filter _).map _ = _
  rw [List.filter_append, List.filter_singleton]
  simp [hhost, hostIds]

/-! ### One write -/

/-- The write is of a source or of an item of the user. -/
def BackupWrite.OfUser : BackupWrite → Prop
  | .source _ => True
  | .item i => i.sourceId = userSourceId

/-- What a write does to a row, where the answers of `getHostId` stay the same. -/
def BackupWrite.overwrite (hostId : String → Option ℤ) (row : HostListItem) :
    BackupWrite → HostListItem
  | .source _ => row
  | .item i => if hostId i.host = some row.id then { i with id := row.id } else row

theorem BackupWrite.id_overwrite (hostId : String → Option ℤ) (row : HostListItem)
    (write : BackupWrite) :
    (write.overwrite hostId row).id = row.id := by
  cases write with
  | source source => rfl
  | item item =>
    rw [overwrite]
    split <;> rfl

theorem id_foldl_overwrite (hostId : String → Option ℤ) (row : HostListItem)
    (writes : List BackupWrite) :
    (writes.foldl (BackupWrite.overwrite hostId) row).id = row.id := by
  induction writes generalizing row with
  | nil => rfl
  | cons write writes ih => rw [List.foldl_cons, ih, write.id_overwrite]

/-- Only the answers for the hosts that are written matter. -/
theorem foldl_overwrite_congr {hostId hostId' : String → Option ℤ} {row : HostListItem}
    {writes : List BackupWrite}
    (hcongr : ∀ item, .item item ∈ writes →
      (hostId item.host = some row.id ↔ hostId' item.host = some row.id)) :
    writes.foldl (BackupWrite.overwrite hostId) row
      = writes.foldl (BackupWrite.overwrite hostId') row := by
  induction writes generalizing row with
  | nil => rfl
  | cons write writes ih =>
    have hhead : write.overwrite hostId row = write.overwrite hostId' row := by
      cases write with
      | source source => rfl
      | item item =>
        rw [BackupWrite.overwrite, BackupWrite.overwrite]
        exact if_congr (hcongr item List.mem_cons_self) rfl rfl
    rw [List.foldl_cons, List.foldl_cons, hhead]
    refine ih fun item hitem => ?_
    rw [write.id_overwrite]
    exact hcongr item (List.mem_cons_of_mem write hitem)

/-- The write would not add a row. -/
def BackupWrite.Present (getHostId : Database → String → Option ℤ) (db : Database) :
    BackupWrite → Prop
  | .source s => ∃ r ∈ db.hostsSources.rows, r.url = s.url
  | .item i => (getHostId db i.host).isSome

section Writes

variable {getHostId : Database → String → Option ℤ}
  (h : ∀ db host, IsHostId db host (getHostId db host)) (hfixed : PicksFixed getHostId)

include h hfixed

/-- A write keeps the answer for a host, unless it writes the first user item of it. -/
theorem getHostId_exec {db : Database} {write : BackupWrite} (huser : write.OfUser) {host : String}
    (hhost : (getHostId db host).isSome ∨ ∀ item, write = .item item → item.host ≠ host) :
    getHostId (write.exec getHostId db) host = getHostId db host := by
  refine hfixed _ _ _ ?_
  cases write with
  | source source => rw [hostIds, hostsLists_exec_source, hostIds]
  | item item =>
    show hostIds (storeItem (getHostId db item.host) item db) host = _
    have hid := h db item.host
    cases hget : getHostId db item.host with
    | some id =>
      rw [hget] at hid
      exact hostIds_updateItem hid huser host
    | none =>
      refine hostIds_insertItem fun heq => ?_
      rcases hhost with hsome | hne
      · rw [← heq, hget] at hsome
        cases hsome
      · exact hne item rfl heq

/-- Where an item is written: at the identifier that `getHostId` answers from then on. -/
theorem exists_row_exec (db : Database) {item : HostListItem}
    (huser : (BackupWrite.item item).OfUser) :
    ∃ id, getHostId (BackupWrite.exec getHostId db (.item item)) item.host = some id ∧
      (∀ old, getHostId db item.host = some old → old = id) ∧
      ∀ i ∈ (BackupWrite.exec getHostId db (.item item)).hostsLists.rows,
        (i.id = id ∧ i = { item with id := id }) ∨ (i.id ≠ id ∧ i ∈ db.hostsLists.rows) := by
  have hid := h db item.host
  cases hget : getHostId db item.host with
  | some id =>
    refine ⟨id, ?_, fun old hold => (Option.some.inj hold).symm, fun i hi => ?_⟩
    · have hkept : getHostId (BackupWrite.exec getHostId db (.item item)) item.host
          = getHostId db item.host := getHostId_exec h hfixed huser (Or.inl (by rw [hget]; rfl))
      rw [hkept, hget]
    · change i ∈ (storeItem (getHostId db item.host) item db).hostsLists.rows at hi
      rw [hget] at hi
      rcases mem_rows_updateItem.mp hi with ⟨hi, hne⟩ | ⟨rfl, -⟩
      · exact Or.inr ⟨hne, hi⟩
      · exact Or.inl ⟨rfl, rfl⟩
  | none =>
    rw [hget] at hid
    have hexec : BackupWrite.exec getHostId db (.item item) = insertItem item db := by
      show storeItem (getHostId db item.host) item db = _
      rw [hget]
      rfl
    rw [hexec]
    have hnew := h (insertItem item db) item.host
    refine ⟨db.hostsLists.sequence + 1, ?_, nofun, fun i hi => ?_⟩
    · -- the new row is the only one of the host
      cases hafter : getHostId (insertItem item db) item.host with
      | none =>
        rw [hafter] at hnew
        exact absurd ⟨rfl, huser⟩ (hnew _ (mem_rows_insertItem.mpr (Or.inr rfl)))
      | some id =>
        rw [hafter] at hnew
        obtain ⟨i, hi, rfl, hhost, hsource⟩ := hnew
        rcases mem_rows_insertItem.mp hi with hi | rfl
        · exact absurd ⟨hhost, hsource⟩ (hid i hi)
        · rfl
    · rcases mem_rows_insertItem.mp hi with hi | rfl
      · have hle := db.hostsLists.key_le i hi
        exact Or.inr ⟨by omega, hi⟩
      · exact Or.inl ⟨rfl, rfl⟩

/-! ### Writing once more -/

theorem present_exec {db : Database} {write : BackupWrite} (huser : write.OfUser) :
    write.Present getHostId (write.exec getHostId db) := by
  cases write with
  | source source =>
    show ∃ r ∈ (insertSource source db).hostsSources.rows, r.url = source.url
    rw [insertSource]
    split
    next hany =>
      obtain ⟨r, hr, hurl⟩ := List.any_eq_true.mp hany
      exact ⟨r, hr, of_decide_eq_true hurl⟩
    next => exact ⟨_, List.mem_append_right _ (List.mem_singleton.mpr rfl), rfl⟩
  | item item =>
    obtain ⟨id, hid, -⟩ := exists_row_exec h hfixed db huser
    rw [BackupWrite.Present, hid]
    rfl

theorem BackupWrite.Present.exec {db : Database} {write write' : BackupWrite}
    (hpresent : write.Present getHostId db) (huser : write'.OfUser) :
    write.Present getHostId (write'.exec getHostId db) := by
  cases write with
  | source source =>
    obtain ⟨r, hr, hurl⟩ := hpresent
    refine ⟨r, ?_, hurl⟩
    cases write' with
    | source source' => exact mem_rows_insertSource hr
    | item item' => rwa [hostsSources_exec_item]
  | item item =>
    rw [BackupWrite.Present, getHostId_exec h hfixed huser (Or.inl hpresent)]
    exact hpresent

theorem present_foldl {writes : List BackupWrite} (huser : ∀ write ∈ writes, write.OfUser)
    (db : Database) :
    ∀ write ∈ writes, write.Present getHostId (writes.foldl (BackupWrite.exec getHostId) db) := by
  induction writes using List.reverseRecOn with
  | nil => exact List.forall_mem_nil _
  | append_singleton writes last ih =>
    rw [List.forall_mem_append, List.forall_mem_singleton] at huser
    rw [List.foldl_concat, List.forall_mem_append, List.forall_mem_singleton]
    exact ⟨fun write hwrite => (ih huser.1 write hwrite).exec h hfixed huser.2,
      present_exec h hfixed huser.2⟩

/-- After the writes each row is as the last write of its host left it. -/
theorem foldl_overwrite_of_mem {writes : List BackupWrite} (huser : ∀ write ∈ writes, write.OfUser)
    (db : Database) :
    ∀ row ∈ (writes.foldl (BackupWrite.exec getHostId) db).hostsLists.rows,
      writes.foldl
        (BackupWrite.overwrite (getHostId (writes.foldl (BackupWrite.exec getHostId) db))) row
        = row := by
  induction writes using List.reverseRecOn with
  | nil => exact fun row _ => rfl
  | append_singleton writes last ih =>
    rw [List.forall_mem_append, List.forall_mem_singleton] at huser
    rw [List.foldl_concat]
    have hpresent := present_foldl h hfixed huser.1 db
    generalize writes.foldl (BackupWrite.exec getHostId) db = before at ih hpresent ⊢
    intro row hrow
    rw [List.foldl_concat]
    cases last with
    | source source =>
      have hsame : getHostId (BackupWrite.exec getHostId before (.source source))
          = getHostId before := by
        funext host
        exact getHostId_exec h hfixed huser.2 (Or.inr nofun)
      rw [hostsLists_exec_source] at hrow
      rw [hsame]
      exact ih huser.1 row hrow
    | item item =>
      obtain ⟨id, hid, hold, hrows⟩ := exists_row_exec h hfixed before huser.2
      rcases hrows row hrow with ⟨hrowId, rfl⟩ | ⟨hrowId, hmem⟩
      · rw [BackupWrite.overwrite, id_foldl_overwrite, if_pos hid]
      · have hother : ∀ item', .item item' ∈ writes →
            (getHostId (BackupWrite.exec getHostId before (.item item)) item'.host = some row.id ↔
              getHostId before item'.host = some row.id) := by
          intro item' hitem'
          rw [getHostId_exec h hfixed huser.2 (Or.inl (hpresent _ hitem'))]
        rw [foldl_overwrite_congr hother, ih huser.1 row hmem, BackupWrite.overwrite, hid]
        exact if_neg fun heq => hrowId (Option.some.inj heq).symm

omit h hfixed in
theorem exec_eq_of_present {db : Database} {write : BackupWrite}
    (hpresent : write.Present getHostId db) :
    (write.exec getHostId db).hostsSources.rows = db.hostsSources.rows ∧
      (write.exec getHostId db).hostsLists.sequence = db.hostsLists.sequence ∧
      (write.exec getHostId db).hostsLists.rows
        = db.hostsLists.rows.map fun row => write.overwrite (getHostId db) row := by
  cases write with
  | source source =>
    obtain ⟨r, hr, hurl⟩ := hpresent
    have hany : (db.hostsSources.rows.any fun r => r.url = source.url) = true :=
      List.any_eq_true.mpr ⟨r, hr, decide_eq_true hurl⟩
    have hexec : BackupWrite.exec getHostId db (.source source)
        = { db with hostsSources := db.hostsSources.skip } := by
      show insertSource source db = _
      rw [insertSource, if_pos hany]
    rw [hexec]
    exact ⟨rfl, rfl, (List.map_id' _).symm⟩
  | item item =>
    obtain ⟨id, hid⟩ := Option.isSome_iff_exists.mp hpresent
    have hexec :
        BackupWrite.exec getHostId db (.item item) = updateItem { item with id := id } db := by
      show storeItem (getHostId db item.host) item db = _
      rw [hid]
      rfl
    rw [hexec]
    refine ⟨rfl, rfl, List.map_congr_left fun row _ => ?_⟩
    rw [BackupWrite.overwrite, hid]
    by_cases hrow : row.id = id
    · rw [if_pos (by simpa using hrow), if_pos (by rw [hrow])]
    · rw [if_neg (by simpa using hrow), if_neg fun heq => hrow (Option.some.inj heq).symm]

/-- Writes that add no row write over the rows that are there. -/
theorem foldl_exec_of_present {writes : List BackupWrite} (huser : ∀ write ∈ writes, write.OfUser)
    {db : Database} (hpresent : ∀ write ∈ writes, write.Present getHostId db) :
    (writes.foldl (BackupWrite.exec getHostId) db).hostsSources.rows = db.hostsSources.rows ∧
      (writes.foldl (BackupWrite.exec getHostId) db).hostsLists.sequence = db.hostsLists.sequence ∧
      (writes.foldl (BackupWrite.exec getHostId) db).hostsLists.rows
        = db.hostsLists.rows.map fun row =>
          writes.foldl (BackupWrite.overwrite (getHostId db)) row := by
  induction writes generalizing db with
  | nil => exact ⟨rfl, rfl, (List.map_id' _).symm⟩
  | cons write writes ih =>
    rw [List.forall_mem_cons] at huser hpresent
    obtain ⟨hsources, hsequence, hrows⟩ := exec_eq_of_present hpresent.1
    obtain ⟨ihsources, ihsequence, ihrows⟩ :=
      ih huser.2 fun write' hwrite' => (hpresent.2 write' hwrite').exec h hfixed huser.1
    rw [List.foldl_cons]
    refine ⟨ihsources.trans hsources, ihsequence.trans hsequence, ?_⟩
    rw [ihrows, hrows, List.map_map]
    refine List.map_congr_left fun row _ => ?_
    refine foldl_overwrite_congr fun item hitem => ?_
    rw [getHostId_exec h hfixed huser.1 (Or.inl (hpresent.2 _ hitem))]

/-- **Writing the same once more** changes no row. -/
theorem foldl_exec_foldl_exec {writes : List BackupWrite} (huser : ∀ write ∈ writes, write.OfUser)
    (db : Database) :
    let once := writes.foldl (BackupWrite.exec getHostId) db
    let twice := writes.foldl (BackupWrite.exec getHostId) once
    twice.hostsSources.rows = once.hostsSources.rows ∧ twice.hostsLists = once.hostsLists := by
  intro once twice
  obtain ⟨hsources, hsequence, hrows⟩ :=
    foldl_exec_of_present h hfixed huser (present_foldl h hfixed huser db)
  have hkept := foldl_overwrite_of_mem h hfixed huser db
  refine ⟨hsources, SequencedTable.ext_rows ?_ hsequence⟩
  rw [hrows]
  exact (List.map_congr_left hkept).trans (List.map_id' _)

end Writes

/-! ### Importing once more -/

theorem ofUser_importSource (library : JsonLibrary) (source : Json) :
    ∀ write ∈ (importSource library source).log, write.OfUser := by
  refine Journal.forall_log_lift_bind fun sourceObject _ => ?_
  refine Journal.forall_log_lift_bind fun source' _ write hwrite => ?_
  obtain rfl := List.mem_singleton.mp hwrite
  trivial

theorem ofUser_importHost (library : JsonLibrary) (type : ListType) (host : Json) :
    ∀ write ∈ (importHost library type host).log, write.OfUser := by
  refine Journal.forall_log_lift_bind fun hostObject _ => ?_
  refine Journal.forall_log_lift_bind fun item hitem write hwrite => ?_
  obtain rfl := List.mem_singleton.mp hwrite
  exact (hostFromJson_eq_ok hitem).2.2

theorem ofUser_forEach {α : Type} {f : α → Import Unit}
    (hf : ∀ a, ∀ write ∈ (f a).log, write.OfUser)
    (as : List α) : ∀ write ∈ (Journal.forEach f as).log, write.OfUser := by
  intro write hwrite
  obtain ⟨a, -, hmem⟩ := Journal.mem_log_forEach hwrite
  exact hf a write hmem

theorem ofUser_importListBackup (library : JsonLibrary) (type : ListType) (backup : JSONObject)
    (key : String) : ∀ write ∈ (importListBackup library type backup key).log, write.OfUser := by
  refine Journal.forall_log_lift_bind fun hosts _ => ?_
  refine Journal.forall_log_bind (ofUser_forEach (ofUser_importHost library type) hosts) ?_
  exact fun _ _ => List.forall_mem_nil _

/-- An import writes sources and items of the user. -/
theorem ofUser_importBackupObject (library : JsonLibrary) (backup : JSONObject) :
    ∀ write ∈ (importBackupObject library backup).log, write.OfUser := by
  refine Journal.forall_log_lift_bind fun sources _ => ?_
  refine Journal.forall_log_bind
    (ofUser_forEach (ofUser_importSource library) sources) fun _ _ => ?_
  refine Journal.forall_log_bind (ofUser_importListBackup library .blocked backup "blocked") ?_
  intro _ _
  refine Journal.forall_log_bind (ofUser_importListBackup library .allowed backup "allowed") ?_
  exact fun _ _ => ofUser_importListBackup library .redirected backup "redirected"

/-- **Importing the same backup once more** ends like the first import and leaves the rows of both
tables as they are, also when the import fails. Only the next identifier of a source is another one,
as a source that is ignored has taken one. -/
theorem importBackup_importBackup (library : JsonLibrary) {getHostId : Database → String → Option ℤ}
    (h : ∀ db host, IsHostId db host (getHostId db host)) (hfixed : PicksFixed getHostId)
    (content : String) (db : Database) :
    let once := importBackup library getHostId content db
    let twice := importBackup library getHostId content once.2
    twice.1 = once.1 ∧ twice.2.hostsSources.rows = once.2.hostsSources.rows ∧
      twice.2.hostsLists = once.2.hostsLists := by
  dsimp only
  rw [importBackup, importBackup]
  cases library.parse (joinLines content) with
  | none => exact ⟨rfl, rfl, rfl⟩
  | some backup =>
    exact ⟨rfl, foldl_exec_foldl_exec h hfixed (ofUser_importBackupObject library backup) db⟩

/-- A backup that names a host three times. -/
def repeatedBackup : JSONObject :=
  [("sources", .array []),
    ("blocked", .array [.object [("host", .string "ads.example"), ("enabled", .bool true)],
      .object [("host", .string "ads.example"), ("enabled", .bool false)]]),
    ("allowed", .array [.object [("host", .string "ads.example"), ("enabled", .bool true)]]),
    ("redirected", .array [])]

/-- Its text. -/
def repeatedText : String :=
  "\x7b\"sources\":[],\"blocked\":[\x7b\"host\":\"ads.example\",\"enabled\":true\x7d," ++
    "\x7b\"host\":\"ads.example\",\"enabled\":false\x7d]," ++
    "\"allowed\":[\x7b\"host\":\"ads.example\",\"enabled\":true\x7d],\"redirected\":[]\x7d"

theorem importBackup_importBackup_repeated :
    let db := (importBackup (readsAs repeatedText repeatedBackup) firstHostId repeatedText
      emptyDatabase).2
    (importBackup (readsAs repeatedText repeatedBackup) firstHostId repeatedText db).2.hostsLists
        = db.hostsLists ∧
      db.hostsLists.rows = [⟨1, "ads.example", .allowed, true, none, 1⟩] := by
  refine ⟨?_, ?_⟩
  · exact (importBackup_importBackup (readsAs repeatedText repeatedBackup)
      isHostId_firstHostId picksFixed_firstHostId repeatedText emptyDatabase).2.2
  · rw [importBackup_readsAs]
    decide +kernel

end AdAway
