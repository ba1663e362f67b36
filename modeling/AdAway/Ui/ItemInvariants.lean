import AdAway.Db.HostEntrySync
import AdAway.Ui.ListScreens

/-!
# Invariants of the items

What holds of the items after any run of the writers of `ListScreens`, and where one of them breaks
it.

The screens, the loader and the import of a backup each have checks of their own. What the import
does not check, and what the loader and the log screen let pass, is a condition on the steps of a
run here; a backup can break each of the invariants by itself.

## Main definitions

* `Unredirected`, `FitsLike` — a blocked item carries no redirection, and `LIKE` can compare with the
  host of an allowed one
* `UniqueUserHosts` — the user has at most one item for each host
* `Clean` — the characters of a host, and a valid redirection
* `Guava.Lawful` — what is used of the library

## Main results

* `sync_completes` — the rebuild of the entries completes
* `userHosts_unique_iff` — when the user has at most one item for each host
* `items_clean` — the blocked and redirected items are clean
-/

namespace AdAway

open ActionSystem (run)

/-! ### The characters of names and addresses -/

/-- What a domain name may hold of ASCII. -/
def isNameChar (c : Char) : Bool := c.isAlphanum || c ∈ ['-', '_', '.']

/-- What the documentation of the library says of valid names and addresses. -/
structure Guava.Lawful (g : Guava) : Prop where
  domainName : ∀ name, g.isValidDomainName name = true →
    ∀ c ∈ name.toList, c.toNat < 128 → isNameChar c = true
  inetAddress : ∀ ip, g.isInetAddress ip = true →
    ip ≠ "" ∧ ∀ c ∈ ip.toList, isWhitespace c = false ∧ c ≠ '#'

theorem isNameChar_ascii : ∀ n < 128, isNameChar (Char.ofNat n) = true →
    isWhitespace (Char.ofNat n) = false ∧ Char.ofNat n ∉ ['*', '?', '#'] := by
  decide

theorem toNat_of_isNameChar {c : Char} (h : isNameChar c = true) : c.toNat < 128 := by
  rw [isNameChar, Bool.or_eq_true, decide_eq_true_eq] at h
  rcases h with h | h
  · exact (toNat_of_isAlphanum h).2
  · simp only [List.mem_cons, List.not_mem_nil, or_false] at h
    rcases h with rfl | rfl | rfl <;> decide

/-- No character of a name is white space, a wildcard or starts a comment. -/
theorem of_isNameChar {c : Char} (h : isNameChar c = true) :
    isWhitespace c = false ∧ c ∉ ['*', '?', '#'] := by
  have hchar := isNameChar_ascii c.toNat (toNat_of_isNameChar h)
  rw [Char.ofNat_toNat] at hchar
  exact hchar h

theorem isWhitespace_of_isSpace {c : Char} (h : isSpace c = true) : isWhitespace c = true := by
  simp only [isSpace, List.mem_cons, List.not_mem_nil, or_false, decide_eq_true_eq] at h
  rcases h with rfl | rfl | rfl | rfl | rfl | rfl <;> decide

theorem isSpace_of_isWhitespace {c : Char} (h : isWhitespace c = false) : isSpace c = false := by
  rw [← Bool.not_eq_true] at h ⊢
  exact fun hspace => h (isWhitespace_of_isSpace hspace)

/-- The characters of a trimmed text are among those of the text. -/
theorem mem_of_mem_trimWhitespace {s : String} {c : Char} (h : c ∈ (trimWhitespace s).toList) :
    c ∈ s.toList := by
  rw [trimWhitespace, String.toList_ofList, List.mem_reverse] at h
  exact (List.dropWhile_suffix _).subset
    (List.mem_reverse.mp ((List.dropWhile_suffix _).subset h))

/-- A text without white space has nothing to trim. -/
theorem trimWhitespace_eq_self {s : String} (h : ∀ c ∈ s.toList, isWhitespace c = false) :
    trimWhitespace s = s := by
  have hdrop : ∀ cs : List Char, (∀ c ∈ cs, isWhitespace c = false) →
      cs.dropWhile isWhitespace = cs := by
    intro cs hcs
    rw [List.dropWhile_eq_self_iff]
    exact fun hne => by simp [hcs _ (List.getElem_mem hne)]
  rw [trimWhitespace, hdrop _ h, hdrop _ fun c hc => h c (List.mem_reverse.mp hc), List.reverse_reverse,
    String.ofList_toList]

/-! ### What the dialog lets pass -/

theorem HostListDialog.confirm_eq_some {g : Guava} {type : ListType} {hostText redirectionText : String}
    {host : String} {redirection : Option String}
    (h : HostListDialog.confirm g type hostText redirectionText = some (host, redirection)) :
    HostListDialog.isHostValid g type hostText = true ∧ host = trimWhitespace hostText ∧
      (type ≠ .redirected ∧ redirection = none ∨
        type = .redirected ∧ isValidIP g redirectionText = true ∧
          redirection = (some (trimWhitespace redirectionText)).filter (· ≠ "")) := by
  rw [HostListDialog.confirm] at h
  obtain ⟨hvalid, h⟩ := Option.ite_none_right_eq_some.mp h
  rw [Bool.and_eq_true] at hvalid
  obtain ⟨rfl, rfl⟩ := Prod.mk.inj (Option.some.inj h)
  refine ⟨hvalid.1, rfl, ?_⟩
  by_cases htype : type = .redirected
  · exact Or.inr ⟨htype, by simpa [htype] using hvalid.2, by simp [htype]⟩
  · exact Or.inl ⟨htype, by simp [htype]⟩

/-- A host that is not allowed passes the check without wildcards. -/
theorem HostListDialog.isValidHostname_of_confirm {g : Guava} {type : ListType}
    {hostText redirectionText : String} {host : String} {redirection : Option String}
    (h : HostListDialog.confirm g type hostText redirectionText = some (host, redirection))
    (htype : type ≠ .allowed) :
    isValidHostname g hostText = true ∧ ∀ c ∈ host.toList, c ∈ hostText.toList := by
  obtain ⟨hvalid, rfl, -⟩ := HostListDialog.confirm_eq_some h
  refine ⟨?_, fun c => mem_of_mem_trimWhitespace⟩
  cases type with
  | blocked | redirected => exact hvalid
  | allowed => exact absurd rfl htype

/-- A redirection passes as it is. -/
theorem HostListDialog.redirection_of_confirm {g : Guava} (hg : g.Lawful)
    {hostText redirectionText : String} {host : String} {redirection : Option String}
    (h : HostListDialog.confirm g .redirected hostText redirectionText = some (host, redirection)) :
    ∃ ip, redirection = some ip ∧ isValidIP g ip = true := by
  obtain ⟨-, -, ⟨hne, -⟩ | ⟨-, hip, hredirection⟩⟩ := HostListDialog.confirm_eq_some h
  · exact absurd rfl hne
  · obtain ⟨hempty, hspace⟩ := hg.inetAddress redirectionText hip
    rw [trimWhitespace_eq_self fun c hc => (hspace c hc).1] at hredirection
    refine ⟨redirectionText, ?_, hip⟩
    rw [hredirection, Option.filter_eq_some_iff]
    exact ⟨rfl, by simpa using hempty⟩

/-- The log screen redirects to valid addresses. -/
theorem FromScreens.redirection_of_addLogItem {g : Guava} {type : ListType} {host : String}
    {redirection : Option String} (h : FromScreens g (.addLogItem host type redirection))
    (htype : type = .redirected) : ∃ ip, redirection = some ip ∧ isValidIP g ip = true := by
  rcases h with ⟨-, hredirection⟩ | ⟨hne, -⟩
  · exact hredirection
  · exact absurd htype hne

/-! ### The rebuild of the entries -/

/-- A blocked item carries no redirection. -/
def Unredirected (i : HostListItem) : Prop := i.type = .blocked → i.redirection = none

theorem stable_unredirected : Stable Unredirected := fun _ _ _ h htype => h htype

/-- An imported item is unredirected when it is blocked. -/
def ImportsUnredirected : AppAction → Prop
  | .importItem item _ => Unredirected item
  | _ => True

theorem unredirected_of_parseLine {g : Guava} {source : HostsSource} {line : String}
    {item : HostListItem} (h : parseLine g source line = some item) : Unredirected item := by
  intro htype
  obtain ⟨hitem, -⟩ := parseLine_eq_some h
  split at hitem
  next =>
    rw [hitem] at htype
    cases htype
  next =>
    obtain ⟨ip, hostname, -, -, -, -, -, ⟨-, hnone, -⟩ | ⟨hredirected, -⟩⟩ :=
      parseHostListItem_eq_some hitem
    · exact hnone
    · rw [htype] at hredirected
      cases hredirected

theorem unredirected_of_confirm {g : Guava} {type : ListType} {hostText redirectionText : String}
    {host : String} {redirection : Option String} {item : HostListItem}
    (h : HostListDialog.confirm g type hostText redirectionText = some (host, redirection))
    (htype : item.type = type) (hredirection : item.redirection = redirection) :
    Unredirected item := by
  intro hblocked
  obtain ⟨-, -, ⟨-, hnone⟩ | ⟨hredirected, -⟩⟩ := HostListDialog.confirm_eq_some h
  · exact hredirection.trans hnone
  · have := hblocked.symm.trans (htype.trans hredirected)
    cases this

theorem unredirected_of_writes {g : Guava} {a : AppAction} (hscreens : FromScreens g a)
    (hspares : ImportsUnredirected a) {i : HostListItem} (hi : a.Writes g i) : Unredirected i := by
  cases a with
  | load source lines =>
    obtain ⟨line, -, hline⟩ := List.mem_filterMap.mp hi
    exact unredirected_of_parseLine hline
  | addListItem type host redirection id =>
    obtain ⟨hostText, redirectionText, hconfirm⟩ := hscreens
    exact hi ▸ unredirected_of_confirm hconfirm rfl rfl
  | updateListItem item host redirection =>
    obtain ⟨hostText, redirectionText, hconfirm⟩ := hscreens
    exact hi ▸ unredirected_of_confirm hconfirm rfl rfl
  | addLogItem host type redirection =>
    obtain rfl := hi
    intro htype
    rcases hscreens with ⟨hredirected, -⟩ | ⟨-, hnone⟩
    · exact absurd (hredirected.symm.trans htype) nofun
    · exact hnone
  | importItem item id => exact hi ▸ hspares
  | _ => exact hi.elim

/-- `LIKE` can compare with the host, if the item is allowed. -/
def FitsLike (i : HostListItem) : Prop := i.type = .allowed → ¬ TooComplex i.host

instance (i : HostListItem) : Decidable (FitsLike i) := by
  unfold FitsLike; infer_instance

theorem stable_fitsLike : Stable FitsLike := fun _ _ _ h => h

/-- Each allowed item that the action writes fits. -/
def WritesFitting (g : Guava) (a : AppAction) : Prop := ∀ i, a.Writes g i → FitsLike i

/-- Without stray redirections, the import of the blocked hosts meets each host once. -/
theorem nodup_blockedRows {items : List HostListItem} (h : ∀ i ∈ items, Unredirected i) :
    ((blockedRows items).map HostEntry.host).Nodup := by
  refine List.Nodup.map_on ?_ (List.nodup_dedup _)
  intro e he e' he' hhost
  obtain ⟨i, hi, htype, -, rfl⟩ := mem_blockedRows.mp he
  obtain ⟨j, hj, htype', -, rfl⟩ := mem_blockedRows.mp he'
  have hij : i.host = j.host := hhost
  rw [hij, h i hi htype, h j hj htype']

theorem allowedFit_of_fitsLike {items : List HostListItem} (h : ∀ i ∈ items, FitsLike i) :
    AllowedFit items := by
  intro w hw
  obtain ⟨i, hi, rfl⟩ := List.mem_map.mp hw
  obtain ⟨hmem, hstate⟩ := List.mem_filter.mp hi
  rw [decide_eq_true_eq] at hstate
  exact h i hmem hstate.1

/-- **The rebuild of the entries completes** in every state of a run in which no backup brings a
blocked item with a redirection, and no step writes an allowed host of more than 50000 bytes. -/
theorem sync_completes {g : Guava} {labels : SourceLabels} {as : List AppAction} {s : AppState}
    (hrun : run (stepApp g) (installedApp labels) as = some s)
    (hscreens : ∀ a ∈ as, FromScreens g a) (himports : ∀ a ∈ as, ImportsUnredirected a)
    (hfits : ∀ a ∈ as, WritesFitting g a) (q : SyncAnswers s.db.hostsLists.rows)
    (old : HostEntries) : (sync s.db.hostsLists.rows q old).isSome := by
  have hitems : AllItems Unredirected s :=
    (allItems_installedApp Unredirected labels).run stable_unredirected
      (fun a ha _ hi => unredirected_of_writes (hscreens a ha) (himports a ha) hi) hrun
  have hallowed : AllItems FitsLike s :=
    (allItems_installedApp FitsLike labels).run stable_fitsLike hfits hrun
  exact (sync_isSome_iff_of_allowedFit (allowedFit_of_fitsLike hallowed.rows) q old).mpr
    (nodup_blockedRows hitems.rows)

/-- A library that knows the names and the addresses written in ASCII. -/
def asciiGuava : Guava where
  isValidDomainName name := name ≠ "" && name.toList.all isNameChar
  isInetAddress ip := ip ≠ "" && ip.toList.all fun c => c = ':' || isNameChar c

/-- The items after a run from the installation. -/
def itemsAfter (as : List AppAction) : Option (List HostListItem) :=
  (run (stepApp asciiGuava) (installedApp englishLabels) as).map fun s => s.db.hostsLists.rows

theorem exists_run_of_itemsAfter {as : List AppAction} {items : List HostListItem}
    (h : itemsAfter as = some items) :
    ∃ s, run (stepApp asciiGuava) (installedApp englishLabels) as = some s ∧
      s.db.hostsLists.rows = items := Option.map_eq_some_iff.mp h

/-- Every writer writes a blocked host, and the dialog an allowed one. -/
def blockingRun : List AppAction :=
  [.load hostsFileSource ["0.0.0.0 ads.example", "0.0.0.0 trk.example"],
    .addListItem .blocked "ads.example" none none,
    .read ⟨3, "ads.example", .blocked, true, none, 1⟩,
    .updateListItem ⟨3, "ads.example", .blocked, true, none, 1⟩ "trk.example" none,
    .addLogItem "ads.example" .blocked none,
    .importItem ⟨0, "cdn.example", .blocked, true, none, 1⟩ none,
    .addListItem .allowed "trk.*" none none]

/-- The items after this run. -/
def blockedItems : List HostListItem :=
  [⟨1, "ads.example", .blocked, true, none, 2⟩, ⟨2, "trk.example", .blocked, true, none, 2⟩,
    ⟨3, "trk.example", .blocked, true, none, 1⟩, ⟨4, "ads.example", .blocked, true, none, 1⟩,
    ⟨5, "cdn.example", .blocked, true, none, 1⟩, ⟨6, "trk.*", .allowed, true, none, 1⟩]

theorem sync_completes_blocking : ∃ s,
    run (stepApp asciiGuava) (installedApp englishLabels) blockingRun = some s ∧
      s.db.hostsLists.rows = blockedItems ∧
      ∀ (q : SyncAnswers s.db.hostsLists.rows) (old : HostEntries),
        (sync s.db.hostsLists.rows q old).isSome := by
  obtain ⟨s, hs, hitems⟩ := exists_run_of_itemsAfter
    (by decide +kernel : itemsAfter blockingRun = some blockedItems)
  refine ⟨s, hs, hitems, fun q old => sync_completes hs ?_ ?_ ?_ q old⟩
  · simp only [blockingRun, List.forall_mem_cons]
    refine ⟨trivial, ⟨"ads.example", "", by decide⟩, trivial, ⟨"trk.example", "", by decide⟩,
      Or.inr ⟨nofun, rfl⟩, trivial, ⟨"trk.*", "", by decide⟩, List.forall_mem_nil _⟩
  · simp only [blockingRun, List.forall_mem_cons]
    exact ⟨trivial, trivial, trivial, trivial, trivial, fun _ => rfl, trivial,
      List.forall_mem_nil _⟩
  · simp only [blockingRun, List.forall_mem_cons, WritesFitting, AppAction.Writes, forall_eq]
    exact ⟨by decide +kernel, by decide, nofun, by decide, by decide, by decide, by decide,
      List.forall_mem_nil _⟩

/-- A backup blocks a host with a redirection, and a source blocks it without. -/
def twiceBlockedRun : List AppAction :=
  [.importItem ⟨0, "ads.example", .blocked, true, some "10.0.0.1", 1⟩ none,
    .load hostsFileSource ["0.0.0.0 ads.example"]]

/-- The rebuild meets the host twice. -/
theorem not_sync_completes :
    ¬ ∀ (g : Guava) (labels : SourceLabels) (as : List AppAction) (s : AppState),
      run (stepApp g) (installedApp labels) as = some s → (∀ a ∈ as, FromScreens g a) →
      ∀ (q : SyncAnswers s.db.hostsLists.rows) (old : HostEntries),
        (sync s.db.hostsLists.rows q old).isSome := by
  intro h
  obtain ⟨s, hs, hitems⟩ := exists_run_of_itemsAfter
    (by decide +kernel : itemsAfter twiceBlockedRun
      = some [⟨1, "ads.example", .blocked, true, some "10.0.0.1", 1⟩,
          ⟨2, "ads.example", .blocked, true, none, 2⟩])
  have hscreens : ∀ a ∈ twiceBlockedRun, FromScreens asciiGuava a := by
    simp only [twiceBlockedRun, List.forall_mem_cons]
    exact ⟨trivial, trivial, List.forall_mem_nil _⟩
  obtain ⟨hnodup, -⟩ := (sync_isSome_iff (choiceAnswers _ ∅) ∅).mp
    (h asciiGuava englishLabels twiceBlockedRun s hs hscreens (choiceAnswers _ ∅) ∅)
  rw [hitems] at hnodup
  exact absurd hnodup (by decide)

/-! ### One item a host -/

/-- The user has at most one item for each host. -/
def UniqueUserHosts (items : List HostListItem) : Prop :=
  ∀ i ∈ items, ∀ j ∈ items, i.sourceId = userSourceId → j.sourceId = userSourceId →
    i.host = j.host → i = j

instance (items : List HostListItem) : Decidable (UniqueUserHosts items) := by
  unfold UniqueUserHosts; infer_instance

/-- Writing a user item of this host over the row `id`, if there is one, leaves no other one. -/
def FreeButFor (items : List HostListItem) (id : ℤ) (host : String) : Prop :=
  (∃ j ∈ items, j.id = id) →
    ∀ i ∈ items, i.sourceId = userSourceId → i.host = host → i.id = id

instance (items : List HostListItem) (id : ℤ) (host : String) :
    Decidable (FreeButFor items id host) := by
  unfold FreeButFor; infer_instance

/-- What the log screen adds is new, and what a list screen writes back is for a host of its own. -/
def KeepsHostsApart (s : AppState) : AppAction → Prop
  | .addLogItem host _ _ => IsHostId s.db host none
  | .updateListItem item host _ => FreeButFor s.db.hostsLists.rows item.id host
  | .toggleItemEnabled item => FreeButFor s.db.hostsLists.rows item.id item.host
  | _ => True

instance (s : AppState) (a : AppAction) : Decidable (KeepsHostsApart s a) := by
  cases a <;> unfold KeepsHostsApart <;> infer_instance

section UniqueUserHosts

variable {g : Guava} {s t : AppState} {db : Database} {item : HostListItem}

/-- Rows that were there before, perhaps with another flag, add nothing. -/
theorem UniqueUserHosts.of_rows {db' : Database} (h : UniqueUserHosts db.hostsLists.rows)
    (hrows : ∀ i ∈ db'.hostsLists.rows, i.sourceId = userSourceId →
      ∃ j ∈ db.hostsLists.rows, j.sourceId = userSourceId ∧ j.host = i.host ∧ j.id = i.id) :
    UniqueUserHosts db'.hostsLists.rows := by
  intro i hi j hj hiuser hjuser hhost
  obtain ⟨i', hi', hi'user, hi'host, hi'id⟩ := hrows i hi hiuser
  obtain ⟨j', hj', hj'user, hj'host, hj'id⟩ := hrows j hj hjuser
  obtain rfl : i' = j' := h i' hi' j' hj' hi'user hj'user (hi'host.trans (hhost.trans hj'host.symm))
  exact eq_of_id_eq hi hj (hi'id.symm.trans hj'id)

theorem UniqueUserHosts.of_subset {db' : Database} (h : UniqueUserHosts db.hostsLists.rows)
    (hrows : ∀ i ∈ db'.hostsLists.rows, i ∈ db.hostsLists.rows) :
    UniqueUserHosts db'.hostsLists.rows :=
  h.of_rows fun i hi huser => ⟨i, hrows i hi, huser, rfl, rfl⟩

variable (item) in
theorem uniqueUserHosts_insertItem_iff (h : UniqueUserHosts db.hostsLists.rows)
    (huser : item.sourceId = userSourceId) :
    UniqueUserHosts (insertItem item db).hostsLists.rows ↔ IsHostId db item.host none := by
  constructor
  · rintro hnew i hi ⟨hhost, hiuser⟩
    have heq := hnew i (mem_rows_insertItem.mpr (Or.inl hi)) _
      (mem_rows_insertItem.mpr (Or.inr rfl)) hiuser huser hhost
    have hid : i.id = db.hostsLists.sequence + 1 := congrArg HostListItem.id heq
    have := db.hostsLists.key_le i hi
    omega
  · intro hfree i hi j hj hiuser hjuser hhost
    rcases mem_rows_insertItem.mp hi with hold | rfl
    · rcases mem_rows_insertItem.mp hj with hold' | rfl
      · exact h i hold j hold' hiuser hjuser hhost
      · exact absurd ⟨hhost, hiuser⟩ (hfree i hold)
    · rcases mem_rows_insertItem.mp hj with hold' | rfl
      · exact absurd ⟨hhost.symm, hjuser⟩ (hfree j hold')
      · rfl

variable (item) in
theorem uniqueUserHosts_updateItem_iff (h : UniqueUserHosts db.hostsLists.rows)
    (huser : item.sourceId = userSourceId) :
    UniqueUserHosts (updateItem item db).hostsLists.rows ↔
      FreeButFor db.hostsLists.rows item.id item.host := by
  constructor
  · intro hnew hrow i hi hiuser hhost
    by_contra hid
    have heq := hnew i (mem_rows_updateItem.mpr (Or.inl ⟨hi, hid⟩)) item
      (mem_rows_updateItem.mpr (Or.inr ⟨rfl, hrow⟩)) hiuser huser hhost
    exact hid (congrArg HostListItem.id heq)
  · intro hfree i hi j hj hiuser hjuser hhost
    rcases mem_rows_updateItem.mp hi with ⟨hold, hid⟩ | ⟨rfl, hrow⟩
    · rcases mem_rows_updateItem.mp hj with ⟨hold', -⟩ | ⟨rfl, hrow⟩
      · exact h i hold j hold' hiuser hjuser hhost
      · exact absurd (hfree hrow i hold hiuser hhost) hid
    · rcases mem_rows_updateItem.mp hj with ⟨hold', hid⟩ | ⟨rfl, -⟩
      · exact absurd (hfree hrow j hold' hjuser hhost.symm) hid
      · rfl

variable (item) in
/-- Who looks the host up first keeps the hosts apart. -/
theorem UniqueUserHosts.storeItem (h : UniqueUserHosts db.hostsLists.rows) {id : Option ℤ}
    (hid : IsHostId db item.host id) (huser : item.sourceId = userSourceId) :
    UniqueUserHosts (storeItem id item db).hostsLists.rows := by
  cases id with
  | none => exact (uniqueUserHosts_insertItem_iff item h huser).mpr hid
  | some id =>
    refine (uniqueUserHosts_updateItem_iff { item with id := id } h huser).mpr ?_
    obtain ⟨i, hi, rfl, hhost, hiuser⟩ := hid
    intro _ j hj hjuser hjhost
    rw [h j hj i hi hjuser hiuser (hjhost.trans hhost.symm)]

theorem UniqueUserHosts.exec (h : UniqueUserHosts db.hostsLists.rows) {st : Statement}
    (hst : ∀ items, st = .insertItems items → ∀ i ∈ items, i.sourceId ≠ userSourceId) :
    UniqueUserHosts (st.exec db).hostsLists.rows := by
  refine h.of_rows fun i hi huser => ?_
  rcases mem_rows_exec hi with ⟨j, hj, enabled, rfl⟩ | ⟨items, heq, j, hj, n, rfl⟩
  · exact ⟨j, hj, huser, rfl, rfl⟩
  · exact absurd huser (hst items heq j hj)

/-- **A step keeps the hosts apart** exactly when it meets the condition. -/
theorem uniqueUserHosts_step_iff {a : AppAction} (hs : UniqueUserHosts s.db.hostsLists.rows)
    (h : stepApp g s a = some t) : UniqueUserHosts t.db.hostsLists.rows ↔ KeepsHostsApart s a := by
  cases stepApp_eq_some_iff.mp h with
  | statement hinserts =>
    refine iff_of_true (hs.exec fun items heq => ?_) trivial
    exact absurd (heq ▸ trivial) hinserts
  | load huser =>
    refine iff_of_true (hs.exec fun items heq i hi => ?_) trivial
    cases heq
    obtain ⟨line, -, hline⟩ := List.mem_filterMap.mp hi
    rw [(stored_of_parseLine hline).2.1]
    exact huser
  | addSource | importSource =>
    exact iff_of_true (hs.of_subset fun i hi => rows_insertSource _ ▸ hi) trivial
  | deleteSource =>
    exact iff_of_true (hs.of_subset fun i hi => (mem_rows_deleteSource.mp hi).1) trivial
  | toggleItemEnabled heditable =>
    exact uniqueUserHosts_updateItem_iff (HostListItem.withEnabled _ _) hs heditable.2
  | updateListItem heditable =>
    exact uniqueUserHosts_updateItem_iff (HostListItem.edited _ _ _) hs heditable.2
  | addListItem hid => exact iff_of_true (hs.storeItem (newItem _ _ _) hid rfl) trivial
  | importItem huser hid => exact iff_of_true (hs.storeItem _ hid huser) trivial
  | addLogItem => exact uniqueUserHosts_insertItem_iff (newItem _ _ _) hs rfl
  | removeListItem =>
    exact iff_of_true (hs.of_subset fun i hi => (mem_rows_deleteItem.mp hi).1) trivial
  | removeLogItem =>
    exact iff_of_true (hs.of_subset fun i hi => (mem_rows_deleteUserFromHost.mp hi).1) trivial
  | read | clear | importBlocked | allowHost | redirectHost => exact iff_of_true hs trivial

end UniqueUserHosts

/-- **The user has at most one item for each host in every state of a run** exactly when each step
meets the condition. -/
theorem userHosts_unique_iff {g : Guava} {labels : SourceLabels} {as : List AppAction} {s : AppState}
    (hrun : run (stepApp g) (installedApp labels) as = some s) :
    (∀ bs, bs <+: as → ∀ t, run (stepApp g) (installedApp labels) bs = some t →
      UniqueUserHosts t.db.hostsLists.rows) ↔
      ActionSystem.StepsMeet (stepApp g) KeepsHostsApart (installedApp labels) as := by
  refine ActionSystem.stepsMeet_iff_forall_prefix
    (fun _ _ _ hs hstep => uniqueUserHosts_step_iff hs hstep) ?_ hrun
  intro i hi
  simp at hi

/-- All writers of the user items, each for a host of its own. -/
def apartRun : List AppAction :=
  [.addListItem .blocked "ads.example" none none,
    .addLogItem "trk.example" .blocked none,
    .addListItem .allowed "trk.example" none (some 2),
    .read ⟨1, "ads.example", .blocked, true, none, 1⟩,
    .updateListItem ⟨1, "ads.example", .blocked, true, none, 1⟩ "cdn.example" none,
    .importItem ⟨0, "cdn.example", .allowed, true, none, 1⟩ (some 1),
    .removeLogItem "trk.example"]

theorem userHosts_unique_iff_apart : ∃ s,
    run (stepApp asciiGuava) (installedApp englishLabels) apartRun = some s ∧
      ∀ bs, bs <+: apartRun → ∀ t,
        run (stepApp asciiGuava) (installedApp englishLabels) bs = some t →
          UniqueUserHosts t.db.hostsLists.rows := by
  obtain ⟨s, hs, -⟩ := exists_run_of_itemsAfter
    (by decide +kernel : itemsAfter apartRun = some [⟨1, "cdn.example", .allowed, true, none, 1⟩])
  exact ⟨s, hs, (userHosts_unique_iff hs).mpr (by decide +kernel)⟩

/-- The user blocks a host, and then allows it from the log screen. -/
def twiceListedRun : List AppAction :=
  [.addListItem .blocked "ads.example" none none, .addLogItem "ads.example" .allowed none]

theorem not_userHosts_unique :
    ¬ ∀ (g : Guava) (labels : SourceLabels) (as : List AppAction) (s : AppState),
      run (stepApp g) (installedApp labels) as = some s → (∀ a ∈ as, FromScreens g a) →
      UniqueUserHosts s.db.hostsLists.rows := by
  intro h
  obtain ⟨s, hs, hitems⟩ := exists_run_of_itemsAfter
    (by decide +kernel : itemsAfter twiceListedRun
      = some [⟨1, "ads.example", .blocked, true, none, 1⟩,
          ⟨2, "ads.example", .allowed, true, none, 1⟩])
  have hscreens : ∀ a ∈ twiceListedRun, FromScreens asciiGuava a := by
    simp only [twiceListedRun, List.forall_mem_cons]
    exact ⟨⟨"ads.example", "", by decide⟩, Or.inr ⟨nofun, rfl⟩, List.forall_mem_nil _⟩
  have hunique := h asciiGuava englishLabels twiceListedRun s hs hscreens
  rw [hitems] at hunique
  exact absurd hunique (by decide)

/-! ### Clean items -/

/-- What lookups and the hosts file expect of a host. `space` tells what white space is. -/
def CleanHost (space : Char → Bool) (host : List Char) : Prop :=
  ∀ c ∈ host, c ∉ ['*', '?', '#'] ∧ space c = false

/-- What they expect of an item. -/
structure Clean (g : Guava) (space : Char → Bool) (i : HostListItem) : Prop where
  host : i.type ≠ .allowed → CleanHost space i.host.toList
  redirection : i.type = .redirected → ∃ ip, i.redirection = some ip ∧ isValidIP g ip = true

theorem stable_clean (g : Guava) (space : Char → Bool) : Stable (Clean g space) :=
  fun _ _ _ h => ⟨h.host, h.redirection⟩

/-- The host has no white space outside ASCII, which a valid domain name may have. -/
def FreeOfWideSpace (space : Char → Bool) (host : List Char) : Prop :=
  ∀ c ∈ host, 128 ≤ c.toNat → space c = false

/-- The host has no wildcards. -/
def FreeOfWildcards (host : List Char) : Prop := ∀ c ∈ host, isWildcard c = false

instance (space : Char → Bool) (host : List Char) : Decidable (CleanHost space host) :=
  List.decidableBAll (fun c : Char => c ∉ ['*', '?', '#'] ∧ space c = false) host

instance (space : Char → Bool) (host : List Char) : Decidable (FreeOfWideSpace space host) :=
  List.decidableBAll (fun c : Char => 128 ≤ c.toNat → space c = false) host

instance (host : List Char) : Decidable (FreeOfWildcards host) :=
  List.decidableBAll (fun c : Char => isWildcard c = false) host

/-- A line with this address blocks a host, or redirects it to a valid address. -/
def LineLists (g : Guava) (source : HostsSource) (ip : List Char) : Prop :=
  String.ofList ip ∈ [localhostIpv4, bogusIpv4, localhostIpv6] ∨
    LineRedirects source ip ∧ isValidIP g (String.ofList ip) = true

/-- No line that redirects a host has a wildcard in it, and no other text that is written without a
check is unclean. -/
def WritesClean (g : Guava) (space : Char → Bool) : AppAction → Prop
  | .load source lines => source.allowEnabled = false → ∀ line ∈ lines, ∀ ip hostname,
    hostsParser line.toList = some (ip, hostname) → LineLists g source ip →
      (isValidHostname g (String.ofList hostname) = true → FreeOfWideSpace space hostname) ∧
      (LineRedirects source ip → isValidWildcardHostname g (String.ofList hostname) = true →
        FreeOfWildcards hostname)
  | .addListItem type host _ _ => type ≠ .allowed → FreeOfWideSpace space host.toList
  | .updateListItem item host _ => item.type ≠ .allowed → FreeOfWideSpace space host.toList
  | .addLogItem host type _ => type ≠ .allowed → CleanHost space host.toList
  | .importItem item _ => Clean g space item
  | _ => True

section Clean

variable {g : Guava} {space : Char → Bool}

/-- The characters of a valid host are clean. -/
theorem clean_of_isValidHostname (hg : g.Lawful)
    (hspace : ∀ c, c.toNat < 128 → space c = true → isWhitespace c = true) {name : String}
    (hname : isValidHostname g name = true) {host : List Char} (hhost : ∀ c ∈ host, c ∈ name.toList)
    (hwide : FreeOfWideSpace space host) : CleanHost space host := by
  intro c hc
  by_cases hascii : c.toNat < 128
  · obtain ⟨hwhite, hmarks⟩ := of_isNameChar (hg.domainName name hname c (hhost c hc) hascii)
    refine ⟨hmarks, Bool.eq_false_iff.mpr fun htrue => ?_⟩
    rw [hspace c hascii htrue] at hwhite
    cases hwhite
  · refine ⟨fun hmem => hascii ?_, hwide c hc (by omega)⟩
    simp only [List.mem_cons, List.not_mem_nil, or_false] at hmem
    rcases hmem with rfl | rfl | rfl <;> decide

/-- A host without wildcards is valid with wildcards only if it is valid. -/
theorem isValidHostname_of_wildcard {host : String}
    (h : isValidWildcardHostname g host = true) (hfree : FreeOfWildcards host.toList) :
    isValidHostname g host = true := by
  have hcleared : host.toList.filter (fun c => !isWildcard c) = host.toList := by
    rw [List.filter_eq_self]
    exact fun c hc => by simp [hfree c hc]
  have hreplaced : host.toList.map (fun c => if isWildcard c then 'a' else c) = host.toList := by
    refine (List.map_congr_left fun c hc => ?_).trans (List.map_id _)
    rw [hfree c hc]
    rfl
  rw [isValidWildcardHostname, hcleared, hreplaced, String.ofList_toList, Bool.or_self] at h
  exact h

theorem clean_of_confirm (hg : g.Lawful)
    (hspace : ∀ c, c.toNat < 128 → space c = true → isWhitespace c = true)
    {hostText redirectionText : String} {item : HostListItem} {redirection : Option String}
    (h : HostListDialog.confirm g item.type hostText redirectionText = some (item.host, redirection))
    (hredirection : item.redirection = redirection)
    (hwide : item.type ≠ .allowed → FreeOfWideSpace space item.host.toList) : Clean g space item := by
  constructor
  · intro htype
    obtain ⟨hname, hchars⟩ := HostListDialog.isValidHostname_of_confirm h htype
    exact clean_of_isValidHostname hg hspace hname hchars (hwide htype)
  · intro htype
    rw [htype] at h
    rw [hredirection]
    exact HostListDialog.redirection_of_confirm hg h

theorem clean_of_parseLine (hg : g.Lawful)
    (hspace : ∀ c, c.toNat < 128 → space c = true → isWhitespace c = true) {source : HostsSource}
    {lines : List String} (hload : WritesClean g space (.load source lines)) {line : String}
    (hline : line ∈ lines) {item : HostListItem} (h : parseLine g source line = some item) :
    Clean g space item := by
  obtain ⟨hitem, hredirection, hhost⟩ := parseLine_eq_some h
  cases hallow : source.allowEnabled with
  | true =>
    rw [hallow, if_pos rfl] at hitem
    have htype : item.type = .allowed := hitem ▸ rfl
    exact ⟨fun hne => absurd htype hne, fun hred => absurd (htype.symm.trans hred) (by decide)⟩
  | false =>
    rw [hallow, if_neg Bool.false_ne_true] at hitem
    obtain ⟨ip, hostname, hgroups, hname, -, -, -, ⟨htype, -, hip⟩ | ⟨htype, hip, hredirects⟩⟩ :=
      parseHostListItem_eq_some hitem
    · obtain ⟨hwide, -⟩ := hload hallow line hline ip hostname hgroups (Or.inl hip)
      have hvalid := (host_of_parseLine_blocked h htype).1
      refine ⟨fun _ => ?_, fun hred => absurd (htype.symm.trans hred) (by decide)⟩
      refine clean_of_isValidHostname hg hspace hvalid (fun c hc => hc) ?_
      rw [hname] at hvalid ⊢
      rw [String.toList_ofList]
      exact hwide hvalid
    · have hvalid : isValidIP g (String.ofList ip) = true := by
        simpa [isRedirectionValid, htype, hip] using hredirection
      obtain ⟨hwide, hfree⟩ := hload hallow line hline ip hostname hgroups (Or.inr ⟨hredirects, hvalid⟩)
      rw [isHostValid, htype, if_neg (by decide), hname] at hhost
      have hhostname : isValidHostname g (String.ofList hostname) = true := by
        refine isValidHostname_of_wildcard hhost ?_
        rw [String.toList_ofList]
        exact hfree hredirects hhost
      refine ⟨fun _ => ?_, fun _ => ⟨_, hip, hvalid⟩⟩
      refine clean_of_isValidHostname hg hspace hhostname (fun c hc => hname ▸ hc) ?_
      rw [hname, String.toList_ofList]
      exact hwide hhostname

theorem clean_of_writes (hg : g.Lawful)
    (hspace : ∀ c, c.toNat < 128 → space c = true → isWhitespace c = true) {a : AppAction}
    (hscreens : FromScreens g a) (hclean : WritesClean g space a) {i : HostListItem}
    (hi : a.Writes g i) : Clean g space i := by
  cases a with
  | load source lines =>
    obtain ⟨line, hline, hparse⟩ := List.mem_filterMap.mp hi
    exact clean_of_parseLine hg hspace hclean hline hparse
  | addListItem type host redirection id =>
    obtain ⟨hostText, redirectionText, hconfirm⟩ := hscreens
    obtain rfl := hi
    exact clean_of_confirm hg hspace hconfirm rfl hclean
  | updateListItem item host redirection =>
    obtain ⟨hostText, redirectionText, hconfirm⟩ := hscreens
    obtain rfl := hi
    exact clean_of_confirm hg hspace hconfirm rfl hclean
  | addLogItem host type redirection =>
    obtain rfl := hi
    exact ⟨hclean, hscreens.redirection_of_addLogItem⟩
  | importItem item id => exact hi ▸ hclean
  | _ => exact hi.elim

/-- **Every blocked or redirected item is clean** in every state of a run in which the loader meets
no wildcard in a line that redirects, and the log screen and the backups bring clean items. -/
theorem items_clean (hg : g.Lawful)
    (hspace : ∀ c, c.toNat < 128 → space c = true → isWhitespace c = true) {labels : SourceLabels}
    {as : List AppAction} {s : AppState} (hrun : run (stepApp g) (installedApp labels) as = some s)
    (hscreens : ∀ a ∈ as, FromScreens g a) (hclean : ∀ a ∈ as, WritesClean g space a) :
    ∀ i ∈ s.db.hostsLists.rows, Clean g space i :=
  ((allItems_installedApp (Clean g space) labels).run (stable_clean g space)
    (fun a ha _ hi => clean_of_writes hg hspace (hscreens a ha) (hclean a ha) hi) hrun).rows

end Clean

theorem lawful_asciiGuava : asciiGuava.Lawful where
  domainName := by
    intro name hname c hc _
    simp only [asciiGuava, Bool.and_eq_true] at hname
    exact List.all_eq_true.mp hname.2 c hc
  inetAddress := by
    intro ip hip
    simp only [asciiGuava, Bool.and_eq_true, decide_eq_true_eq] at hip
    refine ⟨hip.1, fun c hc => ?_⟩
    have hchar := List.all_eq_true.mp hip.2 c hc
    rw [Bool.or_eq_true, decide_eq_true_eq] at hchar
    rcases hchar with rfl | hname
    · decide
    · have hclean := of_isNameChar hname
      refine ⟨hclean.1, ?_⟩
      rintro rfl
      exact absurd hclean.2 (by decide)

/-- A source that may redirect. -/
def redirectingSource : HostsSource := { hostsFileSource with redirectEnabled := true }

/-- Every writer writes a clean item. -/
def cleanRun : List AppAction :=
  [.load redirectingSource ["10.0.0.1 cdn.example", "0.0.0.0 ads.example"],
    .addListItem .redirected "trk.example" (some "10.0.0.2") none,
    .addLogItem "log.example" .redirected (some "10.0.0.3"),
    .importItem ⟨0, "old.example", .redirected, true, some "10.0.0.4", 1⟩ none]

/-- The items after this run. -/
def cleanItems : List HostListItem :=
  [⟨1, "cdn.example", .redirected, true, some "10.0.0.1", 2⟩,
    ⟨2, "ads.example", .blocked, true, none, 2⟩,
    ⟨3, "trk.example", .redirected, true, some "10.0.0.2", 1⟩,
    ⟨4, "log.example", .redirected, true, some "10.0.0.3", 1⟩,
    ⟨5, "old.example", .redirected, true, some "10.0.0.4", 1⟩]

/-- The groups of a line that matches. -/
theorem groups_eq {line ip hostname ip' hostname' : List Char}
    (h : hostsParser line = some (ip, hostname)) (h' : hostsParser line = some (ip', hostname')) :
    ip' = ip ∧ hostname' = hostname :=
  Prod.mk.inj (Option.some.inj (h'.symm.trans h))

theorem items_clean_everyWriter : ∃ s,
    run (stepApp asciiGuava) (installedApp englishLabels) cleanRun = some s ∧
      s.db.hostsLists.rows = cleanItems ∧
      ∀ i ∈ s.db.hostsLists.rows, Clean asciiGuava isWhitespace i := by
  obtain ⟨s, hs, hitems⟩ := exists_run_of_itemsAfter
    (by decide +kernel : itemsAfter cleanRun = some cleanItems)
  refine ⟨s, hs, hitems, items_clean lawful_asciiGuava (fun _ _ h => h) hs ?_ ?_⟩
  · simp only [cleanRun, List.forall_mem_cons]
    exact ⟨trivial, ⟨"trk.example", "10.0.0.2", by decide⟩, Or.inl ⟨rfl, "10.0.0.3", rfl, by decide⟩,
      trivial, List.forall_mem_nil _⟩
  · have hload : WritesClean asciiGuava isWhitespace
        (.load redirectingSource ["10.0.0.1 cdn.example", "0.0.0.0 ads.example"]) := by
      intro _ line hline ip hostname hgroups
      rcases List.mem_cons.mp hline with rfl | hline
      · obtain ⟨rfl, rfl⟩ := groups_eq (by decide +kernel :
          hostsParser _ = some ("10.0.0.1".toList, "cdn.example".toList)) hgroups
        exact fun _ => ⟨fun _ => by decide, fun _ _ => by decide⟩
      · obtain rfl := List.mem_singleton.mp hline
        obtain ⟨rfl, rfl⟩ := groups_eq (by decide +kernel :
          hostsParser _ = some ("0.0.0.0".toList, "ads.example".toList)) hgroups
        exact fun _ => ⟨fun _ => by decide, fun _ _ => by decide⟩
    simp only [cleanRun, List.forall_mem_cons]
    refine ⟨hload, fun _ => by decide, fun _ => by decide, ?_, List.forall_mem_nil _⟩
    exact ⟨fun _ => by decide, fun _ => ⟨"10.0.0.4", rfl, by decide⟩⟩

/-- A source redirects a host with a wildcard. -/
def wildcardRun : List AppAction := [.load redirectingSource ["10.0.0.1 *.example"]]

theorem not_items_clean :
    ¬ ∀ g : Guava, g.Lawful → ∀ (labels : SourceLabels) (as : List AppAction) (s : AppState),
      run (stepApp g) (installedApp labels) as = some s → (∀ a ∈ as, FromScreens g a) →
      ∀ i ∈ s.db.hostsLists.rows, Clean g isSpace i := by
  intro h
  obtain ⟨s, hs, hitems⟩ := exists_run_of_itemsAfter
    (by decide +kernel : itemsAfter wildcardRun
      = some [⟨1, "*.example", .redirected, true, some "10.0.0.1", 2⟩])
  have hscreens : ∀ a ∈ wildcardRun, FromScreens asciiGuava a := by
    simp only [wildcardRun, List.forall_mem_cons]
    exact ⟨trivial, List.forall_mem_nil _⟩
  have hclean := h asciiGuava lawful_asciiGuava englishLabels wildcardRun s hs hscreens
  rw [hitems] at hclean
  have hhost := (hclean _ (List.mem_singleton.mpr rfl)).host nofun
  exact absurd (hhost '*' (by decide)).1 (by decide)

end AdAway
