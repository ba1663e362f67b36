import AdAway.Source.SourceModel

/-!
# The validators of a source

A source of type URL is downloaded with the entity tag and the online modification date stored for
it. A "not modified" response is right only if the items of the source are those of the page served,
but the validators are not tied to the items: a check stores the date of a page that nobody has
loaded, a response without `ETag` leaves the tag of an earlier page in place, and a body that breaks
while it is read leaves the validators of the page with the items of a part of it (the entity tag
alone, if closing the body fails as well).

The system below runs inserting, checking, retrieving and toggling over a web that changes, in any
order. `not_modified_loaded` says when every "not modified" that is accepted is right.

## Main definitions

* `World`, `WorldAction`, `stepWorld` — the system
* `Loaded` — the items of a source are those of a page
* `AcceptsNotModified` — a copy accepts a "not modified"
* `CheckedSafely`, `ReadsSafely` — a check, or a download, that leaves no misleading validators
* `Distinguished` — the condition on the steps

## Main results

* `Sound.step` — what the condition preserves
* `not_modified_loaded` — an accepted "not modified" is right
-/

namespace AdAway

/-! ### The system -/

/-- The tables and the web. -/
structure World where
  db : Database
  /-- What each address leads to. -/
  web : String → Site

/-- What may happen next. The answers of the list queries, the reading of the clock and the batches
of the loader are those of the step. -/
inductive WorldAction (g : Guava)
  /-- A source is added, or imported. -/
  | insertSource (label url : String) (enabled allowEnabled redirectEnabled : Bool)
  | checkForUpdate (zone : ZoneRules) (offline : Bool) (now : ZonedDateTime)
      (sources : List HostsSource)
  | retrieveHostsSources (loads : Loads g) (offline : Bool) (now : ZonedDateTime)
      (sources : List HostsSource)
  | toggleEnabled (source : HostsSource)
  /-- An address leads somewhere else. -/
  | serve (url : String) (site : Site)

variable {g : Guava}

/-- One step. -/
def stepWorld (w : World) : WorldAction g → Option World
  | .insertSource label url enabled allowEnabled redirectEnabled =>
    some { w with db := insertSource (newSource label url enabled allowEnabled redirectEnabled) w.db }
  | .checkForUpdate zone offline now sources =>
    if IsEnabledAnswer w.db sources then
      some { w with db := execAll w.db (checkForUpdate zone offline now w.web sources).2 }
    else none
  | .retrieveHostsSources loads offline now sources =>
    if IsAnswer w.db sources then
      some { w with db := execAll w.db (retrieveHostsSources loads offline now w.web sources).2 }
    else none
  | .toggleEnabled source => some { w with db := execAll w.db (toggleEnabled source) }
  | .serve url site => some { w with web := Function.update w.web url site }

/-! ### What should hold -/

/-- The items of the source are those of the page, switched on or off like the source. -/
def Loaded (g : Guava) (db : Database) (source : HostsSource) (page : Page) : Prop :=
  (db.sourceItems source.id).Perm
    ((page.body.filterMap (parseLine g source)).map fun i => i.withEnabled source.enabled)

/-- Retrieving skips the source, whatever the time. -/
def Skips (site : Site) (source : HostsSource) : Prop :=
  ∃ d, getHostsSourceLastUpdate site source = some d ∧
    (source.localModificationDate.any fun l => l.isAfter d) = true

theorem not_skips_of_not_skipped {now : ZonedDateTime} {site : Site} {source : HostsSource}
    (hnot : (source.localModificationDate.any fun d => d.isAfter (onlineDate now site source))
      = false) : ¬ Skips site source := by
  rintro ⟨d, hd, hlocal⟩
  rw [onlineDate, hd, Option.getD_some, hlocal] at hnot
  cases hnot

/-- The date that a check stores with the page, if it stores one. -/
def recordedDate (site : Site) (source : HostsSource) (page : Page) : Option ZonedDateTime :=
  if isHostedOnGit source.url then site.lastUpdate else page.lastModified.map fromTimestamp

/-- A check of the source does not store a date that matches the page without an entity tag, unless
the items are those of the page or retrieving skips the source. -/
def CheckedSafely (g : Guava) (db : Database) (site : Site) (s : HostsSource) : Prop :=
  s.getType = .url → s.entityTag = none → ∀ page, site.page = some page →
    ∀ modified, page.lastModified = some modified →
      ∀ d, recordedDate site s page = some d → modified ≤ toTimestamp d →
        Loaded g db s page ∨ (s.localModificationDate.any fun l => l.isAfter d) = true

/-- The copy of the source downloads the page. -/
structure Downloads (now : ZonedDateTime) (site : Site) (source : HostsSource) (page : Page) :
    Prop where
  enabled : source.enabled = true
  type_eq : source.getType = .url
  not_skipped :
    (source.localModificationDate.any fun d => d.isAfter (onlineDate now site source)) = false
  page_eq : site.page = some page
  modified : notModified (getRequestFor source) page = false

/-- The source with the validators that downloading the page leaves. -/
def downloaded (now : ZonedDateTime) (site : Site) (source : HostsSource) (page : Page) :
    HostsSource :=
  let online := onlineDate now site source
  { source with
    entityTag := (page.entityTag.map dropWeakPrefix).or source.entityTag
    localModificationDate :=
      if site.closeFails then source.localModificationDate
      else some (if online.isAfter now then online else now).stored
    onlineModificationDate :=
      if site.closeFails then source.onlineModificationDate else some online.stored }

/-- A download of the source does not leave validators that match the page, unless what it delivers
parses to the items of the whole page or retrieving skips the source from then on. -/
def ReadsSafely (g : Guava) (now : ZonedDateTime) (site : Site) (s : HostsSource) : Prop :=
  ∀ page, Downloads now site s page →
    notModified (getRequestFor (downloaded now site s page)) page = true →
      ((site.delivered page).filterMap (parseLine g s)).Perm (page.body.filterMap (parseLine g s)) ∨
        Skips site (downloaded now site s page)

/-- The condition on a step. A newly served page does not match the validators stored for a source,
unless its items are those of the page or retrieving skips it; and checks and downloads are safe. -/
def Distinguished (w : World) : WorldAction g → Prop
  | .serve url site =>
    ∀ source ∈ w.db.hostsSources.rows, source.url = url → source.getType = .url →
      ∀ page, site.page = some page → notModified (getRequestFor source) page = true →
        Loaded g w.db source page ∨ Skips site source
  | .checkForUpdate _ offline _ sources =>
    offline = false → ∀ source ∈ sources, CheckedSafely g w.db (w.web source.url) source
  | .retrieveHostsSources _ offline now sources =>
    offline = false → ∀ source ∈ sources, ReadsSafely g now (w.web source.url) source
  | .insertSource .. | .toggleEnabled _ => True

/-- A "not modified" for the source would be right, or retrieving skips it. -/
def SoundFor (g : Guava) (db : Database) (site : Site) (source : HostsSource) : Prop :=
  source.getType = .url → ∀ page, site.page = some page →
    notModified (getRequestFor source) page = true → Loaded g db source page ∨ Skips site source

/-- A "not modified" would be right for every source that retrieving does not skip. -/
def Sound (g : Guava) (w : World) : Prop :=
  ∀ k source, w.db.source k = some source → SoundFor g w.db (w.web source.url) source

/-! ### What the condition preserves -/

theorem parseLine_congr {s s' : HostsSource} (h : SameSettings s s') :
    parseLine g s' = parseLine g s := by
  cases s
  cases s'
  obtain ⟨hid, hurl, henabled, hallow, hredirect⟩ := h
  dsimp only at hid hallow hredirect
  subst hid hallow hredirect
  rfl

theorem Loaded.congr {db db' : Database} {s s' : HostsSource} {page : Page}
    (h : Loaded g db s page) (hsettings : SameSettings s s')
    (hitems : db'.sourceItems s.id = db.sourceItems s.id) : Loaded g db' s' page := by
  rw [Loaded, hsettings.id_eq, hitems, parseLine_congr hsettings, hsettings.enabled_eq]
  exact h

theorem SameSettings.refl (s : HostsSource) : SameSettings s s := ⟨rfl, rfl, rfl, rfl, rfl⟩

/-- Without validators the server never answers "not modified". -/
theorem notModified_eq_false {source : HostsSource} (htag : source.entityTag = none)
    (honline : source.onlineModificationDate = none) (page : Page) :
    notModified (getRequestFor source) page = false := by
  rw [getRequestFor, htag, honline]
  rfl

theorem SoundFor.congr {db db' : Database} {site : Site} {s : HostsSource} (h : SoundFor g db site s)
    (hitems : db'.sourceItems s.id = db.sourceItems s.id) : SoundFor g db' site s :=
  fun htype page hpage hmatch =>
    (h htype page hpage hmatch).imp (fun hl => hl.congr (.refl s) hitems) id

theorem soundFor_of_noValidators {db : Database} {site : Site} {s : HostsSource}
    (htag : s.entityTag = none) (honline : s.onlineModificationDate = none) :
    SoundFor g db site s := by
  intro _ page _ hmatch
  rw [notModified_eq_false htag honline] at hmatch
  cases hmatch

theorem Sound.insertSource {w : World} (hw : Sound g w)
    (label url : String) (enabled allowEnabled redirectEnabled : Bool) :
    Sound g { w with
      db := AdAway.insertSource (newSource label url enabled allowEnabled redirectEnabled) w.db } := by
  rw [AdAway.insertSource]
  split
  next => exact hw
  next =>
    intro k source hsource
    change (SequencedTable.insert _ _ _).find? k = some source at hsource
    rw [SequencedTable.find?_insert] at hsource
    split at hsource
    next =>
      obtain rfl := Option.some.inj hsource
      exact soundFor_of_noValidators rfl rfl
    next => exact (hw k source hsource).congr rfl

theorem Sound.toggleEnabled {w : World} (hw : Sound g w) (toggled : HostsSource) :
    Sound g { w with db := execAll w.db (AdAway.toggleEnabled toggled) } := by
  intro k source hsource htype page hpage hmatch
  obtain ⟨hrow, hitems⟩ := execAll_toggleEnabled w.db toggled k
  change (execAll w.db (AdAway.toggleEnabled toggled)).source k = some source at hsource
  rw [hrow] at hsource
  obtain ⟨s, hs, htoggled⟩ := Option.map_eq_some_iff.mp hsource
  obtain rfl := id_of_source hs
  split at htoggled
  next hid =>
    obtain rfl := htoggled
    rw [if_pos hid.symm] at hitems
    refine (hw s.id s hs htype page hpage hmatch).imp (fun h => ?_) id
    rw [Loaded] at h ⊢
    have hflag := h.map fun i => i.withEnabled !toggled.enabled
    rw [List.map_map] at hflag
    exact hitems ▸ hflag
  next hid =>
    obtain rfl := htoggled
    rw [if_neg fun h => hid h.symm] at hitems
    exact (hw s.id s hs).congr hitems htype page hpage hmatch

theorem Sound.serve {w : World} (hw : Sound g w) {url : String} {site : Site}
    (hok : Distinguished (g := g) w (.serve url site)) :
    Sound g { w with web := Function.update w.web url site } := by
  intro k source hsource htype page hpage hmatch
  change (Function.update w.web url site source.url).page = some page at hpage
  show _ ∨ Skips (Function.update w.web url site source.url) source
  rcases eq_or_ne source.url url with heq | hne
  · subst heq
    rw [Function.update_self] at hpage ⊢
    have hmem : source ∈ w.db.hostsSources.rows := (KeyedTable.find?_eq_some_iff.mp hsource).1
    exact hok source hmem rfl htype page hpage hmatch
  · rw [Function.update_of_ne hne] at hpage ⊢
    exact hw k source hsource htype page hpage hmatch

/-! ### Retrieving -/

theorem getType_congr {s s' : HostsSource} (h : s'.url = s.url) : s'.getType = s.getType := by
  rw [HostsSource.getType, HostsSource.getType, h]

/-- Skipping looks at the address and the validators only. -/
theorem Skips.congr {site : Site} {s s' : HostsSource} (h : Skips site s) (hurl : s'.url = s.url)
    (htag : s'.entityTag = s.entityTag)
    (hlocal : s'.localModificationDate = s.localModificationDate)
    (honline : s'.onlineModificationDate = s.onlineModificationDate) : Skips site s' := by
  cases s
  cases s'
  dsimp only at hurl htag hlocal honline
  subst hurl htag hlocal honline
  exact h

/-- The copy of a URL source whose page can be read is skipped, accepts a "not modified", or loads
what is delivered of the page. -/
theorem copySource_cases (loads : Loads g) (now : ZonedDateTime) {site : Site} {s : HostsSource}
    (htype : s.getType = .url) {page : Page} (hpage : site.page = some page) :
    copySource loads now site s = .skipped ∨
      (s.localModificationDate.any fun d => d.isAfter (onlineDate now site s)) = false ∧
        (notModified (getRequestFor s) page = true ∧
            copySource loads now site s = site.ends none none ∨
          notModified (getRequestFor s) page = false ∧
            copySource loads now site s = site.ends (page.entityTag.map dropWeakPrefix)
              (some (loads s (site.delivered page)).batches)) := by
  rw [copySource]
  split
  next => exact Or.inl rfl
  next hnot =>
    refine Or.inr ⟨Bool.eq_false_iff.mpr hnot, ?_⟩
    rw [htype]
    show _ ∧ downloadHostSource loads site s = _ ∨ _ ∧ downloadHostSource loads site s = _
    rw [downloadHostSource, hpage]
    dsimp only
    split
    next hmatch => exact Or.inl ⟨hmatch, rfl⟩
    next hmatch => exact Or.inr ⟨Bool.eq_false_iff.mpr hmatch, rfl⟩

/-- The parsed items are switched on, as those of an enabled source. -/
theorem map_withEnabled_parse {s : HostsSource} (henabled : s.enabled = true) (lines : List String) :
    (lines.filterMap (parseLine g s)).map (fun i => i.withEnabled s.enabled)
      = lines.filterMap (parseLine g s) := by
  refine (List.map_congr_left fun i hi => ?_).trans (List.map_id' _)
  obtain ⟨line, -, hline⟩ := List.mem_filterMap.mp hi
  rw [henabled, HostListItem.withEnabled, ← (stored_of_parseLine hline).1]

/-- The items of lines that have just been loaded into an enabled source, and parse like the page. -/
theorem loaded_of_sourceItems {db : Database} {s : HostsSource} {page : Page} {lines : List String}
    (load : SourceLoad g s lines) (henabled : s.enabled = true)
    (hparse : (lines.filterMap (parseLine g s)).Perm (page.body.filterMap (parseLine g s)))
    (hitems : db.sourceItems s.id = ofSource s.id load.batches.flatten) : Loaded g db s page := by
  rw [Loaded, map_withEnabled_parse henabled, hitems, load.ofSource_flatten]
  exact load.perm.trans hparse

/-- **One turn of the loop** leaves a source without validators, or with the items of the page, or
as it was, if it reads safely. -/
theorem soundFor_retrieveSource {db : Database} {site : Site} {s s' : HostsSource}
    (loads : Loads g) (now : ZonedDateTime) (hs : db.source s.id = some s)
    (hsound : SoundFor g db site s) (hreads : ReadsSafely g now site s)
    (hs' : (execAll db (retrieveSource now (onlineDate now site s) s
      (copySource loads now site s))).source s.id = some s') :
    SameSettings s s' ∧ SoundFor g (execAll db (retrieveSource now (onlineDate now site s) s
      (copySource loads now site s))) site s' := by
  rw [retrieveSource] at hs' ⊢
  split at hs'
  next henabled =>
    rw [if_pos henabled]
    obtain ⟨s₁, hs₁, hsettings⟩ :=
      Copy.sameSettings hs now (onlineDate now site s) (copySource loads now site s)
    obtain rfl : s₁ = s' := Option.some.inj (hs₁.symm.trans hs')
    refine ⟨hsettings, fun htype page hpage hmatch => ?_⟩
    rw [getType_congr hsettings.url_eq] at htype
    rcases copySource_cases loads now htype hpage with
      hcopy | ⟨hnot, ⟨hold, hcopy⟩ | ⟨hmodified, hcopy⟩⟩
    · rw [hcopy] at hs' ⊢
      obtain rfl : s = s₁ := Option.some.inj (hs.symm.trans hs')
      exact hsound htype page hpage hmatch
    · rw [hcopy] at hs' ⊢
      obtain ⟨-, -, -, -, -, -, hitems⟩ :=
        site.execAll_ends hs now (onlineDate now site s) none none
      exact Or.inl (((hsound htype page hpage hold).resolve_right
        (not_skips_of_not_skipped hnot)).congr hsettings hitems)
    · rw [hcopy] at hs' ⊢
      obtain ⟨s₂, hs₂, -, htag, hlocal, honline, hitems⟩ :=
        site.execAll_ends hs now (onlineDate now site s) (page.entityTag.map dropWeakPrefix)
          (some (loads s (site.delivered page)).batches)
      obtain rfl : s₂ = s₁ := Option.some.inj (hs₂.symm.trans hs')
      -- the row has the validators of `downloaded`
      have hrequest : getRequestFor s₂ = getRequestFor (downloaded now site s page) := by
        rw [getRequestFor, getRequestFor, htag, honline]
        rfl
      rw [hrequest] at hmatch
      refine (hreads page ⟨henabled, htype, hnot, hpage, hmodified⟩ hmatch).imp
        (fun hparse => ?_) fun hskips => hskips.congr hsettings.url_eq htag hlocal honline
      have hloaded := loaded_of_sourceItems (loads s (site.delivered page)) henabled hparse hitems
      exact hloaded.congr hsettings rfl
  next henabled =>
    rw [if_neg henabled]
    rw [execAll_cons, execAll_cons, execAll_nil, Statement.source_exec, Statement.source_exec, hs]
      at hs'
    simp only [Option.map_some, Statement.onSource, id_eq, if_true, Option.some.injEq] at hs'
    subst hs'
    exact ⟨⟨rfl, rfl, rfl, rfl, rfl⟩, soundFor_of_noValidators rfl rfl⟩

/-- Statements that come in one block for each source keep the system sound, if each block keeps its
source so. -/
theorem Sound.blocks {w : World} (hw : Sound g w) {block : HostsSource → List Statement}
    (hblock : ∀ s, ∀ st ∈ block s, st.About s.id) {sources : List HostsSource}
    (hnodup : (sources.map HostsSource.id).Nodup)
    (hturn : ∀ s ∈ sources, ∀ db source, SameSource s.id w.db db →
      (execAll db (block s)).source s.id = some source →
      SameSettings s source ∧ SoundFor g (execAll db (block s)) (w.web s.url) source) :
    Sound g { w with db := execAll w.db (sources.flatMap block) } := by
  intro k source hsource
  change (execAll w.db (sources.flatMap block)).source k = some source at hsource
  by_cases hk : ∃ s ∈ sources, s.id = k
  · obtain ⟨s, hs, rfl⟩ := hk
    obtain ⟨db, hbefore, hafter⟩ := exists_sameSource_block hblock hnodup hs w.db
    obtain ⟨hsettings, hsound⟩ :=
      hturn s hs db source hbefore (hafter.source.symm.trans hsource)
    rw [hsettings.url_eq]
    exact hsound.congr (hsettings.id_eq ▸ hafter.items)
  · obtain ⟨hrow, hitems⟩ :=
      sameSource_execAll_flatMap hblock (fun s hs heq => hk ⟨s, hs, heq⟩) w.db
    obtain rfl := id_of_source hsource
    exact (hw source.id source (hrow ▸ hsource)).congr hitems

/-- Retrieving keeps the system sound, if it reads safely. -/
theorem Sound.retrieve {w : World} (hw : Sound g w) (loads : Loads g) (now : ZonedDateTime)
    {sources : List HostsSource} (hanswer : IsAnswer w.db sources)
    (hreads : ∀ source ∈ sources, ReadsSafely g now (w.web source.url) source) :
    Sound g { w with db := execAll w.db (retrieveStatements loads now w.web sources) } := by
  refine hw.blocks (about_retrieveSource loads now w.web) (nodup_of_perm_filter hanswer.1)
    fun s hs db source hsame hsource => ?_
  obtain ⟨hrow, -⟩ := (source_of_mem_filter hanswer.1).mp hs
  exact soundFor_retrieveSource loads now (hsame.source.trans hrow)
    ((hw s.id s hrow).congr hsame.items) (hreads s hs) hsource

/-! ### Checking -/

/-- The row of a source after a check. -/
def checked (site : Site) (s : HostsSource) : HostsSource :=
  { s with onlineModificationDate := (getHostsSourceLastUpdate site s).map ZonedDateTime.stored }

/-- A request without entity tag is answered "not modified" by the date alone. -/
theorem notModified_of_noTag {s : HostsSource} {page : Page} (htag : s.entityTag = none)
    (h : notModified (getRequestFor s) page = true) :
    ∃ d modified, s.onlineModificationDate = some d ∧ page.lastModified = some modified ∧
      modified ≤ toTimestamp d := by
  rw [getRequestFor, htag] at h
  cases honline : s.onlineModificationDate with
  | none =>
    rw [honline] at h
    cases h
  | some d =>
    cases hmodified : page.lastModified with
    | none =>
      rw [honline, Option.map_some, notModified] at h
      simp [hmodified] at h
    | some modified =>
      rw [honline, Option.map_some, notModified] at h
      simp only [hmodified, decide_eq_true_eq] at h
      exact ⟨d, modified, rfl, rfl, h⟩

theorem notModified_checked {site : Site} {s : HostsSource} {page : Page} {tag : String}
    (htag : s.entityTag = some tag) :
    notModified (getRequestFor (checked site s)) page = notModified (getRequestFor s) page := by
  have htag' : (checked site s).entityTag = some tag := htag
  rw [getRequestFor, getRequestFor, htag, htag']
  rfl

theorem lastUpdate_of_url {site : Site} {s : HostsSource} (htype : s.getType = .url) :
    getHostsSourceLastUpdate site s = getUrlLastUpdate site s := by
  rw [getHostsSourceLastUpdate, htype]

/-- A "not modified" gives the date it carries, or the stored one. -/
theorem getUrlLastUpdate_of_notModified {site : Site} {s : HostsSource} {page : Page}
    (hgit : isHostedOnGit s.url = false) (hpage : site.page = some page)
    (hmatch : notModified (getRequestFor s) page = true) :
    getUrlLastUpdate site s
      = ((if page.datesNotModified then page.lastModified else none).map fromTimestamp).or
          s.onlineModificationDate := by
  rw [getUrlLastUpdate, hgit, if_neg Bool.false_ne_true, hpage]
  dsimp only
  rw [if_pos hmatch]
  cases if page.datesNotModified then page.lastModified else none <;> rfl

/-- A page that dates its "not modified" responses has one date. -/
theorem getUrlLastUpdate_of_dated {site : Site} {s : HostsSource} {page : Page}
    (hgit : isHostedOnGit s.url = false) (hpage : site.page = some page) {modified : ℤ}
    (hdated : (if page.datesNotModified then page.lastModified else none) = some modified) :
    getUrlLastUpdate site s = some (fromTimestamp modified) := by
  rw [getUrlLastUpdate, hgit, if_neg Bool.false_ne_true, hpage]
  dsimp only
  rw [hdated]
  split
  next => rfl
  next =>
    split at hdated
    next => rw [hdated, Option.map_some]
    next => cases hdated

/-- A source that retrieving skips is still skipped after a check. -/
theorem Skips.checked {site : Site} {s : HostsSource} {page : Page} (h : Skips site s)
    (htype : s.getType = .url) (hpage : site.page = some page)
    (hnew : notModified (getRequestFor (checked site s)) page = true) : Skips site (checked site s) := by
  obtain ⟨d, hd, hlocal⟩ := h
  have htype' : (AdAway.checked site s).getType = .url := htype
  cases hgit : isHostedOnGit s.url with
  | true =>
    refine ⟨d, ?_, hlocal⟩
    rw [lastUpdate_of_url htype, getUrlLastUpdate, hgit] at hd
    have hgit' : isHostedOnGit (AdAway.checked site s).url = true := hgit
    rw [lastUpdate_of_url htype', getUrlLastUpdate, hgit']
    exact hd
  | false =>
    have honline : (AdAway.checked site s).onlineModificationDate = some d.stored := by
      show (getHostsSourceLastUpdate site s).map ZonedDateTime.stored = _
      rw [hd, Option.map_some]
    rw [lastUpdate_of_url htype] at hd
    have hgit' : isHostedOnGit (AdAway.checked site s).url = false := hgit
    rw [Skips, lastUpdate_of_url htype', getUrlLastUpdate_of_notModified hgit' hpage hnew, honline]
    cases hdated : if page.datesNotModified then page.lastModified else none with
    | some modified =>
      rw [getUrlLastUpdate_of_dated hgit hpage hdated] at hd
      exact ⟨d, hd, hlocal⟩
    | none =>
      -- the date is the stored one, which the check has stored again
      refine ⟨d.stored, rfl, ?_⟩
      cases hl : s.localModificationDate with
      | none =>
        rw [hl] at hlocal
        cases hlocal
      | some l =>
        rw [hl] at hlocal
        show (s.localModificationDate.any fun l => l.isAfter d.stored) = true
        rw [hl]
        exact isAfter_stored hlocal

/-- **A safe check** keeps the source sound. -/
theorem SoundFor.checked {db db' : Database} {site : Site} {s : HostsSource}
    (h : SoundFor g db site s) (hsafe : CheckedSafely g db site s)
    (hitems : db'.sourceItems s.id = db.sourceItems s.id) : SoundFor g db' site (checked site s) := by
  intro htype page hpage hnew
  have htype' : s.getType = .url := htype
  have hsettings : SameSettings s (AdAway.checked site s) := ⟨rfl, rfl, rfl, rfl, rfl⟩
  suffices hgoal : Loaded g db s page ∨ Skips site (AdAway.checked site s) from
    hgoal.imp (fun hl => hl.congr hsettings hitems) id
  by_cases hold : notModified (getRequestFor s) page = true
  · exact (h htype' page hpage hold).imp id fun hskips => hskips.checked htype' hpage hnew
  · have htag : s.entityTag = none := by
      cases htag : s.entityTag with
      | none => rfl
      | some tag =>
        rw [notModified_checked htag] at hnew
        exact absurd hnew hold
    have htag' : (AdAway.checked site s).entityTag = none := htag
    obtain ⟨stored, modified, honline, hmodified, hle⟩ := notModified_of_noTag htag' hnew
    change (getHostsSourceLastUpdate site s).map ZonedDateTime.stored = some stored at honline
    obtain ⟨d, hd, rfl⟩ := Option.map_eq_some_iff.mp honline
    rw [toTimestamp_stored] at hle
    have hrecorded : recordedDate site s page = some d := by
      rw [lastUpdate_of_url htype', getUrlLastUpdate] at hd
      rw [recordedDate]
      split at hd
      next hgit => rw [if_pos hgit, hd]
      next hgit =>
        rw [hpage] at hd
        dsimp only at hd
        rw [if_neg hold] at hd
        rw [if_neg hgit, hd]
    refine (hsafe htype' htag page hpage modified hmodified d hrecorded hle).imp id fun hlocal => ?_
    exact Skips.checked ⟨d, hd, hlocal⟩ htype' hpage hnew

/-- A safe check keeps the system sound. -/
theorem Sound.check {w : World} (hw : Sound g w) {zone : ZoneRules} {offline : Bool}
    {now : ZonedDateTime}
    {sources : List HostsSource} (hanswer : IsEnabledAnswer w.db sources)
    (hok : Distinguished (g := g) w (.checkForUpdate zone offline now sources)) :
    Sound g { w with
      db := execAll w.db (AdAway.checkForUpdate zone offline now w.web sources).2 } := by
  rw [AdAway.checkForUpdate]
  split
  next => exact hw
  next honline =>
    let block (s : HostsSource) : List Statement :=
      [.updateOnlineModificationDate s.id (getHostsSourceLastUpdate (w.web s.url) s)]
    have hblock : ∀ s, ∀ st ∈ block s, st.About s.id := by
      intro s st hst
      obtain rfl := List.mem_singleton.mp hst
      exact rfl
    have hstatements : (sources.map fun s => Statement.updateOnlineModificationDate s.id
        (getHostsSourceLastUpdate (w.web s.url) s)) = sources.flatMap block := List.map_eq_flatMap
    rw [hstatements]
    refine hw.blocks hblock (nodup_of_perm_filter hanswer.1) fun s hs db source hsame hsource => ?_
    obtain ⟨hrow, -⟩ := (source_of_mem_filter hanswer.1).mp hs
    have hchecked : (execAll db (block s)).source s.id = some (checked (w.web s.url) s) := by
      rw [execAll_cons, execAll_nil, Statement.source_exec, hsame.source.trans hrow]
      simp only [Option.map_some, Statement.onSource, if_true]
      rfl
    obtain rfl : checked (w.web s.url) s = source :=
      Option.some.inj (hchecked.symm.trans hsource)
    refine ⟨⟨rfl, rfl, rfl, rfl, rfl⟩,
      (hw s.id s hrow).checked (hok (by simpa using honline) s hs) ?_⟩
    rw [execAll_cons, execAll_nil, Statement.sourceItems_exec, hsame.items]
    rfl

/-! ### Runs -/

/-- **The step lemma.** -/
theorem Sound.step {w w' : World} {a : WorldAction g} (hw : Sound g w) (hok : Distinguished w a)
    (h : stepWorld w a = some w') : Sound g w' := by
  cases a with
  | insertSource => exact Option.some.inj h ▸ hw.insertSource _ _ _ _ _
  | checkForUpdate =>
    rw [stepWorld] at h
    split at h
    next hanswer => exact Option.some.inj h ▸ hw.check hanswer hok
    next => cases h
  | retrieveHostsSources loads offline now sources =>
    rw [stepWorld] at h
    split at h
    next hanswer =>
      obtain rfl := Option.some.inj h
      cases offline with
      | true => exact hw
      | false => exact hw.retrieve loads now hanswer (hok rfl)
    next => cases h
  | toggleEnabled => exact Option.some.inj h ▸ hw.toggleEnabled _
  | serve => exact Option.some.inj h ▸ hw.serve hok

end AdAway
