import AdAway.Source.UpdateDates

/-!
# What a source is stamped with

The dates of a retrieval are only as good as the date of the last update, and as the load that came
before. Both fail for some sources. A document provider gives milliseconds, and they are read by the
converter of the columns, which hold seconds. A source whose type is not handled is not loaded, and
is stamped as if it were; the check of a URL and the type of a source look at different prefixes.

## Main definitions

* `FileCursor`, `readCursor` — the answer of a document provider, and the date read from it
* `DatesFile` — what the date of a file owes
* `Handled`, `StampedOnceLoaded` — what a valid URL owes

## Main results

* `SourceModel.datesFile_iff` — when the date of a file is right
* `SourceModel.handled_iff_prefix` — which sources are loaded before they are stamped
-/

namespace AdAway

namespace SourceModel

variable {g : Guava} {p : Platform} {w : Outside} {loads : Loads g} {now : ZonedDateTime}
  {source : HostsSource}

/-! ### The date of a file -/

/-- What a document provider answers about a file. -/
inductive FileCursor
  /-- No cursor. -/
  | null
  /-- A cursor without a row. -/
  | empty
  /-- A row without `COLUMN_LAST_MODIFIED`. -/
  | noColumn
  /-- A row with the milliseconds since the epoch. -/
  | row (lastModified : ℤ)
  deriving DecidableEq, Repr

/-- `LocalDateTime.ofEpochSecond`, at UTC: it throws a `DateTimeException` outside of its years. -/
def ofEpochSecond (value : ℤ) : Except RuntimeException ZonedDateTime :=
  if -31557014135596800 ≤ value ∧ value ≤ 31556889832780799 then .ok (fromTimestamp value)
  else .error .other

/-- The date that `getFileLastUpdate` reads from the cursor. -/
def readCursor : FileCursor → Except RuntimeException (Option ZonedDateTime)
  | .null | .empty | .noColumn => .ok none
  -- a converter for columns of seconds
  | .row lastModified => (ofEpochSecond lastModified).map some

/-- The instant that a document provider gives. -/
def ofMilliseconds (lastModified : ℤ) : ZonedDateTime := ⟨lastModified * 1000000⟩

/-- What the date of a file owes: it is the one given by the provider, and a copy of a file modified
in the past stores the time of the copy. -/
structure DatesFile (p : Platform) (w : Outside) (source : HostsSource) (lastModified : ℤ) : Prop
    where
  date : getHostsSourceLastUpdate p w source = .ok (some (ofMilliseconds lastModified))
  copied : ∀ (g : Guava) (loads : Loads g) (now : ZonedDateTime) (db : Database),
    (ofMilliseconds lastModified).isAfter now = false → db.source source.id = some source →
    (retrieveTurn p w loads now source).result = .ok .copied →
    ((execAll db (retrieveTurn p w loads now source).log).source source.id).bind
      HostsSource.localModificationDate = some now.stored

/-- A turn that copies its source gets to its copy. -/
theorem attempted_of_copied (hcopied : (retrieveTurn p w loads now source).result = .ok .copied) :
    ∃ lastUpdate, Attempted p w now source lastUpdate := by
  rcases retrieveTurn_cases p w loads now source with ⟨-, h⟩ | ⟨-, h, -⟩ | ⟨-, -, h⟩ | ⟨-, h⟩
  · rw [h] at hcopied
    exact absurd hcopied (by simp)
  · rw [h] at hcopied
    exact absurd hcopied (by simp)
  · rw [h] at hcopied
    exact absurd hcopied (by simp)
  · exact h

/-- The date of a file is that many seconds after the epoch, or is out of range. -/
theorem getHostsSourceLastUpdate_of_row {lastModified : ℤ} (htype : source.getType = .file)
    (hquery : w.query source.url = readCursor (.row lastModified)) :
    getHostsSourceLastUpdate p w source =
      if -31557014135596800 ≤ lastModified ∧ lastModified ≤ 31556889832780799 then
        .ok (some (fromTimestamp lastModified))
      else .error (.runtime .other) := by
  have hfile : getHostsSourceLastUpdate p w source = getFileLastUpdate w source.url := by
    simp only [getHostsSourceLastUpdate, htype]
  rw [hfile, getFileLastUpdate, hquery, readCursor, ofEpochSecond]
  by_cases hrange : -31557014135596800 ≤ lastModified ∧ lastModified ≤ 31556889832780799
  · rw [if_pos hrange, if_pos hrange]
    rfl
  · rw [if_neg hrange, if_neg hrange]
    rfl

/-- **The date of a file** is right exactly for a file modified at the epoch: the milliseconds of
the provider are taken for seconds. -/
theorem datesFile_iff {lastModified : ℤ} (htype : source.getType = .file)
    (hquery : w.query source.url = readCursor (.row lastModified)) :
    DatesFile p w source lastModified ↔ lastModified = 0 := by
  have hdate := getHostsSourceLastUpdate_of_row (p := p) htype hquery
  constructor
  · intro h
    have hsame := hdate.symm.trans h.date
    split at hsame
    next =>
      have hnanos : lastModified * 1000000000 = lastModified * 1000000 :=
        congrArg ZonedDateTime.nanos (Option.some.inj (Except.ok.inj hsame))
      omega
    next => exact absurd hsame (by simp)
  · rintro rfl
    have hepoch : getHostsSourceLastUpdate p w source = .ok (some (ofMilliseconds 0)) := hdate
    refine ⟨hepoch, fun g loads now db hpast hsource hcopied => ?_⟩
    obtain ⟨lastUpdate, h⟩ := attempted_of_copied hcopied
    obtain rfl : some (ofMilliseconds 0) = lastUpdate :=
      Except.ok.inj (hepoch.symm.trans h.queried)
    obtain ⟨s, hs, -, hlocal, -⟩ := row_of_copied hsource h hcopied
    rw [hs, Option.bind_some, hlocal, copiedDate, Option.getD_some, if_neg (by simp [hpast])]

/-- A hosts file on the device. -/
def documentSource : HostsSource := { hostsFileSource with url := "content://documents/hosts" }

/-- A document provider that answers with this cursor. -/
def providing (cursor : FileCursor) : Outside :=
  { answering none with
    query := fun _ => readCursor cursor
    openInputStream := fun _ => .opened ⟨[], false, false⟩ }

theorem datesFile_iff_epoch :
    DatesFile acceptingPlatform (providing (.row 0)) documentSource 0 ↔ (0 : ℤ) = 0 :=
  datesFile_iff rfl rfl

/-- A file modified in 2023 is copied as one of the year 55840. -/
theorem not_datesFile :
    ¬ ∀ (p : Platform) (w : Outside) (source : HostsSource) (lastModified : ℤ),
      source.getType = .file → w.query source.url = readCursor (.row lastModified) →
      DatesFile p w source lastModified := by
  intro h
  have hdate := (h acceptingPlatform (providing (.row 1700000000000)) documentSource 1700000000000
    rfl rfl).date
  exact absurd hdate (by decide)

/-! ### Sources that are not loaded -/

/-- Nothing can be loaded from outside. -/
structure Unreachable (w : Outside) : Prop where
  get : ∀ url request, w.get url request = none
  openInputStream : ∀ uri, w.openInputStream uri = .notFound

/-- A source with this URL has a type that is handled. -/
def Handled (url : String) : Prop :=
  ∀ source : HostsSource, source.url = url → source.getType = .url ∨ source.getType = .file

/-- A source with this URL is not stamped when it cannot be loaded. -/
def StampedOnceLoaded (url : String) : Prop :=
  ∀ (g : Guava) (p : Platform) (w : Outside) (loads : Loads g) (now : ZonedDateTime)
    (sources : List HostsSource), (sources.map HostsSource.id).Nodup → Unreachable w →
    ∀ source ∈ sources, source.url = url → ∀ date online,
      .updateModificationDates source.id date online ∉ (retrieve p w loads false now sources).log

theorem getType_eq_url_or_file_iff :
    source.getType = .url ∨ source.getType = .file ↔
      startsWith source.url "https://" = true ∨ startsWith source.url "content://" = true := by
  rw [HostsSource.getType]
  split
  next hurl => simp [hurl]
  next hurl =>
    split
    next hfile => simp [hurl, hfile]
    next hfile => simp [hurl, hfile]

/-- The copy of a source of a type that is handled fails where nothing can be loaded. -/
theorem copy_of_unreachable (hw : Unreachable w) (loads : Loads g)
    (htype : source.getType = .url ∨ source.getType = .file) :
    copy p w loads source = ⟨[], .error .io⟩ ∨
      copy p w loads source = ⟨[], .error (.runtime .other)⟩ := by
  rw [copy]
  rcases htype with htype | htype
  · simp only [htype]
    rw [downloadHostSource]
    by_cases hrequest : Requestable p source
    · rw [requestFor_of_requestable hrequest, Journal.lift_ok, Journal.pure_bind, hw.get]
      exact Or.inl rfl
    · rw [requestFor_of_not_requestable hrequest]
      exact Or.inr rfl
  · simp only [htype]
    rw [readSourceFile, hw.openInputStream]
    exact Or.inl rfl

theorem not_stamped_of_unreachable (hw : Unreachable w)
    (htype : source.getType = .url ∨ source.getType = .file) {id : ℤ}
    {date online : ZonedDateTime} :
    .updateModificationDates id date online ∉ (retrieveTurn p w loads now source).log := by
  intro hst
  rcases retrieveTurn_cases p w loads now source with ⟨-, h⟩ | ⟨-, h, -⟩ | ⟨-, -, h⟩ |
    ⟨-, lastUpdate, hattempted⟩
  · rw [h] at hst
    simp at hst
  · rw [h] at hst
    exact absurd hst List.not_mem_nil
  · rw [h] at hst
    exact absurd hst List.not_mem_nil
  · rcases copy_of_unreachable (p := p) hw loads htype with hcopy | hcopy
    · rw [retrieveTurn_of_copy_io hattempted hcopy] at hst
      exact absurd hst List.not_mem_nil
    · rw [retrieveTurn_of_copy_runtime hattempted hcopy] at hst
      exact absurd hst List.not_mem_nil

/-- A source that is never loaded is stamped by its first retrieval. -/
theorem stamped_of_unsupported {url : String}
    (htype : ¬ (startsWith url "https://" = true ∨ startsWith url "content://" = true)) :
    Statement.updateModificationDates 2 ⟨0⟩ ⟨0⟩ ∈
      (retrieve acceptingPlatform (answering none) oneBatch false ⟨0⟩
        [{ hostsFileSource with url := url }]).log := by
  have hunsupported : HostsSource.getType { hostsFileSource with url := url } = .unsupported := by
    rw [not_or] at htype
    simp [HostsSource.getType, htype]
  have hattempted : Attempted acceptingPlatform (answering none) ⟨0⟩
      { hostsFileSource with url := url } none := by
    refine ⟨rfl, ?_, rfl⟩
    simp only [getHostsSourceLastUpdate, hunsupported]
  have hcopy : copy acceptingPlatform (answering none) oneBatch
      { hostsFileSource with url := url } = ⟨[], .ok ()⟩ := by
    simp only [copy, hunsupported]
    rfl
  have hturn := retrieveTurn_of_copy_ok hattempted hcopy
  rw [log_retrieve, retrieveTurns, Journal.forEach_cons_of_ok (congrArg Journal.result hturn) rfl,
    hturn]
  exact List.mem_cons_self

/-- **Which sources are loaded before they are stamped**: those whose URL has one of two prefixes.
The URL of a source may be valid without having one. -/
theorem handled_iff_prefix (url : String) :
    (Handled url ↔ startsWith url "https://" = true ∨ startsWith url "content://" = true) ∧
    (StampedOnceLoaded url ↔
      startsWith url "https://" = true ∨ startsWith url "content://" = true) := by
  refine ⟨⟨fun h => ?_, ?_⟩, ⟨fun h => ?_, ?_⟩⟩
  · exact getType_eq_url_or_file_iff.mp (h { hostsFileSource with url := url } rfl)
  · rintro hprefix source rfl
    exact getType_eq_url_or_file_iff.mpr hprefix
  · by_contra hprefix
    exact h lenientGuava acceptingPlatform (answering none) oneBatch ⟨0⟩
      [{ hostsFileSource with url := url }] (List.nodup_singleton _)
      ⟨fun _ _ => rfl, fun _ => rfl⟩ _ List.mem_cons_self rfl ⟨0⟩ ⟨0⟩
      (stamped_of_unsupported hprefix)
  · rintro hprefix g p w loads now sources hnodup hw source hsource rfl date online hst
    rw [log_retrieve] at hst
    obtain ⟨source', hsource', hst⟩ := Journal.mem_log_forEach hst
    have hid : source.id = source'.id := by
      rcases mem_retrieveTurn hst with h | h | ⟨-, items, h, -⟩
      · cases h
      · exact h
      · cases h
    obtain rfl := List.inj_on_of_nodup_map hnodup hsource hsource' hid
    exact not_stamped_of_unreachable hw (getType_eq_url_or_file_iff.mpr hprefix) hst

/-- The scheme may be in upper case. -/
theorem not_handled :
    ¬ ∀ url, isValidUrl url = true → Handled url ∧ StampedOnceLoaded url := by
  intro h
  obtain ⟨hhandled, -⟩ := h "HTTPS://adaway.org/hosts.txt" (by decide)
  have htype := hhandled { hostsFileSource with url := "HTTPS://adaway.org/hosts.txt" } rfl
  exact absurd htype (by decide)

end SourceModel

end AdAway
