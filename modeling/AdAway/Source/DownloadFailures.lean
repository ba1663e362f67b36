import AdAway.Db.HostEntrySync
import AdAway.Source.Download

/-!
# What a failed download leaves behind

Each section answers one question about a retrieval in which something fails.

* A reader that fails: `SourceReader` keeps the failure to itself, so the lines delivered before it
  are taken for the whole source.
* A server that answers with an error: `downloadHostSource` looks for "not modified" only, so the
  error page is taken for the source.
* `retrieveHostsSources` throws `HostErrorException`: the disabled sources have been cleared by
  then, and `host_entries` has not been rebuilt.
* A source whose query or copy throws an unchecked exception: the loop ends there.

## Main definitions

* `FailureNoticed` — the copy is counted as failed and nothing of the source has changed
* `Harmless` — the body that was loaded is what was stored before, and its reader fails on closing

## Main results

* `failing_read_noticed_iff` — failures of the reader
* `response_respected_iff` — responses of any status
* `tables_of_hostError` — the tables after `HostErrorException`
* `sources_isolated_iff` — when every source gets its turn
-/

namespace AdAway

namespace SourceModel

variable {g : Guava} {p : Platform} {w : Outside} {loads : Loads g} {now : ZonedDateTime}
  {q : ∀ items, SyncAnswers items} {t : Tables}

/-! ### One turn in the whole retrieval -/

theorem db_syncHostEntries (q : ∀ items, SyncAnswers items) (t : Tables) :
    (syncHostEntries q t).2.db = t.db := by
  rw [syncHostEntries]
  split <;> rfl

theorem db_retrieveHostsSources (offline : Bool) (sources : List HostsSource) :
    (retrieveHostsSources p w loads offline now q sources t).2.db
      = execAll t.db (retrieve p w loads offline now sources).log := by
  rw [retrieveHostsSources]
  split
  · rfl
  · rw [db_syncHostEntries]

theorem log_retrieve (sources : List HostsSource) :
    (retrieve p w loads false now sources).log = (retrieveTurns p w loads now sources).log := by
  rw [retrieve, if_neg Bool.false_ne_true]
  rcases Journal.isOk_or_error (retrieveTurns p w loads now sources) with ⟨turns, hturns⟩ | ⟨e, he⟩
  · rw [Journal.bind_of_ok hturns]
    dsimp only
    split <;> exact List.append_nil _
  · rw [Journal.bind_of_error he]

/-- The sources of the answer are the rows. -/
theorem source_of_isAnswer {sources : List HostsSource} (hanswer : IsAnswer t.db sources)
    {source : HostsSource} (h : source ∈ sources) : t.db.source source.id = some source :=
  ((source_of_mem_filter hanswer.1).mp h).1

variable (loads q) in
/-- What the retrieval does to a source whose turn is taken is what the turn does. -/
theorem exists_sameSource_turn {before after : List HostsSource} {source : HostsSource}
    (hanswer : IsAnswer t.db (before ++ source :: after))
    (hbefore : (retrieveTurns p w loads now before).IsOk) :
    ∃ db, SameSource source.id t.db db ∧
      SameSource source.id (execAll db (retrieveTurn p w loads now source).log)
        (retrieveHostsSources p w loads false now q (before ++ source :: after) t).2.db := by
  have hnodup := nodup_of_perm_filter hanswer.1
  rw [List.map_append, List.map_cons, List.nodup_middle, List.nodup_cons, List.mem_append] at hnodup
  obtain ⟨hnot, -⟩ := hnodup
  obtain ⟨rest, hlog, hrest⟩ := Journal.exists_log_forEach hbefore source after
  rw [db_retrieveHostsSources, log_retrieve, retrieveTurns, hlog, execAll_append, execAll_append]
  refine ⟨execAll t.db (retrieveTurns p w loads now before).log, ?_, ?_⟩
  · refine (sameSource_execAll_of_others (fun st hst => ?_) t.db).1
    obtain ⟨s, hs, hst⟩ := Journal.mem_log_forEach hst
    exact ⟨s.id, fun heq => hnot (Or.inl (List.mem_map.mpr ⟨s, hs, heq⟩)),
      about_retrieveTurn st hst⟩
  · refine (sameSource_execAll_of_others (fun st hst => ?_) _).1
    obtain ⟨s, hs, hst⟩ := hrest st hst
    exact ⟨s.id, fun heq => hnot (Or.inr (List.mem_map.mpr ⟨s, hs, heq⟩)),
      about_retrieveTurn st hst⟩

/-! ### Failures that go unnoticed -/

/-- The copy of the source is counted as failed, and its row and its items are as before. -/
structure FailureNoticed (p : Platform) (w : Outside) (loads : Loads g) (now : ZonedDateTime)
    (source : HostsSource) (t t' : Tables) : Prop where
  counted : (retrieveTurn p w loads now source).result = .ok .failed
  row_kept : t'.db.source source.id = t.db.source source.id
  items_kept : (t'.db.sourceItems source.id).Perm (t.db.sourceItems source.id)

/-- The reader of a loaded body fails on closing, and the entity tag and the items loaded from the
body are the ones stored before. -/
structure Harmless (g : Guava) (source : HostsSource) (t : Tables) (entityTag : Option String)
    (reading : Reading) : Prop where
  close : reading.closeFails = true
  tag : ∀ tag, entityTag = some tag → source.entityTag = some tag
  items : (reading.lines.filterMap (parseLine g source)).Perm (t.db.sourceItems source.id)

/-- What loading a body does to the source. -/
theorem execAll_loadStatements {db : Database} {source : HostsSource}
    (hs : db.source source.id = some source) (loads : Loads g) (entityTag : Option String)
    (reading : Reading) :
    (execAll db (loadStatements loads source entityTag reading)).source source.id
        = some { source with entityTag := entityTag.or source.entityTag } ∧
      (execAll db (loadStatements loads source entityTag reading)).sourceItems source.id
        = (loads source reading.lines).batches.flatten := by
  rw [loadStatements, execAll_append]
  obtain ⟨hsource, -⟩ := execAll_updateEntityTag hs entityTag
  obtain ⟨hparse, hitems⟩ := execAll_parseStatements
    (execAll db (entityTag.toList.map (.updateEntityTag source.id)))
    (loads source reading.lines).batches source.id
  exact ⟨hparse.trans hsource, hitems.trans (loads source reading.lines).ofSource_flatten⟩

theorem or_eq_iff {source : HostsSource} {entityTag : Option String} :
    entityTag.or source.entityTag = source.entityTag ↔
      ∀ tag, entityTag = some tag → source.entityTag = some tag := by
  cases entityTag with
  | none => simp
  | some tag => simp [eq_comm]

/-- A fetched body that should not count is noticed only by accident. -/
theorem failureNoticed_iff_harmless {before after : List HostsSource} {source : HostsSource}
    {lastUpdate : Option ZonedDateTime} {entityTag : Option String} {reading : Reading}
    (hanswer : IsAnswer t.db (before ++ source :: after))
    (hbefore : (retrieveTurns p w loads now before).IsOk)
    (hattempted : Attempted p w now source lastUpdate)
    (hfetched : Fetched p w source entityTag reading) :
    FailureNoticed p w loads now source t
        (retrieveHostsSources p w loads false now q (before ++ source :: after) t).2 ↔
      Harmless g source t entityTag reading := by
  have hmem := source_of_isAnswer hanswer (List.mem_append_right before List.mem_cons_self)
  obtain ⟨db, hsame, hturn⟩ := exists_sameSource_turn loads q hanswer hbefore
  have hturnEq := retrieveTurn_of_fetched loads hattempted hfetched
  cases hclose : reading.closeFails with
  | false =>
    rw [hclose, if_neg Bool.false_ne_true] at hturnEq
    constructor
    · intro h
      have hcounted := h.counted
      rw [hturnEq] at hcounted
      cases hcounted
    · intro h
      exact absurd h.close (by simp [hclose])
  | true =>
    rw [hclose, if_pos rfl] at hturnEq
    obtain ⟨hsource, hitems⟩ := execAll_loadStatements (hsame.source.trans hmem) loads entityTag reading
    rw [hturnEq] at hturn
    have hsource' := hturn.source.trans hsource
    have hitems' := hturn.items.trans hitems
    have hperm : (t.db.sourceItems source.id).Perm (loads source reading.lines).batches.flatten ↔
        (reading.lines.filterMap (parseLine g source)).Perm (t.db.sourceItems source.id) :=
      ⟨fun h => (h.trans (loads source reading.lines).perm).symm,
        fun h => (h.symm.trans (loads source reading.lines).perm.symm)⟩
    constructor
    · intro h
      have hs := h.row_kept
      have hi := h.items_kept
      rw [hsource', hmem, Option.some.injEq] at hs
      rw [hitems'] at hi
      exact ⟨hclose, or_eq_iff.mp (congrArg HostsSource.entityTag hs), hperm.mp hi.symm⟩
    · intro h
      refine ⟨by rw [hturnEq], ?_, ?_⟩
      · rw [hsource', hmem, or_eq_iff.mpr h.tag]
      · rw [hitems']
        exact (hperm.mpr h.items).symm

/-- **A reader that fails.** The retrieval notices that reading a source has failed, and keeps what
was stored for it, exactly when closing the reader fails too and what was loaded until then is what
was stored: the lines delivered before the failure are loaded in any case. -/
theorem failing_read_noticed_iff {before after : List HostsSource} {source : HostsSource}
    {lastUpdate : Option ZonedDateTime} {entityTag : Option String} {lines : List String}
    {closeFails : Bool} (hanswer : IsAnswer t.db (before ++ source :: after))
    (hbefore : (retrieveTurns p w loads now before).IsOk)
    (hattempted : Attempted p w now source lastUpdate)
    (hfetched : Fetched p w source entityTag ⟨lines, true, closeFails⟩) :
    FailureNoticed p w loads now source t
        (retrieveHostsSources p w loads false now q (before ++ source :: after) t).2 ↔
      closeFails = true ∧ (∀ tag, entityTag = some tag → source.entityTag = some tag) ∧
        (lines.filterMap (parseLine g source)).Perm (t.db.sourceItems source.id) := by
  rw [failureNoticed_iff_harmless hanswer hbefore hattempted hfetched]
  exact ⟨fun h => ⟨h.close, h.tag, h.items⟩, fun ⟨hclose, htag, hitems⟩ => ⟨hclose, htag, hitems⟩⟩

/-- Libraries that accept the source of the examples. -/
def acceptingPlatform : Platform where
  acceptsUrl := fun _ => true
  acceptsHeader := fun _ => true
  formatsDate := fun _ => true
  getPath := fun _ => some "/hosts"
  zone := utc

/-- No date of a last update, and this response to every download. -/
def answering (response : Option Response) : Outside where
  head := fun _ _ => none
  get := fun _ _ => response
  api := fun _ => none
  query := fun _ => .ok none
  openInputStream := fun _ => .notFound

/-- The tables with one source that has never been retrieved. -/
def oneSourceTables : Tables := ⟨insertSource hostsFileSource installedDatabase, ∅⟩

/-- Some answers of the list queries. -/
def someAnswers : ∀ items, SyncAnswers items := fun items => choiceAnswers items ∅

theorem attempted_hostsFileSource (response : Option Response) :
    Attempted acceptingPlatform (answering response) ⟨0⟩ hostsFileSource none := ⟨rfl, rfl, rfl⟩

/-- The connection breaks after the first line. -/
def brokenResponse : Response := ⟨200, none, none, ⟨["0.0.0.0 ads.example"], true, false⟩⟩

theorem fetched_brokenResponse :
    Fetched acceptingPlatform (answering (some brokenResponse)) hostsFileSource none
      ⟨["0.0.0.0 ads.example"], true, false⟩ :=
  @Fetched.download _ _ _ brokenResponse rfl ⟨rfl, rfl, rfl⟩ rfl (by decide)

theorem failing_read_noticed_iff_broken :
    FailureNoticed acceptingPlatform (answering (some brokenResponse)) oneBatch ⟨0⟩ hostsFileSource
        oneSourceTables
        (retrieveHostsSources acceptingPlatform (answering (some brokenResponse)) oneBatch false ⟨0⟩
          someAnswers ([] ++ hostsFileSource :: []) oneSourceTables).2 ↔
      false = true ∧ (∀ tag, none = some tag → hostsFileSource.entityTag = some tag) ∧
        (["0.0.0.0 ads.example"].filterMap (parseLine lenientGuava hostsFileSource)).Perm
          (oneSourceTables.db.sourceItems hostsFileSource.id) :=
  failing_read_noticed_iff (by decide) ⟨[], rfl⟩ (attempted_hostsFileSource _) fetched_brokenResponse

/-- The line delivered before the failure is taken for the whole source. -/
theorem not_failing_read_noticed :
    ¬ ∀ (p : Platform) (w : Outside) (g : Guava) (loads : Loads g) (now : ZonedDateTime)
      (q : ∀ items, SyncAnswers items) (t : Tables) (before after : List HostsSource)
      (source : HostsSource) (lastUpdate : Option ZonedDateTime) (entityTag : Option String)
      (reading : Reading), IsAnswer t.db (before ++ source :: after) →
      (retrieveTurns p w loads now before).IsOk → Attempted p w now source lastUpdate →
      Fetched p w source entityTag reading → reading.fails = true →
      FailureNoticed p w loads now source t
        (retrieveHostsSources p w loads false now q (before ++ source :: after) t).2 := by
  intro h
  have hnoticed := h acceptingPlatform (answering (some brokenResponse)) lenientGuava oneBatch ⟨0⟩
    someAnswers oneSourceTables [] [] hostsFileSource none none
    ⟨["0.0.0.0 ads.example"], true, false⟩ (by decide)
    ⟨[], rfl⟩ (attempted_hostsFileSource _) fetched_brokenResponse rfl
  have hcopied : (retrieveTurn acceptingPlatform (answering (some brokenResponse)) oneBatch ⟨0⟩
      hostsFileSource).result = .ok .copied := rfl
  exact absurd (hcopied.symm.trans hnoticed.counted) (by simp)

/-! ### Responses of any status -/

/-- A successful response may replace everything, "not modified" keeps the row of the source and its
items, and any other response counts as a failed copy as well. -/
def RespectsStatus (p : Platform) (w : Outside) (loads : Loads g) (now : ZonedDateTime)
    (source : HostsSource) (response : Response) (t t' : Tables) : Prop :=
  if 200 ≤ response.code ∧ response.code < 300 then True
  else if response.code = 304 then
    t'.db.source source.id = t.db.source source.id ∧
      (t'.db.sourceItems source.id).Perm (t.db.sourceItems source.id)
  else FailureNoticed p w loads now source t t'

/-- The dates and the size that a copy stamps are those of the row already. -/
structure StampedAlready (now : ZonedDateTime) (lastUpdate : Option ZonedDateTime)
    (source : HostsSource) (t : Tables) : Prop where
  localModificationDate : source.localModificationDate = some
    (if (lastUpdate.getD now).isAfter now then lastUpdate.getD now else now).stored
  onlineModificationDate : source.onlineModificationDate = some (lastUpdate.getD now).stored
  size : source.size = (t.db.sourceItems source.id).length

variable (loads) in
/-- A turn that gets "not modified" stamps the source, unless the reader fails on closing. -/
theorem log_retrieveTurn_of_notModified {source : HostsSource} {lastUpdate : Option ZonedDateTime}
    {response : Response} (hattempted : Attempted p w now source lastUpdate)
    (htype : source.getType = .url) (hrequest : Requestable p source)
    (hget : w.get source.url (getRequestFor source) = some response) (hcode : response.code = 304) :
    (retrieveTurn p w loads now source).log
      = if response.body.closeFails then []
        else stampStatements now (lastUpdate.getD now) source.id := by
  have hcopy := copy_of_notModified loads htype hrequest hget hcode
  rw [retrieveTurn_of_close hattempted hcopy, List.nil_append]
  split <;> rfl

/-- "Not modified" keeps the items, and keeps the row exactly when the reader fails on closing or the
stamp is there already. -/
theorem kept_iff_of_notModified {before after : List HostsSource} {source : HostsSource}
    {lastUpdate : Option ZonedDateTime} {response : Response}
    (hanswer : IsAnswer t.db (before ++ source :: after))
    (hbefore : (retrieveTurns p w loads now before).IsOk)
    (hattempted : Attempted p w now source lastUpdate) (htype : source.getType = .url)
    (hrequest : Requestable p source)
    (hget : w.get source.url (getRequestFor source) = some response) (hcode : response.code = 304) :
    let t' := (retrieveHostsSources p w loads false now q (before ++ source :: after) t).2
    t'.db.sourceItems source.id = t.db.sourceItems source.id ∧
      (t'.db.source source.id = t.db.source source.id ↔
        response.body.closeFails = true ∨ StampedAlready now lastUpdate source t) := by
  intro t'
  have hmem := source_of_isAnswer hanswer (List.mem_append_right before List.mem_cons_self)
  obtain ⟨db, hsame, hturn⟩ := exists_sameSource_turn loads q hanswer hbefore
  have hrow := hsame.source.trans hmem
  have hlog := log_retrieveTurn_of_notModified loads hattempted htype hrequest hget hcode
  cases hclose : response.body.closeFails with
  | true =>
    rw [hlog, hclose, if_pos rfl, execAll_nil] at hturn
    exact ⟨hturn.items.trans hsame.items,
      iff_of_true (hturn.source.trans hsame.source) (Or.inl rfl)⟩
  | false =>
    rw [hlog, hclose, if_neg Bool.false_ne_true, stampStatements] at hturn
    obtain ⟨hsource, hitems⟩ := execAll_stamp hrow rfl
      (if (lastUpdate.getD now).isAfter now then lastUpdate.getD now else now) (lastUpdate.getD now)
    refine ⟨hturn.items.trans (hitems.trans hsame.items), ?_⟩
    rw [hturn.source, hsource, hmem, hsame.items, Option.some.injEq]
    constructor
    · intro h
      exact Or.inr ⟨(congrArg HostsSource.localModificationDate h).symm,
        (congrArg HostsSource.onlineModificationDate h).symm, (congrArg HostsSource.size h).symm⟩
    · rintro (hfalse | ⟨hlocal, honline, hsize⟩)
      · exact absurd hfalse Bool.false_ne_true
      · rw [← hlocal, ← honline, ← hsize]

/-- **A response of any status** is handled as its status asks for exactly when it is successful, or
"not modified" with nothing new to stamp or to close, or an error whose page leaves no trace. -/
theorem response_respected_iff {before after : List HostsSource} {source : HostsSource}
    {lastUpdate : Option ZonedDateTime} {response : Response}
    (hanswer : IsAnswer t.db (before ++ source :: after))
    (hbefore : (retrieveTurns p w loads now before).IsOk)
    (hattempted : Attempted p w now source lastUpdate) (htype : source.getType = .url)
    (hrequest : Requestable p source)
    (hget : w.get source.url (getRequestFor source) = some response) :
    RespectsStatus p w loads now source response t
        (retrieveHostsSources p w loads false now q (before ++ source :: after) t).2 ↔
      (200 ≤ response.code ∧ response.code < 300) ∨
        (response.code = 304 ∧
          (response.body.closeFails = true ∨ StampedAlready now lastUpdate source t)) ∨
        (response.code ≠ 304 ∧
          Harmless g source t (response.entityTag.map dropWeakPrefix) response.body) := by
  rw [RespectsStatus]
  by_cases hsuccess : 200 ≤ response.code ∧ response.code < 300
  · rw [if_pos hsuccess]
    exact iff_of_true trivial (Or.inl hsuccess)
  · rw [if_neg hsuccess]
    by_cases hcode : response.code = 304
    · obtain ⟨hitems, hrow⟩ := kept_iff_of_notModified (q := q) hanswer hbefore hattempted htype
        hrequest hget hcode
      rw [if_pos hcode, hrow, hitems]
      constructor
      · exact fun h => Or.inr (Or.inl ⟨hcode, h.1⟩)
      · intro h
        rcases h.resolve_left hsuccess with ⟨-, hkept⟩ | ⟨hne, -⟩
        · exact ⟨hkept, .refl _⟩
        · exact absurd hcode hne
    · rw [if_neg hcode, failureNoticed_iff_harmless hanswer hbefore hattempted
        (.download htype hrequest hget hcode)]
      constructor
      · exact fun h => Or.inr (Or.inr ⟨hcode, h⟩)
      · intro h
        rcases h.resolve_left hsuccess with ⟨heq, -⟩ | ⟨-, hharmless⟩
        · exact absurd heq hcode
        · exact hharmless

/-- The page has gone. -/
def goneResponse : Response := ⟨404, none, none, ⟨["Not found"], false, false⟩⟩

theorem response_respected_iff_gone :
    RespectsStatus acceptingPlatform (answering (some goneResponse)) oneBatch ⟨0⟩ hostsFileSource
        goneResponse oneSourceTables
        (retrieveHostsSources acceptingPlatform (answering (some goneResponse)) oneBatch false ⟨0⟩
          someAnswers ([] ++ hostsFileSource :: []) oneSourceTables).2 ↔
      (200 ≤ goneResponse.code ∧ goneResponse.code < 300) ∨
        (goneResponse.code = 304 ∧ (goneResponse.body.closeFails = true ∨
          StampedAlready ⟨0⟩ none hostsFileSource oneSourceTables)) ∨
        (goneResponse.code ≠ 304 ∧ Harmless lenientGuava hostsFileSource oneSourceTables
          (goneResponse.entityTag.map dropWeakPrefix) goneResponse.body) :=
  response_respected_iff (by decide) ⟨[], rfl⟩ (attempted_hostsFileSource _) rfl ⟨rfl, rfl, rfl⟩ rfl

/-- The page that says so is taken for the source. -/
theorem not_response_respected :
    ¬ ∀ (p : Platform) (w : Outside) (g : Guava) (loads : Loads g) (now : ZonedDateTime)
      (q : ∀ items, SyncAnswers items) (t : Tables) (before after : List HostsSource)
      (source : HostsSource) (lastUpdate : Option ZonedDateTime) (response : Response),
      IsAnswer t.db (before ++ source :: after) → (retrieveTurns p w loads now before).IsOk →
      Attempted p w now source lastUpdate → source.getType = .url → Requestable p source →
      w.get source.url (getRequestFor source) = some response →
      RespectsStatus p w loads now source response t
        (retrieveHostsSources p w loads false now q (before ++ source :: after) t).2 := by
  intro h
  have hrespects := h acceptingPlatform (answering (some goneResponse)) lenientGuava oneBatch ⟨0⟩
    someAnswers oneSourceTables [] [] hostsFileSource none goneResponse (by decide) ⟨[], rfl⟩
    (attempted_hostsFileSource _) rfl ⟨rfl, rfl, rfl⟩ rfl
  have hcopied : (retrieveTurn acceptingPlatform (answering (some goneResponse)) oneBatch ⟨0⟩
      hostsFileSource).result = .ok .copied := rfl
  have hnoticed : FailureNoticed acceptingPlatform (answering (some goneResponse)) oneBatch ⟨0⟩
      hostsFileSource oneSourceTables
      (retrieveHostsSources acceptingPlatform (answering (some goneResponse)) oneBatch false ⟨0⟩
        someAnswers ([] ++ hostsFileSource :: []) oneSourceTables).2 := hrespects
  exact absurd (hcopied.symm.trans hnoticed.counted) (by simp)

/-! ### After `HostErrorException` -/

/-- The reader of the source fails on closing, after its body has been loaded. -/
def FailsOnClose (p : Platform) (w : Outside) (source : HostsSource) : Prop :=
  ∃ entityTag reading, Fetched p w source entityTag reading ∧ reading.closeFails = true

/-- What a turn of an enabled source that is not a successful copy writes. -/
theorem log_retrieveTurn_of_not_copied {source : HostsSource} {turn : Turn}
    (hen : source.enabled = true) (hturn : (retrieveTurn p w loads now source).result = .ok turn)
    (hne : turn ≠ .copied) :
    (retrieveTurn p w loads now source).log = [] ∨ FailsOnClose p w source ∧
      ∃ entityTag reading, (retrieveTurn p w loads now source).log
        = loadStatements loads source entityTag reading := by
  rcases retrieveTurn_cases p w loads now source with ⟨hdis, -⟩ | ⟨-, h, -⟩ | ⟨-, -, h⟩ |
    ⟨-, lastUpdate, hattempted⟩
  · rw [hen] at hdis
    cases hdis
  · exact Or.inl (by rw [h])
  · exact Or.inl (by rw [h])
  · rcases copy_cases p w loads source with ⟨entityTag, reading, hfetched⟩ | h | h | ⟨-, e, h⟩
    · have heq := retrieveTurn_of_fetched loads hattempted hfetched
      cases hclose : reading.closeFails with
      | false =>
        rw [heq, hclose, if_neg Bool.false_ne_true] at hturn
        cases hturn
        exact absurd rfl hne
      | true =>
        rw [hclose, if_pos rfl] at heq
        exact Or.inr ⟨⟨entityTag, reading, hfetched, hclose⟩, entityTag, reading, by rw [heq]⟩
    · rw [retrieveTurn_of_copy_ok hattempted h] at hturn
      cases hturn
      exact absurd rfl hne
    · exact Or.inl (by rw [retrieveTurn_of_copy_io hattempted h])
    · exact Or.inl (by rw [retrieveTurn_of_copy_runtime hattempted h])

/-- A turn throws unchecked exceptions only. -/
theorem error_retrieveTurn {source : HostsSource} {e : Throwable}
    (h : (retrieveTurn p w loads now source).result = .error e) :
    ∃ exception, e = .runtime exception := by
  rcases retrieveTurn_cases p w loads now source with ⟨-, heq⟩ | ⟨-, heq, -⟩ | ⟨-, -, heq⟩ |
    ⟨-, lastUpdate, hattempted⟩
  · rw [heq] at h
    cases h
  · rw [heq] at h
    cases h
  · rw [heq] at h
    cases h
    exact ⟨.other, rfl⟩
  · rcases copy_cases p w loads source with ⟨entityTag, reading, hfetched⟩ | hcopy | hcopy |
      ⟨-, exception, hcopy⟩
    · rw [retrieveTurn_of_fetched loads hattempted hfetched] at h
      split at h <;> cases h
    · rw [retrieveTurn_of_copy_ok hattempted hcopy] at h
      cases h
    · rw [retrieveTurn_of_copy_io hattempted hcopy] at h
      cases h
    · rw [retrieveTurn_of_copy_runtime hattempted hcopy] at h
      cases h
      exact ⟨exception, rfl⟩

theorem AllFailed.ne_copied {turns : List Turn} (h : AllFailed turns) :
    ∀ turn ∈ turns, turn ≠ .copied := by
  have hsplit : ∀ turns : List Turn, turns.countP (fun turn => turn = .copied ∨ turn = .failed)
      = turns.countP (fun turn => turn = .copied) + turns.countP fun turn => turn = .failed := by
    intro turns
    induction turns with
    | nil => rfl
    | cons turn turns ih =>
      rw [List.countP_cons, List.countP_cons, List.countP_cons, ih]
      cases turn <;> simp <;> omega
  have hcount := h.1
  rw [hsplit] at hcount
  have hzero : turns.countP (fun turn => turn = .copied) = 0 := by omega
  rw [List.countP_eq_zero] at hzero
  exact fun turn hturn heq => hzero turn hturn (by simpa using heq)

/-- `retrieve` throws `HostErrorException` when the device is offline, or after all its turns. -/
theorem retrieve_hostError {offline : Bool} {sources : List HostsSource} {error : HostErrorException}
    (h : (retrieve p w loads offline now sources).result = .error (.hostError error)) :
    (error = .noConnection ∧ (retrieve p w loads offline now sources).log = []) ∨
    (error = .downloadFailed ∧ offline = false ∧
      ∃ turns, (retrieveTurns p w loads now sources).result = .ok turns ∧ AllFailed turns) := by
  rw [retrieve] at h ⊢
  cases offline with
  | true =>
    cases h
    exact Or.inl ⟨rfl, rfl⟩
  | false =>
    rw [if_neg Bool.false_ne_true] at h ⊢
    rcases Journal.isOk_or_error (retrieveTurns p w loads now sources) with ⟨turns, hturns⟩ | ⟨e, he⟩
    · rw [Journal.bind_of_ok hturns] at h
      by_cases hall : AllFailed turns
      · rw [if_pos hall] at h
        cases h
        exact Or.inr ⟨rfl, rfl, turns, hturns, hall⟩
      · rw [if_neg hall] at h
        cases h
    · rw [Journal.bind_of_error he] at h
      cases h
      obtain ⟨source, -, hsource⟩ := Journal.exists_error_of_forEach he
      obtain ⟨exception, hexception⟩ := error_retrieveTurn hsource
      cases hexception

theorem retrieveHostsSources_hostError {offline : Bool} {sources : List HostsSource}
    {error : HostErrorException}
    (h : (retrieveHostsSources p w loads offline now q sources t).1 = .error (.hostError error)) :
    (retrieve p w loads offline now sources).result = .error (.hostError error) ∧
      (retrieveHostsSources p w loads offline now q sources t).2.hostEntries = t.hostEntries := by
  rw [retrieveHostsSources] at h ⊢
  split at h
  next e he =>
    cases h
    exact ⟨he, rfl⟩
  next =>
    rw [syncHostEntries] at h
    split at h <;> cases h

/-- The properties of a row after `clearProperties`. -/
def cleared (source : HostsSource) : HostsSource :=
  { source with
    localModificationDate := none
    onlineModificationDate := none
    entityTag := none
    size := 0 }

section AllFailed

variable {sources : List HostsSource} {turns : List Turn}
  (hturns : (retrieveTurns p w loads now sources).result = .ok turns) (hall : AllFailed turns)

include hturns hall in
theorem exists_turn_of_allFailed {source : HostsSource} (hsource : source ∈ sources) :
    ∃ turn, turn ≠ .copied ∧ (retrieveTurn p w loads now source).result = .ok turn := by
  obtain ⟨turn, hturn, hok⟩ := Journal.exists_result_of_map_eq (Journal.log_forEach hturns).2 hsource
  exact ⟨turn, hall.ne_copied turn hturn, hok⟩

include hturns in
variable (q) in
/-- What the retrieval does to a source that it starts from. -/
theorem exists_sameSource_turn_of_mem (hanswer : IsAnswer t.db sources) {source : HostsSource}
    (hsource : source ∈ sources) :
    ∃ db : Database, db.source source.id = some source ∧
      SameSource source.id (execAll db (retrieveTurn p w loads now source).log)
        (retrieveHostsSources p w loads false now q sources t).2.db := by
  have hmem := source_of_isAnswer hanswer hsource
  obtain ⟨before, after, rfl⟩ := List.append_of_mem hsource
  obtain ⟨db, hsame, hturn⟩ := exists_sameSource_turn loads q hanswer
    (Journal.isOk_forEach_of_append ⟨turns, hturns⟩)
  exact ⟨db, hsame.source.trans hmem, hturn⟩

include hturns hall in
/-- A source is kept that is neither disabled nor one whose reader failed on closing. -/
theorem kept_of_allFailed {k : ℤ}
    (hk : ∀ source ∈ sources, source.id = k → source.enabled = true ∧ ¬ FailsOnClose p w source) :
    (retrieveHostsSources p w loads false now q sources t).2.db.source k = t.db.source k ∧
      (retrieveHostsSources p w loads false now q sources t).2.db.itemsOf k = t.db.itemsOf k := by
  have hothers : ∀ st ∈ (retrieveTurns p w loads now sources).log, ∃ k', k' ≠ k ∧ st.About k' := by
    intro st hst
    obtain ⟨source, hsource, hst⟩ := Journal.mem_log_forEach hst
    refine ⟨source.id, fun heq => ?_, about_retrieveTurn st hst⟩
    obtain ⟨hen, hclose⟩ := hk source hsource heq
    obtain ⟨turn, hne, hturn⟩ := exists_turn_of_allFailed hturns hall hsource
    rcases log_retrieveTurn_of_not_copied hen hturn hne with hlog | ⟨hfails, -⟩
    · rw [hlog] at hst
      exact absurd hst List.not_mem_nil
    · exact hclose hfails
  rw [db_retrieveHostsSources, log_retrieve]
  obtain ⟨hsame, hitems⟩ := sameSource_execAll_of_others hothers t.db
  exact ⟨hsame.source, hitems⟩

include hturns in
/-- A disabled source is cleared. -/
theorem cleared_of_disabled (hanswer : IsAnswer t.db sources) {source : HostsSource}
    (hsource : source ∈ sources) (hdis : source.enabled = false) :
    (retrieveHostsSources p w loads false now q sources t).2.db.source source.id
        = some (cleared source) ∧
      (retrieveHostsSources p w loads false now q sources t).2.db.sourceItems source.id = [] := by
  obtain ⟨db, hrow, hturn⟩ := exists_sameSource_turn_of_mem q hturns hanswer hsource
  have hlog : (retrieveTurn p w loads now source).log
      = [.clearSourceHosts source.id, .clearProperties source.id] := by
    rw [retrieveTurn, if_neg (by simp [hdis])]
    rfl
  rw [hlog, execAll_cons, execAll_cons, execAll_nil] at hturn
  constructor
  · rw [hturn.source, Statement.source_exec, Statement.source_exec, hrow]
    simp [Statement.onSource, cleared]
  · rw [hturn.items, Statement.sourceItems_exec, Statement.sourceItems_exec]
    exact if_pos rfl

include hturns hall in
/-- The row of an enabled source is kept, up to its entity tag. -/
theorem row_of_allFailed (hanswer : IsAnswer t.db sources) {source : HostsSource}
    (hsource : source ∈ sources) (hen : source.enabled = true) :
    ∃ entityTag, (retrieveHostsSources p w loads false now q sources t).2.db.source source.id
      = some { source with entityTag := entityTag } := by
  obtain ⟨turn, hne, hok⟩ := exists_turn_of_allFailed hturns hall hsource
  obtain ⟨db, hrow, hturn⟩ := exists_sameSource_turn_of_mem q hturns hanswer hsource
  rw [hturn.source]
  rcases log_retrieveTurn_of_not_copied hen hok hne with hlog | ⟨-, entityTag, reading, hlog⟩
  · rw [hlog, execAll_nil, hrow]
    exact ⟨source.entityTag, rfl⟩
  · rw [hlog, (execAll_loadStatements hrow loads entityTag reading).1]
    exact ⟨_, rfl⟩

end AllFailed

/-- **The tables after `HostErrorException`.** `host_entries` is as before; without a connection the
other tables are as well. When all copies have failed, the disabled sources have been cleared, a
source whose reader failed on closing may have another entity tag and other items, and everything
else is as before. -/
theorem tables_of_hostError {offline : Bool} {sources : List HostsSource}
    {error : HostErrorException} (hanswer : IsAnswer t.db sources)
    (h : (retrieveHostsSources p w loads offline now q sources t).1 = .error (.hostError error)) :
    (retrieveHostsSources p w loads offline now q sources t).2.hostEntries = t.hostEntries ∧
    (error = .noConnection → (retrieveHostsSources p w loads offline now q sources t).2.db = t.db) ∧
    (error = .downloadFailed →
      (∀ k, (∀ source ∈ sources, source.id = k → source.enabled = true ∧ ¬ FailsOnClose p w source) →
        (retrieveHostsSources p w loads offline now q sources t).2.db.source k = t.db.source k ∧
        (retrieveHostsSources p w loads offline now q sources t).2.db.itemsOf k = t.db.itemsOf k) ∧
      (∀ source ∈ sources, source.enabled = false →
        (retrieveHostsSources p w loads offline now q sources t).2.db.source source.id
          = some (cleared source) ∧
        (retrieveHostsSources p w loads offline now q sources t).2.db.sourceItems source.id = []) ∧
      ∀ source ∈ sources, source.enabled = true →
        ∃ entityTag, (retrieveHostsSources p w loads offline now q sources t).2.db.source source.id
          = some { source with entityTag := entityTag }) := by
  obtain ⟨hretrieve, hentries⟩ := retrieveHostsSources_hostError h
  refine ⟨hentries, ?_, ?_⟩
  · rintro rfl
    rcases retrieve_hostError hretrieve with ⟨-, hlog⟩ | ⟨hne, -⟩
    · rw [db_retrieveHostsSources, hlog, execAll_nil]
    · cases hne
  · rintro rfl
    rcases retrieve_hostError hretrieve with ⟨hne, -⟩ | ⟨-, rfl, turns, hturns, hall⟩
    · cases hne
    exact ⟨fun k hk => kept_of_allFailed hturns hall hk,
      fun source hsource hdis => cleared_of_disabled hturns hanswer hsource hdis,
      fun source hsource hen => row_of_allFailed hturns hall hanswer hsource hen⟩

/-- A disabled source. -/
def disabledSource : HostsSource :=
  { hostsFileSource with id := 3, label := "old", url := "https://example.com/hosts", enabled := false }

/-- The tables with an enabled source and a disabled one that has an item. -/
def disabledTables : Tables where
  db := Statement.exec (insertSource disabledSource (insertSource hostsFileSource installedDatabase))
    (.insertItems [⟨0, "ads.example", .blocked, false, none, 3⟩])
  hostEntries := ∅

theorem tables_of_hostError_disabled :
    (retrieveHostsSources acceptingPlatform (answering none) oneBatch false ⟨0⟩ someAnswers
        [hostsFileSource, disabledSource] disabledTables).2.hostEntries = disabledTables.hostEntries ∧
    (retrieveHostsSources acceptingPlatform (answering none) oneBatch false ⟨0⟩ someAnswers
        [hostsFileSource, disabledSource] disabledTables).2.db.sourceItems disabledSource.id = [] := by
  have hanswer : IsAnswer disabledTables.db [hostsFileSource, disabledSource] := by decide
  have hthrown : (retrieveHostsSources acceptingPlatform (answering none) oneBatch false ⟨0⟩
      someAnswers [hostsFileSource, disabledSource] disabledTables).1
        = .error (.hostError .downloadFailed) := rfl
  obtain ⟨hentries, -, hfailed⟩ := tables_of_hostError hanswer hthrown
  exact ⟨hentries, ((hfailed rfl).2.1 disabledSource (by simp) rfl).2⟩

/-- The only enabled source cannot be reached, and the item of the disabled one is gone. -/
theorem not_tables_of_hostError :
    ¬ ∀ (p : Platform) (w : Outside) (g : Guava) (loads : Loads g) (offline : Bool)
      (now : ZonedDateTime) (q : ∀ items, SyncAnswers items) (sources : List HostsSource) (t : Tables)
      (error : HostErrorException), IsAnswer t.db sources →
      (retrieveHostsSources p w loads offline now q sources t).1 = .error (.hostError error) →
      (retrieveHostsSources p w loads offline now q sources t).2.db.hostsLists = t.db.hostsLists ∧
      (retrieveHostsSources p w loads offline now q sources t).2.db.hostsSources = t.db.hostsSources ∧
      (retrieveHostsSources p w loads offline now q sources t).2.hostEntries = t.hostEntries := by
  intro h
  obtain ⟨hlists, -⟩ := h acceptingPlatform (answering none) lenientGuava oneBatch false ⟨0⟩
    someAnswers [hostsFileSource, disabledSource] disabledTables .downloadFailed (by decide) rfl
  have hrows := congrArg (fun table => table.rows.length) hlists
  exact absurd hrows (by decide)

/-! ### Unchecked exceptions -/

theorem isOk_checkTurn_iff {source : HostsSource} :
    (checkTurn p w now source).IsOk ↔ ¬ QueryThrows p w source := by
  rw [checkTurn]
  rcases getHostsSourceLastUpdate_cases p w source with ⟨hnot, lastUpdate, hquery⟩ | ⟨hthrows, hquery⟩
  · rw [hquery]
    exact iff_of_true ⟨_, rfl⟩ hnot
  · rw [hquery]
    exact iff_of_false (Journal.not_isOk_of_error rfl) (not_not_intro hthrows)

variable (loads) in
theorem isOk_retrieveTurn_iff {source : HostsSource} :
    (retrieveTurn p w loads now source).IsOk ↔
      (source.enabled = true → ¬ QueryThrows p w source ∧
        ∀ lastUpdate, Attempted p w now source lastUpdate → ¬ FetchThrows p w source) := by
  rcases retrieveTurn_cases p w loads now source with ⟨hdis, h⟩ | ⟨-, h, hnot, hskipped⟩ |
    ⟨hen, hthrows, h⟩ | ⟨hnot, lastUpdate, hattempted⟩
  · rw [h]
    exact iff_of_true ⟨_, rfl⟩ fun hen => absurd (hdis.symm.trans hen) Bool.false_ne_true
  · rw [h]
    exact iff_of_true ⟨_, rfl⟩ fun _ => ⟨hnot, fun lastUpdate h => absurd h (hskipped lastUpdate)⟩
  · rw [h]
    exact iff_of_false (Journal.not_isOk_of_error rfl) fun hall => (hall hen).1 hthrows
  · by_cases hfetch : FetchThrows p w source
    · obtain ⟨e, hcopy⟩ := copy_of_fetchThrows loads hfetch
      rw [retrieveTurn_of_copy_runtime hattempted hcopy]
      exact iff_of_false (Journal.not_isOk_of_error rfl)
        fun hall => (hall hattempted.enabled).2 lastUpdate hattempted hfetch
    · refine iff_of_true ?_ fun _ => ⟨hnot, fun _ _ => hfetch⟩
      rcases copy_cases p w loads source with ⟨entityTag, reading, hfetched⟩ | h | h | ⟨hthrows, -⟩
      · rw [retrieveTurn_of_fetched loads hattempted hfetched]
        split <;> exact ⟨_, rfl⟩
      · exact ⟨_, by rw [retrieveTurn_of_copy_ok hattempted h]⟩
      · exact ⟨_, by rw [retrieveTurn_of_copy_io hattempted h]⟩
      · exact absurd hthrows hfetch

/-- `checkForUpdate` examines every source, whatever the others come to, and returns. -/
def EverySourceChecked (p : Platform) (w : Outside) (now : ZonedDateTime)
    (sources : List HostsSource) : Prop :=
  ∃ updates : List Bool, sources.map (fun s => (checkTurn p w now s).result) = updates.map .ok ∧
    checkForUpdate p w false now sources
      = ⟨sources.flatMap fun s => (checkTurn p w now s).log, .ok (updates.any id)⟩

/-- `retrieveHostsSources` processes every source, whatever the others come to, and then rebuilds
`host_entries` unless all copies failed. -/
def EverySourceRetrieved (p : Platform) (w : Outside) (loads : Loads g) (now : ZonedDateTime)
    (q : ∀ items, SyncAnswers items) (sources : List HostsSource) (t : Tables) : Prop :=
  ∃ turns : List Turn,
    sources.map (fun s => (retrieveTurn p w loads now s).result) = turns.map .ok ∧
    retrieveHostsSources p w loads false now q sources t
      = (let statements := sources.flatMap fun s => (retrieveTurn p w loads now s).log
        let t' := { t with db := execAll t.db statements }
        if AllFailed turns then (.error (.hostError .downloadFailed), t') else syncHostEntries q t')

theorem everySourceChecked_iff {sources : List HostsSource} :
    EverySourceChecked p w now sources ↔ ∀ source ∈ sources, ¬ QueryThrows p w source := by
  constructor
  · rintro ⟨updates, hresults, -⟩ source hsource
    obtain ⟨update, -, hok⟩ := Journal.exists_result_of_map_eq hresults hsource
    exact isOk_checkTurn_iff.mp ⟨update, hok⟩
  · intro h
    obtain ⟨updates, hupdates⟩ := Journal.forEach_isOk_iff.mpr fun source hsource =>
      isOk_checkTurn_iff.mpr (h source hsource)
    obtain ⟨hlog, hresults⟩ := Journal.log_forEach hupdates
    refine ⟨updates, hresults, ?_⟩
    rw [checkForUpdate, if_neg Bool.false_ne_true, Journal.bind_of_ok hupdates, hlog]
    exact Journal.ext (List.append_nil _) rfl

theorem everySourceRetrieved_iff {sources : List HostsSource} :
    EverySourceRetrieved p w loads now q sources t ↔
      ∀ source ∈ sources, source.enabled = true → ¬ QueryThrows p w source ∧
        ∀ lastUpdate, Attempted p w now source lastUpdate → ¬ FetchThrows p w source := by
  constructor
  · rintro ⟨turns, hresults, -⟩ source hsource
    obtain ⟨turn, -, hok⟩ := Journal.exists_result_of_map_eq hresults hsource
    exact (isOk_retrieveTurn_iff loads).mp ⟨turn, hok⟩
  · intro h
    obtain ⟨turns, hturns⟩ := Journal.forEach_isOk_iff.mpr fun source hsource =>
      (isOk_retrieveTurn_iff loads).mpr (h source hsource)
    obtain ⟨hlog, hresults⟩ := Journal.log_forEach hturns
    refine ⟨turns, hresults, ?_⟩
    have hretrieve : retrieve p w loads false now sources
        = ⟨sources.flatMap fun s => (retrieveTurn p w loads now s).log,
          if AllFailed turns then .error (.hostError .downloadFailed) else .ok ()⟩ := by
      rw [retrieve, if_neg Bool.false_ne_true, retrieveTurns, Journal.bind_of_ok hturns, hlog]
      split <;> exact Journal.ext (List.append_nil _) rfl
    rw [retrieveHostsSources, hretrieve]
    by_cases hall : AllFailed turns
    · simp only [if_pos hall]
    · simp only [if_neg hall]

/-- **Isolation of the sources.** A check examines every source, and a retrieval processes every
source and rebuilds `host_entries` unless all copies failed, exactly when no source throws an
unchecked exception: when it is asked for its last update, or when it is copied. -/
theorem sources_isolated_iff (p : Platform) (w : Outside) (loads : Loads g) (now : ZonedDateTime)
    (q : ∀ items, SyncAnswers items) (enabledSources sources : List HostsSource) (t : Tables) :
    (EverySourceChecked p w now enabledSources ↔
      ∀ source ∈ enabledSources, ¬ QueryThrows p w source) ∧
    (EverySourceRetrieved p w loads now q sources t ↔
      ∀ source ∈ sources, source.enabled = true → ¬ QueryThrows p w source ∧
        ∀ lastUpdate, Attempted p w now source lastUpdate → ¬ FetchThrows p w source) :=
  ⟨everySourceChecked_iff, everySourceRetrieved_iff⟩

/-- A gist without anything but a user. -/
def gistSource : HostsSource := { hostsFileSource with url := "https://gist.githubusercontent.com/user" }

/-- Libraries that find the path of the gist. -/
def gistPlatform : Platform := { acceptingPlatform with getPath := fun _ => some "/user" }

/-- The URL of the gist is valid, and asking for its last update ends the check and the retrieval.
-/
theorem not_sources_isolated :
    ¬ ∀ (p : Platform) (w : Outside) (g : Guava) (loads : Loads g) (now : ZonedDateTime)
      (q : ∀ items, SyncAnswers items) (sources : List HostsSource) (t : Tables),
      (∀ source ∈ sources, source.enabled = true ∧ isValidUrl source.url = true) →
      EverySourceChecked p w now sources ∧ EverySourceRetrieved p w loads now q sources t := by
  intro h
  obtain ⟨⟨updates, hresults, -⟩, -⟩ := h gistPlatform (answering none) lenientGuava oneBatch ⟨0⟩
    someAnswers [gistSource] oneSourceTables (by simp only [List.forall_mem_singleton]; decide)
  have hthrows : (checkTurn gistPlatform (answering none) ⟨0⟩ gistSource).result
      = .error (.runtime .other) := rfl
  obtain ⟨update, -, hok⟩ := Journal.exists_result_of_map_eq hresults List.mem_cons_self
  exact Journal.not_isOk_of_error hthrows ⟨update, hok⟩

end SourceModel

end AdAway
