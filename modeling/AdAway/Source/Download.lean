import AdAway.Db.HostEntryDao
import AdAway.Git.GitHostsSource
import AdAway.Library.Journal
import AdAway.Source.SourceModel

/-!
# Downloading the sources, with everything that can fail

The methods of `SourceModel` again, this time with every answer the network, the Git hostings and
the document providers can give, and every exception these answers lead to. A method is a `Journal`:
the statements it has run when it returns or throws.

## Where an exception goes

`retrieveHostsSources` handles `IOException` around the copy of a source, and counts the copy as
failed. Asking for the date of the last update comes before and is not covered. `SourceReader`,
which reads the lines on a thread of its own, handles everything and returns.

What is not under the control of the application is a parameter. `Platform` holds the libraries:
the URLs, header values and dates OkHttp and `java.time` refuse, the path `java.net.URL` finds, and
the time zone.
`Outside` holds the answers.

## Main definitions

* `Reading`, `Response`, `OpenedFile` — what a request or a file leads to
* `Platform`, `Outside` — the parameters
* `SourceModel.copy`, `retrieveTurn`, `retrieveHostsSources`, `checkForUpdate` — the methods

## Main results

* `SourceModel.copy_cases` — all that copying a source can come to
* `SourceModel.retrieveTurn_of_fetched` — what a turn of the loop does with it
* `SourceModel.mem_retrieveTurn` — the statements of a turn of the loop
* `SourceModel.log_retrieveTurns_of_serves` — without unchecked exceptions, the statements of
  `retrieveStatements`
-/

namespace AdAway

/-! ### Exceptions and answers -/

/-- The unchecked exceptions. -/
inductive RuntimeException
  /-- `SecurityException`. -/
  | security
  | other
  deriving DecidableEq, Repr

/-- What the methods throw. -/
inductive Throwable
  /-- `IOException`. -/
  | io
  | runtime (exception : RuntimeException)
  | hostError (error : HostErrorException)
  deriving DecidableEq, Repr

/-- What reading a body or a file delivers. -/
structure Reading where
  /-- The lines read before the end or the failure. -/
  lines : List String
  /-- Reading fails after these lines. -/
  fails : Bool
  /-- Closing the reader fails. -/
  closeFails : Bool
  deriving DecidableEq

/-- `Reader.close`. -/
def Reading.close (reading : Reading) : Except Throwable Unit :=
  if reading.closeFails then .error .io else .ok ()

/-- A response of a server. -/
structure Response where
  code : ℕ
  /-- The header `ETag`. -/
  entityTag : Option String
  /-- The header `Last-Modified`, and the date it holds unless it cannot be parsed. -/
  lastModified : Option (Option ZonedDateTime)
  body : Reading
  deriving DecidableEq

/-- What `ContentResolver.openInputStream` comes to. -/
inductive OpenedFile
  | opened (reading : Reading)
  /-- `FileNotFoundException`. -/
  | notFound
  /-- The provider gives no stream. -/
  | null
  | throws (exception : RuntimeException)
  deriving DecidableEq

/-- The libraries. -/
structure Platform where
  /-- `Request.Builder.url` accepts the address. -/
  acceptsUrl : String → Bool
  /-- `Request.Builder.header` accepts the value. -/
  acceptsHeader : String → Bool
  /-- `RFC_1123_DATE_TIME` can print the date. -/
  formatsDate : ZonedDateTime → Bool
  /-- `URL.getPath`, unless the URL is malformed. -/
  getPath : String → Option String
  /-- The rules of the time zone of the device. -/
  zone : ZoneRules

/-- The answers from outside. -/
structure Outside where
  /-- The response to a `HEAD` request, unless an `IOException` is thrown. -/
  head : String → Request → Option Response
  /-- The response to a `GET` request, unless an `IOException` is thrown. -/
  get : String → Request → Option Response
  /-- The date that the API of a Git hosting gives. -/
  api : String → Option ZonedDateTime
  /-- The date that the document provider gives. -/
  query : String → Except RuntimeException (Option ZonedDateTime)
  openInputStream : String → OpenedFile

/-- The run of a method. -/
abbrev Run := Journal Statement Throwable

variable {g : Guava}

namespace SourceModel

/-! ### The methods -/

/-- `getRequestFor(source).build()`. -/
def requestFor (p : Platform) (source : HostsSource) : Except Throwable Request :=
  if p.acceptsUrl source.url ∧ source.entityTag.all p.acceptsHeader ∧
      source.onlineModificationDate.all p.formatsDate then
    .ok (getRequestFor source)
  else .error (.runtime .other)

/-- `GitHostsJsonApiSource.getLastUpdate`. -/
def getGitLastUpdate (p : Platform) (w : Outside) (source : GitHostsSource) :
    Except Throwable (Option ZonedDateTime) :=
  if p.acceptsUrl source.getCommitApiUrl then .ok (w.api source.getCommitApiUrl)
  else .error (.runtime .other)

/-- The part of `SourceModel.getUrlLastUpdate` for a Git hosting. -/
def getHostedLastUpdate (p : Platform) (w : Outside) (url : String) :
    Except Throwable (Option ZonedDateTime) :=
  match GitHostsSource.getSource p.getPath url with
  | .ok gitSource => getGitLastUpdate p w gitSource
  | .error .malformedURL => .ok none
  | .error .arrayIndexOutOfBounds => .error (.runtime .other)

/-- The date `SourceModel.getUrlLastUpdate` takes from a response; none after an exception. -/
def headLastUpdate (source : HostsSource) : Option Response → Option ZonedDateTime
  | none => none
  | some response =>
    match response.lastModified with
    | none => if response.code = 304 then source.onlineModificationDate else none
    | some lastModified => lastModified

/-- `SourceModel.getUrlLastUpdate`. -/
def getUrlLastUpdate (p : Platform) (w : Outside) (source : HostsSource) :
    Except Throwable (Option ZonedDateTime) :=
  if isHostedOnGit source.url then getHostedLastUpdate p w source.url
  else do
    let request ← requestFor p source
    return headLastUpdate source (w.head source.url request)

/-- `SourceModel.getFileLastUpdate`. -/
def getFileLastUpdate (w : Outside) (fileUri : String) : Except Throwable (Option ZonedDateTime) :=
  match w.query fileUri with
  | .ok date => .ok date
  | .error .security => .ok none
  | .error .other => .error (.runtime .other)

/-- `SourceModel.getHostsSourceLastUpdate`. -/
def getHostsSourceLastUpdate (p : Platform) (w : Outside) (source : HostsSource) :
    Except Throwable (Option ZonedDateTime) :=
  match source.getType with
  | .url => getUrlLastUpdate p w source
  | .file => getFileLastUpdate w source.url
  | .unsupported => .ok none

/-- `SourceReader.run`, by the lines it adds to the queue: a failure is logged only. -/
def readLines (reading : Reading) : Journal String Throwable Unit :=
  (Journal.tell reading.lines >>= fun _ =>
    if reading.fails then Journal.throw .io else pure ()).tryCatch fun _ => pure ()

/-- `SourceLoader.parse`. -/
def parse (loads : Loads g) (source : HostsSource) (reading : Reading) : Run Unit :=
  Journal.tell (parseStatements source.id (loads source (readLines reading).log).batches)

/-- `SourceModel.downloadHostSource`. The handler at its end throws an `IOException` for an
`IOException`. -/
def downloadHostSource (p : Platform) (w : Outside) (loads : Loads g) (source : HostsSource) :
    Run Unit := do
  let request ← Journal.lift (requestFor p source)
  match w.get source.url request with
  | none => Journal.throw .io
  | some response =>
    Journal.closing response.body.close
      (if response.code = 304 then pure ()
      else do
        Journal.tell (response.entityTag.toList.map fun entityTag =>
          .updateEntityTag source.id (dropWeakPrefix entityTag))
        parse loads source response.body)

/-- `SourceModel.readSourceFile`. -/
def readSourceFile (w : Outside) (loads : Loads g) (source : HostsSource) : Run Unit :=
  match w.openInputStream source.url with
  | .opened reading => Journal.closing reading.close (parse loads source reading)
  | .notFound => Journal.throw .io
  -- the constructor of `InputStreamReader` refuses a null stream
  | .null => Journal.throw (.runtime .other)
  | .throws exception => Journal.throw (.runtime exception)

/-- The copy in the loop of `retrieveHostsSources`. -/
def copy (p : Platform) (w : Outside) (loads : Loads g) (source : HostsSource) : Run Unit :=
  match source.getType with
  | .url => downloadHostSource p w loads source
  | .file => readSourceFile w loads source
  | .unsupported => pure ()

/-- What a turn of the loop of `retrieveHostsSources` comes to. -/
inductive Turn
  /-- The source is disabled. -/
  | cleared
  /-- No update is available. -/
  | skipped
  /-- A copy. -/
  | copied
  /-- A failed copy. -/
  | failed
  deriving DecidableEq, Repr

/-- The statements at the end of a copy. -/
def stampStatements (now online : ZonedDateTime) (id : ℤ) : List Statement :=
  [.updateModificationDates id (if online.isAfter now then online else now) online, .updateSize id]

/-- A turn of the loop of `retrieveHostsSources`. -/
def retrieveTurn (p : Platform) (w : Outside) (loads : Loads g) (now : ZonedDateTime)
    (source : HostsSource) : Run Turn :=
  if source.enabled then do
    let lastUpdate ← Journal.lift (getHostsSourceLastUpdate p w source)
    let online := lastUpdate.getD now
    if source.localModificationDate.any fun d => d.isAfter online then pure .skipped
    else
      Journal.tryCatch
        (do
          copy p w loads source
          Journal.tell (stampStatements now online source.id)
          pure .copied)
        fun e => if e = .io then pure .failed else Journal.throw e
  else do
    Journal.tell [.clearSourceHosts source.id, .clearProperties source.id]
    pure .cleared

/-- All copies failed, and there were some. -/
def AllFailed (turns : List Turn) : Prop :=
  let numberOfCopies := turns.countP fun turn => turn = .copied ∨ turn = .failed
  let numberOfFailedCopies := turns.countP fun turn => turn = .failed
  numberOfCopies = numberOfFailedCopies ∧ numberOfCopies ≠ 0

instance (turns : List Turn) : Decidable (AllFailed turns) := by unfold AllFailed; infer_instance

/-- The loop of `retrieveHostsSources`, on the answer of `getAll`. -/
def retrieveTurns (p : Platform) (w : Outside) (loads : Loads g) (now : ZonedDateTime)
    (sources : List HostsSource) : Run (List Turn) :=
  Journal.forEach (retrieveTurn p w loads now) sources

/-- `retrieveHostsSources` up to the call of `syncHostEntries`. -/
def retrieve (p : Platform) (w : Outside) (loads : Loads g) (offline : Bool) (now : ZonedDateTime)
    (sources : List HostsSource) : Run Unit :=
  if offline then Journal.throw (.hostError .noConnection)
  else do
    let turns ← retrieveTurns p w loads now sources
    if AllFailed turns then Journal.throw (.hostError .downloadFailed) else pure ()

end SourceModel

/-- The three tables. -/
structure Tables where
  db : Database
  hostEntries : HostEntries

namespace SourceModel

/-- `SourceModel.syncHostEntries`. A bulk insert that violates the unique key throws after the table
has been cleared. -/
def syncHostEntries (q : ∀ items, SyncAnswers items) (t : Tables) : Except Throwable Unit × Tables :=
  match sync t.db.hostsLists.rows (q _) t.hostEntries with
  | some hostEntries => (.ok (), { t with hostEntries := hostEntries })
  | none => (.error (.runtime .other), { t with hostEntries := clear t.hostEntries })

/-- `SourceModel.retrieveHostsSources`, on the answer of `getAll`. -/
def retrieveHostsSources (p : Platform) (w : Outside) (loads : Loads g) (offline : Bool)
    (now : ZonedDateTime) (q : ∀ items, SyncAnswers items) (sources : List HostsSource) (t : Tables) :
    Except Throwable Unit × Tables :=
  let run := retrieve p w loads offline now sources
  let t := { t with db := execAll t.db run.log }
  match run.result with
  | .error e => (.error e, t)
  | .ok () => syncHostEntries q t

/-- A turn of the loop of `checkForUpdate`. -/
def checkTurn (p : Platform) (w : Outside) (now : ZonedDateTime) (source : HostsSource) : Run Bool := do
  let lastModifiedOnline ← Journal.lift (getHostsSourceLastUpdate p w source)
  Journal.tell [.updateOnlineModificationDate source.id lastModifiedOnline]
  return hasUpdate p.zone now lastModifiedOnline source

/-- `SourceModel.checkForUpdate`, on the answer of `getEnabled`. -/
def checkForUpdate (p : Platform) (w : Outside) (offline : Bool) (now : ZonedDateTime)
    (sources : List HostsSource) : Run Bool :=
  if offline then Journal.throw (.hostError .noConnection)
  else do
    let updates ← Journal.forEach (checkTurn p w now) sources
    return updates.any id

/-! ### The reader -/

/-- The reader delivers the lines read before a failure, and returns. -/
theorem readLines_eq (reading : Reading) : readLines reading = ⟨reading.lines, .ok ()⟩ := by
  rw [readLines, Journal.tell_bind]
  split
  next =>
    rw [Journal.tryCatch_of_error rfl]
    exact Journal.ext ((List.append_nil _).trans (List.append_nil _)) rfl
  next =>
    rw [Journal.tryCatch_of_ok rfl]
    exact Journal.ext (List.append_nil _) rfl

theorem parse_eq (loads : Loads g) (source : HostsSource) (reading : Reading) :
    parse loads source reading
      = Journal.tell (parseStatements source.id (loads source reading.lines).batches) := by
  rw [parse, readLines_eq]

theorem closing_close (reading : Reading) (sts : List Statement) :
    Journal.closing reading.close (Journal.tell sts) = ⟨sts, reading.close⟩ := by
  rw [Reading.close]
  split
  next => exact Journal.closing_of_close_error rfl Throwable.io
  next => exact Journal.closing_of_ok rfl

/-! ### Copying a source -/

/-- OkHttp accepts the request for the source. -/
def Requestable (p : Platform) (source : HostsSource) : Prop :=
  p.acceptsUrl source.url = true ∧ source.entityTag.all p.acceptsHeader = true ∧
    source.onlineModificationDate.all p.formatsDate = true

theorem requestFor_of_requestable {p : Platform} {source : HostsSource} (h : Requestable p source) :
    requestFor p source = .ok (getRequestFor source) := if_pos h

theorem requestFor_of_not_requestable {p : Platform} {source : HostsSource}
    (h : ¬ Requestable p source) : requestFor p source = .error (.runtime .other) := if_neg h

/-- The copy of the source gets as far as loading `reading`, with this entity tag. -/
inductive Fetched (p : Platform) (w : Outside) (source : HostsSource) : Option String → Reading → Prop
  | download {response : Response} (htype : source.getType = .url) (hrequest : Requestable p source)
      (hget : w.get source.url (getRequestFor source) = some response) (hcode : response.code ≠ 304) :
      Fetched p w source (response.entityTag.map dropWeakPrefix) response.body
  | file {reading : Reading} (htype : source.getType = .file)
      (hopen : w.openInputStream source.url = .opened reading) : Fetched p w source none reading

/-- An unchecked exception ends the copy of the source. -/
def FetchThrows (p : Platform) (w : Outside) (source : HostsSource) : Prop :=
  match source.getType with
  | .url => ¬ Requestable p source
  | .file => w.openInputStream source.url = .null ∨
      ∃ exception, w.openInputStream source.url = .throws exception
  | .unsupported => False

/-- The statements that load a body. -/
def loadStatements (loads : Loads g) (source : HostsSource) (entityTag : Option String)
    (reading : Reading) : List Statement :=
  entityTag.toList.map (.updateEntityTag source.id) ++
    parseStatements source.id (loads source reading.lines).batches

theorem loadStatements_eq (loads : Loads g) (source : HostsSource) (entityTag : Option String)
    (reading : Reading) : loadStatements loads source entityTag reading
      = storeStatements source.id entityTag (some (loads source reading.lines).batches) := by
  rw [loadStatements, storeStatements, Option.toList_some, List.flatMap_singleton]

/-- A body that is fetched is loaded, and the copy returns unless its reader fails on closing. -/
theorem copy_of_fetched {p : Platform} {w : Outside} (loads : Loads g) {source : HostsSource}
    {entityTag : Option String} {reading : Reading} (h : Fetched p w source entityTag reading) :
    copy p w loads source = ⟨loadStatements loads source entityTag reading, reading.close⟩ := by
  rw [copy]
  cases h with
  | @download response htype hrequest hget hcode =>
    have hload : (Journal.tell (response.entityTag.toList.map fun entityTag =>
          Statement.updateEntityTag source.id (dropWeakPrefix entityTag)) >>= fun _ =>
        parse loads source response.body : Run Unit)
        = Journal.tell (loadStatements loads source (response.entityTag.map dropWeakPrefix)
            response.body) := by
      rw [Journal.tell_bind, parse_eq, loadStatements]
      cases response.entityTag <;> rfl
    simp only [htype]
    rw [downloadHostSource, requestFor_of_requestable hrequest, Journal.lift_ok, Journal.pure_bind,
      hget]
    dsimp only
    rw [if_neg hcode, hload, closing_close]
  | file htype hopen =>
    simp only [htype]
    rw [readSourceFile, hopen]
    dsimp only
    rw [parse_eq, closing_close]
    rfl

/-- "Not modified" ends a copy without a body to load. -/
theorem copy_of_notModified {p : Platform} {w : Outside} (loads : Loads g) {source : HostsSource}
    {response : Response} (htype : source.getType = .url) (hrequest : Requestable p source)
    (hget : w.get source.url (getRequestFor source) = some response) (hcode : response.code = 304) :
    copy p w loads source = ⟨[], response.body.close⟩ := by
  simp only [copy, htype]
  rw [downloadHostSource, requestFor_of_requestable hrequest, Journal.lift_ok, Journal.pure_bind,
    hget]
  dsimp only
  rw [if_pos hcode]
  exact closing_close response.body []

theorem copy_of_fetchThrows {p : Platform} {w : Outside} (loads : Loads g) {source : HostsSource}
    (h : FetchThrows p w source) : ∃ e, copy p w loads source = ⟨[], .error (.runtime e)⟩ := by
  rw [FetchThrows] at h
  rw [copy]
  cases htype : source.getType with
  | url =>
    rw [htype] at h
    exact ⟨.other, by rw [downloadHostSource, requestFor_of_not_requestable h]; rfl⟩
  | file =>
    rw [htype] at h
    rcases h with hnull | ⟨exception, hthrows⟩
    · exact ⟨.other, by rw [readSourceFile, hnull]; rfl⟩
    · exact ⟨exception, by rw [readSourceFile, hthrows]; rfl⟩
  | unsupported =>
    rw [htype] at h
    exact h.elim

/-- **What copying a source comes to**: a body is loaded, or nothing is stored and the copy returns,
fails or throws. -/
theorem copy_cases (p : Platform) (w : Outside) (loads : Loads g) (source : HostsSource) :
    (∃ entityTag reading, Fetched p w source entityTag reading) ∨
    copy p w loads source = ⟨[], .ok ()⟩ ∨
    copy p w loads source = ⟨[], .error .io⟩ ∨
    FetchThrows p w source ∧ ∃ e, copy p w loads source = ⟨[], .error (.runtime e)⟩ := by
  by_cases hthrows : FetchThrows p w source
  · exact Or.inr (Or.inr (Or.inr ⟨hthrows, copy_of_fetchThrows loads hthrows⟩))
  rw [FetchThrows] at hthrows
  cases htype : source.getType with
  | url =>
    rw [htype] at hthrows
    have hrequest : Requestable p source := not_not.mp hthrows
    cases hget : w.get source.url (getRequestFor source) with
    | none =>
      simp only [copy, htype]
      rw [downloadHostSource, requestFor_of_requestable hrequest, Journal.lift_ok,
        Journal.pure_bind, hget]
      exact Or.inr (Or.inr (Or.inl rfl))
    | some response =>
      by_cases hcode : response.code = 304
      · -- "not modified": only closing the reader can fail
        rw [copy_of_notModified loads htype hrequest hget hcode, Reading.close]
        split
        · exact Or.inr (Or.inr (Or.inl rfl))
        · exact Or.inr (Or.inl rfl)
      · exact Or.inl ⟨_, _, .download htype hrequest hget hcode⟩
  | file =>
    rw [htype] at hthrows
    cases hopen : w.openInputStream source.url with
    | opened reading => exact Or.inl ⟨none, reading, .file htype hopen⟩
    | notFound =>
      simp only [copy, htype]
      rw [readSourceFile, hopen]
      exact Or.inr (Or.inr (Or.inl rfl))
    | null => exact absurd (Or.inl hopen) hthrows
    | throws exception => exact absurd (Or.inr ⟨exception, hopen⟩) hthrows
  | unsupported =>
    simp only [copy, htype]
    exact Or.inr (Or.inl rfl)

/-! ### Asking for the date of the last update -/

/-- An unchecked exception ends the query to the Git hosting. -/
def HostedQueryThrows (p : Platform) (url : String) : Prop :=
  GitHostsSource.ShortGistUrl p.getPath url ∨
    ∃ gitSource, GitHostsSource.getSource p.getPath url = .ok gitSource ∧
      p.acceptsUrl gitSource.getCommitApiUrl = false

/-- An unchecked exception ends the query for the date of the last update. -/
def QueryThrows (p : Platform) (w : Outside) (source : HostsSource) : Prop :=
  match source.getType with
  | .url =>
    if isHostedOnGit source.url then HostedQueryThrows p source.url else ¬ Requestable p source
  | .file => w.query source.url = .error .other
  | .unsupported => False

theorem getHostedLastUpdate_cases (p : Platform) (w : Outside) (url : String) :
    (¬ HostedQueryThrows p url ∧ ∃ lastUpdate, getHostedLastUpdate p w url = .ok lastUpdate) ∨
    (HostedQueryThrows p url ∧ getHostedLastUpdate p w url = .error (.runtime .other)) := by
  have hshort := GitHostsSource.getSource_eq_arrayIndexOutOfBounds_iff p.getPath url
  rw [getHostedLastUpdate, HostedQueryThrows]
  rcases hsource : GitHostsSource.getSource p.getPath url with (_ | _) | gitSource
  · rw [hsource] at hshort
    exact Or.inl ⟨by simp [← hshort], none, rfl⟩
  · exact Or.inr ⟨Or.inl (hshort.mp hsource), rfl⟩
  · rw [hsource] at hshort
    dsimp only
    rw [getGitLastUpdate]
    by_cases haccepts : p.acceptsUrl gitSource.getCommitApiUrl = true
    · rw [if_pos haccepts]
      exact Or.inl ⟨by simp [← hshort, haccepts], _, rfl⟩
    · rw [if_neg haccepts]
      exact Or.inr ⟨Or.inr ⟨gitSource, rfl, by simpa using haccepts⟩, rfl⟩

/-- The query returns, or an unchecked exception leaves it. -/
theorem getHostsSourceLastUpdate_cases (p : Platform) (w : Outside) (source : HostsSource) :
    (¬ QueryThrows p w source ∧
      ∃ lastUpdate, getHostsSourceLastUpdate p w source = .ok lastUpdate) ∨
    (QueryThrows p w source ∧ getHostsSourceLastUpdate p w source = .error (.runtime .other)) := by
  rw [QueryThrows, getHostsSourceLastUpdate]
  cases source.getType with
  | url =>
    dsimp only
    rw [getUrlLastUpdate]
    split
    next => exact getHostedLastUpdate_cases p w source.url
    next =>
      by_cases hrequest : Requestable p source
      · rw [requestFor_of_requestable hrequest]
        exact Or.inl ⟨not_not_intro hrequest, _, rfl⟩
      · rw [requestFor_of_not_requestable hrequest]
        exact Or.inr ⟨hrequest, rfl⟩
  | file =>
    dsimp only
    rw [getFileLastUpdate]
    rcases w.query source.url with (_ | _) | date
    · exact Or.inl ⟨nofun, none, rfl⟩
    · exact Or.inr ⟨rfl, rfl⟩
    · exact Or.inl ⟨nofun, date, rfl⟩
  | unsupported => exact Or.inl ⟨id, none, rfl⟩

/-! ### A turn of the loop -/

/-- The turn of the source gets to its copy, the date of the last update being this one. -/
structure Attempted (p : Platform) (w : Outside) (now : ZonedDateTime) (source : HostsSource)
    (lastUpdate : Option ZonedDateTime) : Prop where
  enabled : source.enabled = true
  queried : getHostsSourceLastUpdate p w source = .ok lastUpdate
  not_skipped : (source.localModificationDate.any fun d => d.isAfter (lastUpdate.getD now)) = false

section Turn

variable {p : Platform} {w : Outside} {loads : Loads g} {now : ZonedDateTime} {source : HostsSource}

theorem retrieveTurn_of_attempted {lastUpdate : Option ZonedDateTime}
    (h : Attempted p w now source lastUpdate) :
    retrieveTurn p w loads now source
      = (copy p w loads source >>= fun _ =>
          Journal.tell (stampStatements now (lastUpdate.getD now) source.id) >>= fun _ =>
          pure Turn.copied).tryCatch fun e => if e = .io then pure .failed else Journal.throw e := by
  rw [retrieveTurn, if_pos h.enabled, h.queried, Journal.lift_ok, Journal.pure_bind]
  exact if_neg (by rw [h.not_skipped]; exact Bool.false_ne_true)

/-- A copy that returns is stamped. -/
theorem retrieveTurn_of_copy_ok {lastUpdate : Option ZonedDateTime} {log : List Statement}
    (h : Attempted p w now source lastUpdate) (hcopy : copy p w loads source = ⟨log, .ok ()⟩) :
    retrieveTurn p w loads now source
      = ⟨log ++ stampStatements now (lastUpdate.getD now) source.id, .ok .copied⟩ := by
  rw [retrieveTurn_of_attempted h, hcopy, Journal.bind_of_ok rfl, Journal.tell_bind,
    Journal.tryCatch_of_ok rfl]
  exact Journal.ext (congrArg (log ++ ·) (List.append_nil _)) rfl

/-- An `IOException` makes a failed copy. -/
theorem retrieveTurn_of_copy_io {lastUpdate : Option ZonedDateTime} {log : List Statement}
    (h : Attempted p w now source lastUpdate) (hcopy : copy p w loads source = ⟨log, .error .io⟩) :
    retrieveTurn p w loads now source = ⟨log, .ok .failed⟩ := by
  rw [retrieveTurn_of_attempted h, hcopy, Journal.bind_of_error rfl, Journal.tryCatch_of_error rfl]
  exact Journal.ext (List.append_nil _) rfl

/-- A copy that ends with closing its reader is stamped, unless that fails. -/
theorem retrieveTurn_of_close {lastUpdate : Option ZonedDateTime} {log : List Statement}
    {reading : Reading} (h : Attempted p w now source lastUpdate)
    (hcopy : copy p w loads source = ⟨log, reading.close⟩) :
    retrieveTurn p w loads now source
      = if reading.closeFails then ⟨log, .ok .failed⟩
        else ⟨log ++ stampStatements now (lastUpdate.getD now) source.id, .ok .copied⟩ := by
  rw [Reading.close] at hcopy
  split
  next hclose =>
    rw [if_pos hclose] at hcopy
    exact retrieveTurn_of_copy_io h hcopy
  next hclose =>
    rw [if_neg hclose] at hcopy
    exact retrieveTurn_of_copy_ok h hcopy

/-- An unchecked exception ends the loop. -/
theorem retrieveTurn_of_copy_runtime {lastUpdate : Option ZonedDateTime} {log : List Statement}
    {e : RuntimeException} (h : Attempted p w now source lastUpdate)
    (hcopy : copy p w loads source = ⟨log, .error (.runtime e)⟩) :
    retrieveTurn p w loads now source = ⟨log, .error (.runtime e)⟩ := by
  rw [retrieveTurn_of_attempted h, hcopy, Journal.bind_of_error rfl, Journal.tryCatch_of_error rfl]
  exact Journal.ext (List.append_nil _) rfl

variable (loads) in
/-- **A fetched body**: the copy is counted as failed only when its reader fails on closing. -/
theorem retrieveTurn_of_fetched {lastUpdate : Option ZonedDateTime} {entityTag : Option String}
    {reading : Reading} (h : Attempted p w now source lastUpdate)
    (hfetched : Fetched p w source entityTag reading) :
    retrieveTurn p w loads now source
      = if reading.closeFails then ⟨loadStatements loads source entityTag reading, .ok .failed⟩
        else ⟨loadStatements loads source entityTag reading ++
          stampStatements now (lastUpdate.getD now) source.id, .ok .copied⟩ :=
  retrieveTurn_of_close h (copy_of_fetched loads hfetched)

/-- **The turns of the loop**: the source is cleared or skipped, its date cannot be asked for, or it
is copied. -/
theorem retrieveTurn_cases (p : Platform) (w : Outside) (loads : Loads g) (now : ZonedDateTime)
    (source : HostsSource) :
    (source.enabled = false ∧ retrieveTurn p w loads now source
      = ⟨[.clearSourceHosts source.id, .clearProperties source.id], .ok .cleared⟩) ∨
    (source.enabled = true ∧ retrieveTurn p w loads now source = ⟨[], .ok .skipped⟩ ∧
      ¬ QueryThrows p w source ∧ ∀ lastUpdate, ¬ Attempted p w now source lastUpdate) ∨
    (source.enabled = true ∧ QueryThrows p w source ∧
      retrieveTurn p w loads now source = ⟨[], .error (.runtime .other)⟩) ∨
    (¬ QueryThrows p w source ∧ ∃ lastUpdate, Attempted p w now source lastUpdate) := by
  cases hen : source.enabled with
  | false =>
    refine Or.inl ⟨rfl, ?_⟩
    rw [retrieveTurn, if_neg (by simp [hen])]
    rfl
  | true =>
    rcases getHostsSourceLastUpdate_cases p w source with ⟨hnot, lastUpdate, hquery⟩ | ⟨hthrows, hquery⟩
    · cases hskip : source.localModificationDate.any fun d => d.isAfter (lastUpdate.getD now) with
      | false => exact Or.inr (Or.inr (Or.inr ⟨hnot, lastUpdate, hen, hquery, hskip⟩))
      | true =>
        refine Or.inr (Or.inl ⟨rfl, ?_, hnot, fun lastUpdate' h => ?_⟩)
        · rw [retrieveTurn, if_pos hen, hquery, Journal.lift_ok, Journal.pure_bind]
          exact if_pos hskip
        · obtain rfl : lastUpdate = lastUpdate' := Except.ok.inj (hquery.symm.trans h.queried)
          rw [h.not_skipped] at hskip
          cases hskip
    · refine Or.inr (Or.inr (Or.inl ⟨rfl, hthrows, ?_⟩))
      rw [retrieveTurn, if_pos hen, hquery]
      rfl

theorem mem_loadStatements {entityTag : Option String} {reading : Reading} {st : Statement}
    (h : st ∈ loadStatements loads source entityTag reading) :
    st = .clearSourceHosts source.id ∨ st.Stamps source.id ∨
      ∃ items, st = .insertItems items ∧ ∀ i ∈ items, i.enabled = true ∧ i.sourceId = source.id := by
  rcases List.mem_append.mp h with h | h
  · exact Or.inr (Or.inl (stamps_updateEntityTag st h))
  · rcases List.mem_cons.mp h with rfl | h
    · exact Or.inl rfl
    · obtain ⟨batch, hbatch, rfl⟩ := List.mem_map.mp h
      refine Or.inr (Or.inr ⟨batch, rfl, fun i hi => ?_⟩)
      obtain ⟨hen, hsource, -⟩ :=
        (loads source reading.lines).stored (List.mem_flatten.mpr ⟨batch, hbatch, hi⟩)
      exact ⟨hen, hsource⟩

/-- **The statements of a turn of the loop** clear its source, stamp it, or insert enabled items of
it when it is enabled itself. -/
theorem mem_retrieveTurn {st : Statement} (hst : st ∈ (retrieveTurn p w loads now source).log) :
    st = .clearSourceHosts source.id ∨ st.Stamps source.id ∨
      (source.enabled = true ∧
        ∃ items, st = .insertItems items ∧ ∀ i ∈ items, i.enabled = true ∧ i.sourceId = source.id) := by
  rcases retrieveTurn_cases p w loads now source with ⟨-, h⟩ | ⟨-, h, -⟩ | ⟨-, -, h⟩ |
    ⟨-, lastUpdate, hattempted⟩
  · rw [h] at hst
    rcases List.mem_cons.mp hst with rfl | hst
    · exact Or.inl rfl
    · obtain rfl := List.mem_singleton.mp hst
      exact Or.inr (Or.inl rfl)
  · rw [h] at hst
    exact absurd hst List.not_mem_nil
  · rw [h] at hst
    exact absurd hst List.not_mem_nil
  · have hload : ∀ {entityTag : Option String} {reading : Reading},
        st ∈ loadStatements loads source entityTag reading →
        st = .clearSourceHosts source.id ∨ st.Stamps source.id ∨ (source.enabled = true ∧
          ∃ items, st = .insertItems items ∧
            ∀ i ∈ items, i.enabled = true ∧ i.sourceId = source.id) := fun h =>
      (mem_loadStatements h).imp_right (Or.imp_right fun hitems => ⟨hattempted.enabled, hitems⟩)
    have hstamps : st ∈ stampStatements now (lastUpdate.getD now) source.id →
        st.Stamps source.id := fun h => stamps_updateModificationDates st h
    rcases copy_cases p w loads source with ⟨entityTag, reading, hfetched⟩ | h | h | ⟨-, e, h⟩
    · rw [retrieveTurn_of_fetched loads hattempted hfetched] at hst
      split at hst
      next => exact hload hst
      next =>
        rcases List.mem_append.mp hst with hst | hst
        · exact hload hst
        · exact Or.inr (Or.inl (hstamps hst))
    · rw [retrieveTurn_of_copy_ok hattempted h] at hst
      exact Or.inr (Or.inl (hstamps hst))
    · rw [retrieveTurn_of_copy_io hattempted h] at hst
      exact absurd hst List.not_mem_nil
    · rw [retrieveTurn_of_copy_runtime hattempted h] at hst
      exact absurd hst List.not_mem_nil

/-- **A turn of the loop is about its source.** -/
theorem about_retrieveTurn : ∀ st ∈ (retrieveTurn p w loads now source).log, st.About source.id := by
  intro st hst
  rcases mem_retrieveTurn hst with rfl | hstamps | ⟨-, items, rfl, hitems⟩
  · exact rfl
  · exact hstamps.about
  · exact fun i hi => (hitems i hi).2

end Turn

/-! ### Where every address leads to its site -/

/-- What reading the page delivers. -/
def readingOf (site : Site) (page : Page) : Reading :=
  ⟨site.delivered page, site.breaksAfter.isSome, site.closeFails⟩

/-- The response of the server of the HTTP standard, with the body as it is delivered. -/
def respond (request : Request) (site : Site) (page : Page) : Response :=
  if notModified request page then
    { code := 304
      entityTag := page.entityTag
      lastModified :=
        (if page.datesNotModified then page.lastModified else none).map fun date =>
          some (fromTimestamp date)
      body := ⟨[], false, site.closeFails⟩ }
  else
    { code := 200
      entityTag := page.entityTag
      lastModified := page.lastModified.map fun date => some (fromTimestamp date)
      body := readingOf site page }

/-- Every address leads to its site. -/
structure Serves (p : Platform) (w : Outside) (web : String → Site) : Prop where
  head : ∀ url request, w.head url request = (web url).page.map (respond request (web url))
  get : ∀ url request, w.get url request = (web url).page.map (respond request (web url))
  hosted : ∀ url, isHostedOnGit url = true → ¬ HostedQueryThrows p url →
    getHostedLastUpdate p w url = .ok (web url).lastUpdate
  query : ∀ url, w.query url = .ok (web url).lastUpdate
  openInputStream : ∀ url, w.openInputStream url
    = (web url).page.elim .notFound fun page => .opened (readingOf (web url) page)

section Serves

variable {p : Platform} {w : Outside} {web : String → Site} {loads : Loads g} {now : ZonedDateTime}
  {source : HostsSource}

theorem headLastUpdate_respond (request : Request) (site : Site) (page : Page) :
    headLastUpdate source (some (respond request site page))
      = if notModified request page then
          match if page.datesNotModified then page.lastModified else none with
          | some lastModified => some (fromTimestamp lastModified)
          | none => source.onlineModificationDate
        else page.lastModified.map fromTimestamp := by
  rw [respond]
  split
  next =>
    rw [headLastUpdate]
    cases hdate : (if page.datesNotModified then page.lastModified else none) with
    | none => rfl
    | some date => rfl
  next =>
    rw [headLastUpdate]
    cases hdate : page.lastModified with
    | none => rfl
    | some date => rfl

theorem getHostsSourceLastUpdate_of_serves (h : Serves p w web) (hnot : ¬ QueryThrows p w source) :
    getHostsSourceLastUpdate p w source
      = .ok (AdAway.getHostsSourceLastUpdate (web source.url) source) := by
  rw [QueryThrows] at hnot
  rw [getHostsSourceLastUpdate, AdAway.getHostsSourceLastUpdate]
  cases htype : source.getType with
  | url =>
    rw [htype] at hnot
    dsimp only at hnot ⊢
    rw [getUrlLastUpdate, AdAway.getUrlLastUpdate]
    split
    next hhosted =>
      rw [if_pos hhosted] at hnot
      exact h.hosted source.url hhosted hnot
    next hhosted =>
      rw [if_neg hhosted, not_not] at hnot
      rw [requestFor_of_requestable hnot]
      show Except.ok (headLastUpdate source (w.head source.url (getRequestFor source))) = _
      rw [h.head]
      cases (web source.url).page with
      | none => rfl
      | some page => exact congrArg Except.ok (headLastUpdate_respond _ _ page)
  | file => simp only [getFileLastUpdate, h.query]
  | unsupported => rfl

/-- What a turn comes to that makes this copy. -/
def turnOf : Copy → Turn
  | .skipped => .skipped
  | .failed _ _ => .failed
  | .done _ _ => .copied

/-- A copy that ends with closing its reader. -/
theorem retrieveTurn_of_ends {lastUpdate : Option ZonedDateTime} {entityTag : Option String}
    {batches : Option (List (List HostListItem))} {site : Site} {reading : Reading}
    (hattempted : Attempted p w now source lastUpdate)
    (hclose : reading.closeFails = site.closeFails)
    (hcopy : copy p w loads source
      = ⟨storeStatements source.id entityTag batches, reading.close⟩) :
    retrieveTurn p w loads now source
      = ⟨(site.ends entityTag batches).statements now (lastUpdate.getD now) source.id,
        .ok (turnOf (site.ends entityTag batches))⟩ := by
  rw [retrieveTurn_of_close hattempted hcopy, hclose, Site.ends]
  cases site.closeFails <;> rfl

/-- A loaded page, as a copy. -/
theorem retrieveTurn_of_loaded {lastUpdate : Option ZonedDateTime} {entityTag : Option String}
    {site : Site} {page : Page}
    (hattempted : Attempted p w now source lastUpdate)
    (hfetched : Fetched p w source entityTag (readingOf site page)) :
    retrieveTurn p w loads now source
      = ⟨(site.ends entityTag (some (loads source (site.delivered page)).batches)).statements now
          (lastUpdate.getD now) source.id,
        .ok (turnOf (site.ends entityTag (some (loads source (site.delivered page)).batches)))⟩ := by
  have hcopy := copy_of_fetched loads hfetched
  rw [loadStatements_eq] at hcopy
  exact retrieveTurn_of_ends hattempted rfl hcopy

/-- A turn that gets to a download makes the download from the site. -/
theorem retrieveTurn_of_download (h : Serves p w web) {lastUpdate : Option ZonedDateTime}
    (hattempted : Attempted p w now source lastUpdate) (htype : source.getType = .url)
    (hrequest : Requestable p source) :
    retrieveTurn p w loads now source
      = ⟨(AdAway.downloadHostSource loads (web source.url) source).statements now
          (lastUpdate.getD now) source.id,
        .ok (turnOf (AdAway.downloadHostSource loads (web source.url) source))⟩ := by
  have hget := h.get source.url (getRequestFor source)
  rw [AdAway.downloadHostSource]
  cases hpage : (web source.url).page with
  | none =>
    rw [hpage] at hget
    have hcopy : copy p w loads source = ⟨[], .error .io⟩ := by
      simp only [copy, htype]
      rw [downloadHostSource, requestFor_of_requestable hrequest, Journal.lift_ok,
        Journal.pure_bind, hget]
      rfl
    exact retrieveTurn_of_copy_io hattempted hcopy
  | some page =>
    rw [hpage] at hget
    dsimp only
    cases hmodified : notModified (getRequestFor source) page with
    | true =>
      have hrespond : respond (getRequestFor source) (web source.url) page
          = ⟨304, page.entityTag, _, ⟨[], false, (web source.url).closeFails⟩⟩ := if_pos hmodified
      have hcopy := copy_of_notModified loads htype hrequest hget (by rw [hrespond])
      rw [if_pos rfl]
      exact retrieveTurn_of_ends hattempted (by rw [hrespond]) hcopy
    | false =>
      have hrespond : respond (getRequestFor source) (web source.url) page
          = ⟨200, page.entityTag, _, readingOf (web source.url) page⟩ :=
        if_neg (by rw [hmodified]; exact Bool.false_ne_true)
      have hfetched := Fetched.download htype hrequest hget
        (by rw [hrespond]; exact (by decide : (200 : ℕ) ≠ 304))
      rw [hrespond] at hfetched
      rw [if_neg Bool.false_ne_true]
      exact retrieveTurn_of_loaded hattempted hfetched

/-- A turn that gets to a file reads the file of the site. -/
theorem retrieveTurn_of_file (h : Serves p w web) {lastUpdate : Option ZonedDateTime}
    (hattempted : Attempted p w now source lastUpdate) (htype : source.getType = .file) :
    retrieveTurn p w loads now source
      = ⟨(AdAway.readSourceFile loads (web source.url) source).statements now
          (lastUpdate.getD now) source.id,
        .ok (turnOf (AdAway.readSourceFile loads (web source.url) source))⟩ := by
  have hopen := h.openInputStream source.url
  rw [AdAway.readSourceFile]
  cases hpage : (web source.url).page with
  | none =>
    rw [hpage] at hopen
    have hcopy : copy p w loads source = ⟨[], .error .io⟩ := by
      simp only [copy, htype]
      rw [readSourceFile, hopen]
      rfl
    exact retrieveTurn_of_copy_io hattempted hcopy
  | some page =>
    rw [hpage] at hopen
    exact retrieveTurn_of_loaded hattempted (.file htype hopen)

/-- A turn that gets to its copy makes the copy of the site. -/
theorem retrieveTurn_of_serves_attempted (h : Serves p w web) {lastUpdate : Option ZonedDateTime}
    (hattempted : Attempted p w now source lastUpdate) (hnot : ¬ FetchThrows p w source)
    (hdate : AdAway.getHostsSourceLastUpdate (web source.url) source = lastUpdate) :
    retrieveTurn p w loads now source
      = ⟨(copySource loads now (web source.url) source).statements now (lastUpdate.getD now) source.id,
        .ok (turnOf (copySource loads now (web source.url) source))⟩ := by
  rw [copySource, onlineDate, hdate, hattempted.not_skipped, if_neg Bool.false_ne_true]
  rw [FetchThrows] at hnot
  cases htype : source.getType with
  | url =>
    rw [htype] at hnot
    exact retrieveTurn_of_download h hattempted htype (not_not.mp hnot)
  | file => exact retrieveTurn_of_file h hattempted htype
  | unsupported =>
    have hcopy : copy p w loads source = ⟨[], .ok ()⟩ := by
      simp only [copy, htype]
      rfl
    exact retrieveTurn_of_copy_ok hattempted hcopy

variable (loads) in
/-- **Where every address leads to its site** and no unchecked exception is thrown, a turn of the
loop makes the statements and the copy of `retrieveSource` and `copySource`. -/
theorem retrieveTurn_of_serves (h : Serves p w web)
    (hnot : source.enabled = true → ¬ QueryThrows p w source ∧
      ∀ lastUpdate, Attempted p w now source lastUpdate → ¬ FetchThrows p w source) :
    retrieveTurn p w loads now source
      = ⟨retrieveSource now (onlineDate now (web source.url) source) source
          (copySource loads now (web source.url) source),
        .ok (if source.enabled then turnOf (copySource loads now (web source.url) source)
          else .cleared)⟩ := by
  rcases retrieveTurn_cases p w loads now source with ⟨hdis, hturn⟩ | ⟨hen, hturn, hquery, hskip⟩ |
    ⟨hen, hthrows, -⟩ | ⟨hquery, lastUpdate, hattempted⟩
  · rw [hturn, retrieveSource, hdis]
    rfl
  · have hdate := getHostsSourceLastUpdate_of_serves h hquery
    have hskipped : copySource loads now (web source.url) source = .skipped := by
      rw [copySource]
      refine if_pos ?_
      by_contra hne
      exact hskip _ ⟨hen, hdate, Bool.eq_false_iff.mpr hne⟩
    rw [hturn, retrieveSource, hskipped, if_pos hen, if_pos hen]
    rfl
  · exact absurd hthrows (hnot hen).1
  · have hen := hattempted.enabled
    have hdate : AdAway.getHostsSourceLastUpdate (web source.url) source = lastUpdate :=
      Except.ok.inj ((getHostsSourceLastUpdate_of_serves h hquery).symm.trans hattempted.queried)
    rw [retrieveTurn_of_serves_attempted h hattempted ((hnot hen).2 lastUpdate hattempted) hdate,
      retrieveSource, if_pos hen, if_pos hen, onlineDate, hdate]

/-- **The loop of the retrieval** makes the statements of `retrieveStatements`. -/
theorem log_retrieveTurns_of_serves (h : Serves p w web) {sources : List HostsSource}
    (hnot : ∀ source ∈ sources, source.enabled = true → ¬ QueryThrows p w source ∧
      ∀ lastUpdate, Attempted p w now source lastUpdate → ¬ FetchThrows p w source) :
    (retrieveTurns p w loads now sources).log = retrieveStatements loads now web sources := by
  obtain ⟨turns, hturns⟩ := Journal.forEach_isOk_iff.mpr fun source hsource =>
    ⟨_, congrArg Journal.result (retrieveTurn_of_serves loads h (hnot source hsource))⟩
  rw [retrieveTurns, (Journal.log_forEach hturns).1, retrieveStatements]
  exact List.flatMap_congr fun source hsource =>
    congrArg Journal.log (retrieveTurn_of_serves loads h (hnot source hsource))

end Serves

end SourceModel

end AdAway
