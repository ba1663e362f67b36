import AdAway.Source.DownloadFailures

/-!
# The dates of a retrieved source

A retrieval stores two dates of a source: the one its site gave, and the later one of this and the
time of the device. The second is there so that the source does not look older than its site. Both
columns hold seconds. SQL compares the columns, and finds them in order; `checkForUpdate` compares
the column with the date that the site gives this time, which still has its nanoseconds.

Without a date from the site, `checkForUpdate` goes back a week on the local time line of the device,
which is 167 or 169 hours around a change of the clocks.

## Main definitions

* `outdatedSources`, `countOutdated` — the query of the home screen
* `UpdateCheck`, `stepCheck` — checks after a retrieval
* `StaysUpToDate` — what the dates of a retrieval owe
* `LateEnough` — the dates that do

## Main results

* `row_of_copied` — the row that a copy leaves
* `FollowedBy.run` — what later checks of the same date leave of it
* `SourceModel.staysUpToDate_iff` — when a retrieved source stays up to date
-/

namespace AdAway

/-! ### Queries -/

/-- The source is counted by `HostsSourceDao.countOutdated`. A missing date compares to nothing. -/
def HostsSource.outdated (source : HostsSource) : Bool :=
  source.enabled && source.onlineModificationDate.any fun online =>
    source.localModificationDate.any fun date => toTimestamp date < toTimestamp online

/-- The sources that `HostsSourceDao.countOutdated` counts. -/
def outdatedSources (db : Database) : List HostsSource :=
  db.hostsSources.rows.filter HostsSource.outdated

/-- `HostsSourceDao.countOutdated`. -/
def countOutdated (db : Database) : ℕ := (outdatedSources db).length

/-- The later date, rounded down, is not exceeded by the other, rounded down. -/
theorem toTimestamp_le_max (online now : ZonedDateTime) :
    toTimestamp online ≤ toTimestamp (if online.isAfter now then online else now) := by
  split
  next => exact le_refl _
  next hafter =>
    rw [ZonedDateTime.isAfter, decide_eq_true_eq] at hafter
    rw [toTimestamp, toTimestamp]
    omega

/-! ### The row that a copy leaves -/

namespace SourceModel

variable {g : Guava} {p : Platform} {w : Outside} {loads : Loads g} {now : ZonedDateTime}
  {source : HostsSource} {lastUpdate : Option ZonedDateTime} {db : Database}

/-- The local date that a copy stores. -/
def copiedDate (now : ZonedDateTime) (lastUpdate : Option ZonedDateTime) : ZonedDateTime :=
  if (lastUpdate.getD now).isAfter now then lastUpdate.getD now else now

/-- A turn that copies the source ends by stamping it. -/
theorem log_of_copied (h : Attempted p w now source lastUpdate)
    (hcopied : (retrieveTurn p w loads now source).result = .ok .copied) :
    ∃ entityTag : Option String, ∃ batches : Option (List (List HostListItem)),
      (retrieveTurn p w loads now source).log =
        (Copy.done entityTag batches).statements now (lastUpdate.getD now) source.id := by
  rcases copy_cases p w loads source with ⟨entityTag, reading, hfetched⟩ | hcopy | hcopy |
    ⟨-, e, hcopy⟩
  · rw [retrieveTurn_of_fetched loads h hfetched] at hcopied ⊢
    split at hcopied
    next => exact absurd hcopied (by simp)
    next hclose =>
      rw [if_neg hclose]
      refine ⟨entityTag, some (loads source reading.lines).batches, ?_⟩
      rw [loadStatements_eq]
      rfl
  · rw [retrieveTurn_of_copy_ok h hcopy]
    exact ⟨none, none, rfl⟩
  · rw [retrieveTurn_of_copy_io h hcopy] at hcopied
    exact absurd hcopied (by simp)
  · rw [retrieveTurn_of_copy_runtime h hcopy] at hcopied
    exact absurd hcopied (by simp)

/-- **The row that a copy leaves** is enabled and has both dates. -/
theorem row_of_copied (hsource : db.source source.id = some source)
    (h : Attempted p w now source lastUpdate)
    (hcopied : (retrieveTurn p w loads now source).result = .ok .copied) :
    ∃ s, (execAll db (retrieveTurn p w loads now source).log).source source.id = some s ∧
      s.enabled = true ∧ s.localModificationDate = some (copiedDate now lastUpdate).stored ∧
      s.onlineModificationDate = some (lastUpdate.getD now).stored := by
  obtain ⟨entityTag, batches, hlog⟩ := log_of_copied h hcopied
  obtain ⟨s, hs, hsettings, -, hdate, honline, -⟩ :=
    Copy.execAll_done hsource now (lastUpdate.getD now) entityTag batches
  exact ⟨s, hlog ▸ hs, hsettings.enabled_eq.trans h.enabled, hdate, honline⟩

end SourceModel

/-! ### Later checks -/

/-- A call of `SourceModel.checkForUpdate`, on the answer of `getEnabled`. -/
structure UpdateCheck where
  p : Platform
  w : Outside
  offline : Bool
  now : ZonedDateTime
  sources : List HostsSource

/-- The run of the check. -/
def UpdateCheck.journal (c : UpdateCheck) : Run Bool :=
  SourceModel.checkForUpdate c.p c.w c.offline c.now c.sources

/-- One check. -/
def stepCheck (db : Database) (c : UpdateCheck) : Option Database :=
  if IsEnabledAnswer db c.sources then some (execAll db c.journal.log) else none

/-- If the check asks for the date of the source, it gets this one. -/
def UpdateCheck.Observes (c : UpdateCheck) (id : ℤ) (lastUpdate : Option ZonedDateTime) : Prop :=
  ∀ s ∈ c.sources, s.id = id → SourceModel.getHostsSourceLastUpdate c.p c.w s = .ok lastUpdate

/-- The check reports an update because of the source. -/
def UpdateCheck.ReportsFor (c : UpdateCheck) (id : ℤ) : Prop :=
  c.offline = false ∧
    ∃ s ∈ c.sources, s.id = id ∧ (SourceModel.checkTurn c.p c.w c.now s).result = .ok true

/-- The row of the source, copied with this local date. A check may have overwritten the online one.
-/
structure FollowedBy (id : ℤ) (date : ZonedDateTime) (db : Database) (s : HostsSource) : Prop where
  row : db.source id = some s
  enabled : s.enabled = true
  localModificationDate : s.localModificationDate = some date.stored
  online : ∀ online, s.onlineModificationDate = some online → toTimestamp online ≤ toTimestamp date

section Checks

variable {id : ℤ} {date : ZonedDateTime} {lastUpdate : Option ZonedDateTime} {db db' : Database}
  {c : UpdateCheck} {cs : List UpdateCheck}

/-- What a check writes is the date it gets for a source. -/
theorem mem_log_checkTurn {p : Platform} {w : Outside} {now : ZonedDateTime} {source : HostsSource}
    {st : Statement} (h : st ∈ (SourceModel.checkTurn p w now source).log) :
    ∃ online, SourceModel.getHostsSourceLastUpdate p w source = .ok online ∧
      st = .updateOnlineModificationDate source.id online := by
  rw [SourceModel.checkTurn] at h
  rcases hquery : SourceModel.getHostsSourceLastUpdate p w source with e | online
  · rw [hquery] at h
    exact absurd h List.not_mem_nil
  · rw [hquery] at h
    exact ⟨online, rfl, List.mem_singleton.mp h⟩

theorem mem_log_journal {st : Statement} (h : st ∈ c.journal.log) :
    ∃ s ∈ c.sources, st ∈ (SourceModel.checkTurn c.p c.w c.now s).log := by
  rw [UpdateCheck.journal, SourceModel.checkForUpdate] at h
  split at h
  next => exact absurd h List.not_mem_nil
  next =>
    rcases Journal.isOk_or_error
      (Journal.forEach (SourceModel.checkTurn c.p c.w c.now) c.sources) with ⟨bs, hbs⟩ | ⟨e, he⟩
    · rw [Journal.bind_of_ok hbs] at h
      rcases List.mem_append.mp h with h | h
      · exact Journal.mem_log_forEach h
      · exact absurd h List.not_mem_nil
    · rw [Journal.bind_of_error he] at h
      exact Journal.mem_log_forEach h

/-- A check of the same date leaves the local date, and no later online one. -/
theorem FollowedBy.exec {s : HostsSource} (h : FollowedBy id date db s)
    (hdate : ∀ d, lastUpdate = some d → toTimestamp d ≤ toTimestamp date) {k : ℤ}
    {online : Option ZonedDateTime} (hsame : k = id → online = lastUpdate) :
    ∃ s', FollowedBy id date (Statement.exec db (.updateOnlineModificationDate k online)) s' := by
  by_cases hid : k = id
  · obtain rfl := hsame hid
    refine ⟨{ s with onlineModificationDate := online.map ZonedDateTime.stored }, ?_, h.enabled,
      h.localModificationDate, ?_⟩
    · rw [Statement.source_exec, h.row]
      simp [Statement.onSource, hid, id_of_source h.row]
    · intro stored hstored
      obtain ⟨d, hd, rfl⟩ := Option.map_eq_some_iff.mp hstored
      rw [toTimestamp_stored]
      exact hdate d hd
  · refine ⟨s, ?_, h.enabled, h.localModificationDate, h.online⟩
    rw [Statement.source_exec, h.row, Option.map_some]
    refine congrArg some (if_neg ?_)
    rw [id_of_source h.row]
    exact Ne.symm hid

theorem FollowedBy.execAll {sts : List Statement} {s : HostsSource} (h : FollowedBy id date db s)
    (hdate : ∀ d, lastUpdate = some d → toTimestamp d ≤ toTimestamp date)
    (hsts : ∀ st ∈ sts, ∃ k online, st = .updateOnlineModificationDate k online ∧
      (k = id → online = lastUpdate)) :
    ∃ s', FollowedBy id date (execAll db sts) s' := by
  induction sts generalizing db s with
  | nil => exact ⟨s, h⟩
  | cons st sts ih =>
    obtain ⟨⟨k, online, rfl, hsame⟩, hrest⟩ := List.forall_mem_cons.mp hsts
    obtain ⟨s', h'⟩ := h.exec hdate hsame
    exact ih h' hrest

/-- **Checks of the same date** leave the local date, and no later online one. -/
theorem FollowedBy.run {s : HostsSource} (h : FollowedBy id date db s)
    (hdate : ∀ d, lastUpdate = some d → toTimestamp d ≤ toTimestamp date)
    (hsame : ∀ c ∈ cs, c.Observes id lastUpdate)
    (hrun : ActionSystem.run stepCheck db cs = some db') : ∃ s', FollowedBy id date db' s' := by
  refine ActionSystem.invariant_run_of_forall_mem (I := fun db => ∃ s, FollowedBy id date db s)
    (P := fun c => c.Observes id lastUpdate) ?_ ⟨s, h⟩ hsame hrun
  rintro db c db' ⟨s, h⟩ hc hstep
  obtain ⟨-, hstep⟩ := Option.ite_none_right_eq_some.mp hstep
  obtain rfl := Option.some.inj hstep
  refine h.execAll hdate fun st hst => ?_
  obtain ⟨source, hmem, hst⟩ := mem_log_journal hst
  obtain ⟨online, hquery, rfl⟩ := mem_log_checkTurn hst
  exact ⟨source.id, online, rfl, fun hid => Except.ok.inj (hquery.symm.trans (hc source hmem hid))⟩

theorem FollowedBy.not_outdated {s : HostsSource} (h : FollowedBy id date db s) :
    s.outdated = false := by
  rw [HostsSource.outdated, h.enabled, h.localModificationDate, Bool.true_and]
  cases honline : s.onlineModificationDate with
  | none => rfl
  | some online =>
    have hle := h.online online honline
    simp only [Option.any_some, toTimestamp_stored, decide_eq_false_iff_not]
    omega

/-- A check that asks for the source reports what `hasUpdate` says of its row. -/
theorem FollowedBy.reportsFor_iff {s : HostsSource} (h : FollowedBy id date db s)
    (hexternal : id ≠ userSourceId) (hanswer : IsEnabledAnswer db c.sources)
    (hc : c.Observes id lastUpdate) :
    c.ReportsFor id ↔ c.offline = false ∧ hasUpdate c.p.zone c.now lastUpdate s = true := by
  have hid := id_of_source h.row
  have hmem : s ∈ c.sources := by
    refine (source_of_mem_filter hanswer.1).mpr ⟨hid.symm ▸ h.row, ?_⟩
    simp [h.enabled, hid, hexternal]
  have hturn : (SourceModel.checkTurn c.p c.w c.now s).result =
      .ok (hasUpdate c.p.zone c.now lastUpdate s) := by
    rw [SourceModel.checkTurn, hc s hmem hid]
    rfl
  refine and_congr_right fun _ =>
    ⟨?_, fun hreports => ⟨s, hmem, hid, hturn.trans (by rw [hreports])⟩⟩
  rintro ⟨s', hmem', hid', hreports⟩
  have hrow := ((source_of_mem_filter hanswer.1).mp hmem').1
  rw [hid', h.row] at hrow
  obtain rfl := Option.some.inj hrow
  exact Except.ok.inj (hturn.symm.trans hreports)

end Checks

/-! ### Whether the dates suffice -/

/-- The source is never counted as outdated, and no check reports an update because of it. -/
def StaysUpToDate (id : ℤ) (db : Database) (cs : List UpdateCheck) : Prop :=
  (∀ before after db', cs = before ++ after → ActionSystem.run stepCheck db before = some db' →
    ∀ s ∈ outdatedSources db', s.id ≠ id) ∧
  ∀ c ∈ cs, ¬ c.ReportsFor id

/-- The local date that a copy stores is late enough for a check: the online date has no part of a
second, or is of an earlier second than the copy; or if there is none, a week before the check, by
the calendar of the device, is not after the full second of the copy. -/
def LateEnough (zone : ZoneRules) (now checked : ZonedDateTime) : Option ZonedDateTime → Prop
  | some d => d.stored = d ∨ toTimestamp d < toTimestamp now
  | none => (checked.minusWeek zone).nanos ≤ now.stored.nanos

theorem hasUpdate_eq_false_iff {zone : ZoneRules} {now checked : ZonedDateTime}
    {lastUpdate : Option ZonedDateTime} {s : HostsSource}
    (hdate : s.localModificationDate = some (SourceModel.copiedDate now lastUpdate).stored) :
    hasUpdate zone checked lastUpdate s = false ↔ LateEnough zone now checked lastUpdate := by
  rw [hasUpdate.eq_def, hdate, SourceModel.copiedDate]
  cases lastUpdate with
  | none =>
    have hnow : ZonedDateTime.isAfter now now = false := by
      rw [ZonedDateTime.isAfter, decide_eq_false_iff_not]
      exact lt_irrefl _
    simp [ZonedDateTime.isBefore, LateEnough, hnow]
  | some d =>
    have hstored : d.stored = d ↔ d.nanos / 1000000000 * 1000000000 = d.nanos := by
      obtain ⟨nanos⟩ := d
      exact ZonedDateTime.mk.injEq _ _ ▸ Iff.rfl
    simp only [Option.all_some, Option.getD_some, LateEnough, hstored, toTimestamp]
    cases hafter : d.isAfter now with
    | true =>
      rw [ZonedDateTime.isAfter, decide_eq_true_eq] at hafter
      rw [if_pos rfl, ZonedDateTime.isAfter, decide_eq_false_iff_not]
      show ¬ d.nanos / 1000000000 * 1000000000 < d.nanos ↔ _
      omega
    | false =>
      rw [ZonedDateTime.isAfter, decide_eq_false_iff_not] at hafter
      rw [if_neg Bool.false_ne_true, ZonedDateTime.isAfter, decide_eq_false_iff_not]
      show ¬ now.nanos / 1000000000 * 1000000000 < d.nanos ↔ _
      omega

namespace SourceModel

variable {g : Guava} {p : Platform} {w : Outside} {loads : Loads g} {now : ZonedDateTime}
  {q : ∀ items, SyncAnswers items} {t : Tables} {before after : List HostsSource}
  {source : HostsSource} {lastUpdate : Option ZonedDateTime}

/-- What follows the copy of a source in a retrieval. -/
theorem followedBy_of_retrieved (hanswer : IsAnswer t.db (before ++ source :: after))
    (hbefore : (retrieveTurns p w loads now before).IsOk)
    (hattempted : Attempted p w now source lastUpdate)
    (hcopied : (retrieveTurn p w loads now source).result = .ok .copied) :
    ∃ s, FollowedBy source.id (copiedDate now lastUpdate)
      (retrieveHostsSources p w loads false now q (before ++ source :: after) t).2.db s := by
  have hsource := source_of_isAnswer hanswer (List.mem_append_right before List.mem_cons_self)
  obtain ⟨db, hsame, hturn⟩ := exists_sameSource_turn loads q hanswer hbefore
  obtain ⟨s, hs, hen, hdate, honline⟩ :=
    row_of_copied (hsame.source.trans hsource) hattempted hcopied
  refine ⟨s, hturn.source.trans hs, hen, hdate, fun online heq => ?_⟩
  obtain rfl := Option.some.inj (honline.symm.trans heq)
  rw [toTimestamp_stored]
  exact toTimestamp_le_max _ _

/-- **When a copied source stays up to date.** After a retrieval that has copied the source, and as
long as every check gets the date that the retrieval got, the source is never counted as outdated
and no check reports an update because of it exactly if its local date is late enough for each of
the checks. -/
theorem staysUpToDate_iff (hanswer : IsAnswer t.db (before ++ source :: after))
    (hbefore : (retrieveTurns p w loads now before).IsOk)
    (hattempted : Attempted p w now source lastUpdate)
    (hcopied : (retrieveTurn p w loads now source).result = .ok .copied)
    {cs : List UpdateCheck} {db : Database}
    (hrun : ActionSystem.run stepCheck
      (retrieveHostsSources p w loads false now q (before ++ source :: after) t).2.db cs = some db)
    (hsame : ∀ c ∈ cs, c.Observes source.id lastUpdate) :
    StaysUpToDate source.id
        (retrieveHostsSources p w loads false now q (before ++ source :: after) t).2.db cs ↔
      ∀ c ∈ cs, c.offline = false → LateEnough c.p.zone now c.now lastUpdate := by
  obtain ⟨s, hs⟩ := followedBy_of_retrieved (q := q) hanswer hbefore hattempted hcopied
  generalize (retrieveHostsSources p w loads false now q (before ++ source :: after) t).2.db = db₀
    at hrun hs ⊢
  have hexternal : source.id ≠ userSourceId := by
    simpa using ((source_of_mem_filter hanswer.1).mp
      (List.mem_append_right before List.mem_cons_self)).2
  have hdate : ∀ d, lastUpdate = some d →
      toTimestamp d ≤ toTimestamp (copiedDate now lastUpdate) := by
    rintro d rfl
    exact toTimestamp_le_max d now
  -- the state that a part of the checks leads to
  have hreached : ∀ before' after' db', cs = before' ++ after' →
      ActionSystem.run stepCheck db₀ before' = some db' →
      ∃ s, FollowedBy source.id (copiedDate now lastUpdate) db' s := by
    rintro before' after' db' rfl hrun'
    exact hs.run hdate (fun c hc => hsame c (List.mem_append_left after' hc)) hrun'
  have hreports : ∀ c ∈ cs, (¬ c.ReportsFor source.id ↔
      (c.offline = false → LateEnough c.p.zone now c.now lastUpdate)) := by
    intro c hc
    obtain ⟨before', after', rfl⟩ := List.append_of_mem hc
    obtain ⟨db', hrun', hrest⟩ := ActionSystem.run_append_eq_some.mp hrun
    obtain ⟨db'', hstep, -⟩ := ActionSystem.run_cons_eq_some.mp hrest
    obtain ⟨hanswer', -⟩ := Option.ite_none_right_eq_some.mp hstep
    obtain ⟨s', hs'⟩ := hreached before' (c :: after') db' rfl hrun'
    rw [hs'.reportsFor_iff hexternal hanswer' (hsame c hc), not_and, Bool.not_eq_true,
      hasUpdate_eq_false_iff hs'.localModificationDate]
  constructor
  · exact fun h c hc => (hreports c hc).mp (h.2 c hc)
  · refine fun h => ⟨fun before' after' db' hcs hrun' r hr hid => ?_, fun c hc =>
      (hreports c hc).mpr (h c hc)⟩
    obtain ⟨s', hs'⟩ := hreached before' after' db' hcs hrun'
    obtain ⟨hmem, hout⟩ := List.mem_filter.mp hr
    have hrow : db'.source r.id = some r := KeyedTable.mem_rows_iff.mp hmem
    rw [hid, hs'.row] at hrow
    obtain rfl := Option.some.inj hrow
    rw [hs'.not_outdated] at hout
    exact absurd hout Bool.false_ne_true

/-- A hosts file in a repository of GitLab. -/
def gitLabSource : HostsSource :=
  { hostsFileSource with url := "https://gitlab.com/owner/repo/raw/main/hosts" }

/-- The date of its last commit, and an empty file. -/
def committedAt (d : ZonedDateTime) : Outside :=
  { answering (some ⟨200, none, none, ⟨[], false, false⟩⟩) with api := fun _ => some d }

/-- Libraries that find the path of the file. -/
def gitLabPlatform : Platform :=
  { acceptingPlatform with getPath := fun _ => some "/owner/repo/raw/main/hosts" }

/-- The tables with the file. -/
def gitLabTables : Tables := ⟨insertSource gitLabSource installedDatabase, ∅⟩

/-- The file, copied, and then checked. -/
def checkCopied (d : ZonedDateTime) (copied online now : ZonedDateTime) : UpdateCheck where
  p := gitLabPlatform
  w := committedAt d
  offline := false
  now := now
  sources :=
    [{ gitLabSource with
        localModificationDate := some copied
        onlineModificationDate := some online }]

/-- The commit is of an earlier second than the copy. -/
theorem staysUpToDate_iff_earlier :
    StaysUpToDate gitLabSource.id
        (retrieveHostsSources gitLabPlatform (committedAt ⟨500000000⟩) oneBatch false
          (fromTimestamp 100) someAnswers ([] ++ gitLabSource :: []) gitLabTables).2.db
        [checkCopied ⟨500000000⟩ (fromTimestamp 100) (fromTimestamp 0) (fromTimestamp 200)] ↔
      ∀ c ∈ [checkCopied ⟨500000000⟩ (fromTimestamp 100) (fromTimestamp 0) (fromTimestamp 200)],
        c.offline = false → LateEnough c.p.zone (fromTimestamp 100) c.now (some ⟨500000000⟩) := by
  obtain ⟨db, hrun⟩ : ∃ db, ActionSystem.run stepCheck
      (retrieveHostsSources gitLabPlatform (committedAt ⟨500000000⟩) oneBatch false
        (fromTimestamp 100) someAnswers ([] ++ gitLabSource :: []) gitLabTables).2.db
      [checkCopied ⟨500000000⟩ (fromTimestamp 100) (fromTimestamp 0) (fromTimestamp 200)]
        = some db :=
    ⟨_, ActionSystem.run_cons_eq_some.mpr ⟨_, if_pos (by decide +kernel), rfl⟩⟩
  exact staysUpToDate_iff (by decide) ⟨[], rfl⟩ ⟨rfl, rfl, rfl⟩ rfl hrun
    (List.forall_mem_singleton.mpr (List.forall_mem_singleton.mpr fun _ => rfl))

/-- The commit is of the same second, and the next check reports it again. -/
theorem not_staysUpToDate :
    ¬ ∀ (g : Guava) (p : Platform) (w : Outside) (loads : Loads g) (now : ZonedDateTime)
      (q : ∀ items, SyncAnswers items) (t : Tables) (before after : List HostsSource)
      (source : HostsSource) (lastUpdate : Option ZonedDateTime) (cs : List UpdateCheck)
      (db : Database), IsAnswer t.db (before ++ source :: after) →
      (retrieveTurns p w loads now before).IsOk → Attempted p w now source lastUpdate →
      (retrieveTurn p w loads now source).result = .ok .copied →
      ActionSystem.run stepCheck
        (retrieveHostsSources p w loads false now q (before ++ source :: after) t).2.db cs
          = some db →
      (∀ c ∈ cs, c.Observes source.id lastUpdate ∧ now.nanos ≤ c.now.nanos ∧
        (c.now.minusWeek c.p.zone).nanos ≤ now.nanos) →
      StaysUpToDate source.id
        (retrieveHostsSources p w loads false now q (before ++ source :: after) t).2.db cs := by
  intro h
  obtain ⟨db, hrun⟩ : ∃ db, ActionSystem.run stepCheck
      (retrieveHostsSources gitLabPlatform (committedAt ⟨500000000⟩) oneBatch false
        ⟨900000000⟩ someAnswers ([] ++ gitLabSource :: []) gitLabTables).2.db
      [checkCopied ⟨500000000⟩ (fromTimestamp 0) (fromTimestamp 0) (fromTimestamp 60)] = some db :=
    ⟨_, ActionSystem.run_cons_eq_some.mpr ⟨_, if_pos (by decide +kernel), rfl⟩⟩
  obtain ⟨-, hreports⟩ := h lenientGuava gitLabPlatform (committedAt ⟨500000000⟩) oneBatch
    ⟨900000000⟩ someAnswers gitLabTables [] [] gitLabSource (some ⟨500000000⟩) _ _ (by decide)
    ⟨[], rfl⟩ ⟨rfl, rfl, rfl⟩ rfl hrun
    (List.forall_mem_singleton.mpr ⟨List.forall_mem_singleton.mpr fun _ => rfl, by decide,
      by rw [minusWeek_of_fixed rfl]; decide⟩)
  exact hreports _ List.mem_cons_self ⟨rfl, _, List.mem_cons_self, rfl, rfl⟩

end SourceModel

end AdAway
