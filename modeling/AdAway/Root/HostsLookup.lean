import AdAway.Root.RootModel
import AdAway.Vpn.DnsPacketProxy

/-!
# The hosts file against the tunnel

Both methods of blocking answer from `host_entries`. The resolver of the device reads the hosts file
without regard to the case of a name, and takes the address of each line that maps it. The tunnel asks
for the one row of the name in lower case.

So the methods agree on a name exactly if each row of the name, however it is spelled, is in lower
case: a row with a capital is in force in the file, and the tunnel never asks for it. The name of the
device is in the file and in no row.

## Main definitions

* `hostsAddresses` — what the resolver finds for a name
* `entryAddresses` — the addresses that an entry stands for

## Main results

* `methods_agree_iff` — on which names the methods agree
* `IsRebuilt.hostsAddresses_ne_nil_iff` — the names that a rebuilt file answers for
-/

namespace AdAway

/-- The addresses that a resolver finds for a name. -/
def hostsAddresses (ms : List (String × String)) (name : String) : List String :=
  (ms.filter fun m => toLowerCase m.2 = toLowerCase name).map Prod.fst

/-- The addresses of an entry in the file. An allowed one has none. -/
def entryAddresses (preferences : RedirectionPreferences) (entry : HostEntry) : List String :=
  if entry.type = .allowed then [] else (hostMappings preferences entry).map Prod.fst

/-! ### What the file maps -/

section Entries

variable {preferences : RedirectionPreferences} {t : HostEntries} {entries : List HostEntry}

theorem snd_of_mem_hostMappings {entry : HostEntry} {m : String × String}
    (h : m ∈ hostMappings preferences entry) : m.2 = entry.host := by
  rw [hostMappings] at h
  split at h
  · obtain ⟨redirection, -, rfl⟩ := List.mem_map.mp h
    rfl
  · rcases List.mem_cons.mp h with rfl | h
    · rfl
    · split at h
      · obtain rfl := List.mem_singleton.mp h
        rfl
      · exact absurd h List.not_mem_nil

theorem hostMappings_ne_nil {entry : HostEntry} (h : WritableEntry entry) :
    hostMappings preferences entry ≠ [] := by
  rw [hostMappings]
  split
  next htype =>
    obtain ⟨ip, hip, -⟩ := h.redirection htype
    simp [hip]
  next => exact List.cons_ne_nil _ _

theorem hostsAddresses_append (ms ms' : List (String × String)) (name : String) :
    hostsAddresses (ms ++ ms') name = hostsAddresses ms name ++ hostsAddresses ms' name := by
  simp [hostsAddresses]

/-- An entry is found under each spelling of its name. -/
theorem hostsAddresses_entries (entries : List HostEntry) (name : String) :
    hostsAddresses (entries.flatMap (hostMappings preferences)) name =
      (entries.filter fun e => toLowerCase e.host = toLowerCase name).flatMap
        fun e => (hostMappings preferences e).map Prod.fst := by
  induction entries with
  | nil => rfl
  | cons e entries ih =>
    rw [List.flatMap_cons, hostsAddresses_append, ih, List.filter_cons]
    have hfilter : (hostMappings preferences e).filter
        (fun m => toLowerCase m.2 = toLowerCase name) =
          if toLowerCase e.host = toLowerCase name then hostMappings preferences e else [] := by
      split
      next heq =>
        refine List.filter_eq_self.mpr fun m hm => ?_
        rw [snd_of_mem_hostMappings hm]
        exact decide_eq_true heq
      next hne =>
        refine List.filter_eq_nil_iff.mpr fun m hm => ?_
        rw [snd_of_mem_hostMappings hm, decide_eq_true_eq]
        exact hne
    rw [hostsAddresses, hfilter]
    split <;> simp [*]

theorem hostsAddresses_loopbackMappings (name : String) :
    hostsAddresses loopbackMappings name =
      if toLowerCase name = localhostHostname then [localhostIpv4, localhostIpv6] else [] := by
  have hlower : toLowerCase localhostHostname = localhostHostname := by decide
  rw [hostsAddresses, loopbackMappings]
  by_cases hname : toLowerCase name = localhostHostname
  · simp [hname, hlower]
  · simp [hname, hlower, Ne.symm hname]

theorem toLowerCase_toLowerCase (s : String) : toLowerCase (toLowerCase s) = toLowerCase s := by
  rw [toLowerCase, toLowerCase, String.toList_ofList, List.map_map]
  exact congrArg _ (List.map_congr_left fun c _ => toLower_toLower c)

/-- The tunnel finds what the row of the name in lower case stands for. -/
theorem entryAddresses_getHostEntry (hallowed : ∀ e ∈ t.rows, e.type ≠ .allowed)
    {proxy : DnsPacketProxy} {blockCache : BlockCache} (hvpn : proxy.vpnModel = some blockCache)
    (hfresh : blockCache.Fresh t) (name : String) :
    entryAddresses preferences (getHostEntry t proxy name).1 =
      (t.find? (toLowerCase name)).toList.flatMap
        fun e => (hostMappings preferences e).map Prod.fst := by
  rw [getHostEntry_fst_of_fresh hvpn hfresh, getEntry]
  cases hfind : t.find? (toLowerCase name) with
  | none => rfl
  | some e =>
    have htype := hallowed e (KeyedTable.find?_eq_some_iff.mp hfind).1
    simp [entryAddresses, htype]

/-- **The methods on a table**, name by name. -/
theorem hostsAddresses_eq_iff (hentries : IsEntriesAnswer t entries)
    (hwritable : ∀ e ∈ t.rows, WritableEntry e) (hallowed : ∀ e ∈ t.rows, e.type ≠ .allowed)
    {proxy : DnsPacketProxy} {blockCache : BlockCache} (hvpn : proxy.vpnModel = some blockCache)
    (hfresh : blockCache.Fresh t) (name : String) :
    hostsAddresses (loopbackMappings ++ entries.flatMap (hostMappings preferences)) name
        = entryAddresses preferences (getHostEntry t proxy name).1 ↔
      toLowerCase name ≠ localhostHostname ∧
        ∀ e ∈ t.rows, toLowerCase e.host = toLowerCase name → e.host = toLowerCase name := by
  have hfold := KeyedTable.flatMap_filter_fold_eq_iff hentries.1 toLowerCase (toLowerCase name)
    (f := fun e => (hostMappings preferences e).map Prod.fst)
    fun e he => by simpa using hostMappings_ne_nil (hwritable e he)
  have hperm := KeyedTable.flatMap_filter_fold_perm hentries.1 toLowerCase (toLowerCase name)
    fun e => (hostMappings preferences e).map Prod.fst
  simp only [toLowerCase_toLowerCase] at hfold hperm
  rw [hostsAddresses_append, hostsAddresses_loopbackMappings, hostsAddresses_entries,
    entryAddresses_getHostEntry hallowed hvpn hfresh]
  split
  next hname =>
    -- the two lines of the device come on top
    refine iff_of_false (fun heq => ?_) fun h => h.1 hname
    have hlength := congrArg List.length heq
    have hle := hperm.length_eq
    simp only [List.length_append, List.length_cons, List.length_nil] at hlength hle
    omega
  next hname =>
    rw [List.nil_append, hfold]
    exact (and_iff_right hname).symm

end Entries

/-! ### In a run -/

section Runs

variable {g : Guava}

/-- A row blocks or redirects. -/
theorem not_allowed_of_run {labels : SourceLabels} {as : List AppAction} {s : AppState}
    (hrun : ActionSystem.run (stepApp g) (installedApp labels) as = some s) :
    ∀ e ∈ s.hostEntries.rows, e.type ≠ .allowed := by
  refine ActionSystem.invariant_run
    (I := fun s : AppState => ∀ e ∈ s.hostEntries.rows, e.type ≠ .allowed)
    (fun s a t hs hstep e he => ?_) (fun e he => absurd he List.not_mem_nil) hrun
  rcases hostEntries_step hstep with heq | heq | himport | ⟨hostPattern, hallow⟩ | ⟨item, -, -, heq⟩
  · exact hs e (heq ▸ he)
  · rw [heq] at he
    exact absurd he List.not_mem_nil
  · rw [KeyedTable.rows_of_insertAll? himport] at he
    rcases List.mem_append.mp he with he | he
    · exact hs e he
    · obtain ⟨i, -, -, -, rfl⟩ := mem_blockedRows.mp he
      exact ListType.noConfusion
  · exact hs e (mem_of_mem_allowHost hallow he)
  · rw [heq] at he
    rcases List.mem_append.mp he with he | he
    · exact hs e (List.mem_of_mem_filter he)
    · obtain rfl := List.mem_singleton.mp he
      exact ListType.noConfusion

theorem writable_of_run (hg : g.Lawful) {labels : SourceLabels} {as : List AppAction} {s : AppState}
    (hrun : ActionSystem.run (stepApp g) (installedApp labels) as = some s)
    (hscreens : ∀ a ∈ as, FromScreens g a) (hfields : ∀ a ∈ as, WritesFields a) : Writable s :=
  ActionSystem.invariant_run_of_forall_mem
    (fun _ _ _ hs ha hstep => Writable.step hg hs ha hstep) (writable_installedApp labels)
    (fun a ha => ⟨hscreens a ha, hfields a ha⟩) hrun

/-- What is read of the file in a state of a run. -/
theorem readHosts_of_run (hg : g.Lawful) {labels : SourceLabels} {as : List AppAction} {s : AppState}
    (hrun : ActionSystem.run (stepApp g) (installedApp labels) as = some s)
    (hscreens : ∀ a ∈ as, FromScreens g a) (hfields : ∀ a ∈ as, WritesFields a)
    {isLineEnd : Char → Bool} (hends : IsLineEndOf isLineEnd) (date : DateFields)
    {sources : List HostsSource} (hsources : IsEnabledAnswer s.db sources)
    {preferences : RedirectionPreferences}
    (hipv4 : isValidIP g preferences.redirectionIpv4 = true)
    (hipv6 : isValidIP g preferences.redirectionIpv6 = true)
    {entries : List HostEntry} (hentries : IsEntriesAnswer s.hostEntries entries) :
    readHosts isLineEnd (createNewHostsFile date sources preferences entries)
      = loopbackMappings ++ entries.flatMap (hostMappings preferences) := by
  have hs := writable_of_run hg hrun hscreens hfields
  refine readHosts_of_writable hends date (fun source hsource => ?_)
    ⟨isField_of_isValidIP hg hipv4, isField_of_isValidIP hg hipv6⟩ fun e he => ?_
  · have hmem := List.mem_filter.mp (hsources.1.mem_iff.mp hsource)
    simp only [decide_eq_true_eq] at hmem
    exact hs.sources source hmem.1 hmem.2.2
  · exact hs.entries e (hentries.1.mem_iff.mp he)

/-- **The two methods of blocking**, in every state of a run in which what is written without a check
can be written to the file, and with a cache of the tunnel that is fresh. The addresses that a
resolver finds in the hosts file for a name are those of the entry that the tunnel takes for it,
exactly if the name is not the one of the device and each row of the name is in lower case. -/
theorem methods_agree_iff (hg : g.Lawful) {labels : SourceLabels} {as : List AppAction}
    {s : AppState} (hrun : ActionSystem.run (stepApp g) (installedApp labels) as = some s)
    (hscreens : ∀ a ∈ as, FromScreens g a) (hfields : ∀ a ∈ as, WritesFields a)
    {isLineEnd : Char → Bool} (hends : IsLineEndOf isLineEnd) (date : DateFields)
    {sources : List HostsSource} (hsources : IsEnabledAnswer s.db sources)
    {preferences : RedirectionPreferences}
    (hipv4 : isValidIP g preferences.redirectionIpv4 = true)
    (hipv6 : isValidIP g preferences.redirectionIpv6 = true)
    {entries : List HostEntry} (hentries : IsEntriesAnswer s.hostEntries entries)
    {proxy : DnsPacketProxy} {blockCache : BlockCache} (hvpn : proxy.vpnModel = some blockCache)
    (hfresh : blockCache.Fresh s.hostEntries) (name : String) :
    hostsAddresses (readHosts isLineEnd (createNewHostsFile date sources preferences entries)) name
        = entryAddresses preferences (getHostEntry s.hostEntries proxy name).1 ↔
      toLowerCase name ≠ localhostHostname ∧ ∀ e ∈ s.hostEntries.rows,
        toLowerCase e.host = toLowerCase name → e.host = toLowerCase name := by
  rw [readHosts_of_run hg hrun hscreens hfields hends date hsources hipv4 hipv6 hentries]
  exact hostsAddresses_eq_iff hentries (writable_of_run hg hrun hscreens hfields).entries
    (not_allowed_of_run hrun) hvpn hfresh name

theorem methods_agree_iff_written : ∃ s,
    ActionSystem.run (stepApp asciiGuava) (installedApp englishLabels) writtenRun = some s ∧
    hostsAddresses (readHosts (· = '\n')
        (createNewHostsFile someDate [addedSource] defaultPreferences writtenEntries)) "CDN.example"
      = entryAddresses defaultPreferences (getHostEntry s.hostEntries freshProxy "CDN.example").1 := by
  obtain ⟨s, hs, hsources, hentries⟩ := exists_run_of_tablesAfter
    (by decide +kernel : tablesAfter writtenRun
      = some ([englishUserSource, addedSource], writtenEntries))
  have hscreens : ∀ a ∈ writtenRun, FromScreens asciiGuava a := by
    simp only [writtenRun, List.forall_mem_cons]
    exact ⟨trivial, trivial, trivial, trivial, trivial, ⟨"cdn.example", "10.0.0.1", by decide⟩, trivial,
      trivial, trivial, trivial, List.forall_mem_nil _⟩
  have hfields : ∀ a ∈ writtenRun, WritesFields a := by
    simp only [writtenRun, List.forall_mem_cons]
    exact ⟨trivial, trivial, trivial, ⟨by decide, by decide⟩, trivial, fun _ => by decide, trivial,
      trivial, trivial, trivial, List.forall_mem_nil _⟩
  have henabled : IsEnabledAnswer s.db [addedSource] := by
    rw [IsEnabledAnswer, hsources]
    decide
  have hanswer : IsEntriesAnswer s.hostEntries writtenEntries := by
    rw [IsEntriesAnswer, hentries]
    decide
  have hends : IsLineEndOf (· = '\n') := ⟨rfl, fun c hc => Or.inl (by simpa using hc)⟩
  have hipv4 : isValidIP asciiGuava defaultPreferences.redirectionIpv4 = true := by decide
  have hagree := methods_agree_iff lawful_asciiGuava hs hscreens hfields hends someDate henabled hipv4
    (by decide) hanswer vpnModel_freshProxy (fresh_emptyCache s.hostEntries) "CDN.example"
  rw [hentries] at hagree
  exact ⟨s, hs, hagree.mpr (by decide)⟩

/-- The names that the file of a rebuilt table answers for: those of the device, and those which the
lists answer for under some spelling. -/
theorem IsRebuilt.hostsAddresses_ne_nil_iff {isLineEnd : Char → Bool} (hends : IsLineEndOf isLineEnd)
    {items : List HostListItem} (hitems : ∀ i ∈ items, WritableItem i) {t : HostEntries}
    (ht : IsRebuilt items t) (date : DateFields) {sources : List HostsSource}
    (hsources : ∀ source ∈ sources, OneLine source.label ∧ OneLine source.url)
    {preferences : RedirectionPreferences} (hpreferences : WritablePreferences preferences)
    {entries : List HostEntry} (hentries : IsEntriesAnswer t entries) (name : String) :
    hostsAddresses (readHosts isLineEnd (createNewHostsFile date sources preferences entries)) name
        ≠ [] ↔
      toLowerCase name = localhostHostname ∨
        ∃ host, toLowerCase host = toLowerCase name ∧ Overridden items host := by
  have hwritable : ∀ e ∈ t.rows, WritableEntry e := by
    intro e he
    cases ht.expected e he with
    | redirected i hi =>
      have hitem := hitems i hi.mem
      exact ⟨hitem.host (by rw [hi.type_eq]; nofun), fun _ => hitem.redirection hi.type_eq⟩
    | blocked i hi htype => exact ⟨(hitems i hi).host (by rw [htype]; nofun), nofun⟩
  have hover : ∀ host, Overridden items host ↔ ∃ e ∈ t.rows, e.host = host := by
    intro host
    rw [← not_iff_not, ← ht.find?_eq_none_iff, KeyedTable.find?_eq_none_iff]
    simp
  rw [readHosts_of_writable hends date hsources hpreferences
    fun e he => hwritable e (hentries.1.mem_iff.mp he), hostsAddresses_append,
    hostsAddresses_loopbackMappings, hostsAddresses_entries]
  split
  next hname => exact iff_of_true (by simp) (Or.inl hname)
  next hname =>
    rw [List.nil_append, or_iff_right hname, ne_eq, List.flatMap_eq_nil_iff]
    push Not
    constructor
    · rintro ⟨e, he, -⟩
      obtain ⟨hmem, hlower⟩ := List.mem_filter.mp he
      exact ⟨e.host, of_decide_eq_true hlower, (hover _).mpr ⟨e, hentries.1.mem_iff.mp hmem, rfl⟩⟩
    · rintro ⟨host, hlower, hhost⟩
      obtain ⟨e, he, rfl⟩ := (hover host).mp hhost
      refine ⟨e, List.mem_filter.mpr ⟨hentries.1.mem_iff.mpr he, decide_eq_true hlower⟩, ?_⟩
      simpa using hostMappings_ne_nil (hwritable e he)

end Runs

end AdAway
