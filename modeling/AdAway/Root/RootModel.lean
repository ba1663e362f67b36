import AdAway.Library.LineFormat
import AdAway.Ui.ItemInvariants

/-!
# The hosts file

`RootModel.createNewHostsFile` writes the entries as a hosts file: a header of comments, which names
the enabled sources, the two names of the device, and one or two lines an entry. Labels, URLs, hosts
and redirections are written as they are.

A hosts file is read line by line: a `#` starts a comment, and the first word of a line is the
address of the words after it. A line feed ends a line, and for some readers a carriage return does.

## Main definitions

* `createNewHostsFile` — the file that is written
* `readHosts` — the mappings that are read
* `IsField` — what can stand on a line of the file
* `WritesFields` — what the steps of a run may write

## Main results

* `readHosts_lines` — the mappings of a file with a header of comments
* `readHosts_createNewHostsFile` — the file reads as the entries say
-/

namespace AdAway

/-! ### Writing -/

/-- What `SimpleDateFormat` prints of a date. -/
structure DateFields where
  year : ℕ
  month : ℕ
  day : ℕ
  hour : ℕ
  minute : ℕ
  second : ℕ

/-- A number with at least this many digits. -/
def padded (width n : ℕ) : List Char :=
  let digits := Nat.toDigits 10 n
  List.replicate (width - digits.length) '0' ++ digits

/-- The format `yyyy-MM-dd HH:mm:ss`. -/
def formatDate (d : DateFields) : String :=
  String.ofList (padded 4 d.year ++ '-' :: (padded 2 d.month ++ '-' :: (padded 2 d.day ++ ' ' ::
    (padded 2 d.hour ++ ':' :: (padded 2 d.minute ++ ':' :: padded 2 d.second)))))

/-- `HEADER1`. -/
def header1 : String := "# This hosts file has been generated by AdAway on: "

/-- `HEADER2`. -/
def header2 : String :=
  "# Please do not modify it directly, it will be overwritten when AdAway is applied again."

/-- `HEADER_SOURCES`. -/
def headerSources : String := "# This file is generated from the following sources:"

/-- The preferences of `writeHosts`. -/
structure RedirectionPreferences where
  redirectionIpv4 : String
  redirectionIpv6 : String
  enableIpv6 : Bool

/-- The lines of `RootModel.writeHostsHeader`. -/
def writeHostsHeader (date : DateFields) (sources : List HostsSource) : List String :=
  [header1 ++ formatDate date, header2, headerSources] ++
    sources.map (fun source => "# - " ++ source.label ++ ":" ++ source.url) ++ [""]

/-- The lines of `RootModel.writeLoopbackToHosts`. -/
def writeLoopbackToHosts : List String :=
  [localhostIpv4 ++ " " ++ localhostHostname, localhostIpv6 ++ " " ++ localhostHostname]

/-- A string as `+` writes it. -/
def orNull (s : Option String) : String := s.getD "null"

/-- The lines of `RootModel.writeHosts` for an entry. -/
def writeHost (preferences : RedirectionPreferences) (entry : HostEntry) : List String :=
  if entry.type = .redirected then [orNull entry.redirection ++ " " ++ entry.host]
  else
    (preferences.redirectionIpv4 ++ " " ++ entry.host) ::
      if preferences.enableIpv6 then [preferences.redirectionIpv6 ++ " " ++ entry.host] else []

/-- The lines of `RootModel.writeHosts`. -/
def writeHosts (preferences : RedirectionPreferences) (entries : List HostEntry) : List String :=
  entries.flatMap (writeHost preferences)

/-- The content of the file of `RootModel.createNewHostsFile`, on the answers of `getEnabled` and
`getAll`. -/
def createNewHostsFile (date : DateFields) (sources : List HostsSource)
    (preferences : RedirectionPreferences) (entries : List HostEntry) : String :=
  String.join ((writeHostsHeader date sources ++ writeLoopbackToHosts ++ writeHosts preferences entries).map
    fun line => line ++ "\n")

/-- `HostEntryDao.getAll` may answer `entries`. -/
def IsEntriesAnswer (hostEntries : HostEntries) (entries : List HostEntry) : Prop :=
  entries.Perm hostEntries.rows ∧ entries.Pairwise fun e e' => e.host ≤ e'.host

/-! ### Reading -/

/-- The grammar of a hosts file. -/
def hostsFormat (isLineEnd : Char → Bool) : LineFormat Char where
  isLineEnd := isLineEnd
  isComment c := c = '#'
  isSeparator := isSpace

/-- The mappings of a line. -/
def mappings : List (List Char) → List (String × String)
  | [] => []
  | address :: hosts => hosts.map fun host => (String.ofList address, String.ofList host)

/-- The mappings of a hosts file, from an address to a host. -/
def readHosts (isLineEnd : Char → Bool) (content : String) : List (String × String) :=
  ((hostsFormat isLineEnd).records content.toList).flatMap mappings

/-- A line feed ends a line, and perhaps a carriage return. -/
structure IsLineEndOf (isLineEnd : Char → Bool) : Prop where
  lineFeed : isLineEnd '\n' = true
  eq_or_eq : ∀ c, isLineEnd c = true → c = '\n' ∨ c = '\r'

/-- The text can stand on a line of a hosts file. -/
def IsField (s : String) : Prop := s ≠ "" ∧ ∀ c ∈ s.toList, isToken c = true

instance (s : String) : Decidable (IsField s) :=
  decidable_of_iff (s ≠ "" ∧ s.toList.all isToken = true)
    (and_congr_right fun _ => List.all_eq_true)

section Reading

variable {isLineEnd : Char → Bool}

theorem isLineEnd_of_ne (hends : IsLineEndOf isLineEnd) {c : Char} (h : c ≠ '\n' ∧ c ≠ '\r') :
    isLineEnd c = false := by
  rw [← Bool.not_eq_true]
  intro hc
  rcases hends.eq_or_eq c hc with rfl | rfl
  · exact h.1 rfl
  · exact h.2 rfl

theorem OneLine.isLineEnd_eq_false {s : String} (h : OneLine s) (hends : IsLineEndOf isLineEnd) :
    ∀ c ∈ s.toList, isLineEnd c = false :=
  fun c hc => isLineEnd_of_ne hends (h c hc)

theorem OneLine.append {s t : String} (hs : OneLine s) (ht : OneLine t) : OneLine (s ++ t) := by
  intro c hc
  rw [String.toList_append, List.mem_append] at hc
  rcases hc with hc | hc
  · exact hs c hc
  · exact ht c hc

/-- The text of these characters is one line. -/
theorem oneLine_ofList {cs : List Char} (h : (cs.all fun c => c ≠ '\n' ∧ c ≠ '\r') = true) :
    OneLine (String.ofList cs) := by
  rw [OneLine, String.toList_ofList]
  simpa using h

/-- A token ends no line. -/
theorem ne_of_isToken {c : Char} (h : isToken c = true) : c ≠ '\n' ∧ c ≠ '\r' := by
  constructor <;> rintro rfl <;> exact absurd h (by decide)

theorem IsField.oneLine {s : String} (h : IsField s) : OneLine s :=
  fun c hc => ne_of_isToken (h.2 c hc)

theorem IsField.isWord {s : String} (h : IsField s) (hends : IsLineEndOf isLineEnd) :
    (hostsFormat isLineEnd).IsWord s.toList where
  ne_nil := by simpa using h.1
  isLineEnd := h.oneLine.isLineEnd_eq_false hends
  isComment := by
    intro c hc
    have htoken := h.2 c hc
    simp only [isToken, Bool.decide_and, Bool.and_eq_true, decide_eq_true_eq] at htoken
    simpa [hostsFormat] using htoken.1
  isSeparator := fun c hc => isSpace_eq_false_of_isToken (h.2 c hc)

/-- What a line of two fields reads as. -/
theorem mappings_fields (hends : IsLineEndOf isLineEnd) {address host : String}
    (haddress : IsField address) (hhost : IsField host) :
    mappings ((hostsFormat isLineEnd).record (address ++ " " ++ host).toList) = [(address, host)] := by
  have htext : (address ++ " " ++ host).toList = address.toList ++ ' ' :: host.toList := by simp
  rw [htext, LineFormat.record_append_cons (haddress.isWord hends) (by rfl) (by rfl),
    LineFormat.record_word (hhost.isWord hends)]
  simp [mappings]

theorem oneLine_fields {address host : String} (haddress : IsField address) (hhost : IsField host) :
    OneLine (address ++ " " ++ host) :=
  (haddress.oneLine.append (by decide)).append hhost.oneLine

/-- A comment maps nothing. -/
theorem mappings_comment (cs : List Char) :
    mappings ((hostsFormat isLineEnd).record (String.ofList ('#' :: cs)).toList) = [] := by
  rw [String.toList_ofList, LineFormat.record_comment (by rfl)]
  rfl

theorem mappings_comment_append (cs : List Char) (s : String) :
    mappings ((hostsFormat isLineEnd).record (String.ofList ('#' :: cs) ++ s).toList) = [] := by
  rw [String.toList_append, String.toList_ofList, List.cons_append, LineFormat.record_comment (by rfl)]
  rfl

theorem mappings_empty : mappings ((hostsFormat isLineEnd).record "".toList) = [] := by
  simp [mappings]

theorem flatMap_mappings_filter (records : List (List (List Char))) :
    (records.filter fun r => !r.isEmpty).flatMap mappings = records.flatMap mappings := by
  induction records with
  | nil => rfl
  | cons r records ih =>
    cases r with
    | nil => simpa [mappings] using ih
    | cons w ws => simp [ih]

/-- **A file of lines** reads as its lines do. -/
theorem readHosts_lines (hends : IsLineEndOf isLineEnd) {lines : List String}
    (h : ∀ line ∈ lines, OneLine line) :
    readHosts isLineEnd (String.join (lines.map fun line => line ++ "\n"))
      = lines.flatMap fun line => mappings ((hostsFormat isLineEnd).record line.toList) := by
  have htext : (String.join (lines.map fun line => line ++ "\n")).toList
      = LineFormat.unlines '\n' (lines.map String.toList) := by
    simp [LineFormat.unlines, String.toList_join, List.flatMap_map]
  have hlines : ∀ l ∈ lines.map String.toList, ∀ c ∈ l, (hostsFormat isLineEnd).isLineEnd c = false := by
    intro l hl
    obtain ⟨line, hline, rfl⟩ := List.mem_map.mp hl
    exact (h line hline).isLineEnd_eq_false hends
  rw [readHosts, htext, LineFormat.records_unlines hends.lineFeed hlines, flatMap_mappings_filter,
    List.map_map, List.flatMap_map]
  rfl

end Reading

/-! ### The header -/

theorem isDigit_of_mem_padded {width n : ℕ} {c : Char} (h : c ∈ padded width n) :
    c.isDigit = true := by
  rw [padded, List.mem_append] at h
  rcases h with h | h
  · rw [(List.mem_replicate.mp h).2]
    rfl
  · exact Nat.isDigit_of_mem_toDigits (by decide) (by decide) h

theorem oneLine_formatDate (d : DateFields) : OneLine (formatDate d) := by
  have hdigit : ∀ c : Char, c.isDigit = true → c ≠ '\n' ∧ c ≠ '\r' := by
    intro c hc
    constructor <;> rintro rfl <;> exact absurd hc (by decide)
  intro c hc
  rw [formatDate, String.toList_ofList] at hc
  simp only [List.mem_append, List.mem_cons] at hc
  rcases hc with h | rfl | h | rfl | h | rfl | h | rfl | h | rfl | h
  all_goals first
    | exact hdigit c (isDigit_of_mem_padded h)
    | decide

section Lines

variable {isLineEnd : Char → Bool} {preferences : RedirectionPreferences} {entry : HostEntry}

theorem mappings_header1 (date : DateFields) :
    mappings ((hostsFormat isLineEnd).record (header1 ++ formatDate date).toList) = [] :=
  mappings_comment_append _ _

theorem mappings_header2 : mappings ((hostsFormat isLineEnd).record header2.toList) = [] :=
  mappings_comment _

theorem mappings_headerSources :
    mappings ((hostsFormat isLineEnd).record headerSources.toList) = [] := mappings_comment _

/-- The header maps nothing, whatever its labels and URLs are. -/
theorem mappings_header (date : DateFields) (sources : List HostsSource) :
    (writeHostsHeader date sources).flatMap
      (fun line => mappings ((hostsFormat isLineEnd).record line.toList)) = [] := by
  rw [List.flatMap_eq_nil_iff]
  intro line hline
  simp only [writeHostsHeader, List.mem_append, List.mem_cons, List.mem_map, List.not_mem_nil,
    or_false] at hline
  rcases hline with (((rfl | rfl | rfl) | ⟨source, -, rfl⟩) | rfl)
  · exact mappings_header1 date
  · exact mappings_header2
  · exact mappings_headerSources
  · rw [String.append_assoc, String.append_assoc]
    exact mappings_comment_append _ _
  · exact mappings_empty

theorem oneLine_header (date : DateFields) {sources : List HostsSource}
    (h : ∀ source ∈ sources, OneLine source.label ∧ OneLine source.url) :
    ∀ line ∈ writeHostsHeader date sources, OneLine line := by
  intro line hline
  simp only [writeHostsHeader, List.mem_append, List.mem_cons, List.mem_map, List.not_mem_nil,
    or_false] at hline
  rcases hline with (((rfl | rfl | rfl) | ⟨source, hsource, rfl⟩) | rfl)
  · exact (oneLine_ofList (by decide)).append (oneLine_formatDate date)
  · exact oneLine_ofList (by decide)
  · exact oneLine_ofList (by decide)
  · obtain ⟨hlabel, hurl⟩ := h source hsource
    exact ((OneLine.append (by decide) hlabel).append (by decide)).append hurl
  · decide

/-! ### The entries -/

/-- What an entry maps. -/
def hostMappings (preferences : RedirectionPreferences) (entry : HostEntry) : List (String × String) :=
  if entry.type = .redirected then entry.redirection.toList.map fun redirection => (redirection, entry.host)
  else
    (preferences.redirectionIpv4, entry.host) ::
      if preferences.enableIpv6 then [(preferences.redirectionIpv6, entry.host)] else []

/-- What the names of the device map. -/
def loopbackMappings : List (String × String) :=
  [(localhostIpv4, localhostHostname), (localhostIpv6, localhostHostname)]

theorem writeLoopbackToHosts_eq :
    writeLoopbackToHosts = loopbackMappings.map fun mapping => mapping.1 ++ " " ++ mapping.2 := rfl

/-- The entry can be written. -/
structure WritableEntry (entry : HostEntry) : Prop where
  host : IsField entry.host
  redirection : entry.type = .redirected → ∃ ip, entry.redirection = some ip ∧ IsField ip

/-- The addresses of the preferences can be written. -/
structure WritablePreferences (preferences : RedirectionPreferences) : Prop where
  redirectionIpv4 : IsField preferences.redirectionIpv4
  redirectionIpv6 : IsField preferences.redirectionIpv6

/-- The lines of an entry are fields. -/
theorem writeHost_eq (hentry : WritableEntry entry) :
    writeHost preferences entry
      = (hostMappings preferences entry).map fun mapping => mapping.1 ++ " " ++ mapping.2 := by
  rw [writeHost, hostMappings]
  split
  next htype =>
    obtain ⟨ip, hip, -⟩ := hentry.redirection htype
    rw [hip]
    rfl
  next =>
    split
    · rfl
    · rfl

theorem isField_of_mem_hostMappings (hpreferences : WritablePreferences preferences)
    (hentry : WritableEntry entry) {mapping : String × String}
    (h : mapping ∈ hostMappings preferences entry) : IsField mapping.1 ∧ IsField mapping.2 := by
  rw [hostMappings] at h
  split at h
  next htype =>
    obtain ⟨ip, hip, hfield⟩ := hentry.redirection htype
    rw [hip] at h
    obtain rfl := List.mem_singleton.mp h
    exact ⟨hfield, hentry.host⟩
  next =>
    rcases List.mem_cons.mp h with rfl | h
    · exact ⟨hpreferences.redirectionIpv4, hentry.host⟩
    · split at h
      · obtain rfl := List.mem_singleton.mp h
        exact ⟨hpreferences.redirectionIpv6, hentry.host⟩
      · exact absurd h List.not_mem_nil

theorem oneLine_writeHosts (hpreferences : WritablePreferences preferences) {entries : List HostEntry}
    (h : ∀ entry ∈ entries, WritableEntry entry) :
    ∀ line ∈ writeHosts preferences entries, OneLine line := by
  intro line hline
  obtain ⟨entry, hentry, hline⟩ := List.mem_flatMap.mp hline
  rw [writeHost_eq (h entry hentry)] at hline
  obtain ⟨mapping, hmapping, rfl⟩ := List.mem_map.mp hline
  obtain ⟨haddress, hhost⟩ := isField_of_mem_hostMappings hpreferences (h entry hentry) hmapping
  exact oneLine_fields haddress hhost

/-- Lines of fields read back as what they map. -/
theorem mappings_map_fields (hends : IsLineEndOf isLineEnd) {ms : List (String × String)}
    (h : ∀ m ∈ ms, IsField m.1 ∧ IsField m.2) :
    (ms.map fun m => m.1 ++ " " ++ m.2).flatMap
      (fun line => mappings ((hostsFormat isLineEnd).record line.toList)) = ms := by
  induction ms with
  | nil => rfl
  | cons m ms ih =>
    rw [List.forall_mem_cons] at h
    rw [List.map_cons, List.flatMap_cons, mappings_fields hends h.1.1 h.1.2, ih h.2]
    rfl

theorem mappings_writeLoopbackToHosts (hends : IsLineEndOf isLineEnd) :
    writeLoopbackToHosts.flatMap
      (fun line => mappings ((hostsFormat isLineEnd).record line.toList)) = loopbackMappings := by
  rw [writeLoopbackToHosts_eq]
  exact mappings_map_fields hends (by decide)

theorem mappings_writeHosts (hends : IsLineEndOf isLineEnd)
    (hpreferences : WritablePreferences preferences) {entries : List HostEntry}
    (h : ∀ entry ∈ entries, WritableEntry entry) :
    (writeHosts preferences entries).flatMap
      (fun line => mappings ((hostsFormat isLineEnd).record line.toList))
      = entries.flatMap (hostMappings preferences) := by
  induction entries with
  | nil => rfl
  | cons entry entries ih =>
    rw [List.forall_mem_cons] at h
    rw [writeHosts, List.flatMap_cons, List.flatMap_append, writeHost_eq h.1,
      mappings_map_fields hends fun m hm => isField_of_mem_hostMappings hpreferences h.1 hm,
      List.flatMap_cons]
    exact congrArg _ (ih h.2)

/-- **The file reads as the entries say**, when labels and URLs are one line and the rest are
fields. -/
theorem readHosts_of_writable (hends : IsLineEndOf isLineEnd) (date : DateFields)
    {sources : List HostsSource}
    (hsources : ∀ source ∈ sources, OneLine source.label ∧ OneLine source.url)
    (hpreferences : WritablePreferences preferences) {entries : List HostEntry}
    (hentries : ∀ entry ∈ entries, WritableEntry entry) :
    readHosts isLineEnd (createNewHostsFile date sources preferences entries)
      = loopbackMappings ++ entries.flatMap (hostMappings preferences) := by
  have hloopback : ∀ m ∈ loopbackMappings, IsField m.1 ∧ IsField m.2 := by decide
  have hlines : ∀ line ∈ writeHostsHeader date sources ++ writeLoopbackToHosts ++
      writeHosts preferences entries, OneLine line := by
    intro line hline
    rcases List.mem_append.mp hline with hline | hline
    · rcases List.mem_append.mp hline with hline | hline
      · exact oneLine_header date hsources line hline
      · rw [writeLoopbackToHosts_eq] at hline
        obtain ⟨m, hm, rfl⟩ := List.mem_map.mp hline
        exact oneLine_fields (hloopback m hm).1 (hloopback m hm).2
    · exact oneLine_writeHosts hpreferences hentries line hline
  rw [createNewHostsFile, readHosts_lines hends hlines, List.flatMap_append, List.flatMap_append,
    mappings_header, mappings_writeHosts hends hpreferences hentries, List.nil_append,
    mappings_writeLoopbackToHosts hends]

/-- A label with a line feed brings the rest of it into the file: a mapping that no entry asks for.
-/
theorem readHosts_label (hends : IsLineEndOf isLineEnd) (date : DateFields) {source : HostsSource}
    {label address host : String} (hlabel : OneLine label) (haddress : IsField address)
    (hhost : IsField host) (hurl : OneLine source.url)
    (h : source.label = label ++ "\n" ++ (address ++ " " ++ (host ++ " #"))) :
    readHosts isLineEnd (createNewHostsFile date [source] preferences [])
      = (address, host) :: loopbackMappings := by
  have htext : createNewHostsFile date [source] preferences []
      = String.join (((header1 ++ formatDate date) :: header2 :: headerSources :: ("# - " ++ label) ::
          (address ++ " " ++ (host ++ " #") ++ ":" ++ source.url) :: "" :: writeLoopbackToHosts).map
            fun line => line ++ "\n") := by
    simp only [createNewHostsFile, writeHostsHeader, writeHosts, h, List.flatMap_nil, List.append_nil,
      List.map_cons, List.map_nil, List.cons_append, List.nil_append, String.join_cons,
      String.append_assoc]
  have hlines : ∀ line ∈ (header1 ++ formatDate date) :: header2 :: headerSources ::
      ("# - " ++ label) :: (address ++ " " ++ (host ++ " #") ++ ":" ++ source.url) :: "" ::
        writeLoopbackToHosts, OneLine line := by
    have hsecond : OneLine (address ++ " " ++ (host ++ " #") ++ ":" ++ source.url) :=
      (((haddress.oneLine.append (by decide)).append (hhost.oneLine.append (by decide))).append
        (by decide)).append hurl
    simp only [List.forall_mem_cons]
    exact ⟨(oneLine_ofList (by decide)).append (oneLine_formatDate date), oneLine_ofList (by decide),
      oneLine_ofList (by decide), OneLine.append (by decide) hlabel, hsecond, by decide, by decide⟩
  have hsecond : mappings ((hostsFormat isLineEnd).record
      (address ++ " " ++ (host ++ " #") ++ ":" ++ source.url).toList) = [(address, host)] := by
    have hline : (address ++ " " ++ (host ++ " #") ++ ":" ++ source.url).toList
        = address.toList ++ ' ' :: (host.toList ++ ' ' :: '#' :: ':' :: source.url.toList) := by simp
    rw [hline, LineFormat.record_append_cons (haddress.isWord hends) (by rfl) (by rfl),
      LineFormat.record_append_cons (hhost.isWord hends) (by rfl) (by rfl),
      LineFormat.record_comment (by rfl)]
    simp [mappings]
  rw [htext, readHosts_lines hends hlines]
  simp only [List.flatMap_cons]
  rw [mappings_header1, mappings_header2, mappings_headerSources, mappings_comment_append, hsecond,
    mappings_empty, mappings_writeLoopbackToHosts hends]
  rfl

end Lines

/-! ### Runs -/

/-- The item can be written, once it is an entry. -/
structure WritableItem (i : HostListItem) : Prop where
  host : i.type ≠ .allowed → IsField i.host
  redirection : i.type = .redirected → ∃ ip, i.redirection = some ip ∧ IsField ip

/-- What is written without a check can be written to the file. -/
def WritesFields : AppAction → Prop
  | .addSource label url _ _ => OneLine (trimWhitespace label) ∧ OneLine (trimWhitespace url)
  | .addListItem type host _ _ => type ≠ .allowed → host ≠ ""
  | .updateListItem item host _ => item.type ≠ .allowed → host ≠ ""
  | .addLogItem host type _ => type ≠ .allowed → IsField host
  | .importSource source => OneLine source.label ∧ OneLine source.url
  | .importItem item _ => WritableItem item
  | _ => True

section Runs

variable {g : Guava}

theorem stable_writableItem : Stable WritableItem := fun _ _ _ h => ⟨h.host, h.redirection⟩

theorem isField_of_isValidIP (hg : g.Lawful) {ip : String} (h : isValidIP g ip = true) :
    IsField ip := by
  obtain ⟨hne, hchars⟩ := hg.inetAddress ip h
  refine ⟨hne, fun c hc => ?_⟩
  obtain ⟨hspace, hcomment⟩ := hchars c hc
  simp [isToken, hcomment, isSpace_of_isWhitespace hspace]

/-- A character outside ASCII is a token, and so is one of a name. -/
theorem isToken_of_isValidHostname (hg : g.Lawful) {name : String}
    (hname : isValidHostname g name = true) {c : Char} (hc : c ∈ name.toList) : isToken c = true := by
  by_cases hascii : c.toNat < 128
  · obtain ⟨hwhite, hmarks⟩ := of_isNameChar (hg.domainName name hname c hc hascii)
    have hcomment : c ≠ '#' := fun heq => hmarks (by simp [heq])
    simp [isToken, hcomment, isSpace_of_isWhitespace hwhite]
  · have hspace : isSpace c = false := by
      rw [← Bool.not_eq_true]
      intro htrue
      simp only [isSpace, List.mem_cons, List.not_mem_nil, or_false, decide_eq_true_eq] at htrue
      rcases htrue with rfl | rfl | rfl | rfl | rfl | rfl <;> exact hascii (by decide)
    have hcomment : c ≠ '#' := by
      rintro rfl
      exact hascii (by decide)
    simp [isToken, hcomment, hspace]

theorem writableItem_of_confirm (hg : g.Lawful) {hostText redirectionText : String}
    {item : HostListItem} {redirection : Option String}
    (h : HostListDialog.confirm g item.type hostText redirectionText = some (item.host, redirection))
    (hredirection : item.redirection = redirection) (hne : item.type ≠ .allowed → item.host ≠ "") :
    WritableItem item := by
  constructor
  · intro htype
    obtain ⟨hname, hchars⟩ := HostListDialog.isValidHostname_of_confirm h htype
    exact ⟨hne htype, fun c hc => isToken_of_isValidHostname hg hname (hchars c hc)⟩
  · intro htype
    rw [htype] at h
    obtain ⟨ip, hip, hvalidIP⟩ := HostListDialog.redirection_of_confirm hg h
    exact ⟨ip, hredirection.trans hip, isField_of_isValidIP hg hvalidIP⟩

/-- What the loader takes from a line can be written. -/
theorem writableItem_of_parseLine {source : HostsSource} {line : String} {item : HostListItem}
    (h : parseLine g source line = some item) : WritableItem item := by
  obtain ⟨hitem, -, -⟩ := parseLine_eq_some h
  split at hitem
  next =>
    have htype : item.type = .allowed := hitem ▸ rfl
    exact ⟨fun hne => absurd htype hne, fun hred => absurd (htype.symm.trans hred) nofun⟩
  next =>
    obtain ⟨ip, hostname, hgroups, hhost, -, -, -, hcases⟩ := parseHostListItem_eq_some hitem
    obtain ⟨rest, hline, -⟩ := hostsParser_eq_some_iff.mp hgroups
    have hfield : ∀ w : List Char, w ≠ [] → (∀ c ∈ w, isToken c = true) → IsField (String.ofList w) :=
      fun w hne htoken => ⟨by simpa using hne, by simpa using htoken⟩
    refine ⟨fun _ => hhost ▸ hfield hostname hline.hostname_ne hline.hostname_token, fun htype => ?_⟩
    rcases hcases with ⟨hblocked, -⟩ | ⟨-, hip, -⟩
    · exact absurd (hblocked.symm.trans htype) nofun
    · exact ⟨_, hip, hfield ip hline.ip_ne hline.ip_token⟩

theorem writableItem_of_writes (hg : g.Lawful) {a : AppAction} (hscreens : FromScreens g a)
    (hfields : WritesFields a) {i : HostListItem} (hi : a.Writes g i) : WritableItem i := by
  cases a with
  | load source lines =>
    obtain ⟨line, -, hparse⟩ := List.mem_filterMap.mp hi
    exact writableItem_of_parseLine hparse
  | addListItem type host redirection id =>
    obtain ⟨hostText, redirectionText, hconfirm⟩ := hscreens
    obtain rfl := hi
    exact writableItem_of_confirm hg hconfirm rfl hfields
  | updateListItem item host redirection =>
    obtain ⟨hostText, redirectionText, hconfirm⟩ := hscreens
    obtain rfl := hi
    exact writableItem_of_confirm hg hconfirm rfl hfields
  | addLogItem host type redirection =>
    obtain rfl := hi
    refine ⟨hfields, fun htype => ?_⟩
    obtain ⟨ip, hredirection, hip⟩ := hscreens.redirection_of_addLogItem htype
    exact ⟨ip, hredirection, isField_of_isValidIP hg hip⟩
  | importItem item id => exact hi ▸ hfields
  | _ => exact hi.elim

theorem oneLine_of_insertsSource {a : AppAction} (hfields : WritesFields a) {r : HostsSource}
    (hr : a.InsertsSource r) : OneLine r.label ∧ OneLine r.url := by
  cases a with
  | addSource label url allowFormat redirectedHosts =>
    rw [AppAction.InsertsSource, validateSource] at hr
    obtain ⟨-, hr⟩ := Option.ite_none_right_eq_some.mp hr
    obtain rfl := Option.some.inj hr
    exact hfields
  | importSource source => exact hr ▸ hfields
  | _ => exact hr.elim

/-- The entries can be written, and so can the items they are made of. -/
structure Writable (s : AppState) : Prop where
  items : AllItems WritableItem s
  entries : ∀ entry ∈ s.hostEntries.rows, WritableEntry entry
  sources : AllSources (fun label url => OneLine label ∧ OneLine url) s

theorem Writable.step (hg : g.Lawful) {s t : AppState} {a : AppAction} (hs : Writable s)
    (ha : FromScreens g a ∧ WritesFields a) (h : stepApp g s a = some t) : Writable t where
  items := hs.items.step stable_writableItem (fun _ hi => writableItem_of_writes hg ha.1 ha.2 hi) h
  sources := hs.sources.step (fun _ hr => oneLine_of_insertsSource ha.2 hr) h
  entries := by
    intro entry hentry
    rcases hostEntries_step h with heq | heq | himport | ⟨hostPattern, hallow⟩ |
      ⟨item, hread, htype, heq⟩
    · exact hs.entries entry (heq ▸ hentry)
    · rw [heq] at hentry
      exact absurd hentry List.not_mem_nil
    · rw [KeyedTable.rows_of_insertAll? himport] at hentry
      rcases List.mem_append.mp hentry with hentry | hentry
      · exact hs.entries entry hentry
      · obtain ⟨i, hi, hblocked, -, rfl⟩ := mem_blockedRows.mp hentry
        exact ⟨(hs.items.rows i hi).host (by rw [hblocked]; nofun), nofun⟩
    · exact hs.entries entry (mem_of_mem_allowHost hallow hentry)
    · rw [heq] at hentry
      rcases List.mem_append.mp hentry with hentry | hentry
      · exact hs.entries entry (List.mem_of_mem_filter hentry)
      · obtain rfl := List.mem_singleton.mp hentry
        have hitem := hs.items.read item hread
        exact ⟨hitem.host (by rw [htype]; nofun), fun _ => hitem.redirection htype⟩

theorem writable_installedApp (labels : SourceLabels) : Writable (installedApp labels) where
  items := allItems_installedApp WritableItem labels
  entries := fun _ hentry => absurd hentry List.not_mem_nil
  sources := by
    refine allSources_installedApp fun source hsource => ?_
    have hlabel : OneLine source.label := by
      refine labels.oneLine source.label ?_
      simp only [SourceLabels.sources, List.mem_cons, List.not_mem_nil, or_false] at hsource ⊢
      rcases hsource with rfl | rfl | rfl
      · exact Or.inl rfl
      · exact Or.inr (Or.inl rfl)
      · exact Or.inr (Or.inr rfl)
    refine ⟨hlabel, ?_⟩
    simp only [SourceLabels.sources, List.mem_cons, List.not_mem_nil, or_false] at hsource
    rcases hsource with rfl | rfl | rfl
    · exact oneLine_ofList (by decide)
    · exact oneLine_ofList (by decide)
    · exact oneLine_ofList (by decide)

/-- **The hosts file reads as the entries say** in every state of a run in which what is written
without a check can be written to the file. -/
theorem readHosts_createNewHostsFile (hg : g.Lawful) {labels : SourceLabels} {as : List AppAction}
    {s : AppState} (hrun : ActionSystem.run (stepApp g) (installedApp labels) as = some s)
    (hscreens : ∀ a ∈ as, FromScreens g a) (hfields : ∀ a ∈ as, WritesFields a)
    {isLineEnd : Char → Bool} (hends : IsLineEndOf isLineEnd) (date : DateFields)
    {sources : List HostsSource} (hsources : IsEnabledAnswer s.db sources)
    {preferences : RedirectionPreferences}
    (hipv4 : isValidIP g preferences.redirectionIpv4 = true)
    (hipv6 : isValidIP g preferences.redirectionIpv6 = true)
    {entries : List HostEntry} (hentries : IsEntriesAnswer s.hostEntries entries) :
    readHosts isLineEnd (createNewHostsFile date sources preferences entries)
      = [(localhostIpv4, localhostHostname), (localhostIpv6, localhostHostname)] ++
          entries.flatMap fun entry =>
            if entry.type = .redirected then
              entry.redirection.toList.map fun redirection => (redirection, entry.host)
            else (preferences.redirectionIpv4, entry.host) ::
              if preferences.enableIpv6 then [(preferences.redirectionIpv6, entry.host)] else [] := by
  have hactions : ∀ a ∈ as, FromScreens g a ∧ WritesFields a :=
    fun a ha => ⟨hscreens a ha, hfields a ha⟩
  have hs : Writable s := ActionSystem.invariant_run_of_forall_mem
    (fun _ _ _ hs ha hstep => Writable.step hg hs ha hstep) (writable_installedApp labels) hactions hrun
  refine readHosts_of_writable hends date (fun source hsource => ?_)
    ⟨isField_of_isValidIP hg hipv4, isField_of_isValidIP hg hipv6⟩ fun entry hentry => ?_
  · have hmem := List.mem_filter.mp (hsources.1.mem_iff.mp hsource)
    simp only [decide_eq_true_eq] at hmem
    exact hs.sources source hmem.1 hmem.2.2
  · exact hs.entries entry (hentries.1.mem_iff.mp hentry)

end Runs

/-- A date. -/
def someDate : DateFields := ⟨2024, 5, 17, 9, 3, 0⟩

/-- Preferences of a user: the unspecified addresses, and IPv6 as well. -/
def defaultPreferences : RedirectionPreferences := ⟨"0.0.0.0", "::", true⟩

/-- What the tables hold after a run from the installation. -/
def tablesAfter (as : List AppAction) : Option (List HostsSource × List HostEntry) :=
  (ActionSystem.run (stepApp asciiGuava) (installedApp englishLabels) as).map fun s =>
    (s.db.hostsSources.rows, s.hostEntries.rows)

theorem exists_run_of_tablesAfter {as : List AppAction} {sources : List HostsSource}
    {entries : List HostEntry} (h : tablesAfter as = some (sources, entries)) :
    ∃ s, ActionSystem.run (stepApp asciiGuava) (installedApp englishLabels) as = some s ∧
      s.db.hostsSources.rows = sources ∧ s.hostEntries.rows = entries := by
  obtain ⟨s, hs, htables⟩ := Option.map_eq_some_iff.mp h
  exact ⟨s, hs, Prod.mk.inj htables⟩

/-- The user's source, in English. -/
def englishUserSource : HostsSource := { userSource with label := "User list" }

/-- A source of the user. -/
def addedSource : HostsSource := { hostsFileSource with id := 5, label := "ads" }

/-- The user replaces the sources and redirects a host, and the entries are built. -/
def writtenRun : List AppAction :=
  [.deleteSource 2, .deleteSource 3, .deleteSource 4,
    .addSource "ads" "https://example.org/hosts" false false,
    .load addedSource ["0.0.0.0 ads.example"],
    .addListItem .redirected "cdn.example" (some "10.0.0.1") none,
    .read ⟨2, "cdn.example", .redirected, true, some "10.0.0.1", 1⟩,
    .clear, .importBlocked, .redirectHost ⟨2, "cdn.example", .redirected, true, some "10.0.0.1", 1⟩]

/-- The entries after this run. -/
def writtenEntries : List HostEntry :=
  [⟨"ads.example", .blocked, none⟩, ⟨"cdn.example", .redirected, some "10.0.0.1"⟩]

theorem readHosts_createNewHostsFile_written :
    readHosts (· = '\n') (createNewHostsFile someDate [addedSource] defaultPreferences writtenEntries)
      = [("127.0.0.1", "localhost"), ("::1", "localhost"), ("0.0.0.0", "ads.example"),
          ("::", "ads.example"), ("10.0.0.1", "cdn.example")] := by
  obtain ⟨s, hs, hsources, hentries⟩ := exists_run_of_tablesAfter
    (by decide +kernel : tablesAfter writtenRun
      = some ([englishUserSource, addedSource], writtenEntries))
  have hscreens : ∀ a ∈ writtenRun, FromScreens asciiGuava a := by
    simp only [writtenRun, List.forall_mem_cons]
    exact ⟨trivial, trivial, trivial, trivial, trivial, ⟨"cdn.example", "10.0.0.1", by decide⟩, trivial,
      trivial, trivial, trivial, List.forall_mem_nil _⟩
  have hfields : ∀ a ∈ writtenRun, WritesFields a := by
    simp only [writtenRun, List.forall_mem_cons]
    exact ⟨trivial, trivial, trivial, ⟨by decide, by decide⟩, trivial, fun _ => by decide, trivial,
      trivial, trivial, trivial, List.forall_mem_nil _⟩
  have henabled : IsEnabledAnswer s.db [addedSource] := by
    rw [IsEnabledAnswer, hsources]
    decide
  have hanswer : IsEntriesAnswer s.hostEntries writtenEntries := by
    rw [IsEntriesAnswer, hentries]
    decide
  exact readHosts_createNewHostsFile lawful_asciiGuava hs hscreens hfields
    ⟨rfl, fun c hc => Or.inl (by simpa using hc)⟩ someDate henabled (by decide) (by decide) hanswer

/-- A source whose label has a second line. -/
def twoLineSource : HostsSource :=
  newSource ("ads" ++ "\n" ++ ("10.0.0.1" ++ " " ++ ("bank.example" ++ " #"))) "https://example.org/hosts"
    true false false

/-- A backup brings this source. -/
def twoLineRun : List AppAction :=
  [.deleteSource 2, .deleteSource 3, .deleteSource 4, .importSource twoLineSource]

/-- The second line of the label is a mapping. -/
theorem not_readHosts_createNewHostsFile :
    ¬ ∀ g : Guava, g.Lawful → ∀ (labels : SourceLabels) (as : List AppAction) (s : AppState),
      ActionSystem.run (stepApp g) (installedApp labels) as = some s → (∀ a ∈ as, FromScreens g a) →
      ∀ (date : DateFields) (sources : List HostsSource), IsEnabledAnswer s.db sources →
      ∀ preferences : RedirectionPreferences, isValidIP g preferences.redirectionIpv4 = true →
        isValidIP g preferences.redirectionIpv6 = true →
      ∀ entries, IsEntriesAnswer s.hostEntries entries →
        readHosts (· = '\n') (createNewHostsFile date sources preferences entries)
          = [(localhostIpv4, localhostHostname), (localhostIpv6, localhostHostname)] ++
              entries.flatMap (hostMappings preferences) := by
  intro h
  obtain ⟨s, hs, hsources, hentries⟩ := exists_run_of_tablesAfter
    (by decide +kernel : tablesAfter twoLineRun
      = some ([englishUserSource, { twoLineSource with id := 5 }], []))
  have hscreens : ∀ a ∈ twoLineRun, FromScreens asciiGuava a := by
    simp only [twoLineRun, List.forall_mem_cons]
    exact ⟨trivial, trivial, trivial, trivial, List.forall_mem_nil _⟩
  have henabled : IsEnabledAnswer s.db [{ twoLineSource with id := 5 }] := by
    rw [IsEnabledAnswer, hsources]
    decide
  have hanswer : IsEntriesAnswer s.hostEntries [] := by
    rw [IsEntriesAnswer, hentries]
    decide
  have hread := h asciiGuava lawful_asciiGuava englishLabels twoLineRun s hs hscreens someDate _
    henabled defaultPreferences (by decide) (by decide) [] hanswer
  rw [readHosts_label ⟨rfl, fun c hc => Or.inl (by simpa using hc)⟩ someDate
    (by decide : OneLine "ads") (by decide : IsField "10.0.0.1") (by decide : IsField "bank.example")
    (by decide) rfl] at hread
  exact absurd hread (by decide)

end AdAway
