import Mathlib.Data.Int.Basic

/-!
# The entities of the application database

The rows of `hosts_sources`, `hosts_lists` and `host_entries`, as the classes of
`org.adaway.db.entity` declare them, and the date type their columns hold.

A Java `int` column is an `ℤ`. A nullable column is an `Option`. A `ZonedDateTime` is the instant
it denotes: `isBefore` and `isAfter` compare instants, and the one operation that looks at a zone,
going back a week from now, is given the rules of the zone of the device.

## Main definitions

* `ListType`, `SourceType` — the two enumerations
* `HostListItem`, `HostsSource`, `HostEntry` — the three entities
* `ZonedDateTime`, `fromTimestamp`, `toTimestamp` — instants and their column format
* `ZoneRules`, `ZonedDateTime.minusWeek` — the time zone of the device, and a week in it
* `getType`, `isValidUrl` — the type of a source, and the URLs the application accepts
-/

namespace AdAway

/-! ### Dates -/

/-- An instant, in nanoseconds since the epoch. -/
structure ZonedDateTime where
  /-- Nanoseconds since the epoch. -/
  nanos : ℤ
  deriving DecidableEq, Repr

/-- `ZonedDateTime.isAfter`. -/
def ZonedDateTime.isAfter (a b : ZonedDateTime) : Bool := b.nanos < a.nanos

/-- `ZonedDateTime.isBefore`. -/
def ZonedDateTime.isBefore (a b : ZonedDateTime) : Bool := a.nanos < b.nanos

/-- `ZonedDateTimeConverter.toTimestamp`: the seconds since the epoch, rounded down. -/
def toTimestamp (d : ZonedDateTime) : ℤ := d.nanos / 1000000000

/-- `ZonedDateTimeConverter.fromTimestamp`. -/
def fromTimestamp (seconds : ℤ) : ZonedDateTime := ⟨seconds * 1000000000⟩

/-- A date as it reads back from its column, where only the seconds are kept. -/
def ZonedDateTime.stored (d : ZonedDateTime) : ZonedDateTime := fromTimestamp (toTimestamp d)

@[simp] theorem toTimestamp_fromTimestamp (seconds : ℤ) :
    toTimestamp (fromTimestamp seconds) = seconds := by
  show seconds * 1000000000 / 1000000000 = seconds
  omega

@[simp] theorem toTimestamp_stored (d : ZonedDateTime) : toTimestamp d.stored = toTimestamp d :=
  toTimestamp_fromTimestamp (toTimestamp d)

/-- A date only gets earlier by being stored. -/
theorem isAfter_stored {a d : ZonedDateTime} (h : a.isAfter d = true) : a.isAfter d.stored = true := by
  have hd : d.stored.nanos = d.nanos / 1000000000 * 1000000000 := rfl
  rw [ZonedDateTime.isAfter, decide_eq_true_eq] at h ⊢
  omega

/-! ### The time zone of the device -/

/-- A transition of the rules of a zone. -/
structure ZoneOffsetTransition where
  /-- Nanoseconds since the epoch. -/
  instant : ℤ
  /-- The offset from UTC from then on, in nanoseconds. -/
  offsetAfter : ℤ
  deriving DecidableEq, Repr

/-- `ZoneRules`, as far as the transitions are known. -/
structure ZoneRules where
  /-- The offset before the first transition. -/
  initialOffset : ℤ
  transitions : List ZoneOffsetTransition
  ascending : transitions.Pairwise fun a b => a.instant < b.instant

/-- `ZoneRules.getOffset`, from an offset on. -/
def getOffset (instant : ℤ) : ℤ → List ZoneOffsetTransition → ℤ
  | offset, [] => offset
  | offset, t :: ts => if instant < t.instant then offset else getOffset instant t.offsetAfter ts

/-- The instant of `ZonedDateTime.ofLocal`, from an offset on. A local time in a gap moves on by the
length of the gap. One in an overlap gets the preferred offset if that is the later one of the two,
and the earlier one otherwise. -/
def ofLocal (localTime preferredOffset : ℤ) : ℤ → List ZoneOffsetTransition → ℤ
  | offset, [] => localTime - offset
  | offset, t :: ts =>
    let dateTimeBefore := t.instant + offset
    let dateTimeAfter := t.instant + t.offsetAfter
    if localTime < min dateTimeBefore dateTimeAfter then localTime - offset
    else if max dateTimeBefore dateTimeAfter ≤ localTime then
      ofLocal localTime preferredOffset t.offsetAfter ts
    else if dateTimeBefore < dateTimeAfter then
      localTime + (t.offsetAfter - offset) - t.offsetAfter
    else if preferredOffset = t.offsetAfter then localTime - t.offsetAfter
    else localTime - offset

/-- `minus(1, WEEKS)`: seven days on the local time line of the zone. -/
def ZonedDateTime.minusWeek (zone : ZoneRules) (d : ZonedDateTime) : ZonedDateTime :=
  let offset := getOffset d.nanos zone.initialOffset zone.transitions
  ⟨ofLocal (d.nanos + offset - 7 * 24 * 60 * 60 * 1000000000) offset zone.initialOffset
    zone.transitions⟩

/-- The zone of UTC. -/
def utc : ZoneRules := ⟨0, [], .nil⟩

/-- Where the offset never changes, a week is 7 times 24 hours. -/
theorem minusWeek_of_fixed {zone : ZoneRules} (h : zone.transitions = []) (d : ZonedDateTime) :
    d.minusWeek zone = ⟨d.nanos - 7 * 24 * 60 * 60 * 1000000000⟩ := by
  rw [ZonedDateTime.minusWeek, h]
  simp only [getOffset, ofLocal, ZonedDateTime.mk.injEq]
  omega

/-- A week before a moment in April, in a zone that changed to summer time on the last Sunday of
March, is 167 hours earlier. -/
example : (fromTimestamp 1712403000).minusWeek
    ⟨3600000000000, [⟨1711846800000000000, 7200000000000⟩], by simp⟩
      = fromTimestamp (1712403000 - 167 * 60 * 60) := by decide

/-! ### Enumerations -/

/-- The type of a host list item. -/
inductive ListType
  | blocked
  | allowed
  | redirected
  deriving DecidableEq, Repr

/-- The type of a hosts source. -/
inductive SourceType
  /-- An online source to download from its URL. -/
  | url
  /-- A file stored source to read through the content resolver. -/
  | file
  /-- An unhandled source type. -/
  | unsupported
  deriving DecidableEq, Repr

/-! ### Entities -/

/-- A row of `hosts_lists`: a blocked, allowed or redirected host of a source. The identifier `0`
stands for an item that is not stored yet. -/
structure HostListItem where
  id : ℤ
  host : String
  type : ListType
  enabled : Bool
  redirection : Option String
  sourceId : ℤ
  deriving DecidableEq, Repr

/-- The item without its identifier. Two tables that agree on these hold the same items. -/
def HostListItem.unnumbered (i : HostListItem) : HostListItem := { i with id := 0 }

/-- A row of `host_entries`: an entry of the built hosts file. -/
structure HostEntry where
  host : String
  type : ListType
  redirection : Option String
  deriving DecidableEq, Repr

/-- A row of `hosts_sources`. -/
structure HostsSource where
  id : ℤ
  label : String
  url : String
  enabled : Bool
  allowEnabled : Bool
  redirectEnabled : Bool
  localModificationDate : Option ZonedDateTime
  onlineModificationDate : Option ZonedDateTime
  entityTag : Option String
  size : ℕ
  deriving DecidableEq, Repr

/-- `HostsSource.USER_SOURCE_ID`: the source that holds the user's own items. -/
def userSourceId : ℤ := 1

/-- `String.startsWith`. -/
def startsWith (s p : String) : Bool := p.toList.isPrefixOf s.toList

/-- `HostsSource.getType`. -/
def HostsSource.getType (source : HostsSource) : SourceType :=
  if startsWith source.url "https://" then .url
  else if startsWith source.url "content://" then .file
  else .unsupported

/-- The characters `equalsIgnoreCase` does not tell apart, for a letter of `https` or a delimiter:
the only one outside ASCII is the long s, whose upper case is S. -/
def equalsIgnoreCase (c d : Char) : Bool := d.toLower = c || (c = 's' && d = 'ſ')

/-- `URLUtil.isHttpsUrl`. -/
def isHttpsUrl (url : String) : Bool :=
  "https://".toList.length ≤ url.toList.length &&
    ("https://".toList.zip url.toList).all fun cd => equalsIgnoreCase cd.1 cd.2

/-- `URLUtil.isContentUrl`. -/
def isContentUrl (url : String) : Bool := startsWith url "content:"

/-- `HostsSource.isValidUrl`. -/
def isValidUrl (url : String) : Bool := (url ≠ "https://" && isHttpsUrl url) || isContentUrl url

example : isValidUrl "HTTPS://example.org/hosts" = true ∧
    isValidUrl "http://example.org/hosts" = false := by
  decide

end AdAway
