import AdAway.Db.Entity
import AdAway.Util.InternetDomainName
import AdAway.Util.RegexUtils

/-!
# Parsing one line of a hosts source

`HostListItemParser` turns a line of a source into a list item, or drops it. A source is read either
as an allow list, one host pattern a line, or as a hosts file, an address and a host a line.

`parseLine` is what one turn of the parser's loop does with a line that is not the end marker.

## Main definitions

* `parseHostListItem`, `parseAllowListItem` — the two formats
* `isRedirectionValid`, `isHostValid` — the filters on the item
* `parseLine` — all of it

## Main results

* `stored_of_parseLine` — a parsed item is enabled and belongs to the source
* `host_of_parseLine_blocked` — the host of a blocked item is a valid name, as the line spells it
-/

namespace AdAway

/-- `Constants.LOCALHOST_IPV4`. -/
def localhostIpv4 : String := "127.0.0.1"

/-- `Constants.LOCALHOST_IPV6`. -/
def localhostIpv6 : String := "::1"

/-- `Constants.BOGUS_IPV4`. -/
def bogusIpv4 : String := "0.0.0.0"

/-- `Constants.LOCALHOST_HOSTNAME`. -/
def localhostHostname : String := "localhost"

/-- `String.indexOf`, counting UTF-16 code units. -/
def indexOf (c : Char) : List Char → Option ℕ
  | [] => none
  | d :: line => if d = c then some 0 else (indexOf c line).map (utf16Size d + ·)

/-- `String.trim`: drops the characters up to the space at both ends. -/
def trim (line : List Char) : List Char :=
  ((line.dropWhile fun c => c ≤ ' ').reverse.dropWhile fun c => c ≤ ' ').reverse

/-- `HostListItemParser.parseHostListItem`. -/
def parseHostListItem (source : HostsSource) (line : String) : Option HostListItem :=
  match hostsParser line.toList with
  | none => none
  | some (ipGroup, hostnameGroup) =>
    let ip := String.ofList ipGroup
    let hostname := String.ofList hostnameGroup
    if hostname = localhostHostname then none
    else if ip = localhostIpv4 ∨ ip = bogusIpv4 ∨ ip = localhostIpv6 then
      some ⟨0, hostname, .blocked, true, none, source.id⟩
    else if source.redirectEnabled then
      some ⟨0, hostname, .redirected, true, some ip, source.id⟩
    else none

/-- `HostListItemParser.parseAllowListItem`. A comment is cut off only when it starts right after
the first character. -/
def parseAllowListItem (source : HostsSource) (line : String) : HostListItem :=
  let line := if indexOf '#' line.toList = some 1 then line.toList.take 1 else line.toList
  ⟨0, String.ofList (trim line), .allowed, true, none, source.id⟩

/-- `HostListItemParser.isRedirectionValid`. -/
def isRedirectionValid (g : Guava) (item : HostListItem) : Bool :=
  item.type ≠ .redirected || (item.redirection.any fun ip => isValidIP g ip)

/-- `HostListItemParser.isHostValid`. -/
def isHostValid (g : Guava) (item : HostListItem) : Bool :=
  if item.type = .blocked then
    !(item.host.toList.contains '?' || item.host.toList.contains '*') && isValidHostname g item.host
  else isValidWildcardHostname g item.host

/-- What `HostListItemParser.run` adds to the item queue for a line. -/
def parseLine (g : Guava) (source : HostsSource) (line : String) : Option HostListItem :=
  if line.toList.head?.all (· = '#') then none
  else
    let item := if source.allowEnabled then some (parseAllowListItem source line)
      else parseHostListItem source line
    item.filter fun item => isRedirectionValid g item && isHostValid g item

/-! ### What a parsed item is -/

theorem parseLine_eq_some {g : Guava} {source : HostsSource} {line : String} {item : HostListItem}
    (h : parseLine g source line = some item) :
    (if source.allowEnabled = true then item = parseAllowListItem source line
      else parseHostListItem source line = some item) ∧
    isRedirectionValid g item = true ∧ isHostValid g item = true := by
  rw [parseLine] at h
  split at h
  next => cases h
  next =>
    obtain ⟨hitem, hvalid⟩ := Option.filter_eq_some_iff.mp h
    rw [Bool.and_eq_true] at hvalid
    refine ⟨?_, hvalid⟩
    split
    next hallow =>
      rw [if_pos hallow] at hitem
      exact (Option.some.inj hitem).symm
    next hallow => rwa [if_neg hallow] at hitem

/-- The line redirects a host to this address. -/
def LineRedirects (source : HostsSource) (ip : List Char) : Prop :=
  source.redirectEnabled = true ∧ String.ofList ip ∉ [localhostIpv4, bogusIpv4, localhostIpv6]

theorem parseHostListItem_eq_some {source : HostsSource} {line : String} {item : HostListItem}
    (h : parseHostListItem source line = some item) :
    ∃ ip hostname, hostsParser line.toList = some (ip, hostname) ∧
      item.host = String.ofList hostname ∧ item.enabled = true ∧ item.sourceId = source.id ∧
      item.id = 0 ∧
      (item.type = .blocked ∧ item.redirection = none ∧
          String.ofList ip ∈ [localhostIpv4, bogusIpv4, localhostIpv6] ∨
        item.type = .redirected ∧ item.redirection = some (String.ofList ip) ∧
          LineRedirects source ip) := by
  rw [parseHostListItem] at h
  split at h
  next => cases h
  next ip hostname hgroups =>
    refine ⟨ip, hostname, hgroups, ?_⟩
    dsimp only at h
    obtain ⟨-, h⟩ := Option.ite_none_left_eq_some.mp h
    split at h
    next hip =>
      obtain rfl := Option.some.inj h
      exact ⟨rfl, rfl, rfl, rfl, Or.inl ⟨rfl, rfl, by simpa using hip⟩⟩
    next hip =>
      obtain ⟨hredirect, h⟩ := Option.ite_none_right_eq_some.mp h
      obtain rfl := Option.some.inj h
      exact ⟨rfl, rfl, rfl, rfl, Or.inr ⟨rfl, rfl, hredirect, by simpa using hip⟩⟩

/-- A parsed item is enabled, belongs to the source and is not stored yet. -/
theorem stored_of_parseLine {g : Guava} {source : HostsSource} {line : String} {item : HostListItem}
    (h : parseLine g source line = some item) :
    item.enabled = true ∧ item.sourceId = source.id ∧ item.id = 0 := by
  obtain ⟨hitem, -, -⟩ := parseLine_eq_some h
  split at hitem
  next =>
    rw [hitem]
    exact ⟨rfl, rfl, rfl⟩
  next =>
    obtain ⟨ip, hostname, -, -, hen, hsrc, hid, -⟩ := parseHostListItem_eq_some hitem
    exact ⟨hen, hsrc, hid⟩

/-- The host of a blocked item is a valid name, spelled as in the line. -/
theorem host_of_parseLine_blocked {g : Guava} {source : HostsSource} {line : String}
    {item : HostListItem} (h : parseLine g source line = some item) (htype : item.type = .blocked) :
    isValidHostname g item.host = true ∧
      ∃ ip hostname, hostsParser line.toList = some (ip, hostname) ∧
        item.host = String.ofList hostname := by
  obtain ⟨hitem, -, hvalid⟩ := parseLine_eq_some h
  rw [isHostValid, if_pos htype, Bool.and_eq_true] at hvalid
  refine ⟨hvalid.2, ?_⟩
  split at hitem
  next =>
    rw [hitem] at htype
    cases htype
  next =>
    obtain ⟨ip, hostname, hgroups, hhost, -⟩ := parseHostListItem_eq_some hitem
    exact ⟨ip, hostname, hgroups, hhost⟩

/-- A source without the optional formats. -/
def hostsFileSource : HostsSource where
  id := 2
  label := "hosts"
  url := "https://example.org/hosts"
  enabled := true
  allowEnabled := false
  redirectEnabled := false
  localModificationDate := none
  onlineModificationDate := none
  entityTag := none
  size := 0

/-- A library that finds every name and address valid. -/
def lenientGuava : Guava := ⟨fun _ => true, fun _ => true⟩

example : parseLine lenientGuava hostsFileSource "0.0.0.0 Ads.Example # ads"
    = some ⟨0, "Ads.Example", .blocked, true, none, 2⟩ := by decide

end AdAway
