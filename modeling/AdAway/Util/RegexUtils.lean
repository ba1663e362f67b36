import AdAway.Library.Glob
import Mathlib.Data.List.TakeWhile

/-!
# Regular expressions and name validation

`RegexUtils` validates names and addresses with two functions of the Guava library, which are the
parameter `Guava` here. The two regular expressions of the application that the loader relies on are
the wildcards `[*?]` and the line pattern `HOSTS_PARSER`; the matcher of the latter follows its
greedy left-to-right choices, and `hostsParser_eq_some_iff` compares it with the language of the
pattern.

## Main definitions

* `Guava` — `InternetDomainName.isValid` and `InetAddresses.forString`
* `isValidHostname`, `isValidWildcardHostname`, `isValidIP`
* `hostsParser` — the two groups `HOSTS_PARSER` captures in a line
* `HostsLine` — the language of `HOSTS_PARSER`
* `HostsFront` — a line up to its second token

## Main results

* `HostsFront.hostsParser_eq` — the groups, whatever stands behind the second token
* `hostsParser_eq_some_iff`, `hostsParser_isSome_iff` — the matcher and the language agree
-/

namespace AdAway

/-! ### Validation -/

/-- The functions of the Guava library. -/
structure Guava where
  /-- `InternetDomainName.isValid`. -/
  isValidDomainName : String → Bool
  /-- `InetAddresses.forString` returns. -/
  isInetAddress : String → Bool

/-- `RegexUtils.isValidHostname`. -/
def isValidHostname (g : Guava) (hostname : String) : Bool := g.isValidDomainName hostname

/-- `WILDCARD_PATTERN`: the pattern `[*?]`. -/
def isWildcard (c : Char) : Bool := c = '*' ∨ c = '?'

/-- `RegexUtils.isValidWildcardHostname`. -/
def isValidWildcardHostname (g : Guava) (hostname : String) : Bool :=
  let clearedHostname := String.ofList (hostname.toList.filter fun c => !isWildcard c)
  let replacedHostname := String.ofList (hostname.toList.map fun c => if isWildcard c then 'a' else c)
  isValidHostname g clearedHostname || isValidHostname g replacedHostname

/-- `RegexUtils.isValidIP`. -/
def isValidIP (g : Guava) (ip : String) : Bool := g.isInetAddress ip

/-- The wildcards of `isValidWildcardHostname`. -/
def wildcardToken (c : Char) : Glob.Token Char :=
  if c = '*' then .many else if c = '?' then .one else .lit c

/-! ### The pattern of a hosts line -/

/-- `\s`. -/
def isSpace (c : Char) : Bool := c ∈ [' ', '\t', '\n', '\x0b', '\x0c', '\r']

/-- `[^#\s]`. -/
def isToken (c : Char) : Bool := c ≠ '#' ∧ !isSpace c

/-- The characters `.` does not match. -/
def isLineTerminator (c : Char) : Bool := c ∈ ['\n', '\r', '\u0085', '\u2028', '\u2029']

/-- The groups of `^\s*([^#\s]+)\s+([^#\s]+).*$` in a line that matches as a whole. Each repetition
takes all it can, and giving back never helps: what follows it cannot start inside it. -/
def hostsParser (line : List Char) : Option (List Char × List Char) :=
  let afterSpace := line.dropWhile isSpace
  let ip := afterSpace.takeWhile isToken
  let afterIp := afterSpace.dropWhile isToken
  let afterGap := afterIp.dropWhile isSpace
  let hostname := afterGap.takeWhile isToken
  let rest := afterGap.dropWhile isToken
  if ip ≠ [] ∧ afterIp.takeWhile isSpace ≠ [] ∧ hostname ≠ [] ∧
      rest.all (fun c => !isLineTerminator c) = true then
    some (ip, hostname)
  else none

/-- The line is in the language of the pattern, with these groups and this text for `.*`. -/
structure HostsLine (line ip hostname rest : List Char) : Prop where
  line_eq : ∃ space gap, line = space ++ (ip ++ (gap ++ (hostname ++ rest))) ∧
    (∀ c ∈ space, isSpace c = true) ∧ gap ≠ [] ∧ ∀ c ∈ gap, isSpace c = true
  ip_ne : ip ≠ []
  ip_token : ∀ c ∈ ip, isToken c = true
  hostname_ne : hostname ≠ []
  hostname_token : ∀ c ∈ hostname, isToken c = true
  rest_line : ∀ c ∈ rest, isLineTerminator c = false

/-- A run of characters with a property ends where a character without it follows. -/
theorem span_append {p : Char → Bool} {xs ys : List Char} (hxs : ∀ c ∈ xs, p c = true)
    (hys : ∀ c, ys.head? = some c → p c = false) :
    (xs ++ ys).takeWhile p = xs ∧ (xs ++ ys).dropWhile p = ys := by
  rw [List.takeWhile_append_of_pos hxs, List.dropWhile_append_of_pos hxs]
  cases ys with
  | nil => simp
  | cons c ys =>
    have hc := hys c rfl
    simp [hc]

theorem isToken_eq_false_of_isSpace {c : Char} (h : isSpace c = true) : isToken c = false := by
  simp [isToken, h]

theorem isSpace_eq_false_of_isToken {c : Char} (h : isToken c = true) : isSpace c = false := by
  simp only [isToken, Bool.decide_and, Bool.and_eq_true, decide_eq_true_eq] at h
  simpa using h.2

theorem head_append {p : Char → Bool} {xs : List Char} (ys : List Char) (hne : xs ≠ [])
    (hxs : ∀ c ∈ xs, p c = false) : ∀ c, (xs ++ ys).head? = some c → p c = false := by
  intro c hc
  obtain ⟨x, xs, rfl⟩ := List.exists_cons_of_ne_nil hne
  obtain rfl : x = c := Option.some.inj hc
  exact hxs x List.mem_cons_self

/-- The front of a line, up to its second token. -/
structure HostsFront (front ip hostname : List Char) : Prop where
  front_eq : ∃ space gap, front = space ++ (ip ++ (gap ++ hostname)) ∧
    (∀ c ∈ space, isSpace c = true) ∧ gap ≠ [] ∧ ∀ c ∈ gap, isSpace c = true
  ip_ne : ip ≠ []
  ip_token : ∀ c ∈ ip, isToken c = true
  hostname_ne : hostname ≠ []
  hostname_token : ∀ c ∈ hostname, isToken c = true

/-- What stands behind the second token decides whether there is a match. -/
theorem HostsFront.hostsParser_eq {front ip hostname rest : List Char}
    (hfront : HostsFront front ip hostname)
    (hmax : ∀ c, rest.head? = some c → isToken c = false) :
    hostsParser (front ++ rest) =
      if rest.all (fun c => !isLineTerminator c) then some (ip, hostname) else none := by
  obtain ⟨⟨space, gap, rfl, hspace, hgapne, hgap⟩, hipne, hip, hhostne, hhost⟩ := hfront
  have h₁ := span_append hspace (head_append (gap ++ (hostname ++ rest)) hipne
    fun c hc => isSpace_eq_false_of_isToken (hip c hc))
  have h₂ := span_append hip (head_append (hostname ++ rest) hgapne
    fun c hc => isToken_eq_false_of_isSpace (hgap c hc))
  have h₃ := span_append hgap (head_append rest hhostne
    fun c hc => isSpace_eq_false_of_isToken (hhost c hc))
  have h₄ := span_append hhost hmax
  simp only [List.append_assoc, hostsParser, h₁.2, h₂.1, h₂.2, h₃.1, h₃.2, h₄.1, h₄.2]
  by_cases hrest : rest.all (fun c => !isLineTerminator c) = true
  · rw [if_pos ⟨hipne, hgapne, hhostne, hrest⟩, if_pos hrest]
  · rw [if_neg fun h => hrest h.2.2.2, if_neg hrest]

/-- **The matcher and the language agree**: it returns the groups in which the second one is as long
as possible. -/
theorem hostsParser_eq_some_iff {line ip hostname : List Char} :
    hostsParser line = some (ip, hostname) ↔
      ∃ rest, HostsLine line ip hostname rest ∧ ∀ c, rest.head? = some c → isToken c = false := by
  constructor
  · intro h
    rw [hostsParser] at h
    split at h
    next hcond =>
      obtain ⟨hip, hgap, hhost, hrest⟩ := hcond
      cases h
      refine ⟨(((line.dropWhile isSpace).dropWhile isToken).dropWhile isSpace).dropWhile isToken,
        ⟨⟨line.takeWhile isSpace, ((line.dropWhile isSpace).dropWhile isToken).takeWhile isSpace,
          ?_, ?_, hgap, ?_⟩, hip, ?_, hhost, ?_, ?_⟩, ?_⟩
      · simp only [List.takeWhile_append_dropWhile]
      · exact fun c hc => List.mem_takeWhile_imp hc
      · exact fun c hc => List.mem_takeWhile_imp hc
      · exact fun c hc => List.mem_takeWhile_imp hc
      · exact fun c hc => List.mem_takeWhile_imp hc
      · exact fun c hc => by simpa using List.all_eq_true.mp hrest c hc
      · intro c hc
        have hhead := List.head?_dropWhile_not isToken
          (((line.dropWhile isSpace).dropWhile isToken).dropWhile isSpace)
        rw [hc] at hhead
        simpa using hhead
    next => cases h
  · rintro ⟨rest, hline, hmax⟩
    obtain ⟨space, gap, rfl, hspace, hgapne, hgap⟩ := hline.line_eq
    have hfront : HostsFront (space ++ (ip ++ (gap ++ hostname))) ip hostname :=
      ⟨⟨space, gap, rfl, hspace, hgapne, hgap⟩, hline.ip_ne, hline.ip_token, hline.hostname_ne,
        hline.hostname_token⟩
    have hclean : rest.all (fun c => !isLineTerminator c) = true := by
      refine List.all_eq_true.mpr fun c hc => ?_
      rw [hline.rest_line c hc]
      rfl
    have hparse := hfront.hostsParser_eq hmax
    rw [if_pos hclean] at hparse
    simpa only [List.append_assoc] using hparse

/-- The matcher accepts the whole language. -/
theorem hostsParser_isSome_iff {line : List Char} :
    (hostsParser line).isSome ↔ ∃ ip hostname rest, HostsLine line ip hostname rest := by
  rw [Option.isSome_iff_exists]
  constructor
  · rintro ⟨⟨ip, hostname⟩, h⟩
    obtain ⟨rest, hline, -⟩ := hostsParser_eq_some_iff.mp h
    exact ⟨ip, hostname, rest, hline⟩
  · rintro ⟨ip, hostname, rest, hline⟩
    -- the second group may be longer than the given one, at the expense of `.*`
    refine ⟨(ip, hostname ++ rest.takeWhile isToken),
      hostsParser_eq_some_iff.mpr ⟨rest.dropWhile isToken, ?_, ?_⟩⟩
    · obtain ⟨space, gap, heq, hspace, hgapne, hgap⟩ := hline.line_eq
      refine ⟨⟨space, gap, ?_, hspace, hgapne, hgap⟩, hline.ip_ne, hline.ip_token,
        List.append_ne_nil_of_left_ne_nil hline.hostname_ne _, ?_, ?_⟩
      · rw [List.append_assoc, List.takeWhile_append_dropWhile, heq]
      · intro c hc
        rcases List.mem_append.mp hc with hc | hc
        · exact hline.hostname_token c hc
        · exact List.mem_takeWhile_imp hc
      · exact fun c hc => hline.rest_line c ((List.dropWhile_suffix isToken).subset hc)
    · intro c hc
      have hhead := List.head?_dropWhile_not isToken rest
      rw [hc] at hhead
      simpa using hhead

example : hostsParser "127.0.0.1 ad.domain.net ## some comments".toList
    = some ("127.0.0.1".toList, "ad.domain.net".toList) := by decide

end AdAway
